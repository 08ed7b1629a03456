import MessageExchange.Proofs.Outbound.Balance

/-! The intake of a pipeline. It is open until the first shutdown call begins, and shut for good from then
on, whatever becomes of that call. While it is open the worker goes on, however sends end, so a message
that is not refused at the gate is queued, and one that is refused leaves no trace. -/

namespace MessageExchange

theorem Message.head_cases (m : Message) :
    (m.isEmpty = true ∧ m.head = .error .noPayload) ∨ (m.isEmpty = false ∧ ∃ p, m.head = .ok p) := by
  obtain ⟨payloads⟩ := m
  cases payloads with
  | nil => exact .inl ⟨rfl, rfl⟩
  | cons p rest => exact .inr ⟨rfl, p, rfl⟩

namespace Outbound

/-- The move shuts the intake: a shutdown call begins, or the pipeline is let go of, after which nobody is
left to use it. -/
def Move.shutsIntake : Move → Bool
  | shutdown _ | letGo => true
  | _ => false

namespace Pipeline

variable {p : Pipeline}

/-- An enqueue is decided by the message and the gate; the worker is never in the way. -/
theorem Orderly.enqueue_eq (h : p.Orderly) (m : Message) (r : Route) :
    (p.enqueue m r).1 =
        (if m.isEmpty then .error .noPayload
        else if p.accepting then .ok () else .error (.rejected .pipelineClosed)) ∧
      (p.enqueue m r).2.1 =
        if m.isEmpty = false ∧ p.accepting = true then
          { p with
            next := p.next + 1, queue := p.queue ++ [⟨p.next, m, r⟩],
            stats := { p.stats with enqueued := p.stats.enqueued + 1 } }
        else p := by
  unfold Pipeline.enqueue
  obtain ⟨hempty, hhead⟩ | ⟨hfilled, head, hhead⟩ := m.head_cases
  · rw [hhead, hempty]
    exact ⟨rfl, rfl⟩
  · rw [hhead, hfilled]
    cases ha : p.accepting with
    | false => exact ⟨rfl, rfl⟩
    | true =>
      rw [h.open_of_accepting ha]
      exact ⟨rfl, rfl⟩

end Pipeline

namespace Course

variable {c c' : Course} {m : Move} {notes : List Note}

theorem accepting_stepped (hs : Stepped c m c' notes) (hm : m.shutsIntake = false) :
    c'.pipeline.accepting = c.pipeline.accepting := by
  cases hs with
  | finish hsending o => cases o <;> rfl
  | cancel hpending => rw [Pipeline.cancel_eq]
  | shutdown drain => cases hm
  | letGo => cases hm
  | _ => rfl

theorem accepting_step (h : c.pipeline.Orderly) (m : Move) :
    (c.step m).1.pipeline.accepting = (c.pipeline.accepting && !m.shutsIntake) := by
  cases hm : m.shutsIntake with
  | false => rw [accepting_stepped (stepped h m) hm, Bool.not_false, Bool.and_true]
  | true =>
    cases m with
    | shutdown drain => exact (Bool.and_false _).symm
    | letGo =>
      simp only [step, Pipeline.letGo_eq]
      exact (Bool.and_false _).symm
    | _ => cases hm

theorem accepting_after (h : c.pipeline.Orderly) (moves : List Move) :
    (c.after moves).pipeline.accepting = (c.pipeline.accepting && !moves.any Move.shutsIntake) := by
  induction moves generalizing c with
  | nil => exact (Bool.and_true _).symm
  | cons m rest ih =>
    have hrest := ih (orderly_step h m)
    rw [accepting_step h m, Bool.and_assoc, ← Bool.not_or, ← List.any_cons] at hrest
    exact hrest

/-- An enqueue is all or nothing. A message without payloads is refused as such at any time. Any other is
turned away exactly once a shutdown call has begun, and then for good; else it is put at the end of the
queue, under the next number. Whatever is refused leaves the pipeline as it is. The worker has not stopped
while the intake is open, so nobody is ever told that it has. -/
theorem enqueue_all_or_nothing (wire : String) (moves : List Move) (m : Message) (r : Route) :
    let c := start wire
    let p := (c.after moves).pipeline
    let e := p.enqueue m r
    e.1 =
        (if m.isEmpty then .error .noPayload
        else if moves.any Move.shutsIntake then .error (.rejected .pipelineClosed) else .ok ()) ∧
      ((∃ fault, e.1 = .error fault) → e.2.1 = p) ∧
      (e.1 = .ok () →
        e.2.1 = { p with
          next := p.next + 1, queue := p.queue ++ [⟨p.next, m, r⟩],
          stats := { p.stats with enqueued := p.stats.enqueued + 1 } } ∧
        p.next = (c.accepted moves).length) ∧
      (∀ us m' r' cause vs, moves = us ++ .enqueue m' r' :: vs →
        ((c.after us).pipeline.enqueue m' r').1 = .error (.rejected cause) →
        m.isEmpty = false → e.1 = .error (.rejected .pipelineClosed)) ∧
      (p.accepting = true → p.worker ≠ .dropping ∧ p.worker ≠ .stopped) ∧
      e.1 ≠ .error (.rejected .workerGone) := by
  intro c p e
  have ho : c.pipeline.Orderly := Pipeline.Orderly.start wire
  have horderly : p.Orderly := orderly_after ho moves
  have hgate : ∀ us, (c.after us).pipeline.accepting = !us.any Move.shutsIntake := accepting_after ho
  obtain ⟨hanswer, hleft⟩ := horderly.enqueue_eq m r
  have hresult : e.1 = if m.isEmpty then .error .noPayload
      else if moves.any Move.shutsIntake then .error (.rejected .pipelineClosed) else .ok () := by
    refine hanswer.trans ?_
    rw [hgate moves]
    cases m.isEmpty <;> cases moves.any Move.shutsIntake <;> rfl
  refine ⟨hresult, ?_, fun haccepted => ⟨?_, (balanced_after wire moves).next⟩, ?_, fun hopen => ?_, ?_⟩
  · rintro ⟨fault, hfault⟩
    refine hleft.trans (if_neg ?_)
    rintro ⟨hfilled, hopen⟩
    rw [hanswer, hfilled, hopen] at hfault
    cases hfault
  · refine hleft.trans (if_pos ?_)
    rw [hanswer] at haccepted
    split_ifs at haccepted with hempty hopen
    exact ⟨Bool.eq_false_iff.2 hempty, hopen⟩
  · rintro us m' r' cause vs rfl hrefused hfilled
    rw [((orderly_after ho us).enqueue_eq m' r').1, hgate us] at hrefused
    have hshut : us.any Move.shutsIntake = true := by
      by_contra hopen
      rw [Bool.eq_false_iff.2 hopen] at hrefused
      cases hempty : m'.isEmpty <;> rw [hempty] at hrefused <;> cases hrefused
    rw [hresult, hfilled, List.any_append, hshut]
    rfl
  · have hclosed := horderly.open_of_accepting hopen
    simpa [Pipeline.closed] using hclosed
  · rw [hresult]
    split_ifs <;> simp

end Course

end Outbound

end MessageExchange
