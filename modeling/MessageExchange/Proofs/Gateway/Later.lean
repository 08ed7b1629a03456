import MessageExchange.Proofs.Gateway.Closing

/-! What later shutdown calls return. They never wait: each ends at once with the counters it finds,
wherever the first call stands. What they find is final exactly when the wire has answered and the calls
that waited have ended, and both hold once the first call has returned. While it drains, or after it was
given up, messages are still on their way, calls still wait, and the wire may not have been asked to let go
at all. -/

namespace MessageExchange.Gateway

open Correlation (Ticket Wait Correlator Desk)
open Outbound (Pipeline)
open Outbound.Course (numbered tally parcel lane)

namespace Course

variable {c c' : Course} {m : Move} {notes more : List Note} {t : Ticket}

/-- A shutdown call returns what it finds begun, or what it has come to itself. -/
theorem stopped_cases {r : Except Fault Stats} (hs : Stepped c m c' more)
    (h : (t, r) ∈ more.filterMap Note.stopped?) :
    c'.gateway = c.gateway ∧
      (c.gateway.stopped = true ∧ t = c.next ∧ r = .ok c.gateway.pipeline.stats ∨
        ∃ stats answer, c.ending = some ⟨t, stats, .closed answer⟩ ∧
          r = answer.map fun _ => stats) := by
  cases hs with
  | along hsteady =>
    rw [unstopped_outbound] at h
    exact absurd h List.not_mem_nil
  | correlate kind hlater htended hquiet =>
    rw [stops_seen, hquiet] at h
    exact absurd h List.not_mem_nil
  | find hbegun =>
    obtain ⟨rfl, rfl⟩ := Prod.mk.inj (List.mem_singleton.1 h)
    exact ⟨rfl, .inl ⟨hbegun, rfl, rfl⟩⟩
  | close hending =>
    rw [stops_seen, unstopped_close] at h
    exact absurd h List.not_mem_nil
  | @reply call stats answer hending =>
    obtain ⟨rfl, rfl⟩ := Prod.mk.inj (List.mem_singleton.1 h)
    exact ⟨rfl, .inr ⟨stats, answer, hending, rfl⟩⟩
  | _ => exact absurd h List.not_mem_nil

theorem Running.unstopped (h : Running c notes) (m : Move) :
    (c.step m).2.filterMap Note.stopped? = [] := by
  rw [List.eq_nil_iff_forall_not_mem]
  rintro ⟨t, r⟩ hr
  obtain ⟨-, ⟨hstopped, -⟩ | ⟨stats, answer, hready, -⟩⟩ := stopped_cases (stepped h.sound m) hr
  · exact absurd (h.running.symm.trans hstopped) (by simp)
  · exact absurd (h.unready.symm.trans hready) (by simp)

theorem Begun.at_rest (h : Begun c notes t) (hr : notes.filterMap Note.released? ≠ []) :
    c.gateway.pipeline.calls = [] ∧ Rested c notes ∧
      ∃ answer, notes.filterMap Note.released? = [answer] := by
  cases h.stage with
  | draining hcalls hturn hunready hunasked hunreleased => exact absurd hunreleased hr
  | releasing hcalls hready hrested hunreleased => exact absurd hunreleased hr
  | @closing stage answer hcalls hready hrested hanswered hreleased =>
    exact ⟨hcalls, hrested, answer, hreleased⟩
  | concluded hconcluded =>
    exact ⟨hconcluded.calls, hconcluded.rested, List.length_eq_one_iff.1 hconcluded.released⟩
  | forsaken hcalls hunready hunreleased => exact absurd hunreleased hr
  | abandoned hcalls hunready hrested hreleased =>
    exact ⟨hcalls, hrested, List.length_eq_one_iff.1 hreleased⟩

def FirstReturned (c : Course) (moves : List Move) : Prop :=
  ∃ us vs, moves = us ++ .shutdown :: vs ∧ .shutdown ∉ us ∧
    ((c.after us).step .shutdown).1.Returns (c.after us).next vs

/-- No call that waited for an acknowledgement when the first shutdown call came in waits still. -/
def Freed (c : Course) (moves : List Move) : Prop :=
  ∀ us vs, moves = us ++ .shutdown :: vs → .shutdown ∉ us →
    ∀ kind, ∀ w ∈ ((c.after us).gateway.correlator kind).desk.waits,
      ((c.after moves).gateway.correlator kind).desk.isPending w.ticket = false

/-- These counters are final, and so is all else that shutting down is for. -/
structure Final (c : Course) (moves : List Move) (stats : Stats) : Prop where
  /-- Every message that was accepted is accounted for. -/
  counted : stats.enqueued = ((sends (c.notes moves)).filterMap Outbound.Note.accepted?).length
  closed : stats.Closed ∧ stats.inFlight = 0
  kept : ∀ vs, (c.after (moves ++ vs)).gateway.pipeline.stats = stats
  /-- The wire was asked to let go of this gateway, it answered, and neither happens again. -/
  asked : ∀ vs, (c.notes (moves ++ vs)).filterMap Note.releasing? = [(c.gateway.wire, c.gateway.name)]
  released : ∀ vs, ((c.notes (moves ++ vs)).filterMap Note.released?).length = 1
  freed : c.Freed moves

section

variable {s : Settings} {wire : Nat} {wireId : String} {waiting : Span} {storage : Instant}
  {next : Ticket}

theorem first_unique {us vs us' vs' : List Move} (h : us ++ .shutdown :: vs = us' ++ .shutdown :: vs')
    (hus : .shutdown ∉ us) (hus' : .shutdown ∉ us') : us' = us := by
  rcases List.append_eq_append_iff.1 h with ⟨as, rfl, has⟩ | ⟨as, rfl, has⟩
  · cases as with
    | nil => simp
    | cons m rest =>
      obtain ⟨rfl, -⟩ := List.cons.inj has
      exact absurd (List.mem_append_right _ List.mem_cons_self) hus'
  · cases as with
    | nil => simp
    | cons m rest =>
      obtain ⟨rfl, -⟩ := List.cons.inj has
      exact absurd (List.mem_append_right _ List.mem_cons_self) hus

theorem begun_of_mem {moves : List Move} (hm : .shutdown ∈ moves) :
    let c := start s wire wireId waiting storage next
    ∃ t, Begun (c.after moves) (c.notes moves) t := by
  obtain ⟨us, vs, rfl, hus⟩ := List.eq_append_cons_of_mem hm
  exact ⟨_, begun_after hus vs⟩

/-- Once the wire has answered and no call is left that waited, all is final. -/
theorem final_of_freed {moves : List Move} (hm : .shutdown ∈ moves) :
    let c := start s wire wireId waiting storage next
    (c.notes moves).filterMap Note.released? ≠ [] → c.Freed moves →
      c.Final moves (c.after moves).gateway.pipeline.stats := by
  intro c hr hfreed
  obtain ⟨t, hbegun⟩ : ∃ t, Begun (c.after moves) (c.notes moves) t := begun_of_mem hm
  obtain ⟨hcalls, hrested, answer, hreleased⟩ := hbegun.at_rest hr
  have hclosed : (c.after moves).gateway.pipeline.stats.Closed := by
    have hsum := (hbegun.shutDown hrested hreleased).counted
    rw [Stats.Closed, hsum, hbegun.sound.dropped_eq, Nat.add_zero]
  refine ⟨?_, ⟨hclosed, Stats.inFlight_of_closed hclosed⟩, fun ws => ?_, fun ws => ?_, fun ws => ?_,
    hfreed⟩
  · rw [hbegun.sound.counted]
    rfl
  · rw [after_append]
    exact (hbegun.rest hrested hcalls ws).2
  · obtain ⟨before, later, hsplit, hfirst, hlast, -⟩ := (hbegun.rest hrested hcalls ws).1.asked
    obtain ⟨hwire, hname⟩ := bound_after hbegun.sound ws
    obtain ⟨hwire', hname'⟩ := bound_after (Sound.start s wire wireId waiting storage next) moves
    rw [notes_append, hsplit, List.filterMap_append, hfirst, List.filterMap_cons]
    simp only [Note.releasing?, hlast, List.nil_append]
    rw [hwire, hname, hwire', hname']
  · have honce := (hbegun.run ws).released_once
    rw [← notes_append] at honce
    refine le_antisymm honce ?_
    rw [notes_append, List.filterMap_append, hreleased]
    simp

/-- When the first call has returned, the wire has answered and no call is left that waited. -/
theorem FirstReturned.freed {moves : List Move}
    (h : (start s wire wireId waiting storage next).FirstReturned moves) :
    let c := start s wire wireId waiting storage next
    (c.notes moves).filterMap Note.released? ≠ [] ∧ c.Freed moves := by
  intro c
  obtain ⟨us, vs, rfl, hus, hreturns⟩ := h
  have hstart := Running.start s wire wireId waiting storage next
  have hconcluded := (hstart.run hus).begin_.concluded hreturns
  have hnotes : [] ++ c.notes us ++ ((c.after us).step .shutdown).2 ++
      ((c.after us).step .shutdown).1.notes vs = c.notes (us ++ .shutdown :: vs) := by
    rw [notes_append, List.append_assoc]
    rfl
  rw [hnotes] at hconcluded
  refine ⟨List.ne_nil_of_length_eq_add_one hconcluded.released, fun us' vs' heq hus' kind w hw => ?_⟩
  obtain rfl : us' = us := first_unique heq hus hus'
  have hsound : Sound (c.after us') ([] ++ c.notes us') := hstart.sound.run us'
  have hearly := (hsound.seated kind).early w hw
  rw [Bool.eq_false_iff, Ne, Desk.isPending_iff, after_append]
  rintro ⟨w', hw', hticket⟩
  have hlate := (hconcluded.fresh kind w' hw').trans_eq hticket
  exact absurd (hlate.trans hearly) (lt_irrefl _)

theorem returns_stats {moves : List Move} {m : Move} {t : Ticket} {stats : Stats}
    (h : (t, .ok stats) ∈
      (((start s wire wireId waiting storage next).after moves).step m).2.filterMap Note.stopped?) :
    let c := start s wire wireId waiting storage next
    .shutdown ∈ moves ∧ stats = (c.after (moves ++ [m])).gateway.pipeline.stats := by
  intro c
  have hstart := Running.start s wire wireId waiting storage next
  have hsound : Sound (c.after moves) ([] ++ c.notes moves) := hstart.sound.run moves
  obtain ⟨hsame, hcases⟩ := stopped_cases (stepped hsound m) h
  have hmem : .shutdown ∈ moves := by
    by_contra hm
    have hrunning : Running (c.after moves) ([] ++ c.notes moves) := hstart.run hm
    rw [hrunning.unstopped m] at h
    exact absurd h List.not_mem_nil
  refine ⟨hmem, ?_⟩
  rw [after_append]
  refine Eq.trans ?_ (congrArg (·.pipeline.stats) hsame).symm
  rcases hcases with ⟨-, -, hstats⟩ | ⟨found, answer, hready, hstats⟩
  · exact Except.ok.inj hstats
  · obtain ⟨t', hbegun⟩ : ∃ t, Begun (c.after moves) (c.notes moves) t := begun_of_mem hmem
    have hfound := congrArg Ending.stats (hbegun.ready hready).2.1
    cases answer with
    | error fault => exact absurd hstats (by simp [Except.map])
    | ok done => exact (Except.ok.inj hstats).trans hfound

end

/-- The counters that a shutdown call returns are final once the first call has returned; they are final
just when the wire has answered and no call is left that waited as the first one came in. -/
theorem returned_final_iff_answered (s : Settings) (wire : Nat) (wireId : String) (waiting : Span)
    (storage : Instant) (next : Ticket) {moves : List Move} {m : Move} {t : Ticket} {stats : Stats}
    (h : (t, .ok stats) ∈
      (((start s wire wireId waiting storage next).after moves).step m).2.filterMap Note.stopped?) :
    let c := start s wire wireId waiting storage next
    let now := moves ++ [m]
    (c.FirstReturned now → c.Final now stats) ∧
      (c.Final now stats ↔ (c.notes now).filterMap Note.released? ≠ [] ∧ c.Freed now) := by
  intro c now
  obtain ⟨hmem, hstats⟩ := returns_stats h
  have hfinal : (c.notes now).filterMap Note.released? ≠ [] → c.Freed now → c.Final now stats := by
    rw [hstats]
    exact final_of_freed (List.mem_append_left [m] hmem)
  refine ⟨fun hfirst => hfinal hfirst.freed.1 hfirst.freed.2, fun h => ⟨?_, h.freed⟩,
    fun h => hfinal h.1 h.2⟩
  have honce := h.released []
  rw [List.append_nil] at honce
  exact List.ne_nil_of_length_eq_add_one honce

/-- The second call comes once the first one has returned. -/
theorem returned_final_second :
    let c := start office 0 "wire" ⟨0⟩ ⟨0⟩ 0
    let moves := before ++ .shutdown :: meanwhile ++
      [.released (.ok ()), .close .submission, .close .relay, .reply]
    let now := moves ++ [.shutdown]
    (3, .ok ⟨1, 1, 0, 0⟩) ∈ ((c.after moves).step .shutdown).2.filterMap Note.stopped? ∧
      c.FirstReturned now ∧ c.Final now ⟨1, 1, 0, 0⟩ ∧
      (c.notes now).filterMap Note.released? ≠ [] ∧ c.Freed now := by
  intro c moves now
  have hreturns : (3, .ok ⟨1, 1, 0, 0⟩) ∈
      ((c.after moves).step .shutdown).2.filterMap Note.stopped? := by decide +kernel
  have hcall : (c.after before).next = 2 := by decide +kernel
  have hfirst : c.FirstReturned now := by
    refine ⟨before, meanwhile ++
      [.released (.ok ()), .close .submission, .close .relay, .reply, .shutdown], by simp [now, moves],
      by simp [before], .ok ⟨1, 1, 0, 0⟩, ?_⟩
    rw [hcall]
    decide +kernel
  obtain ⟨hthen, hiff⟩ := returned_final_iff_answered office 0 "wire" ⟨0⟩ ⟨0⟩ 0 hreturns
  exact ⟨hreturns, hfirst, hthen hfirst, hiff.1 (hthen hfirst)⟩

/-- The second call comes while the parcel is on its way. It returns at once: one message is in flight, the
wire has not been asked for anything, a call still waits, and the counters move on. -/
theorem returned_while_draining :
    let c := start office 0 "wire" ⟨0⟩ ⟨0⟩ 0
    let moves := before ++ [.shutdown, .attend]
    let after := moves ++ [.shutdown]
    (3, .ok ⟨1, 0, 0, 0⟩) ∈ ((c.after moves).step .shutdown).2.filterMap Note.stopped? ∧
      ¬ c.Final after ⟨1, 0, 0, 0⟩ ∧ (⟨1, 0, 0, 0⟩ : Stats).inFlight = 1 ∧
      (c.notes after).filterMap Note.releasing? = [] ∧
      (c.after after).gateway.submission.desk.isPending 0 = true ∧
      (c.after (after ++ [.finish .accepted])).gateway.pipeline.stats = ⟨1, 1, 0, 0⟩ := by
  refine ⟨by decide +kernel, fun hfinal => ?_, rfl, by decide +kernel, by decide +kernel,
    by decide +kernel⟩
  exact absurd hfinal.closed.2 (by decide)

end Course

end MessageExchange.Gateway
