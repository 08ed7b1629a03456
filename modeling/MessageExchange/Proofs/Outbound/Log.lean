import MessageExchange.Proofs.Outbound.Tally

/-! What a pipeline writes into the log. An event with a number tells of one message; such events are
written by exactly the moves that accept a message, take it up, end it or drop it, one by each, so the
log of a run can be read off its notes. -/

namespace MessageExchange

namespace Event

def trail? : Event → Option Trail
  | enqueued t | dispatched t _ _ | sent t | sendFailed t _ | sendPanicked t _ | dropped t => some t
  | _ => none

def field (e : Event) (key : String) : Option String := e.fields.lookup key

def stage (e : Event) : String × Option String := (e.name, e.field "state")

theorem field_seq (e : Event) : e.field "seq" = e.trail?.map fun t => toString t.seq := by
  cases e <;> rfl

theorem field_message {e : Event} {t : Trail} (h : e.trail? = some t) :
    e.field "msg_id" = some t.message := by
  cases e <;> cases h <;> rfl

theorem field_state_isSome (e : Event) : (e.field "state").isSome = e.trail?.isSome := by
  cases e <;> rfl

theorem trail?_isSome_of_name {e : Event} (h : e.name ∈ ["pipeline_enqueued", "pipeline_dispatched",
    "pipeline_send_ok", "pipeline_send_failed"]) : e.trail?.isSome = true := by
  cases e <;> first | rfl | simp [name] at h

end Event

instance : Add Stats where
  add s t := ⟨s.enqueued + t.enqueued, s.sent + t.sent, s.failed + t.failed, s.dropped + t.dropped⟩

theorem toString_injective {m n : Nat} (h : toString m = toString n) : m = n := by
  rw [Nat.toString_eq_ofList_toDigits, Nat.toString_eq_ofList_toDigits] at h
  have hdigits := congrArg (Nat.ofDigitChars 10 · 0) (String.ofList_injective h)
  simpa using hdigits

namespace Outbound

def thread (log : List Event) (n : Nat) : List Event :=
  log.filter fun e => e.field "seq" == some (toString n)

def told (log : List Event) : List Event := log.filter fun e => e.trail?.isSome

/-- The counters as the log has them. -/
def reckon (log : List Event) : Stats where
  enqueued := log.countP (·.name == "pipeline_enqueued")
  sent := log.countP (·.name == "pipeline_send_ok")
  failed := log.countP (·.name == "pipeline_send_failed")
  dropped := log.countP (·.stage == ("pipeline_shutdown", some "dropped"))

theorem field_seq_eq_iff {e : Event} {n : Nat} :
    (e.field "seq" == some (toString n)) = true ↔ ∃ t, e.trail? = some t ∧ t.seq = n := by
  rw [beq_iff_eq, Event.field_seq, Option.map_eq_some_iff]
  constructor
  · rintro ⟨t, ht, hn⟩
    exact ⟨t, ht, toString_injective hn⟩
  · rintro ⟨t, ht, rfl⟩
    exact ⟨t, ht, rfl⟩

theorem thread_append (log more : List Event) (n : Nat) :
    thread (log ++ more) n = thread log n ++ thread more n := List.filter_append log more

theorem told_append (log more : List Event) : told (log ++ more) = told log ++ told more :=
  List.filter_append log more

theorem thread_same {e : Event} {t : Trail} (h : e.trail? = some t) : thread [e] t.seq = [e] :=
  List.filter_eq_self.2 fun e' he' => by
    rw [List.mem_singleton.1 he']
    exact field_seq_eq_iff.2 ⟨t, h, rfl⟩

theorem thread_other {e : Event} {t : Trail} {n : Nat} (h : e.trail? = some t) (hn : t.seq ≠ n) :
    thread [e] n = [] :=
  List.filter_eq_nil_iff.2 fun e' he' hseq => by
    rw [List.mem_singleton.1 he'] at hseq
    obtain ⟨t', ht', rfl⟩ := field_seq_eq_iff.1 hseq
    rw [h] at ht'
    cases ht'
    exact hn rfl

theorem filter_told {q : Event → Bool} (h : ∀ e, q e = true → e.trail?.isSome = true)
    (log : List Event) : (told log).filter q = log.filter q := by
  unfold told
  rw [List.filter_filter]
  refine List.filter_congr fun e _ => ?_
  cases hq : q e with
  | false => rfl
  | true => rw [h e hq]; rfl

theorem thread_told (log : List Event) (n : Nat) : thread (told log) n = thread log n := by
  refine filter_told (fun e he => ?_) log
  obtain ⟨t, ht, -⟩ := field_seq_eq_iff.1 he
  rw [ht]
  rfl

theorem reckon_told (log : List Event) : reckon (told log) = reckon log := by
  have hname : ∀ name ∈ ["pipeline_enqueued", "pipeline_dispatched", "pipeline_send_ok",
      "pipeline_send_failed"], (told log).countP (·.name == name) = log.countP (·.name == name) := by
    intro name hname
    rw [List.countP_eq_length_filter, List.countP_eq_length_filter, filter_told]
    intro e he
    rw [beq_iff_eq] at he
    exact Event.trail?_isSome_of_name (he ▸ hname)
  have hstage : (told log).countP (·.stage == ("pipeline_shutdown", some "dropped")) =
      log.countP (·.stage == ("pipeline_shutdown", some "dropped")) := by
    rw [List.countP_eq_length_filter, List.countP_eq_length_filter, filter_told]
    intro e he
    rw [beq_iff_eq] at he
    rw [← e.field_state_isSome, (Prod.mk.inj he).2]
    rfl
  unfold reckon
  rw [hname _ (by simp), hname _ (by simp), hname _ (by simp), hstage]

namespace Pipeline

variable {p p' : Pipeline}

def entries (p : Pipeline) : Note → List Event
  | .accepted m _ => [.enqueued ⟨p.wire, p.next, m.id⟩]
  | .invoked i => [.dispatched (p.trail i) i.route.text i.route.role]
  | .finished i o => (p.account i o).2
  | .dropped i => [.dropped (p.trail i)]
  | .refused _ | .ended _ _ => []

end Pipeline

namespace Course

variable {c c' : Course} {m : Move} {notes : List Note}

def said (c : Course) : Move → List Event
  | .enqueue m r => (c.pipeline.enqueue m r).2.2
  | .work =>
    match c.pipeline.work with
    | none => []
    | some (_, events) => events
  | .finish o =>
    match c.pipeline.worker with
    | .sending i => (c.pipeline.account i o).2
    | _ => []
  | .attend =>
    match c.pipeline.attend c.waiting with
    | none => []
    | some (_, events, _) => events
  | .expire => (c.pipeline.expire c.waiting).2
  | .shutdown _ | .cancel _ | .letGo | .pass _ => []

def log (c : Course) : List Move → List Event
  | [] => []
  | m :: rest => c.said m ++ (c.step m).1.log rest

def story (c : Course) : List Move → List Event
  | [] => []
  | m :: rest => (c.step m).2.flatMap c.pipeline.entries ++ (c.step m).1.story rest

theorem log_append (c : Course) (us vs : List Move) :
    c.log (us ++ vs) = c.log us ++ (c.after us).log vs := by
  induction us generalizing c with
  | nil => rfl
  | cons m rest ih =>
    rw [List.cons_append, log, ih, log, List.append_assoc]
    rfl

theorem told_attend {p : Pipeline} {now : Span} {events : List Event}
    {ended : Option (Correlation.Ticket × Stats)} (h : c.pipeline.attend now = some (p, events, ended)) :
    told events = [] := by
  unfold Pipeline.attend at h
  split at h
  next => cases h
  next call rest hcalls =>
    dsimp only at h
    split at h
    · split_ifs at h <;> cases h <;> rfl
    · split_ifs at h
      cases h
      rfl

theorem told_expire (p : Pipeline) (now : Span) : told (p.expire now).2 = [] := by
  unfold Pipeline.expire
  split
  · split_ifs <;> rfl
  · rfl

theorem told_work {p : Pipeline} {events : List Event} (h : c.pipeline.work = some (p, events)) :
    told events = (c.pipeline.taken p).flatMap c.pipeline.entries := by
  rcases Pipeline.work_cases h with ⟨i, rest, hidle, hq, hfree, rfl, rfl⟩ |
    ⟨i, rest, hidle, hq, htold, rfl, rfl⟩ | ⟨i, rest, hdropping, hq, rfl, rfl⟩ | ⟨hq, hwhy, rfl, rfl⟩
  · rfl
  · simp [Pipeline.taken, told]
  · simp [Pipeline.taken, hdropping, hq, told, Pipeline.entries, Event.trail?]
  · simp [Pipeline.taken, hq, told, Event.trail?]

/-- What a move tells of messages is what it does to them. -/
theorem told_said (h : c.pipeline.Orderly) (m : Move) :
    told (c.said m) = (c.step m).2.flatMap c.pipeline.entries := by
  cases m with
  | enqueue m r =>
    simp only [said, step, Pipeline.enqueue]
    cases m.head with
    | error fault => rfl
    | ok head =>
      cases ha : c.pipeline.accepting with
      | false => rfl
      | true =>
        rw [h.open_of_accepting ha]
        rfl
  | work =>
    cases hw : c.pipeline.work with
    | none =>
      simp only [said, step, hw]
      rfl
    | some next =>
      simp only [said, step, hw]
      exact told_work hw
  | finish o =>
    cases hw : c.pipeline.worker with
    | sending i =>
      simp only [said, step, hw]
      cases o <;> rfl
    | _ =>
      simp only [said, step, hw]
      rfl
  | attend =>
    cases ha : c.pipeline.attend c.waiting with
    | none =>
      simp only [said, step, ha]
      rfl
    | some turn =>
      obtain ⟨p, events, ended⟩ := turn
      simp only [said, step, ha]
      rw [told_attend ha]
      cases ended <;> rfl
  | expire => exact told_expire c.pipeline c.waiting
  | cancel t =>
    simp only [said, step]
    split_ifs <;> rfl
  | shutdown drain => rfl
  | letGo => rfl
  | pass span => rfl

theorem told_log (h : c.pipeline.Orderly) (moves : List Move) : told (c.log moves) = c.story moves := by
  induction moves generalizing c with
  | nil => rfl
  | cons m rest ih => rw [log, told_append, told_said h m, ih (orderly_step h m), story]

theorem reckon_append (log more : List Event) : reckon (log ++ more) = reckon log + reckon more := by
  simp only [reckon, List.countP_append]
  rfl

theorem tally_append (notes more : List Note) : tally (notes ++ more) = tally notes + tally more := by
  simp only [tally, List.filterMap_append, List.length_append, List.countP_append]
  rfl

theorem reckon_entries (p : Pipeline) (notes : List Note) :
    reckon (notes.flatMap p.entries) = tally notes := by
  induction notes with
  | nil => rfl
  | cons note rest ih =>
    have hone : reckon (p.entries note) = tally [note] := by
      cases note with
      | finished i o => cases o <;> rfl
      | _ => rfl
    rw [List.flatMap_cons, reckon_append, hone, ih, ← tally_append, List.singleton_append]

theorem reckon_story (c : Course) (moves : List Move) :
    reckon (c.story moves) = tally (c.notes moves) := by
  induction moves generalizing c with
  | nil => rfl
  | cons m rest ih => rw [Course.story, reckon_append, reckon_entries, ih, ← tally_append, Course.notes]

end Course

end Outbound

end MessageExchange
