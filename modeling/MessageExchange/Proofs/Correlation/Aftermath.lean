import MessageExchange.Proofs.Correlation.Sweeping

/-! What a shut down correlator still does. Its desk has been emptied and its periodic sweep has ended, and
that is all. Calls may begin to wait again, and one without a timeout waits until something is delivered.
Notifications are parked again, and nothing but a call or a sweep by hand takes them away. -/

namespace MessageExchange.Correlation

namespace Session

variable {s : Session} {w : Wait String}

def elapsed : List Act → Nat
  | [] => 0
  | .advance span :: rest => span.nanos + elapsed rest
  | _ :: rest => elapsed rest

/-- The act does not end the call `t` on `key`, but for its deadline: it neither delivers what the call waits
for, nor gives it up, nor shuts the correlator down. -/
def Act.Spares (kind : Kind) (key : String) (t : Ticket) : Act → Prop
  | deliver draft => draft.kind = kind → draft.about ≠ key
  | cancel t' => t' ≠ t
  | shutdown => False
  | _ => True

/-- The act leaves what is parked under the key where it is, unless the periodic sweep takes it away. -/
def Act.Keeps (kind : Kind) (key : String) : Act → Prop
  | deliver draft => draft.kind = kind → draft.about ≠ key
  | await id _ => id ≠ key
  | sweep | shutdown => False
  | _ => True

theorem answers_timeOutAll (c : Correlator) (due : List (Wait String)) :
    (timeOutAll c due).2.filterMap Effect.answer? =
      due.map fun w => (w.ticket, .error (.noAnswer w.key w.timeout)) := by
  induction due generalizing c with
  | nil => rfl
  | cons w rest ih =>
    rw [timeOutAll, List.filterMap_append, ih, List.map_cons]
    rfl

theorem waits_step_subset (h : s.correlator.desk.Seated s.next) (a : Act)
    (hw : w ∈ (s.step a).1.correlator.desk.waits) :
    w ∈ s.correlator.desk.waits ∨ w.ticket = s.next := by
  cases a with
  | deliver draft => exact .inl (Correlator.mem_waits_of_deliver h .caller _ _ hw)
  | listen listener =>
    simp only [step, Correlator.listen] at hw
    cases hl : s.correlator.listener <;> rw [hl] at hw <;> exact .inl hw
  | await id timeout =>
    simp only [step, Correlator.await, Desk.waits_wait, List.mem_append] at hw
    refine hw.imp_right fun hnew => ?_
    split_ifs at hnew
    · exact absurd hnew List.not_mem_nil
    · rw [List.mem_singleton.1 hnew]
  | sweep => exact .inl hw
  | shutdown => exact absurd hw List.not_mem_nil
  | cancel t =>
    simp only [step] at hw
    split_ifs at hw
    · exact .inl (List.mem_of_mem_filter hw)
    · exact .inl hw
  | advance span =>
    simp only [step, desk_timeOutAll, Run.waits_timeOutAll] at hw
    exact .inl (List.mem_of_mem_filter hw)
  | age span =>
    have hdesk := (Correlator.tick_frame s.correlator (s.storage.add span)).1
    simp only [step] at hw
    rcases hdesk with hd | hd <;> rw [hd] at hw <;> exact .inl hw

theorem next_le_step (s : Session) (a : Act) : s.next ≤ (s.step a).1.next := by
  cases a with
  | listen listener =>
    simp only [step, Correlator.listen]
    cases s.correlator.listener <;> exact le_rfl
  | cancel t =>
    simp only [step]
    split_ifs <;> exact le_rfl
  | await id timeout => exact Nat.le_succ _
  | shutdown => exact Nat.le_succ _
  | _ => exact le_rfl

theorem ended_after (h : s.correlator.desk.Seated s.next) {t : Ticket} (ht : t < s.next)
    (hend : s.correlator.desk.isPending t = false) (acts : List Act) :
    (s.after acts).correlator.desk.isPending t = false := by
  induction acts generalizing s with
  | nil => exact hend
  | cons a rest ih =>
    refine ih (seated_step h a) (ht.trans_le (next_le_step s a)) ?_
    rw [← Bool.not_eq_true, Desk.isPending_iff] at hend ⊢
    rintro ⟨w, hw, rfl⟩
    rcases waits_step_subset h a hw with hold | hnew
    · exact hend ⟨w, hold, rfl⟩
    · exact ht.ne hnew

theorem waiting_step (s : Session) (a : Act) :
    (s.step a).1.waiting.nanos = s.waiting.nanos + elapsed [a] := by
  cases a with
  | listen listener =>
    simp only [step, Correlator.listen]
    cases s.correlator.listener <;> rfl
  | cancel t =>
    simp only [step]
    split_ifs <;> rfl
  | _ => rfl

theorem elapsed_cons (a : Act) (rest : List Act) : elapsed (a :: rest) = elapsed [a] + elapsed rest := by
  cases a with
  | advance span => rfl
  | _ => exact (Nat.zero_add _).symm

theorem waits_step_of_spared (h : s.correlator.desk.Seated s.next) {a : Act}
    (hw : w ∈ s.correlator.desk.waits) (ha : a.Spares s.correlator.kind w.key w.ticket)
    (hlive : w.timeout.nanos = 0 ∨
      (s.step a).1.waiting.nanos < w.since.nanos + w.timeout.nanos) :
    w ∈ (s.step a).1.correlator.desk.waits := by
  cases a with
  | deliver draft => exact Correlator.mem_waits_deliver h .caller s.storage hw ha
  | listen listener =>
    simp only [step, Correlator.listen]
    cases s.correlator.listener <;> exact hw
  | await id timeout =>
    simp only [step, Correlator.await, Desk.waits_wait]
    exact List.mem_append_left _ hw
  | sweep => exact hw
  | shutdown => exact ha.elim
  | cancel t =>
    simp only [step]
    split_ifs
    · refine List.mem_filter.2 ⟨hw, ?_⟩
      simpa using Ne.symm ha
    · exact hw
  | advance span =>
    simp only [step, desk_timeOutAll, Run.waits_timeOutAll]
    refine List.mem_filter.2 ⟨hw, ?_⟩
    rw [Bool.not_eq_true', ← Bool.not_eq_true, List.contains_iff_mem, List.mem_map]
    rintro ⟨w', hw', ht⟩
    obtain ⟨hmem, hbound, hdue⟩ := Desk.mem_due.1 hw'
    rw [h.eq_of_ticket hmem hw ht] at hbound hdue
    rcases hlive with hnone | hlt
    · exact hbound hnone
    · exact absurd hlt (not_lt.2 hdue)
  | age span =>
    have hdesk := (Correlator.tick_frame s.correlator (s.storage.add span)).1
    simp only [step]
    rcases hdesk with hd | hd <;> rw [hd] <;> exact hw

theorem timesOut_step {a : Act} (hw : w ∈ s.correlator.desk.waits) (hbound : w.timeout.nanos ≠ 0)
    (hearly : s.waiting.nanos < w.since.nanos + w.timeout.nanos)
    (hlate : w.since.nanos + w.timeout.nanos ≤ (s.step a).1.waiting.nanos) :
    (s.step a).1.correlator.desk.isPending w.ticket = false ∧
      (w.ticket, .error (.noAnswer w.key w.timeout)) ∈ (s.step a).2.2.filterMap Effect.answer? := by
  cases a with
  | advance span =>
    have hdue : w ∈ s.correlator.desk.due ⟨s.waiting.nanos + span.nanos⟩ :=
      Desk.mem_due.2 ⟨hw, hbound, hlate⟩
    refine ⟨?_, ?_⟩
    · rw [← Bool.not_eq_true, Desk.isPending_iff]
      rintro ⟨w', hw', ht⟩
      simp only [step, desk_timeOutAll, Run.waits_timeOutAll] at hw'
      have hleft := (List.mem_filter.1 hw').2
      rw [Bool.not_eq_true', ← Bool.not_eq_true, List.contains_iff_mem, ht] at hleft
      exact hleft (List.mem_map_of_mem hdue)
    · simp only [step, answers_timeOutAll]
      exact List.mem_map.2 ⟨w, hdue, rfl⟩
  | _ =>
    rw [waiting_step] at hlate
    simp only [elapsed] at hlate
    omega

/-- Spared to the end, a call with a timeout ends with nothing once its time is up. One without a timeout
does not end. -/
theorem spared_after (h : s.correlator.desk.Seated s.next) (hw : w ∈ s.correlator.desk.waits)
    (hlive : w.timeout.nanos = 0 ∨ s.waiting.nanos < w.since.nanos + w.timeout.nanos)
    {acts : List Act} (hacts : ∀ a ∈ acts, a.Spares s.correlator.kind w.key w.ticket) :
    if w.timeout.nanos = 0 ∨ s.waiting.nanos + elapsed acts < w.since.nanos + w.timeout.nanos then
      w ∈ (s.after acts).correlator.desk.waits
    else
      (s.after acts).correlator.desk.isPending w.ticket = false ∧
        (w.ticket, .error (.noAnswer w.key w.timeout)) ∈
          (s.effects acts).filterMap Effect.answer? := by
  induction acts generalizing s with
  | nil => exact (if_pos hlive).symm ▸ hw
  | cons a rest ih =>
    have hclock := waiting_step s a
    have hspares := hacts a List.mem_cons_self
    rw [elapsed_cons, ← Nat.add_assoc, ← hclock, effects, List.filterMap_append]
    by_cases hnext : w.timeout.nanos = 0 ∨
        (s.step a).1.waiting.nanos < w.since.nanos + w.timeout.nanos
    · have hkind : (s.step a).1.correlator.kind = s.correlator.kind := (step_frame s a).1
      have hrest := ih (seated_step h a) (waits_step_of_spared h hw hspares hnext) hnext
        fun b hb => hkind ▸ hacts b (List.mem_cons_of_mem _ hb)
      split_ifs at hrest ⊢
      · exact hrest
      · exact ⟨hrest.1, List.mem_append_right _ hrest.2⟩
    · obtain ⟨hbound, hlate⟩ := not_or.1 hnext
      obtain ⟨hend, hanswer⟩ :=
        timesOut_step hw hbound (hlive.resolve_left hbound) (not_lt.1 hlate)
      rw [if_neg (by omega)]
      refine ⟨ended_after (seated_step h a) ?_ hend rest, List.mem_append_left _ hanswer⟩
      exact (h.early w hw).trans_le (next_le_step s a)

theorem sweeper_step (hs : s.correlator.sweeper = none) (a : Act) :
    (s.step a).1.correlator.sweeper = none := by
  by_cases ha : a = .shutdown
  · rw [ha]
    rfl
  · rcases Act.timeless_or_age ha with htimeless | ⟨span, rfl⟩
    · rw [(step_timeless s htimeless).2.2, hs]
    · simp only [step, Correlator.tick, hs]

theorem parked_step_of_kept (h : s.correlator.desk.Seated s.next) (hs : s.correlator.sweeper = none)
    {a : Act} {key : String} (ha : a.Keeps s.correlator.kind key) :
    (s.step a).1.correlator.desk.parked key = s.correlator.desk.parked key := by
  cases a with
  | deliver draft =>
    simp only [step]
    by_cases hk : (draft.appear s.storage).kind = s.correlator.kind
    · rw [Correlator.parked_deliver h .caller s.storage hk, if_neg fun hc => ha hk hc.1.symm]
    · rw [Correlator.deliver_of_wrong_kind .caller s.storage hk]
  | listen listener =>
    simp only [step, Correlator.listen]
    cases s.correlator.listener <;> rfl
  | await id timeout =>
    simp only [step, Correlator.await, Desk.parked_wait]
    exact if_neg (Ne.symm ha)
  | sweep => exact ha.elim
  | shutdown => exact ha.elim
  | cancel t =>
    simp only [step]
    split_ifs <;> rfl
  | advance span => simp only [step, desk_timeOutAll, Run.parked_timeOutAll]
  | age span => simp only [step, Correlator.tick, hs]

theorem parked_after_of_kept (h : s.correlator.desk.Seated s.next)
    (hs : s.correlator.sweeper = none) {acts : List Act} {key : String}
    (hacts : ∀ a ∈ acts, a.Keeps s.correlator.kind key) :
    (s.after acts).correlator.desk.parked key = s.correlator.desk.parked key := by
  induction acts generalizing s with
  | nil => rfl
  | cons a rest ih =>
    have hkind : (s.step a).1.correlator.kind = s.correlator.kind := (step_frame s a).1
    have hrest := ih (seated_step h a) (sweeper_step hs a)
      fun b hb => hkind ▸ hacts b (List.mem_cons_of_mem _ hb)
    exact hrest.trans (parked_step_of_kept h hs (hacts a List.mem_cons_self))

theorem sweeper_after (hs : s.correlator.sweeper = none) (acts : List Act) :
    (s.after acts).correlator.sweeper = none := by
  induction acts generalizing s with
  | nil => exact hs
  | cons a rest ih => exact ih (sweeper_step hs a)

/-- A call that is left alone claims what is parked. Else it ends when its time is up, and not before. -/
theorem await_left_alone (h : s.correlator.desk.Seated s.next) (id : String) (timeout : Span)
    {later : List Act} (hlater : ∀ a ∈ later, a.Spares s.correlator.kind id s.next) :
    let started := (s.step (.await id timeout)).1
    let pending := (started.after later).correlator.desk.isPending s.next
    let answers := (s.effects (.await id timeout :: later)).filterMap Effect.answer?
    match s.correlator.desk.parked id with
    | some (n, _) => pending = false ∧ (s.next, .ok n) ∈ answers
    | none =>
      if timeout.nanos = 0 ∨ elapsed later < timeout.nanos then pending = true
      else pending = false ∧ (s.next, .error (.noAnswer id timeout)) ∈ answers := by
  intro started pending answers
  have hstarted : started.correlator.desk.Seated started.next := seated_step h _
  have hwaits : started.correlator.desk.waits = _ :=
    Desk.waits_wait s.correlator.desk s.next id timeout s.waiting
  have hsplit : answers = (s.step (.await id timeout)).2.2.filterMap Effect.answer? ++
      (started.effects later).filterMap Effect.answer? := List.filterMap_append
  cases hp : s.correlator.desk.parked id with
  | some p =>
    rw [hp, Option.isSome_some, if_pos rfl, List.append_nil] at hwaits
    have hfirst : (s.step (.await id timeout)).2.2.filterMap Effect.answer? = [(s.next, .ok p.1)] := by
      simp only [step, Correlator.await, Desk.claimed_wait, hp, Option.map_some]
      exact (Correlator.answers_claims p.1 [s.next]).1
    refine ⟨ended_after hstarted s.next.lt_succ_self ?_ later, ?_⟩
    · rw [← Bool.not_eq_true, Desk.isPending_iff, hwaits]
      rintro ⟨w, hw, ht⟩
      exact (h.early w hw).ne ht
    · rw [hsplit, hfirst]
      exact List.mem_append_left _ (List.mem_singleton_self _)
  | none =>
    rw [hp, Option.isSome_none, if_neg Bool.false_ne_true] at hwaits
    have hw : ⟨s.next, id, s.waiting, timeout⟩ ∈ started.correlator.desk.waits := by
      rw [hwaits]
      exact List.mem_append_right _ (List.mem_singleton_self _)
    have hlive : timeout.nanos = 0 ∨ started.waiting.nanos < s.waiting.nanos + timeout.nanos :=
      timeout.nanos.eq_zero_or_pos.imp_right (Nat.lt_add_of_pos_right ·)
    have hrun := spared_after hstarted hw hlive hlater
    have hclock : started.waiting = s.waiting := rfl
    simp only [hclock, Nat.add_lt_add_iff_left] at hrun
    simp only [hsplit]
    split_ifs at hrun ⊢
    · exact Desk.isPending_iff.2 ⟨_, hrun, rfl⟩
    · exact ⟨hrun.1, List.mem_append_right _ hrun.2⟩

/-- After a shutdown the correlator is open again, and nobody sweeps. A call claims what is parked; else,
left alone, it ends when its time is up, so with no timeout it waits for good. A notification that neither
a call nor the listener takes is parked for good, however old it gets. -/
theorem open_after_shutdown (s₀ : Session) (acts : List Act) :
    let s := (s₀.step .shutdown).1.after acts
    let c := s.correlator
    (∀ id timeout later, (∀ a ∈ later, a.Spares c.kind id s.next) →
        let pending := ((s.step (.await id timeout)).1.after later).correlator.desk.isPending s.next
        let answers := (s.effects (.await id timeout :: later)).filterMap Effect.answer?
        match c.desk.parked id with
        | some (n, _) => pending = false ∧ (s.next, .ok n) ∈ answers
        | none =>
          if timeout.nanos = 0 ∨ elapsed later < timeout.nanos then pending = true
          else pending = false ∧ (s.next, .error (.noAnswer id timeout)) ∈ answers) ∧
      ∀ draft later, draft.kind = c.kind → (∀ a ∈ later, a.Keeps c.kind draft.about) →
        ((s.step (.deliver draft)).1.after later).correlator.desk.parked draft.about =
          if c.desk.pendingOn draft.about = [] ∧ c.listener = none then
            some (draft.appear s.storage, s.storage)
          else c.desk.parked draft.about := by
  intro s c
  have hclosed : (s₀.step .shutdown).1.correlator.desk.Seated (s₀.step .shutdown).1.next :=
    Desk.Seated.empty _
  have h : c.desk.Seated s.next := (after_frame hclosed acts).1
  have hs : c.sweeper = none := sweeper_after rfl acts
  refine ⟨fun id timeout later hlater => await_left_alone h id timeout hlater,
    fun draft later hkind hlater => ?_⟩
  have hstep : (s.step (.deliver draft)).1.correlator.kind = c.kind := (step_frame s _).1
  have hkept := parked_after_of_kept (seated_step h (.deliver draft)) (sweeper_step hs _)
    fun a ha => hstep ▸ hlater a ha
  exact hkept.trans ((Correlator.parked_deliver h .caller s.storage hkind _).trans
    (if_congr (and_iff_right rfl) rfl rfl))

/-- An hour after a shutdown, a call and a notification that have come since are both still there. -/
theorem open_after_shutdown_an_hour :
    let draft : Notification.Draft := ⟨.submission, "receipt", "A", .receipt, "", .ago 0⟩
    let later : List Act := [.advance (.ofSecs 3600), .age (.ofSecs 3600)]
    let s := ((start (Correlator.start .submission 300 300 Instant.dawn)).step .shutdown).1
    ((s.step (.await "A" ⟨0⟩)).1.after later).correlator.desk.isPending 1 = true ∧
      ((s.step (.deliver draft)).1.after later).correlator.desk.parked "A" =
        some (draft.appear Instant.dawn, Instant.dawn) := by
  intro draft later s
  obtain ⟨hcall, hparked⟩ :=
    open_after_shutdown (start (Correlator.start .submission 300 300 Instant.dawn)) []
  refine ⟨hcall "A" ⟨0⟩ later ?_, hparked draft later rfl ?_⟩
  · simp [later, Act.Spares]
  · simp [later, Act.Keeps]

def Act.OfClock : Act → Prop
  | advance _ | age _ => True
  | _ => False

/-- No time that passes ends a call that waits since the shutdown, and none takes away a notification that
was delivered since. -/
theorem unreleased_after_shutdown :
    let draft : Notification.Draft := ⟨.submission, "receipt", "A", .receipt, "", .ago 0⟩
    let s := ((start (Correlator.start .submission 300 300 Instant.dawn)).step .shutdown).1
    ∀ later : List Act, (∀ a ∈ later, a.OfClock) →
      ((s.step (.await "A" ⟨0⟩)).1.after later).correlator.desk.isPending 1 = true ∧
        ((s.step (.deliver draft)).1.after later).correlator.desk.parked "A" =
          some (draft.appear Instant.dawn, Instant.dawn) := by
  intro draft s later hlater
  have h : s.correlator.desk.Seated s.next := Desk.Seated.empty _
  refine ⟨await_left_alone h "A" ⟨0⟩ fun a ha => ?_,
    (parked_after_of_kept (seated_step h (.deliver draft)) rfl fun a ha => ?_).trans rfl⟩
  · cases a with
    | advance span => trivial
    | age span => trivial
    | _ => exact (hlater _ ha).elim
  · cases a with
    | advance span => trivial
    | age span => trivial
    | _ => exact (hlater _ ha).elim

end Session

end MessageExchange.Correlation
