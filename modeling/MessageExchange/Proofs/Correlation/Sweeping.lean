import MessageExchange.Proofs.Correlation.Beats
import MessageExchange.Proofs.Correlation.Listening
import MessageExchange.Proofs.Correlation.Runs

/-! How long a notification stays parked. While the periodic sweep runs, what is parked has come in since
the last sweep or was fresh then, and the last sweep is less than a period ago. So nothing outlives its time
by a whole period, however far the clock jumps, and nothing goes before its time. The periodic sweep is
nothing but a sweep by hand on the beat: whenever the clock gets past the end of a period. -/

namespace MessageExchange

namespace Instant

def later (a b : Instant) : Instant := ⟨max a.nanos b.nanos⟩

/-- Dates reach from the year 262143 before the common era's year zero to the year 262142. -/
def Dated (t : Instant) : Prop :=
  -8334601228800 * 1000000000 ≤ t.nanos ∧ t.nanos < 8210266876800 * 1000000000

instance (t : Instant) : Decidable t.Dated := inferInstanceAs (Decidable (_ ∧ _))

theorem Dated.since_le {a b : Instant} (ha : a.Dated) (hb : b.Dated) :
    b.since a ≤ Notification.longestSpan.nanos := by
  obtain ⟨ha, -⟩ := ha
  obtain ⟨-, hb⟩ := hb
  simp only [since, Notification.longestSpan, Span.ofMillis]
  omega

end Instant

def Effect.ofSweeper : Effect → Bool
  | logged .sweeper _ => true
  | _ => false

namespace Correlation

namespace Desk

theorem isStale_eq_false_iff {ttl : Span} {now since : Instant} {n : Notification} :
    isStale (retention ttl) now since n = false ↔
      n.isOlderThan now ttl = false ∧ now.since since ≤ ttl.nanos := by
  rw [isStale, Bool.or_eq_false_iff, decide_eq_false_iff_not, not_lt]
  rfl

theorem isStale_of_young {ttl : Span} {now since : Instant} {n : Notification}
    (hs : now.since since ≤ ttl.nanos) (hc : now.since n.created ≤ ttl.nanos) :
    isStale (retention ttl) now since n = false := by
  refine isStale_eq_false_iff.2 ⟨?_, hs⟩
  simp only [Notification.isOlderThan, Bool.and_eq_false_imp, decide_eq_true_eq, decide_eq_false_iff_not]
  exact fun _ => not_lt.2 hc

theorem young_of_fresh {ttl : Span} {now since : Instant} {n : Notification}
    (h : isStale (retention ttl) now since n = false)
    (hd : now.since n.created ≤ Notification.longestSpan.nanos) :
    now.since since ≤ ttl.nanos ∧ now.since n.created ≤ ttl.nanos := by
  obtain ⟨hage, hs⟩ := isStale_eq_false_iff.1 h
  refine ⟨hs, ?_⟩
  simp only [Notification.isOlderThan, Bool.and_eq_false_imp, decide_eq_true_eq,
    decide_eq_false_iff_not] at hage
  by_cases hl : ttl.nanos ≤ Notification.longestSpan.nanos
  · exact not_lt.1 (hage hl)
  · omega

end Desk

namespace Correlator

def withSweeper (c : Correlator) (sweeper : Option Sweeper) : Correlator := { c with sweeper }

theorem deliver_withSweeper (c : Correlator) (w : Option Sweeper) (site : Site) (n : Notification)
    (now : Instant) :
    (c.withSweeper w).deliver site n now =
      ((c.deliver site n now).1.withSweeper w, (c.deliver site n now).2) := by
  obtain ⟨kind, ttl, desk, listener, sweeper⟩ := c
  simp only [withSweeper, deliver]
  by_cases hk : n.kind = kind
  · simp only [hk, ne_eq, not_true, if_false]
    obtain ⟨d, completion⟩ := desk.complete n.about
    cases completion with
    | woke ts => rfl
    | back late => cases listener <;> rfl
  · simp only [ne_eq, hk, not_false_iff, if_true]

theorem ttl_deliver (c : Correlator) (site : Site) (n : Notification) (now : Instant) :
    (c.deliver site n now).1.ttl = c.ttl := by
  unfold deliver
  split_ifs
  · rfl
  · split
    · rfl
    · cases c.listener <;> rfl

theorem claims_not_ofSweeper {n : Notification} {ts : List Ticket} {e : Effect} (he : e ∈ claims n ts) :
    e.ofSweeper = false := by
  obtain ⟨t, -, ht⟩ := List.mem_flatMap.1 he
  simp only [List.mem_cons, List.not_mem_nil, or_false] at ht
  rcases ht with rfl | rfl <;> rfl

theorem deliver_not_ofSweeper {c : Correlator} {m : Ticket} (h : c.desk.Seated m) {n : Notification}
    {now : Instant} {e : Effect} (he : e ∈ (c.deliver .caller n now).2.effects) :
    e.ofSweeper = false := by
  have hnotice : ∀ e ∈ c.notice .caller n.about, e.ofSweeper = false := by
    unfold notice
    split_ifs <;> simp [Effect.ofSweeper]
  by_cases hk : n.kind = c.kind
  · by_cases hp : c.desk.pendingOn n.about = []
    · cases hl : c.listener with
      | some listener =>
        rw [deliver_of_listener h .caller now hk hp hl] at he
        simp only [Handover.effects, List.append_nil, List.mem_append, List.mem_cons,
          List.not_mem_nil, or_false] at he
        rcases he with he | rfl | rfl
        · exact hnotice e he
        · rfl
        · rfl
      | none =>
        rw [deliver_of_nobody h .caller now hk hp hl] at he
        simp only [Handover.effects, List.append_nil, List.mem_append, List.mem_singleton] at he
        rcases he with he | rfl
        · exact hnotice e he
        · rfl
    · rw [deliver_of_pending h .caller now hk hp] at he
      rcases List.mem_cons.1 he with rfl | he
      · rfl
      · exact claims_not_ofSweeper he
  · rw [deliver_of_wrong_kind .caller now hk] at he
    exact absurd he List.not_mem_nil

theorem tick_eq {c : Correlator} {sweeper : Sweeper} (hc : c.sweeper = some sweeper) (now : Instant) :
    (c.tick now).1 =
      if sweeper.isDue now then (c.sweep now).1.withSweeper (some (sweeper.next now)) else c := by
  unfold tick
  rw [hc]
  by_cases hdue : sweeper.isDue now = true
  · simp only [hdue, if_true]
    rfl
  · simp [hdue]

end Correlator

namespace Session

variable {s : Session}

def withSweeper (s : Session) (w : Option Sweeper) : Session :=
  { s with correlator := s.correlator.withSweeper w }

/-- Neither the storage clock moves nor does the correlator shut down. -/
def Act.Timeless : Act → Prop
  | age _ | shutdown => False
  | _ => True

theorem timeOutAll_withSweeper (c : Correlator) (w : Option Sweeper) (due : List (Wait String)) :
    timeOutAll (c.withSweeper w) due =
      ((timeOutAll c due).1.withSweeper w, (timeOutAll c due).2) := by
  induction due generalizing c with
  | nil => rfl
  | cons call rest ih =>
    have hrest := ih (c.timeOut call).1
    simp only [timeOutAll]
    rw [show (c.withSweeper w).timeOut call = ((c.timeOut call).1.withSweeper w, (c.timeOut call).2)
      from rfl]
    simp only [hrest]

theorem Act.timeless_or_age {a : Act} (ha : a ≠ .shutdown) : a.Timeless ∨ ∃ span, a = .age span := by
  cases a with
  | age span => exact .inr ⟨span, rfl⟩
  | shutdown => exact absurd rfl ha
  | _ => exact .inl trivial

theorem ttl_timeOutAll (c : Correlator) (due : List (Wait String)) :
    (timeOutAll c due).1.ttl = c.ttl := by
  induction due generalizing c with
  | nil => rfl
  | cons call rest ih => exact ih (c.timeOut call).1

theorem desk_timeOutAll (c : Correlator) (due : List (Wait String)) :
    (timeOutAll c due).1.desk = Run.timeOutAll c.desk due := by
  induction due generalizing c with
  | nil => rfl
  | cons call rest ih => exact ih (c.timeOut call).1

/-- Only the storage clock and a shutdown touch the periodic sweep, and nothing else asks for it. -/
theorem step_withSweeper (s : Session) (w : Option Sweeper) {a : Act} (ha : a.Timeless) :
    (s.withSweeper w).step a = ((s.step a).1.withSweeper w, (s.step a).2) := by
  cases a with
  | deliver draft =>
    have hd := Correlator.deliver_withSweeper s.correlator w .caller (draft.appear s.storage) s.storage
    simp only [step, withSweeper] at hd ⊢
    rw [hd]
  | listen listener =>
    obtain ⟨waiting, storage, ⟨kind, ttl, desk, offered, sweeper⟩, next⟩ := s
    cases offered <;> rfl
  | await id timeout => rfl
  | sweep => rfl
  | shutdown => exact ha.elim
  | cancel t =>
    have hp : (s.withSweeper w).correlator.desk = s.correlator.desk := rfl
    simp only [step, hp]
    split_ifs <;> rfl
  | advance span =>
    have ht := timeOutAll_withSweeper s.correlator w
      (s.correlator.desk.due ⟨s.waiting.nanos + span.nanos⟩)
    simp only [step, withSweeper] at ht ⊢
    rw [show (s.correlator.withSweeper w).desk = s.correlator.desk from rfl, ht]
  | age span => exact ha.elim

theorem step_timeless (s : Session) {a : Act} (ha : a.Timeless) :
    (s.step a).1.storage = s.storage ∧ (s.step a).1.correlator.ttl = s.correlator.ttl ∧
      (s.step a).1.correlator.sweeper = s.correlator.sweeper := by
  have hs : (s.step a).1 = (s.step a).1.withSweeper s.correlator.sweeper :=
    congrArg Prod.fst (step_withSweeper s s.correlator.sweeper ha)
  refine ⟨?_, ?_, congrArg (·.correlator.sweeper) hs⟩
  · cases a with
    | listen listener =>
      simp only [step, Correlator.listen]
      cases s.correlator.listener <;> rfl
    | cancel t =>
      simp only [step]
      split_ifs <;> rfl
    | age span => exact ha.elim
    | _ => rfl
  · cases a with
    | deliver draft => exact Correlator.ttl_deliver s.correlator .caller _ s.storage
    | listen listener =>
      simp only [step, Correlator.listen]
      cases s.correlator.listener <;> rfl
    | await id timeout => rfl
    | sweep => rfl
    | shutdown => exact ha.elim
    | cancel t =>
      simp only [step]
      split_ifs <;> rfl
    | advance span => exact ttl_timeOutAll s.correlator _
    | age span => exact ha.elim

theorem timeOutAll_not_ofSweeper {c : Correlator} {due : List (Wait String)} {e : Effect}
    (he : e ∈ (timeOutAll c due).2) : e.ofSweeper = false := by
  induction due generalizing c with
  | nil => exact absurd he List.not_mem_nil
  | cons w rest ih =>
    rcases List.mem_append.1 he with he | he
    · simp only [List.mem_cons, List.not_mem_nil, or_false] at he
      rcases he with rfl | rfl <;> rfl
    · exact ih he

theorem step_not_ofSweeper (h : s.correlator.desk.Seated s.next) {a : Act} (ha : a.Timeless)
    {e : Effect} (he : e ∈ (s.step a).2.2) : e.ofSweeper = false := by
  cases a with
  | deliver draft => exact Correlator.deliver_not_ofSweeper h he
  | listen listener =>
    simp only [step, Correlator.listen] at he
    cases hl : s.correlator.listener <;> rw [hl] at he <;> exact absurd he List.not_mem_nil
  | await id timeout =>
    simp only [step, Correlator.await] at he
    split at he
    · exact Correlator.claims_not_ofSweeper he
    · exact absurd he List.not_mem_nil
  | sweep => exact absurd he List.not_mem_nil
  | shutdown => exact ha.elim
  | cancel t =>
    simp only [step] at he
    split_ifs at he
    · rw [List.mem_singleton.1 he]
      rfl
    · exact absurd he List.not_mem_nil
  | advance span => exact timeOutAll_not_ofSweeper he
  | age span => exact ha.elim

theorem parked_step (h : s.correlator.desk.Seated s.next) {a : Act} {k : String} {p : Notification × Instant}
    (hp : (s.step a).1.correlator.desk.parked k = some p) :
    s.correlator.desk.parked k = some p ∨
      ∃ draft, a = .deliver draft ∧ p = (draft.appear s.storage, s.storage) := by
  cases a with
  | deliver draft =>
    by_cases hk : (draft.appear s.storage).kind = s.correlator.kind
    · simp only [step, Correlator.parked_deliver h .caller s.storage hk] at hp
      split_ifs at hp
      · exact .inr ⟨draft, rfl, (Option.some.inj hp).symm⟩
      · exact .inl hp
    · simp only [step, Correlator.deliver_of_wrong_kind .caller s.storage hk] at hp
      exact .inl hp
  | listen listener =>
    simp only [step, Correlator.listen] at hp
    cases hl : s.correlator.listener <;> rw [hl] at hp <;> exact .inl hp
  | await id timeout =>
    simp only [step, Correlator.await, Desk.parked_wait] at hp
    split_ifs at hp
    exact .inl hp
  | sweep =>
    simp only [step, Correlator.sweep, Desk.parked_sweep, Option.filter_eq_some_iff] at hp
    exact .inl hp.1
  | shutdown => cases hp
  | cancel t =>
    simp only [step] at hp
    split_ifs at hp <;> exact .inl hp
  | advance span =>
    simp only [step, desk_timeOutAll, Run.parked_timeOutAll] at hp
    exact .inl hp
  | age span =>
    have hdesk := (Correlator.tick_frame s.correlator (s.storage.add span)).1
    simp only [step] at hp
    rcases hdesk with hd | hd <;> rw [hd] at hp
    · exact .inl hp
    · rw [Desk.parked_sweep, Option.filter_eq_some_iff] at hp
      exact .inl hp.1

theorem parked_after (h : s.correlator.desk.Seated s.next) {acts : List Act} {k : String}
    {p : Notification × Instant} (hp : (s.after acts).correlator.desk.parked k = some p) :
    s.correlator.desk.parked k = some p ∨
      ∃ us draft vs, acts = us ++ .deliver draft :: vs ∧
        p = (draft.appear (s.after us).storage, (s.after us).storage) := by
  induction acts generalizing s with
  | nil => exact .inl hp
  | cons a rest ih =>
    rcases ih (seated_step h a) hp with hold | ⟨us, draft, vs, rfl, rfl⟩
    · rcases parked_step h hold with hold | ⟨draft, rfl, rfl⟩
      · exact .inl hold
      · exact .inr ⟨[], draft, rest, rfl, rfl⟩
    · exact .inr ⟨a :: us, draft, vs, rfl, rfl⟩

/-- What holds while the periodic sweep runs: it is due when the period under way ends, and what was parked
at the last sweep was fresh then. -/
structure Swept (period : Span) (b : Beat) (s : Session) : Prop where
  seated : s.correlator.desk.Seated s.next
  sweeper : s.correlator.sweeper = some ⟨period, b.ahead period⟩
  clock : s.storage = b.now
  steady : b.Steady period
  fresh : ∀ k n t, s.correlator.desk.parked k = some (n, t) →
    b.last.nanos ≤ t.nanos ∨ Desk.isStale (retention s.correlator.ttl) b.last t n = false

variable {period : Span} {b : Beat}

theorem Swept.timeless (h : s.Swept period b) {a : Act} (ha : a.Timeless) :
    (s.step a).1.Swept period b := by
  obtain ⟨hstorage, httl, hsweeper⟩ := step_timeless s ha
  refine ⟨seated_step h.seated a, hsweeper.trans h.sweeper, hstorage.trans h.clock, h.steady,
    fun k n t hp => ?_⟩
  rw [httl]
  rcases parked_step h.seated hp with hold | ⟨draft, -, hnew⟩
  · exact h.fresh k n t hold
  · left
    rw [(Prod.mk.inj hnew).2, h.clock]
    exact h.steady.passed

theorem isDue_eq_strikes (hperiod : 0 < period.nanos) (t : Instant) :
    (⟨period, b.ahead period⟩ : Sweeper).isDue t = b.strikes period t := by
  rw [Bool.eq_iff_iff, Beat.strikes_iff hperiod]
  exact decide_eq_true_iff

/-- What the storage clock does: it moves on, and if a period ends meanwhile there is a sweep, at its new
reading. -/
theorem Swept.step_age (h : s.Swept period b) (hperiod : Sweeper.slack.nanos < period.nanos)
    (span : Span) :
    let t := b.now.add span
    (s.step (.age span)).1 =
      if b.strikes period t then
        { s with
          storage := t
          correlator :=
            (s.correlator.sweep t).1.withSweeper (some ⟨period, (b.step period t).ahead period⟩) }
      else { s with storage := t } := by
  intro t
  have ht : s.storage.add span = t := by rw [h.clock]
  simp only [step, ht, Correlator.tick_eq h.sweeper, isDue_eq_strikes (Nat.zero_lt_of_lt hperiod)]
  split_ifs with hs
  · rw [Beat.ahead_step_of_strikes hperiod hs]
  · rfl

theorem Swept.age (h : s.Swept period b) (hperiod : Sweeper.slack.nanos < period.nanos)
    (span : Span) :
    (s.step (.age span)).1.Swept period (b.step period (b.now.add span)) := by
  have hle : b.now.nanos ≤ (b.now.add span).nanos := by
    simp only [Instant.add]
    omega
  have hseated := seated_step h.seated (.age span)
  have hsteady := h.steady.step hperiod hle
  rw [h.step_age hperiod] at hseated ⊢
  cases hs : b.strikes period (b.now.add span) with
  | true =>
    rw [hs] at hseated
    refine ⟨hseated, rfl, (Beat.step_now _ _ _).symm, hsteady, fun k n t hp => .inr ?_⟩
    have hlast : (b.step period (b.now.add span)).last = b.now.add span := by
      simp only [Beat.step, hs, if_true]
    simp only [if_true, Correlator.withSweeper, Correlator.sweep, Desk.parked_sweep,
      Option.filter_eq_some_iff, Bool.not_eq_true'] at hp
    rw [hlast]
    exact hp.2
  | false =>
    rw [hs] at hseated
    have hlast : (b.step period (b.now.add span)).last = b.last := by
      simp only [Beat.step, hs, Bool.false_eq_true, if_false]
    refine ⟨hseated, ?_, (Beat.step_now _ _ _).symm, hsteady, ?_⟩
    · rw [Beat.ahead_step_of_silent (Nat.zero_lt_of_lt hperiod) hle hs]
      exact h.sweeper
    · rw [hlast]
      exact h.fresh

def beatAfter (period : Span) (b : Beat) : List Act → Beat
  | [] => b
  | .age span :: rest => beatAfter period (b.step period (b.now.add span)) rest
  | _ :: rest => beatAfter period b rest

theorem beatAfter_timeless {a : Act} (ha : a.Timeless) (period : Span) (b : Beat) (rest : List Act) :
    beatAfter period b (a :: rest) = beatAfter period b rest := by
  cases a with
  | age span => exact ha.elim
  | _ => rfl

theorem Swept.after (h : s.Swept period b) (hperiod : Sweeper.slack.nanos < period.nanos)
    {acts : List Act} (hacts : .shutdown ∉ acts) :
    (s.after acts).Swept period (beatAfter period b acts) ∧
      (s.after acts).correlator.ttl = s.correlator.ttl := by
  induction acts generalizing s b with
  | nil => exact ⟨h, rfl⟩
  | cons a rest ih =>
    obtain ⟨ha, hrest⟩ := List.ne_and_not_mem_of_not_mem_cons hacts
    rcases Act.timeless_or_age (Ne.symm ha) with htimeless | ⟨span, rfl⟩
    · obtain ⟨hswept, httl⟩ := ih (h.timeless htimeless) hrest
      rw [beatAfter_timeless htimeless]
      exact ⟨hswept, httl.trans (step_timeless s htimeless).2.1⟩
    · obtain ⟨hswept, httl⟩ := ih (h.age hperiod span) hrest
      refine ⟨hswept, httl.trans ?_⟩
      rw [h.step_age hperiod]
      split_ifs <;> rfl

/-- Nothing is parked longer than it may be by more than a period, by either account. -/
theorem Swept.bound (h : s.Swept period b) (hperiod : 0 < period.nanos) {k : String}
    {n : Notification} {t : Instant} (hp : s.correlator.desk.parked k = some (n, t)) :
    s.storage.since t ≤ s.correlator.ttl.nanos + period.nanos ∧
      (s.correlator.ttl.nanos ≤ Notification.longestSpan.nanos ∨
          n.created.Dated ∧ s.storage.Dated →
        s.storage.since (t.later (n.created.add s.correlator.ttl)) ≤ period.nanos) := by
  have hrecent : s.storage.since b.last < period.nanos := by
    have hnear := h.steady.near
    have hlt := Beat.now_lt_ahead (b := b) hperiod
    simp only [Instant.since, h.clock]
    omega
  have hpassed : b.last.nanos ≤ s.storage.nanos := h.clock ▸ h.steady.passed
  rcases h.fresh k n t hp with hlate | hfresh
  · simp only [Instant.since, Instant.later, Instant.add] at hrecent ⊢
    omega
  · obtain ⟨hage, hkept⟩ := Desk.isStale_eq_false_iff.1 hfresh
    refine ⟨?_, fun htold => ?_⟩
    · simp only [Instant.since] at hrecent hkept ⊢
      omega
    · have hyoung : b.last.since n.created ≤ s.correlator.ttl.nanos := by
        rcases htold with hshort | ⟨hcreated, hnow⟩
        · simpa [Notification.isOlderThan, hshort] using hage
        · refine (Desk.young_of_fresh hfresh ?_).2
          have hle := hcreated.since_le hnow
          simp only [Instant.since] at hle ⊢
          omega
      simp only [Instant.since, Instant.later, Instant.add] at hrecent hyoung ⊢
      omega

theorem Swept.spared (h : s.Swept period b) (hperiod : Sweeper.slack.nanos < period.nanos)
    (span : Span) :
    let r := s.step (.age span)
    r.1.correlator.desk.waits = s.correlator.desk.waits ∧ r.2.2.filterMap Effect.answer? = [] ∧
      ∀ k n t, s.correlator.desk.parked k = some (n, t) →
        r.1.storage.since t ≤ s.correlator.ttl.nanos →
        r.1.storage.since n.created ≤ s.correlator.ttl.nanos →
        r.1.correlator.desk.parked k = some (n, t) := by
  intro r
  refine ⟨?_, Correlator.filterMap_tick (fun _ => rfl) s.correlator _, fun k n t hp ht hc => ?_⟩
  · simp only [r, h.step_age hperiod]
    split_ifs <;> rfl
  · simp only [r, h.step_age hperiod] at ht hc ⊢
    split_ifs at ht hc ⊢
    · have hkept := Desk.isStale_of_young ht hc
      rw [Correlator.withSweeper, Correlator.sweep, Desk.parked_sweep, hp, Option.filter_some, hkept]
      rfl
    · exact hp

/-- The same acts with the periodic sweep done by hand: once whenever the clock gets past the end of a
period. -/
def byHand (period : Span) (b : Beat) : List Act → List Act
  | [] => []
  | .age span :: rest =>
    let t := b.now.add span
    if b.strikes period t then .age span :: .sweep :: byHand period (b.step period t) rest
    else .age span :: byHand period (b.step period t) rest
  | a :: rest => a :: byHand period b rest

theorem byHand_timeless {a : Act} (ha : a.Timeless) (period : Span) (b : Beat) (rest : List Act) :
    byHand period b (a :: rest) = a :: byHand period b rest := by
  cases a with
  | age span => exact ha.elim
  | _ => rfl

/-- Only the log of the periodic sweep tells it from sweeps by hand. -/
theorem Swept.byHand (h : s.Swept period b) (hperiod : Sweeper.slack.nanos < period.nanos)
    {acts : List Act} (hacts : .shutdown ∉ acts) :
    let hand := Session.byHand period b acts
    (s.withSweeper none).after hand = (s.after acts).withSweeper none ∧
      (s.withSweeper none).effects hand = (s.effects acts).filter fun e => !e.ofSweeper := by
  induction acts generalizing s b with
  | nil => exact ⟨rfl, rfl⟩
  | cons a rest ih =>
    obtain ⟨ha, hrest⟩ := List.ne_and_not_mem_of_not_mem_cons hacts
    rcases Act.timeless_or_age (Ne.symm ha) with htimeless | ⟨span, rfl⟩
    · obtain ⟨hnext, hseen⟩ := ih (h.timeless htimeless) hrest
      have hstep := step_withSweeper s none htimeless
      rw [byHand_timeless htimeless]
      refine ⟨.trans ?_ hnext, ?_⟩
      · exact congrArg (Session.after · _) (congrArg Prod.fst hstep)
      · have hown : (s.step a).2.2.filter (fun e => !e.ofSweeper) = (s.step a).2.2 :=
          List.filter_eq_self.2 fun e he => by rw [step_not_ofSweeper h.seated htimeless he]; rfl
        rw [effects, effects, hstep, List.filter_append, hown, ← hseen]
    · obtain ⟨hnext, hseen⟩ := ih (h.age hperiod span) hrest
      have hstep := h.step_age hperiod span
      have hclock := h.clock
      have hlog : (s.step (.age span)).2.2.filter (fun e => !e.ofSweeper) = [] := by
        refine List.filter_eq_nil_iff.2 fun e he => ?_
        obtain ⟨event, rfl⟩ := Correlator.tick_effects he
        exact Bool.false_ne_true
      have hafter : s.after (.age span :: rest) = (s.step (.age span)).1.after rest := rfl
      rw [effects, List.filter_append, hlog, List.nil_append, ← hseen, hafter, ← hnext]
      simp only [Session.byHand]
      rw [hstep, ← hclock]
      split_ifs <;> exact ⟨rfl, rfl⟩

/-- Bounded retention. While the periodic sweep runs, whatever is parked was delivered, and it is neither
parked for more than a period beyond its time nor there more than a period after its time is up by its own
account. The storage clock ends no call, and takes nothing away that is no older than it may be. It sweeps
just when it gets past the end of a period, counted from the start or from the last sweep that came more than
5 ms after such an end, and then once: always when a whole period has passed since the start or the last
sweep, and never when more than 5 ms are missing. -/
theorem retention_bounded (kind : Kind) (ttl : Nat) {sweepPeriod : Nat} (hpositive : 0 < sweepPeriod)
    (hlong : sweepPeriod ≤ 0x7FFFFFFFFFFFFFFF) (begun : Instant) {acts : List Act}
    (hacts : .shutdown ∉ acts) :
    let kept : Span := .ofSecs ttl
    let period : Span := .ofSecs sweepPeriod
    let first : Session := ⟨⟨0⟩, begun, Correlator.start kind ttl sweepPeriod begun, 0⟩
    let s := first.after acts
    let b := beatAfter period (.start begun) acts
    let hand := byHand period (.start begun) acts
    (∀ k n t, s.correlator.desk.parked k = some (n, t) →
        (∃ us draft vs, acts = us ++ .deliver draft :: vs ∧
          t = (first.after us).storage ∧ n = draft.appear t) ∧
        s.storage.since t ≤ kept.nanos + period.nanos ∧
        (kept.nanos ≤ Notification.longestSpan.nanos ∨ n.created.Dated ∧ s.storage.Dated →
          s.storage.since (t.later (n.created.add kept)) ≤ period.nanos)) ∧
      (∀ span, let r := s.step (.age span)
        r.1.correlator.desk.waits = s.correlator.desk.waits ∧
          r.2.2.filterMap Effect.answer? = [] ∧
          ∀ k n t, s.correlator.desk.parked k = some (n, t) →
            r.1.storage.since t ≤ kept.nanos → r.1.storage.since n.created ≤ kept.nanos →
            r.1.correlator.desk.parked k = some (n, t)) ∧
      ((first.withSweeper none).after hand = s.withSweeper none ∧
        (first.withSweeper none).effects hand = (first.effects acts).filter fun e => !e.ofSweeper) ∧
      b.now = s.storage ∧ ∀ t, ((period.nanos : Int) ≤ t.since b.last → b.strikes period t = true) ∧
        (b.strikes period t = true →
          (period.nanos : Int) ≤ t.since b.last + (Span.ofMillis 5).nanos) := by
  intro kept period first s b hand
  have hslack : Sweeper.slack.nanos < period.nanos :=
    lt_of_lt_of_le (by decide : Sweeper.slack.nanos < 1 * 1000000000)
      (Nat.mul_le_mul_right _ hpositive)
  have hperiod : 0 < period.nanos := Nat.zero_lt_of_lt hslack
  have hfirst : first.Swept period (.start begun) := by
    refine ⟨Desk.Seated.empty 0, ?_, rfl, .start begun, fun k n t hp => by cases hp⟩
    rw [Beat.ahead_start]
    refine if_neg (not_or.2 ⟨hperiod.ne', not_lt.2 ?_⟩)
    exact Nat.mul_le_mul_right _ hlong
  obtain ⟨hs, httl⟩ := hfirst.after hslack hacts
  have hkept : s.correlator.ttl = kept := httl
  refine ⟨fun k n t hp => ⟨?_, ?_⟩, fun span => ?_, hfirst.byHand hslack hacts, hs.clock.symm,
    fun t => hs.steady.strikes hperiod⟩
  · rcases parked_after hfirst.seated hp with hnone | ⟨us, draft, vs, hsplit, hparked⟩
    · cases hnone
    · obtain ⟨rfl, rfl⟩ := Prod.mk.inj hparked
      exact ⟨us, draft, vs, hsplit, rfl, rfl⟩
  · rw [← hkept]
    exact hs.bound hperiod hp
  · rw [← hkept]
    exact hs.spared hslack span

/-- The clock jumps from just before a sweep is due over several periods. One sweep catches up, what was
delivered with an old date is gone, and what is fresh stays. -/
theorem retention_bounded_over_jump :
    let draft (about : String) (stamp : Stamp) : Notification.Draft :=
      ⟨.submission, "r", about, .receipt, "", stamp⟩
    let acts : List Act := [.deliver (draft "A" (.ago 0)), .age (.ofSecs 29),
      .deliver (draft "B" (.ago 600)), .deliver (draft "C" (.ago (-500))), .age (.ofSecs 300)]
    let first : Session := ⟨⟨0⟩, Instant.dawn, Correlator.start .submission 400 30 Instant.dawn, 0⟩
    let s := first.after acts
    let t := Instant.dawn.add (.ofSecs 29)
    let n := (draft "C" (.ago (-500))).appear t
    s.correlator.desk.parked "B" = none ∧ s.correlator.desk.parked "C" = some (n, t) ∧
      s.storage.since t ≤ 430 * 1000000000 ∧
      s.storage.since (t.later (n.created.add (.ofSecs 400))) ≤ 30 * 1000000000 ∧
      (first.withSweeper none).after (byHand (.ofSecs 30) (.start Instant.dawn) acts) =
        s.withSweeper none := by
  intro draft acts first s t n
  have hperiod : 0 < 30 := by decide
  have hacts : .shutdown ∉ acts := by decide
  obtain ⟨hbound, -, ⟨hhand, -⟩, -⟩ :=
    retention_bounded .submission 400 hperiod (by decide) Instant.dawn hacts
  have hparked : s.correlator.desk.parked "C" = some (n, t) := by decide +kernel
  obtain ⟨-, hkept, hage⟩ := hbound "C" n t hparked
  exact ⟨by decide +kernel, hparked, hkept, hage (.inl (by decide)), hhand⟩

/-- The same acts, with a sweep by hand just when a whole period has passed since the start or the last
one. -/
def byFullPeriods (period : Span) (last now : Instant) : List Act → List Act
  | [] => []
  | .age span :: rest =>
    let t := now.add span
    if (period.nanos : Int) ≤ t.since last then .age span :: .sweep :: byFullPeriods period t t rest
    else .age span :: byFullPeriods period last t rest
  | a :: rest => a :: byFullPeriods period last now rest

/-- The periodic sweep does not wait for a whole period. With a period of a second, a sweep 2 ms late is
followed by another one after 999 ms. It takes what came in meanwhile with an old date, and sweeps a whole
period apart would leave it. -/
theorem swept_within_period :
    let acts : List Act := [.age (.ofMillis 1002),
      .deliver ⟨.submission, "r", "A", .receipt, "", .ago 60⟩, .age (.ofMillis 999)]
    let first : Session := ⟨⟨0⟩, Instant.dawn, Correlator.start .submission 1 1 Instant.dawn, 0⟩
    let apart := byFullPeriods (.ofSecs 1) Instant.dawn Instant.dawn acts
    apart = [.age (.ofMillis 1002), .sweep,
        .deliver ⟨.submission, "r", "A", .receipt, "", .ago 60⟩, .age (.ofMillis 999)] ∧
      (first.after acts).correlator.desk.parked "A" = none ∧
      ((first.withSweeper none).after apart).correlator.desk.parked "A" ≠ none ∧
      (first.withSweeper none).after apart ≠ (first.after acts).withSweeper none := by
  intro acts first apart
  have happart : apart = [.age (.ofMillis 1002), .sweep,
      .deliver ⟨.submission, "r", "A", .receipt, "", .ago 60⟩, .age (.ofMillis 999)] := by
    decide +kernel
  have hgone : (first.after acts).correlator.desk.parked "A" = none := by decide +kernel
  have hleft : ((first.withSweeper none).after apart).correlator.desk.parked "A" ≠ none := by
    decide +kernel
  exact ⟨happart, hgone, hleft,
    fun heq => hleft ((congrArg (·.correlator.desk.parked "A") heq).trans hgone)⟩

end Session

end Correlation

end MessageExchange
