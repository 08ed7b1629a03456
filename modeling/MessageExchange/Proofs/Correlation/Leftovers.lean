import MessageExchange.Proofs.Correlation.Occupancy

/-! Slots of calls that were given up are never seen. Beside the desk stands a clean one, where such a slot
goes at once, and the carrier with it when it was the last. Through any run the two go alike: the same calls
end in the same way, and the same values lie under the same keys. The slots that stay behind on the desk are
only noticed when a value comes for them, and counted. -/

namespace MessageExchange.Correlation

variable {K V : Type} [DecidableEq K]

namespace Desk

variable {d : Desk K V} {n : Ticket}

/-- Its caller gives a call up. Its slot goes at once, and the carrier when no slot is left. -/
def withdraw (d : Desk K V) (t : Ticket) : Desk K V :=
  { d.endCalls [t] with
    carriers := d.carriers.revise fun _ c =>
      match c with
      | .parked v since => some (.parked v since)
      | .waiting slots =>
        match slots.filter (· != t) with
        | [] => none
        | u :: us => some (.waiting (u :: us)) }

/-- Every slot belongs to a pending call. -/
def Clean (d : Desk K V) : Prop := ∀ k, d.slots k = d.pendingOn k

instance (d : Desk K V) : DecidablePred d.Deserted := fun _ => inferInstanceAs (Decidable (_ ∧ _))

/-- The keys under which all slots belong to ended calls. -/
def leftovers (d : Desk K V) : List K := d.carriers.keys.filter (d.Deserted ·)

theorem parked_withdraw (d : Desk K V) (t : Ticket) (k : K) : (d.withdraw t).parked k = d.parked k := by
  unfold withdraw parked
  rw [Shelf.get?_revise]
  cases d.carriers.get? k with
  | none => rfl
  | some c =>
    cases c with
    | parked _ _ => rfl
    | waiting slots => cases hl : slots.filter (· != t) <;> simp [hl]

theorem slots_withdraw (d : Desk K V) (t : Ticket) (k : K) :
    (d.withdraw t).slots k = (d.slots k).filter (· != t) ∧
      (d.withdraw t).carriers.get? k ≠ some (.waiting []) := by
  unfold withdraw slots
  rw [Shelf.get?_revise]
  cases d.carriers.get? k with
  | none => simp
  | some c =>
    cases c with
    | parked _ _ => simp
    | waiting slots => cases hl : slots.filter (· != t) <;> simp [hl]

omit [DecidableEq K] in
theorem isPending_endCalls (d : Desk K V) (t u : Ticket) :
    (d.endCalls [t]).isPending u = (d.isPending u && u != t) := by
  rw [Bool.eq_iff_iff, Bool.and_eq_true, isPending_iff, isPending_iff]
  simp only [endCalls, List.mem_filter, List.contains_cons, List.contains_nil, Bool.or_false,
    Bool.not_eq_true', beq_eq_false_iff_ne, bne_iff_ne]
  constructor
  · rintro ⟨w, ⟨hw, ht⟩, rfl⟩
    exact ⟨⟨w, hw, rfl⟩, ht⟩
  · rintro ⟨⟨w, hw, rfl⟩, ht⟩
    exact ⟨w, ⟨hw, ht⟩, rfl⟩

theorem Seated.slots_withdraw (h : d.Seated n) (hc : d.Clean) (t : Ticket) (k : K) :
    (d.withdraw t).slots k = (d.withdraw t).live (d.slots k) := by
  have hpending : ∀ u ∈ d.slots k, (u != t) = (d.withdraw t).isPending u := by
    intro u hu
    rw [hc k, ← h.live] at hu
    have hends : (d.withdraw t).isPending u = (d.endCalls [t]).isPending u := rfl
    rw [hends, isPending_endCalls, List.of_mem_filter hu, Bool.true_and]
  rw [(Desk.slots_withdraw d t k).1]
  exact List.filter_congr hpending

theorem Seated.withdraw (h : d.Seated n) (hc : d.Clean) (t : Ticket) : (d.withdraw t).Seated n :=
  h.shrink rfl (fun k => .inr (h.slots_withdraw hc t k)) fun k => (Desk.slots_withdraw d t k).2

theorem Seated.clean_iff (h : d.Seated n) : d.Clean ↔ ∀ k, ∀ t ∈ d.slots k, d.isPending t = true := by
  refine forall_congr' fun k => ?_
  rw [← h.live, Eq.comm, Desk.live, List.filter_eq_self]

theorem Clean.withdraw (hc : d.Clean) (h : d.Seated n) (t : Ticket) : (d.withdraw t).Clean := by
  rw [(h.withdraw hc t).clean_iff]
  intro k u hu
  rw [h.slots_withdraw hc] at hu
  exact List.of_mem_filter hu

theorem Clean.not_deserted (hc : d.Clean) (k : K) : ¬ d.Deserted k := fun hd => hd.1 (hc k ▸ hd.2)

theorem Seated.mem_leftovers (h : d.Seated n) {k : K} : k ∈ d.leftovers ↔ d.Deserted k := by
  rw [leftovers, List.mem_filter, decide_eq_true_eq, and_iff_right_iff_imp]
  intro hd
  by_contra hk
  rw [← Shelf.get?_eq_none_iff] at hk
  have hsome := (h.occupied_iff k).2 (.inl hd.1)
  rw [hk] at hsome
  exact absurd hsome (by simp)

theorem Seated.encard_deserted (h : d.Seated n) :
    {k | d.Deserted k}.encard = d.leftovers.length := by
  have hset : {k | d.Deserted k} = (d.leftovers.toFinset : Set K) := by
    ext k
    rw [Set.mem_ofPred_eq, List.coe_toFinset, Set.mem_ofPred_eq, h.mem_leftovers]
  have hnodup : d.leftovers.Nodup := d.carriers.distinct.filter _
  rw [hset, Set.encard_coe_eq_coe_finsetCard, List.toFinset_card_of_nodup hnodup]

omit [DecidableEq K] in
theorem size_sweep_le (d : Desk K V) (r : Retention V) (now : Instant) :
    (d.sweep r now).size ≤ d.size := List.length_filterMap_le _ _

end Desk

/-- The answer to the act where all slots under the keys `left` belong to calls given up. A value that
finds nobody there is late, stored or handed back all the same, and each such key counts as a carrier. -/
def Answer.among (left : List K) (a : Act K V) (answer : Answer V) : Answer V :=
  match a, answer with
  | .deliver k _, placed .stored => if k ∈ left then placed .storedLate else placed .stored
  | .complete k _, back v _ => back v (k ∈ left)
  | .sweep, count n | .close, count n => count (n + left.length)
  | _, answer => answer

namespace Run

variable {s c : Run K V}

def cleanStep (r : Retention V) (s : Run K V) (a : Act K V) :
    Run K V × Answer V × List (Ticket × Ending V) :=
  match a with
  | .cancel t =>
    if s.desk.isPending t then
      ({ s with desk := s.desk.withdraw t }, .done, [(t, .cancelled)])
    else (s, .over, [])
  | a => s.step r a

def cleanAfter (r : Retention V) (s : Run K V) (acts : List (Act K V)) : Run K V :=
  acts.foldl (fun s a => (s.cleanStep r a).1) s

/-- The second state is the first one without the slots of calls given up. -/
structure Mirrors (s c : Run K V) : Prop where
  waiting : c.waiting = s.waiting
  storage : c.storage = s.storage
  next : c.next = s.next
  waits : c.desk.waits = s.desk.waits
  parked : ∀ k, c.desk.parked k = s.desk.parked k
  seated : c.desk.Seated c.next
  clean : c.desk.Clean

theorem Mirrors.start : Mirrors (start : Run K V) start :=
  ⟨rfl, rfl, rfl, rfl, fun _ => rfl, Desk.Seated.empty 0, fun _ => rfl⟩

theorem Mirrors.pendingOn (hm : Mirrors s c) (k : K) : c.desk.pendingOn k = s.desk.pendingOn k := by
  rw [Desk.pendingOn, hm.waits, Desk.pendingOn]

theorem Mirrors.isPending (hm : Mirrors s c) (t : Ticket) :
    c.desk.isPending t = s.desk.isPending t := by
  rw [Desk.isPending, hm.waits, Desk.isPending]

theorem cancel_of_ending {a : Act K V} {now : Span} {w : Wait K}
    (h : a.ending now w = some .cancelled) : a = .cancel w.ticket := by
  cases a with
  | cancel t =>
    simp only [Act.ending] at h
    split_ifs at h with ht
    rw [ht]
  | deliver k v | complete k v | advance span =>
    simp only [Act.ending] at h
    split_ifs at h
    exact absurd h (by simp)
  | wait k timeout | sweep | close | age span => exact absurd h (by simp [Act.ending])

theorem leftovers_sweep (h : s.desk.Seated s.next) (r : Retention V) :
    (s.step r .sweep).1.desk.leftovers = [] := by
  rw [List.eq_nil_iff_forall_not_mem]
  intro k hk
  obtain ⟨hne, hnil⟩ := (seated_step h r .sweep).mem_leftovers.1 hk
  rw [slots_step h] at hne
  exact hne hnil

/-- Nothing but giving up a call leaves a slot behind. -/
theorem clean_step (h : s.desk.Seated s.next) (hc : s.desk.Clean) (r : Retention V) {a : Act K V}
    (ha : ∀ t, a ≠ .cancel t) : (s.step r a).1.desk.Clean := by
  rw [(seated_step h r a).clean_iff]
  intro k t ht
  rcases mem_slots_step h r a ht with hold | hnew
  · rw [hc k, Desk.pendingOn, List.mem_map] at hold
    obtain ⟨w, hw, rfl⟩ := hold
    obtain ⟨hw, hk⟩ := List.mem_filter.1 hw
    rw [← of_decide_eq_true hk] at ht
    rw [← Bool.not_eq_false]
    exact fun hp => ha _ (cancel_of_ending (cancelled_of_left h r a hw ht hp))
  · exact hnew

section

variable (h : s.desk.Seated s.next) (hm : Mirrors s c) (r : Retention V) (a : Act K V)

include h hm in
theorem Mirrors.step_shared (ha : ∀ t, a ≠ .cancel t) :
    Mirrors (s.step r a).1 (c.step r a).1 where
  waiting := by rw [waiting_step, waiting_step, hm.waiting]
  storage := by rw [storage_step, storage_step, hm.storage]
  next := by rw [next_step, next_step, hm.next]
  waits := by
    have harrivals : c.arrivals a = s.arrivals a := by
      cases a with
      | wait k timeout => simp only [arrivals, hm.parked, hm.next, hm.waiting]
      | _ => rfl
    rw [waits_step h, waits_step hm.seated, harrivals, hm.waits, hm.waiting]
  parked := by
    intro k
    rw [parked_step h, parked_step hm.seated]
    simp only [hm.parked, hm.pendingOn, hm.storage]
  seated := seated_step hm.seated r a
  clean := clean_step hm.seated hm.clean r ha

include hm in
theorem Mirrors.cancel (t : Ticket) :
    Mirrors (s.step r (.cancel t)).1 (c.cleanStep r (.cancel t)).1 := by
  simp only [step, cleanStep, hm.isPending]
  split_ifs
  · exact {
      waiting := hm.waiting
      storage := hm.storage
      next := hm.next
      waits := by simp only [Desk.withdraw, Desk.cancel, Desk.endCalls, hm.waits]
      parked := fun k => (Desk.parked_withdraw c.desk t k).trans (hm.parked k)
      seated := hm.seated.withdraw hm.clean t
      clean := hm.clean.withdraw hm.seated t }
  · exact hm

include h hm in
theorem Mirrors.step : Mirrors (s.step r a).1 (c.cleanStep r a).1 := by
  cases a with
  | cancel t => exact hm.cancel r t
  | _ => exact hm.step_shared h r _ nofun

include h hm in
theorem Mirrors.size_eq : s.desk.size = c.desk.size + s.desk.leftovers.length := by
  have hnone : {k | c.desk.Deserted k} = ∅ := Set.eq_empty_of_forall_notMem hm.clean.not_deserted
  have hclean := hm.seated.size_eq
  rw [hnone, Set.encard_empty, add_zero] at hclean
  simp only [hm.pendingOn, hm.parked] at hclean
  have hsize := h.size_eq
  rw [← hclean, h.encard_deserted] at hsize
  exact_mod_cast hsize

include h hm in
theorem Mirrors.contains_iff (k : K) :
    s.desk.contains k = true ↔ c.desk.contains k = true ∨ k ∈ s.desk.leftovers := by
  rw [Desk.contains, Desk.contains, h.occupied_iff, hm.seated.occupied_iff, h.slots_ne_nil_iff,
    hm.clean k, hm.pendingOn, hm.parked, h.mem_leftovers, or_right_comm]

include h hm in
theorem Mirrors.ended_eq : (c.cleanStep r a).2.2 = (s.step r a).2.2 := by
  cases a with
  | deliver k v => simp only [cleanStep, step_deliver h, step_deliver hm.seated, hm.pendingOn]
  | complete k v => simp only [cleanStep, step_complete h, step_complete hm.seated, hm.pendingOn]
  | wait k timeout => simp only [cleanStep, Run.step, Desk.claimed_wait, hm.parked, hm.next]
  | cancel t =>
    simp only [cleanStep, Run.step, hm.isPending]
    split_ifs <;> rfl
  | sweep | age span => rfl
  | close => simp only [cleanStep, Run.step, Desk.close, hm.waits]
  | advance span => simp only [cleanStep, Run.step, Desk.due, hm.waits, hm.waiting]

include h hm in
theorem Mirrors.answer_eq : (s.step r a).2.1 = (c.cleanStep r a).2.1.among s.desk.leftovers a := by
  have hdeserted : ∀ k, s.desk.pendingOn k = [] →
      (k ∈ s.desk.leftovers ↔ s.desk.slots k ≠ []) := by
    intro k hk
    rw [h.mem_leftovers]
    exact and_iff_left hk
  have hclean : ∀ k, c.desk.slots k = s.desk.pendingOn k := fun k =>
    (hm.clean k).trans (hm.pendingOn k)
  cases a with
  | deliver k v =>
    simp only [cleanStep, step_deliver h, step_deliver hm.seated, h.placement_deliver,
      hm.seated.placement_deliver, hm.pendingOn, hm.parked, hclean]
    by_cases hk : s.desk.pendingOn k = []
    · cases s.desk.parked k <;> by_cases hs : s.desk.slots k = [] <;>
        simp [hk, hs, hdeserted k hk, Answer.among]
    · simp [hk, Answer.among]
  | complete k v =>
    simp only [cleanStep, step_complete h, step_complete hm.seated, hm.pendingOn, hclean]
    by_cases hk : s.desk.pendingOn k = []
    · simp [hk, hdeserted k hk, Answer.among]
    · simp [hk, Answer.among]
  | wait k timeout => simp only [cleanStep, Run.step, Answer.among, hm.next]
  | cancel t =>
    simp only [cleanStep, Run.step, hm.isPending]
    split_ifs <;> rfl
  | sweep =>
    have hsize := hm.size_eq h
    have hswept := (hm.step_shared h r .sweep (by simp)).size_eq (seated_step h r .sweep)
    have hfewer := c.desk.size_sweep_le r c.storage
    rw [leftovers_sweep h, List.length_nil, add_zero] at hswept
    simp only [Run.step] at hswept
    simp only [cleanStep, Run.step, Answer.among, Answer.count.injEq]
    omega
  | close => simp only [cleanStep, Run.step, Answer.among, hm.size_eq h]
  | advance span | age span => rfl

end

theorem cleanAfter_snoc (r : Retention V) (acts : List (Act K V)) (a : Act K V) :
    s.cleanAfter r (acts ++ [a]) = ((s.cleanAfter r acts).cleanStep r a).1 := by
  rw [cleanAfter, List.foldl_append]
  rfl

theorem mirrors_after (r : Retention V) (acts : List (Act K V)) :
    Mirrors (start.after r acts) (start.cleanAfter r acts) := by
  induction acts using List.reverseRecOn with
  | nil => exact Mirrors.start
  | append_singleton acts a ih =>
    rw [after_snoc, cleanAfter_snoc]
    exact ih.step (seated_start r acts) r a

/-- Calls given up leave nothing to see. Take any run, and the same acts with a desk that is kept clean.
After the same acts both answer any act in the same way, and the same calls end with it; under every key
lies the same value since the same time, and as many calls wait. All there is to tell the two apart are
the keys that hold only calls given up: a value that is stored there is called late, and they are counted
among the carriers. -/
theorem leftovers_unseen (r : Retention V) (acts : List (Act K V)) :
    let s := start.after r acts
    let c := start.cleanAfter r acts
    (∀ k, c.desk.slots k = c.desk.pendingOn k) ∧
      (∀ a, (s.step r a).2.1 = (c.cleanStep r a).2.1.among s.desk.leftovers a ∧
        (s.step r a).2.2 = (c.cleanStep r a).2.2) ∧
      (∀ k, s.desk.parked k = c.desk.parked k ∧ s.desk.isParked k = c.desk.isParked k ∧
        s.desk.waiters k = c.desk.waiters k ∧
        (s.desk.contains k ↔ c.desk.contains k ∨ k ∈ s.desk.leftovers)) ∧
      s.desk.leftovers.Nodup ∧
      (∀ k, k ∈ s.desk.leftovers ↔ s.desk.slots k ≠ [] ∧
        ∀ t ∈ s.desk.slots k, endingsOf t (start.endings r acts) = [.cancelled]) ∧
      s.desk.size = c.desk.size + s.desk.leftovers.length := by
  intro s c
  have h : s.desk.Seated s.next := seated_start r acts
  have hm : Mirrors s c := mirrors_after r acts
  refine ⟨hm.clean, fun a => ⟨hm.answer_eq h r a, (hm.ended_eq h r a).symm⟩, fun k => ?_,
    s.desk.carriers.distinct.filter _, fun k => h.mem_leftovers.trans (deserted_iff r acts k),
    hm.size_eq h⟩
  refine ⟨(hm.parked k).symm, ?_, ?_, hm.contains_iff h k⟩
  · rw [Desk.isParked_eq, Desk.isParked_eq, hm.parked]
  · rw [h.waiters_eq, hm.seated.waiters_eq, hm.pendingOn]

/-- A value that comes for a call that was given up is late on the desk, and no more than stored on the
clean one. -/
example (r : Retention Bool) :
    let acts : List (Act Nat Bool) := [.wait 7 ⟨0⟩, .cancel 0]
    ((start.after r acts).step r (.deliver 7 true)).2.1 = .placed .storedLate ∧
      ((start.cleanAfter r acts).cleanStep r (.deliver 7 true)).2.1 = .placed .stored := ⟨rfl, rfl⟩

end Run

end MessageExchange.Correlation
