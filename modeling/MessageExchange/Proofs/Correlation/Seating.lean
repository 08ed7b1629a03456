import MessageExchange.Proofs.Correlation.Carriers
import Mathlib.Tactic

/-! Slots and pending calls agree: `Seated` says so of a desk, and every operation keeps it. Slots of
calls that were given up may stand among the others; under the invariant they are never seen. -/

namespace MessageExchange.Correlation.Desk

variable {K V : Type} [DecidableEq K]

/-- Calls are numbered in order of arrival, all before `next`. The pending slots of a carrier are the
calls that wait for its key, and a carrier without slots is gone. -/
structure Seated (d : Desk K V) (next : Ticket) : Prop where
  sorted : (d.waits.map Wait.ticket).Pairwise (· < ·)
  early : ∀ w ∈ d.waits, w.ticket < next
  slotsEarly : ∀ k, ∀ t ∈ d.slots k, t < next
  live : ∀ k, d.live (d.slots k) = d.pendingOn k
  occupied : ∀ k, d.carriers.get? k ≠ some (.waiting [])

variable {d d' : Desk K V} {n : Ticket}

theorem Seated.empty (n : Ticket) : (Desk.empty : Desk K V).Seated n where
  sorted := List.Pairwise.nil
  early := by simp [Desk.empty]
  slotsEarly := by simp [Desk.empty, slots]
  live := fun _ => rfl
  occupied := by simp [Desk.empty]

theorem Seated.mono {m : Ticket} (h : d.Seated n) (hnm : n ≤ m) : d.Seated m where
  sorted := h.sorted
  early := fun w hw => (h.early w hw).trans_le hnm
  slotsEarly := fun k t ht => (h.slotsEarly k t ht).trans_le hnm
  live := h.live
  occupied := h.occupied

theorem Seated.eq_of_ticket (h : d.Seated n) {w w' : Wait K} (hw : w ∈ d.waits) (hw' : w' ∈ d.waits)
    (ht : w.ticket = w'.ticket) : w = w' :=
  List.inj_on_of_nodup_map (h.sorted.imp fun hlt => hlt.ne) hw hw' ht

theorem Seated.mem_pendingOn (h : d.Seated n) {w : Wait K} (hw : w ∈ d.waits) (k : K) :
    w.ticket ∈ d.pendingOn k ↔ w.key = k := by
  simp only [pendingOn, List.mem_map, List.mem_filter, decide_eq_true_eq]
  constructor
  · rintro ⟨w', ⟨hw', rfl⟩, ht⟩
    rw [h.eq_of_ticket hw' hw ht]
  · intro hk
    exact ⟨w, ⟨hw, hk⟩, rfl⟩

theorem Seated.parked_eq_none (h : d.Seated n) {k : K} (hp : d.pendingOn k ≠ []) :
    d.parked k = none := by
  cases hk : d.parked k with
  | none => rfl
  | some p =>
    rw [← h.live, slots_eq_nil_of_parked hk] at hp
    exact absurd rfl hp

/-! Calls end and slots of ended calls go; whatever else happens, the invariant stays. -/

omit [DecidableEq K] in
theorem isPending_iff {t : Ticket} : d.isPending t = true ↔ ∃ w ∈ d.waits, w.ticket = t := by
  simp [isPending]

theorem Seated.live_filter (h : d.Seated n) {p : Wait K → Bool} (hw : d'.waits = d.waits.filter p)
    (k : K) : d'.live (d.slots k) = d'.pendingOn k := by
  have hsub : ∀ t, d'.isPending t = true → d.isPending t = true := by
    intro t ht
    obtain ⟨w, hwm, rfl⟩ := isPending_iff.1 ht
    rw [hw] at hwm
    exact isPending_iff.2 ⟨w, List.mem_of_mem_filter hwm, rfl⟩
  have hkeep : ∀ w ∈ d.waits, d'.isPending w.ticket = p w := by
    intro w hwm
    rw [Bool.eq_iff_iff, isPending_iff, hw]
    constructor
    · rintro ⟨w', hw', ht⟩
      obtain ⟨hw'm, hp⟩ := List.mem_filter.1 hw'
      rw [← h.eq_of_ticket hw'm hwm ht]
      exact hp
    · intro hp
      exact ⟨w, List.mem_filter.2 ⟨hwm, hp⟩, rfl⟩
  calc d'.live (d.slots k)
      = (d.live (d.slots k)).filter d'.isPending := by
        rw [Desk.live, Desk.live, List.filter_filter]
        apply List.filter_congr
        intro t _
        cases ht : d'.isPending t
        · simp
        · simp [hsub t ht]
    _ = ((d.waits.filter (·.key = k)).filter fun w => d'.isPending w.ticket).map Wait.ticket := by
        rw [h.live, pendingOn, List.filter_map]
        rfl
    _ = ((d.waits.filter (·.key = k)).filter p).map Wait.ticket := by
        congr 1
        exact List.filter_congr fun w hwm => hkeep w (List.mem_of_mem_filter hwm)
    _ = d'.pendingOn k := by
        rw [pendingOn, hw, List.filter_filter, List.filter_filter]
        simp only [Bool.and_comm]

theorem Seated.shrink (h : d.Seated n) {p : Wait K → Bool} (hw : d'.waits = d.waits.filter p)
    (hs : ∀ k, d'.slots k = d.slots k ∨ d'.slots k = d'.live (d.slots k))
    (ho : ∀ k, d'.carriers.get? k ≠ some (.waiting [])) : d'.Seated n where
  sorted := by
    rw [hw]
    exact h.sorted.sublist (List.filter_sublist.map _)
  early := fun w hwm => h.early w (List.mem_of_mem_filter (hw ▸ hwm))
  slotsEarly := by
    intro k t ht
    rcases hs k with hk | hk <;> rw [hk] at ht
    · exact h.slotsEarly k t ht
    · exact h.slotsEarly k t (List.mem_of_mem_filter ht)
  live := by
    intro k
    rw [← h.live_filter hw]
    rcases hs k with hk | hk <;> rw [hk]
    rw [Desk.live, Desk.live, List.filter_filter]
    simp only [Bool.and_self]
  occupied := ho

theorem Seated.filter_pendingOn (h : d.Seated n) (k : K) :
    (d.waits.filter fun w => !(d.live (d.slots k)).contains w.ticket) =
      d.waits.filter (·.key ≠ k) := by
  apply List.filter_congr
  intro w hw
  rw [h.live, Bool.eq_iff_iff]
  simp [h.mem_pendingOn hw]

omit [DecidableEq K] in
theorem live_congr (hw : d'.waits = d.waits) : d'.live = d.live := by
  funext slots
  unfold live isPending
  rw [hw]

theorem Seated.deliver (h : d.Seated n) (k : K) (v : V) (now : Instant) :
    (d.deliver k v now).1.Seated n := by
  have hw := waits_deliver d k v now
  refine h.shrink hw (fun k' => ?_) fun k' => ?_
  · rw [slots_deliver]
    split_ifs with hk
    · right
      rw [h.live_filter hw, pendingOn, hw, h.filter_pendingOn, hk]
      simp
    · exact .inl rfl
  · rw [get?_deliver]
    split_ifs
    · simp
    · simp
    · exact h.occupied k'

theorem Seated.complete (h : d.Seated n) (k : K) : (d.complete k).1.Seated n := by
  have hw := waits_complete d k
  refine h.shrink hw (fun k' => ?_) fun k' => ?_
  · rw [slots_complete]
    split_ifs with hk
    · right
      rw [h.live_filter hw, pendingOn, hw, h.filter_pendingOn, hk]
      simp
    · exact .inl rfl
  · rw [get?_complete]
    split_ifs
    · cases d.parked k <;> simp
    · exact h.occupied k'

theorem Seated.cancel (h : d.Seated n) (t : Ticket) : (d.cancel t).Seated n :=
  h.shrink rfl (fun _ => .inl rfl) h.occupied

theorem cleared_slots {k : K} {d₀ : Desk K V} (hw : d'.waits = d₀.waits)
    (hk : d'.carriers.get? k = (d.carriers.get? k).bind d₀.cleared) :
    d'.slots k = d'.live (d.slots k) ∧ d'.carriers.get? k ≠ some (.waiting []) := by
  unfold slots
  rw [live_congr hw, hk]
  cases d.carriers.get? k with
  | none => exact ⟨rfl, by simp⟩
  | some c =>
    cases c with
    | parked _ _ => exact ⟨rfl, by simp [cleared]⟩
    | waiting slots => by_cases hl : d₀.live slots = [] <;> simp [cleared, hl]

theorem cleared_timeOut (d : Desk K V) (w : Wait K) :
    (d.timeOut w).slots w.key = (d.timeOut w).live (d.slots w.key) ∧
      (d.timeOut w).carriers.get? w.key ≠ some (.waiting []) := by
  have hends : (d.timeOut w).waits = (d.endCalls [w.ticket]).waits := by
    rw [waits_timeOut]
    simp only [endCalls, List.contains_cons, List.contains_nil, Bool.or_false, bne]
  exact cleared_slots hends (by rw [get?_timeOut, if_pos rfl])

theorem slots_timeOut (d : Desk K V) (w : Wait K) (k : K) :
    (d.timeOut w).slots k = if k = w.key then (d.timeOut w).live (d.slots k) else d.slots k := by
  split_ifs with hk
  · rw [hk]
    exact (cleared_timeOut d w).1
  · rw [slots, get?_timeOut, if_neg hk, slots]

theorem Seated.timeOut (h : d.Seated n) (w : Wait K) : (d.timeOut w).Seated n := by
  refine h.shrink (waits_timeOut d w) (fun k => ?_) fun k => ?_
  · rw [slots_timeOut]
    split_ifs
    · exact .inr rfl
    · exact .inl rfl
  · by_cases hk : k = w.key
    · rw [hk]
      exact (cleared_timeOut d w).2
    · rw [get?_timeOut, if_neg hk]
      exact h.occupied k

theorem cleared_sweep (d : Desk K V) (r : Retention V) (now : Instant) (k : K) :
    (d.sweep r now).slots k = (d.sweep r now).live (d.slots k) ∧
      (d.sweep r now).carriers.get? k ≠ some (.waiting []) := by
  have hk := get?_sweep d r now k
  cases hp : d.parked k with
  | none =>
    rw [hp] at hk
    exact cleared_slots rfl hk
  | some p =>
    rw [hp] at hk
    rw [slots_eq_nil_of_parked hp, slots, hk]
    by_cases hst : isStale r now p.2 p.1 = true
    · simp only [if_pos hst]
      exact ⟨rfl, by simp⟩
    · simp only [if_neg hst]
      exact ⟨rfl, by simp⟩

theorem Seated.sweep (h : d.Seated n) (r : Retention V) (now : Instant) :
    (d.sweep r now).Seated n := by
  have hw : (d.sweep r now).waits = d.waits.filter fun _ => true := by simp [Desk.sweep]
  exact h.shrink hw (fun k => .inr (cleared_sweep d r now k).1) fun k => (cleared_sweep d r now k).2

theorem Seated.wait_parked (h : d.Seated n) {k : K} {p : V × Instant} (hp : d.parked k = some p)
    (t : Ticket) (timeout now : Span) : (d.wait t k timeout now).1.Seated n := by
  have hw : (d.wait t k timeout now).1.waits = d.waits.filter fun _ => true := by
    simp [waits_wait, hp]
  refine h.shrink hw (fun k' => ?_) fun k' => ?_
  · left
    rw [slots_wait, hp]
    simp
  · rw [get?_wait, hp]
    split_ifs with hk hs
    · simp
    · exact absurd rfl hs
    · exact h.occupied k'

theorem Seated.wait_idle (h : d.Seated n) {k : K} (hp : d.parked k = none) (timeout now : Span) :
    (d.wait n k timeout now).1.Seated (n + 1) := by
  have hw : (d.wait n k timeout now).1.waits = d.waits ++ [⟨n, k, now, timeout⟩] := by
    simp [waits_wait, hp]
  have hs : ∀ k', (d.wait n k timeout now).1.slots k' =
      d.slots k' ++ if k' = k then [n] else [] := by
    intro k'
    simp only [slots_wait, hp, and_true]
  have hold : ∀ t < n, (d.wait n k timeout now).1.isPending t = d.isPending t := by
    intro t ht
    simp only [isPending, hw, List.any_append, List.any_cons, List.any_nil, Bool.or_false]
    have hne : (n == t) = false := by simpa using ht.ne'
    rw [hne, Bool.or_false]
  have hnew : (d.wait n k timeout now).1.isPending n = true :=
    isPending_iff.2 ⟨⟨n, k, now, timeout⟩, by simp [hw], rfl⟩
  have hlive : ∀ k', (d.wait n k timeout now).1.live (d.slots k') = d.live (d.slots k') :=
    fun k' => List.filter_congr fun t ht => hold t (h.slotsEarly k' t ht)
  exact {
    sorted := by
      rw [hw, List.map_append, List.pairwise_append]
      refine ⟨h.sorted, by simp, fun t ht t' ht' => ?_⟩
      obtain ⟨w, hwm, rfl⟩ := List.mem_map.1 ht
      rw [List.map_singleton, List.mem_singleton] at ht'
      rw [ht']
      exact h.early w hwm
    early := by
      intro w hwm
      rw [hw, List.mem_append, List.mem_singleton] at hwm
      rcases hwm with hwm | rfl
      · exact (h.early w hwm).trans n.lt_succ_self
      · exact n.lt_succ_self
    slotsEarly := by
      intro k' t ht
      rw [hs, List.mem_append] at ht
      rcases ht with ht | ht
      · exact (h.slotsEarly k' t ht).trans n.lt_succ_self
      · split_ifs at ht
        · rw [List.mem_singleton.1 ht]
          exact n.lt_succ_self
        · exact absurd ht (List.not_mem_nil)
    live := by
      intro k'
      rw [hs, pendingOn, hw, Desk.live, List.filter_append, List.filter_append, List.map_append]
      congr 1
      · exact (hlive k').trans (h.live k')
      · by_cases hk : k' = k
        · subst hk
          simp [hnew]
        · simp [hk, Ne.symm hk]
    occupied := by
      intro k'
      rw [get?_wait, hp]
      split_ifs
      · simp_all
      · simp
      · exact h.occupied k' }

theorem Seated.wait (h : d.Seated n) (k : K) (timeout now : Span) :
    (d.wait n k timeout now).1.Seated (n + 1) := by
  cases hp : d.parked k with
  | none => exact h.wait_idle hp timeout now
  | some p => exact (h.wait_parked hp n timeout now).mono n.le_succ

/-! Answers. -/

theorem Seated.waits_deliver (h : d.Seated n) (k : K) (v : V) (now : Instant) :
    (d.deliver k v now).1.waits = d.waits.filter (·.key ≠ k) :=
  (Desk.waits_deliver d k v now).trans (h.filter_pendingOn k)

theorem Seated.waits_complete (h : d.Seated n) (k : K) :
    (d.complete k).1.waits = d.waits.filter (·.key ≠ k) :=
  (Desk.waits_complete d k).trans (h.filter_pendingOn k)

/-- What becomes of a value depends on the pending calls first, then on what is parked. A slot nobody
waits on is only noticed. -/
theorem Seated.placement_deliver (h : d.Seated n) (k : K) (v : V) (now : Instant) :
    (d.deliver k v now).2 =
      if d.pendingOn k ≠ [] then .woke (d.pendingOn k)
      else if (d.parked k).isSome then .replaced
      else if d.slots k = [] then .stored else .storedLate := by
  rw [← h.live]
  have ho := h.occupied k
  unfold Desk.deliver parked slots
  cases hc : d.carriers.get? k with
  | none => simp [Desk.live]
  | some c =>
    cases c with
    | parked _ _ => simp [Desk.live]
    | waiting slots =>
      have hne : slots ≠ [] := fun he => ho (by rw [hc, he])
      cases hl : d.live slots <;> simp [hl, hne]

theorem Seated.completion_complete (h : d.Seated n) (k : K) :
    (d.complete k).2 =
      if d.pendingOn k ≠ [] then .woke (d.pendingOn k) else .back (d.slots k ≠ []) := by
  rw [← h.live]
  have ho := h.occupied k
  unfold Desk.complete slots
  cases hc : d.carriers.get? k with
  | none => simp [Desk.live]
  | some c =>
    cases c with
    | parked _ _ => simp [Desk.live]
    | waiting slots =>
      have hne : slots ≠ [] := fun he => ho (by rw [hc, he])
      cases hl : d.live slots <;> simp [hl, hne]

theorem Seated.parked_deliver (h : d.Seated n) (k k' : K) (v : V) (now : Instant) :
    (d.deliver k v now).1.parked k' =
      if k' = k ∧ d.pendingOn k = [] then some (v, now) else d.parked k' := by
  rw [parked, get?_deliver, h.live]
  by_cases hk : k' = k
  · subst hk
    by_cases hp : d.pendingOn k' = []
    · simp [hp]
    · simp [hp, h.parked_eq_none hp]
  · simp [hk, parked]

theorem parked_complete (d : Desk K V) (k k' : K) : (d.complete k).1.parked k' = d.parked k' := by
  rw [parked, get?_complete]
  by_cases hk : k' = k
  · rw [if_pos hk, hk]
    cases d.parked k <;> rfl
  · rw [if_neg hk, parked]

theorem parked_wait (d : Desk K V) (t : Ticket) (k k' : K) (timeout now : Span) :
    (d.wait t k timeout now).1.parked k' = if k' = k then none else d.parked k' := by
  rw [parked, get?_wait]
  by_cases hk : k' = k
  · rw [if_pos hk, if_pos hk]
    split_ifs <;> rfl
  · rw [if_neg hk, if_neg hk, parked]

theorem parked_bind_cleared (d : Desk K V) (d₀ : Desk K V) (k : K)
    (hk : d'.carriers.get? k = (d.carriers.get? k).bind d₀.cleared) : d'.parked k = d.parked k := by
  unfold parked
  rw [hk]
  cases d.carriers.get? k with
  | none => rfl
  | some c =>
    cases c with
    | parked _ _ => rfl
    | waiting slots => by_cases hl : d₀.live slots = [] <;> simp [cleared, hl]

theorem parked_timeOut (d : Desk K V) (w : Wait K) (k : K) : (d.timeOut w).parked k = d.parked k := by
  have hk := get?_timeOut d w k
  by_cases hkey : k = w.key
  · rw [if_pos hkey] at hk
    exact parked_bind_cleared d _ k hk
  · rw [if_neg hkey] at hk
    rw [parked, hk, parked]

theorem parked_sweep (d : Desk K V) (r : Retention V) (now : Instant) (k : K) :
    (d.sweep r now).parked k = (d.parked k).filter fun p => !isStale r now p.2 p.1 := by
  have hk := get?_sweep d r now k
  cases hp : d.parked k with
  | none =>
    rw [hp] at hk
    exact (parked_bind_cleared d _ k hk).trans hp
  | some p =>
    rw [hp] at hk
    rw [parked, hk]
    by_cases hst : isStale r now p.2 p.1 = true <;> simp [hst, Option.filter]

end MessageExchange.Correlation.Desk
