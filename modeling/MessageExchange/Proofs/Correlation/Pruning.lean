import MessageExchange.Proofs.Correlation.Occupancy

/-! What one sweep takes. A carrier is spent when its value has been kept too long or has gone stale by its
own account, or when all calls on its slots were given up. A sweep takes the spent carriers and nothing else:
every other value stays as it was parked, and every pending call goes on as if there had been no sweep. -/

namespace MessageExchange

theorem Shelf.eq_empty {K α : Type} [DecidableEq K] {s : Shelf K α} (h : ∀ k, s.get? k = none) :
    s = empty := by
  obtain ⟨places, distinct⟩ := s
  have hnil : places = [] := by
    rw [List.eq_nil_iff_forall_not_mem]
    exact fun p hp => get?_eq_none_iff.1 (h p.1) (List.mem_map.2 ⟨p, hp, rfl⟩)
  subst hnil
  rfl

namespace Correlation

variable {K V : Type} [DecidableEq K]

namespace Desk

variable {d : Desk K V} {n : Ticket} {r : Retention V} {now : Instant} {k : K}

/-- A sweep at `now` has to take the carrier under `k`: its value was parked more than the ttl before, or is
stale by its own account, or nobody waits on its slots any more. -/
def Spent (d : Desk K V) (r : Retention V) (now : Instant) (k : K) : Prop :=
  (∃ v since, d.parked k = some (v, since) ∧
      ((r.ttl.nanos : Int) < now.since since ∨ r.stale v r.ttl now = true)) ∨
    d.Deserted k

theorem not_deserted_of_parked {p : V × Instant} (hp : d.parked k = some p) : ¬ d.Deserted k :=
  fun hd => hd.1 (slots_eq_nil_of_parked hp)

theorem spent_iff_of_parked {p : V × Instant} (hp : d.parked k = some p) :
    d.Spent r now k ↔ isStale r now p.2 p.1 = true := by
  rw [Spent, or_iff_left (not_deserted_of_parked hp), isStale, Bool.or_eq_true, decide_eq_true_iff, or_comm]
  constructor
  · rintro ⟨v, since, hv, hstale⟩
    rw [hp] at hv
    obtain rfl := Option.some.inj hv
    exact hstale
  · exact fun hstale => ⟨p.1, p.2, hp, hstale⟩

theorem spent_iff_of_empty (hp : d.parked k = none) : d.Spent r now k ↔ d.Deserted k := by
  rw [Spent, or_iff_right]
  rintro ⟨v, since, hv, -⟩
  rw [hp] at hv
  exact absurd hv (by simp)

theorem parked_sweep_eq_some_iff {p : V × Instant} :
    (d.sweep r now).parked k = some p ↔ d.parked k = some p ∧ ¬ d.Spent r now k := by
  rw [parked_sweep, Option.filter_eq_some_iff]
  refine and_congr_right fun hp => ?_
  rw [spent_iff_of_parked hp, Bool.not_eq_true', Bool.not_eq_true]

theorem Seated.slots_sweep (h : d.Seated n) : (d.sweep r now).slots k = d.pendingOn k := by
  have hlive : (d.sweep r now).live = d.live := live_congr rfl
  rw [(cleared_sweep d r now k).1, hlive, h.live]

theorem Seated.contains_iff (h : d.Seated n) (k : K) :
    d.contains k = true ↔ d.pendingOn k ≠ [] ∨ d.Deserted k ∨ ∃ p, d.parked k = some p := by
  rw [contains, h.occupied_iff, h.slots_ne_nil_iff, or_assoc, Option.isSome_iff_exists]

theorem Seated.contains_sweep (h : d.Seated n) :
    (d.sweep r now).contains k = true ↔ d.contains k = true ∧ ¬ d.Spent r now k := by
  rw [contains, (h.sweep r now).occupied_iff, h.slots_sweep, h.contains_iff, Option.isSome_iff_exists]
  simp only [parked_sweep_eq_some_iff]
  cases hp : d.parked k with
  | some p =>
    have hidle : d.pendingOn k = [] := by
      by_contra hne
      rw [h.parked_eq_none hne] at hp
      exact absurd hp (by simp)
    simp [hidle]
  | none =>
    rw [spent_iff_of_empty hp]
    by_cases hidle : d.pendingOn k = []
    · simp [hidle]
    · simp [hidle, Deserted]

theorem Seated.size_sweep (h : d.Seated n) (r : Retention V) (now : Instant) :
    ((d.size - (d.sweep r now).size : Nat) : ℕ∞) = {k | d.Spent r now k}.encard := by
  have hspent : ∀ k, d.Spent r now k → d.contains k = true := by
    intro k hk
    rw [h.contains_iff]
    rcases hk with ⟨v, since, hp, -⟩ | hd
    · exact .inr (.inr ⟨_, hp⟩)
    · exact .inr (.inl hd)
  have hdisjoint : Disjoint {k | (d.sweep r now).contains k = true} {k | d.Spent r now k} := by
    rw [Set.disjoint_left]
    exact fun k hk hs => (h.contains_sweep.1 hk).2 hs
  have hunion : {k | d.contains k = true} =
      {k | (d.sweep r now).contains k = true} ∪ {k | d.Spent r now k} := by
    ext k
    simp only [Set.mem_ofPred_eq, Set.mem_union, h.contains_sweep]
    constructor
    · exact fun hk => (em (d.Spent r now k)).symm.imp_left fun hs => ⟨hk, hs⟩
    · exact fun hk => hk.elim And.left (hspent k)
  have hsize := Set.encard_union_eq hdisjoint
  rw [← hunion] at hsize
  have hall : {k | d.contains k = true}.encard = d.size := Shelf.encard_occupied d.carriers
  have hleft : {k | (d.sweep r now).contains k = true}.encard = (d.sweep r now).size :=
    Shelf.encard_occupied (d.sweep r now).carriers
  rw [hall, hleft] at hsize
  rw [ENat.natCast_sub, hsize]
  exact (ENat.addLECancellable_natCast _).add_tsub_cancel_left

omit [DecidableEq K] in
theorem sweep_sweep (d : Desk K V) (r : Retention V) (now : Instant) :
    (d.sweep r now).sweep r now = d.sweep r now := by
  have hlive : (d.sweep r now).live = d.live := live_congr rfl
  rw [sweep, hlive]
  simp only [sweep, Shelf.revise_revise, mk.injEq, and_true]
  congr 1
  funext k c
  cases c with
  | parked v since => by_cases hs : isStale r now since v = true <;> simp [hs]
  | waiting slots =>
    cases hl : d.live slots with
    | nil => simp [hl]
    | cons t ts =>
      -- the slots that are left are those of pending calls already
      have hagain : d.live (t :: ts) = t :: ts := by
        rw [← hl, live, live, List.filter_filter]
        simp only [Bool.and_self]
      simp [hl, hagain]

theorem Seated.sweep_eq_empty (h : d.Seated n) (hw : d.waits = [])
    (hspent : ∀ k, (d.parked k).isSome → d.Spent r now k) : d.sweep r now = Desk.empty := by
  have hgone : ∀ k, (d.sweep r now).carriers.get? k = none := by
    intro k
    rw [← Option.not_isSome_iff_eq_none]
    intro hleft
    obtain ⟨hk, hs⟩ := h.contains_sweep.1 hleft
    have hidle : d.pendingOn k = [] := by rw [pendingOn, hw]; rfl
    rcases (h.contains_iff k).1 hk with hp | hd | ⟨p, hp⟩
    · exact hp hidle
    · exact hs (.inr hd)
    · exact hs (hspent k (by rw [hp]; rfl))
  calc d.sweep r now = ⟨(d.sweep r now).carriers, d.waits⟩ := rfl
    _ = Desk.empty := by rw [Shelf.eq_empty hgone, hw]; rfl

end Desk

namespace Run

variable {s : Run K V}

theorem mem_waits_after (h : s.desk.Seated s.next) (r : Retention V) {acts : List (Act K V)} {w : Wait K}
    (hw : w ∈ s.desk.waits) (hopen : verdict w s.waiting acts = none) : w ∈ (s.after r acts).desk.waits := by
  induction acts generalizing s with
  | nil => exact hw
  | cons a rest ih =>
    rw [verdict, Option.or_eq_none_iff] at hopen
    obtain ⟨hend, hrest⟩ := hopen
    have hstays : w ∈ (s.step r a).1.desk.waits := by
      rw [waits_step h]
      exact List.mem_append_left _ (List.mem_filter.2 ⟨hw, by rw [hend]; rfl⟩)
    rw [← waiting_step r a] at hrest
    exact ih (seated_step h r a) hstays hrest

theorem woken_after (h : s.desk.Seated s.next) (r : Retention V) {acts : List (Act K V)} {w : Wait K}
    (hw : w ∈ s.desk.waits) (hopen : verdict w s.waiting acts = none) (v : V) :
    (w.ticket, .value v) ∈ ((s.after r acts).step r (.deliver w.key v)).2.2 := by
  have hafter := seated_after h r acts
  rw [step_deliver hafter]
  have hpending := (hafter.mem_pendingOn (mem_waits_after h r hw hopen) w.key).2 rfl
  exact List.mem_map.2 ⟨_, hpending, rfl⟩

/-- A sweep, in any state of a run: the carriers it takes are those that are spent, and it says how many
they were. Every other value stays, and is no younger than before. No call ends; a call that is pending then
is woken by the next value under its key, if nothing else ends it first. A second sweep at the same time
takes nothing, and where nobody waits and every value is spent nothing is left. -/
theorem sweep_takes_spent (r : Retention V) (acts : List (Act K V)) :
    let s := start.after r acts
    let swept := (s.step r .sweep).1
    let spent := fun k => s.desk.Spent r s.storage k
    (∀ k, swept.desk.contains k = true ↔ s.desk.contains k = true ∧ ¬ spent k) ∧
      (∃ n : Nat, s.step r .sweep = (swept, .count n, []) ∧ (n : ℕ∞) = {k | spent k}.encard) ∧
      (∀ k p, swept.desk.parked k = some p ↔ s.desk.parked k = some p ∧ ¬ spent k) ∧
      swept.desk.waits = s.desk.waits ∧
      (∀ w ∈ s.desk.waits, ∀ us v, verdict w s.waiting us = none →
        (w.ticket, .value v) ∈ ((swept.after r us).step r (.deliver w.key v)).2.2) ∧
      swept.step r .sweep = (swept, .count 0, []) ∧
      (s.desk.waits = [] → (∀ k, (s.desk.parked k).isSome → spent k) → swept.desk = Desk.empty) := by
  intro s swept spent
  have h : s.desk.Seated s.next := seated_start r acts
  refine ⟨fun k => h.contains_sweep, ⟨_, rfl, h.size_sweep r s.storage⟩,
    fun k p => Desk.parked_sweep_eq_some_iff, rfl, ?_, ?_, h.sweep_eq_empty⟩
  · intro w hw us v hopen
    exact woken_after (seated_step h r .sweep) r hw hopen v
  · have hagain := Desk.sweep_sweep s.desk r s.storage
    simp only [step, swept, hagain, Nat.sub_self]

end Run

end Correlation

end MessageExchange
