/-! Places under keys, one place a key. What a shelf holds is seen through `get?`; `size` counts its
places. -/

namespace MessageExchange

structure Shelf (K α : Type) where
  places : List (K × α)
  distinct : (places.map Prod.fst).Nodup
  deriving DecidableEq

namespace Shelf

variable {K α : Type} [DecidableEq K]

def empty : Shelf K α := ⟨[], by simp⟩

def get? (s : Shelf K α) (k : K) : Option α := (s.places.find? (·.1 = k)).map Prod.snd

def size (s : Shelf K α) : Nat := s.places.length

def keys (s : Shelf K α) : List K := s.places.map Prod.fst

/-- Keeps or changes each place, or clears it. -/
def revise (f : K → α → Option α) (s : Shelf K α) : Shelf K α where
  places := s.places.filterMap fun p => (f p.1 p.2).map (p.1, ·)
  distinct := by
    have h : (s.places.filterMap fun p => (f p.1 p.2).map (p.1, ·)).map Prod.fst =
        (s.places.filter fun p => (f p.1 p.2).isSome).map Prod.fst := by
      induction s.places with
      | nil => rfl
      | cons p rest ih => cases hp : f p.1 p.2 <;> simp [hp, ih]
    rw [h]
    exact s.distinct.sublist (List.filter_sublist.map _)

def erase (s : Shelf K α) (k : K) : Shelf K α := s.revise fun k' a => if k' = k then none else some a

theorem get?_revise (f : K → α → Option α) (s : Shelf K α) (k : K) :
    (s.revise f).get? k = (s.get? k).bind (f k) := by
  obtain ⟨places, distinct⟩ := s
  simp only [get?, revise]
  induction places with
  | nil => rfl
  | cons p rest ih =>
    simp only [List.map_cons, List.nodup_cons] at distinct
    specialize ih distinct.2
    by_cases hk : p.1 = k
    · have hnone : rest.find? (·.1 = k) = none := by
        simp only [List.find?_eq_none, decide_eq_true_eq]
        exact fun q hq he => distinct.1 (List.mem_map.2 ⟨q, hq, he.trans hk.symm⟩)
      cases hp : f p.1 p.2 with
      | some b =>
        subst hk
        simp only [List.filterMap_cons, hp, Option.map_some, List.find?_cons, decide_true,
          Option.bind_some]
      | none =>
        subst hk
        simp only [List.filterMap_cons, hp, Option.map_none, List.find?_cons, decide_true, ih,
          hnone, Option.map_some, Option.bind_some, Option.bind_none]
    · cases hp : f p.1 p.2 with
      | some b => simp only [List.filterMap_cons, hp, Option.map_some, List.find?_cons, hk,
          decide_false, ih]
      | none => simp only [List.filterMap_cons, hp, Option.map_none, List.find?_cons, hk,
          decide_false, ih]

omit [DecidableEq K] in
theorem revise_revise (f g : K → α → Option α) (s : Shelf K α) :
    (s.revise f).revise g = s.revise fun k a => (f k a).bind (g k) := by
  simp only [revise, mk.injEq, List.filterMap_filterMap]
  congr 1
  funext p
  cases f p.1 p.2 <;> rfl

theorem get?_erase (s : Shelf K α) (k k' : K) :
    (s.erase k).get? k' = if k' = k then none else s.get? k' := by
  rw [erase, get?_revise]
  by_cases h : k' = k <;> cases s.get? k' <;> simp [h]

theorem get?_eq_none_iff {s : Shelf K α} {k : K} : s.get? k = none ↔ k ∉ s.keys := by
  simp only [get?, keys, Option.map_eq_none_iff, List.find?_eq_none, List.mem_map,
    decide_eq_true_eq]
  constructor
  · rintro h ⟨p, hp, rfl⟩
    exact h p hp rfl
  · intro h p hp he
    exact h ⟨p, hp, he⟩

/-- Puts `a` under `k`, in place of what stood there. -/
def put (s : Shelf K α) (k : K) (a : α) : Shelf K α where
  places := (s.erase k).places ++ [(k, a)]
  distinct := by
    rw [List.map_append, List.nodup_append]
    refine ⟨(s.erase k).distinct, by simp, ?_⟩
    intro x hx y hy
    simp only [List.map_cons, List.map_nil, List.mem_singleton] at hy
    subst hy
    rintro rfl
    have := (get?_eq_none_iff (s := s.erase x) (k := x)).1 (by simp [get?_erase])
    exact this hx

theorem get?_put (s : Shelf K α) (k k' : K) (a : α) :
    (s.put k a).get? k' = if k' = k then some a else s.get? k' := by
  have h := get?_erase s k k'
  simp only [get?, put, List.find?_append] at h ⊢
  by_cases hk : k' = k
  · subst hk
    simp only [ite_true, Option.map_eq_none_iff] at h
    simp [h]
  · have hne : ¬ k = k' := fun e => hk e.symm
    simp only [hk, ite_false] at h ⊢
    rw [← h]
    simp [hne]

@[simp] theorem get?_empty (k : K) : (empty : Shelf K α).get? k = none := rfl

theorem mem_places_iff {s : Shelf K α} {k : K} {a : α} :
    (k, a) ∈ s.places ↔ s.get? k = some a := by
  obtain ⟨places, distinct⟩ := s
  simp only [get?]
  induction places with
  | nil => simp
  | cons p rest ih =>
    simp only [List.map_cons, List.nodup_cons] at distinct
    by_cases hk : p.1 = k
    · subst hk
      simp only [List.mem_cons, List.find?_cons, decide_true, Option.map_some,
        Option.some.injEq]
      constructor
      · rintro (h | h)
        · exact (congrArg Prod.snd h).symm
        · exact absurd (List.mem_map.2 ⟨_, h, rfl⟩) distinct.1
      · intro h
        exact Or.inl (Prod.ext rfl h.symm)
    · have hne : (k, a) ≠ p := fun e => hk (by rw [← e])
      simp [hk, hne, ih distinct.2]

end Shelf

end MessageExchange
