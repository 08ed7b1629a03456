import MessageExchange.Correlation.Desk
import Mathlib.Tactic

/-! What stands under each key after an operation on a desk, and which calls are left. A desk is read
through three views: the calls that wait for a key, the value parked under it, and the slots of its
carrier, where those of ended calls may still stand. -/

namespace MessageExchange.Correlation.Desk

variable {K V : Type} [DecidableEq K]

/-- The calls that wait for `k`, in order of arrival. -/
def pendingOn (d : Desk K V) (k : K) : List Ticket := (d.waits.filter (·.key = k)).map Wait.ticket

def parked (d : Desk K V) (k : K) : Option (V × Instant) :=
  match d.carriers.get? k with
  | some (.parked v since) => some (v, since)
  | _ => none

/-- The slots under `k`, those of ended calls among them. -/
def slots (d : Desk K V) (k : K) : List Ticket :=
  match d.carriers.get? k with
  | some (.waiting slots) => slots
  | _ => []

theorem get?_deliver (d : Desk K V) (k k' : K) (v : V) (now : Instant) :
    (d.deliver k v now).1.carriers.get? k' =
      if k' = k then if d.live (d.slots k) = [] then some (.parked v now) else none
      else d.carriers.get? k' := by
  unfold deliver slots
  cases hc : d.carriers.get? k with
  | none => simp [live, Shelf.get?_put]
  | some c =>
    cases c with
    | parked _ _ => simp [live, Shelf.get?_put]
    | waiting slots =>
      cases hl : d.live slots with
      | nil => simp [hl, Shelf.get?_put]
      | cons t ts => simp [hl, endCalls, Shelf.get?_erase]

theorem slots_deliver (d : Desk K V) (k k' : K) (v : V) (now : Instant) :
    (d.deliver k v now).1.slots k' = if k' = k then [] else d.slots k' := by
  rw [slots, get?_deliver]
  split_ifs <;> rfl

theorem waits_deliver (d : Desk K V) (k : K) (v : V) (now : Instant) :
    (d.deliver k v now).1.waits =
      d.waits.filter fun w => !(d.live (d.slots k)).contains w.ticket := by
  unfold deliver slots
  cases hc : d.carriers.get? k with
  | none => simp [live]
  | some c =>
    cases c with
    | parked _ _ => simp [live]
    | waiting slots => cases hl : d.live slots <;> simp [hl, endCalls]

theorem get?_complete (d : Desk K V) (k k' : K) :
    (d.complete k).1.carriers.get? k' =
      if k' = k then (d.parked k).map fun p => .parked p.1 p.2 else d.carriers.get? k' := by
  unfold complete parked
  by_cases hk : k' = k
  · subst hk
    cases hc : d.carriers.get? k' with
    | none => simp [hc]
    | some c =>
      cases c with
      | parked _ _ => simp [hc]
      | waiting slots => cases hl : d.live slots <;> simp [hl, endCalls, Shelf.get?_erase]
  · cases hc : d.carriers.get? k with
    | none => simp [hk]
    | some c =>
      cases c with
      | parked _ _ => simp [hk]
      | waiting slots => cases hl : d.live slots <;> simp [hl, hk, endCalls, Shelf.get?_erase]

theorem waits_complete (d : Desk K V) (k : K) :
    (d.complete k).1.waits =
      d.waits.filter fun w => !(d.live (d.slots k)).contains w.ticket := by
  unfold complete slots
  cases hc : d.carriers.get? k with
  | none => simp [live]
  | some c =>
    cases c with
    | parked _ _ => simp [live]
    | waiting slots => cases hl : d.live slots <;> simp [hl, endCalls]

theorem slots_complete (d : Desk K V) (k k' : K) :
    (d.complete k).1.slots k' = if k' = k then [] else d.slots k' := by
  rw [slots, get?_complete]
  split_ifs
  · cases d.parked k <;> rfl
  · rfl

theorem get?_wait (d : Desk K V) (t : Ticket) (k k' : K) (timeout now : Span) :
    (d.wait t k timeout now).1.carriers.get? k' =
      if k' = k then if (d.parked k).isSome then none else some (.waiting (d.slots k ++ [t]))
      else d.carriers.get? k' := by
  unfold wait parked slots
  cases hc : d.carriers.get? k with
  | none => simp [Shelf.get?_put]
  | some c => cases c <;> simp [Shelf.get?_put, Shelf.get?_erase]

theorem slots_eq_nil_of_parked {d : Desk K V} {k : K} {p : V × Instant} (h : d.parked k = some p) :
    d.slots k = [] := by
  unfold parked at h
  unfold slots
  cases hc : d.carriers.get? k with
  | none => rfl
  | some c =>
    cases c with
    | parked _ _ => rfl
    | waiting _ => simp [hc] at h

theorem slots_wait (d : Desk K V) (t : Ticket) (k k' : K) (timeout now : Span) :
    (d.wait t k timeout now).1.slots k' =
      d.slots k' ++ if k' = k ∧ d.parked k = none then [t] else [] := by
  rw [slots, get?_wait]
  by_cases hk : k' = k
  · subst hk
    cases hp : d.parked k' with
    | none => simp
    | some p => simp [slots_eq_nil_of_parked hp]
  · simp [hk, slots]

theorem waits_wait (d : Desk K V) (t : Ticket) (k : K) (timeout now : Span) :
    (d.wait t k timeout now).1.waits =
      d.waits ++ if (d.parked k).isSome then [] else [⟨t, k, now, timeout⟩] := by
  unfold wait parked
  cases hc : d.carriers.get? k with
  | none => simp
  | some c => cases c <;> simp

theorem claimed_wait (d : Desk K V) (t : Ticket) (k : K) (timeout now : Span) :
    (d.wait t k timeout now).2 = (d.parked k).map Prod.fst := by
  unfold wait parked
  cases hc : d.carriers.get? k with
  | none => simp
  | some c => cases c <;> simp

/-- What is left of a carrier once the slots of ended calls are cleared. -/
def cleared (d : Desk K V) : Carrier V → Option (Carrier V)
  | .parked v since => some (.parked v since)
  | .waiting slots => if d.live slots = [] then none else some (.waiting (d.live slots))

theorem get?_timeOut (d : Desk K V) (w : Wait K) (k : K) :
    (d.timeOut w).carriers.get? k =
      if k = w.key then (d.carriers.get? k).bind (d.endCalls [w.ticket]).cleared
      else d.carriers.get? k := by
  unfold timeOut tidy
  have hsame : (d.endCalls [w.ticket]).carriers = d.carriers := rfl
  rw [hsame]
  by_cases hk : k = w.key
  · subst hk
    cases hc : d.carriers.get? w.key with
    | none => simp [hsame, hc]
    | some c =>
      cases c with
      | parked _ _ => simp [hsame, hc, cleared]
      | waiting slots =>
        cases hl : (d.endCalls [w.ticket]).live slots <;>
          simp [hl, cleared, Shelf.get?_erase, Shelf.get?_put]
  · cases hc : d.carriers.get? w.key with
    | none => simp [hsame, hk]
    | some c =>
      cases c with
      | parked _ _ => simp [hsame, hk]
      | waiting slots =>
        cases hl : (d.endCalls [w.ticket]).live slots <;>
          simp [hl, hk, Shelf.get?_erase, Shelf.get?_put]

theorem waits_timeOut (d : Desk K V) (w : Wait K) :
    (d.timeOut w).waits = d.waits.filter fun w' => w'.ticket != w.ticket := by
  have h : (d.endCalls [w.ticket]).waits = d.waits.filter fun w' => w'.ticket != w.ticket := by
    simp only [endCalls, List.contains_cons, List.contains_nil, Bool.or_false, bne]
  unfold timeOut tidy
  split
  · split <;> exact h
  · exact h

theorem get?_sweep (d : Desk K V) (r : Retention V) (now : Instant) (k : K) :
    (d.sweep r now).carriers.get? k =
      match d.parked k with
      | some (v, since) => if isStale r now since v then none else some (.parked v since)
      | none => (d.carriers.get? k).bind d.cleared := by
  unfold sweep parked
  rw [Shelf.get?_revise]
  cases hc : d.carriers.get? k with
  | none => rfl
  | some c =>
    cases c with
    | parked _ _ => rfl
    | waiting slots => cases hl : d.live slots <;> simp [hl, cleared]

end MessageExchange.Correlation.Desk
