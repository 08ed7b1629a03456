import MessageExchange.Proofs.Correlation.Listening
import MessageExchange.Correlation.Run

/-! Two ways to hand a value over. `complete` gives it to the pending calls or back; `deliver` gives it to
the pending calls or parks it. They agree wherever a call is pending, and where none is, handing the value
over after it came back leaves the desk as if it had been delivered at once. All that is lost on the way is
word of the calls that were given up. So a correlator without a listener does to its desk what one delivery
does. -/

namespace MessageExchange

theorem Shelf.put_erase {K α : Type} [DecidableEq K] (s : Shelf K α) (k : K) (a : α) :
    (s.erase k).put k a = s.put k a := by
  have htwice : (s.erase k).erase k = s.erase k := by
    rw [erase, erase, revise_revise]
    congr 1
    funext k' b
    split_ifs <;> rfl
  simp only [put, htwice]

namespace Correlation

def Placement.woken : Placement → List Ticket
  | woke ts => ts
  | _ => []

def Placement.settled : Placement → Placement
  | storedLate => stored
  | p => p

theorem Placement.settled_ne_woke {p : Placement} (h : ∀ ts, p ≠ woke ts) (ts : List Ticket) :
    p.settled ≠ woke ts := by
  cases p with
  | woke us => exact absurd rfl (h us)
  | stored | storedLate | replaced => exact nofun

theorem Placement.woken_settled (p : Placement) : p.settled.woken = p.woken := by
  cases p <;> rfl

variable {K V : Type} [DecidableEq K]

/-- Either both ways wake the same calls and leave the same desk, or neither wakes any, and the value that
came back is parked where it would have been. -/
theorem Desk.complete_deliver_cases (d : Desk K V) (k : K) (v : V) (now : Instant) :
    (∃ ts, (d.complete k).2 = .woke ts ∧ d.deliver k v now = ((d.complete k).1, .woke ts)) ∨
      ∃ late p, (d.complete k).2 = .back late ∧ (∀ ts, p ≠ .woke ts) ∧ (d.deliver k v now).2 = p ∧
        (d.complete k).1.deliver k v now = ((d.deliver k v now).1, p.settled) := by
  cases hc : d.carriers.get? k with
  | none =>
    have hcomplete : d.complete k = (d, .back false) := by rw [complete, hc]
    refine .inr ⟨false, .stored, ?_, nofun, ?_, ?_⟩
    · rw [hcomplete]
    · rw [deliver, hc]
    · rw [hcomplete]
      simp only [deliver, hc]
      rfl
  | some c =>
    cases c with
    | parked u since =>
      have hcomplete : d.complete k = (d, .back false) := by rw [complete, hc]
      refine .inr ⟨false, .replaced, ?_, nofun, ?_, ?_⟩
      · rw [hcomplete]
      · rw [deliver, hc]
      · rw [hcomplete]
        simp only [deliver, hc]
        rfl
    | waiting slots =>
      cases hl : d.live slots with
      | nil =>
        have hcomplete : d.complete k = ({ d with carriers := d.carriers.erase k }, .back true) := by
          simp only [complete, hc, hl]
        have hempty : (d.carriers.erase k).get? k = none := by rw [Shelf.get?_erase, if_pos rfl]
        refine .inr ⟨true, .storedLate, ?_, nofun, ?_, ?_⟩
        · rw [hcomplete]
        · simp only [deliver, hc, hl]
        · rw [hcomplete]
          simp only [deliver, hc, hl, hempty, Shelf.put_erase]
          rfl
      | cons t ts =>
        refine .inl ⟨t :: ts, ?_, ?_⟩
        · simp only [complete, hc, hl]
        · simp only [complete, deliver, hc, hl]

namespace Correlator

variable {c : Correlator} {n : Notification}

theorem answers_handover (site : Site) (kind : Kind) (n : Notification) (p : Placement) :
    (handover site kind n p).effects.filterMap Effect.answer? = p.woken.map (·, .ok n) := by
  cases p with
  | woke ts => simp [Handover.effects, handover, (answers_claims n ts).1, Placement.woken]
  | stored | storedLate | replaced => rfl

theorem result_handover (site : Site) (kind : Kind) (n : Notification) (p : Placement) :
    (handover site kind n p).result = .ok () := by
  cases p <;> rfl

theorem answers_noticed (h : Handover) (late : Bool) (site : Site) (kind : Kind) (about : String) :
    ({ h with
        seen := (if late = true then [.logged site (.lateDelivery kind.text about)] else []) ++ h.seen } :
      Handover).effects.filterMap Effect.answer? = h.effects.filterMap Effect.answer? := by
  cases late <;> rfl

theorem deliver_of_deaf (site : Site) (now : Instant) (hk : n.kind = c.kind) (hl : c.listener = none) :
    let placed := c.desk.deliver n.about n now
    (c.deliver site n now).1 = { c with desk := placed.1 } ∧
      (c.deliver site n now).2.result = .ok () ∧
      (c.deliver site n now).2.effects.filterMap Effect.answer? = placed.2.woken.map (·, .ok n) := by
  intro placed
  rw [deliver, if_neg (not_not.2 hk)]
  have hcases := c.desk.complete_deliver_cases n.about n now
  cases hd : c.desk.complete n.about with
  | mk desk completion =>
    rw [hd] at hcases
    obtain ⟨ts, hcomplete, hdeliver⟩ | ⟨late, p, hcomplete, -, hp, hagain⟩ := hcases
    · obtain rfl : completion = .woke ts := hcomplete
      have hplaced : placed = (desk, .woke ts) := hdeliver
      rw [hplaced]
      exact ⟨rfl, rfl, answers_handover site c.kind n (.woke ts)⟩
    · obtain rfl : completion = .back late := hcomplete
      have hplaced : desk.deliver n.about n now = (placed.1, p.settled) := hagain
      have hp' : placed.2 = p := hp
      simp only [hl, hplaced, true_and]
      refine ⟨result_handover site c.kind n p.settled, ?_⟩
      rw [answers_noticed, answers_handover, hp', Placement.woken_settled]

end Correlator

namespace Run

variable {s : Run K V}

theorem step_deliver_of_idle (r : Retention V) {k : K} {v : V} {d : Desk K V} {p : Placement}
    (hd : s.desk.deliver k v s.storage = (d, p)) (hp : ∀ ts, p ≠ .woke ts) :
    s.step r (.deliver k v) = ({ s with desk := d }, .placed p, []) := by
  simp only [step, hd]

/-- Handing a value to the pending calls and delivering it, in one and the same state. Both wake the same
calls with the value and leave the same state; or neither wakes a call, and then delivering the value that
came back leaves the state that delivering at once leaves, and is answered alike but for word of calls given
up. A correlator without a listener does the latter: on its desk and to the calls that wait it has the effect
of one delivery, and a notification of another kind has none. -/
theorem delivery_paths_agree (r : Retention V) (s : Run K V) (k : K) (v : V) :
    let completed := s.step r (.complete k v)
    let delivered := s.step r (.deliver k v)
    ((∃ ts, completed = (delivered.1, .woke ts, delivered.2.2) ∧ delivered.2.1 = .placed (.woke ts)) ∨
      ∃ late p, completed.2 = (.back v late, []) ∧ (∀ ts, p ≠ .woke ts) ∧
        delivered.2 = (.placed p, []) ∧
        completed.1.step r (.deliver k v) = (delivered.1, .placed p.settled, [])) ∧
    ∀ (c : Correlator) (site : Site) (n : Notification) (now : Instant), c.listener = none →
      let placed := c.desk.deliver n.about n now
      let handed := c.deliver site n now
      if n.kind = c.kind then
        handed.1 = { c with desk := placed.1 } ∧ handed.2.result = .ok () ∧
          handed.2.effects.filterMap Effect.answer? = placed.2.woken.map (·, .ok n)
      else handed = (c, ⟨.error (.invalidArgument (.wrongKind n.kind c.kind)), [], []⟩) := by
  intro completed delivered
  constructor
  · have hcases := s.desk.complete_deliver_cases k v s.storage
    cases hd : s.desk.complete k with
    | mk desk completion =>
      rw [hd] at hcases
      obtain ⟨ts, hcomplete, hdeliver⟩ | ⟨late, p, hcomplete, hnone, hp, hagain⟩ := hcases
      · obtain rfl : completion = .woke ts := hcomplete
        refine .inl ⟨ts, ?_, ?_⟩
        · simp only [completed, delivered, step, hd, hdeliver]
        · simp only [delivered, step, hdeliver]
      · obtain rfl : completion = .back late := hcomplete
        have hdelivered : delivered = ({ s with desk := (s.desk.deliver k v s.storage).1 }, .placed p, []) :=
          step_deliver_of_idle r (Prod.ext rfl hp) hnone
        have hcompleted : completed = ({ s with desk }, .back v late, []) := by
          simp only [completed, step, hd]
        refine .inr ⟨late, p, ?_, hnone, ?_, ?_⟩
        · rw [hcompleted]
        · rw [hdelivered]
        · rw [hcompleted, hdelivered]
          exact step_deliver_of_idle r hagain (Placement.settled_ne_woke hnone)
  · intro c site n now hl placed handed
    split_ifs with hk
    · exact Correlator.deliver_of_deaf site now hk hl
    · exact Correlator.deliver_of_wrong_kind site now hk

end Run

end Correlation

end MessageExchange
