import MessageExchange.Proofs.Network.Ownership
import MessageExchange.Proofs.Registry.Catalogs

/-! At every moment a wire is attached to the gateway that was set up on it and has not had it shut down,
and to nobody else. What comes in over it reaches that gateway alone, and another one can be set up on it
only after it was let go of. -/

namespace MessageExchange

open Correlation (Ticket)

namespace Gateway.Course

theorem Tracked.advance {drives : Move → Prop} {c c' : Course} {notes more : List Note}
    {calls later : List Ticket} (h : Tracked c notes calls)
    (ha : Network.Traffic.Advances drives c c' more later) :
    Tracked c' (notes ++ more) (calls ++ later) := by
  rcases ha with ⟨rfl, rfl, rfl⟩ | ⟨m, -, hstep, rfl⟩
  · rwa [List.append_nil, List.append_nil]
  · have hnext := h.step m
    rwa [hstep] at hnext

theorem Tracked.start (s : Settings) (wire : Nat) (wireId : String) (waiting : Span)
    (storage : Instant) (next : Ticket) : Tracked (start s wire wireId waiting storage next) [] [] :=
  ⟨.of_unasked rfl, .start s wire wireId waiting storage next⟩

end Gateway.Course

namespace Network

theorem wire_of_mem_catalog {net : Network} {offered : List Nat} {id : String} {w : Nat}
    (h : (id, w) ∈ net.catalog offered) : ∃ wire, net.wires[w]? = some wire ∧ wire.id = id := by
  obtain ⟨v, -, hv⟩ := List.mem_filterMap.1 h
  obtain ⟨wire, hwire, heq⟩ := Option.map_eq_some_iff.1 hv
  obtain ⟨rfl, rfl⟩ := Prod.mk.inj heq
  exact ⟨wire, hwire, rfl⟩

def Registered (net : Network) : Prop :=
  ∀ id w, net.registry.wires.get? id = some w → ∃ wire, net.wires[w]? = some wire ∧ wire.id = id

/-- Why a gateway cannot be set up: its settings are not usable, the registry has neither the wire that
was selected nor the default one, or the wire has a gateway. -/
def Barred (net : Network) (s : Settings) : Prop :=
  (∃ cause, s.validate = .error cause) ∨
    ((∀ id, net.registry.choice.selected = some id → net.registry.wires.get? id = none) ∧
      net.registry.wires.get? net.registry.choice.fallback = none) ∨
    ∃ id w wire, net.registry.resolve net.registry.choice.selected = some (id, w) ∧
      net.wires[w]? = some wire ∧ wire.attached.isSome

def seat (net : Network) (s : Settings) (id : String) (w : Nat) (wire : Wire) : Network :=
  { net with
    wires := net.wires.set w { wire with attached := some net.gateways.length }
    gateways := net.gateways ++ [Gateway.start s w id net.storage] }

theorem create_cases {net : Network} (s : Settings) (hr : net.Registered)
    (hwilling : ∀ w ∈ net.wires, w.willing = true) :
    (net.Barred s ∧ ∃ cause seen, net.create s = (.error (.configuration cause), net, seen)) ∨
      ¬ net.Barred s ∧ ∃ id w wire seen,
        net.registry.resolve net.registry.choice.selected = some (id, w) ∧
          net.wires[w]? = some wire ∧ wire.attached = none ∧
          net.create s = (.ok id, net.seat s id w wire, seen) := by
  cases hs : s.validate with
  | error cause => exact .inl ⟨.inl ⟨cause, hs⟩, cause, [], by simp only [create, hs]⟩
  | ok u =>
    have husable : ¬ ∃ cause, s.validate = .error cause := by
      rintro ⟨cause, hc⟩
      rw [hs] at hc
      cases hc
    cases hresolve : net.registry.resolve net.registry.choice.selected with
    | none =>
      refine .inl ⟨.inr (.inl (Registry.resolve_eq_none_iff.1 hresolve)), ?_⟩
      simp only [create, hs, Registry.resolveConfigured, hresolve]
      exact ⟨_, _, rfl⟩
    | some p =>
      obtain ⟨id, w⟩ := p
      have hfound : ¬ ((∀ id, net.registry.choice.selected = some id →
          net.registry.wires.get? id = none) ∧
            net.registry.wires.get? net.registry.choice.fallback = none) := by
        rw [← Registry.resolve_eq_none_iff, hresolve]
        exact Option.some_ne_none _
      obtain ⟨wire, hw, hid⟩ := hr id w (Registry.get?_of_resolve hresolve)
      have hattach := Wire.attach_eq (hwilling wire (List.mem_of_getElem? hw)) net.gateways.length
      cases howner : wire.attached with
      | some i =>
        rw [howner, Option.isSome_some, if_pos rfl] at hattach
        refine .inl ⟨.inr (.inr ⟨id, w, wire, hresolve, hw, by rw [howner]; rfl⟩), ?_⟩
        simp only [create, hs, Registry.resolveConfigured, hresolve, hw, hattach]
        exact ⟨_, _, rfl⟩
      | none =>
        rw [howner, Option.isSome_none, if_neg Bool.false_ne_true] at hattach
        have hcreate : ∃ seen, net.create s = (.ok id, net.seat s id w wire, seen) := by
          simp only [create, hs, Registry.resolveConfigured, hresolve, hw, hattach]
          exact ⟨_, rfl⟩
        obtain ⟨seen, hcreate⟩ := hcreate
        refine .inr ⟨?_, id, w, wire, seen, rfl, hw, howner, hcreate⟩
        rintro (hbad | hlost | ⟨id', w', wire', hother, hw', htaken⟩)
        · exact husable hbad
        · exact hfound hlost
        · obtain ⟨rfl, rfl⟩ := Prod.mk.inj (Option.some.inj (hresolve.symm.trans hother))
          obtain rfl := Option.some.inj (hw.symm.trans hw')
          rw [howner] at htaken
          cases htaken

namespace Traffic

open Gateway.Course (Tracked office receipt)

variable {t t' : Traffic} {m : Move} {notes more : List Note}

/-- Every gateway makes moves of its own, and the wires are theirs. -/
structure Governed (t : Traffic) (notes : List Note) : Prop where
  registered : t.net.Registered
  tracked : ∀ i g, t.net.gateways[i]? = some g → Tracked (t.view i g) (notesOf i notes) (callsOf i notes)
  vacant : ∀ i, t.net.gateways.length ≤ i → Vacant t i ∧ notesOf i notes = [] ∧ callsOf i notes = []
  owned : Owned t notes

theorem Governed.start {wires : List Wire} (hfree : ∀ w ∈ wires, w.attached = none) (waiting : Span)
    (storage : Instant) (next : Ticket) (seed : Nat) :
    Governed (start wires waiting storage next seed) [] := by
  have hnobody : ∀ (i : Nat) (g : Gateway), ([] : List Gateway)[i]? ≠ some g := by
    intro i g hi
    rw [List.getElem?_nil] at hi
    cases hi
  refine ⟨fun id w hget => ?_, fun i g hi => absurd hi (hnobody i g),
    fun i _ => ⟨⟨rfl, rfl⟩, rfl, rfl⟩, fun i => rfl, fun i => rfl,
    fun i g hi => absurd hi (hnobody i g), fun w wire i hw => ?_⟩
  · have hnone : (Shelf.empty : Shelf String Nat).get? id = some w := hget
    rw [Shelf.get?_empty] at hnone
    cases hnone
  · rw [hfree wire (List.mem_of_getElem? hw)]
    constructor
    · intro h
      cases h
    · rintro ⟨g, hi, -⟩
      exact absurd hi (hnobody i g)

theorem Governed.registered_moved (h : Governed t notes) (hm : Moved t m t' more) : t'.net.Registered := by
  have hkept : t'.net.registry = t.net.registry → t'.net.Registered := by
    intro heq id w hget
    rw [heq] at hget
    obtain ⟨wire, hw, rfl⟩ := h.registered id w hget
    obtain ⟨wire', hw', halike⟩ := (reattached_moved hm).still hw
    exact ⟨wire', hw', halike.id⟩
  cases hm with
  | furnish hfurnished =>
    intro id w hget
    exact wire_of_mem_catalog (Registry.mem_of_create hfurnished hget)
  | refuse hrefused =>
    obtain rfl := create_error hrefused
    exact hkept rfl
  | create hcreated hseat =>
    obtain ⟨v, x, x', -, -, -, rfl⟩ := create_ok hcreated
    exact hkept rfl
  | push hp hpushes hhands =>
    rcases hand_cases hhands with ⟨rfl, -⟩ | ⟨j, g, draft, c, gnotes, -, -, -, -, rfl, -⟩
    · exact hkept rfl
    · exact hkept rfl
  | receive hbound hattached hhands =>
    rcases hand_cases hhands with ⟨rfl, -⟩ | ⟨j, g, draft, c, gnotes, -, -, -, -, rfl, -⟩
    · exact hkept rfl
    · exact hkept rfl
  | _ => exact hkept rfl

theorem Governed.owned_moved (h : Governed t notes) (hm : Moved t m t' more) :
    Owned t' (notes ++ more) := by
  have hplain : ∀ {fault : Fault}, ∀ note ∈ [Note.refused fault], Plain note := by
    intro fault note hnote
    rw [List.mem_singleton.1 hnote]
    trivial
  cases hm with
  | refuse hrefused =>
    obtain rfl := create_error hrefused
    exact h.owned.ordinary (.same rfl rfl hplain)
  | @create s id net seen g hcreated hseat =>
    obtain ⟨w, wire, wire', -, hw, hattach, rfl⟩ := create_ok hcreated
    obtain ⟨hfree, rfl⟩ := wire.attach_ok hattach
    obtain rfl : Gateway.start s w id t.net.storage = g := by
      rw [List.getElem?_concat_length] at hseat
      exact Option.some.inj hseat
    exact h.owned.create hw hfree (h.vacant _ le_rfl).2.1
  | @own i g m c gnotes hi hown hstep =>
    have hquiet := (t.view i g).unasked_step (Gateway.Move.inside_of_own hown).2
    rw [hstep] at hquiet
    refine h.owned.ordinary (.seat hi hstep rfl rfl fun note hnote => ?_)
    rcases List.mem_append.1 hnote with hcall | hnote
    · obtain ⟨call, -, rfl⟩ := List.mem_map.1 hcall
      trivial
    · exact plain_map_of hquiet note hnote
  | attempt hi hfree hsending hbound htakes =>
    exact h.owned.ordinary (.rewired (rewired_set hbound (Wire.alike_attempt htakes)) rfl
      (List.forall_mem_nil _))
  | push hp hpushes hhands => exact h.owned.ordinary (.hand _ hhands trivial)
  | @finish i g p c gnotes hi hp hdone hstep =>
    have hquiet := (t.view i g).unasked_step (m := .finish p.outcome) nofun
    rw [hstep] at hquiet
    exact h.owned.ordinary (.seat hi hstep rfl rfl (plain_map_of hquiet))
  | attend hi hstep hunasked =>
    exact h.owned.ordinary (.seat hi hstep rfl rfl (plain_map_of hunasked))
  | free hi hbound hstep hasked hready =>
    exact h.owned.free hi hbound hstep hasked (h.tracked _ _ hi)
  | @answer i g r c gnotes hi hready hstep =>
    have hquiet := (t.view i g).unasked_step (m := .released r.answer) nofun
    rw [hstep] at hquiet
    exact h.owned.ordinary (.seat hi hstep rfl rfl (plain_map_of hquiet))
  | receive hbound hattached hhands =>
    exact h.owned.ordinary (.hand t.passing hhands trivial)
  | turnAway fault => exact h.owned.ordinary (.same rfl rfl hplain)
  | rewire hrewired => exact h.owned.ordinary (.rewired hrewired rfl (List.forall_mem_nil _))
  | _ => exact h.owned.ordinary (.same rfl rfl (List.forall_mem_nil _))

theorem Governed.moved (h : Governed t notes) (hm : Moved t m t' more) : Governed t' (notes ++ more) := by
  have hvacant := fun i hi => (h.vacant i hi).1
  refine ⟨h.registered_moved hm, fun i g hi => ?_, fun i hi => ?_, h.owned_moved hm⟩
  · rw [notesOf_append, callsOf_append]
    rcases advances hm hi with ⟨g₀, hg₀, hadvances⟩ | ⟨rfl, -, hreleasing, hnotes, hcalls, s, w, id, rfl, -⟩
    · exact (h.tracked i g₀ hg₀).advance hadvances
    · obtain ⟨⟨-, hnone⟩, hbefore, hearlier⟩ := h.vacant _ le_rfl
      rw [hbefore, hearlier, hnotes, hcalls]
      have hview : t'.view t.net.gateways.length (Gateway.start s w id t'.net.storage) =
          Gateway.Course.start s w id t'.net.waiting t'.net.storage t'.net.next := by
        simp only [view, hreleasing, hnone]
        rfl
      rw [hview]
      exact .start ..
  · obtain ⟨hlength, hv, hnotes, hcalls⟩ := vacant_moved hm hvacant hi
    obtain ⟨-, hbefore, hearlier⟩ := h.vacant i hlength
    exact ⟨hv, by rw [notesOf_append, hbefore, hnotes]; rfl, by rw [callsOf_append, hearlier, hcalls]; rfl⟩

theorem Governed.run (h : Governed t notes) (moves : List Move) :
    Governed (t.after moves) (notes ++ t.notes moves) := by
  induction moves generalizing t notes with
  | nil => simpa [after, Traffic.notes] using h
  | cons m rest ih =>
    rw [Traffic.notes, ← List.append_assoc]
    exact ih (h.moved (Traffic.moved t m))

theorem mem_createdOf {i w : Nat} : w ∈ createdOf i notes ↔ .created i w ∈ notes := by
  simp only [createdOf, List.mem_filterMap]
  constructor
  · rintro ⟨note, hnote, h⟩
    cases note with
    | created j v =>
      simp only [Note.created?] at h
      split_ifs at h with hji
      obtain rfl := Option.some.inj h
      exact hji ▸ hnote
    | _ => cases h
  · exact fun h => ⟨_, h, if_pos rfl⟩

theorem mem_freedOf {i w : Nat} {owner : Option Nat} :
    (w, owner) ∈ freedOf i notes ↔ .freed i w owner ∈ notes := by
  simp only [freedOf, List.mem_filterMap]
  constructor
  · rintro ⟨note, hnote, h⟩
    cases note with
    | freed j v o =>
      simp only [Note.freed?] at h
      split_ifs at h with hji
      obtain ⟨rfl, rfl⟩ := Prod.mk.inj (Option.some.inj h)
      exact hji ▸ hnote
    | _ => cases h
  · exact fun h => ⟨_, h, if_pos rfl⟩

theorem Governed.freed_once (h : Governed t notes) (i : Nat) : (freedOf i notes).length ≤ 1 := by
  rw [h.owned.freed, List.length_map]
  cases hi : t.net.gateways[i]? with
  | some g => exact (h.tracked i g hi).1.once
  | none =>
    rw [(h.vacant i (List.getElem?_eq_none_iff.1 hi)).2.1]
    exact Nat.zero_le 1

theorem Governed.freed_wire (h : Governed t notes) {i w : Nat} {owner : Option Nat}
    (hf : .freed i w owner ∈ notes) : owner = some i ∧ .created i w ∈ notes := by
  rw [← mem_freedOf, h.owned.freed] at hf
  obtain ⟨⟨v, name⟩, hasked, heq⟩ := List.mem_map.1 hf
  obtain ⟨rfl, rfl⟩ := Prod.mk.inj heq
  refine ⟨rfl, ?_⟩
  have hlt : i < t.net.gateways.length := by
    by_contra hge
    rw [(h.vacant i (not_lt.1 hge)).2.1] at hasked
    cases hasked
  have hseat := List.getElem?_eq_getElem hlt
  rw [← mem_createdOf, h.owned.created, hseat]
  rw [Option.map_some, Option.toList_some, List.mem_singleton]
  exact (h.tracked i _ hseat).1.own _ hasked

/-- What comes in over the wire `w` goes to the gateway it is attached to and to no other one. Without a
gateway it is refused. -/
structure Routed (t : Traffic) (w : Nat) (wire : Wire) (push : Push) : Prop where
  nobody : wire.attached = none →
    t.step (.receive w push) = (t, [.refused (.configuration (.wireUnattached wire.id))])
  notification : ∀ i draft, wire.attached = some i → push = .notification draft →
    ∃ g c notes, t.net.gateways[i]? = some g ∧ (t.view i g).step (.notify .caller draft) = (c, notes) ∧
      t.step (.receive w push) = (t.put i c, .received w i push :: notes.map (.of i))
  delivery : ∀ i d, wire.attached = some i → push = .delivery d →
    ∃ g, t.net.gateways[i]? = some g ∧ t.step (.receive w push) =
      (t, .received w i push :: (g.inbound.dispatch .caller d).2.map (.inbound i))
  others : ∀ j g, wire.attached ≠ some j → t.net.gateways[j]? = some g →
    (t.step (.receive w push)).1.net.gateways[j]? = some g ∧
      notesOf j (t.step (.receive w push)).2 = [] ∧
      ∀ effect, .inbound j effect ∉ (t.step (.receive w push)).2

/-- A gateway is set up unless something bars it. Where something does, all stays as it is. -/
structure Admitted (t : Traffic) (s : Settings) : Prop where
  barred : t.net.Barred s → ∃ cause, t.step (.create s) = (t, [.refused (.configuration cause)])
  seated : ¬ t.net.Barred s → ∃ id w wire,
    t.net.registry.resolve t.net.registry.choice.selected = some (id, w) ∧
      t.net.wires[w]? = some wire ∧ wire.attached = none ∧
      t.step (.create s) =
        ({ t with net := t.net.seat s id w wire }, [.created t.net.gateways.length w])

structure Exclusive (t : Traffic) (notes : List Note) : Prop where
  owner : ∀ (w : Nat) (wire : Wire) (i : Nat), t.net.wires[w]? = some wire →
    (wire.attached = some i ↔ .created i w ∈ notes ∧ ∀ owner, .freed i w owner ∉ notes)
  /-- A gateway is created on one wire, which is shut down on its behalf at most once: as it asks. -/
  once : ∀ i, (createdOf i notes).length ≤ 1 ∧ (freedOf i notes).length ≤ 1
  asked : ∀ i, freedOf i notes =
    ((notesOf i notes).filterMap Gateway.Note.releasing?).map fun r => (r.1, some i)
  /-- No wire is taken from another gateway. -/
  freed : ∀ i w owner, .freed i w owner ∈ notes → owner = some i ∧ .created i w ∈ notes
  routed : ∀ (w : Nat) (wire : Wire) (push : Push), t.net.wires[w]? = some wire → Routed t w wire push
  admitted : ∀ s, Admitted t s

theorem Governed.owner (h : Governed t notes) {w : Nat} {wire : Wire} (hw : t.net.wires[w]? = some wire)
    (i : Nat) :
    wire.attached = some i ↔ .created i w ∈ notes ∧ ∀ owner, .freed i w owner ∉ notes := by
  rw [h.owned.attached w wire i hw, ← mem_createdOf, h.owned.created, Option.mem_toList]
  constructor
  · rintro ⟨g, hi, rfl, hnone⟩
    refine ⟨by rw [hi]; rfl, fun owner hf => ?_⟩
    rw [← mem_freedOf, hnone] at hf
    cases hf
  · rintro ⟨hi, hnone⟩
    obtain ⟨g, hi, hwire⟩ := Option.map_eq_some_iff.1 hi
    refine ⟨g, hi, hwire, List.eq_nil_iff_forall_not_mem.2 ?_⟩
    rintro ⟨v, owner⟩ hf
    have hv := (h.freed_wire (mem_freedOf.1 hf)).2
    rw [← mem_createdOf, h.owned.created, hi, Option.map_some, Option.toList_some,
      List.mem_singleton] at hv
    exact hnone owner (mem_freedOf.1 (by rwa [hwire.symm, ← hv]))

theorem hand_notification {g : Gateway} {site : Site} {draft : Notification.Draft} {i : Nat}
    {c : Gateway.Course} {gnotes : List Gateway.Note} (hi : t.net.gateways[i]? = some g)
    (hstep : (t.view i g).step (.notify site draft) = (c, gnotes)) :
    t.hand site (some i) (.notification draft) = (t.put i c, gnotes.map (.of i)) := by
  simp only [hand, hi, hstep]

theorem receive_nobody {w : Nat} {wire : Wire} (hw : t.net.wires[w]? = some wire)
    (hnone : wire.attached = none) (push : Push) :
    t.step (.receive w push) = (t, [.refused (.configuration (.wireUnattached wire.id))]) := by
  simp [step, move, hw, hnone]

theorem receive_notification {w i : Nat} {wire : Wire} {g : Gateway} {draft : Notification.Draft}
    {c : Gateway.Course} {gnotes : List Gateway.Note} (hw : t.net.wires[w]? = some wire)
    (hi : wire.attached = some i) (hg : t.net.gateways[i]? = some g)
    (hstep : (t.view i g).step (.notify .caller draft) = (c, gnotes)) :
    t.step (.receive w (.notification draft)) =
      (t.put i c, .received w i (.notification draft) :: gnotes.map (.of i)) := by
  simp only [step, move, hw, hi, hand_notification hg hstep, Option.bind_eq_bind, Option.bind_some,
    Option.pure_def, Option.getD_some]

theorem receive_delivery {w i : Nat} {wire : Wire} {g : Gateway} (d : Delivery)
    (hw : t.net.wires[w]? = some wire) (hi : wire.attached = some i) (hg : t.net.gateways[i]? = some g) :
    t.step (.receive w (.delivery d)) =
      (t, .received w i (.delivery d) :: (g.inbound.dispatch .caller d).2.map (.inbound i)) := by
  simp only [step, move, hw, hi, hand, hg, Option.bind_eq_bind, Option.bind_some, Option.pure_def,
    Option.getD_some]

theorem Governed.routed (h : Governed t notes) {w : Nat} {wire : Wire}
    (hw : t.net.wires[w]? = some wire) (push : Push) : Routed t w wire push := by
  have hseat : ∀ i, wire.attached = some i → ∃ g, t.net.gateways[i]? = some g := by
    intro i hi
    obtain ⟨g, hg, -, -⟩ := (h.owned.attached w wire i hw).1 hi
    exact ⟨g, hg⟩
  refine ⟨fun hnone => receive_nobody hw hnone push, fun i draft hi hpush => ?_,
    fun i d hi hpush => ?_, fun j g hj hg => ?_⟩
  · obtain ⟨g, hg⟩ := hseat i hi
    subst hpush
    exact ⟨g, _, _, hg, rfl, receive_notification hw hi hg rfl⟩
  · obtain ⟨g, hg⟩ := hseat i hi
    subst hpush
    exact ⟨g, hg, receive_delivery d hw hi hg⟩
  · cases hi : wire.attached with
    | none =>
      rw [receive_nobody hw hi]
      exact ⟨hg, rfl, fun effect hmem => by cases List.mem_singleton.1 hmem⟩
    | some i =>
      have hij : i ≠ j := fun he => hj (by rw [hi, he])
      obtain ⟨g', hg'⟩ := hseat i hi
      cases push with
      | notification draft =>
        obtain ⟨c, gnotes, hstep⟩ :
            ∃ c gnotes, (t.view i g').step (.notify .caller draft) = (c, gnotes) := ⟨_, _, rfl⟩
        rw [receive_notification hw hi hg' hstep]
        refine ⟨(List.getElem?_set_ne hij).trans hg, (notesOf_map_of i j gnotes).trans (if_neg hij),
          fun effect hmem => ?_⟩
        have hof := List.mem_of_ne_of_mem (by simp) hmem
        obtain ⟨note, -, hnote⟩ := List.mem_map.1 hof
        cases hnote
      | delivery d =>
        rw [receive_delivery d hw hi hg']
        refine ⟨hg, (notesOf_map_inbound i j _).1, fun effect hmem => ?_⟩
        have hof := List.mem_of_ne_of_mem (by simp) hmem
        obtain ⟨e, -, he⟩ := List.mem_map.1 hof
        cases he
        exact hij rfl

/-- At every moment each wire belongs to the gateway that was set up on it and has not had it shut down. -/
theorem exclusive_ownership {wires : List Wire} (hfree : ∀ w ∈ wires, w.attached = none)
    (hwilling : ∀ w ∈ wires, w.willing = true) (waiting : Span) (storage : Instant) (next : Ticket)
    (seed : Nat) (moves : List Move) :
    Exclusive ((start wires waiting storage next seed).after moves)
      ((start wires waiting storage next seed).notes moves) := by
  have h := (Governed.start hfree waiting storage next seed).run moves
  rw [List.nil_append] at h
  refine ⟨fun w wire i hw => h.owner hw i, fun i => ⟨?_, h.freed_once i⟩, h.owned.freed,
    fun i w owner hf => h.freed_wire hf, fun w wire push hw => h.routed hw push, fun s => ?_⟩
  · rw [h.owned.created]
    cases ((start wires waiting storage next seed).after moves).net.gateways[i]? <;> simp
  · have hstill : ∀ w ∈ ((start wires waiting storage next seed).after moves).net.wires,
        w.willing = true := by
      intro wire' hmem
      obtain ⟨w, hw⟩ := List.mem_iff_getElem?.1 hmem
      obtain ⟨wire, hwire, halike⟩ := (reattached_after _ moves).2 w wire' hw
      exact halike.willing.trans (hwilling wire (List.mem_of_getElem? hwire))
    rcases create_cases s h.registered hstill with ⟨hbarred, cause, seen, hc⟩ |
      ⟨hopen, id, w, wire, seen, hr, hw, hnone, hc⟩
    · refine ⟨fun _ => ⟨cause, ?_⟩, fun hopen => absurd hbarred hopen⟩
      simp only [step, move, hc, Option.getD_some]
    · refine ⟨fun hbarred => absurd hbarred hopen, fun _ => ⟨id, w, wire, hr, hw, hnone, ?_⟩⟩
      simp only [step, move, hc, seat, List.getElem?_concat_length, Option.map_some, Option.getD_some]
      rfl

/-- Two gateways follow each other on a wire. The second one is set up, and a receipt comes in for it,
while the shutdown of the first one has not ended; the wire is let go of only once. -/
def handover : List Move :=
  [.furnish ⟨none, "wire"⟩ [0], .create office, .create office, .own 0 .shutdown,
    .receive 0 (.notification receipt), .own 0 .work, .attend 0, .attend 0,
    .receive 0 (.notification receipt), .create office, .own 0 .shutdown,
    .receive 0 (.notification receipt), .answer 0, .own 0 (.close .submission), .own 0 (.close .relay),
    .own 0 .reply]

theorem exclusive_ownership_handover :
    let wires := [Wire.recording "wire"]
    let t := start wires ⟨0⟩ ⟨0⟩ 0 0
    (∀ w ∈ wires, w.attached = none) ∧ (∀ w ∈ wires, w.willing = true) ∧
      Exclusive (t.after handover) (t.notes handover) ∧
      (t.after handover).net.wires.map Wire.attached = [some 1] ∧
      createdOf 0 (t.notes handover) = [0] ∧ freedOf 0 (t.notes handover) = [(0, some 0)] ∧
      createdOf 1 (t.notes handover) = [0] ∧ freedOf 1 (t.notes handover) = [] := by
  intro wires t
  have hfree : ∀ w ∈ wires, w.attached = none := by decide
  have hwilling : ∀ w ∈ wires, w.willing = true := by decide
  refine ⟨hfree, hwilling, exclusive_ownership hfree hwilling ⟨0⟩ ⟨0⟩ 0 0 handover, ?_, ?_, ?_, ?_, ?_⟩ <;>
    decide +kernel

end Traffic

end Network

end MessageExchange
