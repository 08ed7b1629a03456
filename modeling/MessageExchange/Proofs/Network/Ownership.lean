import MessageExchange.Proofs.Network.Views

/-! Who a wire belongs to. A wire is attached to the gateway that was created on it and has not had it shut
down, and to no other. A gateway asks for its wire to be shut down once at most, and until then the wire is
its own; so no shutdown ever takes a wire from another gateway. -/

namespace MessageExchange

open Correlation (Ticket)

namespace Gateway.Course

variable {c c' : Course} {m : Move} {notes : List Note}

theorem unasked_step (c : Course) (hm : m ≠ .attend) :
    (c.step m).2.filterMap Note.releasing? = [] := by
  cases m with
  | handle direction handler =>
    simp only [step]
    split <;> rfl
  | listen kind listener =>
    simp only [step]
    split <;> rfl
  | timeOut kind w =>
    simp only [step]
    split_ifs
    · exact (unasked_seen _).1
    · rfl
  | shutdown =>
    simp only [step, Gateway.shutdown]
    split_ifs <;> rfl
  | attend => exact absurd rfl hm
  | released answer =>
    simp only [step]
    split <;> rfl
  | close kind =>
    simp only [step]
    split
    · split_ifs
      · exact (unasked_seen _).1
      · rfl
    · rfl
  | reply =>
    simp only [step]
    split <;> rfl
  | cancel t =>
    simp only [step]
    split_ifs <;> rfl
  | notify site draft => exact (unasked_seen _).1
  | await kind id timeout => exact (unasked_seen _).1
  | sweep kind => exact (unasked_seen _).1
  | tick kind => exact (unasked_seen _).1
  | elsewhere => rfl
  | pass span => rfl
  | age span => rfl
  | _ => exact (unasked_outbound _).1

theorem asked_cases {more : List Note} (hs : Stepped c m c' more)
    (hn : more.filterMap Note.releasing? ≠ []) :
    ∃ call rest, c.gateway.pipeline.calls = call :: rest ∧ c'.gateway.pipeline.calls = rest ∧
      c'.gateway.pipeline.worker = c.gateway.pipeline.worker ∧
      (call.phase.waits = true ∧ c.gateway.pipeline.unwatched = false ∨
        call.phase.waits = false ∧ c.gateway.pipeline.worker = .stopped) ∧
      more.filterMap Note.releasing? = [(c.gateway.wire, c.gateway.name)] := by
  cases hs with
  | along hsteady => exact absurd (unasked_outbound _).1 hn
  | correlate kind hlater htended hquiet => exact absurd (unasked_seen _).1 hn
  | leave hc hwhy => exact ⟨_, _, hc, rfl, rfl, hwhy, rfl⟩
  | close hending => exact absurd (unasked_seen _).1 hn
  | _ => exact absurd rfl hn

/-- The wire of the gateway is asked once at most: by the only shutdown call in the pipeline, as it leaves,
and with the worker at rest. No other wire is asked. -/
structure Askable (c : Course) (notes : List Note) : Prop where
  once : (notes.filterMap Note.releasing?).length ≤ 1
  not_yet : c.gateway.pipeline.calls ≠ [] → notes.filterMap Note.releasing? = []
  own : ∀ r ∈ notes.filterMap Note.releasing?, r.1 = c.gateway.wire
  rest : notes.filterMap Note.releasing? ≠ [] → c.gateway.pipeline.worker = .stopped

theorem Askable.of_unasked (h : notes.filterMap Note.releasing? = []) : Askable c notes :=
  ⟨by simp [h], fun _ => h, by simp [h], fun hne => absurd h hne⟩

theorem rests_step (h : Sound c notes) (hw : c.gateway.pipeline.worker = .stopped) (m : Move) :
    (c.step m).1.gateway.pipeline.worker = .stopped := by
  have hs := Outbound.Course.stepped (c := c.outbound) h.orderly (c.outward m)
  rw [(outward_step c m).1]
  exact (Outbound.Course.stopped_step (c := c.outbound) h.orderly hw hs).1

theorem Begun.askable_step {t : Ticket} (h : Begun c notes t) (ha : Askable c notes) (m : Move) :
    Askable (c.step m).1 (notes ++ (c.step m).2) := by
  have hs := stepped h.sound m
  by_cases hcalls : c.gateway.pipeline.calls = []
  · have hstill := idle_stepped h.sound (fun _ => h.stopped) hcalls hs
    have hsame : (notes ++ (c.step m).2).filterMap Note.releasing? = notes.filterMap Note.releasing? := by
      rw [List.filterMap_append, unasked_stepped hcalls hs, List.append_nil]
    refine ⟨?_, fun hne => absurd hstill hne, ?_, ?_⟩ <;> rw [hsame]
    · exact ha.once
    · rw [c.wire_step m]
      exact ha.own
    · exact fun hne => rests_step h.sound (ha.rest hne) m
  · have hfirst := ha.not_yet hcalls
    obtain ⟨phase, hone, hturn⟩ := h.stage.calls_cases.resolve_left hcalls
    by_cases hn : (c.step m).2.filterMap Note.releasing? = []
    · exact .of_unasked (by rw [List.filterMap_append, hfirst, hn, List.append_nil])
    · obtain ⟨call, rest, hc, hrest, hworker, hwhy, hnote⟩ := asked_cases hs hn
      obtain ⟨rfl, rfl⟩ := List.cons.inj (hc.symm.trans hone)
      have hall : (notes ++ (c.step m).2).filterMap Note.releasing? =
          [(c.gateway.wire, c.gateway.name)] := by
        rw [List.filterMap_append, hfirst, hnote, List.nil_append]
      refine ⟨?_, fun hne => absurd hrest hne, ?_, fun _ => ?_⟩
      · rw [hall]
        exact le_rfl
      · rw [hall, c.wire_step m]
        intro r hr
        rw [List.mem_singleton.1 hr]
      · rcases hwhy with ⟨hwaits, hwatched⟩ | ⟨-, hstopped⟩
        · exact absurd ((hturn hwaits).symm.trans hwatched) (by simp)
        · exact hworker.trans hstopped

/-- A gateway with the shutdown calls that came in, in order. The first one shuts it down. -/
def Tracked (c : Course) (notes : List Note) (calls : List Ticket) : Prop :=
  Askable c notes ∧
    match calls.head? with
    | none => Running c notes
    | some t => Begun c notes t

theorem Tracked.sound {calls : List Ticket} (h : Tracked c notes calls) : Sound c notes := by
  obtain ⟨-, h⟩ := h
  split at h
  · exact h.sound
  · exact h.sound

theorem Tracked.step {calls : List Ticket} (h : Tracked c notes calls) (m : Move) :
    Tracked (c.step m).1 (notes ++ (c.step m).2) (calls ++ m.calls c.next) := by
  obtain ⟨hask, h⟩ := h
  cases calls with
  | nil =>
    have hrunning : Running c notes := h
    by_cases hm : m = .shutdown
    · subst hm
      refine ⟨.of_unasked ?_, hrunning.begin_⟩
      rw [List.filterMap_append, hrunning.unasked, unasked_step c (m := .shutdown) nofun]
      rfl
    · have hstep := hrunning.step hm
      have hnone : m.calls c.next = [] := by cases m <;> first | rfl | exact absurd rfl hm
      rw [hnone]
      exact ⟨.of_unasked hstep.unasked, hstep⟩
  | cons t rest =>
    have hbegun : Begun c notes t := h
    exact ⟨hbegun.askable_step hask m, hbegun.step m⟩

end Gateway.Course

namespace Network.Traffic

open Gateway.Course (Tracked Askable)

variable {t t' : Traffic} {m : Move} {notes more : List Note}

def freedOf (i : Nat) (notes : List Note) : List (Nat × Option Nat) := notes.filterMap (Note.freed? i)

def createdOf (i : Nat) (notes : List Note) : List Nat := notes.filterMap (Note.created? i)

@[simp] theorem freedOf_append (i : Nat) (notes more : List Note) :
    freedOf i (notes ++ more) = freedOf i notes ++ freedOf i more := List.filterMap_append

@[simp] theorem createdOf_append (i : Nat) (notes more : List Note) :
    createdOf i (notes ++ more) = createdOf i notes ++ createdOf i more := List.filterMap_append

def Plain : Note → Prop
  | .created _ _ | .freed _ _ _ => False
  | .of _ note => note.releasing? = none
  | _ => True

theorem plain_map_of {i : Nat} {notes : List Gateway.Note}
    (h : notes.filterMap Gateway.Note.releasing? = []) : ∀ note ∈ notes.map (Note.of i), Plain note := by
  intro note hnote
  obtain ⟨n, hn, rfl⟩ := List.mem_map.1 hnote
  exact List.filterMap_eq_nil_iff.1 h n hn

theorem plain_nil (h : ∀ note ∈ notes, Plain note) (i : Nat) :
    createdOf i notes = [] ∧ freedOf i notes = [] ∧
      (notesOf i notes).filterMap Gateway.Note.releasing? = [] := by
  refine ⟨List.filterMap_eq_nil_iff.2 fun note hn => ?_, List.filterMap_eq_nil_iff.2 fun note hn => ?_,
    List.filterMap_eq_nil_iff.2 fun n hn => ?_⟩
  · cases note with
    | created j w => exact (h _ hn).elim
    | _ => rfl
  · cases note with
    | freed j w owner => exact (h _ hn).elim
    | _ => rfl
  · obtain ⟨note, hnote, hof⟩ := List.mem_filterMap.1 hn
    cases note with
    | of j n' =>
      simp only [Note.of?] at hof
      split_ifs at hof
      obtain rfl := Option.some.inj hof
      exact h _ hnote
    | _ => cases hof

/-- A move by which nobody comes to a wire or leaves it. -/
structure Ordinary (t t' : Traffic) (more : List Note) : Prop where
  attached : ∀ w : Nat, (t'.net.wires[w]?).map Wire.attached = (t.net.wires[w]?).map Wire.attached
  seats : ∀ i : Nat, (t'.net.gateways[i]?).map Gateway.wire = (t.net.gateways[i]?).map Gateway.wire
  plain : ∀ note ∈ more, Plain note

theorem Ordinary.same (hw : t'.net.wires = t.net.wires) (hg : t'.net.gateways = t.net.gateways)
    (hp : ∀ note ∈ more, Plain note) : Ordinary t t' more :=
  ⟨fun w => by rw [hw], fun i => by rw [hg], hp⟩

theorem Ordinary.rewired (hw : Rewired t.net.wires t'.net.wires)
    (hg : t'.net.gateways = t.net.gateways) (hp : ∀ note ∈ more, Plain note) :
    Ordinary t t' more := by
  refine ⟨fun w => ?_, fun i => by rw [hg], hp⟩
  cases hx : t'.net.wires[w]? with
  | none =>
    have hlt := List.getElem?_eq_none_iff.1 hx
    rw [hw.1] at hlt
    rw [List.getElem?_eq_none hlt]
  | some wire' =>
    obtain ⟨wire, hwire, halike⟩ := hw.2 w wire' hx
    rw [hwire, Option.map_some, Option.map_some, halike.attached]

theorem Ordinary.seat {i : Nat} {g : Gateway} {gm : Gateway.Move} {c : Gateway.Course}
    {gnotes : List Gateway.Note} (hi : t.net.gateways[i]? = some g)
    (hstep : (t.view i g).step gm = (c, gnotes)) (hw : t'.net.wires = t.net.wires)
    (hg : t'.net.gateways = t.net.gateways.set i c.gateway) (hp : ∀ note ∈ more, Plain note) :
    Ordinary t t' more := by
  have hwire := (t.view i g).wire_step gm
  rw [hstep] at hwire
  refine ⟨fun w => by rw [hw], fun j => ?_, hp⟩
  rw [hg, List.getElem?_set]
  split_ifs with hij hlt
  · subst hij
    rw [hi, Option.map_some, Option.map_some, hwire]
    rfl
  · subst hij
    rw [List.getElem?_eq_none (not_lt.1 hlt)]
  · rfl

theorem Ordinary.hand (passing : Nat → Option Passage) {site : Site} {target : Option Nat} {push : Push}
    {hnotes : List Note}
    (h : ({ t with passing }).hand site target push = (t', hnotes))
    {note : Note} (hn : Plain note) : Ordinary t t' (note :: hnotes) := by
  rcases hand_cases h with ⟨rfl, i, effects, rfl⟩ | ⟨i, g, draft, c, gnotes, -, -, hi, hstep, rfl, rfl⟩
  · refine .same rfl rfl fun note' hmem => ?_
    rcases List.mem_cons.1 hmem with rfl | hmem
    · exact hn
    · obtain ⟨e, -, rfl⟩ := List.mem_map.1 hmem
      trivial
  · have hmoves : (t.view i g).step (.notify site draft) = (c, gnotes) := hstep
    have hquiet := (t.view i g).unasked_step (m := .notify site draft) nofun
    rw [hmoves] at hquiet
    refine .seat hi hmoves rfl rfl fun note' hmem => ?_
    rcases List.mem_cons.1 hmem with rfl | hmem
    · exact hn
    · exact plain_map_of hquiet note' hmem

/-- Each gateway was created once, on its wire. Its wire was shut down as often as it asked, and let go of
nobody else. A wire is attached to the gateway that is on it and has not asked. -/
structure Owned (t : Traffic) (notes : List Note) : Prop where
  created : ∀ i : Nat, createdOf i notes = ((t.net.gateways[i]?).map Gateway.wire).toList
  freed : ∀ i, freedOf i notes =
    ((notesOf i notes).filterMap Gateway.Note.releasing?).map fun r => (r.1, some i)
  bound : ∀ (i : Nat) (g : Gateway), t.net.gateways[i]? = some g → ∃ wire, t.net.wires[g.wire]? = some wire
  attached : ∀ (w : Nat) (wire : Wire) (i : Nat), t.net.wires[w]? = some wire →
    (wire.attached = some i ↔
      ∃ g, t.net.gateways[i]? = some g ∧ g.wire = w ∧ freedOf i notes = [])

theorem Owned.ordinary (h : Owned t notes) (ho : Ordinary t t' more) : Owned t' (notes ++ more) := by
  have hplain := fun i => plain_nil ho.plain i
  have hseat : ∀ i w : Nat, (∃ g, t'.net.gateways[i]? = some g ∧ g.wire = w) ↔
      ∃ g, t.net.gateways[i]? = some g ∧ g.wire = w := by
    intro i w
    have hs := ho.seats i
    constructor
    · rintro ⟨g, hg, rfl⟩
      rw [hg] at hs
      exact Option.map_eq_some_iff.1 hs.symm
    · rintro ⟨g, hg, rfl⟩
      rw [hg] at hs
      exact Option.map_eq_some_iff.1 hs
  refine ⟨fun i => ?_, fun i => ?_, fun i g hg => ?_, fun w wire i hw => ?_⟩
  · rw [createdOf_append, (hplain i).1, List.append_nil, h.created, ho.seats]
  · rw [freedOf_append, (hplain i).2.1, List.append_nil, notesOf_append, List.filterMap_append,
      (hplain i).2.2, List.append_nil, h.freed]
  · obtain ⟨g₀, hg₀, hwire⟩ := (hseat i g.wire).1 ⟨g, hg, rfl⟩
    obtain ⟨wire, hw⟩ := h.bound i g₀ hg₀
    have hattached := ho.attached g.wire
    rw [← hwire, hw] at hattached
    rw [← hwire]
    obtain ⟨wire', hw', -⟩ := Option.map_eq_some_iff.1 hattached
    exact ⟨wire', hw'⟩
  · have hattached := ho.attached w
    rw [hw] at hattached
    obtain ⟨wire₀, hw₀, heq⟩ := Option.map_eq_some_iff.1 hattached.symm
    rw [← heq, h.attached w wire₀ i hw₀, freedOf_append, (hplain i).2.1, List.append_nil]
    constructor
    · rintro ⟨g, hg, hwire, hfree⟩
      obtain ⟨g', hg', hwire'⟩ := (hseat i w).2 ⟨g, hg, hwire⟩
      exact ⟨g', hg', hwire', hfree⟩
    · rintro ⟨g, hg, hwire, hfree⟩
      obtain ⟨g', hg', hwire'⟩ := (hseat i w).1 ⟨g, hg, hwire⟩
      exact ⟨g', hg', hwire', hfree⟩

theorem exists_set {ws : List Wire} {w v : Nat} {x wire : Wire} (hv : ws[v]? = some wire) :
    ∃ wire', (ws.set w x)[v]? = some wire' := by
  obtain ⟨hlt, -⟩ := List.getElem?_eq_some_iff.1 hv
  exact ⟨_, List.getElem?_eq_getElem (by rwa [List.length_set])⟩

theorem Owned.freedOf_eq_nil_iff (h : Owned t notes) (i : Nat) :
    freedOf i notes = [] ↔ (notesOf i notes).filterMap Gateway.Note.releasing? = [] := by
  rw [h.freed, List.map_eq_nil_iff]

theorem getElem?_concat_eq_some_iff {α : Type} {as : List α} {a b : α} {i : Nat} :
    (as ++ [a])[i]? = some b ↔ as[i]? = some b ∨ i = as.length ∧ b = a := by
  rw [List.getElem?_append]
  split_ifs with hlt
  · simp [hlt.ne]
  · rw [List.getElem?_eq_none (not_lt.1 hlt), List.getElem?_singleton]
    have hiff : i - as.length = 0 ↔ i = as.length := by omega
    simp [hiff, eq_comm]

theorem createdOf_singleton (i j w : Nat) :
    createdOf j [.created i w] = if i = j then [w] else [] := by
  by_cases hi : i = j <;> simp [createdOf, Note.created?, hi]

theorem Owned.create (h : Owned t notes) {s : Settings} {w : Nat} {id : String} {wire : Wire}
    (hw : t.net.wires[w]? = some wire) (hfree : wire.attached = none)
    (hnew : notesOf t.net.gateways.length notes = []) :
    Owned
      { t with net := { t.net with
          wires := t.net.wires.set w { wire with attached := some t.net.gateways.length }
          gateways := t.net.gateways ++ [Gateway.start s w id t.net.storage] } }
      (notes ++ [.created t.net.gateways.length w]) := by
  have hnobody : ∀ i : Nat, ¬ ∃ g, t.net.gateways[i]? = some g ∧ g.wire = w ∧ freedOf i notes = [] := by
    intro i hi
    rw [← h.attached w wire i hw, hfree] at hi
    cases hi
  have hfreed : ∀ i, freedOf i (notes ++ [.created t.net.gateways.length w]) = freedOf i notes :=
    fun i => (freedOf_append i _ _).trans (List.append_nil _)
  refine ⟨fun i => ?_, fun i => ?_, fun i g hg => ?_, fun v x i hx => ?_⟩
  · rw [createdOf_append, h.created, createdOf_singleton]
    rcases lt_trichotomy i t.net.gateways.length with hi | rfl | hi
    · rw [if_neg hi.ne', List.append_nil, List.getElem?_append_left hi]
    · rw [if_pos rfl, List.getElem?_eq_none le_rfl, List.getElem?_concat_length]
      rfl
    · rw [if_neg hi.ne, List.append_nil, List.getElem?_eq_none hi.le, List.getElem?_eq_none]
      rw [List.length_append]
      exact hi
  · rw [hfreed, h.freed, notesOf_append]
    exact congrArg _ (congrArg _ (List.append_nil _).symm)
  · rcases getElem?_concat_eq_some_iff.1 hg with hold | ⟨rfl, rfl⟩
    · obtain ⟨wire', hbound⟩ := h.bound i g hold
      exact exists_set hbound
    · exact exists_set hw
  · rw [hfreed]
    simp only [getElem?_concat_eq_some_iff]
    rcases getElem?_set_cases hx with ⟨rfl, rfl⟩ | ⟨hv, hx⟩
    · constructor
      · intro hi
        obtain rfl := Option.some.inj hi
        exact ⟨_, .inr ⟨rfl, rfl⟩, rfl, (h.freedOf_eq_nil_iff _).2 (by rw [hnew]; rfl)⟩
      · rintro ⟨g, hg | ⟨rfl, -⟩, hwire, hnone⟩
        · exact absurd ⟨g, hg, hwire, hnone⟩ (hnobody i)
        · rfl
    · rw [h.attached v x i hx]
      constructor
      · rintro ⟨g, hg, hwire, hnone⟩
        exact ⟨g, .inl hg, hwire, hnone⟩
      · rintro ⟨g, hg | ⟨-, rfl⟩, hwire, hnone⟩
        · exact ⟨g, hg, hwire, hnone⟩
        · exact absurd hwire hv

theorem notes_freeing (i w : Nat) (owner : Option Nat) (gnotes : List Gateway.Note) (j : Nat) :
    let freeing := gnotes.map (Note.of i) ++ [.freed i w owner]
    createdOf j freeing = [] ∧ (freedOf j freeing = if i = j then [(w, owner)] else []) ∧
      notesOf j freeing = if i = j then gnotes else [] := by
  have hcreated : createdOf j (gnotes.map (Note.of i)) = [] := by
    rw [createdOf, List.filterMap_map, List.filterMap_eq_nil_iff]
    exact fun _ _ => rfl
  have hfreed : freedOf j (gnotes.map (Note.of i)) = [] := by
    rw [freedOf, List.filterMap_map, List.filterMap_eq_nil_iff]
    exact fun _ _ => rfl
  intro freeing
  refine ⟨?_, ?_, ?_⟩
  · rw [createdOf_append, hcreated]
    rfl
  · rw [freedOf_append, hfreed]
    by_cases hij : i = j <;> simp [freedOf, Note.freed?, hij]
  · rw [notesOf_append, notesOf_map_of]
    exact List.append_nil _

/-- Once its wire has been shut down, a gateway has none; the others have theirs. -/
theorem Owned.attached_free (h : Owned t notes) {i : Nat} {g g₁ : Gateway} {wire wire' : Wire}
    (hi : t.net.gateways[i]? = some g) (hw : t.net.wires[g.wire]? = some wire)
    (hmine : wire.attached = some i) (hwire : g₁.wire = g.wire) (hvacant : wire'.attached = none)
    {v : Nat} {x : Wire} (hx : (t.net.wires.set g.wire wire')[v]? = some x) (j : Nat) :
    x.attached = some j ↔ ∃ g', (t.net.gateways.set i g₁)[j]? = some g' ∧ g'.wire = v ∧
      freedOf j notes ++ (if i = j then [(g.wire, some i)] else []) = [] := by
  rcases getElem?_set_cases hx with ⟨rfl, rfl⟩ | ⟨hv, hx⟩
  · rw [hvacant]
    constructor
    · intro hnone
      cases hnone
    · rintro ⟨g', hg', hwire', hnone⟩
      obtain ⟨hnone, hother⟩ := List.append_eq_nil_iff.1 hnone
      rcases getElem?_set_cases hg' with ⟨rfl, -⟩ | ⟨hij, hg'⟩
      · simp at hother
      · have hj := (h.attached g.wire wire j hw).2 ⟨g', hg', hwire', hnone⟩
        exact absurd (Option.some.inj (hmine.symm.trans hj)) hij
  · rw [h.attached v x j hx]
    constructor
    · rintro ⟨g', hg', hwire', hnone⟩
      have hij : i ≠ j := by
        rintro rfl
        obtain rfl := Option.some.inj (hi.symm.trans hg')
        exact hv hwire'
      refine ⟨g', ?_, hwire', by rw [hnone, if_neg hij]; rfl⟩
      rw [← hg']
      exact List.getElem?_set_ne hij
    · rintro ⟨g', hg', hwire', hnone⟩
      rcases getElem?_set_cases hg' with ⟨rfl, rfl⟩ | ⟨hij, hg'⟩
      · exact absurd (hwire.symm.trans hwire') hv
      · exact ⟨g', hg', hwire', (List.append_eq_nil_iff.1 hnone).1⟩

theorem Owned.free (h : Owned t notes) {i : Nat} {g : Gateway} {c : Gateway.Course}
    {gnotes : List Gateway.Note} {wire : Wire} {releasing : Nat → Option Release}
    (hi : t.net.gateways[i]? = some g) (hw : t.net.wires[g.wire]? = some wire)
    (hstep : (t.view i g).step .attend = (c, gnotes))
    (hasked : gnotes.filterMap Gateway.Note.releasing? ≠ [])
    (htracked : Tracked (t.view i g) (notesOf i notes) (callsOf i notes)) :
    Owned
      { t.put i c with
        net := { (t.put i c).net with wires := t.net.wires.set g.wire wire.shutdown.1 }
        releasing }
      (notes ++ (gnotes.map (.of i) ++ [.freed i g.wire wire.attached])) := by
  have hs := Gateway.Course.stepped htracked.sound .attend
  have hwire := (t.view i g).wire_step .attend
  rw [hstep] at hs hwire
  obtain ⟨call, rest, hcalls, -, -, -, hnote⟩ := Gateway.Course.asked_cases hs hasked
  have hfirst : (notesOf i notes).filterMap Gateway.Note.releasing? = [] :=
    htracked.1.not_yet (by rw [hcalls]; exact List.cons_ne_nil _ _)
  have hmine : wire.attached = some i :=
    (h.attached g.wire wire i hw).2 ⟨g, hi, rfl, (h.freedOf_eq_nil_iff i).2 hfirst⟩
  have hvacant : wire.shutdown.1.attached = none := wire.alike_shutdown.attached
  have hsame : Ordinary t (t.put i c) [] := .seat hi hstep rfl rfl (List.forall_mem_nil _)
  have hseat : ∀ j : Nat, ((t.net.gateways.set i c.gateway)[j]?).map Gateway.wire =
      (t.net.gateways[j]?).map Gateway.wire := hsame.seats
  have hnotes := notes_freeing i g.wire (some i) gnotes
  rw [hmine]
  refine ⟨fun j => ?_, fun j => ?_, fun j g' hg' => ?_, fun v x j hx => ?_⟩
  · rw [createdOf_append, (hnotes j).1, List.append_nil, h.created]
    exact congrArg _ (hseat j).symm
  · rw [freedOf_append, (hnotes j).2.1, h.freed, notesOf_append, (hnotes j).2.2, List.filterMap_append,
      List.map_append]
    split_ifs with hij
    · rw [hnote, hij]
      rfl
    · rfl
  · have hold := hseat j
    rw [show (t.net.gateways.set i c.gateway)[j]? = some g' from hg'] at hold
    obtain ⟨g₀, hg₀, hwire₀⟩ := Option.map_eq_some_iff.1 hold.symm
    obtain ⟨wire', hbound⟩ := h.bound j g₀ hg₀
    rw [hwire₀] at hbound
    exact exists_set hbound
  · rw [freedOf_append, (hnotes j).2.1]
    exact h.attached_free hi hw hmine hwire hvacant hx j

end Network.Traffic

end MessageExchange
