import MessageExchange.Network
import MessageExchange.Proofs.Gateway.Closing

/-! Gateways over shared wires, one move at a time and in any order. A gateway moves as its own course does.
A wire that has taken a message hands over what it has to push, one thing at a time, to the gateway that was
attached when it took the message, and then the send ends. A shutdown call that leaves its pipeline shuts
the wire down in the same move, and hears of it in a later one. -/

namespace MessageExchange

open Correlation (Ticket)

namespace Gateway

/-- The gateway makes the move by itself: no wire, clock or other gateway takes part. -/
def Move.own : Move → Bool
  | finish _ | attend | released _ | elsewhere | pass _ | age _ => false
  | _ => true

def Move.calls (m : Move) (next : Ticket) : List Ticket :=
  match m with
  | shutdown => [next]
  | _ => []

/-- The move is made elsewhere, or by a clock. -/
def Move.outside : Move → Bool
  | elsewhere | pass _ | age _ => true
  | _ => false

theorem Move.inside_of_own {m : Move} (h : m.own = true) : m.outside = false ∧ m ≠ .attend := by
  cases m <;> simp_all [own, outside]

theorem Course.finish_eq {c : Course} {item : Outbound.Item}
    (h : c.gateway.pipeline.worker = .sending item) (o : Outbound.Outcome) :
    c.step (.finish o) =
      ({ c with gateway := { c.gateway with pipeline := (c.gateway.pipeline.account item o).1 } },
        [.outbound (.finished item o)]) := by
  simp [step, along, Outbound.Course.step, outbound, h]

end Gateway

theorem Outbound.Pipeline.sending_of_current {p : Outbound.Pipeline} {i : Outbound.Item}
    (h : p.current.head? = some i) : p.worker = .sending i := by
  unfold current at h
  split at h
  next j hw => rw [hw, Option.some.inj h]
  next => cases h

namespace Wire

def willing (w : Wire) : Bool :=
  match w.nature with
  | .scripted _ (some _) _ _ => false
  | _ => true

/-- The same wire, but for what it remembers, holds or fails. -/
structure Alike (w w' : Wire) : Prop where
  id : w'.id = w.id
  attached : w'.attached = w.attached
  willing : w'.willing = w.willing
  loopback : w'.nature = .loopback ↔ w.nature = .loopback

theorem Alike.refl (w : Wire) : Alike w w := ⟨rfl, rfl, rfl, Iff.rfl⟩

theorem Alike.reattach {w w' : Wire} (h : Alike w w') (owner : Option Nat) :
    Alike { w with attached := owner } { w' with attached := owner } :=
  ⟨h.id, rfl, h.willing, h.loopback⟩

theorem Alike.trans {w w' w'' : Wire} (h : Alike w w') (h' : Alike w' w'') : Alike w w'' :=
  ⟨h'.id.trans h.id, h'.attached.trans h.attached, h'.willing.trans h.willing,
    h'.loopback.trans h.loopback⟩

theorem alike_hold (w : Wire) (id : String) : Alike w (w.hold id) := by
  obtain ⟨wid, nature, attached, sends⟩ := w
  cases nature with
  | scripted b r s held => cases r <;> exact ⟨rfl, rfl, rfl, by simp [hold]⟩
  | _ => exact .refl _

theorem alike_release (w : Wire) (id : Option String) : Alike w (w.release id) := by
  obtain ⟨wid, nature, attached, sends⟩ := w
  cases nature with
  | scripted b r s held => cases r <;> exact ⟨rfl, rfl, rfl, by simp [release]⟩
  | _ => exact .refl _

theorem alike_fail (w : Wire) (id code : String) : Alike w (w.fail id code) := by
  obtain ⟨wid, nature, attached, sends⟩ := w
  cases nature with
  | recording failures attempted n => exact ⟨rfl, rfl, rfl, by simp [fail]⟩
  | _ => exact .refl _

theorem alike_attempt {w w' : Wire} {i : Outbound.Item} {seed : Nat} {pushes : List Push}
    {o : Outbound.Outcome} (h : w.attempt i seed = some (w', pushes, o)) : Alike w w' := by
  unfold attempt at h
  split at h
  next b r s held hn =>
    simp only at h
    split_ifs at h
    cases h
    exact ⟨rfl, rfl, rfl, Iff.rfl⟩
  next failures attempted n hn =>
    simp only at h
    split at h <;> cases h <;> exact ⟨rfl, rfl, by simp [willing, remember, hn], by simp [remember, hn]⟩
  next =>
    cases h
    exact .refl _

theorem alike_shutdown (w : Wire) : Alike { w with attached := none } w.shutdown.1 := by
  obtain ⟨wid, nature, attached, sends⟩ := w
  cases nature with
  | scripted b r s held => cases s <;> exact .refl _
  | recording failures attempted n => exact ⟨rfl, rfl, rfl, by simp [shutdown]⟩
  | loopback => exact .refl _

theorem attach_ok {w w' : Wire} {i : Nat} (h : w.attach i = .ok w') :
    w.attached = none ∧ w' = { w with attached := some i } := by
  obtain ⟨wid, nature, attached, sends⟩ := w
  unfold attach at h
  simp only at h
  split at h
  · cases h
  · cases attached <;> cases h
    exact ⟨rfl, rfl⟩

theorem attach_eq {w : Wire} (h : w.willing = true) (i : Nat) :
    w.attach i =
      if w.attached.isSome then .error (.configuration (.wireTaken w.id))
      else .ok { w with attached := some i } := by
  obtain ⟨wid, nature, attached, sends⟩ := w
  cases nature with
  | scripted b r s held => cases r <;> cases attached <;> first | rfl | cases h
  | _ => cases attached <;> rfl

end Wire

namespace Network

/-- A message that a wire has taken: the gateway that was attached then, what is left to push, and how the
send will end. -/
structure Passage where
  target : Option Nat
  pushes : List Push
  outcome : Outbound.Outcome

/-- A shutdown call whose wire has been shut down, and what the wire said. -/
structure Release where
  ending : Gateway.Ending
  answer : Except Fault Unit

structure Traffic where
  net : Network
  /-- The message of each gateway that its wire has taken. -/
  passing : Nat → Option Passage
  /-- The call of each gateway that has left its pipeline. -/
  releasing : Nat → Option Release

inductive Move
  /-- A registry over these wires takes the place of the one before. -/
  | furnish (choice : WireChoice) (offered : List Nat)
  | create (settings : Settings)
  | own (gateway : Nat) (move : Gateway.Move)
  /-- The wire takes the message that the worker is sending. -/
  | attempt (gateway : Nat)
  /-- It hands over the next thing it has to push. -/
  | push (gateway : Nat)
  /-- The send ends. -/
  | finish (gateway : Nat)
  /-- The pipeline's shutdown call goes on. As it leaves the pipeline it shuts the wire down. -/
  | attend (gateway : Nat)
  /-- The shutdown call hears what the wire said. -/
  | answer (gateway : Nat)
  /-- Something comes in over the wire. -/
  | receive (wire : Nat) (push : Push)
  | hold (wire : Nat) (id : String)
  | release (wire : Nat) (id : Option String)
  | fail (wire : Nat) (id code : String)
  | pass (span : Span)
  | age (span : Span)

inductive Note
  | created (gateway wire : Nat)
  /-- A gateway could not be set up, or there is none to take what comes in. -/
  | refused (fault : Fault)
  /-- A shutdown call comes in. -/
  | called (gateway : Nat) (call : Ticket)
  /-- The wire is shut down on behalf of the gateway, and lets go of `owner`. -/
  | freed (gateway wire : Nat) (owner : Option Nat)
  /-- The wire hands something over while it sends for the gateway. -/
  | handed (gateway : Nat) (target : Option Nat) (push : Push)
  | received (wire owner : Nat) (push : Push)
  /-- A document is dispatched in the gateway. -/
  | inbound (gateway : Nat) (effect : Effect)
  | of (gateway : Nat) (note : Gateway.Note)

namespace Note

def of? (i : Nat) : Note → Option Gateway.Note
  | of j note => if j = i then some note else none
  | _ => none

def called? (i : Nat) : Note → Option Ticket
  | called j call => if j = i then some call else none
  | _ => none

def freed? (i : Nat) : Note → Option (Nat × Option Nat)
  | freed j w owner => if j = i then some (w, owner) else none
  | _ => none

def created? (i : Nat) : Note → Option Nat
  | created j w => if j = i then some w else none
  | _ => none

end Note

def notesOf (i : Nat) (notes : List Note) : List Gateway.Note := notes.filterMap (Note.of? i)

def catalog (net : Network) (offered : List Nat) : List (String × Nat) :=
  offered.filterMap fun w => (net.wires[w]?).map fun wire => (wire.id, w)

theorem create_error {net net' : Network} {s : Settings} {fault : Fault} {seen : List Effect}
    (h : net.create s = (.error fault, net', seen)) : net' = net := by
  unfold create at h
  split at h
  next => cases h; rfl
  next =>
    simp only at h
    split at h
    next => cases h; rfl
    next =>
      split at h
      next => cases h; rfl
      next =>
        split at h
        next => cases h; rfl
        next => cases h

theorem create_ok {net net' : Network} {s : Settings} {id : String} {seen : List Effect}
    (h : net.create s = (.ok id, net', seen)) :
    ∃ w wire wire', net.registry.resolve net.registry.choice.selected = some (id, w) ∧
      net.wires[w]? = some wire ∧ wire.attach net.gateways.length = .ok wire' ∧
      net' = { net with
        wires := net.wires.set w wire'
        gateways := net.gateways ++ [Gateway.start s w id net.storage] } := by
  unfold create at h
  split at h
  next => cases h
  next =>
    simp only [Registry.resolveConfigured] at h
    cases hr : net.registry.resolve net.registry.choice.selected with
    | none => simp [hr] at h
    | some p =>
      obtain ⟨id', w⟩ := p
      simp only [hr] at h
      split at h
      next => cases h
      next wire hw =>
        split at h
        next => cases h
        next wire' ha =>
          cases h
          exact ⟨w, wire, wire', rfl, hw, ha, rfl⟩

namespace Traffic

/-- No gateway yet, and no registry. -/
def start (wires : List Wire) (waiting : Span) (storage : Instant) (next : Ticket) (seed : Nat) :
    Traffic :=
  ⟨⟨waiting, storage, wires, ⟨⟨none, ""⟩, Shelf.empty⟩, [], next, seed⟩, fun _ => none, fun _ => none⟩

def view (t : Traffic) (i : Nat) (g : Gateway) : Gateway.Course :=
  ⟨t.net.waiting, t.net.storage, g, (t.releasing i).map Release.ending, t.net.next⟩

/-- The gateway has moved on, and so has a shutdown call that has left its pipeline. -/
def put (t : Traffic) (i : Nat) (c : Gateway.Course) : Traffic :=
  let moved := c.ending.bind fun ending => (t.releasing i).map fun r => { r with ending }
  { t with
    net := { t.net with gateways := t.net.gateways.set i c.gateway, next := c.next }
    releasing := Function.update t.releasing i moved }

def hand (t : Traffic) (site : Site) (target : Option Nat) (push : Push) : Traffic × List Note :=
  match target with
  | none => (t, [])
  | some i =>
    match t.net.gateways[i]? with
    | none => (t, [])
    | some g =>
      match push with
      | .notification draft =>
        let (c, notes) := (t.view i g).step (.notify site draft)
        (t.put i c, notes.map (.of i))
      | .delivery d => (t, (g.inbound.dispatch site d).2.map (.inbound i))

def move (t : Traffic) : Move → Option (Traffic × List Note)
  | .furnish choice offered => do
    let registry ← (Registry.create choice (t.net.catalog offered)).1.toOption
    return ({ t with net := { t.net with registry } }, [])
  | .create s =>
    match t.net.create s with
    | (.error fault, net, _) => some ({ t with net }, [.refused fault])
    | (.ok _, net, _) => (net.gateways[t.net.gateways.length]?).map fun g =>
      ({ t with net }, [.created t.net.gateways.length g.wire])
  | .own i m => do
    let g ← t.net.gateways[i]?
    guard m.own
    let (c, notes) := (t.view i g).step m
    return (t.put i c, (m.calls t.net.next).map (.called i) ++ notes.map (.of i))
  | .attempt i => do
    let g ← t.net.gateways[i]?
    guard (t.passing i).isNone
    let item ← g.pipeline.current.head?
    let wire ← t.net.wires[g.wire]?
    let (wire, pushes, outcome) ← wire.attempt item t.net.seed
    return ({ t with
        net := { t.net with wires := t.net.wires.set g.wire wire, seed := t.net.seed + 2 }
        passing := Function.update t.passing i (some ⟨wire.attached, pushes, outcome⟩) }, [])
  | .push i => do
    let p ← t.passing i
    let push ← p.pushes.head?
    let left := { t with
      passing := Function.update t.passing i (some { p with pushes := p.pushes.tail }) }
    let (t, notes) := left.hand .worker p.target push
    return (t, .handed i p.target push :: notes)
  | .finish i => do
    let g ← t.net.gateways[i]?
    let p ← t.passing i
    guard p.pushes.isEmpty
    let (c, notes) := (t.view i g).step (.finish p.outcome)
    return ({ t.put i c with passing := Function.update t.passing i none }, notes.map (.of i))
  | .attend i => do
    let g ← t.net.gateways[i]?
    let wire ← t.net.wires[g.wire]?
    let (c, notes) := (t.view i g).step .attend
    let moved := t.put i c
    if notes.filterMap Gateway.Note.releasing? = [] then return (moved, notes.map (.of i))
    else
      let ending ← c.ending
      let (freed, answer) := wire.shutdown
      return ({ moved with
          net := { moved.net with wires := t.net.wires.set g.wire freed }
          releasing := Function.update t.releasing i (some ⟨ending, answer⟩) },
        notes.map (.of i) ++ [.freed i g.wire wire.attached])
  | .answer i => do
    let g ← t.net.gateways[i]?
    let r ← t.releasing i
    let (c, notes) := (t.view i g).step (.released r.answer)
    return (t.put i c, notes.map (.of i))
  | .receive w push => do
    let wire ← t.net.wires[w]?
    match wire.attached with
    | none => return (t, [.refused (.configuration (.wireUnattached wire.id))])
    | some i =>
      let (t, notes) := t.hand .caller (some i) push
      return (t, .received w i push :: notes)
  | .hold w id => some ({ t with net := t.net.onWire w (·.hold id) }, [])
  | .release w id => some ({ t with net := t.net.onWire w (·.release id) }, [])
  | .fail w id code => some ({ t with net := t.net.onWire w (·.fail id code) }, [])
  | .pass span =>
    some ({ t with net := { t.net with waiting := ⟨t.net.waiting.nanos + span.nanos⟩ } }, [])
  | .age span => some ({ t with net := { t.net with storage := t.net.storage.add span } }, [])

/-- One move. One that is not possible changes nothing. -/
def step (t : Traffic) (m : Move) : Traffic × List Note := (t.move m).getD (t, [])

def after (t : Traffic) (moves : List Move) : Traffic := moves.foldl (fun t m => (t.step m).1) t

def notes (t : Traffic) : List Move → List Note
  | [] => []
  | m :: rest => (t.step m).2 ++ (t.step m).1.notes rest

/-- The same wires, but for what they remember, hold or fail. -/
def Rewired (ws ws' : List Wire) : Prop :=
  ws'.length = ws.length ∧
    ∀ (w : Nat) (wire' : Wire), ws'[w]? = some wire' → ∃ wire : Wire, ws[w]? = some wire ∧ wire.Alike wire'

theorem rewired_refl (ws : List Wire) : Rewired ws ws := ⟨rfl, fun _ wire h => ⟨wire, h, .refl wire⟩⟩

theorem rewired_set {ws : List Wire} {w : Nat} {wire wire' : Wire} (hw : ws[w]? = some wire)
    (ha : wire.Alike wire') : Rewired ws (ws.set w wire') := by
  refine ⟨List.length_set, fun v x hx => ?_⟩
  rw [List.getElem?_set] at hx
  split_ifs at hx with hv hlt
  · obtain rfl := Option.some.inj hx
    exact ⟨wire, hv ▸ hw, ha⟩
  · exact ⟨x, hx, .refl x⟩

theorem rewired_onWire (net : Network) (w : Nat) {f : Wire → Wire} (hf : ∀ wire : Wire, wire.Alike (f wire)) :
    Rewired net.wires (net.onWire w f).wires := by
  refine ⟨List.length_modify .., fun v x hx => ?_⟩
  simp only [onWire, List.getElem?_modify, Option.map_eq_map, Option.map_eq_some_iff] at hx
  obtain ⟨wire, hwire, rfl⟩ := hx
  refine ⟨wire, hwire, ?_⟩
  split_ifs
  · exact hf wire
  · exact .refl wire

inductive Moved (t : Traffic) : Move → Traffic → List Note → Prop
  /-- The move is not possible. -/
  | stay {m} : Moved t m t []
  | furnish {choice offered registry}
    (furnished : (Registry.create choice (t.net.catalog offered)).1 = .ok registry) :
    Moved t (.furnish choice offered) { t with net := { t.net with registry } } []
  | refuse {s fault net seen} (refused : t.net.create s = (.error fault, net, seen)) :
    Moved t (.create s) { t with net } [.refused fault]
  | create {s id net seen g} (created : t.net.create s = (.ok id, net, seen))
    (seat : net.gateways[t.net.gateways.length]? = some g) :
    Moved t (.create s) { t with net } [.created t.net.gateways.length g.wire]
  | own {i g m c notes} (seat : t.net.gateways[i]? = some g) (own : m.own = true)
    (moves : (t.view i g).step m = (c, notes)) :
    Moved t (.own i m) (t.put i c) ((m.calls t.net.next).map (.called i) ++ notes.map (.of i))
  | attempt {i g item wire wire' pushes outcome} (seat : t.net.gateways[i]? = some g)
    (free : t.passing i = none) (sending : g.pipeline.worker = .sending item)
    (bound : t.net.wires[g.wire]? = some wire)
    (takes : wire.attempt item t.net.seed = some (wire', pushes, outcome)) :
    Moved t (.attempt i)
      { t with
        net := { t.net with wires := t.net.wires.set g.wire wire', seed := t.net.seed + 2 }
        passing := Function.update t.passing i (some ⟨wire.attached, pushes, outcome⟩) } []
  | push {i p push rest t' notes} (passing : t.passing i = some p) (pushes : p.pushes = push :: rest)
    (hands : ({ t with
      passing := Function.update t.passing i (some { p with pushes := rest }) }.hand .worker p.target push) =
        (t', notes)) :
    Moved t (.push i) t' (.handed i p.target push :: notes)
  | finish {i g p c notes} (seat : t.net.gateways[i]? = some g) (passing : t.passing i = some p)
    (done : p.pushes = []) (moves : (t.view i g).step (.finish p.outcome) = (c, notes)) :
    Moved t (.finish i) { t.put i c with passing := Function.update t.passing i none }
      (notes.map (.of i))
  | attend {i g c notes} (seat : t.net.gateways[i]? = some g)
    (moves : (t.view i g).step .attend = (c, notes))
    (unasked : notes.filterMap Gateway.Note.releasing? = []) :
    Moved t (.attend i) (t.put i c) (notes.map (.of i))
  | free {i g wire c notes ending} (seat : t.net.gateways[i]? = some g)
    (bound : t.net.wires[g.wire]? = some wire) (moves : (t.view i g).step .attend = (c, notes))
    (asked : notes.filterMap Gateway.Note.releasing? ≠ []) (ready : c.ending = some ending) :
    Moved t (.attend i)
      { t.put i c with
        net := { (t.put i c).net with wires := t.net.wires.set g.wire wire.shutdown.1 }
        releasing := Function.update t.releasing i (some ⟨ending, wire.shutdown.2⟩) }
      (notes.map (.of i) ++ [.freed i g.wire wire.attached])
  | answer {i g r c notes} (seat : t.net.gateways[i]? = some g) (ready : t.releasing i = some r)
    (moves : (t.view i g).step (.released r.answer) = (c, notes)) :
    Moved t (.answer i) (t.put i c) (notes.map (.of i))
  | receive {w wire i push t' notes} (bound : t.net.wires[w]? = some wire)
    (attached : wire.attached = some i) (hands : t.hand .caller (some i) push = (t', notes)) :
    Moved t (.receive w push) t' (.received w i push :: notes)
  | turnAway {w push} (fault : Fault) : Moved t (.receive w push) t [.refused fault]
  | rewire {m wires} (rewired : Rewired t.net.wires wires) :
    Moved t m { t with net := { t.net with wires } } []
  | pass (span : Span) :
    Moved t (.pass span)
      { t with net := { t.net with waiting := ⟨t.net.waiting.nanos + span.nanos⟩ } } []
  | age (span : Span) :
    Moved t (.age span) { t with net := { t.net with storage := t.net.storage.add span } } []

theorem moved_of_move {t t' : Traffic} {m : Move} {notes : List Note} (h : t.move m = some (t', notes)) :
    Moved t m t' notes := by
  cases m with
  | furnish choice offered =>
    simp only [move, Option.bind_eq_bind, Option.bind_eq_some_iff] at h
    obtain ⟨registry, hregistry, heq⟩ := h
    cases heq
    exact .furnish (by cases hr : (Registry.create choice (t.net.catalog offered)).1 <;>
      simp_all [Except.toOption])
  | create s =>
    simp only [move] at h
    split at h
    next fault net seen hc =>
      cases h
      exact .refuse hc
    next id net seen hc =>
      obtain ⟨g, hg, heq⟩ := Option.map_eq_some_iff.1 h
      cases heq
      exact .create hc hg
  | own i m =>
    simp only [move, Option.bind_eq_bind, Option.bind_eq_some_iff] at h
    obtain ⟨g, hi, u, hown, heq⟩ := h
    cases heq
    exact .own hi ((Option.guard_eq_some' u).1 hown) rfl
  | attempt i =>
    simp only [move, Option.bind_eq_bind, Option.bind_eq_some_iff] at h
    obtain ⟨g, hi, u, hfree, item, hitem, wire, hw, ⟨wire', pushes, outcome⟩, ha, heq⟩ := h
    cases heq
    rw [(wire.alike_attempt ha).attached]
    have hnone := Option.isNone_iff_eq_none.1 ((Option.guard_eq_some' u).1 hfree)
    exact .attempt hi hnone (Outbound.Pipeline.sending_of_current hitem) hw ha
  | push i =>
    simp only [move, Option.bind_eq_bind, Option.bind_eq_some_iff] at h
    obtain ⟨p, hp, push, hpush, heq⟩ := h
    cases heq
    exact .push hp (List.eq_cons_of_mem_head? hpush) rfl
  | finish i =>
    simp only [move, Option.bind_eq_bind, Option.bind_eq_some_iff] at h
    obtain ⟨g, hi, p, hp, u, hdone, heq⟩ := h
    cases heq
    exact .finish hi hp (List.isEmpty_iff.1 ((Option.guard_eq_some' u).1 hdone)) rfl
  | attend i =>
    simp only [move, Option.bind_eq_bind, Option.bind_eq_some_iff] at h
    obtain ⟨g, hi, wire, hw, heq⟩ := h
    split_ifs at heq with hasked
    · cases heq
      exact .attend hi rfl hasked
    · simp only [Option.bind_eq_some_iff] at heq
      obtain ⟨ending, hready, heq⟩ := heq
      cases heq
      exact .free hi hw rfl hasked hready
  | answer i =>
    simp only [move, Option.bind_eq_bind, Option.bind_eq_some_iff] at h
    obtain ⟨g, hi, r, hr, heq⟩ := h
    cases heq
    exact .answer hi hr rfl
  | receive w push =>
    simp only [move, Option.bind_eq_bind, Option.bind_eq_some_iff] at h
    obtain ⟨wire, hw, heq⟩ := h
    split at heq
    next =>
      cases heq
      exact .turnAway _
    next i hi =>
      cases heq
      exact .receive hw hi rfl
  | hold w id =>
    cases h
    exact .rewire (rewired_onWire t.net w fun wire => wire.alike_hold id)
  | release w id =>
    cases h
    exact .rewire (rewired_onWire t.net w fun wire => wire.alike_release id)
  | fail w id code =>
    cases h
    exact .rewire (rewired_onWire t.net w fun wire => wire.alike_fail id code)
  | pass span =>
    cases h
    exact .pass span
  | age span =>
    cases h
    exact .age span

theorem moved (t : Traffic) (m : Move) : Moved t m (t.step m).1 (t.step m).2 := by
  unfold step
  cases h : t.move m with
  | none => exact .stay
  | some r => exact moved_of_move h

theorem step_push {t t' : Traffic} {i : Nat} {p : Passage} {push : Push} {rest : List Push}
    {notes : List Note} (hp : t.passing i = some p) (hpushes : p.pushes = push :: rest)
    (hh : { t with
      passing := Function.update t.passing i (some { p with pushes := rest }) }.hand .worker p.target push =
        (t', notes)) :
    t.step (.push i) = (t', .handed i p.target push :: notes) := by
  simp [step, move, hp, hpushes, hh]

theorem step_finish {t : Traffic} {i : Nat} {g : Gateway} {p : Passage} {item : Outbound.Item}
    (hi : t.net.gateways[i]? = some g) (hsending : g.pipeline.worker = .sending item)
    (hp : t.passing i = some p) (hdone : p.pushes = []) :
    (t.step (.finish i)).1 = { t.put i { t.view i g with
      gateway := { g with pipeline := (g.pipeline.account item p.outcome).1 } } with
        passing := Function.update t.passing i none } := by
  have hsend : (t.view i g).gateway.pipeline.worker = .sending item := hsending
  simp only [step, move, hi, hp, hdone, Gateway.Course.finish_eq hsend p.outcome, Option.bind_eq_bind,
    Option.bind_some, List.isEmpty_nil]
  rfl

end Traffic

end Network

end MessageExchange
