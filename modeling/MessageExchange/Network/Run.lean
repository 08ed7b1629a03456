import MessageExchange.Network

/-! Runs of a network. One act at a time comes in from outside; then everything that can go on goes
on until it rests. -/

namespace MessageExchange.Network

open Correlation Outbound

/-- What the outside does. Gateways, wires and calls are named by their numbers. -/
inductive Act
  | create (settings : Settings)
  | enqueue (gateway : Nat) (message : Message) (route : Route)
  | notify (gateway : Nat) (draft : Notification.Draft)
  | deliver (gateway : Nat) (delivery : Delivery)
  | handle (gateway : Nat) (direction : Direction) (handler : Handler)
  | listen (gateway : Nat) (kind : Kind) (listener : String)
  | await (gateway : Nat) (kind : Kind) (id : String) (timeout : Span)
  | sweep (gateway : Nat) (kind : Kind)
  | shutdown (gateway : Nat)
  | letGo (gateway : Nat)
  | cancel (call : Ticket)
  | advance (span : Span)
  | age (span : Span)
  | hold (wire : Nat) (id : String)
  | release (wire : Nat) (id : Option String)
  | fail (wire : Nat) (id code : String)
  | pushNotifications (wire : Nat) (drafts : List Notification.Draft)
  | pushDelivery (wire : Nat) (delivery : Delivery)

inductive Answer
  | done
  /-- The call had already ended. -/
  | over
  | refused (fault : Fault)
  | created (wire : String)
  | started (call : Ticket)
  | count (n : Nat)
  | results (results : List (Except Fault Unit))

def Answer.ofResult : Except Fault Unit → Answer
  | .ok _ => .done
  | .error fault => .refused fault

/-- Several notifications at once: all are handed over before a call they woke goes on. -/
def notifyAll (net : Network) (i : Nat) : List Notification.Draft →
    Network × List (Except Fault Unit) × List Effect × List Effect
  | [] => (net, [], [], [])
  | draft :: rest =>
    match net.gateways[i]? with
    | none => (net, [], [], [])
    | some g =>
      let (g, h) := g.notify .caller (draft.appear net.storage) net.storage
      let (net, results, seen, claims) :=
        notifyAll { net with gateways := net.gateways.set i g } i rest
      (net, h.result :: results, h.seen ++ seen, h.claims ++ claims)

def tryOn (net : Network) (i : Nat) (f : Gateway → Except Fault Gateway) :
    Network × Answer × List Effect :=
  match net.gateways[i]? with
  | none => (net, .over, [])
  | some g =>
    match f g with
    | .error fault => (net, .refused fault, [])
    | .ok g => ({ net with gateways := net.gateways.set i g }, .done, [])

/-- The act itself, before anything goes on. -/
def act (net : Network) : Act → Network × Answer × List Effect
  | .create s =>
    match net.create s with
    | (.ok id, net, effects) => (net, .created id, effects)
    | (.error fault, net, effects) => (net, .refused fault, effects)
  | .enqueue i m r =>
    match net.gateways[i]? with
    | none => (net, .over, [])
    | some g =>
      let (result, p, events) := g.pipeline.enqueue m r
      (net.onGateway i fun g => { g with pipeline := p }, .ofResult result,
        events.map (.logged .caller))
  | .notify i draft =>
    match net.notifyAll i [draft] with
    | (net, results, seen, claims) => (net, .ofResult (results.headD (.ok ())), seen ++ claims)
  | .deliver i d =>
    match net.gateways[i]? with
    | none => (net, .over, [])
    | some g =>
      let (result, effects) := g.inbound.dispatch .caller d
      (net, .ofResult result, effects)
  | .handle i direction h => net.tryOn i fun g =>
      (g.inbound.register direction h).map fun inbound => { g with inbound }
  | .listen i kind listener => net.tryOn i fun g =>
      ((g.correlator kind).listen listener).map (g.setCorrelator kind)
  | .await i kind id timeout =>
    match net.gateways[i]? with
    | none => (net, .over, [])
    | some g =>
      let (c, effects) := (g.correlator kind).await net.next id timeout net.waiting
      ({ net with gateways := net.gateways.set i (g.setCorrelator kind c), next := net.next + 1 },
        .started net.next, effects)
  | .sweep i kind =>
    match net.gateways[i]? with
    | none => (net, .over, [])
    | some g =>
      let (c, n) := (g.correlator kind).sweep net.storage
      ({ net with gateways := net.gateways.set i (g.setCorrelator kind c) }, .count n, [])
  | .shutdown i =>
    match net.gateways[i]? with
    | none => (net, .over, [])
    | some g =>
      let (g, found) := g.shutdown net.next
      ({ net with gateways := net.gateways.set i g, next := net.next + 1 }, .started net.next,
        (found.map fun stats => .stopped net.next (.ok stats)).toList)
  | .letGo i =>
    let net := net.pendingCalls.foldl Network.cancel net
    let wires := net.wires.map fun (w : Wire) => w.release none
    let net := { net with wires }
    (net.onGateway i fun g => { g with pipeline := g.pipeline.letGo }, .done, [])
  | .cancel t =>
    if net.isPending t then (net.cancel t, .done, [.cancelled t]) else (net, .over, [])
  | .advance span =>
    let (net, effects) := net.advance span
    (net, .done, effects)
  | .age span =>
    let (net, effects) := net.age span
    (net, .done, effects)
  | .hold w id => (net.onWire w (·.hold id), .done, [])
  | .release w id => (net.onWire w (·.release id), .done, [])
  | .fail w id code => (net.onWire w (·.fail id code), .done, [])
  | .pushNotifications w drafts =>
    match net.wires[w]? with
    | none => (net, .over, [])
    | some wire =>
      match wire.attached with
      | none => (net, .results [.error (.configuration (.wireUnattached wire.id))], [])
      | some i =>
        match net.notifyAll i drafts with
        | (net, results, seen, claims) => (net, .results results, seen ++ claims)
  | .pushDelivery w d =>
    match net.wires[w]? with
    | none => (net, .over, [])
    | some wire =>
      match wire.attached.bind (net.gateways[·]?) with
      | none => (net, .refused (.configuration (.wireUnattached wire.id)), [])
      | some g =>
        let (result, effects) := g.inbound.dispatch .caller d
        (net, .ofResult result, effects)

def step (net : Network) (a : Act) : Network × Answer × List Effect :=
  let (net, answer, effects) := net.act a
  let (net, after) := net.settle
  (net, answer, effects ++ after)

def run (net : Network) (acts : List Act) : Network := acts.foldl (fun net a => (net.step a).1) net

end MessageExchange.Network
