import MessageExchange.Gateway
import MessageExchange.Registry

/-! Gateways over shared wires, with the two clocks. The waiting clock meets the deadlines of calls,
the storage clock ages what is parked and starts the periodic sweeps. -/

namespace MessageExchange

open Correlation Outbound

structure Network where
  waiting : Span
  storage : Instant
  wires : List Wire
  registry : Registry Nat
  gateways : List Gateway
  /-- The ticket of the next call. -/
  next : Ticket
  /-- Where the next generated id grows from. -/
  seed : Nat

namespace Network

/-- A network without gateways, its wires registered. -/
def start (choice : WireChoice) (wires : List Wire) : Except Fault Network × List Effect :=
  let (r, events) := Registry.create choice (wires.zipIdx.map fun p => (p.1.id, p.2))
  (r.map fun registry => ⟨⟨0⟩, Instant.dawn, wires, registry, [], 0, 0⟩,
    events.map (.logged .caller))

def onGateway (net : Network) (g : Nat) (f : Gateway → Gateway) : Network :=
  { net with gateways := net.gateways.modify g f }

def onWire (net : Network) (w : Nat) (f : Wire → Wire) : Network :=
  { net with wires := net.wires.modify w f }

/-- A new gateway on the wire the registry resolves. A gateway that cannot be set up leaves nothing
behind. -/
def create (net : Network) (s : Settings) : Except Fault String × Network × List Effect :=
  match s.validate with
  | .error cause => (.error (.configuration cause), net, [])
  | .ok _ =>
    let (resolved, events) := net.registry.resolveConfigured
    let seen : List Effect := events.map (.logged .caller)
    match resolved with
    | .error fault => (.error fault, net, seen)
    | .ok (id, w) =>
      match net.wires[w]? with
      | none => (.error (.configuration (.defaultWireMissing id)), net, seen)
      | some wire =>
        match wire.attach net.gateways.length with
        | .error fault => (.error fault, net, seen)
        | .ok wire =>
          (.ok id,
            { net with
              wires := net.wires.set w wire
              gateways := net.gateways ++ [Gateway.start s w id net.storage] },
            seen ++ [.logged .caller (.gatewayCreated s.name id s.ttl s.sweepPeriod)])

/-- What a wire pushes goes to the gateway it is attached to. -/
def take (net : Network) (site : Site) (gateway : Option Nat) (pushes : List Push) :
    Network × List Effect :=
  match gateway.bind fun g => (net.gateways[g]?).map (g, ·) with
  | none => (net, [])
  | some (i, g) =>
    let (g, effects) := g.take site net.storage pushes
    ({ net with gateways := net.gateways.set i g }, effects)

/-- One attempt to send over the wire `w`. -/
def attempt (w : Nat) (net : Network) (i : Item) : Option (Network × Outcome × List Effect) := do
  let wire ← net.wires[w]?
  let (wire, pushes, outcome) ← wire.attempt i net.seed
  let net := { net with wires := net.wires.set w wire, seed := net.seed + 2 }
  let (net, effects) := net.take .worker wire.attached pushes
  return (net, outcome, effects)

/-- A gateway's pipeline has stopped: its wire is shut down, then its correlators, and the call that
asked for it ends. -/
def conclude (net : Network) (i : Nat) (call : Ticket) (stats : Stats) : Network × List Effect :=
  match net.gateways[i]? with
  | none => (net, [])
  | some g =>
    let (net, told, result) : Network × List Effect × Except Fault Unit :=
      match net.wires[g.wire]? with
      | none => (net, [], .ok ())
      | some wire =>
        let owner := (wire.attached.bind (net.gateways[·]?)).map Gateway.name
        let (wire', result) := wire.shutdown
        ({ net with wires := net.wires.set g.wire wire' },
          if wire.tells then [.released wire.id owner] else [], result)
    let (g, effects) := g.conclude call stats result
    ({ net with gateways := net.gateways.set i g }, told ++ effects)

def settleOne (net : Network) (i : Nat) : Network × List Effect :=
  match net.gateways[i]? with
  | none => (net, [])
  | some g =>
    let p := g.pipeline
    let (net, p, worked) := Pipeline.drive (attempt g.wire) p.bound net p
    let (p, events, ended) := p.attendAll net.waiting (2 * p.calls.length + 1)
    let net := net.onGateway i fun g => { g with pipeline := p }
    let (net, concluded) := ended.foldl (fun (net, effects) (call, stats) =>
      let (net, more) := net.conclude i call stats
      (net, effects ++ more)) (net, [])
    (net, worked ++ events.map (.logged .caller) ++ concluded)

/-- Everything that can go on goes on until it rests. -/
def settle (net : Network) : Network × List Effect :=
  (List.range net.gateways.length).foldl (fun (net, effects) i =>
    let (net, more) := net.settleOne i
    (net, effects ++ more)) (net, [])

/-- A call that waits, with the gateway and the correlator it waits at. -/
structure Place where
  gateway : Nat
  kind : Kind
  wait : Wait String

/-- The calls whose deadline has come, in order of time, then of their tickets. -/
def due (net : Network) : List Place :=
  let at_ (i : Nat) (g : Gateway) (kind : Kind) : List Place :=
    ((g.correlator kind).desk.due net.waiting).map (⟨i, kind, ·⟩)
  let all := net.gateways.zipIdx.flatMap fun p => at_ p.2 p.1 .submission ++ at_ p.2 p.1 .relay
  all.mergeSort fun a b =>
    let x := a.wait.since.nanos + a.wait.timeout.nanos
    let y := b.wait.since.nanos + b.wait.timeout.nanos
    x < y || (x == y && a.wait.ticket ≤ b.wait.ticket)

def timeOut (net : Network) (p : Place) : Network × List Effect :=
  match net.gateways[p.gateway]? with
  | none => (net, [])
  | some g =>
    let (c, effects) := (g.correlator p.kind).timeOut p.wait
    ({ net with gateways := net.gateways.set p.gateway (g.setCorrelator p.kind c) }, effects)

def advance (net : Network) (span : Span) : Network × List Effect :=
  let net := { net with waiting := ⟨net.waiting.nanos + span.nanos⟩ }
  net.due.foldl (fun (net, effects) p =>
    let (net, more) := net.timeOut p
    (net, effects ++ more)) (net, [])

def tick (net : Network) (kind : Kind) : Network × List Effect :=
  let ticked := net.gateways.map fun g =>
    let (c, effects) := (g.correlator kind).tick net.storage
    (g.setCorrelator kind c, effects)
  ({ net with gateways := ticked.map Prod.fst }, ticked.flatMap Prod.snd)

def age (net : Network) (span : Span) : Network × List Effect :=
  let net := { net with storage := net.storage.add span }
  let (net, relay) := net.tick .relay
  let (net, submission) := net.tick .submission
  (net, relay ++ submission)

def isPending (net : Network) (t : Ticket) : Bool := net.gateways.any (·.isPending t)

def cancel (net : Network) (t : Ticket) : Network :=
  { net with gateways := net.gateways.map (·.cancel t) }

def pendingCalls (net : Network) : List Ticket :=
  net.gateways.flatMap fun g =>
    g.submission.desk.waits.map Wait.ticket ++ g.relay.desk.waits.map Wait.ticket ++
      g.pipeline.calls.map Call.ticket

end Network

end MessageExchange
