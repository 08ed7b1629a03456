import MessageExchange.Wire

/-! A pipeline on a wire of its own, without a gateway. -/

namespace MessageExchange.Outbound

open Correlation (Ticket)

structure Line where
  waiting : Span
  wire : Wire
  pipeline : Pipeline
  /-- The ticket of the next call. -/
  next : Ticket

namespace Line

inductive Act
  | enqueue (message : Message) (route : Route)
  | shutdown (drain : Span)
  | cancel (call : Ticket)
  | advance (span : Span)
  | hold (id : String)
  | release (id : Option String)
  | letGo

inductive Answer
  | done
  /-- The call had already ended. -/
  | over
  | refused (fault : Fault)
  | started (call : Ticket)

def start (wire : Wire) : Line := ⟨⟨0⟩, wire, Pipeline.start wire.id, 0⟩

/-- The wire has nobody to push to. -/
def attempt (w : Wire) (i : Item) : Option (Wire × Outcome × List Effect) :=
  (w.attempt i 0).map fun (w, _, outcome) => (w, outcome, [])

def settle (l : Line) : Line × List Effect :=
  let (wire, p, worked) := Pipeline.drive attempt l.pipeline.bound l.wire l.pipeline
  let (p, events, ended) := p.attendAll l.waiting (2 * p.calls.length + 1)
  ({ l with wire, pipeline := p },
    worked ++ events.map (.logged .caller) ++ ended.map fun e => .stopped e.1 (.ok e.2))

/-- The act itself, before anything goes on. -/
def act (l : Line) : Act → Line × Answer × List Effect
  | .enqueue m r =>
    match l.pipeline.enqueue m r with
    | (.ok _, p, events) => ({ l with pipeline := p }, .done, events.map (.logged .caller))
    | (.error fault, p, events) =>
      ({ l with pipeline := p }, .refused fault, events.map (.logged .caller))
  | .shutdown drain =>
    ({ l with pipeline := l.pipeline.shutdown l.next drain, next := l.next + 1 },
      .started l.next, [])
  | .cancel t =>
    if l.pipeline.isPending t then
      ({ l with pipeline := l.pipeline.cancel t }, .done, [.cancelled t])
    else (l, .over, [])
  | .advance span =>
    let now : Span := ⟨l.waiting.nanos + span.nanos⟩
    let (p, events) := l.pipeline.expire now
    ({ l with waiting := now, pipeline := p }, .done, events.map (.logged .caller))
  | .hold id => ({ l with wire := l.wire.hold id }, .done, [])
  | .release id => ({ l with wire := l.wire.release id }, .done, [])
  | .letGo =>
    ({ l with wire := l.wire.release none, pipeline := l.pipeline.letGo }, .done, [])

def step (l : Line) (a : Act) : Line × Answer × List Effect :=
  let (l, answer, effects) := l.act a
  let (l, after) := l.settle
  (l, answer, effects ++ after)

end Line

end MessageExchange.Outbound
