import MessageExchange.Effect

/-! The way out: accepted messages are numbered, queued, and sent one at a time, in order, by one
worker. Shutting down closes the intake and waits for the worker to empty the queue, or, once its
drain time is up, tells the worker to drop what is left.

Only the first shutdown call to get its turn watches the worker and can tell it to drop messages.
Calls behind it wait for their turn. When the watching call is given up, nobody watches any more: the
worker empties the queue on its own, and the next call does not wait for it. -/

namespace MessageExchange.Outbound

open Correlation (Ticket)

structure Item where
  seq : Nat
  message : Message
  route : Route
  deriving DecidableEq

/-- What came of one attempt to send. A wire that breaks down may leave a text behind. -/
inductive Outcome
  | accepted
  | failed (fault : Fault)
  | panicked (text : Option String)
  deriving DecidableEq

inductive Worker
  | idle
  | sending (item : Item)
  /-- Told to drop what is queued, one message after the other. -/
  | dropping
  | stopped
  deriving DecidableEq

/-- Whether the worker is told to drop what is queued. -/
inductive Order
  | pending
  | given
  /-- There is nobody left to give it. -/
  | waived
  deriving DecidableEq

inductive Phase
  /-- Waits for its turn. -/
  | queued (drain : Span)
  /-- Watches the worker, until the deadline if there is one. -/
  | draining (drain : Span) (deadline : Option Span)
  /-- Has ordered the rest dropped and waits for the worker. -/
  | abandoning
  deriving DecidableEq

structure Call where
  ticket : Ticket
  phase : Phase
  deriving DecidableEq

structure Pipeline where
  wire : String
  accepting : Bool
  /-- The number of the next accepted message. -/
  next : Nat
  stats : Stats
  queue : List Item
  worker : Worker
  order : Order
  /-- No shutdown call has had its turn yet. -/
  unwatched : Bool
  /-- Shutdown calls by turn; the first one has its turn. -/
  calls : List Call
  deriving DecidableEq

namespace Pipeline

def start (wire : String) : Pipeline :=
  ⟨wire, true, 0, Stats.zero, [], .idle, .pending, true, []⟩

def trail (p : Pipeline) (i : Item) : Trail := ⟨p.wire, i.seq, i.message.id⟩

/-- The worker takes no more messages. -/
def closed (p : Pipeline) : Bool := p.worker == .dropping || p.worker == .stopped

def enqueue (p : Pipeline) (m : Message) (r : Route) :
    Except Fault Unit × Pipeline × List Event :=
  match m.head with
  | .error fault => (.error fault, p, [])
  | .ok _ =>
    if !p.accepting then (.error (.rejected .pipelineClosed), p, [.refused p.wire m.id])
    else if p.closed then (.error (.rejected .workerGone), { p with next := p.next + 1 }, [])
    else
      let i : Item := ⟨p.next, m, r⟩
      (.ok (), { p with next := p.next + 1, queue := p.queue ++ [i],
                        stats := { p.stats with enqueued := p.stats.enqueued + 1 } },
        [.enqueued (p.trail i)])

/-- The worker's next move of its own: taking up a message, dropping one, or stopping. It has none
while a message is being sent, while there is nothing to do, and once it has stopped. -/
def work (p : Pipeline) : Option (Pipeline × List Event) :=
  match p.worker, p.queue with
  | .idle, i :: rest =>
    if p.order = .given then some ({ p with worker := .dropping }, [])
    else some ({ p with worker := .sending i, queue := rest },
      [.dispatched (p.trail i) i.route.text i.route.role])
  | .idle, [] =>
    if p.order = .given ∨ !p.accepting then
      some ({ p with worker := .stopped }, [.workerStopped p.wire])
    else none
  | .dropping, i :: rest =>
    some ({ p with queue := rest, stats := { p.stats with dropped := p.stats.dropped + 1 } },
      [.dropped (p.trail i)])
  | .dropping, [] => some ({ p with worker := .stopped }, [.workerStopped p.wire])
  | .sending _, _ => none
  | .stopped, _ => none

def account (p : Pipeline) (i : Item) (o : Outcome) : Pipeline × List Event :=
  let p := { p with worker := .idle }
  let failed := { p with stats := { p.stats with failed := p.stats.failed + 1 } }
  match o with
  | .accepted =>
    ({ p with stats := { p.stats with sent := p.stats.sent + 1 } }, [.sent (p.trail i)])
  | .failed fault => (failed, [.sendFailed (p.trail i) fault])
  | .panicked text =>
    (failed, [.sendPanicked (p.trail i) (text.getD "non-string panic payload")])

def shutdown (p : Pipeline) (t : Ticket) (drain : Span) : Pipeline :=
  { p with accepting := false, calls := p.calls ++ [⟨t, .queued drain⟩] }

/-- The move of the call whose turn it is: it starts to watch the worker, or it ends with the
counters it finds. It has none while it watches a worker that has not stopped. -/
def attend (p : Pipeline) (now : Span) : Option (Pipeline × List Event × Option (Ticket × Stats)) :=
  match p.calls with
  | [] => none
  | c :: rest =>
    let ended := some ({ p with calls := rest }, [.pipelineStopped p.wire p.stats],
      some (c.ticket, p.stats))
    match c.phase with
    | .queued drain =>
      if p.unwatched then
        let deadline := if drain.nanos = 0 then none else some ⟨now.nanos + drain.nanos⟩
        some ({ p with unwatched := false, calls := ⟨c.ticket, .draining drain deadline⟩ :: rest },
          [], none)
      else ended
    | _ => if p.worker = .stopped then ended else none

def expire (p : Pipeline) (now : Span) : Pipeline × List Event :=
  match p.calls with
  | ⟨t, .draining drain (some deadline)⟩ :: rest =>
    if deadline.nanos ≤ now.nanos ∧ p.worker ≠ .stopped then
      ({ p with order := .given, calls := ⟨t, .abandoning⟩ :: rest },
        [.drainTimedOut p.wire drain.millis])
    else (p, [])
  | _ => (p, [])

/-- Nobody can give the order any more. -/
def waive (p : Pipeline) : Pipeline :=
  if p.order = .pending then { p with order := .waived } else p

def isPending (p : Pipeline) (t : Ticket) : Bool := p.calls.any (·.ticket == t)

/-- A shutdown call is given up. If it was watching the worker, nobody does from now on. -/
def cancel (p : Pipeline) (t : Ticket) : Pipeline :=
  let left := { p with calls := p.calls.filter (·.ticket != t) }
  match p.calls with
  | ⟨t', .draining _ _⟩ :: _ => if t' = t then left.waive else left
  | _ => left

/-- The pipeline is let go of: no more messages, and nobody watches. What is queued is still sent. -/
def letGo (p : Pipeline) : Pipeline :=
  { p with accepting := false, unwatched := false, calls := [] }.waive

/-- Steps after which worker and calls must have come to rest. -/
def bound (p : Pipeline) : Nat := 2 * p.queue.length + 4

/-- Lets the worker go on until it has nothing to do or the wire holds its message. `attempt` makes
one attempt to send, unless the wire holds the message. -/
def drive {σ : Type} (attempt : σ → Item → Option (σ × Outcome × List Effect)) :
    Nat → σ → Pipeline → σ × Pipeline × List Effect
  | 0, s, p => (s, p, [])
  | n + 1, s, p =>
    match p.worker with
    | .sending i =>
      match attempt s i with
      | none => (s, p, [])
      | some (s, o, during) =>
        let (p, events) := p.account i o
        let (s, p, after) := drive attempt n s p
        (s, p, during ++ events.map (.logged .worker) ++ after)
    | _ =>
      match p.work with
      | none => (s, p, [])
      | some (p, events) =>
        let (s, p, after) := drive attempt n s p
        (s, p, events.map (.logged .worker) ++ after)

/-- Lets shutdown calls go on until none can. -/
def attendAll (now : Span) : Nat → Pipeline → Pipeline × List Event × List (Ticket × Stats)
  | 0, p => (p, [], [])
  | n + 1, p =>
    match p.attend now with
    | none => (p, [], [])
    | some (p, events, ended) =>
      let (p, more, others) := attendAll now n p
      (p, events ++ more, ended.toList ++ others)

end Pipeline

end MessageExchange.Outbound
