import MessageExchange.Correlation.Correlator

/-! Runs of one correlator with its two clocks. -/

namespace MessageExchange.Correlation

structure Session where
  waiting : Span
  storage : Instant
  correlator : Correlator
  /-- The ticket of the next call. -/
  next : Ticket
  deriving DecidableEq

namespace Session

inductive Act
  | deliver (draft : Notification.Draft)
  | listen (listener : String)
  | await (id : String) (timeout : Span)
  | sweep
  | shutdown
  | cancel (call : Ticket)
  | advance (span : Span)
  | age (span : Span)
  deriving DecidableEq

inductive Answer
  | done
  /-- The call had already ended. -/
  | over
  | refused (fault : Fault)
  | count (n : Nat)
  | started (call : Ticket)
  deriving DecidableEq

def start (c : Correlator) : Session := ⟨⟨0⟩, Instant.dawn, c, 0⟩

def timeOutAll (c : Correlator) : List (Wait String) → Correlator × List Effect
  | [] => (c, [])
  | w :: rest =>
    let (c, effects) := c.timeOut w
    let (c, more) := timeOutAll c rest
    (c, effects ++ more)

def step (s : Session) : Act → Session × Answer × List Effect
  | .deliver draft =>
    let (c, h) := s.correlator.deliver .caller (draft.appear s.storage) s.storage
    ({ s with correlator := c },
      match h.result with
      | .ok _ => .done
      | .error fault => .refused fault,
      h.effects)
  | .listen listener =>
    match s.correlator.listen listener with
    | .ok c => ({ s with correlator := c }, .done, [])
    | .error fault => (s, .refused fault, [])
  | .await id timeout =>
    let (c, effects) := s.correlator.await s.next id timeout s.waiting
    ({ s with correlator := c, next := s.next + 1 }, .started s.next, effects)
  | .sweep =>
    let (c, n) := s.correlator.sweep s.storage
    ({ s with correlator := c }, .count n, [])
  | .shutdown =>
    let (c, effects) := s.correlator.shutdown
    ({ s with correlator := c, next := s.next + 1 }, .started s.next,
      effects ++ [.finished s.next])
  | .cancel t =>
    if s.correlator.desk.isPending t then
      ({ s with correlator := s.correlator.cancel t }, .done, [.cancelled t])
    else (s, .over, [])
  | .advance span =>
    let now : Span := ⟨s.waiting.nanos + span.nanos⟩
    let (c, effects) := timeOutAll s.correlator (s.correlator.desk.due now)
    ({ s with waiting := now, correlator := c }, .done, effects)
  | .age span =>
    let now := s.storage.add span
    let (c, effects) := s.correlator.tick now
    ({ s with storage := now, correlator := c }, .done, effects)

end Session

end MessageExchange.Correlation
