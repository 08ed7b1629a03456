import MessageExchange.Correlation.Desk
import MessageExchange.Event

/-! Runs of a desk with its two clocks. The waiting clock meets the deadlines of calls, the storage
clock ages what is parked. Calls get their tickets in order; after each act every call that was woken
has ended. -/

namespace MessageExchange.Correlation

inductive Ending (V : Type)
  | value (v : V)
  | timedOut
  | closed
  | cancelled
  deriving DecidableEq

inductive Act (K V : Type)
  | deliver (key : K) (value : V)
  | complete (key : K) (value : V)
  | wait (key : K) (timeout : Span)
  | cancel (ticket : Ticket)
  | sweep
  | close
  | advance (by_ : Span)
  | age (by_ : Span)
  deriving DecidableEq

inductive Answer (V : Type)
  | placed (placement : Placement)
  | woke (tickets : List Ticket)
  | back (value : V) (late : Bool)
  | started (ticket : Ticket)
  | count (n : Nat)
  | done
  /-- The call had already ended. -/
  | over
  deriving DecidableEq

/-- What a step at a key is logged as, where the desk goes by the name of `table`: only that a call had
already given up on the key. -/
def Answer.event? {V : Type} (table key : String) : Answer V → Option Event
  | .placed .storedLate => some (.lateDelivery table key)
  | .back _ true => some (.lateDelivery table key)
  | _ => none

structure Run (K V : Type) where
  desk : Desk K V
  waiting : Span
  storage : Instant
  /-- The ticket of the next call. -/
  next : Ticket
  deriving DecidableEq

namespace Run

variable {K V : Type} [DecidableEq K]

def start : Run K V := ⟨Desk.empty, ⟨0⟩, Instant.dawn, 0⟩

def timeOutAll (d : Desk K V) (due : List (Wait K)) : Desk K V := due.foldl Desk.timeOut d

/-- One act: the state after it, its answer, and the calls that ended. -/
def step (r : Retention V) (s : Run K V) : Act K V → Run K V × Answer V × List (Ticket × Ending V)
  | .deliver k v =>
    match s.desk.deliver k v s.storage with
    | (d, .woke ts) => ({ s with desk := d }, .placed (.woke ts), ts.map (·, .value v))
    | (d, p) => ({ s with desk := d }, .placed p, [])
  | .complete k v =>
    match s.desk.complete k with
    | (d, .woke ts) => ({ s with desk := d }, .woke ts, ts.map (·, .value v))
    | (d, .back late) => ({ s with desk := d }, .back v late, [])
  | .wait k timeout =>
    let (d, claimed) := s.desk.wait s.next k timeout s.waiting
    ({ s with desk := d, next := s.next + 1 }, .started s.next,
      (claimed.map fun v => (s.next, Ending.value v)).toList)
  | .cancel t =>
    if s.desk.isPending t then
      ({ s with desk := s.desk.cancel t }, .done, [(t, .cancelled)])
    else (s, .over, [])
  | .sweep =>
    let d := s.desk.sweep r s.storage
    ({ s with desk := d }, .count (s.desk.size - d.size), [])
  | .close =>
    let (d, ended) := s.desk.close
    ({ s with desk := d }, .count s.desk.size, ended.map fun w => (w.ticket, .closed))
  | .advance span =>
    let now : Span := ⟨s.waiting.nanos + span.nanos⟩
    let due := s.desk.due now
    ({ s with desk := timeOutAll s.desk due, waiting := now }, .done,
      due.map fun w => (w.ticket, .timedOut))
  | .age span => ({ s with storage := s.storage.add span }, .done, [])

end Run

end MessageExchange.Correlation
