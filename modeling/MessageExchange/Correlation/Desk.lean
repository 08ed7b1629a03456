import MessageExchange.Shelf
import MessageExchange.Time

/-! Where values meet the calls that wait for them. Under each key there is at most one carrier: it
holds either the slots of waiting calls, in order of arrival, or one unclaimed value. A call that is
given up leaves its slot behind; the slot is noticed and cleared by whoever comes to that carrier
next. -/

namespace MessageExchange.Correlation

/-- Names one call among all calls ever made. -/
abbrev Ticket := Nat

inductive Carrier (V : Type)
  | waiting (slots : List Ticket)
  | parked (value : V) (since : Instant)
  deriving DecidableEq

/-- A call that has not ended: when it began, and how long it is ready to wait. -/
structure Wait (K : Type) where
  ticket : Ticket
  key : K
  since : Span
  timeout : Span
  deriving DecidableEq

/-- A timeout of zero is no bound. -/
def Wait.deadline {K : Type} (w : Wait K) : Option Span :=
  if w.timeout.nanos = 0 then none else some ⟨w.since.nanos + w.timeout.nanos⟩

structure Desk (K V : Type) where
  carriers : Shelf K (Carrier V)
  /-- The pending calls, in order of arrival. -/
  waits : List (Wait K)
  deriving DecidableEq

/-- How long values are kept: for `ttl` after they were parked, and not once they are stale by their
own account. -/
structure Retention (V : Type) where
  ttl : Span
  stale : V → Span → Instant → Bool

/-- What became of a value that was handed over. -/
inductive Placement
  | woke (tickets : List Ticket)
  | stored
  /-- Stored where calls had been waiting and were all given up. -/
  | storedLate
  | replaced
  deriving DecidableEq, Repr

/-- What became of a value that only pending calls may have. -/
inductive Completion
  | woke (tickets : List Ticket)
  /-- Nobody took it; `late` when calls had been waiting and were all given up. -/
  | back (late : Bool)
  deriving DecidableEq, Repr

namespace Desk

variable {K V : Type} [DecidableEq K]

def empty : Desk K V := ⟨Shelf.empty, []⟩

def isPending (d : Desk K V) (t : Ticket) : Bool := d.waits.any (·.ticket == t)

def live (d : Desk K V) (slots : List Ticket) : List Ticket := slots.filter d.isPending

/-- Ends calls. Their slots stay where they are. -/
def endCalls (d : Desk K V) (tickets : List Ticket) : Desk K V :=
  { d with waits := d.waits.filter fun w => !tickets.contains w.ticket }

/-- Hands a value to every pending call on `k`. Nothing is kept when there is none. -/
def complete (d : Desk K V) (k : K) : Desk K V × Completion :=
  match d.carriers.get? k with
  | some (.waiting slots) =>
    let cleared := { d with carriers := d.carriers.erase k }
    match d.live slots with
    | [] => (cleared, .back true)
    | t :: ts => (cleared.endCalls (t :: ts), .woke (t :: ts))
  | _ => (d, .back false)

/-- Hands a value to every pending call on `k`, or parks it for a later one. -/
def deliver (d : Desk K V) (k : K) (v : V) (now : Instant) : Desk K V × Placement :=
  let stocked := { d with carriers := d.carriers.put k (.parked v now) }
  match d.carriers.get? k with
  | none => (stocked, .stored)
  | some (.parked _ _) => (stocked, .replaced)
  | some (.waiting slots) =>
    match d.live slots with
    | [] => (stocked, .storedLate)
    | t :: ts =>
      (({ d with carriers := d.carriers.erase k } : Desk K V).endCalls (t :: ts), .woke (t :: ts))

/-- A call claims the value parked under `k`, or starts waiting. -/
def wait (d : Desk K V) (t : Ticket) (k : K) (timeout now : Span) : Desk K V × Option V :=
  let call : Wait K := ⟨t, k, now, timeout⟩
  match d.carriers.get? k with
  | some (.parked v _) => ({ d with carriers := d.carriers.erase k }, some v)
  | some (.waiting slots) =>
    (⟨d.carriers.put k (.waiting (slots ++ [t])), d.waits ++ [call]⟩, none)
  | none => (⟨d.carriers.put k (.waiting [t]), d.waits ++ [call]⟩, none)

/-- Clears the slots of ended calls under `k`, and the carrier once none is left. -/
def tidy (d : Desk K V) (k : K) : Desk K V :=
  match d.carriers.get? k with
  | some (.waiting slots) =>
    match d.live slots with
    | [] => { d with carriers := d.carriers.erase k }
    | t :: ts => { d with carriers := d.carriers.put k (.waiting (t :: ts)) }
  | _ => d

def timeOut (d : Desk K V) (w : Wait K) : Desk K V := (d.endCalls [w.ticket]).tidy w.key

/-- The pending calls whose deadline has come, in order of time, then of arrival. -/
def due (d : Desk K V) (now : Span) : List (Wait K) :=
  (d.waits.filter fun w => w.deadline.any (·.nanos ≤ now.nanos)).mergeSort fun a b =>
    a.since.nanos + a.timeout.nanos ≤ b.since.nanos + b.timeout.nanos

def cancel (d : Desk K V) (t : Ticket) : Desk K V := d.endCalls [t]

/-- A parked value that has been kept, or has lasted, too long. -/
def isStale (r : Retention V) (now since : Instant) (v : V) : Bool :=
  r.stale v r.ttl now || (r.ttl.nanos : Int) < now.since since

/-- Clears stale values, slots of ended calls, and carriers with neither value nor pending call. -/
def sweep (d : Desk K V) (r : Retention V) (now : Instant) : Desk K V :=
  { d with
    carriers := d.carriers.revise fun _ c =>
      match c with
      | .parked v since => if isStale r now since v then none else some (.parked v since)
      | .waiting slots =>
        match d.live slots with
        | [] => none
        | t :: ts => some (.waiting (t :: ts)) }

/-- Clears every carrier. The calls that were pending have nothing left to wait for. -/
def close (d : Desk K V) : Desk K V × List (Wait K) := (empty, d.waits)

def size (d : Desk K V) : Nat := d.carriers.size

def contains (d : Desk K V) (k : K) : Bool := (d.carriers.get? k).isSome

def waiters (d : Desk K V) (k : K) : Nat :=
  match d.carriers.get? k with
  | some (.waiting slots) => (d.live slots).length
  | _ => 0

def isParked (d : Desk K V) (k : K) : Bool :=
  match d.carriers.get? k with
  | some (.parked _ _) => true
  | _ => false

end Desk

end MessageExchange.Correlation
