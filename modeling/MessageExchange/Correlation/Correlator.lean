import MessageExchange.Effect

/-! Acknowledgements of one kind, matched to the calls that wait for them by the id of the message
they answer. One that finds no pending call goes to the listener, or is parked until it is claimed or
swept. -/

namespace MessageExchange.Correlation

/-- A periodic sweep, and when it is due. -/
structure Sweeper where
  period : Span
  due : Instant
  deriving DecidableEq

namespace Sweeper

/-- The longest period that a clock can be set ahead by. -/
def longest : Span := .ofSecs 0x7FFFFFFFFFFFFFFF

/-- A sweep with no period, or with one beyond every clock, never starts. -/
def start (period : Span) (now : Instant) : Option Sweeper :=
  if period.nanos = 0 ∨ longest.nanos < period.nanos then none else some ⟨period, now.add period⟩

def isDue (s : Sweeper) (now : Instant) : Bool := s.due.nanos ≤ now.nanos

/-- A sweep that is no later than this keeps the beat. -/
def slack : Span := .ofMillis 5

/-- It swept at `now`. Its next sweep is due a period after this one was, and a period after `now` if this
one came too late. -/
def next (s : Sweeper) (now : Instant) : Sweeper :=
  let beat := if (s.due.add slack).nanos < now.nanos then now else s.due
  { s with due := beat.add s.period }

end Sweeper

structure Correlator where
  kind : Kind
  ttl : Span
  desk : Desk String Notification
  listener : Option String
  sweeper : Option Sweeper
  deriving DecidableEq

/-- An acknowledgement is kept for `ttl`, and not once it is older than that by its own account. -/
def retention (ttl : Span) : Retention Notification := ⟨ttl, fun n ttl now => n.isOlderThan now ttl⟩

/-- What is seen of handing something over: at once, and when the calls it woke go on. -/
structure Handover where
  result : Except Fault Unit
  seen : List Effect
  claims : List Effect

def Handover.effects (h : Handover) : List Effect := h.seen ++ h.claims

namespace Correlator

/-- Both times are in seconds. -/
def start (kind : Kind) (ttl sweepPeriod : Nat) (now : Instant) : Correlator :=
  ⟨kind, .ofSecs ttl, Desk.empty, none, Sweeper.start (.ofSecs sweepPeriod) now⟩

/-- There is one listener at most, and it stays. -/
def listen (c : Correlator) (listener : String) : Except Fault Correlator :=
  match c.listener with
  | some _ => .error (.configuration (.callbackTaken c.kind))
  | none => .ok { c with listener := some listener }

def claims (n : Notification) (tickets : List Ticket) : List Effect :=
  tickets.flatMap fun t => [.logged .caller (.claimed n), .answered t (.ok n)]

def handover (site : Site) (kind : Kind) (n : Notification) : Placement → Handover
  | .woke ts => ⟨.ok (), [.logged site (.woke kind n.about ts.length)], claims n ts⟩
  | .stored => ⟨.ok (), [.logged site (.stored kind n.about)], []⟩
  | .storedLate =>
    ⟨.ok (), [.logged site (.lateDelivery kind.text n.about), .logged site (.stored kind n.about)],
      []⟩
  | .replaced => ⟨.ok (), [.logged site (.replaced kind n.about)], []⟩

/-- Hands `n` to the calls that wait for it, else to the listener, else parks it. -/
def deliver (c : Correlator) (site : Site) (n : Notification) (now : Instant) :
    Correlator × Handover :=
  if n.kind ≠ c.kind then (c, ⟨.error (.invalidArgument (.wrongKind n.kind c.kind)), [], []⟩)
  else
    match c.desk.complete n.about with
    | (desk, .woke ts) => ({ c with desk }, handover site c.kind n (.woke ts))
    | (desk, .back late) =>
      let notice := if late then [.logged site (.lateDelivery c.kind.text n.about)] else []
      match c.listener with
      | some listener =>
        ({ c with desk },
          ⟨.ok (), notice ++ [.logged site (.calledBack n), .handed listener n], []⟩)
      | none =>
        let (desk, placement) := desk.deliver n.about n now
        let h := handover site c.kind n placement
        ({ c with desk }, { h with seen := notice ++ h.seen })

/-- A call waits for the acknowledgement of the message `id`; a `timeout` of zero is no bound. -/
def await (c : Correlator) (t : Ticket) (id : String) (timeout now : Span) :
    Correlator × List Effect :=
  let (desk, claimed) := c.desk.wait t id timeout now
  ({ c with desk }, match claimed with | some n => claims n [t] | none => [])

def timeOut (c : Correlator) (w : Wait String) : Correlator × List Effect :=
  ({ c with desk := c.desk.timeOut w },
    [.logged .caller (.waitTimedOut c.kind w.key w.timeout.millis),
      .answered w.ticket (.error (.noAnswer w.key w.timeout))])

def cancel (c : Correlator) (t : Ticket) : Correlator := { c with desk := c.desk.cancel t }

def sweep (c : Correlator) (now : Instant) : Correlator × Nat :=
  let desk := c.desk.sweep (retention c.ttl) now
  ({ c with desk }, c.desk.size - desk.size)

/-- The periodic sweep, if it is due. However late it is, it runs once. -/
def tick (c : Correlator) (now : Instant) : Correlator × List Effect :=
  match c.sweeper with
  | none => (c, [])
  | some sweeper =>
    if sweeper.isDue now then
      let (swept, removed) := c.sweep now
      ({ swept with sweeper := some (sweeper.next now) },
        if removed = 0 then []
        else [.logged .sweeper (.swept c.kind.text removed swept.desk.size)])
    else (c, [])

/-- Ends the periodic sweep, drops what is parked and turns away every pending call. -/
def shutdown (c : Correlator) : Correlator × List Effect :=
  let (desk, ended) := c.desk.close
  ({ c with desk, sweeper := none }, ended.map fun w =>
    .answered w.ticket (.error (.rejected (.correlatorClosed c.kind w.key))))

def pending (c : Correlator) : Nat := c.desk.size

end Correlator

end MessageExchange.Correlation
