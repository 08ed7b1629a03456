import MessageExchange.Direction
import MessageExchange.Time

/-! Acknowledgements of sent messages: what they say, and when they are too old to keep. -/

namespace MessageExchange

/-- What an acknowledgement reports about its message. -/
inductive Verdict
  | receipt
  | error (code : String)
  deriving DecidableEq, Repr

def Verdict.text : Verdict → String
  | .receipt => "receipt"
  | .error code => "error(" ++ code ++ ")"

/-- A time of creation: a point in time, or so many seconds before the notification appears. -/
inductive Stamp
  | at_ (instant : Instant)
  | ago (secs : Int)
  deriving DecidableEq, Repr

def Stamp.instant : Stamp → Instant → Instant
  | .at_ t, _ => t
  | .ago secs, now => ⟨now.nanos - secs * 1000000000⟩

structure Notification where
  kind : Kind
  id : String
  /-- The sent message it answers. -/
  about : String
  verdict : Verdict
  description : String
  created : Instant
  deriving DecidableEq, Repr

namespace Notification

structure Draft where
  kind : Kind
  id : String
  about : String
  verdict : Verdict
  description : String
  stamp : Stamp
  deriving DecidableEq, Repr

def Draft.appear (d : Draft) (now : Instant) : Notification :=
  ⟨d.kind, d.id, d.about, d.verdict, d.description, d.stamp.instant now⟩

def isReceipt (n : Notification) : Bool := n.verdict == .receipt

def errorCode : Notification → Option String
  | { verdict := .error code, .. } => some code
  | _ => none

/-- The one-line form used in the log. -/
def text (n : Notification) : String :=
  n.kind.text ++ ":" ++ n.id ++ "->" ++ n.about ++ ":" ++ n.verdict.text

/-- The longest span that can be compared with a difference of instants. -/
def longestSpan : Span := .ofMillis 0x7FFFFFFFFFFFFFFF

/-- Created more than `ttl` before `now`. A longer `ttl` than can be compared is never outlived. -/
def isOlderThan (n : Notification) (now : Instant) (ttl : Span) : Bool :=
  ttl.nanos ≤ longestSpan.nanos && (ttl.nanos : Int) < now.since n.created

/-- How long an acknowledgement is good for where nothing else is said. -/
def lifetime : Span := .ofSecs 300

def isExpired (n : Notification) (now : Instant) : Bool := n.isOlderThan now lifetime

end Notification

end MessageExchange
