/-! The two ways an inbound document travels, and the two kinds of acknowledgement. -/

namespace MessageExchange

/-- A request asks for something, a response answers an earlier request. -/
inductive Direction
  | request
  | response
  deriving DecidableEq, Repr

def Direction.text : Direction → String
  | .request => "request"
  | .response => "response"

/-- Submission: the next hop took the message over. Relay: it reached the far side. -/
inductive Kind
  | submission
  | relay
  deriving DecidableEq, Repr

def Kind.text : Kind → String
  | .submission => "submission"
  | .relay => "relay"

end MessageExchange
