import MessageExchange.Payload

/-! A message is a list of payloads; the first one, its head, names the message. -/

namespace MessageExchange

structure Message where
  payloads : List Payload
  deriving DecidableEq

namespace Message

def empty : Message := ⟨[]⟩

def push (m : Message) (p : Payload) : Message := ⟨m.payloads ++ [p]⟩

def size (m : Message) : Nat := m.payloads.length

def isEmpty (m : Message) : Bool := m.payloads.isEmpty

def head : Message → Except Fault Payload
  | ⟨[]⟩ => .error .noPayload
  | ⟨p :: _⟩ => .ok p

def ids (m : Message) : List String := m.payloads.map Payload.id

/-- The id of the head, or a hyphen for a message without payloads. -/
def id : Message → String
  | ⟨[]⟩ => "-"
  | ⟨p :: _⟩ => p.id

end Message

end MessageExchange
