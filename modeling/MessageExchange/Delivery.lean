import MessageExchange.Payload

/-! Inbound documents with their attachments. -/

namespace MessageExchange

/-- What the sender says a document is. -/
inductive DocumentClass
  | request
  | response
  | other (raw : String)
  deriving DecidableEq, Repr

def DocumentClass.text : DocumentClass → String
  | .request => "request"
  | .response => "response"
  | .other raw => "other(" ++ raw ++ ")"

structure Delivery where
  sender : String
  documentType : String
  documentClass : DocumentClass
  body : List UInt8
  /-- Ids of the attachments that the document relies on, in its order. -/
  references : List String
  attachments : List Payload
  deriving DecidableEq

/-- The first reference that no attachment answers. -/
def Delivery.missingAttachment (d : Delivery) : Option String :=
  d.references.find? fun r => !d.attachments.any fun a => a.id == r

end MessageExchange
