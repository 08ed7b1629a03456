import MessageExchange.Effect

/-! Inbound documents are handed to the local handler for their direction. A document that is
incomplete, of no known class, or without a handler is logged and dropped; only a failing handler is
reported back. -/

namespace MessageExchange

structure Handler where
  name : String
  failure : Option Fault
  deriving DecidableEq

structure Inbound where
  request : Option Handler
  response : Option Handler
  deriving DecidableEq

namespace Inbound

def empty : Inbound := ⟨none, none⟩

def handler (i : Inbound) : Direction → Option Handler
  | .request => i.request
  | .response => i.response

/-- There is one handler a direction at most, and it stays. -/
def register (i : Inbound) (direction : Direction) (h : Handler) : Except Fault Inbound :=
  match i.handler direction with
  | some _ => .error (.configuration (.handlerTaken direction))
  | none =>
    match direction with
    | .request => .ok { i with request := some h }
    | .response => .ok { i with response := some h }

/-- Where a document of this class goes. -/
def direction : DocumentClass → Except Misfit Direction
  | .request => .ok .request
  | .response => .ok .response
  | .other raw => .error (.unknownClass raw)

def dispatch (i : Inbound) (site : Site) (d : Delivery) : Except Fault Unit × List Effect :=
  let arrived := .logged site (.received d)
  match d.missingAttachment with
  | some id =>
    (.ok (), [arrived,
      .logged site (.droppedIncomplete d.sender d.documentType (.attachmentMissing id))])
  | none =>
    match direction d.documentClass with
    | .error cause =>
      (.ok (), [arrived, .logged site (.droppedUnclassified d.sender d.documentType cause)])
    | .ok direction =>
      match i.handler direction with
      | none => (.ok (), [arrived, .logged site (.droppedUnhandled direction d.sender)])
      | some h =>
        let called := .handled h.name direction d
        match h.failure with
        | none => (.ok (), [arrived, called])
        | some fault =>
          (.error (.handler direction fault),
            [arrived, called, .logged site (.handlerFailed direction d.sender fault)])

end Inbound

end MessageExchange
