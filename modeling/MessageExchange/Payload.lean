import MessageExchange.Fault
import MessageExchange.Payload.Id
import MessageExchange.Text.Blank
import MessageExchange.Text.Quoted

/-! One named, typed piece of content. Neither its id nor its type is blank. -/

namespace MessageExchange

open Text

structure Payload where
  id : String
  mimeType : String
  content : List UInt8
  id_present : isBlank id = false
  mimeType_present : isBlank mimeType = false
  deriving DecidableEq

namespace Payload

def withId (id mimeType : String) (content : List UInt8) : Except Fault Payload :=
  if hi : isBlank id = true then .error (.invalidArgument .blankPayloadId)
  else if hm : isBlank mimeType = true then .error (.invalidArgument .blankMimeType)
  else .ok ⟨id, mimeType, content, eq_false_of_ne_true hi, eq_false_of_ne_true hm⟩

def fresh (seed : Id.Seed) (mimeType : String) (content : List UInt8) : Except Fault Payload :=
  withId (Id.generate seed) mimeType content

def size (p : Payload) : Nat := p.content.length

/-- What a reader of the log is shown of a payload: never its content. -/
def summary (p : Payload) : String :=
  "Payload \x7b id: " ++ quoted p.id ++ ", mime_type: " ++ quoted p.mimeType ++ ", len: " ++
    toString p.size ++ " \x7d"

end Payload

end MessageExchange
