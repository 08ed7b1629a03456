import MessageExchange.Fault
import MessageExchange.Text.Blank

/-! Where and under which terms a message is sent. A route is built from a draft whose fields are
set one by one; no text of a finished route is blank and its certificate is not empty. -/

namespace MessageExchange

open Text

/-- Which side of the exchange the sender is on. -/
inductive Role
  | consumer
  | provider
  deriving DecidableEq, Repr

def Role.text : Role → String
  | .consumer => "consumer-side"
  | .provider => "provider-side"

structure Certificate where
  der : List UInt8
  nonempty : der ≠ []
  deriving DecidableEq

def Certificate.ofDer (der : List UInt8) : Except Fault Certificate :=
  if h : der = [] then .error (.invalidArgument .emptyCertificate) else .ok ⟨der, h⟩

def Filled : Type := { s : String // isBlank s = false }

instance : DecidableEq Filled := inferInstanceAs (DecidableEq { s : String // isBlank s = false })

structure Route where
  sender : Filled
  url : Filled
  documentType : Filled
  process : Filled
  profile : Filled
  role : Role
  certificate : Certificate
  deriving DecidableEq

def Route.text (r : Route) : String :=
  r.sender.val ++ " -> " ++ r.url.val ++ " [" ++ r.documentType.val ++ " / " ++ r.process.val ++ "]"

namespace Route

structure Draft where
  sender : Option String
  url : Option String
  documentType : Option String
  process : Option String
  profile : Option String
  role : Option Role
  certificate : Option Certificate
  deriving DecidableEq

inductive Setting
  | sender (v : String)
  | url (v : String)
  | documentType (v : String)
  | process (v : String)
  | profile (v : String)
  | role (v : Role)
  | certificate (v : Certificate)
  deriving DecidableEq

namespace Draft

def empty : Draft := ⟨none, none, none, none, none, none, none⟩

/-- The value set last counts. -/
def set (d : Draft) : Setting → Draft
  | .sender v => { d with sender := some v }
  | .url v => { d with url := some v }
  | .documentType v => { d with documentType := some v }
  | .process v => { d with process := some v }
  | .profile v => { d with profile := some v }
  | .role v => { d with role := some v }
  | .certificate v => { d with certificate := some v }

def filled (field : String) : Option String → Except Fault Filled
  | none => .error (.invalidArgument (.absent field))
  | some v => match h : isBlank v with
    | true => .error (.invalidArgument (.blank field))
    | false => .ok ⟨v, h⟩

def present {α : Type} (field : String) : Option α → Except Fault α
  | none => .error (.invalidArgument (.absent field))
  | some v => .ok v

/-- The first field that is missing or blank decides the fault. -/
def build (d : Draft) : Except Fault Route := do
  let sender ← filled "sender_id" d.sender
  let url ← filled "endpoint_url" d.url
  let documentType ← filled "document_type_id" d.documentType
  let process ← filled "process_id" d.process
  let profile ← filled "transport_profile_id" d.profile
  let role ← present "peer_role" d.role
  let certificate ← present "certificate" d.certificate
  return { sender, url, documentType, process, profile, role, certificate }

end Draft

end Route

end MessageExchange
