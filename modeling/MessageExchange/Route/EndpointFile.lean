import MessageExchange.Files
import MessageExchange.Json
import MessageExchange.Route.Discovery

/-! A file of endpoints: a JSON object that lists for each participant the endpoints that serve it.
The certificates in it are base64. An entry that is no endpoint is reported and passed over. -/

namespace MessageExchange

open Text

namespace Endpoint

def member (participant : String) (entry : Json) (name : String) : Except Fault String :=
  match (entry.get? name).bind Json.text? with
  | some s =>
    if isBlank s then .error (.invalidArgument (.endpointFieldMissing participant name)) else .ok s
  | none => .error (.invalidArgument (.endpointFieldMissing participant name))

/-- The endpoint that an entry describes; its certificate is looked at first. -/
def ofJson (participant : String) (entry : Json) : Except Fault Endpoint := do
  let encoded ← member participant entry "certificate"
  let der ← (Base64.decode encoded.toUTF8.toList).mapError fun flaw =>
    .invalidArgument (.certificateNotBase64 participant flaw)
  let profile ← member participant entry "transport_profile"
  let url ← member participant entry "endpoint_url"
  return { participant, profile, url, certificate := ← Certificate.ofDer der }

/-- The entries of a participant. A participant that is not in the file has none. -/
def entries (file : Json) (participant : String) : List Json :=
  match file.get? participant with
  | some (.array entries) => entries
  | _ => []

def listed (file : Json) (participant : String) : Lookup Endpoint :=
  let outcomes := (entries file participant).map (ofJson participant)
  ⟨outcomes.filterMap fun
      | .ok e => some e
      | .error _ => none,
    outcomes.filterMap fun
      | .ok _ => none
      | .error fault => some fault, []⟩

/-- Why a file of endpoints could not be used. A path that leads nowhere is told apart from one that
leads to something that is no text. -/
def unreadable (path : String) : ReadFailure → Misconfiguration
  | .isDirectory => .endpointFileUnreadable .isDirectory
  | .notText => .endpointFileUnreadable .notText
  | failure => .endpointFileMissing path failure

def readFile (files : Files) (path : String) : Except Misconfiguration Json :=
  match files.text path with
  | .error failure => .error (unreadable path failure)
  | .ok s => match Json.read? s with
    | some file => .ok file
    | none => .error .endpointFileMalformed

/-- The endpoints of a participant in the file at a path. The file is read at every look-up. -/
def inFile (files : Files) (path participant : String) : Lookup Endpoint :=
  match readFile files path with
  | .ok file => listed file participant
  | .error cause => .failed (.configuration cause)

end Endpoint

end MessageExchange
