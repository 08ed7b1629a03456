import MessageExchange.Files
import MessageExchange.Json5.Meaning
import MessageExchange.Settings

/-! Settings from a JSON5 text. A section is an object or an array: an object names its fields in any order,
an array gives them in the order of the section, and what it has beyond them is passed over. -/

namespace MessageExchange

namespace Settings

/-- Why a well-formed text is no configuration. -/
inductive Misshape
  | flawed (flaw : Json5.Flaw)
  | wrongKind (found expected : String)
  /-- An array ends before a field that has to be there. -/
  | tooShort (length : Nat) (shape : String) (fields : Nat)
  | missing (field : String)
  | unknown (name : String) (fields : List String)
  | duplicate (field : String)
  deriving DecidableEq, Repr

/-- What may stand in place of an unknown name. -/
def alternatives (fields : List String) : String :=
  let marked := fields.map fun f => "`" ++ f ++ "`"
  match marked with
  | [a] => a
  | [a, b] => a ++ " or " ++ b
  | _ => "one of " ++ ", ".intercalate marked

def Misshape.text : Misshape → String
  | flawed flaw => flaw.text
  | wrongKind found expected => "invalid type: " ++ found ++ ", expected " ++ expected
  | tooShort length shape fields =>
    "invalid length " ++ toString length ++ ", expected " ++ shape ++ " with " ++ toString fields ++
      " elements"
  | missing field => "missing field `" ++ field ++ "`"
  | unknown name fields => "unknown field `" ++ name ++ "`, expected " ++ alternatives fields
  | duplicate field => "duplicate field `" ++ field ++ "`"

def sound {α : Type} (r : Except Json5.Flaw α) : Except Misshape α := r.mapError .flawed

def refuse {α : Type} (expected : String) (v : Json5) : Except Misshape α := do
  throw (.wrongKind (← sound v.summary) expected)

/-- A string; `expected` says what it is for. -/
def string (expected : String) (v : Json5) : Except Misshape String :=
  match v with
  | .string pieces => sound (Json5.textOf pieces)
  | _ => refuse expected v

def string? (expected : String) (v : Json5) : Except Misshape (Option String) :=
  match v with
  | .null => .ok none
  | _ => (string expected v).map some

/-- A number, cut down to a whole one of 64 bits. -/
def word (v : Json5) : Except Misshape Nat :=
  match v with
  | .number n => (sound n.double).map Json5.Double.toWord
  | _ => .error (.flawed .badNumber)

structure Field (α : Type) where
  name : String
  required : Bool
  enter : Json5 → α → Except Misshape α

/-- What a section is called and its fields, in the order that an array gives them. -/
structure Shape (α : Type) where
  name : String
  fields : List (Field α)

namespace Shape

variable {α : Type}

/-- Enters the members of an object one after the other. `seen` holds the fields that were there. -/
def enterMembers (s : Shape α) (seen : List String) (a : α) :
    List (List Json5.Piece × Json5) → Except Misshape α
  | [] => match s.fields.find? fun f => f.required && !seen.contains f.name with
    | some f => .error (.missing f.name)
    | none => .ok a
  | (key, v) :: rest => do
    let name ← sound (Json5.textOf key)
    match s.fields.find? (·.name == name) with
    | none => throw (.unknown name (s.fields.map (·.name)))
    | some f =>
      if seen.contains name then throw (.duplicate name)
      else enterMembers s (name :: seen) (← f.enter v a) rest

def enterItems (s : Shape α) (i : Nat) (a : α) : List (Field α) → List Json5 → Except Misshape α
  | [], _ => .ok a
  | f :: fields, v :: rest => do enterItems s (i + 1) (← f.enter v a) fields rest
  | f :: fields, [] =>
    if f.required then .error (.tooShort i s.name s.fields.length)
    else enterItems s (i + 1) a fields []

/-- What a section describes; fields that are not there stay as they are in `a`. -/
def read (s : Shape α) (a : α) : Json5 → Except Misshape α
  | .object members => s.enterMembers [] a members
  | .array items => s.enterItems 0 a s.fields items
  | v => refuse s.name v

end Shape

def transport : Shape WireChoice := ⟨"struct TransportConfig", [
  ⟨"selected", false, fun v c => return { c with selected := ← string? "a string" v }⟩,
  ⟨"default", true, fun v c => return { c with fallback := ← string "a string" v }⟩]⟩

def correlation : Shape Settings := ⟨"struct CorrelationConfig", [
  ⟨"ttl_secs", false, fun v s => return { s with ttl := ← word v }⟩,
  ⟨"sweep_period_secs", false, fun v s => return { s with sweepPeriod := ← word v }⟩]⟩

def discovery : Shape Settings := ⟨"struct DiscoveryConfig", [
  ⟨"static_file", false, fun v s => return { s with endpointFile := ← string? "path string" v }⟩]⟩

def logging : Shape Settings := ⟨"struct LoggingConfig", [
  ⟨"filter", false, fun v s => return { s with logFilter := ← string? "a string" v }⟩]⟩

def shape : Shape Settings := ⟨"struct GatewayConfig", [
  ⟨"gateway_name", true, fun v s => return { s with name := ← string "a string" v }⟩,
  ⟨"transport", true, fun v s => return { s with wire := ← transport.read ⟨none, ""⟩ v }⟩,
  ⟨"correlation", false, fun v s => correlation.read s v⟩,
  ⟨"discovery", false, fun v s => discovery.read s v⟩,
  ⟨"logging", false, fun v s => logging.read s v⟩]⟩

def initial : Settings := ⟨"", ⟨none, ""⟩, defaultSecs, defaultSecs, none, none⟩

def ofJson5 (v : Json5) : Except Misshape Settings := shape.read initial v

inductive LoadFailure
  | unreadable (failure : ReadFailure)
  | malformed
  | misshapen (cause : Misshape)
  | invalid (cause : Misconfiguration)
  deriving DecidableEq, Repr

def load (files : Files) (path : String) : Except LoadFailure Settings := do
  let text ← (files.text path).mapError .unreadable
  match Json5.read? text with
  | none => throw .malformed
  | some v =>
    let settings ← (ofJson5 v).mapError .misshapen
    settings.validate.mapError .invalid
    return settings

end Settings

end MessageExchange
