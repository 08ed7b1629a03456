import MessageExchange.Text.Reader

/-! The command line. Options may be given in any order, each at most once, with their value in the same
argument or in the next one. -/

namespace MessageExchange.Cli

/-- What the program is asked to do. -/
structure Arguments where
  config : String
  demoReceiver : Option String
  demoTimeoutMs : Nat
  deriving DecidableEq, Repr

inductive Parameter
  | config
  | demoReceiver
  | demoTimeout
  deriving DecidableEq, Repr

def Parameter.text : Parameter → String
  | .config => "--config"
  | .demoReceiver => "--demo-receiver"
  | .demoTimeout => "--demo-timeout-ms"

/-- Why a command line asks for nothing to be run. -/
inductive Usage
  | help
  | valueMissing (option : Parameter)
  | repeated (option : Parameter)
  | noNumber (option : Parameter) (value : String)
  | unknown (argument : String)
  /-- A value for an option that takes none. -/
  | valueUnwanted
  deriving DecidableEq, Repr

def Usage.text : Usage → String
  | .help => "usage: [--config FILE] [--demo-receiver ID] [--demo-timeout-ms N]"
  | .valueMissing option => "a value is required for " ++ option.text
  | .repeated option => option.text ++ " cannot be used multiple times"
  | .noNumber option value => "invalid value '" ++ value ++ "' for " ++ option.text
  | .unknown argument => "unexpected argument '" ++ argument ++ "'"
  | .valueUnwanted => "unexpected value for --help"

namespace Arguments

/-- What was said so far. The last option waits for its value, or holds it until the next one is met. -/
structure Progress where
  config : Option String
  demoReceiver : Option String
  demoTimeoutMs : Option Nat
  pending : Option (Parameter × Option String)
  deriving DecidableEq

/-- A decimal number of 64 bits, which may have a plus sign. -/
def word? (s : String) : Option Nat :=
  let digits := if s.toList.head? == some '+' then s.toList.tail else s.toList
  let n := Text.decimalNumber digits
  if digits ≠ [] ∧ digits.all Char.isDigit ∧ n < Text.wordBound then some n else none

/-- An option with its value. That it was there before is noticed before its value is looked at. -/
def give (p : Progress) (o : Parameter) (v : String) : Except Usage Progress :=
  match o with
  | .config =>
    if p.config.isSome then .error (.repeated o)
    else if v = "" then .error (.valueMissing o)
    else .ok { p with config := some v }
  | .demoReceiver =>
    if p.demoReceiver.isSome then .error (.repeated o) else .ok { p with demoReceiver := some v }
  | .demoTimeout =>
    if p.demoTimeoutMs.isSome then .error (.repeated o)
    else match word? v with
      | some n => .ok { p with demoTimeoutMs := some n }
      | none => .error (.noNumber o v)

def settle (p : Progress) : Except Usage Progress :=
  match p.pending with
  | none => .ok p
  | some (o, none) => .error (.valueMissing o)
  | some (o, some v) => give { p with pending := none } o v

def meet (p : Progress) (o : Parameter) (v : Option String) : Except Usage Progress := do
  let p ← settle p
  match v with
  | some v => give p o v
  | none => return { p with pending := some (o, none) }

inductive Token
  /-- From here on there are no options. -/
  | rest
  | help (valued : Bool)
  | option (o : Parameter) (value : Option String)
  | stray
  | plain

/-- A long option; what follows the first equals sign is its value. -/
def longToken (body : List Char) : Token :=
  let (name, rest) := body.span (· ≠ '=')
  let value := if rest = [] then none else some (String.ofList rest.tail)
  match String.ofList name with
  | "config" => .option .config value
  | "demo-receiver" => .option .demoReceiver value
  | "demo-timeout-ms" => .option .demoTimeout value
  | "help" => .help value.isSome
  | _ => .stray

/-- Short options in one argument. A value may follow at once or after an equals sign. -/
def shortToken : List Char → Token
  | ['c'] => .option .config none
  | 'c' :: '=' :: v => .option .config (some (String.ofList v))
  | 'c' :: v => .option .config (some (String.ofList v))
  | 'h' :: _ => .help false
  | _ => .stray

def token (argument : String) : Token :=
  match argument.toList with
  | ['-', '-'] => .rest
  | '-' :: '-' :: body => longToken body
  | ['-'] => .plain
  | '-' :: body => shortToken body
  | _ => .plain

/-- Takes in the arguments one after the other. One that is out of place is reported before what is
wrong with the pending option, a request for help after it. -/
def take (p : Progress) : List String → Except Usage Progress
  | [] => settle p
  | a :: rest =>
    match token a with
    | .rest => match rest with
      | [] => settle p
      | b :: _ => .error (.unknown b)
    | .help true => .error .valueUnwanted
    | .help false => do
      let _ ← settle p
      throw .help
    | .option o v => do take (← meet p o v) rest
    | .stray => .error (.unknown a)
    | .plain => match p.pending with
      | some (o, none) => take { p with pending := some (o, some a) } rest
      | _ => .error (.unknown a)

def read (args : List String) : Except Usage Arguments := do
  let p ← take ⟨none, none, none, none⟩ args
  return ⟨p.config.getD "DEFAULT_CONFIG.json5", p.demoReceiver, p.demoTimeoutMs.getD 5000⟩

end Arguments

end MessageExchange.Cli
