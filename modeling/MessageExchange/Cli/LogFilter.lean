import MessageExchange.Event
import MessageExchange.Text.Letter
import MessageExchange.Text.Reader

/-! Which of the program's own remarks are logged. A filter is a list of directives, separated by commas:
a directive sets a level, for everything or for the targets that begin with a name. Of the directives
that concern a remark the most specific one decides. -/

namespace MessageExchange.Cli

open Text

/-- How much is logged at a level: nothing is 0, everything 5. -/
def rank : Level → Nat
  | .error => 1
  | .warn => 2
  | .info => 3
  | .debug => 4
  | .trace => 5

/-- A level by its name in any case, or by its rank. -/
def rank? (cs : List Char) : Option Nat :=
  let digits := if cs.head? == some '+' then cs.tail else cs
  if digits ≠ [] ∧ digits.all Char.isDigit then
    if decimalNumber digits ≤ 5 then some (decimalNumber digits) else none
  else match String.ofList (cs.map Char.toLower) with
    | "off" => some 0
    | "error" => some 1
    | "warn" => some 2
    | "info" => some 3
    | "debug" => some 4
    | "trace" => some 5
    | _ => none

/-- A field that a directive asks for. -/
structure FieldMatch where
  name : String
  /-- It also asks for a value. -/
  valued : Bool
  deriving DecidableEq, Repr

structure Directive where
  level : Nat
  target : Option String
  span : Option String
  fields : List FieldMatch
  deriving DecidableEq, Repr

namespace Directive

def everything : Directive := ⟨5, none, none, []⟩

/-- Where in a directive one is; the numbers tell where the part under way began. -/
inductive Mark
  | start
  | name (start : Nat)
  | span (start : Nat)
  | field (start : Nat)
  | fieldsEnd
  | nameEnd
  | level (start : Nat)

def part (raw : List Char) (i j : Nat) : List Char := (raw.drop i).take (j - i)

def fieldMatch (cs : List Char) : FieldMatch :=
  let (name, rest) := cs.span (· ≠ '=')
  ⟨String.ofList name, rest ≠ []⟩

def step (raw : List Char) : Mark × Directive → Char × Nat → Option (Mark × Directive)
  | (.start, d), (c, i) =>
    if c = '[' then some (.span (i + 1), d)
    else if c = '-' ∨ c = ':' ∨ c = '_' ∨ isLetter c ∨ c.isDigit then some (.name i, d)
    else none
  | (.name k, d), (c, i) =>
    let named := { d with target := some (String.ofList (part raw k i)) }
    if c = '=' then some (.level (i + 1), named)
    else if c = '[' then some (.span (i + 1), named)
    else some (.name k, d)
  | (.span k, d), (c, i) =>
    let name := String.ofList (part raw k i)
    if c = ']' then some (.nameEnd, { d with span := some name })
    else if c = '\x7b' then
      some (.field (i + 1), { d with span := if name = "" then none else some name })
    else some (.span k, d)
  | (.field k, d), (c, i) =>
    if c = '\x7d' then
      if part raw k i = [] then none
      else some (.fieldsEnd, { d with fields := d.fields ++ [fieldMatch (part raw k i)] })
    else some (.field k, d)
  | (.fieldsEnd, d), (c, _) => if c = ']' then some (.nameEnd, d) else none
  | (.nameEnd, d), (c, i) => if c = '=' then some (.level (i + 1), d) else none
  | (.level k, d), _ => some (.level k, d)

/-- A directive. Blanks around it are passed over, though they still count as places. -/
def read? (raw : List Char) : Option Directive := do
  let trimmed := ((raw.dropWhile isBlankChar).reverse.dropWhile isBlankChar).reverse
  match ← trimmed.zipIdx.foldlM (step raw) (.start, everything) with
  | (.name k, d) => match rank? (raw.drop k) with
    | some level => return { d with level }
    | none => return { d with target := some (String.ofList (raw.drop k)) }
  | (.level k, d) =>
    if raw.drop k = [] then return d else return { d with level := ← rank? (raw.drop k) }
  | (.nameEnd, d) => return d
  | _ => none

/-- What the program's remarks are logged under. -/
def ownTarget : String := "configurable_gateway"

/-- The directive can be judged by a remark alone, and concerns the program's. They have one field. -/
def concerns (d : Directive) : Bool :=
  d.span.isNone && d.target.all (fun t => t.toList.isPrefixOf ownTarget.toList) &&
    d.fields.all fun f => f.name == "message" && !f.valued

/-- `a` is at least as specific as `b`: its target is as long, or its fields are as many. -/
def atLeast (a b : Directive) : Bool :=
  let size (d : Directive) : Nat := (d.target.map (·.utf8ByteSize + 1)).getD 0
  size b < size a || (size a == size b && b.fields.length ≤ a.fields.length)

end Directive

structure LogFilter where
  directives : List Directive
  deriving DecidableEq, Repr

namespace LogFilter

/-- A filter from its text. One without directives lets errors pass. -/
def read? (s : String) : Option LogFilter := do
  let parts := (s.splitOn ",").filter (· ≠ "")
  let directives ← parts.mapM fun p => Directive.read? p.toList
  return ⟨if directives = [] then [{ Directive.everything with level := 1 }] else directives⟩

/-- The filter where nothing else is asked for. -/
def usual : LogFilter := ⟨[{ Directive.everything with level := 3 }]⟩

/-- The directive that decides about the program's remarks. -/
def decisive (f : LogFilter) : Option Directive :=
  (f.directives.filter Directive.concerns).foldl (fun best d =>
    match best with
    | some b => if d.atLeast b then some d else some b
    | none => some d) none

def passes (f : LogFilter) (l : Level) : Bool := f.decisive.any fun d => rank l ≤ d.level

end LogFilter

end MessageExchange.Cli
