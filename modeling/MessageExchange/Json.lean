import MessageExchange.Decimal.Nearest
import MessageExchange.Text.Reader

/-! JSON texts. They are read strictly: no comments, no spare commas, no half surrogate pairs, no
number beyond the range of 64-bit floating point, and at most 127 arrays and objects inside one
another. -/

namespace MessageExchange

open Text

inductive Json
  | null
  | bool (value : Bool)
  | number (text : String)
  | string (value : String)
  | array (items : List Json)
  /-- Members in the order of the text; of two with one name the last counts. -/
  | object (members : List (String × Json))

namespace Json

def get? (j : Json) (name : String) : Option Json :=
  match j with
  | object members => (members.reverse.find? (·.1 == name)).map (·.2)
  | _ => none

def text? : Json → Option String
  | string s => some s
  | _ => none

/-- What a string is written with: a character, or one of the 16-bit units of a `\u` escape. -/
inductive Piece
  | char (c : Char)
  | unit (n : Nat)

/-- A pair of surrogate units is one character; a unit that lacks its partner is none. -/
def joined : List Piece → Option (List Char)
  | [] => some []
  | .char c :: rest => (joined rest).map (c :: ·)
  | .unit high :: .unit low :: rest =>
    if 0xD800 ≤ high ∧ high < 0xDC00 then
      if 0xDC00 ≤ low ∧ low < 0xE000 then
        (joined rest).map (Char.ofNat ((high - 0xD800) * 0x400 + (low - 0xDC00) + 0x10000) :: ·)
      else none
    else if 0xDC00 ≤ high ∧ high < 0xE000 then none
    else (joined (.unit low :: rest)).map (Char.ofNat high :: ·)
  | .unit n :: rest =>
    if 0xD800 ≤ n ∧ n < 0xE000 then none else (joined rest).map (Char.ofNat n :: ·)

/-- The character that a letter behind a backslash stands for. -/
def escaped? : Char → Option Char
  | '"' => some '"'
  | '\\' => some '\\'
  | '/' => some '/'
  | 'b' => some '\x08'
  | 'f' => some '\x0c'
  | 'n' => some '\n'
  | 'r' => some '\r'
  | 't' => some '\t'
  | _ => none

def pieces : Reader (List Piece)
  | '"' :: rest => some ([], rest)
  | '\\' :: 'u' :: a :: b :: c :: d :: rest => do
    let n ← hexNumber? [a, b, c, d]
    let (ps, rest) ← pieces rest
    return (.unit n :: ps, rest)
  | '\\' :: e :: rest => do
    let c ← escaped? e
    let (ps, rest) ← pieces rest
    return (.char c :: ps, rest)
  | c :: rest =>
    if c.toNat < 0x20 then none
    else do
      let (ps, rest) ← pieces rest
      return (.char c :: ps, rest)
  | [] => none

/-- A string, its opening quote included. -/
def quotedText : Reader String
  | '"' :: rest => do
    let (ps, rest) ← pieces rest
    return (String.ofList (← joined ps), rest)
  | _ => none

/-- Takes in digits as long as 64 bits hold the number. The second number counts the digits that were
left out. -/
def significand (n : Nat) : List Char → Nat × Nat
  | [] => (n, 0)
  | c :: rest =>
    let m := 10 * n + (c.toNat - 48)
    if m < wordBound then significand m rest else (n, rest.length + 1)

/-- The number is beyond the range of 64-bit floating point. A significand of 64 bits and a power of
ten are each rounded before they are multiplied. -/
def outOfRange (whole fraction : List Char) (exponent : Int) : Bool :=
  let (n, dropped) := significand 0 whole
  let (n, ignored) := significand n fraction
  let scale : Int := dropped - (fraction.length - ignored : Nat) + exponent
  if n = 0 ∨ scale < 0 then false
  else if 308 < scale then true
  else
    match Decimal.Binary.nearest? n 0, Decimal.Binary.nearest? 1 scale with
    | some a, some b =>
      (Decimal.Binary.ofQuotient? (a.floor * b.floor) 1).isNone
    | _, _ => true

def digits : Reader (List Char) := fun cs =>
  let (ds, rest) := cs.span Char.isDigit
  if ds = [] then none else some (ds, rest)

/-- Digits before the point: no zero in front of others. -/
def wholePart : Reader (List Char)
  | '0' :: rest => if rest.head?.any Char.isDigit then none else some (['0'], rest)
  | cs => digits cs

def fractionPart : Reader (List Char)
  | '.' :: rest => digits rest
  | cs => some ([], cs)

def exponentPart : Reader Int := fun cs =>
  match cs with
  | e :: rest =>
    if e = 'e' ∨ e = 'E' then
      match rest with
      | '-' :: rest => (digits rest).map fun (ds, rest) => (-(decimalNumber ds : Int), rest)
      | '+' :: rest => (digits rest).map fun (ds, rest) => ((decimalNumber ds : Int), rest)
      | rest => (digits rest).map fun (ds, rest) => ((decimalNumber ds : Int), rest)
    else some (0, cs)
  | [] => some (0, cs)

def numeral : Reader Json := fun cs => do
  let unsigned := if cs.head? == some '-' then cs.tail else cs
  let (whole, rest) ← wholePart unsigned
  let (fraction, rest) ← fractionPart rest
  let (exponent, rest) ← exponentPart rest
  if outOfRange whole fraction exponent then none
  else return (.number (String.ofList (cs.take (cs.length - rest.length))), rest)

def word (w : String) (value : Json) : Reader Json := fun cs =>
  (after? w cs).map fun rest => (value, rest)

def scalar : Reader Json := fun cs =>
  match cs with
  | 'n' :: _ => word "null" .null cs
  | 't' :: _ => word "true" (.bool true) cs
  | 'f' :: _ => word "false" (.bool false) cs
  | '"' :: _ => (quotedText cs).map fun (s, rest) => (.string s, rest)
  | _ => numeral cs

def style : Reader.ListStyle where
  gap := List.dropWhile fun c => c = ' ' ∨ c = '\t' ∨ c = '\n' ∨ c = '\r'
  trailingComma := false

/-- A value with at most `levels` arrays and objects inside one another. -/
def value : (levels : Nat) → Reader Json
  | 0, cs => scalar cs
  | levels + 1, cs =>
    match cs with
    | '[' :: rest =>
      (Reader.listed style ']' (value levels) rest).map fun (l, rest) => (.array l, rest)
    | '{' :: rest =>
      (Reader.listed style '}' (Reader.member style quotedText (value levels)) rest).map
        fun (l, rest) => (.object l, rest)
    | _ => scalar cs

def read? (s : String) : Option Json := Reader.whole style.gap (value 127) s

end Json

end MessageExchange
