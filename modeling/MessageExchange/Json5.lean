import MessageExchange.Text.Letter
import MessageExchange.Text.Reader

/-! JSON5 texts: JSON with comments, bare keys, single quotes and more kinds of numbers. A string is kept
as the pieces it is written with and a number as its parts, since what they stand for, if anything, is
decided by who asks. -/

namespace MessageExchange

open Text

namespace Json5

/-- What a string or a key is written with. -/
inductive Piece
  | char (c : Char)
  /-- A character behind a backslash. -/
  | escaped (c : Char)
  | nul
  /-- The number of a `\x` escape. -/
  | byte (n : Nat)
  /-- The 16-bit unit of a `\u` escape. -/
  | unit (n : Nat)
  deriving DecidableEq, Repr

inductive Magnitude
  | infinity
  | nan
  | hex (digits : List Char)
  /-- Digits before the point, those behind it if there is one, and the exponent if there is one. -/
  | decimal (whole : List Char) (fraction : Option (List Char)) (exponent : Option Int)
  deriving DecidableEq, Repr

structure Numeral where
  sign : Option Char
  magnitude : Magnitude
  deriving DecidableEq, Repr

end Json5

inductive Json5
  | null
  | bool (value : Bool)
  | string (pieces : List Json5.Piece)
  | number (n : Json5.Numeral)
  | array (items : List Json5)
  | object (members : List (List Json5.Piece × Json5))

namespace Json5

def isLineEnd (c : Char) : Bool :=
  c = '\n' || c = '\r' || c = '\u2028' || c = '\u2029'

/-- White space: line ends, some control characters, the byte order mark and the category Zs. -/
def isBlank (c : Char) : Bool :=
  isLineEnd c || c = '\t' || c = '\x0b' || c = '\x0c' || c = '\ufeff' || c = ' ' || c = '\u00a0' ||
    c = '\u1680' || ('\u2000' ≤ c && c ≤ '\u200a') || c = '\u202f' || c = '\u205f' || c = '\u3000'

/-- Where in a gap one is. Inside a comment in `/* */` it is known where that started. -/
inductive Zone
  | blanks
  | line
  | block (start : List Char)

/-- Passes over white space and comments. A comment that is never closed is not passed over. -/
def gapFrom : Zone → List Char → List Char
  | .blanks, '/' :: '/' :: rest => gapFrom .line rest
  | .blanks, '/' :: '*' :: rest => gapFrom (.block ('/' :: '*' :: rest)) rest
  | .blanks, c :: rest => if isBlank c then gapFrom .blanks rest else c :: rest
  | .blanks, [] => []
  | .line, c :: rest => if isLineEnd c then gapFrom .blanks rest else gapFrom .line rest
  | .line, [] => []
  | .block _, '*' :: '/' :: rest => gapFrom .blanks rest
  | .block start, _ :: rest => gapFrom (.block start) rest
  | .block start, [] => start

def style : Reader.ListStyle := ⟨gapFrom .blanks, true⟩

/-- The pieces of a string up to its closing quote. A backslash before a line end joins the lines. -/
def pieces (quote : Char) : Reader (List Piece)
  | '\\' :: '\r' :: '\n' :: rest => pieces quote rest
  | '\\' :: 'x' :: a :: b :: rest => do
    let n ← hexNumber? [a, b]
    let (ps, rest) ← pieces quote rest
    return (.byte n :: ps, rest)
  | '\\' :: 'u' :: a :: b :: c :: d :: rest => do
    let n ← hexNumber? [a, b, c, d]
    let (ps, rest) ← pieces quote rest
    return (.unit n :: ps, rest)
  | '\\' :: '0' :: rest => do
    let (ps, rest) ← pieces quote rest
    return (.nul :: ps, rest)
  | '\\' :: c :: rest =>
    if isLineEnd c then pieces quote rest
    else if c.isDigit || c = 'x' || c = 'u' then none
    else do
      let (ps, rest) ← pieces quote rest
      return (.escaped c :: ps, rest)
  | c :: rest =>
    if c = quote then some ([], rest)
    else if c = '\\' || isLineEnd c then none
    else do
      let (ps, rest) ← pieces quote rest
      return (.char c :: ps, rest)
  | [] => none

def startsName (c : Char) : Bool := isLetter c || c = '$' || c = '_'

def continuesName (c : Char) : Bool :=
  startsName c || isJoiner c || c = '\u200c' || c = '\u200d'

/-- As much of a bare key as there is. -/
def nameRest : List Char → List Piece × List Char
  | '\\' :: 'u' :: a :: b :: c :: d :: rest =>
    match hexNumber? [a, b, c, d] with
    | some n =>
      let (ps, rest) := nameRest rest
      (.unit n :: ps, rest)
    | none => ([], '\\' :: 'u' :: a :: b :: c :: d :: rest)
  | c :: rest =>
    if continuesName c then
      let (ps, rest) := nameRest rest
      (.char c :: ps, rest)
    else ([], c :: rest)
  | [] => ([], [])

def key : Reader (List Piece) := fun cs =>
  match cs with
  | '"' :: rest => pieces '"' rest
  | '\'' :: rest => pieces '\'' rest
  | c :: _ =>
    if startsName c || c = '\\' then
      match nameRest cs with
      | ([], _) => none
      | (ps, rest) => some (ps, rest)
    else none
  | [] => none

/-- An exponent, if a whole one follows. -/
def exponentPart (cs : List Char) : Option Int × List Char :=
  match cs with
  | e :: rest =>
    if e = 'e' ∨ e = 'E' then
      let unsigned := if rest.head? == some '+' ∨ rest.head? == some '-' then rest.tail else rest
      let (ds, after) := unsigned.span Char.isDigit
      if ds = [] then (none, cs)
      else
        let n : Int := decimalNumber ds
        (some (if rest.head? == some '-' then -n else n), after)
    else (none, cs)
  | [] => (none, cs)

/-- Digits before the point: a zero stands alone. -/
def wholePart (cs : List Char) : List Char × List Char :=
  match cs with
  | '0' :: rest => (['0'], rest)
  | _ => cs.span Char.isDigit

def magnitude : Reader Magnitude := fun cs =>
  match cs with
  | 'I' :: _ => (after? "Infinity" cs).map fun rest => (.infinity, rest)
  | 'N' :: _ => (after? "NaN" cs).map fun rest => (.nan, rest)
  | _ =>
    let (ds, afterHex) := (cs.drop 2).span fun c => (hexValue? c).isSome
    if ((after? "0x" cs).isSome ∨ (after? "0X" cs).isSome) ∧ ds ≠ [] then some (.hex ds, afterHex)
    else
      let (whole, rest) := wholePart cs
      match rest with
      | '.' :: rest =>
        let (fraction, rest) := rest.span Char.isDigit
        if whole = [] ∧ fraction = [] then none
        else
          let (exponent, rest) := exponentPart rest
          some (.decimal whole (some fraction) exponent, rest)
      | _ =>
        if whole = [] then none
        else
          let (exponent, rest) := exponentPart rest
          some (.decimal whole none exponent, rest)

def numeral : Reader Numeral := fun cs =>
  match cs with
  | '+' :: rest => (magnitude rest).map fun (m, rest) => (⟨some '+', m⟩, rest)
  | '-' :: rest => (magnitude rest).map fun (m, rest) => (⟨some '-', m⟩, rest)
  | _ => (magnitude cs).map fun (m, rest) => (⟨none, m⟩, rest)

def word (w : String) (value : Json5) : Reader Json5 := fun cs =>
  (after? w cs).map fun rest => (value, rest)

def scalar : Reader Json5 := fun cs =>
  match cs with
  | 'n' :: _ => word "null" .null cs
  | 't' :: _ => word "true" (.bool true) cs
  | 'f' :: _ => word "false" (.bool false) cs
  | '"' :: rest => (pieces '"' rest).map fun (ps, rest) => (.string ps, rest)
  | '\'' :: rest => (pieces '\'' rest).map fun (ps, rest) => (.string ps, rest)
  | _ => (numeral cs).map fun (n, rest) => (.number n, rest)

/-- A value with at most `levels` arrays and objects inside one another. -/
def value : (levels : Nat) → Reader Json5
  | 0, cs => scalar cs
  | levels + 1, cs =>
    match cs with
    | '[' :: rest =>
      (Reader.listed style ']' (value levels) rest).map fun (l, rest) => (.array l, rest)
    | '{' :: rest =>
      (Reader.listed style '}' (Reader.member style key (value levels)) rest).map
        fun (l, rest) => (.object l, rest)
    | _ => scalar cs

/-- The value that a text holds. No text nests deeper than it is long. -/
def read? (s : String) : Option Json5 := Reader.whole style.gap (value s.length) s

end Json5

end MessageExchange
