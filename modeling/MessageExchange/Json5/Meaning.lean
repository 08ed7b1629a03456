import MessageExchange.Decimal.Shortest
import MessageExchange.Json5
import MessageExchange.Text.Quoted

/-! What the strings and numbers of a JSON5 text stand for. Not every one that is well written stands for
something. -/

namespace MessageExchange.Json5

open Text

/-- Why a string or a number stands for nothing. -/
inductive Flaw
  | loneTrail
  | expectedTrail
  | missingTrail
  | badHex
  | badInteger
  | badNumber
  | tooLarge
  deriving DecidableEq, Repr

def Flaw.text : Flaw → String
  | .loneTrail => "unexpected unicode trail surrogate"
  | .expectedTrail => "expecting unicode trail surrogate"
  | .missingTrail => "missing unicode trail surrogate"
  | .badHex => "error parsing hex"
  | .badInteger => "error parsing integer"
  | .badNumber => "error parsing number"
  | .tooLarge => "error parsing number: too large"

/-- The character that a backslash makes of the one behind it; most stay what they are. -/
def escaped : Char → Char
  | 'b' => '\x08'
  | 'f' => '\x0c'
  | 'n' => '\n'
  | 'r' => '\r'
  | 't' => '\t'
  | 'v' => '\x0b'
  | c => c

/-- A piece taken for a 16-bit unit by its hexadecimal digits. -/
def Piece.unit? : Piece → Except Flaw Nat
  | .char c | .escaped c => match hexValue? c with
    | some n => .ok n
    | none => .error .badHex
  | .nul => .ok 0
  | .byte n | .unit n => .ok n

/-- The characters of a string. The unit behind a leading surrogate is its trailing one. -/
def decoded : List Piece → Except Flaw (List Char)
  | [] => .ok []
  | .char c :: rest => return c :: (← decoded rest)
  | .escaped c :: rest => return escaped c :: (← decoded rest)
  | .nul :: rest => return '\x00' :: (← decoded rest)
  | .byte n :: rest => return Char.ofNat n :: (← decoded rest)
  | [.unit n] =>
    if 0xD800 ≤ n ∧ n < 0xDC00 then .error .missingTrail
    else if 0xDC00 ≤ n ∧ n < 0xE000 then .error .loneTrail
    else return [Char.ofNat n]
  | .unit n :: p :: rest =>
    if 0xD800 ≤ n ∧ n < 0xDC00 then do
      let low ← p.unit?
      if 0xDC00 ≤ low ∧ low < 0xE000 then
        return Char.ofNat ((n - 0xD800) * 0x400 + (low - 0xDC00) + 0x10000) :: (← decoded rest)
      else .error .expectedTrail
    else if 0xDC00 ≤ n ∧ n < 0xE000 then .error .loneTrail
    else return Char.ofNat n :: (← decoded (p :: rest))

def textOf (pieces : List Piece) : Except Flaw String := return String.ofList (← decoded pieces)

/-- A number of 64-bit floating point. -/
inductive Double
  | finite (negative : Bool) (size : Decimal.Binary)
  | infinite (negative : Bool)
  | nan

namespace Double

/-- Digits in place; a number that is whole still has a point. -/
def text : Double → String
  | finite negative size => (if negative then "-" else "") ++ size.text
  | infinite negative => if negative then "-inf" else "inf"
  | nan => "NaN"

/-- Cut down to a whole number of 64 bits: nothing below zero, nothing above the greatest. -/
def toWord : Double → Nat
  | finite negative size => if negative then 0 else min size.floor (wordBound - 1)
  | infinite negative => if negative then 0 else wordBound - 1
  | nan => 0

end Double

namespace Numeral

/-- Hexadecimal digits write 32 bits. -/
def ofHex (digits : List Char) : Except Flaw Nat :=
  match hexNumber? digits with
  | some n => if n < 0x100000000 then .ok n else .error .badHex
  | none => .error .badHex

/-- The number as floating point. A plus sign makes an infinity too large, and any sign a hexadecimal
number no number. -/
def double : Numeral → Except Flaw Double
  | ⟨none, .infinity⟩ => .ok (.infinite false)
  | ⟨some '-', .infinity⟩ => .ok (.infinite true)
  | ⟨some _, .infinity⟩ => .error .tooLarge
  | ⟨none, .nan⟩ | ⟨some '-', .nan⟩ => .ok .nan
  | ⟨some _, .nan⟩ => .error .tooLarge
  | ⟨none, .hex digits⟩ => do
    let n ← ofHex digits
    match Decimal.Binary.nearest? n 0 with
    | some x => return .finite false x
    | none => .error .badHex
  | ⟨some _, .hex _⟩ => .error .badNumber
  | ⟨sign, .decimal whole fraction exponent⟩ =>
    let fraction := fraction.getD []
    let scale := exponent.getD 0 - fraction.length
    match Decimal.Binary.nearest? (decimalNumber (whole ++ fraction)) scale with
    | some x => .ok (.finite (sign == some '-') x)
    | none => .error .tooLarge

/-- The number is written without a point and without an exponent. The digit `e` of a hexadecimal number
counts as the mark of one if the number has a sign. -/
def isInteger : Numeral → Bool
  | ⟨_, .decimal _ fraction exponent⟩ => fraction.isNone && exponent.isNone
  | ⟨some _, .hex digits⟩ => !digits.any fun c => c = 'e' ∨ c = 'E'
  | _ => true

def integer : Numeral → Except Flaw Int
  | ⟨none, .hex digits⟩ => return (← ofHex digits : Nat)
  | ⟨sign, .decimal whole _ _⟩ =>
    let size : Int := decimalNumber whole
    let n := if sign = some '-' then -size else size
    if -0x8000000000000000 ≤ n ∧ n < 0x8000000000000000 then .ok n else .error .badInteger
  | _ => .error .badInteger

end Numeral

/-- What a value is called when another kind of value was called for. -/
def summary : Json5 → Except Flaw String
  | .null => .ok "unit value"
  | .bool b => .ok (if b then "boolean `true`" else "boolean `false`")
  | .string pieces => return "string " ++ quoted (← textOf pieces)
  | .number n =>
    if n.isInteger then return "integer `" ++ toString (← n.integer) ++ "`"
    else return "floating point `" ++ (← n.double).text ++ "`"
  | .array _ => .ok "sequence"
  | .object _ => .ok "map"

end MessageExchange.Json5
