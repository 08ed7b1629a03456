/-! Readers of text. A reader is given the characters that are left; it answers with what it read and
the characters after that, or with nothing. -/

namespace MessageExchange.Text

abbrev Reader (α : Type) : Type := List Char → Option (α × List Char)

/-- One more than the greatest number of 64 bits. -/
def wordBound : Nat := 0x10000000000000000

def hexValue? (c : Char) : Option Nat :=
  if '0' ≤ c ∧ c ≤ '9' then some (c.toNat - 48)
  else if 'a' ≤ c ∧ c ≤ 'f' then some (c.toNat - 87)
  else if 'A' ≤ c ∧ c ≤ 'F' then some (c.toNat - 55)
  else none

/-- The number that hexadecimal digits write; no digits write zero. -/
def hexNumber? (cs : List Char) : Option Nat :=
  cs.foldlM (fun n c => (hexValue? c).map (16 * n + ·)) 0

def decimalNumber (cs : List Char) : Nat :=
  cs.foldl (fun n c => 10 * n + (c.toNat - 48)) 0

def after? (word : String) (cs : List Char) : Option (List Char) :=
  if word.toList.isPrefixOf cs then some (cs.drop word.length) else none

namespace Reader

structure ListStyle where
  /-- Passes over what may stand between two parts. -/
  gap : List Char → List Char
  /-- One more comma may stand behind the last item. -/
  trailingComma : Bool

variable {α : Type}

/-- One item and all that follow it, up to the closing bracket. Every item takes a character, so as
many rounds as there are characters are enough. -/
def items (style : ListStyle) (close : Char) (item : Reader α) : Nat → Reader (List α)
  | 0, _ => none
  | rounds + 1, cs => do
    let (x, rest) ← item (style.gap cs)
    match style.gap rest with
    | ',' :: rest =>
      if style.trailingComma && (style.gap rest).head? == some close then
        return ([x], (style.gap rest).tail)
      else do
        let (xs, rest) ← items style close item rounds rest
        return (x :: xs, rest)
    | c :: rest => if c = close then return ([x], rest) else none
    | [] => none

def listed (style : ListStyle) (close : Char) (item : Reader α) : Reader (List α) := fun cs =>
  if (style.gap cs).head? == some close then some ([], (style.gap cs).tail)
  else items style close item cs.length cs

def member {κ : Type} (style : ListStyle) (key : Reader κ) (value : Reader α) : Reader (κ × α) :=
  fun cs => do
    let (k, rest) ← key cs
    match style.gap rest with
    | ':' :: rest => do
      let (v, rest) ← value (style.gap rest)
      return ((k, v), rest)
    | _ => none

/-- The whole text is one value, with nothing but gaps around it. -/
def whole (gap : List Char → List Char) (value : Reader α) (s : String) : Option α := do
  let (v, rest) ← value (gap s.toList)
  if gap rest = [] then some v else none

end Reader

end MessageExchange.Text
