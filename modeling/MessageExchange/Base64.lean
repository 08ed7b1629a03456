/-! Base64 with the standard alphabet and padding to whole groups of four symbols. Only the
canonical form is read: padding is required and unused trailing bits are zero. -/

namespace MessageExchange.Base64

/-- Why a text is not base64; offsets count bytes. -/
inductive Flaw
  | symbol (byte : UInt8) (offset : Nat)
  | lastSymbol (byte : UInt8) (offset : Nat)
  | length (symbols : Nat)
  | padding
  deriving DecidableEq, Repr

def Flaw.text : Flaw → String
  | .symbol b i => "Invalid symbol " ++ toString b.toNat ++ ", offset " ++ toString i ++ "."
  | .lastSymbol b i => "Invalid last symbol " ++ toString b.toNat ++ ", offset " ++ toString i ++ "."
  | .length n => "Invalid input length: " ++ toString n
  | .padding => "Invalid padding"

def pad : UInt8 := 61

/-- The six bits a symbol stands for. -/
def value? (b : UInt8) : Option Nat :=
  let n := b.toNat
  if 65 ≤ n ∧ n ≤ 90 then some (n - 65)
  else if 97 ≤ n ∧ n ≤ 122 then some (n - 71)
  else if 48 ≤ n ∧ n ≤ 57 then some (n + 4)
  else if n = 43 then some 62
  else if n = 47 then some 63
  else none

/-- A symbol inside a whole group; padding does not belong there. -/
def sextet (b : UInt8) (offset : Nat) : Except Flaw Nat :=
  match value? b with
  | some v => .ok v
  | none => .error (.symbol b offset)

/-- Three bytes out of four symbols. -/
def group (a b c d : Nat) : List UInt8 :=
  let n := ((a * 64 + b) * 64 + c) * 64 + d
  [UInt8.ofNat (n / 65536), UInt8.ofNat (n / 256), UInt8.ofNat n]

/-- The symbols of the last group, its padding checked: after two or three symbols only, and with
nothing behind it. The flag tells the offset of the first padding. -/
def lastSymbols : List UInt8 → Nat → Nat → Option Nat → Except Flaw (List Nat × Nat)
  | [], _, _, _ => .ok ([], 0)
  | b :: rest, base, i, padded =>
    if b = pad then
      if i < 2 then .error (.symbol b (base + i))
      else do
        let (vs, n) ← lastSymbols rest base (i + 1) (some (padded.getD (base + i)))
        return (vs, n + 1)
    else match padded with
      | some j => .error (.symbol pad j)
      | none => do
        let v ← sextet b (base + i)
        let (vs, n) ← lastSymbols rest base (i + 1) none
        return (v :: vs, n)

/-- The last group, of at most four symbols, at offset `base`. -/
def lastGroup (bs : List UInt8) (base : Nat) : Except Flaw (List UInt8) := do
  let (vs, pads) ← lastSymbols bs base 0 none
  if bs = [] then return []
  if vs.length < 2 then .error (.length (base + vs.length))
  else if (vs.length + pads) % 4 ≠ 0 then .error .padding
  else
    let unused := .lastSymbol (bs.getD (vs.length - 1) 0) (base + vs.length - 1)
    match vs with
    | [a, b] => if b % 16 = 0 then return (group a b 0 0).take 1 else .error unused
    | [a, b, c] => if c % 4 = 0 then return (group a b c 0).take 2 else .error unused
    | [a, b, c, d] => return group a b c d
    | _ => return []

/-- Groups from offset `base` on; the last one may be padded. -/
def groups : List UInt8 → Nat → Except Flaw (List UInt8)
  | a :: b :: c :: d :: e :: rest, base => do
    let a ← sextet a base
    let b ← sextet b (base + 1)
    let c ← sextet c (base + 2)
    let d ← sextet d (base + 3)
    return group a b c d ++ (← groups (e :: rest) (base + 4))
  | bs, base => lastGroup bs base

/-- A stray last byte is reported before anything else. -/
def decode (bs : List UInt8) : Except Flaw (List UInt8) :=
  match bs.getLast? with
  | some b =>
    if bs.length % 4 = 1 ∧ b ≠ pad ∧ value? b = none then .error (.symbol b (bs.length - 1))
    else groups bs 0
  | none => .ok []

end MessageExchange.Base64
