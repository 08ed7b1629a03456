/-! The nearest binary floating-point number of 64 bits to a decimal one, computed exactly. -/

namespace MessageExchange.Decimal

/-- The number `mantissa * 2 ^ exponent`. -/
structure Binary where
  mantissa : Nat
  exponent : Int
  deriving DecidableEq, Repr

namespace Binary

/-- The least exponent; numbers below are told apart by less than 53 bits. -/
def leastExponent : Int := -1074

/-- The quotient rounded to a whole number, halves to the even neighbour. -/
def roundQuotient (n d : Nat) : Nat :=
  let q := n / d
  match compare (2 * (n % d)) d with
  | .lt => q
  | .gt => q + 1
  | .eq => q + q % 2

def floor (x : Binary) : Nat :=
  if 0 ≤ x.exponent then x.mantissa <<< x.exponent.toNat
  else x.mantissa >>> (-x.exponent).toNat

/-- No number of the format reaches this bound. -/
def bound : Nat := 1 <<< 1024

/-- The nearest number to `n / d` with 53 bits in its mantissa, or fewer near zero; nothing if it
reaches the bound. -/
def ofQuotient? (n d : Nat) : Option Binary :=
  let scaled (e : Int) : Nat × Nat :=
    if 0 ≤ e then (n, d <<< e.toNat) else (n <<< (-e).toNat, d)
  let e := max leastExponent ((n.log2 : Int) - d.log2 - 53)
  let (a, b) := scaled e
  let e := if a / b < 1 <<< 53 then e else e + 1
  let (a, b) := scaled e
  let m := roundQuotient a b
  let x : Binary := if m = 1 <<< 53 then ⟨1 <<< 52, e + 1⟩ else ⟨m, e⟩
  if x.floor < bound then some x else none

/-- The nearest number to `digits * 10 ^ scale`. Beyond 400 decimal places on either side the bound
is reached or nothing is left. -/
def nearest? (digits : Nat) (scale : Int) : Option Binary :=
  let places := (Nat.toDigits 10 digits).length + scale
  if digits = 0 ∨ places < -400 then some ⟨0, leastExponent⟩
  else if 400 < places then none
  else if 0 ≤ scale then ofQuotient? (digits * Nat.pow 10 scale.toNat) 1
  else ofQuotient? digits (Nat.pow 10 (-scale).toNat)

end Binary

end MessageExchange.Decimal
