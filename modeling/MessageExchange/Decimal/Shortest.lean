import MessageExchange.Decimal.Nearest

/-! The shortest decimal that reads back as a given binary number, and its text without an
exponent. -/

namespace MessageExchange.Decimal.Binary

/-- Compares `a * 10 ^ i` with `n * 2 ^ j`. -/
def compareScaled (a : Nat) (i : Int) (n : Nat) (j : Int) : Ordering :=
  compare ((a * Nat.pow 10 i.toNat) <<< (-j).toNat) ((n * Nat.pow 10 (-i).toNat) <<< j.toNat)

/-- The decimal `a * 10 ^ i` is among the reals whose nearest number is `x`. Below a power of two
the next number is only half as far away as above it. -/
def readsBack (x : Binary) (a : Nat) (i : Int) : Bool :=
  let narrow := x.mantissa = 1 <<< 52 ∧ leastExponent < x.exponent
  let low := if narrow then 4 * x.mantissa - 1 else 4 * x.mantissa - 2
  let endsCount := x.mantissa % 2 == 0
  let aboveLow := compareScaled a i low (x.exponent - 2)
  let belowHigh := compareScaled a i (4 * x.mantissa + 2) (x.exponent - 2)
  (aboveLow == .gt || (endsCount && aboveLow == .eq)) &&
    (belowHigh == .lt || (endsCount && belowHigh == .eq))

/-- The better of the two multiples of `10 ^ i` next to `x`, if one reads back; of two equally near
ones the upper. -/
def onGrid (x : Binary) (i : Int) : Option (Nat × Int) :=
  let a := (x.mantissa <<< x.exponent.toNat * Nat.pow 10 (-i).toNat) >>> (-x.exponent).toNat /
    Nat.pow 10 i.toNat
  match x.readsBack a i, x.readsBack (a + 1) i with
  | true, true =>
    if compareScaled (2 * a + 1) i (2 * x.mantissa) x.exponent == .gt then some (a, i)
    else some (a + 1, i)
  | true, false => some (a, i)
  | false, true => some (a + 1, i)
  | false, false => none

/-- Digits and scale of the shortest decimal that reads back, found on the coarsest grid that holds
one. Every number of the format lies below `10 ^ 309`. -/
def shortest (x : Binary) : Nat × Int :=
  if x.mantissa = 0 then (0, 0)
  else ((List.range 650).findSome? fun (k : Nat) => x.onGrid (309 - k)).getD (0, 0)

/-- All digits in place, with a point and at least one digit on either side of it. -/
def text (x : Binary) : String :=
  let (digits, scale) := x.shortest
  if 0 ≤ scale then toString (digits * Nat.pow 10 scale.toNat) ++ ".0"
  else
    let places := (-scale).toNat
    let fraction := toString (digits % Nat.pow 10 places)
    toString (digits / Nat.pow 10 places) ++ "." ++
      String.ofList (List.replicate (places - fraction.length) '0') ++ fraction

end MessageExchange.Decimal.Binary
