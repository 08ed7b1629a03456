/-! Generated payload ids: random tokens of 32 lower-case hexadecimal digits in groups of
8-4-4-4-12. One digit tells the version, 4, and one the variant; the other digits are random. -/

namespace MessageExchange.Payload.Id

/-- The random part of an id: 30 digits, and one of the four variants. -/
structure Seed where
  digits : Fin 30 → Fin 16
  variant : Fin 4

/-- The seed whose digits spell `n` in base 16, least first. -/
def Seed.ofNat (n : Nat) : Seed :=
  ⟨fun i => Fin.ofNat 16 (n >>> (4 * i.val)), 0⟩

/-- `0` to `9`, then `a` to `f`. -/
def digit (n : Fin 16) : Char :=
  if n.val < 10 then Char.ofNat (48 + n.val) else Char.ofNat (87 + n.val)

/-- The variants are the digits `8`, `9`, `a` and `b`. -/
def variantDigit (v : Fin 4) : Char := digit ⟨8 + v.val, by omega⟩

def chars (s : Seed) : List Char :=
  let d := (List.finRange 30).map fun i => digit (s.digits i)
  d.take 8 ++ '-' :: (d.drop 8).take 4 ++ '-' :: '4' :: (d.drop 12).take 3 ++
    '-' :: variantDigit s.variant :: (d.drop 15).take 3 ++ '-' :: d.drop 18

def generate (s : Seed) : String := String.ofList (chars s)

def isDigit (c : Char) : Bool :=
  (48 ≤ c.toNat && c.toNat ≤ 57) || (97 ≤ c.toNat && c.toNat ≤ 102)

/-- What stands at each place of an id: hyphens between the groups, the version digit, and
hexadecimal digits all around. -/
def fits (place : Nat) (c : Char) : Bool :=
  if place == 8 || place == 13 || place == 18 || place == 23 then c == '-'
  else if place == 14 then c == '4'
  else isDigit c

/-- Has the shape of a generated id: 36 characters, each fit for its place. -/
def isGenerated (id : String) : Bool :=
  id.toList.length == 36 && id.toList.zipIdx.all fun p => fits p.2 p.1

/-- What is left to read after `skip` characters, with a sign in place of each generated id. -/
def maskFrom : Nat → List Char → List Char
  | _, [] => []
  | skip + 1, _ :: rest => maskFrom skip rest
  | 0, c :: rest =>
    if isGenerated (String.ofList ((c :: rest).take 36)) then "<uuid>".toList ++ maskFrom 35 rest
    else c :: maskFrom 0 rest

/-- The text with each generated id blotted out, so that it no longer depends on chance. -/
def mask (text : String) : String := String.ofList (maskFrom 0 text.toList)

end MessageExchange.Payload.Id
