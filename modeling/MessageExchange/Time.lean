/-! Lengths of time and points in time, in whole nanoseconds, and how a length is written. -/

namespace MessageExchange

structure Span where
  nanos : Nat
  deriving DecidableEq, Repr

/-- A point in time, counted from the Unix epoch without leap seconds. A date inside a leap second,
such as 23:59:60, is not among these points; no running clock gives one. -/
structure Instant where
  nanos : Int
  deriving DecidableEq, Repr

namespace Span

def ofSecs (n : Nat) : Span := ⟨n * 1000000000⟩
def ofMillis (n : Nat) : Span := ⟨n * 1000000⟩

def millis (s : Span) : Nat := s.nanos / 1000000

/-- `part` of `whole` as the decimals after a point, without trailing zeros; `places` digits make
up the whole. -/
def decimals (places part : Nat) : String :=
  let digits := (Nat.toDigits 10 part)
  let padded := List.replicate (places - digits.length) '0' ++ digits
  let kept := (padded.reverse.dropWhile (· == '0')).reverse
  if part == 0 then "" else "." ++ String.ofList kept

/-- The largest unit of which there is at least one, with the rest as decimals. -/
def text (s : Span) : String :=
  let n := s.nanos
  if 1000000000 ≤ n then toString (n / 1000000000) ++ decimals 9 (n % 1000000000) ++ "s"
  else if 1000000 ≤ n then toString (n / 1000000) ++ decimals 6 (n % 1000000) ++ "ms"
  else if 1000 ≤ n then toString (n / 1000) ++ decimals 3 (n % 1000) ++ "µs"
  else toString n ++ "ns"

end Span

namespace Instant

def dawn : Instant := ⟨1770000000 * 1000000000⟩

/-- What has passed from `a` to `b`; negative when `b` comes first. -/
def since (b a : Instant) : Int := b.nanos - a.nanos

def add (t : Instant) (s : Span) : Instant := ⟨t.nanos + s.nanos⟩

end Instant

end MessageExchange
