import BoundedPipelining.Decimal.Binary

/-!
# The fewest digits that read back

A number `m · 2 ^ q` is written with the fewest decimal digits whose nearest number it is; of the
decimals with that many digits, the one nearest to it is taken. The digits are found grid by grid:
for `1, 2, 3, …` digits, the two decimals around the number are tried against the interval of
numbers that round to it.

The digits are then written positionally, without an exponent, however long that gets.
-/

namespace BoundedPipelining

namespace Decimal

/-- A decimal `digits · 10 ^ exponent`. -/
structure Digits where
  digits : Nat
  exponent : Int
  deriving DecidableEq

/-- Twice the significand, and the exponent to go with it, so that the ends of the interval of
numbers that round to `m · 2 ^ q` are whole. The lower neighbour of a power of two is at half the
distance, so the significand is doubled once more. -/
structure Interval where
  low : Nat
  centre : Nat
  high : Nat
  exponent : Int
  /-- Whether the ends belong to the interval. -/
  closed : Bool

/-- The interval of numbers that round to `m · 2 ^ q`. -/
def intervalOf (m : Nat) (q : Int) : Interval :=
  let low :=
    if m = Nat.pow 2 (Binary.precision - 1) ∧ Binary.minExponent < q then 4 * m - 1
    else 4 * m - 2
  { low, centre := 4 * m, high := 4 * m + 2, exponent := q - 2, closed := m % 2 = 0 }

/-- Compares `a · 2 ^ x` with `b · 10 ^ y`. -/
def compareScaled (a : Nat) (x : Int) (b : Nat) (y : Int) : Ordering :=
  let left := a * Nat.pow 2 x.toNat * Nat.pow 10 (-y).toNat
  let right := b * Nat.pow 10 y.toNat * Nat.pow 2 (-x).toNat
  compare left right

/-- Whether a decimal lies in the interval. -/
def Interval.holds (i : Interval) (d : Digits) : Bool :=
  let low := compareScaled i.low i.exponent d.digits d.exponent
  let high := compareScaled i.high i.exponent d.digits d.exponent
  if i.closed then low != .gt && high != .lt else low == .lt && high == .gt

/-- The largest multiple of `10 ^ e` that is not above the centre, as a count of such steps. -/
def Interval.floorAt (i : Interval) (e : Int) : Nat :=
  let num := i.centre * Nat.pow 2 i.exponent.toNat * Nat.pow 10 (-e).toNat
  let den := Nat.pow 10 e.toNat * Nat.pow 2 (-i.exponent).toNat
  num / den

/-- Whether the upper of two neighbouring decimals is nearer to the centre than the lower one; of
two at the same distance the even one counts as nearer. -/
def Interval.prefersUpper (i : Interval) (lower : Nat) (e : Int) : Bool :=
  match compareScaled (2 * i.centre) i.exponent (2 * lower + 1) e with
  | .gt => true
  | .lt => false
  | .eq => lower % 2 = 1

/-- The decimal on the grid of step `10 ^ e` that lies in the interval, the nearer one of two. -/
def Interval.pick? (i : Interval) (e : Int) : Option Digits :=
  let lower := i.floorAt e
  let a : Digits := ⟨lower, e⟩
  let b : Digits := ⟨lower + 1, e⟩
  match i.holds a, i.holds b with
  | true, true => some (if i.prefersUpper lower e then b else a)
  | true, false => some a
  | false, true => some b
  | false, false => none

/-- Tries ever finer grids, at most `n` of them. -/
def Interval.search (i : Interval) : Nat → Int → Digits
  | 0, e => ⟨i.floorAt e, e⟩
  | n + 1, e =>
    match i.pick? e with
    | some d => d
    | none => i.search n (e - 1)

/-- The power of ten at which the search starts: at or above the first digit of the number. -/
def startExponent (m : Nat) (q : Int) : Int :=
  if 0 ≤ q then ((m * Nat.pow 2 q.toNat).log2 : Int) / 3 + 1
  else if Nat.pow 2 (-q).toNat ≤ m then ((m / Nat.pow 2 (-q).toNat).log2 : Int) / 3 + 1
  else 1 - ((Nat.pow 2 (-q).toNat / m).log2 : Int) * 3 / 10

/-- The fewest digits that read back as `m · 2 ^ q`, for a positive `m`. -/
def shortest (m : Nat) (q : Int) : Digits :=
  (intervalOf m q).search 400 (startExponent m q)

/-- A decimal written out by position: with no fraction if it is whole. -/
def Digits.text (d : Digits) : String :=
  let ds := Nat.toDigits 10 d.digits
  if 0 ≤ d.exponent then String.ofList (ds ++ List.replicate d.exponent.toNat '0')
  else
    let places := (-d.exponent).toNat
    let padded := List.replicate (places + 1 - ds.length) '0' ++ ds
    let whole := padded.take (padded.length - places)
    String.ofList (whole ++ '.' :: padded.drop (padded.length - places))

end Decimal

end BoundedPipelining
