/-!
# Binary numbers nearest to a decimal

A finite floating-point number of 64 bits is `m · 2 ^ q` with `m < 2 ^ 53` and `-1074 ≤ q ≤ 971`.
`Binary.ofDecimal` rounds a decimal to the nearest of them, a tie going to the even neighbour, and
everything past the largest to infinity. All arithmetic is on whole numbers.
-/

namespace BoundedPipelining

/-- A number that a double-precision format can hold, without its sign. -/
inductive Binary where
  /-- The number `m · 2 ^ q`. -/
  | finite (m : Nat) (q : Int)
  | infinite
  deriving DecidableEq

namespace Binary

/-- The number of bits of a significand. -/
def precision : Nat := 53

/-- The least exponent. -/
def minExponent : Int := -1074

/-- The greatest exponent. -/
def maxExponent : Int := 971

/-- A quotient rounded to the nearest whole number, ties to even. -/
def roundDiv (num den : Nat) : Nat :=
  let k := num / den
  let rest := num % den
  if 2 * rest < den then k
  else if den < 2 * rest then k + 1
  else if k % 2 = 0 then k else k + 1

/-- A positive fraction as a numerator and a denominator, scaled by `2 ^ (-q)`. -/
def scaled (num den : Nat) (q : Int) : Nat × Nat :=
  if 0 ≤ q then (num, den * Nat.pow 2 q.toNat) else (num * Nat.pow 2 (-q).toNat, den)

/-- The exponent at which a positive fraction has a significand of full precision, as far as the
format goes. -/
def exponentOf (num den : Nat) : Int :=
  let guess : Int := (num.log2 : Int) - (den.log2 : Int) - precision
  let (n, d) := scaled num den guess
  let q := if n / d < Nat.pow 2 precision then guess else guess + 1
  max q minExponent

/-- The nearest number to a positive fraction. -/
def ofFraction (num den : Nat) : Binary :=
  let q := exponentOf num den
  let (n, d) := scaled num den q
  let m := roundDiv n d
  let (m, q) : Nat × Int := if m < Nat.pow 2 precision then (m, q) else (m / 2, q + 1)
  if maxExponent < q then infinite else finite m q

/-- The number of decimal digits of a whole number, none for zero. -/
def digitCount (n : Nat) : Nat :=
  if n = 0 then 0 else (Nat.toDigits 10 n).length

/-- The nearest number to `m · 10 ^ e`. Decimals far outside the format are not written out. -/
def ofDecimal (m : Nat) (e : Int) : Binary :=
  let magnitude := (digitCount m : Int) + e
  if m = 0 ∨ magnitude < -400 then finite 0 minExponent
  else if 400 < magnitude then infinite
  else if 0 ≤ e then ofFraction (m * Nat.pow 10 e.toNat) 1
  else ofFraction m (Nat.pow 10 (-e).toNat)

end Binary

end BoundedPipelining
