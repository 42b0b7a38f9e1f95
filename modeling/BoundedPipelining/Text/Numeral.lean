/-!
# Numerals

Whole numbers written with the digits of a base between two and sixteen. A letter stands for the
same digit in either case, and leading zeros change nothing.
-/

namespace BoundedPipelining

namespace Numeral

/-- What a digit of some base up to sixteen is worth. -/
def worth? (c : Char) : Option Nat :=
  if c.isDigit then some (c.toNat - '0'.toNat)
  else if 'a' ≤ c && c ≤ 'f' then some (c.toNat - 'a'.toNat + 10)
  else if 'A' ≤ c && c ≤ 'F' then some (c.toNat - 'A'.toNat + 10)
  else none

/-- What a digit of the base is worth. -/
def digit? (base : Nat) (c : Char) : Option Nat :=
  (worth? c).filter (· < base)

/-- Whether a character is a digit of the base. -/
def isDigit (base : Nat) (c : Char) : Bool :=
  (digit? base c).isSome

/-- The number that digits stand for; a character that is no digit counts as zero. -/
def value (base : Nat) (digits : List Char) : Nat :=
  digits.foldl (fun n c ↦ base * n + (digit? base c).getD 0) 0

/-- The number that a text stands for, if it is one digit or more and nothing else. -/
def read? (base : Nat) (s : List Char) : Option Nat :=
  if !s.isEmpty && s.all (isDigit base) then some (value base s) else none

/-- The number that a text stands for, in front of which a plus sign may stand. -/
def readPlus? (base : Nat) : List Char → Option Nat
  | '+' :: r => read? base r
  | s => read? base s

@[simp] theorem value_append_singleton (base : Nat) (s : List Char) (c : Char) :
    value base (s ++ [c]) = base * value base s + (digit? base c).getD 0 := by
  simp [value]

end Numeral

end BoundedPipelining
