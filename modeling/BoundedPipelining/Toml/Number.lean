import BoundedPipelining.Decimal.Binary
import BoundedPipelining.Text.Numeral
import BoundedPipelining.Toml.Scan

/-!
# Numbers of a document

Integers are signed decimals without leading zeros, or unsigned numerals in base sixteen, eight or
two after `0x`, `0o` or `0b`; they fit into 64 bits with sign. A decimal with a fraction, an
exponent or both is a floating-point number, as are `inf` and `nan`. A single underscore may stand
between two digits.

A number too large for the floating-point format is refused; below zero it becomes infinite.
-/

namespace BoundedPipelining

namespace Toml

/-- A floating-point number. -/
inductive FloatValue where
  | signed (negative : Bool) (magnitude : Binary)
  | notANumber
  deriving DecidableEq

/-- A number of a document. -/
inductive Number where
  | integer (n : Int)
  | float (x : FloatValue)
  deriving DecidableEq

/-- Reads the digits that are left of a run, of which at least one has been read. -/
def moreDigits (p : Char → Bool) : Reader (List Char)
  | [] => some ([], [])
  | '_' :: c :: r =>
    if p c then (moreDigits p r).map fun (ds, rest) ↦ (c :: ds, rest) else none
  | c :: r =>
    if p c then (moreDigits p r).map fun (ds, rest) ↦ (c :: ds, rest) else some ([], c :: r)

/-- Reads one digit or more, with single underscores between them. -/
def digits (p : Char → Bool) : Reader (List Char)
  | c :: r => if p c then (moreDigits p r).map fun (ds, rest) ↦ (c :: ds, rest) else none
  | [] => none

/-- Reads a sign, if there is one, and says whether it is a minus. -/
def sign : List Char → Bool × List Char
  | '+' :: r => (false, r)
  | '-' :: r => (true, r)
  | s => (false, s)

/-- Reads a whole decimal without leading zeros. -/
def whole : Reader (List Char)
  | '0' :: r => some (['0'], r)
  | s => digits Char.isDigit s

/-- A whole number with its sign. -/
def withSign (negative : Bool) (n : Nat) : Int :=
  if negative then -n else n

/-- An integer, if it fits into 64 bits with sign. -/
def integer? (n : Int) : Option Number :=
  if -(Nat.pow 2 63) ≤ n ∧ n < Nat.pow 2 63 then some (.integer n) else none

/-- The floating-point number nearest to a decimal, unless it is too large. -/
def float? (negative : Bool) (m : Nat) (e : Int) : Option Number :=
  match negative, Binary.ofDecimal m e with
  | false, .infinite => none
  | _, x => some (.float (.signed negative x))

/-- Reads the exponent, if there is one. -/
def exponent : Reader (Option Int)
  | c :: r =>
    if c = 'e' || c = 'E' then
      let (negative, r) := sign r
      (digits Char.isDigit r).map fun (ds, rest) ↦
        (some (withSign negative (Numeral.value 10 ds)), rest)
    else some (none, c :: r)
  | [] => some (none, [])

/-- Reads the fraction, if there is one. -/
def fraction : Reader (Option (List Char))
  | '.' :: r => (digits Char.isDigit r).map fun (ds, rest) ↦ (some ds, rest)
  | s => some (none, s)

/-- Reads a decimal, of which the sign has been read. -/
def decimal (negative : Bool) : Reader Number := fun s ↦ do
  let (ds, s) ← whole s
  let (places, s) ← fraction s
  let (e, s) ← exponent s
  let n ←
    match places, e with
    | none, none => integer? (withSign negative (Numeral.value 10 ds))
    | _, _ =>
      let places := places.getD []
      float? negative (Numeral.value 10 (ds ++ places)) (e.getD 0 - places.length)
  some (n, s)

/-- Reads a numeral in a base, of which the first two characters have been read. -/
def based (base : Nat) : Reader Number := fun s ↦ do
  let (ds, s) ← digits (Numeral.isDigit base) s
  let n ← integer? (Numeral.value base ds)
  some (n, s)

/-- Reads a number after its sign. -/
def unsigned (negative : Bool) : Reader Number
  | 'i' :: 'n' :: 'f' :: r => some (.float (.signed negative .infinite), r)
  | 'n' :: 'a' :: 'n' :: r => some (.float .notANumber, r)
  | s => decimal negative s

/-- Reads a number. -/
def number : Reader Number
  | '0' :: 'x' :: r => based 16 r
  | '0' :: 'o' :: r => based 8 r
  | '0' :: 'b' :: r => based 2 r
  | s => let (negative, s) := sign s; unsigned negative s

end Toml

end BoundedPipelining
