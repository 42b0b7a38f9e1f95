import BoundedPipelining.Text.Numeral
import BoundedPipelining.Toml.Scan

/-!
# Dates and times of a document

A moment is a date, a time of day, or both, and with both it may have an offset from universal time.
Every part has a fixed number of digits and has to be in range: a day has to exist in its month, and
the sixtieth second is allowed for the leap second.
-/

namespace BoundedPipelining

namespace Toml

/-- A day of the calendar. -/
structure Date where
  year : Nat
  month : Nat
  day : Nat
  deriving DecidableEq

/-- A time of day. -/
structure TimeOfDay where
  hour : Nat
  minute : Nat
  second : Nat
  /-- The digits of the fraction of a second. -/
  fraction : List Char
  deriving DecidableEq

/-- A date, a time of day, or both. -/
inductive Moment where
  | date (d : Date)
  | time (t : TimeOfDay)
  /-- Both, with the offset from universal time in minutes if it is given. -/
  | both (d : Date) (t : TimeOfDay) (offset : Option Int)
  deriving DecidableEq

/-- Whether a year has a leap day. -/
def isLeapYear (year : Nat) : Bool :=
  year % 4 = 0 && (year % 100 != 0 || year % 400 = 0)

/-- The number of days of a month. -/
def daysOfMonth (year month : Nat) : Nat :=
  if month = 2 then (if isLeapYear year then 29 else 28)
  else if month ∈ [4, 6, 9, 11] then 30
  else 31

/-- Reads a number of `n` digits that lies in a range. -/
def field (n low high : Nat) : Reader Nat := fun s ↦ do
  let v ← Numeral.read? 10 (s.take n)
  if (s.take n).length = n ∧ low ≤ v ∧ v ≤ high then some (v, s.drop n) else none

/-- Reads a certain character. -/
def mark (c : Char) (s : List Char) : Option (List Char) :=
  match s with
  | d :: r => if c = d then some r else none
  | [] => none

/-- Reads a date. -/
def date : Reader Date := fun s ↦ do
  let (year, s) ← field 4 0 9999 s
  let s ← mark '-' s
  let (month, s) ← field 2 1 12 s
  let s ← mark '-' s
  let (day, s) ← field 2 1 (daysOfMonth year month) s
  some (⟨year, month, day⟩, s)

/-- Reads the fraction of a second, if there is one. -/
def secondFraction : Reader (List Char)
  | '.' :: r =>
    let ds := r.takeWhile Char.isDigit
    if ds.isEmpty then none else some (ds, r.drop ds.length)
  | s => some ([], s)

/-- Reads a time of day. -/
def timeOfDay : Reader TimeOfDay := fun s ↦ do
  let (hour, s) ← field 2 0 23 s
  let s ← mark ':' s
  let (minute, s) ← field 2 0 59 s
  let s ← mark ':' s
  let (second, s) ← field 2 0 60 s
  let (fraction, s) ← secondFraction s
  some (⟨hour, minute, second, fraction⟩, s)

/-- Reads the hours and minutes of an offset. -/
def minutes : Reader Int := fun s ↦ do
  let (hour, s) ← field 2 0 23 s
  let s ← mark ':' s
  let (minute, s) ← field 2 0 59 s
  some ((60 * hour + minute : Nat), s)

/-- Reads an offset from universal time, if there is one. -/
def offset : Reader (Option Int)
  | 'Z' :: r | 'z' :: r => some (some 0, r)
  | '+' :: r => (minutes r).map fun (m, rest) ↦ (some m, rest)
  | '-' :: r => (minutes r).map fun (m, rest) ↦ (some (-m), rest)
  | s => some (none, s)

/-- Whether a time of day seems to begin here. -/
def startsTime : List Char → Bool
  | a :: b :: ':' :: _ => a.isDigit && b.isDigit
  | _ => false

/-- Whether a date seems to begin here. -/
def startsDate : List Char → Bool
  | a :: b :: c :: d :: '-' :: _ => a.isDigit && b.isDigit && c.isDigit && d.isDigit
  | _ => false

/-- What follows the separator between a date and a time of day. -/
def timeAfter? : List Char → Option (List Char)
  | c :: r => if (c = 'T' || c = 't' || c = ' ') && startsTime r then some r else none
  | [] => none

/-- Reads a date, a time of day, or both. -/
def moment : Reader Moment := fun s ↦
  if startsDate s then do
    let (d, s) ← date s
    match timeAfter? s with
    | none => some (.date d, s)
    | some s =>
      let (t, s) ← timeOfDay s
      let (o, s) ← offset s
      some (.both d t o, s)
  else (timeOfDay s).map fun (t, s) ↦ (.time t, s)

end Toml

end BoundedPipelining
