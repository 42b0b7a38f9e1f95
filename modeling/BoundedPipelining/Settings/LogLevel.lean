import BoundedPipelining.Text.Numeral

/-!
# Log levels

How much is logged: nothing, or every message up to a degree of detail.
-/

namespace BoundedPipelining

/-- How much is logged. -/
inductive LogLevel where
  | off
  | error
  | warn
  | info
  | debug
  | trace
  deriving DecidableEq

namespace LogLevel

/-- The levels from the least detailed to the most detailed. -/
def all : List LogLevel :=
  [off, error, warn, info, debug, trace]

/-- The number of a level. -/
def rank : LogLevel → Nat
  | off => 0
  | error => 1
  | warn => 2
  | info => 3
  | debug => 4
  | trace => 5

/-- The name of a level. -/
def name : LogLevel → String
  | off => "off"
  | error => "error"
  | warn => "warn"
  | info => "info"
  | debug => "debug"
  | trace => "trace"

/-- The level that a text stands for: its number, or its name in any letter case. -/
def ofText? (s : List Char) : Option LogLevel :=
  match Numeral.readPlus? 10 s with
  | some n => all.find? fun l ↦ l.rank == n
  | none => all.find? fun l ↦ l.name.toList == s.map Char.toLower

end LogLevel

end BoundedPipelining
