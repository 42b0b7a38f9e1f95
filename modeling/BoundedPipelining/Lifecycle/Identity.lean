/-!
# The numbers of connections

Every connection of a process has a number of its own, drawn from one sequence, under which its
errors and reports name it.
-/

namespace BoundedPipelining

/-- The number of a connection. -/
structure ConnectionId where
  number : Nat
  deriving DecidableEq

/-- A connection as messages name it. -/
def ConnectionId.text (id : ConnectionId) : String :=
  "conn-" ++ toString id.number

/-- The numbers that have been drawn. -/
structure ConnectionSequence where
  drawn : Nat := 0
  deriving DecidableEq

namespace ConnectionSequence

/-- Draws the next number. -/
def next (s : ConnectionSequence) : ConnectionId × ConnectionSequence :=
  (⟨s.drawn + 1⟩, ⟨s.drawn + 1⟩)

/-- Draws `n` numbers, one after the other. -/
def draw (s : ConnectionSequence) : Nat → List ConnectionId
  | 0 => []
  | n + 1 => s.next.1 :: s.next.2.draw n

end ConnectionSequence

end BoundedPipelining
