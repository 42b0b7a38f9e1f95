import BoundedPipelining.Toml.Moment
import BoundedPipelining.Toml.Number

/-!
# Values and tables of a document

A document is a table: keys with their values, in the order in which they were first given. A table
remembers how it came about, because that decides whether more keys may be added to it later.
-/

namespace BoundedPipelining

namespace Toml

/-- How a table came about. -/
inductive Origin where
  /-- By a header of its own; also the document itself. -/
  | stated
  /-- By the header of a table inside it. -/
  | implied
  /-- By a dotted key. -/
  | dotted
  /-- Written as a value, between braces. -/
  | braces
  deriving DecidableEq

/-- A value of a document. -/
inductive Value where
  | text (s : String)
  | integer (n : Int)
  | float (x : FloatValue)
  | boolean (b : Bool)
  | moment (m : Moment)
  | array (items : List Value)
  | table (origin : Origin) (entries : List (String × Value))
  /-- The tables given by headers of one array of tables. -/
  | tables (items : List (List (String × Value)))

/-- The keys of a table and their values. -/
abbrev Table := List (String × Value)

namespace Table

/-- The value of a key. -/
def get? (t : Table) (k : String) : Option Value :=
  t.lookup k

/-- Whether a key has a value. -/
def has (t : Table) (k : String) : Bool :=
  (t.get? k).isSome

/-- The table with a new key at its end. -/
def add (t : Table) (k : String) (v : Value) : Table :=
  t ++ [(k, v)]

/-- The table with another value for a key, at the place it had. -/
def replace (t : Table) (k : String) (v : Value) : Table :=
  t.map fun e ↦ if e.1 == k then (k, v) else e

/-- The table without a key. -/
def remove (t : Table) (k : String) : Table :=
  t.filter fun e ↦ e.1 != k

end Table

end Toml

end BoundedPipelining
