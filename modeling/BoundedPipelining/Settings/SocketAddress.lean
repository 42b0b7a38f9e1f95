import BoundedPipelining.Text.Numeral
import BoundedPipelining.Text.Pieces

/-!
# Socket addresses

An address of the internet protocol with the number of a service there, in its written form:
`a.b.c.d:n` with four octets, or `[groups]:n` with groups of hexadecimal digits between colons,
which may be followed by `%` and the number of a scope. One `::` stands for as many zero groups as
are missing from eight, at least one, and the last two groups may be written as four octets.
-/

namespace BoundedPipelining

/-- A socket address. -/
inductive SocketAddress where
  | four (octets : List Nat) (service : Nat)
  | six (groups : List Nat) (scope : Nat) (service : Nat)
  deriving DecidableEq

namespace SocketAddress

/-- A decimal number up to a greatest one. -/
def number? (greatest : Nat) (s : List Char) : Option Nat :=
  (Numeral.read? 10 s).filter (· ≤ greatest)

/-- An octet: a number up to 255 without leading zeros. -/
def octet? (s : List Char) : Option Nat :=
  if s.head? = some '0' ∧ s.length ≠ 1 then none else number? 255 s

/-- Four octets with dots between them. -/
def octets? (s : List Char) : Option (List Nat) :=
  let pieces := Pieces.split '.' s
  if pieces.length = 4 then pieces.mapM octet? else none

/-- A group: one to four hexadecimal digits. -/
def group? (s : List Char) : Option Nat :=
  if s.length ≤ 4 then Numeral.read? 16 s else none

/-- The groups that pieces between colons stand for. The last piece may be four octets, which make
two groups, if `octets` allows it. -/
def groups? (octets : Bool) : List (List Char) → Option (List Nat)
  | [] => some []
  | [p] =>
    match group? p with
    | some g => some [g]
    | none =>
      match octets, octets? p with
      | true, some [a, b, c, d] => some [256 * a + b, 256 * c + d]
      | _, _ => none
  | p :: more => do
    let g ← group? p
    let gs ← groups? octets more
    some (g :: gs)

/-- The groups of a text with colons between them; the empty text has none. -/
def side? (octets : Bool) (s : List Char) : Option (List Nat) :=
  if s.isEmpty then some [] else groups? octets (Pieces.split ':' s)

/-- The two sides of the first `::` of a text. -/
def splitGap? : List Char → Option (List Char × List Char)
  | ':' :: ':' :: r => some ([], r)
  | c :: r => (splitGap? r).map fun (a, b) ↦ (c :: a, b)
  | [] => none

/-- Eight groups, of which a run of zeros may be left out. -/
def eightGroups? (s : List Char) : Option (List Nat) :=
  match splitGap? s with
  | none => (side? true s).filter (·.length = 8)
  | some (front, back) => do
    let a ← side? false front
    let b ← side? true back
    if a.length + b.length ≤ 7 then
      some (a ++ List.replicate (8 - a.length - b.length) 0 ++ b)
    else none

/-- A text cut in front of the first of some character, which is left out. -/
def cutAt? (c : Char) (s : List Char) : Option (List Char × List Char) :=
  match s.dropWhile (· != c) with
  | _ :: r => some (s.takeWhile (· != c), r)
  | [] => none

/-- The part after the closing bracket: a colon and the number of the service. -/
def afterBracket? : List Char → Option Nat
  | ':' :: r => number? 65535 r
  | _ => none

/-- The part between the brackets: groups, and the number of a scope if one is given. -/
def inBrackets? (s : List Char) : Option (List Nat × Nat) :=
  match cutAt? '%' s with
  | none => (eightGroups? s).map fun gs ↦ (gs, 0)
  | some (front, scope) => do
    let gs ← eightGroups? front
    let n ← number? 4294967295 scope
    some (gs, n)

/-- The socket address that a text stands for. -/
def ofText? (s : List Char) : Option SocketAddress :=
  match s with
  | '[' :: r => do
    let (inside, rest) ← cutAt? ']' r
    let (groups, scope) ← inBrackets? inside
    let service ← afterBracket? rest
    some (.six groups scope service)
  | s => do
    let (front, rest) ← cutAt? ':' s
    let octets ← octets? front
    let service ← number? 65535 rest
    some (.four octets service)

end SocketAddress

end BoundedPipelining
