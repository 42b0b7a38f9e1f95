import BoundedPipelining.Toml.Value

/-!
# Assembling a document from its lines

The lines of a document come in sections: the pairs before the first header, and each header with
the pairs below it. A `[header]` states a table and a `[[header]]` adds a table to an array. Each
pair puts a value under a dotted path.

A table can be stated once only, though it may have been implied before by a header of a table
inside it, and then it moves behind the keys that are there. A dotted path reaches into tables that
other dotted paths made, and not into a stated one. Nothing reaches into a value. A header reaches
through an array of tables to its last table.
-/

namespace BoundedPipelining

namespace Toml

/-- A value and the path it is put under. -/
structure Pair where
  path : List String
  key : String
  value : Value

/-- A header. -/
structure Header where
  path : List String
  key : String
  /-- Whether the header adds to an array of tables. -/
  repeated : Bool

/-- A header with the pairs below it. -/
structure Section where
  header : Header
  pairs : List Pair

namespace Table

/-- Changes the table at the end of a path, making the tables that are missing on the way. `dotted`
says that the path belongs to a dotted key. The change is told how the table came about. -/
def changeAt (dotted : Bool) (change : Origin → Table → Option Table) :
    List String → Origin → Table → Option Table
  | [], o, t => change o t
  | k :: path, _, t =>
    match t.get? k with
    | none =>
      let origin : Origin := if dotted then .dotted else .implied
      (changeAt dotted change path origin []).map fun u ↦ t.add k (.table origin u)
    | some (.table o u) =>
      if o = .braces ∨ (dotted ∧ o = .stated) then none
      else (changeAt dotted change path o u).map fun u ↦ t.replace k (.table o u)
    | some (.tables items) =>
      (changeAt dotted change path .stated (items.getLast?.getD [])).map fun u ↦
        t.replace k (.tables (items.dropLast ++ [u]))
    | some _ => none

/-- Puts a value under a new key. A dotted path has to lead to a table made by dotted paths. -/
def putAt (p : Pair) (o : Origin) (t : Table) : Option Table :=
  if (o == .dotted) == p.path.isEmpty || t.has p.key then none else some (t.add p.key p.value)

/-- Adds a pair to a table. -/
def addPair (o : Origin) (t : Table) (p : Pair) : Option Table :=
  changeAt true (putAt p) p.path o t

/-- Adds pairs to a table in their order. -/
def addPairs (o : Origin) (t : Table) (pairs : List Pair) : Option Table :=
  pairs.foldlM (fun t p ↦ t.addPair o p) t

/-- Adds what a section states to the table that its header's path leads to. -/
def placeIn (s : Section) (t : Table) : Option Table :=
  let k := s.header.key
  if s.header.repeated then do
    let u ← addPairs .stated [] s.pairs
    match t.get? k with
    | none => some (t.add k (.tables [u]))
    | some (.tables items) => some (t.replace k (.tables (items ++ [u])))
    | some _ => none
  else do
    let before ←
      match t.get? k with
      | none => some []
      | some (.table .implied u) => some u
      | some _ => none
    let u ← addPairs .stated before s.pairs
    some ((t.remove k).add k (.table .stated u))

/-- Adds a section to a document. -/
def addSection (t : Table) (s : Section) : Option Table :=
  changeAt false (fun _ u ↦ u.placeIn s) s.header.path .stated t

/-- The document of the pairs before the first header and the sections after it. -/
def ofSections (pairs : List Pair) (sections : List Section) : Option Table := do
  let t ← addPairs .stated [] pairs
  sections.foldlM addSection t

end Table

end Toml

end BoundedPipelining
