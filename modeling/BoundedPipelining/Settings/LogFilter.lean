import BoundedPipelining.Settings.FilterDirective

/-!
# Log filters

Which messages a list of directives lets through. A directive without a span bears on the messages
whose place begins with its target and that have the fields it names; of several, the one with the
longest target decides, then the one with the most fields, then the last. Directives for spans and
for values of fields bear only on what is logged within a span, and no message here is.
-/

namespace BoundedPipelining

/-- A message of the log, without its text. -/
structure LogMessage where
  /-- The module that logs it. -/
  place : String
  level : LogLevel
  fields : List String

namespace FilterDirective

/-- Whether a directive bears on messages outside any span. -/
def isPlain (d : FilterDirective) : Bool :=
  d.span.isNone && d.fields.all fun f ↦ !f.contains '='

/-- Whether a directive bears on a message. -/
def bearsOn (d : FilterDirective) (m : LogMessage) : Bool :=
  d.isPlain && (d.target.all fun t ↦ t.isPrefixOf m.place.toList)
    && d.fields.all fun f ↦ m.fields.contains (String.ofList f)

/-- How specific the target of a directive is. -/
def reach (d : FilterDirective) : Nat :=
  match d.target with
  | none => 0
  | some t => t.length + 1

/-- Whether a directive is at least as specific as another. -/
def outweighs (d e : FilterDirective) : Bool :=
  e.reach < d.reach || (e.reach == d.reach && e.fields.length ≤ d.fields.length)

/-- The directive that decides on a message. -/
def deciding? (ds : List FilterDirective) (m : LogMessage) : Option FilterDirective :=
  (ds.filter fun d ↦ d.bearsOn m).foldl
    (fun best d ↦
      match best with
      | none => some d
      | some e => some (if d.outweighs e then d else e)) none

/-- Whether a filter lets a message through. Without any directive, errors alone pass. -/
def passes (ds : List FilterDirective) (m : LogMessage) : Bool :=
  let ds := if ds.isEmpty then [{ level := .error }] else ds
  (deciding? ds m).any fun d ↦ m.level.rank ≤ d.level.rank

end FilterDirective

end BoundedPipelining
