import BoundedPipelining.Settings.LogLevel
import BoundedPipelining.Text.Alphanumeric
import BoundedPipelining.Text.Blank
import BoundedPipelining.Text.Pieces
import BoundedPipelining.Text.Quoted

/-!
# Directives of a log filter

A directive says how much of the messages from one place is logged. In full it reads
`target[span{field}]=level`; the part in brackets, the level, or the target may be missing, and a
text that is a level by itself is one for all messages.

A directive is found in a piece of text in two ways at once: the characters are those of the piece
without the blanks around it, and the parts are cut out of the piece with its blanks, at the byte
offsets of the former. Where blanks stand in front, the parts are therefore shifted, and a cut may
fall inside a character, which no part can be made of.
-/

namespace BoundedPipelining

/-- Why a text is not a directive. -/
inductive FilterError where
  /-- The text has not the form of a directive. -/
  | malformed
  /-- The text after the equals sign is not a level. -/
  | unknownLevel
  /-- A part would begin or end inside a character of the text. -/
  | splitsCharacter (offset : Nat) (text : List Char)
  deriving DecidableEq

/-- A directive of a log filter. -/
structure FilterDirective where
  level : LogLevel := .trace
  target : Option (List Char) := none
  span : Option (List Char) := none
  fields : List (List Char) := []
  deriving DecidableEq

/-- What the scan of a directive is at. The numbers are the offsets at which a part begins. -/
inductive DirectivePart where
  | start
  | name
  | span (begin : Nat)
  | field (begin : Nat)
  | fields
  | closed
  | level (begin : Nat)
  deriving DecidableEq

namespace FilterDirective

/-- The part of a text between two byte offsets. -/
def slice (text : List Char) (a b : Nat) : Except FilterError (List Char) :=
  match Pieces.cut? a text with
  | none => .error (.splitsCharacter a text)
  | some (_, rest) =>
    match Pieces.cut? (b - a) rest with
    | none => .error (.splitsCharacter b text)
    | some (taken, _) => .ok taken

/-- The part of a text from a byte offset to its end. -/
def sliceFrom (text : List Char) (a : Nat) : Except FilterError (List Char) :=
  slice text a (Pieces.byteCount text)

/-- Whether a directive may begin with a character, other than an opening bracket. -/
def mayStart (c : Char) : Bool :=
  c = '-' || c = ':' || c = '_' || Alphanumeric.isAlphanumeric c

/-- Moves the scan of a text over the character at a byte offset. A field is taken as it stands:
that the value in `name=value`, if it is no number and no truth value, has to be a regular
expression is not modelled. -/
def scan (text : List Char) (d : FilterDirective) (part : DirectivePart) (i : Nat) (c : Char) :
    Except FilterError (FilterDirective × DirectivePart) :=
  match part with
  | .start =>
    if c = '[' then .ok (d, .span (i + 1))
    else if mayStart c then .ok (d, .name)
    else .error .malformed
  | .name =>
    if c = '=' then (slice text 0 i).map fun t ↦ ({ d with target := some t }, .level (i + 1))
    else if c = '[' then (slice text 0 i).map fun t ↦ ({ d with target := some t }, .span (i + 1))
    else .ok (d, .name)
  | .span a =>
    if c = ']' then (slice text a i).map fun t ↦ ({ d with span := some t }, .closed)
    else if c = '\x7b' then
      (slice text a i).map fun t ↦
        ({ d with span := if t.isEmpty then none else some t }, .field (i + 1))
    else .ok (d, .span a)
  | .field a =>
    if c = '\x7d' then do
      let t ← slice text a i
      if t.isEmpty then .error .malformed
      else .ok ({ d with fields := d.fields ++ [t] }, .fields)
    else .ok (d, .field a)
  | .fields => if c = ']' then .ok (d, .closed) else .error .malformed
  | .closed => if c = '=' then .ok (d, .level (i + 1)) else .error .malformed
  | .level a => .ok (d, .level a)

/-- Scans characters from a byte offset on. -/
def scanAll (text : List Char) (d : FilterDirective) (part : DirectivePart) (i : Nat) :
    List Char → Except FilterError (FilterDirective × DirectivePart)
  | [] => .ok (d, part)
  | c :: rest => do
    let (d, part) ← scan text d part i c
    scanAll text d part (i + c.utf8Size) rest

/-- Completes a directive at the end of a text. -/
def complete (text : List Char) (d : FilterDirective) :
    DirectivePart → Except FilterError FilterDirective
  | .name =>
    match LogLevel.ofText? text with
    | some level => .ok { d with level }
    | none => .ok { d with target := some text }
  | .closed => .ok d
  | .level a => do
    let t ← sliceFrom text a
    if t.isEmpty then .ok d
    else
      match LogLevel.ofText? t with
      | some level => .ok { d with level }
      | none => .error .unknownLevel
  | .start | .span _ | .field _ | .fields => .error .malformed

/-- The directive that a text stands for. -/
def ofText (text : List Char) : Except FilterError FilterDirective := do
  let (d, part) ← scanAll text {} .start 0 (Blank.trim text)
  complete text d part

end FilterDirective

/-- The directives of a log filter, of which the text gives a comma-separated list. Empty pieces
are left out, and the first faulty piece counts. -/
def FilterDirective.listOfText (s : String) : Except FilterError (List FilterDirective) :=
  ((Pieces.split ',' s.toList).filter fun p ↦ !p.isEmpty).mapM FilterDirective.ofText

namespace FilterError

/-- The character of a text that a byte offset falls into, with the offset at which it begins. -/
def characterAt? (offset : Nat) : Nat → List Char → Option (Char × Nat)
  | _, [] => none
  | i, c :: r =>
    if offset < i + c.utf8Size then some (c, i) else characterAt? offset (i + c.utf8Size) r

/-- As much of a text as fits into 256 bytes, and a sign that something is missing. -/
def excerpt (text : List Char) : String :=
  let rec go (room : Nat) : List Char → List Char
    | [] => []
    | c :: r => if c.utf8Size ≤ room then c :: go (room - c.utf8Size) r else []
  let shown := go 256 text
  String.ofList shown ++ if shown.length < text.length then "[...]" else ""

/-- The wording of a fault. -/
def message : FilterError → String
  | malformed => "invalid filter directive"
  | unknownLevel =>
    "error parsing level filter: expected one of \"off\", \"error\", \"warn\", \"info\", "
      ++ "\"debug\", \"trace\", or a number 0-5"
  | splitsCharacter offset text =>
    match characterAt? offset 0 text with
    | none => "byte index " ++ toString offset ++ " is out of bounds of `" ++ excerpt text ++ "`"
    | some (c, i) =>
      "byte index " ++ toString offset ++ " is not a char boundary; it is inside '"
        ++ String.ofList [c] ++ "' (bytes " ++ toString i ++ ".." ++ toString (i + c.utf8Size)
        ++ ") of `" ++ excerpt text ++ "`"

end FilterError

end BoundedPipelining
