import BoundedPipelining.Toml.Assembly
import BoundedPipelining.Toml.Text

/-!
# Reading a document

The grammar above strings, numbers and moments: keys and paths, arrays, tables between braces, and
the lines of a document. `read?` answers with the document's table, or with nothing if the text is
not a document.

Arrays and braces nest at most 79 deep and a path has at most 79 keys, so both bounds are the
measures by which the readers recurse.
-/

namespace BoundedPipelining

namespace Toml

/-- How deep arrays and braces may nest, and how many keys a path may have. -/
def nestingLimit : Nat := 79

/-- Whether a character may stand in a key without quotes. -/
def isKeyChar (c : Char) : Bool :=
  c.isAlphanum || c = '-' || c = '_'

/-- Reads one key. -/
def key : Reader String
  | '"' :: r => shortText ('"' :: r)
  | '\'' :: r => shortText ('\'' :: r)
  | s =>
    let k := s.takeWhile isKeyChar
    if k.isEmpty then none else some (String.ofList k, s.drop k.length)

/-- Reads a path of at most `n` keys with dots between them, and the blanks around it. -/
def keys : Nat → Reader (List String)
  | 0, _ => none
  | n + 1, s => do
    let (k, s) ← key (skipSpaces s)
    match skipSpaces s with
    | '.' :: r => (keys n r).map fun (ks, rest) ↦ (k :: ks, rest)
    | s => some ([k], s)

/-- Reads a dotted path, split into the way and the last key. -/
def path : Reader (List String × String) := fun s ↦ do
  let (ks, s) ← keys nestingLimit s
  let k ← ks.getLast?
  some ((ks.dropLast, k), s)

/-- Reads a pair, given how values are read. -/
def pair (value : Reader Value) : Reader Pair := fun s ↦ do
  let ((path, key), s) ← path s
  let s ← mark '=' s
  let (value, s) ← value (skipSpaces s)
  some ({ path, key, value }, s)

/-- Reads the items that are left of an array and its closing bracket. Each of at most `n` rounds
takes a part off the text. -/
def items (value : Reader Value) : Nat → Reader (List Value)
  | 0, _ => none
  | n + 1, s =>
    match skipGap false s with
    | ']' :: r => some ([], r)
    | s => do
      let (v, s) ← value s
      match skipGap false s with
      | ',' :: r => (items value n r).map fun (vs, rest) ↦ (v :: vs, rest)
      | ']' :: r => some ([v], r)
      | _ => none

/-- Reads the pairs that are left between braces and the closing brace, at least one. -/
def pairs (value : Reader Value) : Nat → Reader (List Pair)
  | 0, _ => none
  | n + 1, s => do
    let (p, s) ← pair value s
    match skipSpaces s with
    | ',' :: r => (pairs value n r).map fun (ps, rest) ↦ (p :: ps, rest)
    | '\x7d' :: r => some ([p], r)
    | _ => none

/-- Reads a table of which the opening brace has been read. -/
def braces (value : Reader Value) : Reader Value := fun s ↦ do
  let (ps, rest) ←
    match skipSpaces s with
    | '\x7d' :: r => some ([], r)
    | s => pairs value s.length s
  let t ← Table.addPairs .braces [] ps
  some (.table .braces t, rest)

/-- Reads a value that is neither an array nor a table. -/
def simpleValue : Reader Value
  | 't' :: 'r' :: 'u' :: 'e' :: r => some (.boolean true, r)
  | 'f' :: 'a' :: 'l' :: 's' :: 'e' :: r => some (.boolean false, r)
  | '"' :: r => (text ('"' :: r)).map fun (s, rest) ↦ (.text s, rest)
  | '\'' :: r => (text ('\'' :: r)).map fun (s, rest) ↦ (.text s, rest)
  | s =>
    if startsDate s || startsTime s then (moment s).map fun (m, rest) ↦ (.moment m, rest)
    else
      (number s).map fun (n, rest) ↦
        match n with
        | .integer n => (.integer n, rest)
        | .float x => (.float x, rest)

/-- Reads a value in which arrays and braces nest at most `n` deep. -/
def value : Nat → Reader Value
  | 0, '[' :: _ | 0, '\x7b' :: _ => none
  | n + 1, '[' :: r => (items (value n) r.length r).map fun (vs, rest) ↦ (.array vs, rest)
  | n + 1, '\x7b' :: r => braces (value n) r
  | _, s => simpleValue s

/-- Reads a header of which the opening brackets have been read. -/
def header (repeated : Bool) : Reader Header := fun s ↦ do
  let ((path, key), s) ← path s
  let s ← mark ']' s
  let s ← if repeated then mark ']' s else some s
  some ({ path, key, repeated }, s)

/-- What a line of a document holds. -/
inductive Line where
  | header (h : Header)
  | pair (p : Pair)
  | blank

/-- Reads what a line holds. -/
def lineContent : Reader Line := fun s ↦
  match skipSpaces s with
  | '[' :: '[' :: r => (header true r).map fun (h, rest) ↦ (.header h, rest)
  | '[' :: r => (header false r).map fun (h, rest) ↦ (.header h, rest)
  | [] => some (.blank, [])
  | c :: r =>
    if c = '#' ∨ c = '\n' ∨ c = '\r' then some (.blank, c :: r)
    else (pair (value nestingLimit) (c :: r)).map fun (p, rest) ↦ (.pair p, rest)

/-- Reads at most `n` lines, up to the end of the text. -/
def lines : Nat → List Char → Option (List Line)
  | _, [] => some []
  | 0, _ => none
  | n + 1, s => do
    let (l, s) ← lineContent s
    let s ← lineEnd? s
    (lines n s).map (l :: ·)

/-- The sections of lines after a header, and in front of them the pairs that no header precedes. -/
def sections : List Line → List Pair × List Section
  | [] => ([], [])
  | .blank :: ls => sections ls
  | .pair p :: ls => let (ps, rest) := sections ls; (p :: ps, rest)
  | .header h :: ls => let (ps, rest) := sections ls; ([], ⟨h, ps⟩ :: rest)

/-- The table of a document, if the text is one. A byte order mark in front of it is left out. -/
def read? (s : String) : Option Table := do
  let s := match s.toList with
    | '\ufeff' :: r => r
    | s => s
  let ls ← lines s.length s
  let (ps, rest) := sections ls
  Table.ofSections ps rest

end Toml

end BoundedPipelining
