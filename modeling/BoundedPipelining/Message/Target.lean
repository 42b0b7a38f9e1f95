/-!
# Request targets

A request names what it asks for by a target in one of four forms: the asterisk, a path from the
root, an authority alone, or an absolute address with a scheme. `Target.normal?` accepts exactly
the well-formed targets and answers with the text under which the target travels: the fragment is
dropped, the two web schemes are written in lower case and an empty path after an authority
becomes a slash.
-/

namespace BoundedPipelining

namespace Target

/-- The most bytes a target may have. -/
def maxLength : Nat := 65534

/-- The most characters a scheme may have. -/
def maxSchemeLength : Nat := 64

/-- The most colons an authority may show in a row of its parts. -/
def maxColons : Nat := 8

/-! ## Path and query -/

/-- Whether a character may stand in a path as it is. -/
def isPathChar (c : Char) : Bool :=
  let n := c.toNat
  n == 0x21 || n == 0x22 || (0x24 ≤ n && n ≤ 0x3b) || n == 0x3d || (0x40 ≤ n && n ≤ 0x5f)
    || 0x61 ≤ n

/-- Whether a character may stand in a query as it is. -/
def isQueryChar (c : Char) : Bool :=
  let n := c.toNat
  n == 0x21 || (0x24 ≤ n && n ≤ 0x3b) || n == 0x3d || 0x3f ≤ n

/-- A path with its query, if it has one. -/
structure PathAndQuery where
  path : List Char
  query : Option (List Char)

/-- Reads a path and a query, up to the fragment. -/
def readPath? (s : List Char) : Option PathAndQuery :=
  let path := s.takeWhile fun c ↦ c != '?' && c != '#'
  if path.all isPathChar then
    match s.drop path.length with
    | '?' :: rest =>
      let query := rest.takeWhile (· != '#')
      if query.all isQueryChar then some ⟨path, some query⟩ else none
    | _ => some ⟨path, none⟩
  else none

/-- The text of a path and a query; an empty path is written as a slash. -/
def PathAndQuery.text (p : PathAndQuery) : List Char :=
  (if p.path.isEmpty then ['/'] else p.path)
    ++ match p.query with
      | none => []
      | some q => '?' :: q

/-! ## Authority -/

/-- What a scan of an authority keeps in mind. -/
structure Scan where
  colons : Nat := 0
  bracketOpened : Bool := false
  bracketClosed : Bool := false
  percent : Bool := false
  /-- Whether the character before was the sign between user and host. -/
  endsAtSign : Bool := false

/-- Whether a character may stand in an authority without a meaning of its own. -/
def isPlainAuthorityChar (c : Char) : Bool :=
  c.isAlphanum || "!$&'()*+,-.;=_~".toList.contains c

/-- Scans one character of an authority. -/
def Scan.step (s : Scan) (c : Char) : Option Scan :=
  let s' := { s with endsAtSign := c == '@' }
  if c == ':' then
    if s.colons ≥ maxColons then none else some { s' with colons := s.colons + 1 }
  else if c == '[' then
    if s.percent || s.bracketOpened then none else some { s' with bracketOpened := true }
  else if c == ']' then
    if !s.bracketOpened || s.bracketClosed then none
    else some { s' with bracketClosed := true, colons := 0, percent := false }
  else if c == '@' then some { s' with colons := 0, percent := false }
  else if c == '%' then some { s' with percent := true }
  else if isPlainAuthorityChar c then some s'
  else none

/-- Whether a scanned authority is complete: its brackets match, at most one colon is left for the
number of the service, and no percent sign and no empty host remain. -/
def Scan.isComplete (s : Scan) : Bool :=
  s.bracketOpened == s.bracketClosed && s.colons ≤ 1 && !s.endsAtSign && !s.percent

/-- Splits a text after its authority, absent if the authority is malformed. -/
def splitAuthority? (s : List Char) : Option (List Char × List Char) :=
  let authority := s.takeWhile fun c ↦ c != '/' && c != '?' && c != '#'
  match authority.foldlM Scan.step {} with
  | some scan => if scan.isComplete then some (authority, s.drop authority.length) else none
  | none => none

/-! ## Scheme -/

/-- Whether a character may stand in a scheme. -/
def isSchemeChar (c : Char) : Bool :=
  c.isAlphanum || c == '+' || c == '-' || c == '.'

/-- What a target starts with. -/
inductive SchemePart where
  | none
  | scheme (name rest : List Char)
  | tooLong

/-- Splits a scheme off a target. -/
def splitScheme (s : List Char) : SchemePart :=
  let name := s.takeWhile isSchemeChar
  match s.drop name.length with
  | ':' :: '/' :: '/' :: rest =>
    let lower := name.map Char.toLower
    if lower == "http".toList || lower == "https".toList then .scheme lower rest
    else if name.length > maxSchemeLength then .tooLong
    else if s.length > 3 then .scheme name rest
    else .none
  | _ => .none

/-! ## The whole target -/

/-- The number of bytes of a text. -/
def byteLength (s : List Char) : Nat :=
  s.foldr (fun c n ↦ c.utf8Size + n) 0

/-- The normal text of a target that is neither a path nor the asterisk. -/
def normalFull? (s : List Char) : Option (List Char) :=
  match splitScheme s with
  | .tooLong => none
  | .none =>
    match splitAuthority? s with
    | some (authority, []) => some authority
    | _ => none
  | .scheme name rest =>
    match splitAuthority? rest with
    | some (authority, rest) =>
      if authority.isEmpty then none
      else (readPath? rest).map fun p ↦ name ++ "://".toList ++ authority ++ p.text
    | none => none

/-- The normal text of a target, absent if the target is malformed. -/
def normal? (target : String) : Option String :=
  let s := target.toList
  if byteLength s > maxLength then none
  else match s with
    | [] => none
    | ['*'] => some "*"
    | '/' :: _ => (readPath? s).map fun p ↦ String.ofList p.text
    | _ => (normalFull? s).map String.ofList

end Target

end BoundedPipelining
