import BoundedPipelining.Text.Pieces

/-!
# Response heads

A response head is a status and a list of fields in the order they were appended. A field's name
is a non-empty token and its value is a run of bytes; a value whose bytes are all tabs or printable
ASCII is text.

`Head.wantsClose` says whether the head asks for the connection not to be reused: some field called
`connection`, in any letter case, has a text value one of whose comma-separated elements is the
word `close`, in any letter case.
-/

namespace BoundedPipelining

/-- Bytes of a body or of a field value. -/
abbrev Bytes := List UInt8

/-- The characters of a token: letters, digits and fifteen marks. -/
def isTokenChar (c : Char) : Bool :=
  c.isAlphanum || "!#$%&'*+-.^_`|~".toList.contains c

/-- Whether a text is a non-empty token. -/
def isToken (s : String) : Bool :=
  !s.isEmpty && s.toList.all isTokenChar

/-- One field of a head. -/
structure Field where
  name : String
  value : Bytes
  deriving DecidableEq

namespace Field

/-- Whether a byte may stand in a text value: a tab or printable ASCII. -/
def isTextByte (b : UInt8) : Bool :=
  b == 9 || (0x20 ≤ b && b ≤ 0x7e)

/-- The text of a value, absent if a byte of it is not text. -/
def text? (f : Field) : Option (List Char) :=
  if f.value.all isTextByte then some (f.value.map fun b ↦ Char.ofNat b.toNat) else none

/-- Whether a byte may stand in a value at all: any but the controls other than tab. -/
def isValueByte (b : UInt8) : Bool :=
  b == 9 || (0x20 ≤ b && b != 0x7f)

/-- The bytes of a value given by characters up to U+00FF, one byte each. -/
def valueBytes? (s : String) : Option Bytes :=
  if s.toList.all fun c ↦ c.toNat ≤ 0xff && isValueByte (UInt8.ofNat c.toNat) then
    some (s.toList.map fun c ↦ UInt8.ofNat c.toNat)
  else none

end Field

/-- A response head. -/
structure Head where
  status : Nat := 200
  fields : List Field := []
  deriving DecidableEq

/-- What can be wrong with the parts of a head. -/
inductive HeadError where
  | invalidStatus
  | invalidName
  | invalidValue
  deriving DecidableEq

/-- The name of a fault of a head. -/
def HeadError.name : HeadError → String
  | invalidStatus => "InvalidStatusCode"
  | invalidName => "InvalidHeaderName"
  | invalidValue => "InvalidHeaderValue"

/-- Spaces and tabs, which surround list elements. -/
def isPadding (c : Char) : Bool := c == ' ' || c == '\t'

/-- A text without the spaces and tabs around it. -/
def stripPadding (s : List Char) : List Char :=
  ((s.dropWhile isPadding).reverse.dropWhile isPadding).reverse

namespace Head

/-- The field of a name and a value, or what is wrong with it; the name is looked at first. -/
def field? (name value : String) : Except HeadError Field :=
  if isToken name then
    match Field.valueBytes? value with
    | some bytes => .ok ⟨name, bytes⟩
    | none => .error .invalidValue
  else .error .invalidName

/-- The head of a status and of fields, or the first fault in them. -/
def ofParts? (status : Int) (fields : List (String × String)) : Except HeadError Head :=
  if 100 ≤ status ∧ status ≤ 999 then
    (fields.mapM fun f ↦ field? f.1 f.2).map fun fields ↦ ⟨status.toNat, fields⟩
  else .error .invalidStatus

/-- The values of the fields called `connection`, in order. -/
def connectionFields (h : Head) : List Field :=
  h.fields.filter fun f ↦ f.name.toLower == "connection"

/-- Whether a text value lists the word `close`. -/
def listsClose (text : List Char) : Bool :=
  (Pieces.split ',' text).any fun e ↦ (stripPadding e).map Char.toLower == "close".toList

/-- Whether the head asks for the connection not to be reused. -/
def wantsClose (h : Head) : Bool :=
  h.connectionFields.any fun f ↦ f.text?.any listsClose

/-- The values of the `connection` fields, a character for each byte. -/
def connectionValues (h : Head) : List String :=
  h.connectionFields.map fun f ↦ String.ofList (f.value.map fun b ↦ Char.ofNat b.toNat)

end Head

end BoundedPipelining
