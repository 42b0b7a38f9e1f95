/-!
# Indented JSON

Values are written as blocks of lines: each field of an object and each item of an array begins a
line of its own, two blanks further in, and an empty object or array stays on one line.
-/

namespace BoundedPipelining

namespace Json

/-- The lines of a value. -/
abbrev Block := List String

/-- The written form of a character in a string. -/
def escape (c : Char) : List Char :=
  if c = '"' then ['\\', '"']
  else if c = '\\' then ['\\', '\\']
  else if c = '\n' then ['\\', 'n']
  else if c = '\r' then ['\\', 'r']
  else if c = '\t' then ['\\', 't']
  else if c.toNat = 8 then ['\\', 'b']
  else if c.toNat = 12 then ['\\', 'f']
  else if c.toNat < 0x20 then
    ['\\', 'u', '0', '0', (c.toNat / 16).digitChar, (c.toNat % 16).digitChar]
  else [c]

/-- A text between quotes. -/
def quoted (s : String) : String :=
  String.ofList ('"' :: s.toList.flatMap escape ++ ['"'])

/-- A string. -/
def text (s : String) : Block :=
  [quoted s]

/-- A whole number. -/
def number (n : Nat) : Block :=
  [toString n]

/-- A block with a comma at its end. -/
def withComma : Block → Block
  | [] => []
  | [line] => [line ++ ","]
  | line :: more => line :: withComma more

/-- Blocks one after the other, with commas between them. -/
def commaList : List Block → Block
  | [] => []
  | [b] => b
  | b :: more => withComma b ++ commaList more

/-- Blocks between an opening and a closing bracket. -/
def enclosed (left right : String) (parts : List Block) : Block :=
  if parts.isEmpty then [left ++ right]
  else left :: ((commaList parts).map fun line ↦ "  " ++ line) ++ [right]

/-- A field of an object. -/
def named (name : String) : Block → Block
  | [] => []
  | line :: more => (quoted name ++ ": " ++ line) :: more

/-- An object, its fields in the order given. -/
def object (fields : List (String × Block)) : Block :=
  enclosed "\x7b" "\x7d" (fields.map fun (name, b) ↦ named name b)

/-- An array. -/
def array (items : List Block) : Block :=
  enclosed "[" "]" items

/-- The text of a block. -/
def render (b : Block) : String :=
  "\n".intercalate b

end Json

end BoundedPipelining
