/-!
# Reading from the front of a text

A reader takes what it reads off the front of a text, and answers with it and the rest of the text,
or refuses. This module has the parts of the notation that carry no value: the blanks within a line,
the ends of lines, comments, and the gaps between the items of an array.
-/

namespace BoundedPipelining

namespace Toml

/-- Reads something off the front of a text. -/
abbrev Reader (α : Type) := List Char → Option (α × List Char)

/-- The blanks that may stand within a line. -/
def isSpace (c : Char) : Bool :=
  c = ' ' || c = '\t'

/-- The characters of comments and strings: all but the control characters of ASCII, of which the
tab alone is allowed. -/
def isPrintable (c : Char) : Bool :=
  c = '\t' || (0x20 ≤ c.toNat && c.toNat != 0x7f)

/-- A text without the blanks in front of it. -/
def skipSpaces (s : List Char) : List Char :=
  s.dropWhile isSpace

/-- What follows the end of a line that stands in front of a text. -/
def newline? : List Char → Option (List Char)
  | '\n' :: r => some r
  | '\r' :: '\n' :: r => some r
  | _ => none

/-- A text without the comment in front of it, up to the end of that line. -/
def skipComment : List Char → List Char
  | '#' :: r => r.dropWhile isPrintable
  | s => s

/-- What follows a line of which only blanks and a comment are left. The last line needs no end. -/
def lineEnd? (s : List Char) : Option (List Char) :=
  match skipComment (skipSpaces s) with
  | [] => some []
  | s => newline? s

/-- Whether the carriage return before a text begins an end of line. -/
def endsLine : List Char → Bool
  | '\n' :: _ => true
  | _ => false

/-- A text without the blanks, ends of lines and comments in front of it. `comment` says that the
text starts inside a comment. -/
def skipGap (comment : Bool) : List Char → List Char
  | [] => []
  | c :: r =>
    if c = '\n' then skipGap false r
    else if c = '\r' && endsLine r then skipGap false r
    else if comment && isPrintable c then skipGap true r
    else if !comment && isSpace c then skipGap false r
    else if !comment && c = '#' then skipGap true r
    else c :: r

end Toml

end BoundedPipelining
