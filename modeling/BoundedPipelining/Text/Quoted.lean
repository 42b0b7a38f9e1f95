/-!
# Quoted text

How a piece of text is shown inside a diagnostic: between double quotes, with the quote, the
backslash and the control characters of ASCII escaped and everything else as it is.
-/

namespace BoundedPipelining

namespace Quoted

/-- A control character by its number, in lower-case hexadecimal between braces. -/
def hexEscape (c : Char) : List Char :=
  ['\\', 'u', '\x7b'] ++ Nat.toDigits 16 c.toNat ++ ['\x7d']

/-- The written form of one character: the quote and the backslash take a backslash, tab, line
feed, carriage return and nul have short names, and any other control is a `hexEscape`. -/
def escape (c : Char) : List Char :=
  if c = '"' then ['\\', '"']
  else if c = '\\' then ['\\', '\\']
  else if c = '\n' then ['\\', 'n']
  else if c = '\t' then ['\\', 't']
  else if c = '\r' then ['\\', 'r']
  else if c.toNat = 0 then ['\\', '0']
  else if c.toNat < 0x20 ∨ c.toNat = 0x7f then hexEscape c
  else [c]

/-- The quoted form of a text. -/
def encode (s : String) : String :=
  String.ofList ('"' :: s.toList.flatMap escape ++ ['"'])

end Quoted

end BoundedPipelining
