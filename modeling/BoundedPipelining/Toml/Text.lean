import BoundedPipelining.Text.Numeral
import BoundedPipelining.Toml.Scan

/-!
# Strings of a document

Strings come in four styles: between double quotes with escapes, or between single quotes as they
are, and each of these on one line or, between three quotes, on several. The body is read character
by character; a `Mode` remembers what an earlier character began.

On several lines an end of line counts as a line feed, one that directly follows the opening quotes
is left out, and a backslash at the end of a line swallows everything up to the next visible
character. Up to two quotes may stand in front of the closing three.
-/

namespace BoundedPipelining

namespace Toml

/-- How a string is written. -/
structure Style where
  quote : Char
  /-- Whether the string may go over several lines. -/
  lines : Bool
  /-- Whether a backslash begins an escape. -/
  escapes : Bool

/-- What an earlier character of the body began. -/
inductive Mode where
  | plain
  /-- A backslash. -/
  | escape
  /-- The number of a character, of which `left + 1` digits are missing. -/
  | code (left value : Nat)
  /-- A backslash at the end of a line. -/
  | folding

/-- What one character of the body amounts to. -/
inductive Turn where
  /-- The body goes on, by one character or none. -/
  | go (mode : Mode) (out : Option Char)
  /-- The body is over, after the last characters of the string. -/
  | finish (last rest : List Char)
  | refuse

/-- The character with a given number, unless the number is a surrogate or too large. -/
def scalar? (n : Nat) : Option Char :=
  if n < 0xd800 ∨ (0xdfff < n ∧ n < 0x110000) then some (Char.ofNat n) else none

/-- The character that a letter stands for after a backslash. -/
def short? : Char → Option Char
  | 'b' => some '\x08'
  | 't' => some '\t'
  | 'n' => some '\n'
  | 'f' => some '\x0c'
  | 'r' => some '\r'
  | '"' => some '"'
  | '\\' => some '\\'
  | _ => none

namespace Style

/-- A quote in the body, with what follows it. -/
def onQuote (style : Style) (rest : List Char) : Turn :=
  let more := (rest.takeWhile (· == style.quote)).length
  if !style.lines then .finish [] rest
  else if more < 2 then .go .plain (some style.quote)
  else
    let kept := min (more - 2) 2
    .finish (List.replicate kept style.quote) (rest.drop (2 + kept))

/-- A character of the body that no earlier character bears on. -/
def onPlain (style : Style) (c : Char) (rest : List Char) : Turn :=
  if c = style.quote then style.onQuote rest
  else if c = '\\' && style.escapes then
    if style.lines && (newline? (skipSpaces rest)).isSome then .go .folding none
    else .go .escape none
  else if style.lines && c = '\n' then .go .plain (some c)
  else if style.lines && c = '\r' && endsLine rest then .go .plain none
  else if isPrintable c then .go .plain (some c)
  else .refuse

/-- The character after a backslash. -/
def onEscape (c : Char) : Turn :=
  if c = 'u' then .go (.code 3 0) none
  else if c = 'U' then .go (.code 7 0) none
  else
    match short? c with
    | some d => .go .plain (some d)
    | none => .refuse

/-- A digit of the number of a character. -/
def onCode (left value : Nat) (c : Char) : Turn :=
  match Numeral.digit? 16 c with
  | none => .refuse
  | some d =>
    let value := 16 * value + d
    match left, scalar? value with
    | left + 1, _ => .go (.code left value) none
    | 0, some x => .go .plain (some x)
    | 0, none => .refuse

/-- One character of the body, with what follows it. -/
def turn (style : Style) (mode : Mode) (c : Char) (rest : List Char) : Turn :=
  match mode with
  | .plain => style.onPlain c rest
  | .escape => onEscape c
  | .code left value => onCode left value c
  | .folding =>
    if isSpace c || c = '\n' || (c = '\r' && endsLine rest) then .go .folding none
    else style.onPlain c rest

/-- Reads the body of a string and its closing quotes. -/
def body (style : Style) : Mode → Reader (List Char)
  | _, [] => none
  | mode, c :: r =>
    match style.turn mode c r with
    | .go mode out => (style.body mode r).map fun (s, rest) ↦ (out.toList ++ s, rest)
    | .finish last rest => some (last, rest)
    | .refuse => none

/-- Reads a string of this style of which the opening quotes have been read. -/
def read (style : Style) : Reader String := fun s ↦
  let s := if style.lines then (newline? s).getD s else s
  (style.body .plain s).map fun (s, rest) ↦ (String.ofList s, rest)

end Style

/-- Reads a string on one line, in either style. -/
def shortText : Reader String
  | '"' :: r => (⟨'"', false, true⟩ : Style).read r
  | '\'' :: r => (⟨'\'', false, false⟩ : Style).read r
  | _ => none

/-- Reads a string in any style. -/
def text : Reader String
  | '"' :: '"' :: '"' :: r => (⟨'"', true, true⟩ : Style).read r
  | '\'' :: '\'' :: '\'' :: r => (⟨'\'', true, false⟩ : Style).read r
  | s => shortText s

end Toml

end BoundedPipelining
