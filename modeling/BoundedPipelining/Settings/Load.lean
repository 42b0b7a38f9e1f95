import BoundedPipelining.Settings.Decode
import BoundedPipelining.Settings.Validation
import BoundedPipelining.Toml.Document

/-!
# Loading a configuration

A configuration is text, read as a document, decoded into settings and checked; only settings that
break no rule are handed out. The text may come from a file, which has to be there and to hold text.
-/

namespace BoundedPipelining

/-- Why a file could not be read. -/
inductive FileError where
  | missing
  | directory
  /-- The content is not text. -/
  | notText
  deriving DecidableEq

/-- Why a configuration was refused. -/
inductive LoadError where
  | file (e : FileError)
  /-- The text is not a document. -/
  | notDocument
  | shape (e : ShapeError)
  | invalid (errors : List ValidationError)
  /-- A check would have had to cut a text inside a character. -/
  | cut (c : CutCharacter)
  deriving DecidableEq

/-- What is found at the path of a configuration. -/
inductive FileContent where
  | missing
  | directory
  | bytes (content : ByteArray)

/-- The wording of what is wrong with a file. -/
def FileError.message : FileError → String
  | missing => "No such file or directory (os error 2)"
  | directory => "Is a directory (os error 21)"
  | notText => "stream did not contain valid UTF-8"

/-- The wording of a refusal, except that of a text that is not a document. -/
def LoadError.message? : LoadError → Option String
  | file e => some ("IO error: " ++ e.message)
  | notDocument => none
  | shape e => some e.message
  | invalid errors =>
    some ("Validation failed: " ++ ", ".intercalate (errors.map ValidationError.message))
  | cut c => some c.message

/-- The name of the kind of a refusal; a cut inside a character has none. -/
def LoadError.name? : LoadError → Option String
  | file _ => some "Io"
  | notDocument | shape _ => some "Parse"
  | invalid _ => some "Validation"
  | cut _ => none

namespace Settings

/-- Settings that break no rule. -/
def checked (s : Settings) : Except LoadError Settings :=
  match s.validate with
  | .ok [] => .ok s
  | .ok errors => .error (.invalid errors)
  | .error c => .error (.cut c)

/-- The settings that a configuration text gives. -/
def ofText (text : String) : Except LoadError Settings :=
  match Toml.read? text with
  | none => .error .notDocument
  | some t =>
    match ofTable t with
    | .error e => .error (.shape e)
    | .ok s => s.checked

/-- The settings that a configuration file gives. -/
def ofFile : FileContent → Except LoadError Settings
  | .missing => .error (.file .missing)
  | .directory => .error (.file .directory)
  | .bytes content =>
    match String.fromUTF8? content with
    | none => .error (.file .notText)
    | some text => ofText text

end Settings

end BoundedPipelining
