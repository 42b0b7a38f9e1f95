import BoundedPipelining.Decimal.Shortest
import BoundedPipelining.Settings.Basic
import BoundedPipelining.Text.Quoted
import BoundedPipelining.Toml.Value

/-!
# Settings from a document

A group of settings is given as a table, or as an array of its settings in their order. Keys that
name no setting are left out, and settings that are not given keep their defaults. The first value
of a wrong kind, in the order of the document, is reported.

A choice between names is given as a string, or as a table whose one key is the name and whose value
is empty.
-/

namespace BoundedPipelining

open Toml (Value Table FloatValue)

/-- The kinds of thing a setting can be. -/
inductive Wanted where
  | count
  | text
  | flag
  /-- A group of settings, by its name. -/
  | group (name : String)
  deriving DecidableEq

/-- The kinds of value a document can have in place of what was wanted. -/
inductive Given where
  | integer (n : Int)
  | float (x : FloatValue)
  | boolean (b : Bool)
  | text (s : String)
  | sequence
  | map
  deriving DecidableEq

/-- Why a value does not fit where it stands. -/
inductive ShapeError where
  | wrongType (given : Given) (wanted : Wanted)
  /-- A count below zero. -/
  | negative (n : Int)
  /-- A name that is none of those to choose from. -/
  | unknownChoice (name : String) (choices : List String)
  /-- Something other than a string or a table in place of a choice. -/
  | noChoice
  /-- A table without a key in place of a choice. -/
  | emptyChoice
  /-- A table with several keys in place of a choice. -/
  | severalChoices
  /-- Something below the name of a choice, where an empty table, or an empty array, is due. -/
  | choiceNotEmpty (tables : Bool)
  /-- A value below the name of a choice that is no table, by its kind. -/
  | choiceNotTable (kind : String)
  deriving DecidableEq

/-! ## Wording -/

/-- A floating-point number written out by position, with a fraction even if it is whole. -/
def Toml.FloatValue.text : FloatValue → String
  | notANumber => "NaN"
  | signed negative magnitude =>
    (if negative then "-" else "") ++
      match magnitude with
      | .infinite => "inf"
      | .finite m q =>
        if m = 0 then "0.0"
        else
          let d := Decimal.shortest m q
          if 0 ≤ d.exponent then d.text ++ ".0" else d.text

/-- The wording of what was wanted. -/
def Wanted.message : Wanted → String
  | count => "usize"
  | text => "a string"
  | flag => "a boolean"
  | group name => "struct " ++ name

/-- The wording of what was given. -/
def Given.message : Given → String
  | integer n => "integer `" ++ toString n ++ "`"
  | float x => "floating point `" ++ x.text ++ "`"
  | boolean b => "boolean `" ++ toString b ++ "`"
  | text s => "string " ++ Quoted.encode s
  | sequence => "sequence"
  | map => "map"

/-- Names in backquotes, with a word between them. -/
def ShapeError.alternatives (names : List String) : String :=
  " or ".intercalate (names.map fun n ↦ "`" ++ n ++ "`")

/-- The wording of a misfit. -/
def ShapeError.message : ShapeError → String
  | wrongType given wanted => "invalid type: " ++ given.message ++ ", expected " ++ wanted.message
  | negative n =>
    "invalid value: " ++ (Given.integer n).message ++ ", expected " ++ Wanted.count.message
  | unknownChoice name choices =>
    "unknown variant `" ++ name ++ "`, expected " ++ alternatives choices
  | noChoice => "wanted string or table"
  | emptyChoice => "wanted exactly 1 element, found 0 elements"
  | severalChoices => "wanted exactly 1 element, more than 1 element"
  | choiceNotEmpty tables => if tables then "expected empty array" else "expected empty table"
  | choiceNotTable kind => "expected table, found " ++ kind

/-! ## Single values -/

/-- The kind of a value. -/
def Given.ofValue : Value → Given
  | .integer n => .integer n
  | .float x => .float x
  | .boolean b => .boolean b
  | .text s => .text s
  | .array _ | .tables _ => .sequence
  | .table _ _ | .moment _ => .map

/-- A value of the wrong kind. -/
def Wanted.refuse {α : Type} (w : Wanted) (v : Value) : Except ShapeError α :=
  .error (.wrongType (.ofValue v) w)

/-- A count. -/
def decodeCount : Value → Except ShapeError Nat
  | .integer n => if n < 0 then .error (.negative n) else .ok n.toNat
  | v => Wanted.count.refuse v

/-- A string. -/
def decodeText : Value → Except ShapeError String
  | .text s => .ok s
  | v => Wanted.text.refuse v

/-- A truth value. -/
def decodeFlag : Value → Except ShapeError Bool
  | .boolean b => .ok b
  | v => Wanted.flag.refuse v

/-- Checks that a value below the name of a choice holds nothing. -/
def checkEmpty : Value → Except ShapeError Unit
  | .table _ entries => if entries.isEmpty then .ok () else .error (.choiceNotEmpty false)
  | .array items => if items.isEmpty then .ok () else .error (.choiceNotEmpty false)
  | .tables items => if items.isEmpty then .ok () else .error (.choiceNotEmpty true)
  | .integer _ => .error (.choiceNotTable "integer")
  | .float _ => .error (.choiceNotTable "float")
  | .boolean _ => .error (.choiceNotTable "boolean")
  | .text _ => .error (.choiceNotTable "string")
  | .moment _ => .error (.choiceNotTable "datetime")

/-- The choice with a name. -/
def choose {α : Type} (choices : List (String × α)) (name : String) : Except ShapeError α :=
  match choices.lookup name with
  | some a => .ok a
  | none => .error (.unknownChoice name (choices.map Prod.fst))

/-- A choice between names. -/
def decodeChoice {α : Type} (choices : List (String × α)) : Value → Except ShapeError α
  | .text name => choose choices name
  | .table _ [] => .error .emptyChoice
  | .table _ [(name, v)] => do
    let a ← choose choices name
    checkEmpty v
    .ok a
  | .table _ _ => .error .severalChoices
  | _ => .error .noChoice

/-! ## Groups -/

/-- A setting of a group: its name, and how a value changes it. -/
structure Setting (σ : Type) where
  name : String
  set : σ → Value → Except ShapeError σ

namespace Setting

variable {σ α : Type}

/-- The setting that is decoded and then put in place. -/
def of (name : String) (decode : Value → Except ShapeError α) (put : σ → α → σ) : Setting σ where
  name := name
  set s v := (decode v).map (put s)

/-- Takes the settings of a group from a table. -/
def fromTable (settings : List (Setting σ)) (defaults : σ) (t : Table) : Except ShapeError σ :=
  t.foldlM (fun s (k, v) ↦
    match settings.find? fun x ↦ x.name == k with
    | some x => x.set s v
    | none => .ok s) defaults

/-- Takes the settings of a group from values in their order. -/
def fromList (settings : List (Setting σ)) (defaults : σ) (vs : List Value) :
    Except ShapeError σ :=
  (settings.zip vs).foldlM (fun s (x, v) ↦ x.set s v) defaults

/-- Takes the settings of a group from a value. A moment counts as a table without any of them. -/
def group (name : String) (settings : List (Setting σ)) (defaults : σ) :
    Value → Except ShapeError σ
  | .table _ t => fromTable settings defaults t
  | .array vs => fromList settings defaults vs
  | .tables ts => fromList settings defaults (ts.map (.table .stated))
  | .moment _ => .ok defaults
  | v => (Wanted.group name).refuse v

end Setting

/-- The names of the policies. -/
def ClosingPolicy.choices : List (String × ClosingPolicy) :=
  [accept, reject].map fun p ↦ (p.text, p)

/-- The names of the log formats. -/
def LogFormat.choices : List (String × LogFormat) :=
  [pretty, json].map fun f ↦ (f.text, f)

/-- The settings of a connection by name. -/
def ConnectionSettings.settings : List (Setting ConnectionSettings) :=
  [.of "max_pipelined_requests" decodeCount fun s n ↦ { s with maxPipelined := n },
    .of "closing_policy" (decodeChoice ClosingPolicy.choices)
      fun s p ↦ { s with closingPolicy := p }]

/-- The settings of logs and metrics by name. -/
def ObservabilitySettings.settings : List (Setting ObservabilitySettings) :=
  [.of "log_level" decodeText fun s t ↦ { s with logLevel := t },
    .of "log_format" (decodeChoice LogFormat.choices) fun s f ↦ { s with logFormat := f },
    .of "metrics_enabled" decodeFlag fun s b ↦ { s with metricsEnabled := b },
    .of "metrics_address" decodeText fun s t ↦ { s with metricsAddress := t }]

namespace Settings

/-- The two groups of settings by name. -/
def groups : List (Setting Settings) :=
  [.of "connection" (Setting.group "ConnectionConfig" ConnectionSettings.settings {})
      fun s c ↦ { s with connection := c },
    .of "observability"
      (Setting.group "ObservabilityConfig" ObservabilitySettings.settings {})
      fun s o ↦ { s with observability := o }]

/-- The settings that a document gives. -/
def ofTable (t : Table) : Except ShapeError Settings :=
  Setting.fromTable groups {} t

end Settings

end BoundedPipelining
