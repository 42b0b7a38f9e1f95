import BoundedPipelining.Proofs.Toml.DistinctKeys
import BoundedPipelining.Settings.Decode

/-!
# What a document gives

Settings are decoded by going through a document in its order, with settings in hand that start as
the defaults and change from entry to entry. `Settings.GivenBy` says what comes of it, one setting
at a time and without an order: a setting is what stands for it in the document, and its default if
nothing does.

## From the fold to the settings

A group of settings is a record, and each of its parts is decoded and put in place by itself. That
the parts do not meddle with each other is the whole of what has to be known about a record
(`Part.Lawful`), and with distinct keys a fold over a table then gives each part what is found under
its name (`Part.fromTable_eq_ok_iff`). It is used for the two groups and for the two of them
together. A group that is written as an array is the table of its values under the names of the
settings in their order.
-/

namespace BoundedPipelining

open Toml (Value Table)

/-! ## Values -/

namespace Toml.Value

/-- A whole number that is not below zero is a count. -/
inductive IsCount : Value → Nat → Prop
  | integer (n : Nat) : IsCount (.integer n) n

/-- A string is a text. -/
inductive IsText : Value → String → Prop
  | text (s : String) : IsText (.text s) s

/-- A truth value is a flag. -/
inductive IsFlag : Value → Bool → Prop
  | boolean (b : Bool) : IsFlag (.boolean b) b

/-- Brackets or braces with nothing in between. -/
inductive IsEmpty : Value → Prop
  | table (o : Origin) : IsEmpty (.table o [])
  | array : IsEmpty (.array [])
  | tables : IsEmpty (.tables [])

/-- A choice is given by what it is written as, in a string or as the only key of a table. -/
inductive IsChoice {α : Type} (text : α → String) : Value → α → Prop
  | word (a : α) : IsChoice text (.text (text a)) a
  | key (o : Origin) (a : α) {v : Value} (h : v.IsEmpty) : IsChoice text (.table o [(text a, v)]) a

/-- A value that a group of settings can be given as. -/
inductive IsGroup : Value → Prop
  | table (o : Origin) (t : Table) : IsGroup (.table o t)
  | array (vs : List Value) : IsGroup (.array vs)
  | tables (ts : List Table) : IsGroup (.tables ts)
  | moment (m : Moment) : IsGroup (.moment m)

/-- What stands in a group for one of its settings: the value under its name in a table, and the
value at its position in an array. -/
def member? (name : String) (position : Nat) : Value → Option Value
  | .table _ t => Table.get? t name
  | .array vs => vs[position]?
  | .tables ts => ts[position]?.map (.table .stated)
  | _ => none

variable {v : Value}

theorem decodeCount_eq_ok_iff {n : Nat} : decodeCount v = .ok n ↔ v.IsCount n := by
  constructor
  · intro h
    cases v with
    | integer m =>
      rw [decodeCount] at h
      split at h
      · cases h
      · rename_i hsign
        cases h
        rw [← Int.toNat_of_nonneg (Int.not_lt.mp hsign), Int.toNat_natCast]
        exact .integer _
    | _ => cases h
  · rintro ⟨⟩
    rw [decodeCount, if_neg (Int.not_lt.mpr (Int.natCast_nonneg n)), Int.toNat_natCast]

theorem decodeText_eq_ok_iff {s : String} : decodeText v = .ok s ↔ v.IsText s := by
  constructor
  · intro h
    cases v with
    | text s' =>
      cases h
      exact .text s
    | _ => cases h
  · rintro ⟨⟩
    rfl

theorem decodeFlag_eq_ok_iff {b : Bool} : decodeFlag v = .ok b ↔ v.IsFlag b := by
  constructor
  · intro h
    cases v with
    | boolean b' =>
      cases h
      exact .boolean b
    | _ => cases h
  · rintro ⟨⟩
    rfl

theorem checkEmpty_eq_ok_iff : checkEmpty v = .ok () ↔ v.IsEmpty := by
  constructor
  · intro h
    cases v with
    | table o t =>
      cases t with
      | nil => exact .table o
      | cons _ _ => cases h
    | array vs =>
      cases vs with
      | nil => exact .array
      | cons _ _ => cases h
    | tables ts =>
      cases ts with
      | nil => exact .tables
      | cons _ _ => cases h
    | _ => cases h
  · rintro (_ | _ | _) <;> rfl

section Choice

variable {α : Type} {choices : List (String × α)} {text : α → String}

theorem choose_eq_ok_iff {name : String} {a : α} :
    choose choices name = .ok a ↔ choices.lookup name = some a := by
  rw [choose]
  split
  · rename_i hlookup
    rw [hlookup, Except.ok.injEq, Option.some.injEq]
  · rename_i hlookup
    rw [hlookup]
    exact iff_of_false nofun nofun

theorem decodeChoice_eq_ok_iff
    (hchoices : ∀ name a, choices.lookup name = some a ↔ name = text a) {a : α} :
    decodeChoice choices v = .ok a ↔ v.IsChoice text a := by
  constructor
  · intro h
    rw [decodeChoice.eq_def] at h
    split at h
    · obtain rfl := (hchoices _ _).mp (choose_eq_ok_iff.mp h)
      exact .word a
    · cases h
    · rename_i o name v'
      cases hname : choose choices name with
      | error e =>
        rw [hname] at h
        cases h
      | ok a' =>
        rw [hname] at h
        cases hempty : checkEmpty v' with
        | error e =>
          simp only [hempty, bind, Except.bind] at h
          cases h
        | ok u =>
          simp only [hempty, bind, Except.bind] at h
          cases h
          obtain rfl := (hchoices _ _).mp (choose_eq_ok_iff.mp hname)
          exact .key o a (checkEmpty_eq_ok_iff.mp hempty)
    · cases h
    · cases h
  · intro h
    cases h with
    | word =>
      rw [decodeChoice, choose_eq_ok_iff]
      exact (hchoices _ _).mpr rfl
    | key o _ hempty =>
      rw [decodeChoice, choose_eq_ok_iff.mpr ((hchoices _ a).mpr rfl)]
      simp only [checkEmpty_eq_ok_iff.mpr hempty, bind, Except.bind]

end Choice

end Toml.Value

theorem ClosingPolicy.lookup_choices (name : String) (p : ClosingPolicy) :
    choices.lookup name = some p ↔ name = p.text := by
  cases p <;> simp [choices, text, List.lookup_cons] <;> grind

theorem LogFormat.lookup_choices (name : String) (f : LogFormat) :
    choices.lookup name = some f ↔ name = f.text := by
  cases f <;> simp [choices, text, List.lookup_cons] <;> grind

/-- What is read off the value that stands for a setting, or the default if none does. -/
def ReadOr {α : Type} (Reads : Value → α → Prop) (default : α) : Option Value → α → Prop
  | none, a => a = default
  | some v, a => Reads v a

/-! ## Groups -/

/-- A part of a group of settings, with how it is decoded and put in place. -/
structure Part (σ : Type) where
  {α : Type}
  name : String
  decode : Value → Except ShapeError α
  put : σ → α → σ
  get : σ → α

namespace Part

variable {σ : Type} {parts : List (Part σ)} {p q : Part σ} {s s' defaults : σ} {t : Table}

/-- The setting that a part is. -/
def setting (p : Part σ) : Setting σ :=
  .of p.name p.decode p.put

/-- A record has parts with different names that do not meddle with each other, and no others. -/
structure Lawful (parts : List (Part σ)) : Prop where
  nodup : (parts.map Part.name).Nodup
  get_put : ∀ p ∈ parts, ∀ s a, p.get (p.put s a) = a
  get_put_of_ne : ∀ p ∈ parts, ∀ q ∈ parts, p.name ≠ q.name → ∀ s a, p.get (q.put s a) = p.get s
  ext : ∀ s s', (∀ p ∈ parts, p.get s = p.get s') → s = s'

/-- The part is what its value is decoded to, or the default. -/
def Given (p : Part σ) (defaults : σ) (given : Option Value) (s : σ) : Prop :=
  ReadOr (fun v a ↦ p.decode v = .ok a) (p.get defaults) given (p.get s)

theorem set_eq_ok_iff {v : Value} :
    p.setting.set s v = .ok s' ↔ ∃ a, p.decode v = .ok a ∧ p.put s a = s' := by
  show (p.decode v).map (p.put s) = .ok s' ↔ _
  cases p.decode v with
  | error e => exact iff_of_false nofun nofun
  | ok a => simp [Except.map]

/-- An entry of a table, on settings in hand. -/
def take (parts : List (Part σ)) (s : σ) (e : String × Value) : Except ShapeError σ :=
  match (parts.map setting).find? fun x ↦ x.name == e.1 with
  | some x => x.set s e.2
  | none => .ok s

theorem fromTable_cons {e : String × Value} :
    Setting.fromTable (parts.map setting) defaults (e :: t) =
      (take parts defaults e).bind fun s ↦ Setting.fromTable (parts.map setting) s t := rfl

theorem fromTable_cons_eq_ok_iff {e : String × Value} :
    Setting.fromTable (parts.map setting) defaults (e :: t) = .ok s' ↔
      ∃ s, take parts defaults e = .ok s ∧ Setting.fromTable (parts.map setting) s t = .ok s' := by
  rw [fromTable_cons]
  cases take parts defaults e with
  | error e => exact iff_of_false nofun fun ⟨_, h, _⟩ ↦ nomatch h
  | ok s => simp [Except.bind]

theorem find?_setting (hnodup : (parts.map Part.name).Nodup) (hp : p ∈ parts) :
    (parts.map setting).find? (fun x ↦ x.name == p.name) = some p.setting := by
  induction parts with
  | nil => exact absurd hp List.not_mem_nil
  | cons q parts ih =>
    rw [List.map_cons, List.nodup_cons] at hnodup
    rw [List.map_cons]
    rcases List.mem_cons.mp hp with rfl | hp
    · exact List.find?_cons_of_pos (beq_iff_eq.mpr rfl)
    · have hne : q.name ≠ p.name := fun heq ↦ hnodup.1 (heq ▸ List.mem_map_of_mem hp)
      have hskip : (q.setting.name == p.name) = false := beq_eq_false_iff_ne.mpr hne
      rw [List.find?_cons, hskip]
      exact ih hnodup.2 hp

/-- An entry changes nothing if it names no part, and else the part that it names. -/
theorem take_eq_ok_iff (hl : Lawful parts) {e : String × Value} :
    take parts s e = .ok s' ↔ (e.1 ∉ parts.map Part.name ∧ s = s') ∨
      ∃ p ∈ parts, p.name = e.1 ∧ ∃ a, p.decode e.2 = .ok a ∧ p.put s a = s' := by
  by_cases hnamed : e.1 ∈ parts.map Part.name
  · obtain ⟨p, hp, hname⟩ := List.mem_map.mp hnamed
    rw [take, ← hname, find?_setting hl.nodup hp]
    refine Iff.trans set_eq_ok_iff ⟨fun h ↦ .inr ⟨p, hp, rfl, h⟩, ?_⟩
    rintro (⟨hnot, -⟩ | ⟨q, hq, hqp, h⟩)
    · exact absurd (List.mem_map_of_mem hp) hnot
    · obtain rfl := List.inj_on_of_nodup_map hl.nodup hq hp hqp
      exact h
  · have hnone : (parts.map setting).find? (fun x ↦ x.name == e.1) = none := by
      rw [List.find?_eq_none]
      rintro x hx heq
      obtain ⟨p, hp, rfl⟩ := List.mem_map.mp hx
      exact hnamed (beq_iff_eq.mp heq ▸ List.mem_map_of_mem hp)
    rw [take, hnone, Except.ok.injEq]
    refine ⟨fun h ↦ .inl ⟨hnamed, h⟩, ?_⟩
    rintro (⟨-, h⟩ | ⟨p, hp, hname, -⟩)
    · exact h
    · exact absurd (hname ▸ List.mem_map_of_mem hp) hnamed

/-- Along a table with distinct keys, the entry under its name decides a part, and no other does. -/
theorem given_of_fromTable (hl : Lawful parts) (hkeys : (t.map Prod.fst).Nodup)
    (h : Setting.fromTable (parts.map setting) defaults t = .ok s) (hp : p ∈ parts) :
    p.Given defaults (Table.get? t p.name) s := by
  induction t generalizing defaults with
  | nil =>
    cases h
    rfl
  | cons e t ih =>
    rw [List.map_cons, List.nodup_cons] at hkeys
    -- The settings after this entry are what the rest of the table starts from.
    obtain ⟨s', htake, h⟩ := fromTable_cons_eq_ok_iff.mp h
    have hrest : p.Given s' (Table.get? t p.name) s := ih hkeys.2 h
    rw [Table.get?_cons]
    rcases (take_eq_ok_iff hl).mp htake with ⟨hunnamed, rfl⟩ | ⟨q, hq, hname, a, hdecode, rfl⟩
    · have hne : p.name ≠ e.1 := fun heq ↦ hunnamed (heq ▸ List.mem_map_of_mem hp)
      rw [if_neg hne]
      exact hrest
    · by_cases heq : p.name = e.1
      · -- The part itself is set, and its name does not come again.
        obtain rfl := List.inj_on_of_nodup_map hl.nodup hq hp (hname.trans heq.symm)
        rw [Table.get?_eq_none_iff.mpr (heq ▸ hkeys.1)] at hrest
        rw [if_pos heq]
        have hget : q.get s = a := hrest.trans (hl.get_put q hp defaults a)
        exact hdecode.trans (congrArg Except.ok hget.symm)
      · rw [if_neg heq]
        rwa [Given, hl.get_put_of_ne p hp q hq (fun hpq ↦ heq (hpq.trans hname))] at hrest

/-- Where every entry that names a part can be decoded, so can the table. -/
theorem exists_fromTable (hl : Lawful parts)
    (h : ∀ p ∈ parts, ∀ v, (p.name, v) ∈ t → ∃ a, p.decode v = .ok a) :
    ∃ s, Setting.fromTable (parts.map setting) defaults t = .ok s := by
  induction t generalizing defaults with
  | nil => exact ⟨defaults, rfl⟩
  | cons e t ih =>
    have htake : ∃ s, take parts defaults e = .ok s := by
      by_cases hnamed : e.1 ∈ parts.map Part.name
      · obtain ⟨p, hp, hname⟩ := List.mem_map.mp hnamed
        obtain ⟨a, ha⟩ := h p hp e.2 (hname ▸ List.mem_cons_self)
        exact ⟨p.put defaults a, (take_eq_ok_iff hl).mpr (.inr ⟨p, hp, hname, a, ha, rfl⟩)⟩
      · exact ⟨defaults, (take_eq_ok_iff hl).mpr (.inl ⟨hnamed, rfl⟩)⟩
    obtain ⟨s, hs⟩ := htake
    have hrest : ∃ s', Setting.fromTable (parts.map setting) s t = .ok s' :=
      ih fun p hp v hv ↦ h p hp v (List.mem_cons_of_mem e hv)
    obtain ⟨s', hs'⟩ := hrest
    exact ⟨s', fromTable_cons_eq_ok_iff.mpr ⟨s, hs, hs'⟩⟩

/-- A part is decided by what is given. -/
theorem Given.get_eq {given : Option Value} (h : p.Given defaults given s)
    (h' : p.Given defaults given s') : p.get s = p.get s' := by
  cases given with
  | none => exact h.trans h'.symm
  | some v => exact Except.ok.inj (h.symm.trans h')

theorem fromTable_eq_ok_iff (hl : Lawful parts) (hkeys : (t.map Prod.fst).Nodup) :
    Setting.fromTable (parts.map setting) defaults t = .ok s ↔
      ∀ p ∈ parts, p.Given defaults (Table.get? t p.name) s := by
  constructor
  · intro h p hp
    exact given_of_fromTable hl hkeys h hp
  · intro h
    have hdecodes : ∀ p ∈ parts, ∀ v, (p.name, v) ∈ t → ∃ a, p.decode v = .ok a := by
      intro p hp v hv
      have hgiven := h p hp
      rw [Table.get?_of_mem hkeys hv] at hgiven
      exact ⟨p.get s, hgiven⟩
    have htable : ∃ s', Setting.fromTable (parts.map setting) defaults t = .ok s' :=
      exists_fromTable hl hdecodes
    obtain ⟨s', hs'⟩ := htable
    -- What the table is decoded to has the same parts.
    have heq : s' = s := hl.ext s' s fun p hp ↦
      (given_of_fromTable hl hkeys hs' hp).get_eq (h p hp)
    rw [hs', heq]

/-! ### Arrays -/

private theorem foldlM_zip (hl : Lawful parts) {ps : List (Part σ)} (hps : ps ⊆ parts)
    (vs : List Value) (s : σ) :
    ((ps.map setting).zip vs).foldlM (fun s (x, v) ↦ x.set s v) s =
      ((ps.map Part.name).zip vs).foldlM (take parts) s := by
  induction ps generalizing vs s with
  | nil => rfl
  | cons p ps ih =>
    cases vs with
    | nil => rfl
    | cons v vs =>
      rw [List.cons_subset] at hps
      have htake : take parts s (p.name, v) = p.setting.set s v := by
        rw [take, find?_setting hl.nodup hps.1]
      rw [List.map_cons, List.map_cons, List.zip_cons_cons, List.zip_cons_cons, List.foldlM_cons,
        List.foldlM_cons, htake]
      exact bind_congr fun s' ↦ ih hps.2 vs s'

/-- An array is the table of its values under the names in their order. -/
theorem fromList_eq_fromTable (hl : Lawful parts) (vs : List Value) :
    Setting.fromList (parts.map setting) defaults vs =
      Setting.fromTable (parts.map setting) defaults ((parts.map Part.name).zip vs) :=
  foldlM_zip hl (List.Subset.refl parts) vs defaults

end Part

theorem Toml.Table.get?_zip {names : List String} (hnames : names.Nodup) {vs : List Value} {i : Nat}
    {name : String} (hi : names[i]? = some name) : get? (names.zip vs) name = vs[i]? := by
  induction names generalizing vs i with
  | nil => cases hi
  | cons n names ih =>
    rw [List.nodup_cons] at hnames
    cases vs with
    | nil => rfl
    | cons v vs =>
      rw [List.zip_cons_cons, get?_cons]
      cases i with
      | zero =>
        rw [List.getElem?_cons_zero, Option.some.injEq] at hi
        rw [if_pos hi.symm, List.getElem?_cons_zero]
      | succ i =>
        rw [List.getElem?_cons_succ] at hi
        have hne : name ≠ n := fun heq ↦ hnames.1 (heq ▸ List.mem_of_getElem? hi)
        rw [if_neg hne, List.getElem?_cons_succ]
        exact ih hnames.2 hi

theorem Toml.Table.nodup_zip {names : List String} (hnames : names.Nodup) (vs : List Value) :
    ((names.zip vs).map Prod.fst).Nodup := by
  induction names generalizing vs with
  | nil => exact List.nodup_nil
  | cons n names ih =>
    rw [List.nodup_cons] at hnames
    cases vs with
    | nil => exact List.nodup_nil
    | cons v vs =>
      rw [List.zip_cons_cons, List.map_cons, List.nodup_cons]
      refine ⟨fun hn ↦ hnames.1 ?_, ih hnames.2 vs⟩
      obtain ⟨e, he, rfl⟩ := List.mem_map.mp hn
      exact (List.of_mem_zip he).1

namespace Part

variable {σ : Type} {parts : List (Part σ)} {s defaults : σ} {v : Value}

theorem forall_mem_iff_getElem? {α : Type*} {l : List α} {P : α → Prop} :
    (∀ a ∈ l, P a) ↔ ∀ (i : Nat) (a : α), l[i]? = some a → P a := by
  constructor
  · intro h i a hi
    exact h a (List.mem_of_getElem? hi)
  · intro h a ha
    obtain ⟨i, hi⟩ := List.mem_iff_getElem?.mp ha
    exact h i a hi

theorem forall_getElem?_cons {α : Type*} {a : α} {l : List α} {P : Nat → α → Prop} :
    (∀ i b, (a :: l)[i]? = some b → P i b) ↔ P 0 a ∧ ∀ i b, l[i]? = some b → P (i + 1) b := by
  constructor
  · intro h
    exact ⟨h 0 a rfl, fun i b hb ↦ h (i + 1) b hb⟩
  · rintro ⟨hzero, hsucc⟩ i b hb
    cases i with
    | zero =>
      cases hb
      exact hzero
    | succ i => exact hsucc i b hb

/-- A group is taken from an array value by value. -/
theorem fromList_eq_ok_iff (hl : Lawful parts) {vs : List Value} :
    Setting.fromList (parts.map setting) defaults vs = .ok s ↔
      ∀ (i : Nat) (p : Part σ), parts[i]? = some p → p.Given defaults vs[i]? s := by
  rw [fromList_eq_fromTable hl, fromTable_eq_ok_iff hl (Table.nodup_zip hl.nodup vs),
    forall_mem_iff_getElem?]
  refine forall₃_congr fun i p hi ↦ ?_
  have hname : (parts.map Part.name)[i]? = some p.name := by
    rw [List.getElem?_map, hi, Option.map_some]
  rw [Table.get?_zip hl.nodup hname]

/-- A group gives a part what stands in it for the part. -/
theorem group_eq_ok_iff (hl : Lawful parts) {label : String} (hv : v.Keyed) :
    Setting.group label (parts.map setting) defaults v = .ok s ↔
      v.IsGroup ∧ ∀ (i : Nat) (p : Part σ), parts[i]? = some p →
        p.Given defaults (v.member? p.name i) s := by
  cases v with
  | table o t =>
    rw [and_iff_right (.table o t)]
    exact (fromTable_eq_ok_iff hl (Toml.Value.keyed_table.mp hv).nodup).trans
      forall_mem_iff_getElem?
  | array vs =>
    rw [and_iff_right (.array vs)]
    exact fromList_eq_ok_iff hl
  | tables ts =>
    rw [and_iff_right (.tables ts), Setting.group, fromList_eq_ok_iff hl]
    simp only [Toml.Value.member?, List.getElem?_map]
  | moment m =>
    rw [and_iff_right (.moment m), Setting.group, Except.ok.injEq]
    constructor
    · rintro rfl i p -
      rfl
    · intro h
      exact hl.ext _ _ fun p hp ↦ (forall_mem_iff_getElem?.mpr h p hp).symm
  | text _ | integer _ | float _ | boolean _ => exact iff_of_false nofun fun ⟨h, _⟩ ↦ nomatch h

end Part

/-! ## The settings -/

/-- The parts of the settings of a connection. -/
def ConnectionSettings.parts : List (Part ConnectionSettings) :=
  [{ name := "max_pipelined_requests", decode := decodeCount, get := maxPipelined,
     put := fun s n ↦ { s with maxPipelined := n } },
    { name := "closing_policy", decode := decodeChoice ClosingPolicy.choices, get := closingPolicy,
      put := fun s p ↦ { s with closingPolicy := p } }]

/-- The parts of the settings of logs and metrics. -/
def ObservabilitySettings.parts : List (Part ObservabilitySettings) :=
  [{ name := "log_level", decode := decodeText, get := logLevel,
     put := fun s t ↦ { s with logLevel := t } },
    { name := "log_format", decode := decodeChoice LogFormat.choices, get := logFormat,
      put := fun s f ↦ { s with logFormat := f } },
    { name := "metrics_enabled", decode := decodeFlag, get := metricsEnabled,
      put := fun s b ↦ { s with metricsEnabled := b } },
    { name := "metrics_address", decode := decodeText, get := metricsAddress,
      put := fun s t ↦ { s with metricsAddress := t } }]

/-- The two groups as parts of the settings. -/
def Settings.parts : List (Part Settings) :=
  [{ name := "connection", get := connection, put := fun s c ↦ { s with connection := c },
     decode := Setting.group "ConnectionConfig" ConnectionSettings.settings {} },
    { name := "observability", get := observability, put := fun s o ↦ { s with observability := o },
      decode := Setting.group "ObservabilityConfig" ObservabilitySettings.settings {} }]

theorem ConnectionSettings.lawful : Part.Lawful parts where
  nodup := by decide
  get_put := by simp [parts]
  get_put_of_ne := by simp [parts]
  ext := by
    rintro ⟨_, _⟩ ⟨_, _⟩ h
    simpa [parts] using h

theorem ObservabilitySettings.lawful : Part.Lawful parts where
  nodup := by decide
  get_put := by simp [parts]
  get_put_of_ne := by simp [parts]
  ext := by
    rintro ⟨_, _, _, _⟩ ⟨_, _, _, _⟩ h
    simpa [parts] using h

theorem Settings.lawful : Part.Lawful parts where
  nodup := by decide
  get_put := by simp [parts]
  get_put_of_ne := by simp [parts]
  ext := by
    rintro ⟨_, _⟩ ⟨_, _⟩ h
    simpa [parts] using h

theorem ConnectionSettings.group_eq_ok_iff {v : Value} {c : ConnectionSettings} (hv : v.Keyed) :
    Setting.group "ConnectionConfig" settings {} v = .ok c ↔ v.IsGroup ∧
      ReadOr Value.IsCount 1 (v.member? "max_pipelined_requests" 0) c.maxPipelined ∧
      ReadOr (Value.IsChoice ClosingPolicy.text) .accept (v.member? "closing_policy" 1)
        c.closingPolicy := by
  refine (Part.group_eq_ok_iff lawful hv).trans (and_congr_right fun _ ↦ ?_)
  simp only [parts, Part.forall_getElem?_cons, Part.Given, Value.decodeCount_eq_ok_iff,
    Value.decodeChoice_eq_ok_iff ClosingPolicy.lookup_choices]
  simp

theorem ObservabilitySettings.group_eq_ok_iff {v : Value} {o : ObservabilitySettings}
    (hv : v.Keyed) :
    Setting.group "ObservabilityConfig" settings {} v = .ok o ↔ v.IsGroup ∧
      ReadOr Value.IsText "pipeline_conn=info" (v.member? "log_level" 0) o.logLevel ∧
      ReadOr (Value.IsChoice LogFormat.text) .pretty (v.member? "log_format" 1) o.logFormat ∧
      ReadOr Value.IsFlag false (v.member? "metrics_enabled" 2) o.metricsEnabled ∧
      ReadOr Value.IsText "127.0.0.1:9090" (v.member? "metrics_address" 3) o.metricsAddress := by
  refine (Part.group_eq_ok_iff lawful hv).trans (and_congr_right fun _ ↦ ?_)
  simp only [parts, Part.forall_getElem?_cons, Part.Given, Value.decodeText_eq_ok_iff,
    Value.decodeFlag_eq_ok_iff, Value.decodeChoice_eq_ok_iff LogFormat.lookup_choices]
  simp

/-- What stands in a document for a setting of a group. -/
def Toml.Table.member? (t : Table) (group name : String) (position : Nat) : Option Value :=
  (t.get? group).bind (Value.member? name position)

/-- What a document gives: each of its groups is one, and each setting is what stands for it, or its
default. -/
structure Settings.GivenBy (s : Settings) (t : Table) : Prop where
  isGroup : ∀ group ∈ ["connection", "observability"], ∀ v ∈ t.get? group, v.IsGroup
  maxPipelined : ReadOr Value.IsCount 1
    (t.member? "connection" "max_pipelined_requests" 0) s.connection.maxPipelined
  closingPolicy : ReadOr (Value.IsChoice ClosingPolicy.text) .accept
    (t.member? "connection" "closing_policy" 1) s.connection.closingPolicy
  logLevel : ReadOr Value.IsText "pipeline_conn=info"
    (t.member? "observability" "log_level" 0) s.observability.logLevel
  logFormat : ReadOr (Value.IsChoice LogFormat.text) .pretty
    (t.member? "observability" "log_format" 1) s.observability.logFormat
  metricsEnabled : ReadOr Value.IsFlag false
    (t.member? "observability" "metrics_enabled" 2) s.observability.metricsEnabled
  metricsAddress : ReadOr Value.IsText "127.0.0.1:9090"
    (t.member? "observability" "metrics_address" 3) s.observability.metricsAddress

section Decoding

variable {t : Table}

theorem ConnectionSettings.readOr_iff (ht : t.Keyed) {c : ConnectionSettings} :
    ReadOr (fun v c ↦ Setting.group "ConnectionConfig" settings {} v = .ok c) {}
        (t.get? "connection") c ↔
      (∀ v ∈ t.get? "connection", v.IsGroup) ∧
      ReadOr Value.IsCount 1 (t.member? "connection" "max_pipelined_requests" 0) c.maxPipelined ∧
      ReadOr (Value.IsChoice ClosingPolicy.text) .accept
        (t.member? "connection" "closing_policy" 1) c.closingPolicy := by
  cases hget : t.get? "connection" with
  | none =>
    obtain ⟨_, _⟩ := c
    simp [ReadOr, Table.member?, hget]
  | some v =>
    simp only [Table.member?, hget, Option.bind_some, Option.mem_some, forall_eq']
    exact group_eq_ok_iff (ht.get? hget)

theorem ObservabilitySettings.readOr_iff (ht : t.Keyed) {o : ObservabilitySettings} :
    ReadOr (fun v o ↦ Setting.group "ObservabilityConfig" settings {} v = .ok o) {}
        (t.get? "observability") o ↔
      (∀ v ∈ t.get? "observability", v.IsGroup) ∧
      ReadOr Value.IsText "pipeline_conn=info" (t.member? "observability" "log_level" 0)
        o.logLevel ∧
      ReadOr (Value.IsChoice LogFormat.text) .pretty
        (t.member? "observability" "log_format" 1) o.logFormat ∧
      ReadOr Value.IsFlag false (t.member? "observability" "metrics_enabled" 2) o.metricsEnabled ∧
      ReadOr Value.IsText "127.0.0.1:9090"
        (t.member? "observability" "metrics_address" 3) o.metricsAddress := by
  cases hget : t.get? "observability" with
  | none =>
    obtain ⟨_, _, _, _⟩ := o
    simp [ReadOr, Table.member?, hget]
  | some v =>
    simp only [Table.member?, hget, Option.bind_some, Option.mem_some, forall_eq']
    exact group_eq_ok_iff (ht.get? hget)

/-- **Decoding.** A document is decoded to what it gives. -/
theorem Settings.ofTable_eq_ok_iff {s : Settings} (ht : t.Keyed) :
    ofTable t = .ok s ↔ s.GivenBy t := by
  have hparts : ofTable t = .ok s ↔ ∀ p ∈ parts, p.Given {} (t.get? p.name) s :=
    Part.fromTable_eq_ok_iff lawful ht.nodup
  have hgroups : (∀ p ∈ parts, p.Given {} (t.get? p.name) s) ↔
      ReadOr
        (fun v c ↦ Setting.group "ConnectionConfig" ConnectionSettings.settings {} v = .ok c) {}
        (t.get? "connection") s.connection ∧
      ReadOr
        (fun v o ↦ Setting.group "ObservabilityConfig" ObservabilitySettings.settings {} v = .ok o)
        {} (t.get? "observability") s.observability := by
    rw [parts, List.forall_mem_cons, List.forall_mem_singleton]
    rfl
  rw [hparts, hgroups, ConnectionSettings.readOr_iff ht, ObservabilitySettings.readOr_iff ht]
  constructor
  · rintro ⟨⟨hconnection, hmax, hpolicy⟩, hobservability, hlevel, hformat, henabled, haddress⟩
    have hisGroup : ∀ group ∈ ["connection", "observability"], ∀ v ∈ t.get? group, v.IsGroup := by
      rw [List.forall_mem_cons, List.forall_mem_singleton]
      exact ⟨hconnection, hobservability⟩
    exact ⟨hisGroup, hmax, hpolicy, hlevel, hformat, henabled, haddress⟩
  · rintro ⟨hisGroup, hmax, hpolicy, hlevel, hformat, henabled, haddress⟩
    rw [List.forall_mem_cons, List.forall_mem_singleton] at hisGroup
    exact ⟨⟨hisGroup.1, hmax, hpolicy⟩, hisGroup.2, hlevel, hformat, henabled, haddress⟩

end Decoding

end BoundedPipelining
