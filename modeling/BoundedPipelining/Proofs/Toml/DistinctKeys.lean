import BoundedPipelining.Toml.Document
import Mathlib.Data.List.Nodup

/-!
# Distinct keys

No table of a document has a key twice: not the document itself, and not a table anywhere inside of
it, whether it was made by headers, by dotted keys or between braces. So a key has one value,
wherever it stands, and a table is a map from keys to values with an order that nothing depends on.

Tables grow in three ways, by a key that was not there, by another value for a key that was, and by
a table that is taken out and put behind the others. Each of them keeps the keys distinct, and so
does a change further inside (`Table.Keyed.changeAt`). The readers bring in tables of their own,
those between braces, which are assembled in the same way.
-/

namespace BoundedPipelining

namespace Toml

/-- Every table in a value has distinct keys. -/
inductive Value.Keyed : Value → Prop
  | text (s : String) : Keyed (.text s)
  | integer (n : Int) : Keyed (.integer n)
  | float (x : FloatValue) : Keyed (.float x)
  | boolean (b : Bool) : Keyed (.boolean b)
  | moment (m : Moment) : Keyed (.moment m)
  | array {items : List Value} (h : ∀ v ∈ items, Keyed v) : Keyed (.array items)
  | table {o : Origin} {t : Table} (hkeys : (t.map Prod.fst).Nodup) (h : ∀ e ∈ t, Keyed e.2) :
      Keyed (.table o t)
  | tables {ts : List Table} (hkeys : ∀ t ∈ ts, (t.map Prod.fst).Nodup)
      (h : ∀ t ∈ ts, ∀ e ∈ t, Keyed e.2) : Keyed (.tables ts)

/-- A table with distinct keys, and with values in which every table has distinct keys. -/
structure Table.Keyed (t : Table) : Prop where
  nodup : (t.map Prod.fst).Nodup
  entries : ∀ e ∈ t, e.2.Keyed

theorem Value.keyed_table {o : Origin} {t : Table} : (Value.table o t).Keyed ↔ t.Keyed := by
  constructor
  · rintro (_ | _ | _ | _ | _ | _ | ⟨hkeys, h⟩)
    exact ⟨hkeys, h⟩
  · rintro ⟨hkeys, h⟩
    exact .table hkeys h

theorem Value.keyed_tables {ts : List Table} : (Value.tables ts).Keyed ↔ ∀ t ∈ ts, t.Keyed := by
  constructor
  · rintro (_ | _ | _ | _ | _ | _ | _ | ⟨hkeys, h⟩) t ht
    exact ⟨hkeys t ht, h t ht⟩
  · intro h
    exact .tables (fun t ht ↦ (h t ht).nodup) fun t ht ↦ (h t ht).entries

namespace Table

variable {t u : Table} {k k' : String} {v : Value}

/-! ## Keys and their values -/

theorem get?_cons (e : String × Value) :
    get? (e :: t) k = if k = e.1 then some e.2 else get? t k := by
  rw [get?, List.lookup_cons]
  by_cases hk : k = e.1
  · rw [if_pos hk, beq_iff_eq.mpr hk]
  · rw [if_neg hk, beq_eq_false_iff_ne.mpr hk, get?]

theorem get?_eq_none_iff : t.get? k = none ↔ k ∉ t.map Prod.fst := by
  rw [get?, List.lookup_eq_none_iff, List.mem_map, not_exists]
  refine forall_congr' fun e ↦ ?_
  rw [bne_iff_ne, not_and, ne_comm]

theorem mem_of_get? (h : t.get? k = some v) : (k, v) ∈ t := by
  obtain ⟨front, back, rfl, -⟩ := List.lookup_eq_some_iff.mp h
  exact List.mem_append_right front List.mem_cons_self

/-- With distinct keys, an entry is what is found under its key. -/
theorem get?_of_mem (hkeys : (t.map Prod.fst).Nodup) (h : (k, v) ∈ t) : t.get? k = some v := by
  obtain ⟨front, back, rfl⟩ := List.append_of_mem h
  rw [List.map_append, List.map_cons, List.nodup_append] at hkeys
  refine List.lookup_eq_some_iff.mpr ⟨front, back, rfl, fun e he ↦ ?_⟩
  rw [bne_iff_ne]
  exact (hkeys.2.2 e.1 (List.mem_map_of_mem he) k List.mem_cons_self).symm

theorem has_eq_false_iff : t.has k = false ↔ k ∉ t.map Prod.fst := by
  rw [has, Option.isSome_eq_false_iff, Option.isNone_iff_eq_none, get?_eq_none_iff]

/-! ## How tables grow -/

namespace Keyed

theorem nil : Keyed [] :=
  ⟨List.nodup_nil, fun _ he ↦ absurd he List.not_mem_nil⟩

theorem get? (ht : t.Keyed) (h : t.get? k = some v) : v.Keyed :=
  ht.entries (k, v) (mem_of_get? h)

theorem add (ht : t.Keyed) (hnew : t.get? k = none) (hv : v.Keyed) : (t.add k v).Keyed := by
  constructor
  · rw [Table.add, List.map_append, List.map_singleton]
    exact List.Nodup.append ht.nodup (List.nodup_singleton k)
      (List.disjoint_singleton.mpr (get?_eq_none_iff.mp hnew))
  · rw [Table.add, List.forall_mem_append, List.forall_mem_singleton]
    exact ⟨ht.entries, hv⟩

theorem replace (ht : t.Keyed) (hv : v.Keyed) : (t.replace k v).Keyed := by
  constructor
  · have hkeys : (t.replace k v).map Prod.fst = t.map Prod.fst := by
      rw [Table.replace, List.map_map]
      refine List.map_congr_left fun e _ ↦ ?_
      by_cases hk : e.1 = k
      · rw [Function.comp_apply, if_pos (beq_iff_eq.mpr hk), hk]
      · rw [Function.comp_apply, if_neg (mt beq_iff_eq.mp hk)]
    rw [hkeys]
    exact ht.nodup
  · intro e he
    obtain ⟨e', he', rfl⟩ := List.mem_map.mp he
    by_cases hk : e'.1 = k
    · rw [if_pos (beq_iff_eq.mpr hk)]
      exact hv
    · rw [if_neg (mt beq_iff_eq.mp hk)]
      exact ht.entries e' he'

theorem remove (ht : t.Keyed) : (t.remove k).Keyed where
  nodup := (List.filter_sublist.map Prod.fst).nodup ht.nodup
  entries e he := ht.entries e (List.mem_filter.mp he).1

end Keyed

theorem get?_remove : (t.remove k).get? k = none := by
  rw [get?_eq_none_iff, remove, List.mem_map]
  rintro ⟨e, he, rfl⟩
  exact (bne_iff_ne.mp (List.mem_filter.mp he).2) rfl

/-! ## Assembly -/

/-- What every step of a fold that may fail keeps, the whole fold keeps. -/
private theorem keyed_foldlM {α : Type} {f : Table → α → Option Table} {as : List α}
    (hstep : ∀ a ∈ as, ∀ t u : Table, t.Keyed → f t a = some u → u.Keyed) (ht : t.Keyed)
    (h : as.foldlM f t = some u) : u.Keyed := by
  induction as generalizing t with
  | nil =>
    cases h
    exact ht
  | cons a rest ih =>
    rw [List.foldlM_cons, Option.bind_eq_bind, Option.bind_eq_some_iff] at h
    obtain ⟨w, hw, hrest⟩ := h
    rw [List.forall_mem_cons] at hstep
    exact ih hstep.2 (hstep.1 t w ht hw) hrest

/-- A change that keeps the keys of the table at the end of a path distinct keeps them distinct on
the way. -/
theorem Keyed.changeAt {dotted : Bool} {change : Origin → Table → Option Table}
    (hchange : ∀ o t u, Table.Keyed t → change o t = some u → u.Keyed) {path : List String}
    {o : Origin} (ht : t.Keyed) (h : changeAt dotted change path o t = some u) : u.Keyed := by
  induction path generalizing o t u with
  | nil => exact hchange o t u ht h
  | cons k path ih =>
    rw [Table.changeAt] at h
    split at h
    -- The table on the way is new, or there already, or the last one of an array of tables.
    · rename_i hnew
      obtain ⟨w, hw, rfl⟩ := Option.map_eq_some_iff.mp h
      exact ht.add hnew (Value.keyed_table.mpr (ih .nil hw))
    · rename_i o' w hget
      split at h
      · cases h
      · obtain ⟨w', hw', rfl⟩ := Option.map_eq_some_iff.mp h
        exact ht.replace (Value.keyed_table.mpr (ih (Value.keyed_table.mp (ht.get? hget)) hw'))
    · rename_i items hget
      have hitems : ∀ w ∈ items, Table.Keyed w := Value.keyed_tables.mp (ht.get? hget)
      obtain ⟨w', hw', rfl⟩ := Option.map_eq_some_iff.mp h
      have hlast : Table.Keyed (items.getLast?.getD []) := by
        cases hitem : items.getLast? with
        | none => exact .nil
        | some w => exact hitems w (List.mem_of_getLast? hitem)
      refine ht.replace (Value.keyed_tables.mpr ?_)
      rw [List.forall_mem_append, List.forall_mem_singleton]
      exact ⟨fun w hw ↦ hitems w (List.dropLast_subset items hw), ih hlast hw'⟩
    · cases h

theorem Keyed.addPair {o : Origin} {p : Pair} (ht : t.Keyed) (hp : p.value.Keyed)
    (h : t.addPair o p = some u) : u.Keyed := by
  refine Keyed.changeAt ?_ ht h
  intro o t u ht hput
  rw [putAt] at hput
  split at hput
  · cases hput
  · rename_i hnew
    cases hput
    rw [Bool.or_eq_true, not_or, Bool.not_eq_true, Bool.not_eq_true, has_eq_false_iff] at hnew
    exact ht.add (get?_eq_none_iff.mpr hnew.2) hp

theorem Keyed.addPairs {o : Origin} {ps : List Pair} (ht : t.Keyed)
    (hps : ∀ p ∈ ps, p.value.Keyed) (h : addPairs o t ps = some u) : u.Keyed :=
  keyed_foldlM (fun p hp _ _ ht hadd ↦ ht.addPair (hps p hp) hadd) ht h

theorem Keyed.placeIn {s : Section} (ht : t.Keyed) (hs : ∀ p ∈ s.pairs, p.value.Keyed)
    (h : placeIn s t = some u) : u.Keyed := by
  rw [Table.placeIn] at h
  split at h
  · rw [Option.bind_eq_bind, Option.bind_eq_some_iff] at h
    obtain ⟨w, hw, h⟩ := h
    have hkeyed : w.Keyed := Keyed.nil.addPairs hs hw
    split at h
    · rename_i hnew
      cases h
      exact ht.add hnew (Value.keyed_tables.mpr (List.forall_mem_singleton.mpr hkeyed))
    · rename_i items hget
      cases h
      refine ht.replace (Value.keyed_tables.mpr ?_)
      rw [List.forall_mem_append, List.forall_mem_singleton]
      exact ⟨Value.keyed_tables.mp (ht.get? hget), hkeyed⟩
    · cases h
  · -- A table that was implied before goes on with what it has.
    have hstate (before : Table) (hbefore : before.Keyed)
        (h : ((Table.addPairs .stated before s.pairs).bind fun w ↦
          some ((t.remove s.header.key).add s.header.key (.table .stated w))) = some u) :
        u.Keyed := by
      obtain ⟨w, hw, h⟩ := Option.bind_eq_some_iff.mp h
      cases h
      exact ht.remove.add get?_remove (Value.keyed_table.mpr (hbefore.addPairs hs hw))
    dsimp only at h
    split at h
    · exact hstate [] .nil h
    · rename_i w hget
      exact hstate w (Value.keyed_table.mp (ht.get? hget)) h
    · cases h

theorem Keyed.ofSections {ps : List Pair} {ss : List Section} (hps : ∀ p ∈ ps, p.value.Keyed)
    (hss : ∀ s ∈ ss, ∀ p ∈ s.pairs, p.value.Keyed) (h : ofSections ps ss = some t) : t.Keyed := by
  rw [Table.ofSections, Option.bind_eq_bind, Option.bind_eq_some_iff] at h
  obtain ⟨w, hw, h⟩ := h
  refine keyed_foldlM ?_ (Keyed.nil.addPairs hps hw) h
  intro s hs t u ht hadd
  exact Keyed.changeAt (fun _ _ _ ht hplace ↦ ht.placeIn (hss s hs) hplace) ht hadd

end Table

/-! ## Readers -/

/-- Everything that a reader reads has a property. -/
def Reader.Yields {α : Type} (r : Reader α) (P : α → Prop) : Prop :=
  ∀ s a rest, r s = some (a, rest) → P a

theorem pair_yields {value : Reader Value} (hvalue : value.Yields Value.Keyed) :
    (pair value).Yields fun p ↦ p.value.Keyed := by
  intro s p rest h
  simp only [pair, Option.bind_eq_bind, Option.bind_eq_some_iff] at h
  obtain ⟨⟨⟨path, key⟩, s₁⟩, -, s₂, -, ⟨v, s₃⟩, hv, h⟩ := h
  cases h
  exact hvalue _ _ _ hv

theorem items_yields {value : Reader Value} (hvalue : value.Yields Value.Keyed) (n : Nat) :
    (items value n).Yields fun vs ↦ ∀ v ∈ vs, v.Keyed := by
  induction n with
  | zero =>
    intro s vs rest h
    cases h
  | succ n ih =>
    intro s vs rest h
    rw [items] at h
    split at h
    · cases h
      exact fun _ hv ↦ absurd hv List.not_mem_nil
    · rw [Option.bind_eq_bind, Option.bind_eq_some_iff] at h
      obtain ⟨⟨v, s'⟩, hv, h⟩ := h
      have hkeyed : v.Keyed := hvalue _ _ _ hv
      dsimp only at h
      split at h
      · obtain ⟨⟨vs', rest'⟩, hvs, hpair⟩ := Option.map_eq_some_iff.mp h
        cases hpair
        exact List.forall_mem_cons.mpr ⟨hkeyed, ih _ _ _ hvs⟩
      · cases h
        exact List.forall_mem_singleton.mpr hkeyed
      · cases h

theorem pairs_yields {value : Reader Value} (hvalue : value.Yields Value.Keyed) (n : Nat) :
    (pairs value n).Yields fun ps ↦ ∀ p ∈ ps, p.value.Keyed := by
  induction n with
  | zero =>
    intro s ps rest h
    cases h
  | succ n ih =>
    intro s ps rest h
    rw [pairs, Option.bind_eq_bind, Option.bind_eq_some_iff] at h
    obtain ⟨⟨p, s'⟩, hp, h⟩ := h
    have hkeyed : p.value.Keyed := pair_yields hvalue _ _ _ hp
    dsimp only at h
    split at h
    · obtain ⟨⟨ps', rest'⟩, hps, hpair⟩ := Option.map_eq_some_iff.mp h
      cases hpair
      exact List.forall_mem_cons.mpr ⟨hkeyed, ih _ _ _ hps⟩
    · cases h
      exact List.forall_mem_singleton.mpr hkeyed
    · cases h

theorem braces_yields {value : Reader Value} (hvalue : value.Yields Value.Keyed) :
    (braces value).Yields Value.Keyed := by
  have hassembled (ps : List Pair) (r : List Char) (v : Value) (rest : List Char)
      (hps : ∀ p ∈ ps, p.value.Keyed)
      (h : ((Table.addPairs .braces [] ps).bind fun t ↦ some (.table .braces t, r))
        = some (v, rest)) :
      v.Keyed := by
    obtain ⟨t, ht, h⟩ := Option.bind_eq_some_iff.mp h
    cases h
    exact Value.keyed_table.mpr (Table.Keyed.nil.addPairs hps ht)
  intro s v rest h
  rw [braces] at h
  dsimp only at h
  split at h
  · exact hassembled [] _ v rest (fun _ hp ↦ absurd hp List.not_mem_nil) h
  · obtain ⟨⟨ps, r⟩, hps, h⟩ := Option.bind_eq_some_iff.mp h
    exact hassembled ps r v rest (pairs_yields hvalue _ _ _ _ hps) h

theorem simpleValue_yields : Reader.Yields simpleValue Value.Keyed := by
  intro s v rest h
  rw [simpleValue.eq_def] at h
  split at h
  · cases h
    exact .boolean true
  · cases h
    exact .boolean false
  · obtain ⟨⟨text, rest'⟩, -, hpair⟩ := Option.map_eq_some_iff.mp h
    cases hpair
    exact .text text
  · obtain ⟨⟨text, rest'⟩, -, hpair⟩ := Option.map_eq_some_iff.mp h
    cases hpair
    exact .text text
  · split at h
    · obtain ⟨⟨m, rest'⟩, -, hpair⟩ := Option.map_eq_some_iff.mp h
      cases hpair
      exact .moment m
    · obtain ⟨⟨n, rest'⟩, -, hpair⟩ := Option.map_eq_some_iff.mp h
      cases n with
      | integer n =>
        cases hpair
        exact .integer n
      | float x =>
        cases hpair
        exact .float x

theorem value_yields (n : Nat) : (value n).Yields Value.Keyed := by
  induction n with
  | zero =>
    intro s v rest h
    rw [value.eq_def] at h
    split at h
    -- Nothing may nest here, so an array or a table is refused.
    · cases h
    · cases h
    · rename_i hzero
      cases hzero
    · rename_i hzero
      cases hzero
    · exact simpleValue_yields _ _ _ h
  | succ n ih =>
    intro s v rest h
    rw [value.eq_def] at h
    split at h
    · rename_i hzero
      cases hzero
    · rename_i hzero
      cases hzero
    · rename_i hn
      cases hn
      obtain ⟨⟨vs, rest'⟩, hvs, hpair⟩ := Option.map_eq_some_iff.mp h
      cases hpair
      exact .array (items_yields ih _ _ _ _ hvs)
    · rename_i hn
      cases hn
      exact braces_yields ih _ _ _ h
    · exact simpleValue_yields _ _ _ h

/-- The values in a line have distinct keys. -/
def Line.Keyed : Line → Prop
  | pair p => p.value.Keyed
  | header _ | blank => True

theorem lineContent_yields : Reader.Yields lineContent Line.Keyed := by
  intro s l rest h
  rw [lineContent.eq_def] at h
  split at h
  · obtain ⟨⟨hd, rest'⟩, -, hpair⟩ := Option.map_eq_some_iff.mp h
    cases hpair
    trivial
  · obtain ⟨⟨hd, rest'⟩, -, hpair⟩ := Option.map_eq_some_iff.mp h
    cases hpair
    trivial
  · cases h
    trivial
  · split at h
    · cases h
      trivial
    · obtain ⟨⟨p, rest'⟩, hp, hpair⟩ := Option.map_eq_some_iff.mp h
      cases hpair
      exact pair_yields (value_yields nestingLimit) _ _ _ hp

theorem keyed_of_lines {n : Nat} {s : List Char} {ls : List Line} (h : lines n s = some ls) :
    ∀ l ∈ ls, l.Keyed := by
  fun_induction lines n s generalizing ls with
  | case1 =>
    cases h
    exact fun _ hl ↦ absurd hl List.not_mem_nil
  | case2 => cases h
  | case3 n s _ ih =>
    simp only [Option.bind_eq_bind, Option.bind_eq_some_iff] at h
    obtain ⟨⟨l, s₁⟩, hl, s₂, -, h⟩ := h
    obtain ⟨rest, hrest, rfl⟩ := Option.map_eq_some_iff.mp h
    exact List.forall_mem_cons.mpr ⟨lineContent_yields _ _ _ hl, ih s₂ hrest⟩

theorem keyed_sections {ls : List Line} (h : ∀ l ∈ ls, l.Keyed) :
    (∀ p ∈ (sections ls).1, p.value.Keyed) ∧
      ∀ s ∈ (sections ls).2, ∀ p ∈ s.pairs, p.value.Keyed := by
  induction ls with
  | nil => exact ⟨fun _ hp ↦ absurd hp List.not_mem_nil, fun _ hs ↦ absurd hs List.not_mem_nil⟩
  | cons l ls ih =>
    rw [List.forall_mem_cons] at h
    obtain ⟨hpairs, hsections⟩ := ih h.2
    cases l with
    | blank => exact ⟨hpairs, hsections⟩
    | pair p => exact ⟨List.forall_mem_cons.mpr ⟨h.1, hpairs⟩, hsections⟩
    | header hd =>
      exact ⟨fun _ hp ↦ absurd hp List.not_mem_nil, List.forall_mem_cons.mpr ⟨hpairs, hsections⟩⟩

/-- **Distinct keys.** No table of a document has a key twice. -/
theorem keyed_of_read? {s : String} {t : Table} (h : read? s = some t) : t.Keyed := by
  simp only [read?, Option.bind_eq_bind, Option.bind_eq_some_iff] at h
  obtain ⟨ls, hls, h⟩ := h
  obtain ⟨hpairs, hsections⟩ := keyed_sections (keyed_of_lines hls)
  exact Table.Keyed.ofSections hpairs hsections h

end Toml

end BoundedPipelining
