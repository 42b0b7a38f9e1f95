import BoundedPipelining.Connection.Setup
import BoundedPipelining.Proofs.Settings.Given
import BoundedPipelining.Settings.Load
import Mathlib.Logic.Relation

/-!
# Loaded configurations

Loading goes through three stages: the text is read as a document, the document is decoded, and the
settings are checked. What is handed out has passed all of them, so it is what the document gives,
the order of the document does not matter to it, and whoever makes use of it later, a connection or
a listener for metrics, finds it good.

Settings that do not pass are refused with all that is wrong with them, save that a log filter may
have to be cut inside of a character. Then there is no judgement at all, be the rest as wrong as it
may.
-/

namespace BoundedPipelining

open Toml (Value Table Origin)

/-! ## Rearranged documents -/

namespace Toml.Table

/-- A table with its entries in another order, or with one more entry, under a key that is not
known. -/
inductive Reordered (known : List String) : Table → Table → Prop
  | perm {t t' : Table} (hkeys : (t.map Prod.fst).Nodup) (h : t.Perm t') : Reordered known t t'
  | unknown (t : Table) {k : String} (v : Value) (hk : k ∉ known) : Reordered known t (t.add k v)

variable {known : List String} {t t' : Table} {k k' : String} {v : Value}

theorem get?_eq_some_iff (hkeys : (t.map Prod.fst).Nodup) : t.get? k = some v ↔ (k, v) ∈ t :=
  ⟨mem_of_get?, get?_of_mem hkeys⟩

theorem get?_perm (hkeys : (t.map Prod.fst).Nodup) (h : t.Perm t') (k : String) :
    t'.get? k = t.get? k := by
  refine Option.ext fun v ↦ ?_
  rw [get?_eq_some_iff hkeys, get?_eq_some_iff ((h.map Prod.fst).nodup_iff.mp hkeys), h.mem_iff]

theorem get?_append : get? (t ++ t') k = (t.get? k).or (t'.get? k) :=
  List.lookup_append

theorem get?_cons_self : get? ((k, v) :: t) k = some v :=
  List.lookup_cons_self

theorem get?_cons_of_ne (hne : k ≠ k') : get? ((k', v) :: t) k = t.get? k := by
  rw [get?_cons, if_neg hne]

/-- Known keys keep their values. -/
theorem Reordered.get?_eq (h : Reordered known t t') (hk : k ∈ known) : t'.get? k = t.get? k := by
  induction h with
  | perm hkeys h => exact get?_perm hkeys h k
  | unknown v hunknown =>
    rw [add, get?_append, get?_cons_of_ne (ne_of_mem_of_not_mem hk hunknown)]
    exact Option.or_none

end Toml.Table

namespace Settings

open Toml.Table (Reordered)

/-- The names of the groups, and of the settings in each. -/
def knownKeys : List (String × List String) :=
  [("connection", ["max_pipelined_requests", "closing_policy"]),
    ("observability", ["log_level", "log_format", "metrics_enabled", "metrics_address"])]

/-- A document with its keys and groups in another order, with one more key that is not known, or
with a group to which this was done; how the table of the group is written does not matter. -/
inductive Rearranged : Table → Table → Prop
  | document {t t' : Table} (h : Reordered (knownKeys.map Prod.fst) t t') : Rearranged t t'
  | group {name : String} {names : List String} (hname : (name, names) ∈ knownKeys)
      {u u' : Table} (h : Reordered names u u') (o o' : Origin) (front back : Table)
      (hfront : name ∉ front.map Prod.fst) :
      Rearranged (front ++ (name, .table o u) :: back) (front ++ (name, .table o' u') :: back)

/-- Two documents in which the same stands for every setting. -/
structure Agree (t t' : Table) : Prop where
  isGroup : ∀ g ∈ knownKeys, (∀ v ∈ t.get? g.1, v.IsGroup) ↔ ∀ v ∈ t'.get? g.1, v.IsGroup
  member? : ∀ g ∈ knownKeys, ∀ name ∈ g.2, ∀ i, t.member? g.1 name i = t'.member? g.1 name i

variable {s : Settings} {t t' : Table}

theorem Agree.symm (h : Agree t t') : Agree t' t where
  isGroup g hg := (h.isGroup g hg).symm
  member? g hg name hname i := (h.member? g hg name hname i).symm

theorem Rearranged.agree (h : Rearranged t t') : Agree t t' := by
  induction h with
  | document h =>
    have hget (g : String × List String) (hg : g ∈ knownKeys) :=
      h.get?_eq (List.mem_map_of_mem (f := Prod.fst) hg)
    constructor
    · intro g hg
      rw [hget g hg]
    · intro g hg name _ i
      rw [Table.member?, Table.member?, hget g hg]
  | @group group names hgroup u u' h o o' front back hfront =>
    have hself (o : Origin) (u : Table) :
        Table.get? (front ++ (group, .table o u) :: back) group = some (.table o u) := by
      rw [Table.get?_append, Table.get?_eq_none_iff.mpr hfront, Option.none_or,
        Table.get?_cons_self]
    have hother (name : String) (hne : name ≠ group) :
        Table.get? (front ++ (group, .table o u) :: back) name =
          Table.get? (front ++ (group, .table o' u') :: back) name := by
      rw [Table.get?_append, Table.get?_append, Table.get?_cons_of_ne hne,
        Table.get?_cons_of_ne hne]
    constructor
    · intro g hg
      by_cases hname : g.1 = group
      · rw [hname, hself, hself]
        exact iff_of_true (by rintro _ ⟨⟩; exact .table o u) (by rintro _ ⟨⟩; exact .table o' u')
      · rw [hother g.1 hname]
    · intro g hg name hmem i
      rw [Table.member?, Table.member?]
      by_cases hname : g.1 = group
      · obtain rfl : g = (group, names) :=
          List.inj_on_of_nodup_map (f := Prod.fst) (by decide) hg hgroup hname
        rw [hself, hself]
        exact (h.get?_eq hmem).symm
      · rw [hother g.1 hname]

theorem GivenBy.of_agree (h : Agree t t') (hs : s.GivenBy t) : s.GivenBy t' := by
  have hconnection := h.member? ("connection", _) List.mem_cons_self
  have hobservability := h.member? ("observability", _) (List.mem_cons_of_mem _ List.mem_cons_self)
  refine ⟨?_, ?_, ?_, ?_, ?_, ?_, ?_⟩
  · intro name hname
    obtain ⟨g, hg, rfl⟩ : ∃ g ∈ knownKeys, g.1 = name := List.mem_map.mp hname
    exact (h.isGroup g hg).mp (hs.isGroup g.1 hname)
  · exact hconnection "max_pipelined_requests" (by decide) 0 ▸ hs.maxPipelined
  · exact hconnection "closing_policy" (by decide) 1 ▸ hs.closingPolicy
  · exact hobservability "log_level" (by decide) 0 ▸ hs.logLevel
  · exact hobservability "log_format" (by decide) 1 ▸ hs.logFormat
  · exact hobservability "metrics_enabled" (by decide) 2 ▸ hs.metricsEnabled
  · exact hobservability "metrics_address" (by decide) 3 ▸ hs.metricsAddress

/-- Documents that are rearranged any number of times, back and forth, give the same settings. -/
theorem givenBy_iff_of_rearranged (h : Relation.EqvGen Rearranged t t') :
    s.GivenBy t ↔ s.GivenBy t' := by
  induction h with
  | rel t t' h => exact ⟨.of_agree h.agree, .of_agree h.agree.symm⟩
  | refl t => rfl
  | symm t t' _ ih => exact ih.symm
  | trans t u t' _ _ ih ih' => exact ih.trans ih'

/-! ## Checked settings -/

theorem checked_eq_ok_iff {c : Settings} : s.checked = .ok c ↔ s = c ∧ s.validate = .ok [] := by
  rw [checked]
  split
  · rename_i hvalid
    rw [Except.ok.injEq, and_iff_left hvalid]
  · rename_i es hne hvalid
    refine iff_of_false nofun fun h ↦ hne ?_
    exact Except.ok.inj (hvalid.symm.trans h.2)
  · rename_i hcut
    refine iff_of_false nofun fun h ↦ ?_
    cases hcut.symm.trans h.2

theorem validate_eq_nil_iff : s.validate = .ok [] ↔
    s.depthErrors = [] ∧ s.filterErrors = .ok [] ∧ s.addressErrors = [] := by
  rw [validate]
  cases s.filterErrors with
  | error c => exact iff_of_false nofun fun h ↦ nomatch h.2.1
  | ok es => simp [Except.map]

/-- Only the log filter can keep settings from being judged. -/
theorem filterErrors_of_validate {cut : CutCharacter} (h : s.validate = .error cut) :
    s.filterErrors = .error cut := by
  rw [validate] at h
  cases hfilter : s.filterErrors with
  | error cut' =>
    rw [hfilter] at h
    cases h
    rfl
  | ok es =>
    rw [hfilter] at h
    cases h

theorem checked_of_ne_nil {es : List ValidationError} (h : s.validate = .ok es) (hes : es ≠ []) :
    s.checked = .error (.invalid es) := by
  rw [checked, h]
  cases es with
  | nil => exact absurd rfl hes
  | cons e es => rfl

theorem depthErrors_eq_nil_iff : s.depthErrors = [] ↔ 1 ≤ s.connection.maxPipelined := by
  rw [depthErrors, ConnectionSettings.depth, ConnectionSettings.depth?, Depth.ofNat?]
  by_cases hpos : 0 < s.connection.maxPipelined
  · rw [dif_pos hpos]
    exact iff_of_true rfl hpos
  · rw [dif_neg hpos]
    exact iff_of_false (List.cons_ne_nil _ _) hpos

theorem addressErrors_eq_nil_iff : s.addressErrors = [] ↔ (s.observability.metricsEnabled = true →
    (SocketAddress.ofText? s.observability.metricsAddress.toList).isSome = true) := by
  rw [addressErrors, ite_eq_right_iff, Bool.and_eq_true, Option.isNone_iff_eq_none,
    Option.isSome_iff_ne_none]
  refine ⟨fun h henabled hnone ↦ ?_, fun h hbad ↦ absurd hbad.2 (h hbad.1)⟩
  cases h ⟨henabled, hnone⟩

/-- A connection takes every depth but zero. -/
theorem exists_connection (c : ConnectionSettings) (h : 1 ≤ c.maxPipelined) :
    ∃ conn, Connection.ofSettings c = .ok conn ∧ conn.books.limiter.max.val = c.maxPipelined := by
  have hsetup : Connection.ofSettings c = .ok (Connection.ofDepth ⟨_, h⟩ c.closingPolicy) :=
    Connection.ofSettings_of_pos c h
  exact ⟨_, hsetup, Connection.max_ofSettings hsetup⟩

/-! ## Loading -/

/-- A text is loaded exactly if it is a document that gives settings which break no rule. -/
theorem ofText_eq_ok_iff {text : String} {c : Settings} : ofText text = .ok c ↔
    ∃ t, Toml.read? text = some t ∧ c.GivenBy t ∧ c.validate = .ok [] := by
  rw [ofText]
  cases hread : Toml.read? text with
  | none => exact iff_of_false nofun fun ⟨t, ht, _⟩ ↦ nomatch ht
  | some t =>
    have hgives (s : Settings) := ofTable_eq_ok_iff (s := s) (Toml.keyed_of_read? hread)
    dsimp only
    cases htable : ofTable t with
    | error e =>
      refine iff_of_false nofun fun ⟨t', ht', hgiven, _⟩ ↦ ?_
      cases ht'
      cases htable.symm.trans ((hgives c).mpr hgiven)
    | ok s =>
      rw [checked_eq_ok_iff]
      constructor
      · rintro ⟨rfl, hvalid⟩
        exact ⟨t, rfl, (hgives s).mp htable, hvalid⟩
      · rintro ⟨t', ht', hgiven, hvalid⟩
        cases ht'
        cases htable.symm.trans ((hgives c).mpr hgiven)
        exact ⟨rfl, hvalid⟩

/-- What a text is read as and decoded to, it gives. -/
theorem givenBy_of_decoded {text : String} (h : (Toml.read? text).map ofTable = some (.ok s)) :
    ∃ t, Toml.read? text = some t ∧ s.GivenBy t := by
  obtain ⟨t, hread, htable⟩ := Option.map_eq_some_iff.mp h
  exact ⟨t, hread, (ofTable_eq_ok_iff (Toml.keyed_of_read? hread)).mp htable⟩

theorem ofText_of_givenBy {text : String} {t : Table} (hread : Toml.read? text = some t)
    (hs : s.GivenBy t) : ofText text = s.checked := by
  have htable : ofTable t = .ok s := (ofTable_eq_ok_iff (Toml.keyed_of_read? hread)).mpr hs
  rw [ofText, hread]
  simp only [htable]

/-- **What loading hands out.** Settings that are loaded are what the document gives, and any
document that is rearranged from it gives the same. They break no rule, a connection is set up from
them with as much room as they state, at least for one exchange, and where metrics are on there is
an address for them. A document with settings that are not loaded is refused with the list of all
rules that they break, unless their log filter would be cut inside a character. -/
theorem ofText_usable (text : String) :
    (∀ c, ofText text = .ok c →
      (∃ t, Toml.read? text = some t ∧ c.GivenBy t ∧
        ∀ text' t', Toml.read? text' = some t' → Relation.EqvGen Rearranged t t' →
          ofText text' = .ok c) ∧
      c.validate = .ok [] ∧
      (∃ conn, Connection.ofSettings c.connection = .ok conn ∧
        conn.books.limiter.max.val = c.connection.maxPipelined ∧ 1 ≤ c.connection.maxPipelined) ∧
      (c.observability.metricsEnabled = true →
        (SocketAddress.ofText? c.observability.metricsAddress.toList).isSome = true)) ∧
    ∀ t s, Toml.read? text = some t → s.GivenBy t →
      (s.validate = .ok [] ∧ ofText text = .ok s) ∨
      (∃ es, es ≠ [] ∧ s.validate = .ok es ∧ ofText text = .error (.invalid es)) ∨
      ∃ cut, s.filterErrors = .error cut ∧ ofText text = .error (.cut cut) := by
  constructor
  · intro c hc
    obtain ⟨t, hread, hgiven, hvalid⟩ := ofText_eq_ok_iff.mp hc
    obtain ⟨hdepth, -, haddress⟩ := validate_eq_nil_iff.mp hvalid
    have hpos : 1 ≤ c.connection.maxPipelined := depthErrors_eq_nil_iff.mp hdepth
    obtain ⟨conn, hconn, hmax⟩ := exists_connection c.connection hpos
    refine ⟨⟨t, hread, hgiven, ?_⟩, hvalid, ⟨conn, hconn, hmax, hpos⟩,
      addressErrors_eq_nil_iff.mp haddress⟩
    intro text' t' hread' hrearranged
    exact ofText_eq_ok_iff.mpr
      ⟨t', hread', (givenBy_iff_of_rearranged hrearranged).mp hgiven, hvalid⟩
  · intro t s hread hgiven
    rw [ofText_of_givenBy hread hgiven]
    cases hvalidate : s.validate with
    | error cut =>
      refine .inr (.inr ⟨cut, filterErrors_of_validate hvalidate, ?_⟩)
      rw [checked, hvalidate]
    | ok es =>
      by_cases hes : es = []
      · subst hes
        exact .inl ⟨rfl, checked_eq_ok_iff.mpr ⟨rfl, hvalidate⟩⟩
      · exact .inr (.inl ⟨es, hes, rfl, checked_of_ne_nil hvalidate hes⟩)

/-- Two groups in one order, and in the other order with a key that is not known. -/
private theorem rearranged_groups : ∃ t t',
    Toml.read? "[connection]\nmax_pipelined_requests = 4\n[observability]\n" = some t ∧
      Toml.read? "[observability]\n[connection]\nmax_pipelined_requests = 4\nx = 1\n" = some t' ∧
      Relation.EqvGen Rearranged t t' := by
  refine ⟨[("connection", .table .stated [("max_pipelined_requests", .integer 4)]),
      ("observability", .table .stated [])],
    [("observability", .table .stated []),
      ("connection", .table .stated [("max_pipelined_requests", .integer 4), ("x", .integer 1)])],
    by rfl, by rfl, ?_⟩
  have hunknown : Reordered ["max_pipelined_requests", "closing_policy"]
      [("max_pipelined_requests", .integer 4)]
      [("max_pipelined_requests", .integer 4), ("x", .integer 1)] :=
    .unknown _ (Value.integer 1) (by decide)
  have hgroup := Rearranged.group List.mem_cons_self hunknown .stated .stated []
    [("observability", .table .stated [])] List.not_mem_nil
  have hswapped := Rearranged.document (.perm (by decide) (.swap
    ("observability", .table .stated [])
    ("connection", .table .stated [("max_pipelined_requests", .integer 4), ("x", .integer 1)]) []))
  exact .trans _ _ _ (.rel _ _ hgroup) (.rel _ _ hswapped)

/-- The two documents give the same settings, and a depth of zero is refused. -/
theorem ofText_usable_of_two :
    let c : Settings := { connection := { maxPipelined := 4 } }
    ofText "[connection]\nmax_pipelined_requests = 4\n[observability]\n" = .ok c ∧
      ofText "[observability]\n[connection]\nmax_pipelined_requests = 4\nx = 1\n" = .ok c ∧
      c.validate = .ok [] ∧
      ofText "[connection]\nmax_pipelined_requests = 0\n"
        = .error (.invalid [.zeroPipelineDepth]) := by
  intro c
  have hload : ofText "[connection]\nmax_pipelined_requests = 4\n[observability]\n" = .ok c := by
    decide +kernel
  obtain ⟨⟨t, hread, -, hsame⟩, hvalid, -⟩ := (ofText_usable _).1 c hload
  obtain ⟨t₁, t₂, hread₁, hread₂, hrearranged⟩ := rearranged_groups
  cases hread₁.symm.trans hread
  refine ⟨hload, hsame _ t₂ hread₂ hrearranged, hvalid, ?_⟩
  have hdecoded : (Toml.read? "[connection]\nmax_pipelined_requests = 0\n").map ofTable
      = some (.ok { connection := { maxPipelined := 0 } }) := by
    decide +kernel
  have hzero : validate { connection := { maxPipelined := 0 } } = .ok [.zeroPipelineDepth] := by
    decide +kernel
  have hfilter : filterErrors { connection := { maxPipelined := 0 } } = .ok [] := by
    decide +kernel
  obtain ⟨t, hread, hgiven⟩ := givenBy_of_decoded hdecoded
  rcases (ofText_usable _).2 t _ hread hgiven with ⟨hnone, -⟩ | ⟨es, -, hes, htext⟩ | ⟨cut, hcut, -⟩
  · cases hzero.symm.trans hnone
  · cases hzero.symm.trans hes
    exact htext
  · cases hfilter.symm.trans hcut

/-- A depth of zero is not reported where the log filter would be cut inside a character. -/
theorem ofText_without_list :
    let text :=
      "[connection]\nmax_pipelined_requests = 0\n[observability]\nlog_level = \" é=info\"\n"
    (∃ (t : Table) (s : Settings), Toml.read? text = some t ∧ s.GivenBy t ∧
      s.depthErrors = [.zeroPipelineDepth]) ∧
      (∀ c, ofText text ≠ .ok c) ∧ ∀ es, ofText text ≠ .error (.invalid es) := by
  intro text
  have hcut : ofText text = .error (.cut ⟨2, " é=info".toList⟩) := by decide +kernel
  refine ⟨?_, fun c ↦ ?_, fun es ↦ ?_⟩
  · have hdecoded : (Toml.read? text).map ofTable = some (.ok
        { connection := { maxPipelined := 0 }, observability := { logLevel := " é=info" } }) := by
      decide +kernel
    obtain ⟨t, hread, hgiven⟩ := givenBy_of_decoded hdecoded
    exact ⟨t, _, hread, hgiven, rfl⟩
  · rw [hcut]
    nofun
  · rw [hcut]
    nofun

end Settings

end BoundedPipelining
