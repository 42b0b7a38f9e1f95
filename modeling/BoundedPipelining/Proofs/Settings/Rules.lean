import BoundedPipelining.Proofs.Settings.Addresses
import BoundedPipelining.Proofs.Settings.Directives
import BoundedPipelining.Settings.Validation

/-!
# Which broken rules are reported

The three rules are judged each by itself, so the list that is returned has an error for each rule
that is broken, in the order of the rules (`Settings.Reports`). Of the depth and of the address that
is all there is to say.

The log filter is gone through piece by piece, up to the first that is not read. A piece that is cut
inside a character ends the judging altogether, unless a piece before it is refused, and a directive
with a level is refused if there are blanks around it. Neither comes to pass where the pieces with
blanks around them have no brackets and no equals sign, and then the rule is that every piece is a
directive once its blanks are taken away.
-/

namespace BoundedPipelining

open Pieces (IsBoundary)
open Blank (trim)

/-! ## Pieces of a filter -/

section MapM

variable {α β ε : Type} {f : α → Except ε β} {l : List α} {e : ε}

private theorem mapM_cons_eq (f : α → Except ε β) (a : α) (l : List α) : (a :: l).mapM f =
    (f a).bind fun b ↦ (l.mapM f).bind fun bs ↦ .ok (b :: bs) :=
  List.mapM_cons

/-- A list is gone through up to its first member that fails. -/
theorem mapM_eq_error_iff : l.mapM f = .error e ↔ ∃ before a after,
    l = before ++ a :: after ∧ (∀ b ∈ before, ∃ y, f b = .ok y) ∧ f a = .error e := by
  induction l with
  | nil => exact iff_of_false nofun fun ⟨before, a, after, h, _⟩ ↦ by simp at h
  | cons a l ih =>
    rw [mapM_cons_eq]
    cases ha : f a with
    | error e' =>
      constructor
      · rintro ⟨⟩
        exact ⟨[], a, l, rfl, List.forall_mem_nil _, ha⟩
      · rintro ⟨before, a', after, hl, hbefore, ha'⟩
        cases before with
        | nil =>
          cases hl
          exact congrArg _ (Except.error.inj (ha.symm.trans ha'))
        | cons b before =>
          cases hl
          obtain ⟨y, hy⟩ := hbefore a List.mem_cons_self
          cases ha.symm.trans hy
    | ok y =>
      have hrest : ((l.mapM f).bind fun bs ↦ Except.ok (y :: bs)) = .error e ↔
          l.mapM f = .error e := by
        cases l.mapM f with
        | error e' => exact Iff.rfl
        | ok ys => exact iff_of_false nofun nofun
      refine hrest.trans (ih.trans ⟨?_, ?_⟩)
      · rintro ⟨before, b, after, rfl, hbefore, hb⟩
        exact ⟨a :: before, b, after, rfl, List.forall_mem_cons.mpr ⟨⟨y, ha⟩, hbefore⟩, hb⟩
      · rintro ⟨before, b, after, hl, hbefore, hb⟩
        cases before with
        | nil =>
          cases hl
          cases ha.symm.trans hb
        | cons b' before =>
          cases hl
          exact ⟨before, b, after, rfl, (List.forall_mem_cons.mp hbefore).2, hb⟩

/-- A list is gone through to its end if no member fails. -/
theorem exists_mapM_eq_ok_iff : (∃ bs, l.mapM f = .ok bs) ↔ ∀ a ∈ l, ∃ b, f a = .ok b := by
  induction l with
  | nil => exact iff_of_true ⟨[], rfl⟩ (List.forall_mem_nil _)
  | cons a l ih =>
    rw [mapM_cons_eq, List.forall_mem_cons, ← ih]
    cases f a with
    | error e => exact iff_of_false nofun fun ⟨h, _⟩ ↦ nomatch h
    | ok b =>
      cases l.mapM f with
      | error e => exact iff_of_false nofun fun ⟨_, h⟩ ↦ nomatch h
      | ok bs => exact iff_of_true ⟨b :: bs, rfl⟩ ⟨⟨b, rfl⟩, bs, rfl⟩

end MapM

namespace FilterDirective

/-- The pieces of a log filter between commas, without the empty ones. -/
def pieces (filter : String) : List (List Char) :=
  (Pieces.split ',' filter.toList).filter fun p ↦ !p.isEmpty

/-- The piece is read as a directive. -/
def IsAccepted (p : List Char) : Prop :=
  IsDirective (trim p) ∧ (trim p = p ∨ IsPlace (trim p) ∧ IsEvenlyCut p)

/-- The first piece that is not read as a directive is cut inside a character. -/
def CutsInside (filter : String) (cut : CutCharacter) : Prop :=
  ∃ before after, pieces filter = before ++ cut.text :: after ∧ (∀ p ∈ before, IsAccepted p) ∧
    CutAt (trim cut.text) cut.offset ∧ ¬ IsBoundary cut.text cut.offset

variable {filter : String} {cut : CutCharacter} {p t : List Char} {n : Nat}

theorem IsAccepted.isEvenlyCut (h : IsAccepted p) : IsEvenlyCut p := by
  rcases h.2 with htrim | ⟨-, heven⟩
  · exact isEvenlyCut_of_trim htrim
  · exact heven

theorem CutsInside.exists_not_isEvenlyCut (h : CutsInside filter cut) :
    ∃ p ∈ pieces filter, ¬ IsEvenlyCut p := by
  obtain ⟨before, after, hl, -, hcut, hp⟩ := h
  exact ⟨cut.text, hl ▸ List.mem_append_right before List.mem_cons_self, fun h ↦ hp (h _ hcut)⟩

theorem exists_listOfText_iff : (∃ ds, listOfText filter = .ok ds) ↔
    ∀ p ∈ pieces filter, IsAccepted p :=
  exists_mapM_eq_ok_iff.trans (forall₂_congr fun _ _ ↦ exists_ofText_iff)

theorem cutsInside_of_listOfText (h : listOfText filter = .error (.splitsCharacter n t)) :
    CutsInside filter ⟨n, t⟩ := by
  obtain ⟨before, a, after, hl, hbefore, ha⟩ := mapM_eq_error_iff.mp h
  obtain ⟨rfl, hcut, hp⟩ := cutAt_of_ofText ha
  exact ⟨before, after, hl, fun b hb ↦ exists_ofText_iff.mp (hbefore b hb), hcut, hp⟩

theorem CutsInside.listOfText (h : CutsInside filter cut) :
    ∃ m, listOfText filter = .error (.splitsCharacter m cut.text) := by
  obtain ⟨before, after, hl, hbefore, hcut, hp⟩ := h
  obtain ⟨m, hm⟩ := ofText_splits hcut hp
  exact ⟨m, mapM_eq_error_iff.mpr
    ⟨before, cut.text, after, hl, fun b hb ↦ exists_ofText_iff.mpr (hbefore b hb), hm⟩⟩

/-! ### Blanks that do no harm -/

/-- A piece in blanks is evenly cut if it has no brackets and no equals sign. -/
theorem isEvenlyCut_of_plain (h : trim p = p ∨ '=' ∉ p ∧ '[' ∉ p) : IsEvenlyCut p := by
  rcases h with htrim | ⟨hlevel, hbracket⟩
  · exact isEvenlyCut_of_trim htrim
  · intro n hcut
    obtain ⟨c, hmem, hc⟩ := hcut.exists_mark
    rcases hc with rfl | rfl
    · exact absurd (Blank.mem_of_mem_trim hmem) hlevel
    · exact absurd (Blank.mem_of_mem_trim hmem) hbracket

theorem isAccepted_iff_of_plain (h : trim p = p ∨ '=' ∉ p ∧ '[' ∉ p) :
    IsAccepted p ↔ IsDirective (trim p) := by
  refine and_iff_left_of_imp fun hdirective ↦ ?_
  rcases h with htrim | hplain
  · exact .inl htrim
  · refine .inr ⟨?_, isEvenlyCut_of_plain (.inr hplain)⟩
    generalize ht : trim p = t at hdirective
    cases hdirective with
    | place h => exact h
    | level => exact absurd (Blank.mem_of_mem_trim (ht ▸ by simp)) hplain.1

end FilterDirective

/-! ## Rules -/

/-- The errors over a rule: the error if it is broken, and none otherwise. -/
inductive Judged (broken : Prop) (e : ValidationError) : List ValidationError → Prop
  | broken (h : broken) : Judged broken e [e]
  | kept (h : ¬ broken) : Judged broken e []

namespace Judged

variable {broken : Prop} {e e' : ValidationError} {es : List ValidationError}

theorem mem_iff (h : Judged broken e es) : e' ∈ es ↔ e' = e ∧ broken := by
  cases h with
  | broken h => rw [List.mem_singleton, and_iff_left h]
  | kept h => exact iff_of_false List.not_mem_nil fun h' ↦ h h'.2

theorem eq_nil_iff (h : Judged broken e es) : es = [] ↔ ¬ broken := by
  cases h with
  | broken h => exact iff_of_false (List.cons_ne_nil e []) (not_not_intro h)
  | kept h => exact iff_of_true rfl h

theorem names (h : Judged broken e es) : (es.map ValidationError.name).Sublist [e.name] := by
  cases h with
  | broken h => exact List.Sublist.refl _
  | kept h => exact List.nil_sublist _

end Judged

namespace Settings

open FilterDirective (pieces IsAccepted CutsInside IsDirective)

/-- The list has an error for each rule that is broken, and no other, in the order of the rules. The
pieces of the log filter have to be `good`. -/
structure Reports (s : Settings) (good : List Char → Prop) (es : List ValidationError) : Prop where
  order : (es.map ValidationError.name).Sublist
    ["ZeroPipelineDepth", "InvalidLogLevel", "InvalidMetricsAddress"]
  depth : .zeroPipelineDepth ∈ es ↔ s.connection.maxPipelined = 0
  filter (text : String) : (∃ reason, .invalidLogLevel text reason ∈ es) ↔
    text = s.observability.logLevel ∧ ∃ p ∈ pieces s.observability.logLevel, ¬ good p
  address (text : String) : .invalidMetricsAddress text ∈ es ↔
    text = s.observability.metricsAddress ∧ s.observability.metricsEnabled = true ∧
      ¬ SocketAddress.IsWritten s.observability.metricsAddress.toList
  eq_nil : es = [] ↔ 1 ≤ s.connection.maxPipelined ∧
    (∀ p ∈ pieces s.observability.logLevel, good p) ∧
    (s.observability.metricsEnabled = true →
      SocketAddress.IsWritten s.observability.metricsAddress.toList)

variable {s : Settings} {good good' : List Char → Prop} {es : List ValidationError}

theorem Reports.congr (h : s.Reports good es)
    (hgood : ∀ p ∈ pieces s.observability.logLevel, good p ↔ good' p) : s.Reports good' es where
  order := h.order
  depth := h.depth
  filter text := by
    rw [h.filter text]
    exact and_congr_right fun _ ↦ exists_congr fun p ↦
      and_congr_right fun hp ↦ not_congr (hgood p hp)
  address := h.address
  eq_nil := by
    rw [h.eq_nil]
    exact and_congr_right fun _ ↦ and_congr_left fun _ ↦ forall₂_congr hgood

/-- Three rules that are judged one after the other make up a report. -/
theorem reports_append {depth filter address : List ValidationError} {reason : String}
    (hdepth : Judged (s.connection.maxPipelined = 0) .zeroPipelineDepth depth)
    (hfilter : Judged (∃ p ∈ pieces s.observability.logLevel, ¬ good p)
      (.invalidLogLevel s.observability.logLevel reason) filter)
    (haddress : Judged (s.observability.metricsEnabled = true ∧
        ¬ SocketAddress.IsWritten s.observability.metricsAddress.toList)
      (.invalidMetricsAddress s.observability.metricsAddress) address) :
    s.Reports good (depth ++ filter ++ address) where
  order := by
    rw [List.map_append, List.map_append]
    exact (hdepth.names.append hfilter.names).append haddress.names
  depth := by
    simp [hdepth.mem_iff, hfilter.mem_iff, haddress.mem_iff]
  filter text := by
    simp [hdepth.mem_iff, hfilter.mem_iff, haddress.mem_iff]
  address text := by
    simp [hdepth.mem_iff, hfilter.mem_iff, haddress.mem_iff]
  eq_nil := by
    rw [List.append_eq_nil_iff, List.append_eq_nil_iff, hdepth.eq_nil_iff, hfilter.eq_nil_iff,
      haddress.eq_nil_iff, and_assoc, Nat.one_le_iff_ne_zero]
    simp

theorem depthErrors_judged (s : Settings) :
    Judged (s.connection.maxPipelined = 0) .zeroPipelineDepth s.depthErrors := by
  rw [depthErrors, ConnectionSettings.depth, ConnectionSettings.depth?, Depth.ofNat?]
  by_cases hpos : 0 < s.connection.maxPipelined
  · rw [dif_pos hpos]
    exact .kept (Nat.ne_of_gt hpos)
  · rw [dif_neg hpos]
    exact .broken (Nat.eq_zero_of_not_pos hpos)

theorem addressErrors_judged (s : Settings) : Judged (s.observability.metricsEnabled = true ∧
      ¬ SocketAddress.IsWritten s.observability.metricsAddress.toList)
    (.invalidMetricsAddress s.observability.metricsAddress) s.addressErrors := by
  have hbroken : (s.observability.metricsEnabled = true ∧
      ¬ SocketAddress.IsWritten s.observability.metricsAddress.toList) ↔
      (s.observability.metricsEnabled &&
        (SocketAddress.ofText? s.observability.metricsAddress.toList).isNone) = true := by
    rw [← SocketAddress.isSome_ofText?_iff, Option.not_isSome_iff_eq_none, Bool.and_eq_true,
      Option.isNone_iff_eq_none]
  rw [addressErrors, hbroken]
  split
  · rename_i h
    exact .broken h
  · rename_i h
    exact .kept h

/-- The log filter is judged unless it is cut inside a character. -/
theorem filterErrors_judged (s : Settings) :
    (∃ reason es, s.filterErrors = .ok es ∧
      Judged (∃ p ∈ pieces s.observability.logLevel, ¬ IsAccepted p)
        (.invalidLogLevel s.observability.logLevel reason) es ∧
      ∀ cut, ¬ CutsInside s.observability.logLevel cut) ∨
    ∃ cut, s.filterErrors = .error cut ∧ CutsInside s.observability.logLevel cut := by
  rw [filterErrors]
  cases hlist : FilterDirective.listOfText s.observability.logLevel with
  | ok ds =>
    have hall := FilterDirective.exists_listOfText_iff.mp ⟨ds, hlist⟩
    have hkept : ¬ ∃ p ∈ pieces s.observability.logLevel, ¬ IsAccepted p :=
      fun ⟨p, hp, h⟩ ↦ h (hall p hp)
    refine .inl ⟨"", [], rfl, .kept hkept, fun cut hcut ↦ ?_⟩
    obtain ⟨p, hp, heven⟩ := hcut.exists_not_isEvenlyCut
    exact heven (hall p hp).isEvenlyCut
  | error e =>
    have hbroken : ∃ p ∈ pieces s.observability.logLevel, ¬ IsAccepted p := by
      by_contra! hall
      obtain ⟨ds, hds⟩ := FilterDirective.exists_listOfText_iff.mpr hall
      cases hlist.symm.trans hds
    cases e with
    | splitsCharacter n t =>
      exact .inr ⟨⟨n, t⟩, rfl, FilterDirective.cutsInside_of_listOfText hlist⟩
    | malformed | unknownLevel =>
      refine .inl ⟨_, _, rfl, .broken hbroken, fun cut hcut ↦ ?_⟩
      obtain ⟨m, hm⟩ := hcut.listOfText
      cases hlist.symm.trans hm

/-- Every broken rule is reported, unless the log filter is cut inside a character. -/
theorem validate_cases (s : Settings) :
    (∃ es, s.validate = .ok es ∧ s.Reports IsAccepted es ∧
      ∀ cut, ¬ CutsInside s.observability.logLevel cut) ∨
    ∃ cut, s.validate = .error cut ∧ CutsInside s.observability.logLevel cut := by
  rcases s.filterErrors_judged with ⟨reason, es, hes, hfilter, huncut⟩ | ⟨cut, hcut, hinside⟩
  · refine .inl ⟨s.depthErrors ++ es ++ s.addressErrors, by rw [validate, hes]; rfl, ?_, huncut⟩
    exact reports_append s.depthErrors_judged hfilter s.addressErrors_judged
  · exact .inr ⟨cut, by rw [validate, hcut]; rfl, hinside⟩

/-- **What is reported.** The list has each broken rule once and in order, and it is empty if no
rule is broken, unless the log filter is cut inside a character. Every piece of the filter has to be
accepted. As long as blanks stand around no piece with brackets or an equals sign, there is always a
list, and the rule is that every piece is a directive once its blanks are taken away. -/
theorem validate_exact (s : Settings) :
    ((∃ es, s.validate = .ok es ∧ s.Reports IsAccepted es ∧
        ∀ cut, ¬ CutsInside s.observability.logLevel cut) ∨
      ∃ cut, s.validate = .error cut ∧ CutsInside s.observability.logLevel cut) ∧
    ((∀ p ∈ pieces s.observability.logLevel, trim p = p ∨ '=' ∉ p ∧ '[' ∉ p) →
      ∃ es, s.validate = .ok es ∧ s.Reports (fun p ↦ IsDirective (trim p)) es) := by
  refine ⟨s.validate_cases, fun hplain ↦ ?_⟩
  rcases s.validate_cases with ⟨es, hes, hreports, -⟩ | ⟨cut, -, hinside⟩
  · exact ⟨es, hes, hreports.congr fun p hp ↦
      FilterDirective.isAccepted_iff_of_plain (hplain p hp)⟩
  · obtain ⟨p, hp, huneven⟩ := hinside.exists_not_isEvenlyCut
    exact absurd (FilterDirective.isEvenlyCut_of_plain (hplain p hp)) huneven

/-- All three rules are broken: the last piece of the filter has no level. -/
theorem validate_exact_of_three :
    let s : Settings :=
      { connection := { maxPipelined := 0 }
        observability :=
          { logLevel := "info, warn ,,a[b\x7bc\x7d]=debug,a=loud"
            metricsEnabled := true
            metricsAddress := "nowhere" } }
    let es : List ValidationError :=
      [.zeroPipelineDepth,
        .invalidLogLevel s.observability.logLevel FilterError.unknownLevel.message,
        .invalidMetricsAddress "nowhere"]
    (∀ p ∈ pieces s.observability.logLevel, trim p = p ∨ '=' ∉ p ∧ '[' ∉ p) ∧
      s.validate = .ok es ∧ s.Reports (fun p ↦ IsDirective (trim p)) es := by
  intro s es
  have hplain : ∀ p ∈ pieces s.observability.logLevel, trim p = p ∨ '=' ∉ p ∧ '[' ∉ p := by
    decide +kernel
  have hvalidate : s.validate = .ok es := by decide +kernel
  obtain ⟨es', hes', hreports⟩ := (validate_exact s).2 hplain
  cases hvalidate.symm.trans hes'
  exact ⟨hplain, hvalidate, hreports⟩

/-- Blanks in front of a level: directives that cannot be judged, or are reported. -/
theorem validate_of_blanks :
    let s (text : String) : Settings := { observability := { logLevel := text } }
    (∀ text ∈ [" é=info", " a=info"], ∀ p ∈ pieces text, IsDirective (trim p)) ∧
      (s " é=info").validate = .error ⟨2, " é=info".toList⟩ ∧
      ∃ es, (s " a=info").validate = .ok es ∧
        ¬ (s " a=info").Reports (fun p ↦ IsDirective (trim p)) es := by
  intro s
  have hlevel (text : String) (c : Char) (hc : FilterDirective.mayStart c = true)
      (htrim : (pieces text).map trim = [c :: '=' :: "info".toList]) :
      ∀ p ∈ pieces text, IsDirective (trim p) := by
    have hinfo : LogLevel.IsWritten "info".toList :=
      LogLevel.isSome_ofText?_iff.mp (by decide +kernel)
    rw [← List.forall_mem_map (P := IsDirective), htrim, List.forall_mem_singleton]
    exact .level (x := [c]) (.inl (.target hc (List.forall_mem_nil _))) (.inr hinfo)
  have hdirective : ∀ text ∈ [" é=info", " a=info"], ∀ p ∈ pieces text, IsDirective (trim p) := by
    rw [List.forall_mem_cons, List.forall_mem_singleton]
    exact ⟨hlevel " é=info" 'é' (by decide +kernel) (by decide +kernel),
      hlevel " a=info" 'a' (by decide +kernel) (by decide +kernel)⟩
  have hvalidate : (s " a=info").validate =
      .ok [.invalidLogLevel " a=info" FilterError.unknownLevel.message] := by
    decide +kernel
  refine ⟨hdirective, by decide +kernel, _, hvalidate, fun hreports ↦ ?_⟩
  obtain ⟨-, p, hp, hbad⟩ := (hreports.filter " a=info").mp ⟨_, List.mem_singleton_self _⟩
  exact hbad (hdirective " a=info" (by decide) p hp)

end Settings

end BoundedPipelining
