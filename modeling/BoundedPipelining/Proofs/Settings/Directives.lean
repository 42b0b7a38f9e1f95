import BoundedPipelining.Proofs.Settings.Levels
import BoundedPipelining.Proofs.Text.Boundaries
import BoundedPipelining.Settings.FilterDirective
import Mathlib.Data.List.Induction

/-!
# Which texts are directives

`FilterDirective.ofText` goes through the characters of a piece of text one by one, in seven states.
`IsDirective` says what it looks for: a target, or brackets with or without a target in front, and
behind them nothing, or an equals sign with a level or with nothing.

## Two texts in one scan

The characters come from the piece without its blanks, and the parts are cut out of the piece with
its blanks, at offsets of the former. So the scan has three ways to end, and the grammar alone tells
them apart. A directive without a level is found whatever stands around it, as long as every cut
falls between two characters of the piece (`CutAt`, `IsBoundary`). A cut inside a character ends the
scan. And what is cut out for a level has the equals sign in it if there are blanks in front, or the
blanks that are behind, and no level has: a directive with a level is found in a piece without
blanks alone.
-/

namespace BoundedPipelining

open Pieces (byteCount IsBoundary)
open Blank (trim)

/-! ## Parts -/

namespace DirectivePart

/-- Where a part begins that is cut out of the text when it ends. -/
def begin? : DirectivePart → Option Nat
  | name => some 0
  | span a | field a | level a => some a
  | start | fields | closed => none

/-- The characters that a part ends at. -/
inductive EndsAt : DirectivePart → Char → Prop
  | level : EndsAt name '='
  | brackets : EndsAt name '['
  | span (a : Nat) : EndsAt (span a) ']'
  | field (a : Nat) : EndsAt (span a) '\x7b'
  | fields (a : Nat) : EndsAt (field a) '\x7d'

end DirectivePart

namespace FilterDirective

/-- The beginnings of directives, with the part that they end in. -/
inductive Beginning : List Char → DirectivePart → Prop
  | start : Beginning [] .start
  /-- A target. -/
  | target {c : Char} {r : List Char} (hc : mayStart c = true) (hr : ∀ x ∈ r, x ≠ '=' ∧ x ≠ '[') :
    Beginning (c :: r) .name
  /-- An opening bracket and the name of a span, with or without a target in front. -/
  | span {x s : List Char} {part : DirectivePart} (hpart : part = .start ∨ part = .name)
    (h : Beginning x part) (hs : ∀ c ∈ s, c ≠ ']' ∧ c ≠ '\x7b') :
    Beginning (x ++ '[' :: s) (.span (byteCount x + 1))
  /-- An opening brace and a field. -/
  | field {x f : List Char} {a : Nat} (h : Beginning x (.span a)) (hf : ∀ c ∈ f, c ≠ '\x7d') :
    Beginning (x ++ '\x7b' :: f) (.field (byteCount x + 1))
  /-- A field in braces. -/
  | fields {x f : List Char} {a : Nat} (h : Beginning x (.span a)) (hf : ∀ c ∈ f, c ≠ '\x7d')
    (hne : f ≠ []) : Beginning (x ++ '\x7b' :: f ++ ['\x7d']) .fields
  /-- Brackets that are closed, around the name of a span or a field in braces behind it. -/
  | closed {x : List Char} {part : DirectivePart} (hpart : part = .fields ∨ ∃ a, part = .span a)
    (h : Beginning x part) : Beginning (x ++ [']']) .closed
  /-- An equals sign behind a target or brackets, and anything. -/
  | level {x : List Char} {part : DirectivePart} (hpart : part = .name ∨ part = .closed)
    (h : Beginning x part) (l : List Char) : Beginning (x ++ '=' :: l) (.level (byteCount x + 1))

/-- A directive without a level: a target, or brackets with or without a target in front. -/
def IsPlace (t : List Char) : Prop :=
  Beginning t .name ∨ Beginning t .closed

/-- A text that stands for a directive. -/
inductive IsDirective : List Char → Prop
  | place {t : List Char} (h : IsPlace t) : IsDirective t
  | level {x l : List Char} (h : IsPlace x) (hl : l = [] ∨ LogLevel.IsWritten l) :
    IsDirective (x ++ '=' :: l)

/-- The offsets at which parts are cut out of a text: where they begin and where they end. -/
inductive CutAt : List Char → Nat → Prop
  | ended {u r : List Char} {part : DirectivePart} {c : Char} {n : Nat} (h : Beginning u part)
    (hc : part.EndsAt c) (hn : part.begin? = some n ∨ n = byteCount u) : CutAt (u ++ c :: r) n
  | level {t : List Char} {a : Nat} (h : Beginning t (.level a)) : CutAt t a

variable {p t u r : List Char} {d d' : FilterDirective} {part part' : DirectivePart} {c : Char}
  {a b i n : Nat} {e : FilterError}

/-! ### Beginnings -/

/-- A part that is cut out begins between two characters. -/
theorem Beginning.isBoundary_begin (h : Beginning u part) (ha : part.begin? = some a) :
    IsBoundary u a := by
  have hbehind (x s : List Char) (c : Char) (hc : c.utf8Size = 1) :
      IsBoundary (x ++ c :: s) (byteCount x + 1) :=
    ⟨x ++ [c], by simp, by simp [hc]⟩
  cases h with
  | target => cases ha; exact Pieces.isBoundary_of_prefix List.nil_prefix
  | span => cases ha; exact hbehind _ _ '[' rfl
  | field => cases ha; exact hbehind _ _ '\x7b' rfl
  | level => cases ha; exact hbehind _ _ '=' rfl
  | start | fields | closed => cases ha

theorem Beginning.begin_le (h : Beginning u part) (ha : part.begin? = some a) :
    a ≤ byteCount u := by
  obtain ⟨x, ⟨r, rfl⟩, rfl⟩ := h.isBoundary_begin ha
  rw [Pieces.byteCount_append]
  exact Nat.le_add_right _ _

theorem Beginning.exists_level (h : Beginning t (.level a)) :
    ∃ x l, IsPlace x ∧ t = x ++ '=' :: l ∧ a = byteCount x + 1 := by
  cases h with
  | @level x part hpart h l =>
    refine ⟨x, l, ?_, rfl, rfl⟩
    rcases hpart with rfl | rfl
    · exact .inl h
    · exact .inr h

theorem IsPlace.level (h : IsPlace t) (l : List Char) :
    Beginning (t ++ '=' :: l) (.level (byteCount t + 1)) := by
  rcases h with h | h
  · exact .level (.inl rfl) h l
  · exact .level (.inr rfl) h l

/-- Behind a target there is a bracket or an equals sign. -/
theorem Beginning.exists_mark (h : Beginning t part) (hpart : part ≠ .start)
    (hname : part ≠ .name) : ∃ c ∈ t, c = '=' ∨ c = '[' := by
  induction h with
  | start => contradiction
  | target => contradiction
  | span => exact ⟨'[', by simp, .inr rfl⟩
  | field h hf ih =>
    obtain ⟨c, hmem, hc⟩ := ih nofun nofun
    exact ⟨c, List.mem_append_left _ hmem, hc⟩
  | fields h hf hne ih =>
    obtain ⟨c, hmem, hc⟩ := ih nofun nofun
    exact ⟨c, List.mem_append_left _ (List.mem_append_left _ hmem), hc⟩
  | closed hopen h ih =>
    obtain ⟨c, hmem, hc⟩ : ∃ c ∈ _, c = '=' ∨ c = '[' := by
      rcases hopen with rfl | ⟨a, rfl⟩ <;> exact ih nofun nofun
    exact ⟨c, List.mem_append_left _ hmem, hc⟩
  | level => exact ⟨'=', by simp, .inl rfl⟩

/-! ### Cuts -/

theorem slice_append (u s r : List Char) :
    slice (u ++ s ++ r) (byteCount u) (byteCount (u ++ s)) = .ok s := by
  have hrest : byteCount (u ++ s) - byteCount u = byteCount s := by
    rw [Pieces.byteCount_append, Nat.add_sub_cancel_left]
  rw [slice, List.append_assoc, Pieces.cut?_byteCount]
  simp only [hrest, Pieces.cut?_byteCount]

/-- A part can be cut out exactly if it begins and ends between two characters. -/
theorem slice_cases (h : a ≤ b) :
    (IsBoundary p a ∧ IsBoundary p b ∧ ∃ s, slice p a b = .ok s ∧ (s = [] ↔ a = b)) ∨
      ∃ n, (n = a ∨ n = b) ∧ ¬ IsBoundary p n ∧ slice p a b = .error (.splitsCharacter n p) := by
  by_cases ha : IsBoundary p a
  · by_cases hb : IsBoundary p b
    · refine .inl ⟨ha, hb, ?_⟩
      obtain ⟨u, hu, rfl⟩ := ha
      obtain ⟨v, hv, rfl⟩ := hb
      obtain ⟨s, rfl⟩ := Pieces.prefix_of_byteCount_le hu hv h
      obtain ⟨r, rfl⟩ := hv
      refine ⟨s, slice_append u s r, ?_⟩
      rw [← Pieces.byteCount_eq_zero_iff, Pieces.byteCount_append]
      omega
    · refine .inr ⟨b, .inr rfl, hb, ?_⟩
      obtain ⟨u, ⟨r, rfl⟩, rfl⟩ := ha
      have hnone : Pieces.cut? (b - byteCount u) r = none := by
        rw [Pieces.cut?_eq_none_iff]
        rintro ⟨v, ⟨w, rfl⟩, hv⟩
        exact hb ⟨u ++ v, by simp, by rw [Pieces.byteCount_append]; omega⟩
      simp only [slice, Pieces.cut?_byteCount, hnone]
  · refine .inr ⟨a, .inl rfl, ha, ?_⟩
    simp only [slice, Pieces.cut?_eq_none_iff.mpr ha]

/-! ### Steps of the scan -/

private theorem ok_of_map {α β : Type} {x : Except FilterError α} {f : α → β} {y : β}
    (h : x.map f = .ok y) : ∃ s, f s = y := by
  cases x with
  | error e => cases h
  | ok s => exact ⟨s, Except.ok.inj h⟩

/-- Scanning goes on from beginning to beginning. -/
theorem Beginning.step (h : Beginning u part)
    (hscan : scan p d part (byteCount u) c = .ok (d', part')) : Beginning (u ++ [c]) part' := by
  cases h with
  | start =>
    rw [scan] at hscan
    split at hscan
    · rename_i hc
      cases hscan
      subst hc
      exact .span (.inl rfl) .start (List.forall_mem_nil _)
    · split at hscan
      · rename_i hc
        cases hscan
        exact .target hc (List.forall_mem_nil _)
      · cases hscan
  | @target c₀ r hc hr =>
    rw [scan] at hscan
    split at hscan
    · rename_i hlevel
      obtain ⟨s, hs⟩ := ok_of_map hscan
      cases hs
      subst hlevel
      exact .level (.inl rfl) (.target hc hr) []
    · rename_i hlevel
      split at hscan
      · rename_i hbracket
        obtain ⟨s, hs⟩ := ok_of_map hscan
        cases hs
        subst hbracket
        exact .span (.inr rfl) (.target hc hr) (List.forall_mem_nil _)
      · rename_i hbracket
        cases hscan
        exact .target hc
          (List.forall_mem_append.mpr ⟨hr, List.forall_mem_singleton.mpr ⟨hlevel, hbracket⟩⟩)
  | @span x s part hpart h hs =>
    rw [scan] at hscan
    split at hscan
    · rename_i hclose
      obtain ⟨s', hs'⟩ := ok_of_map hscan
      cases hs'
      subst hclose
      exact .closed (.inr ⟨_, rfl⟩) (.span hpart h hs)
    · rename_i hclose
      split at hscan
      · rename_i hbrace
        obtain ⟨s', hs'⟩ := ok_of_map hscan
        cases hs'
        subst hbrace
        exact .field (.span hpart h hs) (List.forall_mem_nil _)
      · rename_i hbrace
        cases hscan
        rw [List.append_assoc]
        exact .span hpart h
          (List.forall_mem_append.mpr ⟨hs, List.forall_mem_singleton.mpr ⟨hclose, hbrace⟩⟩)
  | @field x f a h hf =>
    rw [scan] at hscan
    split at hscan
    · rename_i hbrace
      subst hbrace
      have hcount := Pieces.byteCount_append_cons (c := '\x7b') rfl x f
      rcases slice_cases (p := p) (a := byteCount x + 1) (b := byteCount (x ++ '\x7b' :: f))
        (by omega) with ⟨-, -, s, hs, hempty⟩ | ⟨n, -, -, hs⟩
      · rw [hs] at hscan
        cases s with
        | nil => cases hscan
        | cons s₀ s =>
          cases hscan
          refine .fields h hf ?_
          rintro rfl
          exact List.cons_ne_nil s₀ s (hempty.mpr hcount.symm)
      · rw [hs] at hscan
        cases hscan
    · rename_i hbrace
      cases hscan
      rw [List.append_assoc]
      exact .field h (List.forall_mem_append.mpr ⟨hf, List.forall_mem_singleton.mpr hbrace⟩)
  | fields h hf hne =>
    rw [scan] at hscan
    split at hscan
    · rename_i hclose
      cases hscan
      subst hclose
      exact .closed (.inl rfl) (.fields h hf hne)
    · cases hscan
  | closed hpart h =>
    rw [scan] at hscan
    split at hscan
    · rename_i hlevel
      cases hscan
      subst hlevel
      exact .level (.inr rfl) (.closed hpart h) []
    · cases hscan
  | level hpart h l =>
    rw [scan] at hscan
    cases hscan
    rw [List.append_assoc]
    exact .level hpart h (l ++ [c])

/-- At its end a part is cut out, and nothing else is cut then. -/
theorem scan_of_endsAt (hc : part.EndsAt c) (p : List Char) (d : FilterDirective) (i : Nat) :
    ∃ a, part.begin? = some a ∧
      ∃ k : List Char → Except FilterError (FilterDirective × DirectivePart),
      scan p d part i c = (slice p a i).bind k ∧ ∀ s n t, k s ≠ .error (.splitsCharacter n t) := by
  cases hc with
  | level =>
    refine ⟨0, rfl, fun s ↦ .ok ({ d with target := some s }, .level (i + 1)), ?_, nofun⟩
    rw [scan, if_pos rfl]
    cases slice p 0 i <;> rfl
  | brackets =>
    refine ⟨0, rfl, fun s ↦ .ok ({ d with target := some s }, .span (i + 1)), ?_, nofun⟩
    rw [scan, if_neg (by decide), if_pos rfl]
    cases slice p 0 i <;> rfl
  | span a =>
    refine ⟨a, rfl, fun s ↦ .ok ({ d with span := some s }, .closed), ?_, nofun⟩
    rw [scan, if_pos rfl]
    cases slice p a i <;> rfl
  | field a =>
    refine ⟨a, rfl, fun s ↦ .ok ({ d with span := if s.isEmpty then none else some s },
      .field (i + 1)), ?_, nofun⟩
    rw [scan, if_neg (by decide), if_pos rfl]
    cases slice p a i <;> rfl
  | fields a =>
    refine ⟨a, rfl, fun s ↦ if s.isEmpty then .error .malformed
      else .ok ({ d with fields := d.fields ++ [s] }, .fields), ?_, ?_⟩
    · rw [scan, if_pos rfl]
      rfl
    · intro s n t
      dsimp only
      split <;> nofun

/-- Before its end nothing is cut. -/
theorem scan_of_not_endsAt (hc : ¬ part.EndsAt c) :
    scan p d part i c ≠ .error (.splitsCharacter n t) := by
  have hne {part' : DirectivePart} {x : Char} (hx : part'.EndsAt x) (hpart : part = part') :
      c ≠ x := by
    rintro rfl
    exact hc (hpart ▸ hx)
  cases part with
  | name => rw [scan, if_neg (hne .level rfl), if_neg (hne .brackets rfl)]; nofun
  | span a => rw [scan, if_neg (hne (.span a) rfl), if_neg (hne (.field a) rfl)]; nofun
  | field a => rw [scan, if_neg (hne (.fields a) rfl)]; nofun
  | level a => rw [scan]; nofun
  | fields | closed => rw [scan]; split <;> nofun
  | start =>
    rw [scan]
    split
    · nofun
    · split <;> nofun

/-- Where the scan fails over a cut, a part ends that cannot be cut out. -/
theorem Beginning.cut_of_step (h : Beginning u part)
    (hscan : scan p d part (byteCount u) c = .error (.splitsCharacter n t)) :
    t = p ∧ ¬ IsBoundary p n ∧ part.EndsAt c ∧ (part.begin? = some n ∨ n = byteCount u) := by
  by_cases hc : part.EndsAt c
  · obtain ⟨a, ha, k, hk, hno⟩ := scan_of_endsAt hc p d (byteCount u)
    rw [hk] at hscan
    rcases slice_cases (p := p) (h.begin_le ha) with ⟨-, -, s, hs, -⟩ | ⟨m, hm, hp, hs⟩
    · rw [hs] at hscan
      exact absurd hscan (hno s n t)
    · rw [hs] at hscan
      cases hscan
      exact ⟨rfl, hp, hc, hm.imp_left fun hm ↦ by rw [hm, ha]⟩
  · exact absurd hscan (scan_of_not_endsAt hc)

/-- At the end of a part that cannot be cut out, the scan fails. -/
theorem Beginning.step_of_not_isBoundary (h : Beginning u part) (hc : part.EndsAt c)
    (hn : part.begin? = some n ∨ n = byteCount u) (hp : ¬ IsBoundary p n) :
    ∃ m, scan p d part (byteCount u) c = .error (.splitsCharacter m p) := by
  obtain ⟨a, ha, k, hk, -⟩ := scan_of_endsAt hc p d (byteCount u)
  rw [hk]
  rcases slice_cases (p := p) (h.begin_le ha) with ⟨hbegin, hend, -⟩ | ⟨m, -, -, hs⟩
  · rcases hn with hn | rfl
    · cases ha.symm.trans hn
      exact absurd hbegin hp
    · exact absurd hend hp
  · exact ⟨m, by rw [hs]; rfl⟩

/-! ### The whole scan -/

theorem scanAll_append (p : List Char) (d : FilterDirective) (part : DirectivePart) (i : Nat)
    (u r : List Char) : scanAll p d part i (u ++ r) =
      (scanAll p d part i u).bind fun x ↦ scanAll p x.1 x.2 (i + byteCount u) r := by
  induction u generalizing d part i with
  | nil => rfl
  | cons c u ih =>
    rw [List.cons_append, scanAll, scanAll]
    cases scan p d part i c with
    | error e => rfl
    | ok x =>
      rw [Pieces.byteCount_cons, ← Nat.add_assoc]
      exact ih x.1 x.2 (i + c.utf8Size)

theorem scanAll_singleton (p : List Char) (d : FilterDirective) (part : DirectivePart) (i : Nat)
    (c : Char) : scanAll p d part i [c] = scan p d part i c := by
  rw [scanAll]
  cases scan p d part i c <;> rfl

theorem scanAll_snoc (p u : List Char) (c : Char) : scanAll p {} .start 0 (u ++ [c]) =
    (scanAll p {} .start 0 u).bind fun x ↦ scan p x.1 x.2 (byteCount u) c := by
  rw [scanAll_append]
  simp only [scanAll_singleton, Nat.zero_add]

/-- What has been scanned is the beginning of a directive. -/
theorem beginning_of_scanAll (h : scanAll p {} .start 0 u = .ok (d, part)) : Beginning u part := by
  induction u using List.reverseRecOn generalizing d part with
  | nil =>
    cases h
    exact .start
  | append_singleton u c ih =>
    rw [scanAll_snoc] at h
    cases hu : scanAll p {} .start 0 u with
    | error e =>
      rw [hu] at h
      cases h
    | ok x =>
      rw [hu] at h
      exact (ih hu).step h

theorem CutAt.append (h : CutAt t n) (r : List Char) : CutAt (t ++ r) n := by
  cases h with
  | ended h hc hn =>
    rw [List.append_assoc]
    exact .ended h hc hn
  | level h =>
    cases h with
    | level hpart h l =>
      rw [List.append_assoc]
      exact .level (.level hpart h (l ++ r))

/-- Where the scan fails over a cut, there is one. -/
theorem cutAt_of_scanAll (h : scanAll p {} .start 0 t = .error (.splitsCharacter n u)) :
    u = p ∧ ¬ IsBoundary p n ∧ CutAt t n := by
  induction t using List.reverseRecOn with
  | nil => cases h
  | append_singleton t c ih =>
    rw [scanAll_snoc] at h
    cases ht : scanAll p {} .start 0 t with
    | error e =>
      rw [ht] at h
      cases h
      obtain ⟨hu, hp, hcut⟩ := ih ht
      exact ⟨hu, hp, hcut.append [c]⟩
    | ok x =>
      rw [ht] at h
      have hbegin : Beginning t x.2 := beginning_of_scanAll ht
      obtain ⟨hu, hp, hc, hn⟩ := hbegin.cut_of_step h
      exact ⟨hu, hp, .ended hbegin hc hn⟩

/-- The scan of a text leads from one part to another, unless a cut fails on the way. -/
def Leads (p : List Char) (part : DirectivePart) (i : Nat) (r : List Char) (part' : DirectivePart) :
    Prop :=
  ∀ d, (∃ d', scanAll p d part i r = .ok (d', part')) ∨
    ∃ n, scanAll p d part i r = .error (.splitsCharacter n p)

theorem Leads.append {part'' : DirectivePart} (h : Leads p part i u part')
    (hr : Leads p part' (i + byteCount u) r part'') : Leads p part i (u ++ r) part'' := by
  intro d
  rw [scanAll_append]
  rcases h d with ⟨d', hd'⟩ | ⟨n, hn⟩
  · rw [hd']
    exact hr d'
  · exact .inr ⟨n, by rw [hn]; rfl⟩

theorem leads_singleton (h : ∀ d, (∃ d', scan p d part i c = .ok (d', part')) ∨
    ∃ n, scan p d part i c = .error (.splitsCharacter n p)) : Leads p part i [c] part' := by
  intro d
  rw [scanAll_singleton]
  exact h d

/-- The scan stays at a part as long as every character leaves it there. -/
theorem leads_of_stays (h : ∀ c ∈ r, ∀ d i, scan p d part i c = .ok (d, part)) :
    Leads p part i r part := by
  induction r generalizing i with
  | nil => exact fun d ↦ .inl ⟨d, rfl⟩
  | cons c r ih =>
    refine Leads.append (u := [c]) (leads_singleton fun d ↦ .inl ⟨d, ?_⟩) (ih ?_)
    · exact h c List.mem_cons_self d i
    · exact fun x hx ↦ h x (List.mem_cons_of_mem c hx)

/-- At its end a part is cut out, and the scan goes on to the next one, unless the cut fails. -/
theorem Beginning.leads_of_endsAt (hu : Beginning u part) (hc : part.EndsAt c)
    (ha : part.begin? = some a)
    (h : ∀ d s, (s = [] ↔ a = byteCount u) → slice p a (byteCount u) = .ok s →
      ∃ d', scan p d part (byteCount u) c = .ok (d', part')) :
    Leads p part (byteCount u) [c] part' := by
  refine leads_singleton fun d ↦ ?_
  rcases slice_cases (p := p) (hu.begin_le ha) with ⟨-, -, s, hs, hempty⟩ | ⟨n, hn, hp, -⟩
  · exact .inl (h d s hempty hs)
  · exact .inr (hu.step_of_not_isBoundary hc (hn.imp_left fun hn ↦ by rw [hn, ha]) hp)

private theorem Beginning.leads_field (hx : Beginning u (.span a))
    (hlead : Leads p .start 0 u (.span a)) (hr : ∀ c ∈ r, c ≠ '\x7d') :
    Leads p .start 0 (u ++ '\x7b' :: r) (.field (byteCount u + 1)) := by
  have hopen : Leads p (.span a) (0 + byteCount u) ['\x7b'] (.field (byteCount u + 1)) := by
    rw [Nat.zero_add]
    exact hx.leads_of_endsAt (.field a) rfl fun d s _ hs ↦ ⟨_, by rw [scan, hs]; rfl⟩
  refine hlead.append (hopen.append (r := r) (leads_of_stays fun x hmem d i ↦ ?_))
  rw [scan, if_neg (hr x hmem)]

/-- Every beginning of a directive is scanned, unless a cut fails on the way. -/
theorem Beginning.leads (h : Beginning u part) : Leads p .start 0 u part := by
  induction h with
  | start => exact fun d ↦ .inl ⟨d, rfl⟩
  | @target c r hc hr =>
    have hbracket : c ≠ '[' := by
      rintro rfl
      revert hc
      decide +kernel
    have hfirst : Leads p .start 0 [c] .name :=
      leads_singleton fun d ↦ .inl ⟨d, by rw [scan, if_neg hbracket, if_pos hc]⟩
    refine hfirst.append (r := r) (leads_of_stays fun x hx d i ↦ ?_)
    rw [scan, if_neg (hr x hx).1, if_neg (hr x hx).2]
  | @span x s part hpart h hs ih =>
    have hopen : Leads p part (0 + byteCount x) ['['] (.span (byteCount x + 1)) := by
      rw [Nat.zero_add]
      rcases hpart with rfl | rfl
      · exact leads_singleton fun d ↦ .inl ⟨d, rfl⟩
      · exact h.leads_of_endsAt .brackets rfl fun d t _ ht ↦ ⟨_, by rw [scan, ht]; rfl⟩
    refine ih.append (hopen.append (r := s) (leads_of_stays fun y hy d i ↦ ?_))
    rw [scan, if_neg (hs y hy).1, if_neg (hs y hy).2]
  | field h hf ih => exact h.leads_field ih hf
  | @fields x f a h hf hne ih =>
    have hclose : Leads p (.field (byteCount x + 1)) (0 + byteCount (x ++ '\x7b' :: f)) ['\x7d']
        .fields := by
      rw [Nat.zero_add]
      refine (Beginning.field h hf).leads_of_endsAt (.fields _) rfl fun d s hempty hs ↦ ?_
      have hs' : s ≠ [] := by
        rw [ne_eq, hempty, Pieces.byteCount_append_cons rfl]
        exact fun heq ↦ hne (Pieces.byteCount_eq_zero_iff.mp (by omega))
      refine ⟨{ d with fields := d.fields ++ [s] }, ?_⟩
      rw [scan, if_pos rfl, hs]
      exact if_neg (mt List.isEmpty_iff.mp hs')
    exact (h.leads_field ih hf).append hclose
  | @closed x part hpart h ih =>
    have hclose : Leads p part (0 + byteCount x) [']'] .closed := by
      rw [Nat.zero_add]
      rcases hpart with rfl | ⟨a, rfl⟩
      · exact leads_singleton fun d ↦ .inl ⟨d, rfl⟩
      · exact h.leads_of_endsAt (.span a) rfl fun d t _ ht ↦ ⟨_, by rw [scan, ht]; rfl⟩
    exact ih.append hclose
  | @level x part hpart h l ih =>
    have hopen : Leads p part (0 + byteCount x) ['='] (.level (byteCount x + 1)) := by
      rw [Nat.zero_add]
      rcases hpart with rfl | rfl
      · exact h.leads_of_endsAt .level rfl fun d t _ ht ↦ ⟨_, by rw [scan, ht]; rfl⟩
      · exact leads_singleton fun d ↦ .inl ⟨d, rfl⟩
    exact ih.append (hopen.append (r := l) (leads_of_stays fun _ _ _ _ ↦ rfl))

/-! ### Pieces with blanks -/

/-- Where its blanks do not stand in the way, every cut of a text falls between two characters. -/
theorem CutAt.isBoundary (h : CutAt t n) : IsBoundary t n := by
  cases h with
  | @ended u r part c n h hc hn =>
    rcases hn with hn | rfl
    · obtain ⟨v, hv, rfl⟩ := h.isBoundary_begin hn
      exact Pieces.isBoundary_of_prefix (hv.trans (List.prefix_append u _))
    · exact Pieces.isBoundary_of_prefix (List.prefix_append u _)
  | level h => exact h.isBoundary_begin rfl

/-- Where there are no brackets and no equals sign, nothing is cut. -/
theorem CutAt.exists_mark (h : CutAt t n) : ∃ c ∈ t, c = '=' ∨ c = '[' := by
  cases h with
  | @ended u r part c n h hc hn =>
    have hinside (hpart : part ≠ .start) (hname : part ≠ .name) :
        ∃ x ∈ u ++ c :: r, x = '=' ∨ x = '[' := by
      obtain ⟨x, hmem, hx⟩ := h.exists_mark hpart hname
      exact ⟨x, List.mem_append_left _ hmem, hx⟩
    cases hc with
    | level => exact ⟨'=', by simp, .inl rfl⟩
    | brackets => exact ⟨'[', by simp, .inr rfl⟩
    | span | field | fields => exact hinside nofun nofun
  | level h => exact h.exists_mark nofun nofun

theorem sliceFrom_eq_ok_iff {s : List Char} : sliceFrom p a = .ok s ↔
    ∃ u, p = u ++ s ∧ byteCount u = a := by
  constructor
  · intro h
    rw [sliceFrom, slice] at h
    split at h
    · cases h
    · rename_i u rest hu
      obtain ⟨rfl, rfl⟩ := Pieces.cut?_eq_some_iff.mp hu
      split at h
      · cases h
      · rename_i taken left htaken
        cases h
        obtain ⟨rfl, hcount⟩ := Pieces.cut?_eq_some_iff.mp htaken
        -- All bytes are taken, so nothing is left.
        have hleft : left = [] := by
          rw [← Pieces.byteCount_eq_zero_iff]
          simp only [Pieces.byteCount_append] at hcount
          omega
        exact ⟨u, by rw [hleft, List.append_nil], rfl⟩
  · rintro ⟨u, rfl, rfl⟩
    have h := slice_append u s []
    rwa [List.append_nil] at h

/-- A directive is completed if its level is one, or not there. -/
theorem complete_level_ok_iff : (∃ d', complete p d (.level a) = .ok d') ↔
    ∃ s, sliceFrom p a = .ok s ∧ (s = [] ∨ LogLevel.IsWritten s) := by
  rw [complete]
  cases sliceFrom p a with
  | error e => exact iff_of_false nofun nofun
  | ok s =>
    simp only [bind, Except.bind, Except.ok.injEq, exists_eq_left', ← LogLevel.isSome_ofText?_iff]
    by_cases hs : s = []
    · rw [if_pos (List.isEmpty_iff.mpr hs)]
      exact iff_of_true ⟨d, rfl⟩ (.inl hs)
    · rw [if_neg (mt List.isEmpty_iff.mp hs), or_iff_right hs]
      cases LogLevel.ofText? s with
      | none => exact iff_of_false nofun nofun
      | some level => exact iff_of_true ⟨_, rfl⟩ rfl

/-- The only part that is cut out at the end of a text is the level. -/
theorem complete_splits_iff : complete p d part = .error (.splitsCharacter n t) ↔
    part = .level n ∧ t = p ∧ ¬ IsBoundary p n := by
  cases part with
  | level a =>
    rw [complete]
    by_cases hp : IsBoundary p a
    · obtain ⟨u, ⟨r, rfl⟩, rfl⟩ := hp
      rw [sliceFrom_eq_ok_iff.mpr ⟨u, rfl, rfl⟩]
      refine iff_of_false ?_ ?_
      · simp only [bind, Except.bind]
        split
        · nofun
        · split <;> nofun
      · rintro ⟨hpart, -, hp⟩
        cases hpart
        exact hp (Pieces.isBoundary_of_prefix (List.prefix_append u r))
    · have hslice : sliceFrom p a = .error (.splitsCharacter a p) := by
        rw [sliceFrom, slice, Pieces.cut?_eq_none_iff.mpr hp]
      rw [hslice]
      constructor
      · rintro ⟨⟩
        exact ⟨rfl, rfl, hp⟩
      · rintro ⟨⟨⟩, rfl, -⟩
        rfl
  | name =>
    rw [complete]
    split <;> exact iff_of_false nofun nofun
  | start | span | field | fields | closed => exact iff_of_false nofun nofun

theorem ofText_eq (p : List Char) : ofText p =
    (scanAll p {} .start 0 (trim p)).bind fun x ↦ complete p x.1 x.2 := rfl

/-- A cut inside a character is one of the cuts of the piece without its blanks. -/
theorem cutAt_of_ofText (h : ofText p = .error (.splitsCharacter n t)) :
    t = p ∧ CutAt (trim p) n ∧ ¬ IsBoundary p n := by
  rw [ofText_eq] at h
  cases hscan : scanAll p {} .start 0 (trim p) with
  | error e =>
    rw [hscan] at h
    cases h
    obtain ⟨ht, hp, hcut⟩ := cutAt_of_scanAll hscan
    exact ⟨ht, hcut, hp⟩
  | ok x =>
    rw [hscan] at h
    obtain ⟨hpart, ht, hp⟩ := complete_splits_iff.mp h
    exact ⟨ht, .level (hpart ▸ beginning_of_scanAll hscan), hp⟩

/-- A piece is not read beyond a cut inside a character. -/
theorem ofText_splits (h : CutAt (trim p) n) (hp : ¬ IsBoundary p n) :
    ∃ m, ofText p = .error (.splitsCharacter m p) := by
  rw [ofText_eq]
  generalize trim p = t at h
  cases h with
  | @ended u r part c n h hc hn =>
    rw [scanAll_append, Nat.zero_add]
    rcases h.leads (p := p) {} with ⟨d, hd⟩ | ⟨m, hm⟩
    · obtain ⟨m, hm⟩ := h.step_of_not_isBoundary (d := d) hc hn hp
      exact ⟨m, by rw [hd]; simp only [Except.bind, scanAll, hm, bind]⟩
    · exact ⟨m, by rw [hm]; rfl⟩
  | level h =>
    rcases h.leads (p := p) {} with ⟨d, hd⟩ | ⟨m, hm⟩
    · exact ⟨_, by rw [hd]; exact complete_splits_iff.mpr ⟨rfl, rfl, hp⟩⟩
    · exact ⟨m, by rw [hm]; rfl⟩

/-- What is cut out for a level is one, or nothing, only if no blanks stand around the piece. -/
theorem eq_trim_of_level {x l s : List Char} (htrim : trim p = x ++ '=' :: l)
    (hs : sliceFrom p (byteCount x + 1) = .ok s) (hlevel : s = [] ∨ LogLevel.IsWritten s) :
    trim p = p ∧ s = l := by
  obtain ⟨front, back, hp, hblank⟩ := Blank.exists_eq_append_trim p
  obtain ⟨u, hu, hcount⟩ := sliceFrom_eq_ok_iff.mp hs
  have hgood (c : Char) (hc : c = '=' ∨ Blank.isBlank c = true) : c ∉ s := by
    rcases hlevel with rfl | hlevel
    · exact List.not_mem_nil
    · exact hlevel.not_mem hc
  have htext : u ++ s = front ++ x ++ '=' :: (l ++ back) := by
    rw [← hu, hp, htrim]
    simp only [List.append_assoc, List.cons_append]
  by_cases hfront : front = []
  · -- The level is cut out with the blanks behind it.
    subst hfront
    have hbegin : u = x ++ ['='] := by
      refine Pieces.eq_of_byteCount_eq (s := u ++ s) (List.prefix_append u s) ?_ ?_
      · exact ⟨l ++ back, by rw [htext]; simp⟩
      · rw [hcount, Pieces.byteCount_append_cons rfl]
        rfl
    have hsl : s = l ++ back := by
      rw [hbegin] at htext
      simpa using htext
    have hback : back = [] := by
      rw [List.eq_nil_iff_forall_not_mem]
      intro c hc
      exact hgood c (.inr (hblank c (List.mem_append_right [] hc)))
        (hsl ▸ List.mem_append_right l hc)
    subst hback
    exact ⟨by simpa using hp.symm, by simpa using hsl⟩
  · -- The cut comes too early, and takes the equals sign along.
    have hpos : byteCount front ≠ 0 := mt Pieces.byteCount_eq_zero_iff.mp hfront
    have hearly : u <+: front ++ x := by
      refine Pieces.prefix_of_byteCount_le (s := u ++ s) (List.prefix_append u s) ?_ ?_
      · exact ⟨'=' :: (l ++ back), htext.symm⟩
      · rw [hcount, Pieces.byteCount_append]
        omega
    obtain ⟨v, hv⟩ := hearly
    rw [← hv, List.append_assoc] at htext
    have hsv : s = v ++ '=' :: (l ++ back) := List.append_cancel_left htext
    exact absurd (hsv ▸ List.mem_append_right v List.mem_cons_self) (hgood '=' (.inl rfl))

/-- Every cut of the piece without its blanks falls between two characters of the piece. -/
def IsEvenlyCut (p : List Char) : Prop :=
  ∀ n, CutAt (trim p) n → IsBoundary p n

theorem isEvenlyCut_of_trim (h : trim p = p) : IsEvenlyCut p := by
  intro n hcut
  rw [h] at hcut
  exact hcut.isBoundary

/-- A beginning in an evenly cut piece is scanned. -/
theorem IsEvenlyCut.scan (h : IsEvenlyCut p) (hbegin : Beginning (trim p) part) :
    ∃ d, scanAll p {} .start 0 (trim p) = .ok (d, part) := by
  rcases hbegin.leads (p := p) {} with hd | ⟨n, hn⟩
  · exact hd
  · obtain ⟨-, hp, hcut⟩ := cutAt_of_scanAll hn
    exact absurd (h n hcut) hp

theorem isEvenlyCut_of_ofText (h : ofText p = .ok d) : IsEvenlyCut p := by
  intro n hcut
  by_contra hp
  obtain ⟨m, hm⟩ := ofText_splits hcut hp
  cases h.symm.trans hm

theorem IsEvenlyCut.ofText_of_isPlace (h : IsEvenlyCut p) (hplace : IsPlace (trim p)) :
    ∃ d, ofText p = .ok d := by
  rcases hplace with hbegin | hbegin
  · obtain ⟨d, hd⟩ := h.scan hbegin
    rw [ofText_eq, hd]
    show ∃ d', complete p d .name = .ok d'
    rw [complete]
    split <;> exact ⟨_, rfl⟩
  · obtain ⟨d, hd⟩ := h.scan hbegin
    exact ⟨d, by rw [ofText_eq, hd]; rfl⟩

/-- **Which pieces are read.** A piece is read if it stands for a directive once the blanks around
it are taken away, and if there are none or the directive has no level and is cut between
characters. -/
theorem exists_ofText_iff : (∃ d, ofText p = .ok d) ↔
    IsDirective (trim p) ∧ (trim p = p ∨ IsPlace (trim p) ∧ IsEvenlyCut p) := by
  constructor
  · rintro ⟨d, hd⟩
    have heven : IsEvenlyCut p := isEvenlyCut_of_ofText hd
    rw [ofText_eq] at hd
    cases hscan : scanAll p {} .start 0 (trim p) with
    | error e =>
      rw [hscan] at hd
      cases hd
    | ok x =>
      obtain ⟨d₀, part⟩ := x
      rw [hscan] at hd
      have hbegin : Beginning (trim p) part := beginning_of_scanAll hscan
      have hcomplete : complete p d₀ part = .ok d := hd
      cases part with
      | name => exact ⟨.place (.inl hbegin), .inr ⟨.inl hbegin, heven⟩⟩
      | closed => exact ⟨.place (.inr hbegin), .inr ⟨.inr hbegin, heven⟩⟩
      | level a =>
        obtain ⟨x, l, hx, htrim, rfl⟩ := hbegin.exists_level
        obtain ⟨s, hs, hlevel⟩ := complete_level_ok_iff.mp ⟨d, hcomplete⟩
        obtain ⟨hp, rfl⟩ := eq_trim_of_level htrim hs hlevel
        exact ⟨htrim ▸ .level hx hlevel, .inl hp⟩
      | start | span | field | fields => cases hcomplete
  · rintro ⟨hdirective, hblank⟩
    have heven : IsEvenlyCut p := by
      rcases hblank with hp | ⟨-, heven⟩
      · exact isEvenlyCut_of_trim hp
      · exact heven
    by_cases hplace : IsPlace (trim p)
    · exact heven.ofText_of_isPlace hplace
    · have hp : trim p = p := hblank.resolve_right fun h ↦ hplace h.1
      rw [hp] at hdirective hplace
      cases hdirective with
      | place h => exact absurd h hplace
      | @level x l hx hl =>
        obtain ⟨d, hd⟩ := heven.scan (hp.symm ▸ hx.level l)
        rw [ofText_eq, hd]
        refine complete_level_ok_iff.mpr ⟨l, sliceFrom_eq_ok_iff.mpr ⟨x ++ ['='], by simp, ?_⟩, hl⟩
        exact Pieces.byteCount_append_cons rfl x []

end FilterDirective

end BoundedPipelining
