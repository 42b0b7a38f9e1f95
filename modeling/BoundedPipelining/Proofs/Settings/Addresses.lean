import BoundedPipelining.Proofs.Text.Numerals
import BoundedPipelining.Proofs.Text.Separated
import BoundedPipelining.Settings.SocketAddress

/-!
# How socket addresses are written

`SocketAddress.ofText?` cuts a text at its marks, one kind of mark after the other. `IsWritten`
builds the texts up instead: numbers, octets and groups, four octets with dots between them, groups
with colons between them, at most one gap, and around them the brackets, the scope and the number of
the service.

The two agree because no part has a mark in it that the text is cut at later, so each cut is where
the text was put together.
-/

namespace BoundedPipelining

namespace SocketAddress

/-! ## Written forms -/

/-- A decimal number up to a greatest one. -/
structure IsNumber (greatest : Nat) (s : List Char) : Prop where
  ne_nil : s ≠ []
  digits : ∀ c ∈ s, c.isDigit = true
  le : Numeral.value 10 s ≤ greatest

/-- A number up to 255 without leading zeros. -/
structure IsOctet (s : List Char) : Prop where
  number : IsNumber 255 s
  leading : s.head? = some '0' → s.length = 1

/-- Four octets with dots between them. -/
inductive IsFour : List Char → Prop
  | mk {a b c d : List Char} (ha : IsOctet a) (hb : IsOctet b) (hc : IsOctet c) (hd : IsOctet d) :
    IsFour (a ++ '.' :: (b ++ '.' :: (c ++ '.' :: d)))

/-- One to four hexadecimal digits. -/
structure IsGroup (s : List Char) : Prop where
  ne_nil : s ≠ []
  length_le : s.length ≤ 4
  digits : ∀ c ∈ s, Numeral.isDigit 16 c = true

/-- So many groups with colons between them. Four octets stand for the last two if `octets` allows
it. -/
inductive IsGroups (octets : Bool) : List Char → Nat → Prop
  | group {s : List Char} (h : IsGroup s) : IsGroups octets s 1
  | four {s : List Char} (hoctets : octets = true) (h : IsFour s) : IsGroups octets s 2
  | cons {g s : List Char} {n : Nat} (hg : IsGroup g) (h : IsGroups octets s n) :
    IsGroups octets (g ++ ':' :: s) (n + 1)

/-- So many groups with colons between them, or nothing. -/
inductive IsSide (octets : Bool) : List Char → Nat → Prop
  | nothing : IsSide octets [] 0
  | groups {s : List Char} {n : Nat} (h : IsGroups octets s n) : IsSide octets s n

/-- Eight groups, or two colons for one group or more that are missing. -/
inductive IsEight : List Char → Prop
  | all {s : List Char} (h : IsSide true s 8) : IsEight s
  | gap {front back : List Char} {a b : Nat} (hfront : IsSide false front a)
    (hback : IsSide true back b) (hle : a + b ≤ 7) : IsEight (front ++ ':' :: ':' :: back)

/-- Eight groups, and a scope behind a percent sign if there is one. -/
inductive IsInside : List Char → Prop
  | plain {s : List Char} (h : IsEight s) : IsInside s
  | withScope {s n : List Char} (h : IsEight s) (hn : IsNumber 4294967295 n) :
    IsInside (s ++ '%' :: n)

/-- The texts that stand for a socket address. -/
inductive IsWritten : List Char → Prop
  | four {s n : List Char} (h : IsFour s) (hn : IsNumber 65535 n) : IsWritten (s ++ ':' :: n)
  | six {s n : List Char} (h : IsInside s) (hn : IsNumber 65535 n) :
    IsWritten ('[' :: (s ++ ']' :: ':' :: n))

variable {s a b r p : List Char} {c : Char} {n greatest : Nat} {octets : Bool}

/-! ## Numbers, octets and groups -/

theorem exists_number?_iff : (∃ k, number? greatest s = some k) ↔ IsNumber greatest s := by
  constructor
  · rintro ⟨k, hk⟩
    obtain ⟨hread, hle⟩ := Option.filter_eq_some_iff.mp hk
    obtain ⟨hne, hdigits, rfl⟩ := Numeral.read?_ten_eq_some_iff.mp hread
    exact ⟨hne, hdigits, of_decide_eq_true hle⟩
  · rintro ⟨hne, hdigits, hle⟩
    have hread := Numeral.read?_ten_eq_some_iff.mpr ⟨hne, hdigits, rfl⟩
    exact ⟨_, Option.filter_eq_some_iff.mpr ⟨hread, decide_eq_true hle⟩⟩

theorem exists_octet?_iff : (∃ k, octet? s = some k) ↔ IsOctet s := by
  rw [octet?]
  by_cases hzero : s.head? = some '0' ∧ s.length ≠ 1
  · rw [if_pos hzero]
    exact iff_of_false nofun fun h ↦ hzero.2 (h.leading hzero.1)
  · rw [if_neg hzero, exists_number?_iff]
    exact ⟨fun h ↦ ⟨h, by simpa using hzero⟩, IsOctet.number⟩

theorem exists_group?_iff : (∃ k, group? s = some k) ↔ IsGroup s := by
  have hread (hlength : s.length ≤ 4) : (!s.isEmpty && s.all (Numeral.isDigit 16)) = true ↔
      IsGroup s := by
    rw [Bool.and_eq_true_iff, Bool.not_eq_true', List.isEmpty_eq_false_iff, List.all_eq_true]
    exact ⟨fun h ↦ ⟨h.1, hlength, h.2⟩, fun h ↦ ⟨h.ne_nil, h.digits⟩⟩
  rw [group?]
  by_cases hlength : s.length ≤ 4
  · rw [if_pos hlength, Numeral.read?, ← hread hlength]
    simp
  · rw [if_neg hlength]
    refine iff_of_false ?_ fun h ↦ hlength h.length_le
    simp

/-! ## Marks -/

/-- The characters between the parts of an address. -/
def marks : List Char :=
  "[]:.%".toList

theorem IsNumber.not_mem (h : IsNumber greatest s) (hc : c ∈ marks) : c ∉ s := by
  have hmarks : (marks.all fun c ↦ !c.isDigit) = true := by decide
  intro hmem
  have hno : (!c.isDigit) = true := List.all_eq_true.mp hmarks c hc
  rw [h.digits c hmem] at hno
  cases hno

theorem IsGroup.not_mem (h : IsGroup s) (hc : c ∈ marks) : c ∉ s := by
  have hmarks : (marks.all fun c ↦ !Numeral.isDigit 16 c) = true := by decide
  intro hmem
  have hno : (!Numeral.isDigit 16 c) = true := List.all_eq_true.mp hmarks c hc
  rw [h.digits c hmem] at hno
  cases hno

theorem IsFour.not_mem (h : IsFour s) (hc : c ∈ marks) (hdot : c ≠ '.') : c ∉ s := by
  cases h with
  | mk ha hb hc' hd =>
    simp [hdot, ha.number.not_mem hc, hb.number.not_mem hc, hc'.number.not_mem hc,
      hd.number.not_mem hc]

theorem IsGroups.not_mem (h : IsGroups octets s n) (hc : c ∈ marks) (hdot : c ≠ '.')
    (hcolon : c ≠ ':') : c ∉ s := by
  induction h with
  | group h => exact h.not_mem hc
  | four _ h => exact h.not_mem hc hdot
  | cons hg _ ih => simp [hcolon, hg.not_mem hc, ih]

theorem IsSide.not_mem (h : IsSide octets s n) (hc : c ∈ marks) (hdot : c ≠ '.')
    (hcolon : c ≠ ':') : c ∉ s := by
  cases h with
  | nothing => exact List.not_mem_nil
  | groups h => exact h.not_mem hc hdot hcolon

theorem IsEight.not_mem (h : IsEight s) (hc : c ∈ marks) (hdot : c ≠ '.') (hcolon : c ≠ ':') :
    c ∉ s := by
  cases h with
  | all h => exact h.not_mem hc hdot hcolon
  | gap hfront hback _ =>
    simp [hcolon, hfront.not_mem hc hdot hcolon, hback.not_mem hc hdot hcolon]

/-! ## Groups -/

theorem split_of_isFour (h : IsFour s) : ∃ a b c d, Pieces.split '.' s = [a, b, c, d] ∧
    IsOctet a ∧ IsOctet b ∧ IsOctet c ∧ IsOctet d := by
  obtain ⟨ha, hb, hc, hd⟩ := h
  have hdot {x : List Char} (hx : IsOctet x) : Pieces.split '.' x = [x] :=
    Pieces.split_of_not_mem (hx.number.not_mem (by decide))
  refine ⟨_, _, _, _, ?_, ha, hb, hc, hd⟩
  simp only [Pieces.split_append_cons, hdot ha, hdot hb, hdot hc, hdot hd, List.cons_append,
    List.nil_append]

theorem exists_octets? (h : IsFour s) : ∃ a b c d, octets? s = some [a, b, c, d] := by
  obtain ⟨a, b, c, d, hs, ha, hb, hc, hd⟩ := split_of_isFour h
  obtain ⟨i, hi⟩ := exists_octet?_iff.mpr ha
  obtain ⟨j, hj⟩ := exists_octet?_iff.mpr hb
  obtain ⟨k, hk⟩ := exists_octet?_iff.mpr hc
  obtain ⟨l, hl⟩ := exists_octet?_iff.mpr hd
  refine ⟨i, j, k, l, ?_⟩
  rw [octets?, hs]
  simp [List.mapM_cons, hi, hj, hk, hl]

theorem isFour_of_octets? {l : List Nat} (h : octets? s = some l) :
    IsFour s ∧ ∃ a b c d, l = [a, b, c, d] := by
  have hoctet {x : List Char} {n : Nat} (hx : octet? x = some n) : IsOctet x :=
    exists_octet?_iff.mp ⟨n, hx⟩
  rw [octets?] at h
  split at h
  · rename_i hlength
    obtain ⟨a, b, c, d, hs⟩ : ∃ a b c d, Pieces.split '.' s = [a, b, c, d] := by
      generalize Pieces.split '.' s = pieces at hlength
      match pieces, hlength with
      | [a, b, c, d], _ => exact ⟨a, b, c, d, rfl⟩
    have hwhole : s = a ++ '.' :: (b ++ '.' :: (c ++ '.' :: d)) := by
      rw [← Pieces.intercalate_split '.' s, hs]
      simp [List.intercalate_cons_cons]
    rw [hs] at h
    simp only [List.mapM_cons, List.mapM_nil, bind, Option.bind_eq_some_iff, pure,
      Option.some.injEq] at h
    obtain ⟨i, hi, _, ⟨j, hj, _, ⟨k, hk, _, ⟨m, hm, _, rfl, rfl⟩, rfl⟩, rfl⟩, rfl⟩ := h
    exact ⟨hwhole ▸ ⟨hoctet hi, hoctet hj, hoctet hk, hoctet hm⟩, i, j, k, m, rfl⟩
  · cases h

theorem not_isGroup_of_isFour (h : IsFour s) : ¬ IsGroup s := by
  intro hgroup
  obtain ⟨ha, hb, hc, hd⟩ := h
  exact hgroup.not_mem (c := '.') (by decide) (List.mem_append_right _ List.mem_cons_self)

/-- The last piece is a group, or four octets. -/
theorem exists_groups?_singleton : (∃ gs, groups? octets [p] = some gs ∧ gs.length = n) ↔
    (IsGroup p ∧ n = 1) ∨ (octets = true ∧ IsFour p ∧ n = 2) := by
  rw [groups?.eq_def]
  dsimp only
  cases hgroup : group? p with
  | some g =>
    have hp : IsGroup p := exists_group?_iff.mp ⟨g, hgroup⟩
    have hfour : ¬ IsFour p := fun h ↦ not_isGroup_of_isFour h hp
    simp [hp, hfour, eq_comm]
  | none =>
    have hp : ¬ IsGroup p := fun h ↦ by simpa [hgroup] using exists_group?_iff.mpr h
    by_cases hfour : IsFour p
    · obtain ⟨a, b, c, d, hoctets⟩ := exists_octets? hfour
      cases octets <;> simp [hp, hfour, hoctets, eq_comm]
    · have hnone : octets? p = none := by
        rw [Option.eq_none_iff_forall_ne_some]
        exact fun l hl ↦ hfour (isFour_of_octets? hl).1
      simp [hp, hfour, hnone]

theorem groups?_cons_cons (octets : Bool) (p q : List Char) (rest : List (List Char)) :
    groups? octets (p :: q :: rest) =
      (group? p).bind fun g ↦ (groups? octets (q :: rest)).bind fun gs ↦ some (g :: gs) := rfl

/-- Groups are read from the pieces between colons. -/
theorem isGroups_of_groups? {pieces : List (List Char)} {gs : List Nat} (hne : pieces ≠ [])
    (h : groups? octets pieces = some gs) :
    IsGroups octets ([':'].intercalate pieces) gs.length := by
  induction pieces generalizing gs with
  | nil => contradiction
  | cons p more ih =>
    cases more with
    | nil =>
      rw [List.intercalate_singleton]
      rcases exists_groups?_singleton.mp ⟨gs, h, rfl⟩ with ⟨hp, hlength⟩ | ⟨hoctets, hp, hlength⟩
      · exact hlength ▸ .group hp
      · exact hlength ▸ .four hoctets hp
    | cons q rest =>
      rw [groups?_cons_cons] at h
      simp only [Option.bind_eq_some_iff, Option.some.injEq] at h
      obtain ⟨g, hg, gs', hgs', rfl⟩ := h
      rw [List.intercalate_cons_cons, List.append_assoc]
      exact .cons (exists_group?_iff.mp ⟨g, hg⟩) (ih (List.cons_ne_nil q rest) hgs')

theorem exists_groups? (h : IsGroups octets s n) :
    ∃ gs, groups? octets (Pieces.split ':' s) = some gs ∧ gs.length = n := by
  induction h with
  | group h =>
    rw [Pieces.split_of_not_mem (h.not_mem (by decide)), exists_groups?_singleton]
    exact .inl ⟨h, rfl⟩
  | four hoctets h =>
    rw [Pieces.split_of_not_mem (h.not_mem (by decide) (by decide)), exists_groups?_singleton]
    exact .inr ⟨hoctets, h, rfl⟩
  | @cons g s n hg h ih =>
    obtain ⟨gs, hgs, rfl⟩ := ih
    obtain ⟨v, hv⟩ := exists_group?_iff.mpr hg
    obtain ⟨q, rest, hsplit⟩ := List.exists_cons_of_ne_nil (List.splitOn_ne_nil ':' s)
    rw [← Pieces.split_eq_splitOn] at hsplit
    refine ⟨v :: gs, ?_, rfl⟩
    rw [hsplit] at hgs
    rw [Pieces.split_append_cons, Pieces.split_of_not_mem (hg.not_mem (by decide)), hsplit,
      List.singleton_append, groups?_cons_cons, hv, hgs]
    rfl

/-- Groups begin with a digit. -/
theorem IsGroups.head?_ne (h : IsGroups octets s n) (hc : c ∈ marks) :
    s ≠ [] ∧ s.head? ≠ some c := by
  have hhead {x : List Char} (hne : x ≠ []) (hx : c ∉ x) (r : List Char) :
      x ++ r ≠ [] ∧ (x ++ r).head? ≠ some c := by
    obtain ⟨y, x, rfl⟩ := List.exists_cons_of_ne_nil hne
    refine ⟨List.cons_ne_nil _ _, ?_⟩
    rintro ⟨⟩
    exact hx List.mem_cons_self
  cases h with
  | group h => simpa using hhead h.ne_nil (h.not_mem hc) []
  | four _ h =>
    obtain ⟨ha, hb, hc', hd⟩ := h
    exact hhead ha.number.ne_nil (ha.number.not_mem hc) _
  | cons hg _ => exact hhead hg.ne_nil (hg.not_mem hc) _

theorem exists_side?_iff :
    (∃ gs, side? octets s = some gs ∧ gs.length = n) ↔ IsSide octets s n := by
  rw [side?]
  by_cases hs : s = []
  · subst hs
    constructor
    · rintro ⟨gs, ⟨⟩, rfl⟩
      exact .nothing
    · rintro (_ | h)
      · exact ⟨[], rfl, rfl⟩
      · exact absurd rfl (h.head?_ne (c := ':') (by decide)).1
  · rw [if_neg (mt List.isEmpty_iff.mp hs)]
    constructor
    · rintro ⟨gs, hgs, rfl⟩
      have hne : Pieces.split ':' s ≠ [] :=
        Pieces.split_eq_splitOn ':' s ▸ List.splitOn_ne_nil ':' s
      have h := isGroups_of_groups? hne hgs
      rw [Pieces.intercalate_split] at h
      exact .groups h
    · rintro (_ | h)
      · contradiction
      · exact exists_groups? h

/-! ## The gap -/

theorem eq_of_splitGap? (h : splitGap? s = some (a, b)) : s = a ++ ':' :: ':' :: b := by
  induction s generalizing a b with
  | nil => cases h
  | cons c s ih =>
    rw [splitGap?.eq_def] at h
    split at h
    · rename_i heq
      cases heq
      cases h
      rfl
    · rename_i heq
      cases heq
      obtain ⟨⟨x, y⟩, hxy, hab⟩ := Option.map_eq_some_iff.mp h
      cases hab
      rw [ih hxy]
      rfl
    · cases h

theorem splitGap?_cons (h : c ≠ ':' ∨ r.head? ≠ some ':') :
    splitGap? (c :: r) = (splitGap? r).map fun x ↦ (c :: x.1, x.2) := by
  rw [splitGap?.eq_def]
  split
  · rename_i heq
    cases heq
    rcases h with h | h
    · exact absurd rfl h
    · exact absurd rfl h
  · rename_i heq
    cases heq
    rfl
  · contradiction

theorem splitGap?_append (h : ':' ∉ s) (r : List Char) :
    splitGap? (s ++ r) = (splitGap? r).map fun x ↦ (s ++ x.1, x.2) := by
  induction s with
  | nil => simp
  | cons c s ih =>
    rw [List.mem_cons, not_or] at h
    rw [List.cons_append, splitGap?_cons (.inl (Ne.symm h.1)), ih h.2, Option.map_map]
    rfl

/-- There is no gap within groups. -/
theorem IsGroups.splitGap?_append (h : IsGroups octets s n) (r : List Char) :
    splitGap? (s ++ r) = (splitGap? r).map fun x ↦ (s ++ x.1, x.2) := by
  induction h with
  | group h => exact SocketAddress.splitGap?_append (h.not_mem (by decide)) r
  | four _ h => exact SocketAddress.splitGap?_append (h.not_mem (by decide) (by decide)) r
  | @cons g s n hg h ih =>
    have hhead : (s ++ r).head? ≠ some ':' := by
      obtain ⟨hne, hhead⟩ := h.head?_ne (c := ':') (by decide)
      rwa [List.head?_append, Option.or_of_isSome (List.isSome_head?.mpr hne)]
    rw [List.append_assoc, SocketAddress.splitGap?_append (hg.not_mem (by decide)),
      List.cons_append, splitGap?_cons (.inr hhead), ih, Option.map_map, Option.map_map]
    simp [Function.comp_def]

theorem IsSide.splitGap?_append (h : IsSide octets s n) (r : List Char) :
    splitGap? (s ++ r) = (splitGap? r).map fun x ↦ (s ++ x.1, x.2) := by
  cases h with
  | nothing => simp
  | groups h => exact h.splitGap?_append r

theorem exists_eightGroups?_iff : (∃ gs, eightGroups? s = some gs) ↔ IsEight s := by
  constructor
  · rintro ⟨gs, h⟩
    rw [eightGroups?] at h
    split at h
    · obtain ⟨hside, hlength⟩ := Option.filter_eq_some_iff.mp h
      exact .all (exists_side?_iff.mp ⟨gs, hside, of_decide_eq_true hlength⟩)
    · rename_i front back hgap
      simp only [bind, Option.bind_eq_some_iff] at h
      obtain ⟨f, hf, g, hg, h⟩ := h
      split at h
      · rename_i hle
        rw [eq_of_splitGap? hgap]
        exact .gap (exists_side?_iff.mp ⟨f, hf, rfl⟩) (exists_side?_iff.mp ⟨g, hg, rfl⟩) hle
      · cases h
  · intro h
    cases h with
    | all h =>
      obtain ⟨gs, hside, hlength⟩ := exists_side?_iff.mpr h
      have hgap : splitGap? s = none := by
        have := h.splitGap?_append []
        rwa [List.append_nil] at this
      refine ⟨gs, ?_⟩
      rw [eightGroups?, hgap]
      exact Option.filter_eq_some_iff.mpr ⟨hside, decide_eq_true hlength⟩
    | @gap front back a b hfront hback hle =>
      obtain ⟨f, hf, rfl⟩ := exists_side?_iff.mpr hfront
      obtain ⟨g, hg, rfl⟩ := exists_side?_iff.mpr hback
      have hgap : splitGap? (front ++ ':' :: ':' :: back) = some (front, back) := by
        rw [hfront.splitGap?_append]
        simp [splitGap?]
      rw [eightGroups?, hgap]
      simp [hf, hg, hle]

/-! ## Whole addresses -/

theorem cutAt?_append (h : c ∉ a) (r : List Char) : cutAt? c (a ++ c :: r) = some (a, r) := by
  have hbefore : ∀ x ∈ a, (x != c) = true := by
    intro x hx
    rw [bne_iff_ne]
    rintro rfl
    exact h hx
  rw [cutAt?, List.dropWhile_append_of_pos hbefore, List.takeWhile_append_of_pos hbefore]
  simp

theorem eq_of_cutAt? (h : cutAt? c s = some (a, r)) : s = a ++ c :: r := by
  rw [cutAt?] at h
  split at h
  · rename_i x rest hdrop
    cases h
    have hx : x = c := by
      have hhead := List.head?_dropWhile_not (· != c) s
      rw [hdrop] at hhead
      simpa using hhead
    exact (List.takeWhile_append_dropWhile.symm.trans (by rw [hdrop, hx]))
  · cases h

theorem cutAt?_of_not_mem (h : c ∉ s) : cutAt? c s = none := by
  rw [Option.eq_none_iff_forall_ne_some]
  rintro ⟨a, r⟩ hcut
  exact h (eq_of_cutAt? hcut ▸ List.mem_append_right a List.mem_cons_self)

theorem exists_inBrackets?_iff : (∃ x, inBrackets? s = some x) ↔ IsInside s := by
  constructor
  · rintro ⟨x, h⟩
    rw [inBrackets?] at h
    split at h
    · obtain ⟨gs, hgs, -⟩ := Option.map_eq_some_iff.mp h
      exact .plain (exists_eightGroups?_iff.mp ⟨gs, hgs⟩)
    · rename_i front scope hcut
      simp only [bind, Option.bind_eq_some_iff] at h
      obtain ⟨gs, hgs, n, hn, -⟩ := h
      rw [eq_of_cutAt? hcut]
      exact .withScope (exists_eightGroups?_iff.mp ⟨gs, hgs⟩) (exists_number?_iff.mp ⟨n, hn⟩)
  · intro h
    cases h with
    | plain h =>
      obtain ⟨gs, hgs⟩ := exists_eightGroups?_iff.mpr h
      have hcut : cutAt? '%' s = none :=
        cutAt?_of_not_mem (h.not_mem (by decide) (by decide) (by decide))
      exact ⟨(gs, 0), by rw [inBrackets?, hcut, hgs]; rfl⟩
    | @withScope s n h hn =>
      obtain ⟨gs, hgs⟩ := exists_eightGroups?_iff.mpr h
      obtain ⟨k, hk⟩ := exists_number?_iff.mpr hn
      have hcut : cutAt? '%' (s ++ '%' :: n) = some (s, n) :=
        cutAt?_append (h.not_mem (by decide) (by decide) (by decide)) n
      exact ⟨(gs, k), by rw [inBrackets?, hcut]; simp [hgs, hk]⟩

theorem IsInside.not_mem (h : IsInside s) : ']' ∉ s := by
  cases h with
  | plain h => exact h.not_mem (by decide) (by decide) (by decide)
  | withScope h hn =>
    have hs := h.not_mem (c := ']') (by decide) (by decide) (by decide)
    simp [hs, hn.not_mem (c := ']') (by decide)]

/-- **How socket addresses are written.** Exactly the written forms are read. -/
theorem isSome_ofText?_iff : (ofText? s).isSome = true ↔ IsWritten s := by
  rw [Option.isSome_iff_exists]
  constructor
  · rintro ⟨address, h⟩
    rw [ofText?.eq_def] at h
    split at h
    · simp only [bind, Option.bind_eq_some_iff] at h
      obtain ⟨⟨inside, rest⟩, hcut, ⟨groups, scope⟩, hinside, service, hservice, -⟩ := h
      rw [eq_of_cutAt? hcut]
      dsimp only at hinside hservice
      rw [afterBracket?.eq_def] at hservice
      split at hservice
      · exact .six (exists_inBrackets?_iff.mp ⟨_, hinside⟩)
          (exists_number?_iff.mp ⟨service, hservice⟩)
      · cases hservice
    · simp only [bind, Option.bind_eq_some_iff] at h
      obtain ⟨⟨front, rest⟩, hcut, four, hfour, service, hservice, -⟩ := h
      rw [eq_of_cutAt? hcut]
      exact .four (isFour_of_octets? hfour).1 (exists_number?_iff.mp ⟨service, hservice⟩)
  · intro h
    cases h with
    | @four s n h hn =>
      obtain ⟨a, b, c, d, hoctets⟩ := exists_octets? h
      obtain ⟨service, hservice⟩ := exists_number?_iff.mpr hn
      have hcut : cutAt? ':' (s ++ ':' :: n) = some (s, n) :=
        cutAt?_append (h.not_mem (by decide) (by decide)) n
      rw [ofText?.eq_def]
      split
      · rename_i r heq
        have hbracket : '[' ∈ s ++ ':' :: n := heq ▸ List.mem_cons_self
        have hs : '[' ∉ s := h.not_mem (by decide) (by decide)
        simp [hs, hn.not_mem (c := '[') (by decide)] at hbracket
      · exact ⟨.four [a, b, c, d] service, by simp [hcut, hoctets, hservice]⟩
    | @six s n h hn =>
      obtain ⟨⟨groups, scope⟩, hinside⟩ := exists_inBrackets?_iff.mpr h
      obtain ⟨service, hservice⟩ := exists_number?_iff.mpr hn
      have hcut : cutAt? ']' (s ++ ']' :: ':' :: n) = some (s, ':' :: n) :=
        cutAt?_append h.not_mem _
      exact ⟨.six groups scope service, by simp [ofText?, hcut, hinside, afterBracket?, hservice]⟩

end SocketAddress

end BoundedPipelining
