import BoundedPipelining.Proofs.Text.Numerals
import BoundedPipelining.Settings.LogLevel
import BoundedPipelining.Text.Blank
import Mathlib.Tactic.IntervalCases

/-!
# How levels are written

A level is written as a digit up to five, in front of which zeros and then a plus sign may stand, or
as its name in any letter case. So no character of it is blank, and none is an equals sign.
-/

namespace BoundedPipelining

namespace LogLevel

/-- The texts that stand for a level. -/
inductive IsWritten : List Char → Prop
  | number {zeros : List Char} {digit : Char} (hzeros : ∀ c ∈ zeros, c = '0')
    (hdigit : digit ∈ "012345".toList) : IsWritten (zeros ++ [digit])
  | plus {zeros : List Char} {digit : Char} (hzeros : ∀ c ∈ zeros, c = '0')
    (hdigit : digit ∈ "012345".toList) : IsWritten ('+' :: (zeros ++ [digit]))
  | name (l : LogLevel) {s : List Char} (h : s.map Char.toLower = l.name.toList) : IsWritten s

variable {s : List Char} {c : Char} {n : Nat}

theorem isDigit_of_mem (h : c ∈ "012345".toList) : c.isDigit = true := by
  have hall : "012345".toList.all Char.isDigit = true := by decide
  exact List.all_eq_true.mp hall c h

theorem mem_digits_iff (h : c.isDigit = true) : c ∈ "012345".toList ↔ c.toNat - 48 ≤ 5 := by
  constructor
  · have hall : ("012345".toList.all fun c ↦ c.toNat - 48 ≤ 5) = true := by decide
    exact fun hc ↦ of_decide_eq_true (List.all_eq_true.mp hall c hc)
  · intro hle
    obtain ⟨hlow, -⟩ := Char.isDigit_iff_toNat.mp h
    simp only [Char.reduceToNat] at hlow
    have hhigh : c.toNat ≤ 53 := by omega
    rw [← Char.ofNat_toNat c]
    generalize c.toNat = k at *
    interval_cases k <;> decide

/-- The levels are numbered up to five. -/
theorem isSome_find?_rank : (all.find? fun l ↦ l.rank == n).isSome = true ↔ n ≤ 5 := by
  rw [List.find?_isSome]
  constructor
  · rintro ⟨l, -, hl⟩
    rw [← beq_iff_eq.mp hl]
    cases l <;> decide
  · intro hn
    interval_cases n <;> decide

/-- A number up to five is written as one digit behind zeros. -/
theorem exists_read?_iff : (∃ n ≤ 5, Numeral.read? 10 s = some n) ↔
    ∃ zeros digit, (∀ c ∈ zeros, c = '0') ∧ digit ∈ "012345".toList ∧ s = zeros ++ [digit] := by
  simp only [Numeral.read?_ten_eq_some_iff]
  constructor
  · rintro ⟨n, hn, hne, hdigits, rfl⟩
    obtain ⟨zeros, digit, rfl⟩ : ∃ zeros digit, s = zeros ++ [digit] :=
      ⟨s.dropLast, s.getLast hne, (List.dropLast_concat_getLast hne).symm⟩
    rw [List.forall_mem_append, List.forall_mem_singleton] at hdigits
    rw [Numeral.value_append_singleton, Numeral.digit?_ten_of_isDigit hdigits.2,
      Option.getD_some] at hn
    have hzero : Numeral.value 10 zeros = 0 := by omega
    exact ⟨zeros, digit, (Numeral.value_eq_zero_iff hdigits.1).mp hzero,
      (mem_digits_iff hdigits.2).mpr (by omega), rfl⟩
  · rintro ⟨zeros, digit, hzeros, hdigit, rfl⟩
    have hdigit' := isDigit_of_mem hdigit
    have hzeros' : ∀ c ∈ zeros, c.isDigit = true := by
      intro c hc
      rw [hzeros c hc]
      rfl
    have hzero : Numeral.value 10 zeros = 0 := (Numeral.value_eq_zero_iff hzeros').mpr hzeros
    have hvalue : Numeral.value 10 (zeros ++ [digit]) = digit.toNat - 48 := by
      rw [Numeral.value_append_singleton, hzero, Numeral.digit?_ten_of_isDigit hdigit',
        Option.getD_some, Nat.mul_zero, Nat.zero_add]
    refine ⟨digit.toNat - 48, (mem_digits_iff hdigit').mp hdigit, by simp, ?_, hvalue⟩
    rw [List.forall_mem_append, List.forall_mem_singleton]
    exact ⟨hzeros', hdigit'⟩

theorem toLower_eq_self (h : c.toNat < 65 ∨ 90 < c.toNat) : c.toLower = c := by
  refine dif_neg ?_
  rintro ⟨hlow, hhigh⟩
  rw [ge_iff_le, UInt32.le_iff_toNat_le] at hlow
  rw [UInt32.le_iff_toNat_le] at hhigh
  simp only [Char.toNat_val, Char.reduceToNat] at hlow hhigh
  omega

/-- In a number there is nothing in upper case. -/
theorem map_toLower_of_readPlus? (h : Numeral.readPlus? 10 s = some n) :
    s.map Char.toLower = s := by
  have hdigit (c : Char) (hc : c.isDigit = true) : c.toLower = c := by
    obtain ⟨-, hhigh⟩ := Char.isDigit_iff_toNat.mp hc
    exact toLower_eq_self (.inl (hhigh.trans_lt (by decide)))
  have hread {r : List Char} (h : Numeral.read? 10 r = some n) : r.map Char.toLower = r := by
    obtain ⟨-, hdigits, -⟩ := Numeral.read?_ten_eq_some_iff.mp h
    exact (List.map_congr_left fun c hc ↦ hdigit c (hdigits c hc)).trans (List.map_id r)
  rcases Numeral.readPlus?_eq_some_iff.mp h with h | ⟨r, rfl, h⟩
  · exact hread h
  · rw [List.map_cons, hread h]
    rfl

theorem isSome_ofText?_iff : (ofText? s).isSome = true ↔ IsWritten s := by
  rw [ofText?]
  constructor
  · intro h
    split at h
    · rename_i n hread
      have hn : n ≤ 5 := isSome_find?_rank.mp h
      rcases Numeral.readPlus?_eq_some_iff.mp hread with hread | ⟨r, rfl, hread⟩
      · obtain ⟨zeros, digit, hzeros, hdigit, rfl⟩ := exists_read?_iff.mp ⟨n, hn, hread⟩
        exact .number hzeros hdigit
      · obtain ⟨zeros, digit, hzeros, hdigit, rfl⟩ := exists_read?_iff.mp ⟨n, hn, hread⟩
        exact .plus hzeros hdigit
    · obtain ⟨l, -, hl⟩ := List.find?_isSome.mp h
      exact .name l (beq_iff_eq.mp hl).symm
  · intro h
    have hnumber {n : Nat} (hn : n ≤ 5) (hread : Numeral.readPlus? 10 s = some n) :
        (ofText? s).isSome = true := by
      rw [ofText?, hread]
      exact isSome_find?_rank.mpr hn
    cases h with
    | @number zeros digit hzeros hdigit =>
      obtain ⟨n, hn, hread⟩ := exists_read?_iff.mpr ⟨zeros, digit, hzeros, hdigit, rfl⟩
      exact hnumber hn (Numeral.readPlus?_eq_some_iff.mpr (.inl hread))
    | @plus zeros digit hzeros hdigit =>
      obtain ⟨n, hn, hread⟩ := exists_read?_iff.mpr ⟨zeros, digit, hzeros, hdigit, rfl⟩
      exact hnumber hn (Numeral.readPlus?_eq_some_iff.mpr (.inr ⟨_, rfl, hread⟩))
    | name l hname =>
      -- The name of a level is no number.
      have hnone : Numeral.readPlus? 10 l.name.toList = none := by cases l <;> decide
      have hmem : l ∈ all := by cases l <;> decide
      cases hread : Numeral.readPlus? 10 s with
      | none => exact List.find?_isSome.mpr ⟨l, hmem, beq_iff_eq.mpr hname.symm⟩
      | some n =>
        rw [map_toLower_of_readPlus? hread] at hname
        cases (hname ▸ hread).symm.trans hnone

theorem toLower_of_isBlank (h : Blank.isBlank c = true) : c.toLower = c := by
  refine toLower_eq_self ?_
  simp only [Blank.isBlank, Blank.ranges, List.any_cons, List.any_nil, Bool.or_eq_true,
    Bool.and_eq_true, decide_eq_true_eq, Bool.false_eq_true, or_false] at h
  omega

/-- Blanks and equals signs are no part of a level. -/
theorem IsWritten.not_mem (h : IsWritten s) (hc : c = '=' ∨ Blank.isBlank c = true) : c ∉ s := by
  have hlower : c.toLower = c := by
    rcases hc with rfl | hc
    · rfl
    · exact toLower_of_isBlank hc
  have hnot {r : List Char} (hr : (r.all fun x ↦ x != '=' && !Blank.isBlank x) = true) : c ∉ r := by
    intro hmem
    obtain ⟨hequals, hblank⟩ := Bool.and_eq_true_iff.mp (List.all_eq_true.mp hr c hmem)
    rcases hc with rfl | hc
    · exact bne_iff_ne.mp hequals rfl
    · rw [hc] at hblank
      cases hblank
  have hnumber {zeros : List Char} {digit : Char} (hzeros : ∀ c ∈ zeros, c = '0')
      (hdigit : digit ∈ "012345".toList) : c ∉ zeros ++ [digit] := by
    intro hmem
    refine hnot (r := "012345".toList) (by decide) ?_
    rcases List.mem_append.mp hmem with hmem | hmem
    · rw [hzeros c hmem]
      exact List.mem_cons_self
    · rwa [List.mem_singleton.mp hmem]
  cases h with
  | number hzeros hdigit => exact hnumber hzeros hdigit
  | plus hzeros hdigit =>
    have hplus : c ∉ ['+'] := hnot (by decide)
    exact List.not_mem_cons_of_ne_of_not_mem (List.ne_of_not_mem_cons hplus)
      (hnumber hzeros hdigit)
  | name l hname =>
    have hletters : c ∉ l.name.toList := hnot (by cases l <;> decide)
    intro hmem
    refine hletters ?_
    rw [← hname, ← hlower]
    exact List.mem_map_of_mem hmem

end LogLevel

end BoundedPipelining
