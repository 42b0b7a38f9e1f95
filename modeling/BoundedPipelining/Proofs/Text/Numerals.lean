import BoundedPipelining.Text.Numeral
import Mathlib.Data.List.Induction

/-!
# Decimal numerals

What it takes for a text to be read as a number: it is not empty, and all of it are decimal digits.
A plus sign may stand in front where that is allowed, and leading zeros are worth nothing.
-/

namespace BoundedPipelining

namespace Numeral

variable {s : List Char} {c : Char} {n : Nat}

theorem digit?_ten_of_isDigit (h : c.isDigit = true) : digit? 10 c = some (c.toNat - 48) := by
  obtain ⟨hlow, hhigh⟩ := Char.isDigit_iff_toNat.mp h
  have hworth : worth? c = some (c.toNat - 48) := if_pos h
  have hsmall : c.toNat - 48 < 10 := by
    simp only [Char.reduceToNat] at hlow hhigh
    omega
  rw [digit?, hworth, Option.filter_some, if_pos (decide_eq_true hsmall)]

theorem isDigit_ten_iff : isDigit 10 c = true ↔ c.isDigit = true := by
  constructor
  · intro h
    by_contra hno
    -- A letter is worth ten at least.
    have hworth : ∀ n ∈ worth? c, 10 ≤ n := by
      intro n hn
      rw [worth?, if_neg hno] at hn
      split at hn
      · cases hn
        exact Nat.le_add_left 10 _
      · split at hn
        · cases hn
          exact Nat.le_add_left 10 _
        · cases hn
    rw [isDigit, digit?, Option.isSome_filter, Option.any_eq_true] at h
    obtain ⟨n, hn, hsmall⟩ := h
    exact absurd (of_decide_eq_true hsmall) (Nat.not_lt.mpr (hworth n hn))
  · intro h
    rw [isDigit, digit?_ten_of_isDigit h]
    rfl

/-- Digits stand for zero only if they are zeros. -/
theorem value_eq_zero_iff (h : ∀ c ∈ s, c.isDigit = true) :
    value 10 s = 0 ↔ ∀ c ∈ s, c = '0' := by
  induction s using List.reverseRecOn with
  | nil => simp [value]
  | append_singleton s c ih =>
    have hs : ∀ x ∈ s, x.isDigit = true := fun x hx ↦ h x (List.mem_append_left _ hx)
    have hc : c.isDigit = true := h c (List.mem_append_right s (List.mem_singleton_self c))
    have hzero : c.toNat - 48 = 0 ↔ c = '0' := by
      obtain ⟨hlow, -⟩ := Char.isDigit_iff_toNat.mp hc
      rw [← Char.toNat_inj]
      simp only [Char.reduceToNat] at hlow ⊢
      omega
    rw [value_append_singleton, digit?_ten_of_isDigit hc, Option.getD_some, List.forall_mem_append,
      List.forall_mem_singleton, ← ih hs, ← hzero]
    omega

theorem read?_ten_eq_some_iff : read? 10 s = some n ↔
    s ≠ [] ∧ (∀ c ∈ s, c.isDigit = true) ∧ value 10 s = n := by
  simp [read?, isDigit_ten_iff, and_assoc]

/-- A plus sign is no digit, so a number stands behind it or there is none. -/
theorem readPlus?_eq_some_iff : readPlus? 10 s = some n ↔
    read? 10 s = some n ∨ ∃ r, s = '+' :: r ∧ read? 10 r = some n := by
  by_cases hplus : ∃ r, s = '+' :: r
  · obtain ⟨r, rfl⟩ := hplus
    have hnone : read? 10 ('+' :: r) ≠ some n := by
      intro h
      exact absurd ((read?_ten_eq_some_iff.mp h).2.1 '+' List.mem_cons_self) (by decide)
    simp [readPlus?, hnone]
  · rw [readPlus?.eq_2 10 s fun r h ↦ hplus ⟨r, h⟩, or_iff_left]
    rintro ⟨r, rfl, -⟩
    exact hplus ⟨r, rfl⟩

end Numeral

end BoundedPipelining
