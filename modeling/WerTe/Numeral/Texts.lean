import Mathlib.Data.Nat.Digits.Defs
import WerTe.Keyed.LastEntry

/-!
# Numbers in texts

A number that stands in a text can be read back from it, since only digits are written.
-/

namespace Numeral

variable {separator : Char} {m n : ℕ}

theorem toList_toString (n : ℕ) : (toString n).toList = Nat.toDigits 10 n := by
  rw [Nat.toString_eq_repr, Nat.toList_repr]

theorem toString_inj : (toString m).toList = (toString n).toList ↔ m = n := by
  constructor
  · intro h
    rw [toList_toString, toList_toString] at h
    rw [← Nat.ofDigitChars_ten_toDigits (n := m), h, Nat.ofDigitChars_ten_toDigits]
  · rintro rfl
    rfl

theorem isDigit_of_mem_toString {c : Char} (h : c ∈ (toString n).toList) : c.isDigit = true :=
  Nat.isDigit_of_mem_toDigits (by decide) (by decide) (toList_toString n ▸ h)

theorem notMem_toString (hseparator : separator.isDigit = false) (n : ℕ) :
    separator ∉ (toString n).toList := fun hmem =>
  absurd (isDigit_of_mem_toString hmem) (by simp [hseparator])

/-- A number, a separator that is no digit, and the rest. -/
theorem toString_append_inj (hseparator : separator.isDigit = false) {rest rest' : List Char} :
    (toString m).toList ++ separator :: rest = (toString n).toList ++ separator :: rest' ↔
      m = n ∧ rest = rest' := by
  rw [Keyed.append_cons_inj (notMem_toString hseparator m) (notMem_toString hseparator n),
    toString_inj]

/-! ## Filled up with zeros -/

def padStart (width n : ℕ) : String := .ofList ((toString n).toList.leftpad width '0')

theorem padStart_inj {width : ℕ} :
    (padStart width m).toList = (padStart width n).toList ↔ m = n := by
  have hvalue : ∀ n, Nat.ofDigitChars 10 (padStart width n).toList 0 = n := by
    intro n
    rw [padStart, String.toList_ofList, List.leftpad, Nat.ofDigitChars_append,
      Nat.ofDigitChars_replicate_zero, Nat.mul_zero, toList_toString, Nat.ofDigitChars_ten_toDigits]
  constructor
  · intro h
    rw [← hvalue m, h, hvalue n]
  · rintro rfl
    rfl

theorem length_padStart {width : ℕ} (hwidth : 0 < width) (hn : n < 10 ^ width) :
    (padStart width n).toList.length = width := by
  have hlength := (Nat.length_toDigits_le_iff (by decide) hwidth).mpr hn
  rw [padStart, String.toList_ofList, List.length_leftpad, toList_toString]
  omega

theorem notMem_padStart (hseparator : separator.isDigit = false) (width n : ℕ) :
    separator ∉ (padStart width n).toList := by
  rw [padStart, String.toList_ofList, List.leftpad, List.mem_append, not_or]
  refine ⟨fun hmem => ?_, notMem_toString hseparator n⟩
  rw [List.eq_of_mem_replicate hmem] at hseparator
  cases hseparator

end Numeral
