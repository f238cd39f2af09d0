import Mathlib

/-!
# The last digits of a number

What is left of a numeral when only its last digits are kept, in any base up to ten: the number
modulo a power of the base. Two numbers that are kept whole differ when what is kept does.
-/

namespace Numeral

variable {b : ℕ}

/-- What a numeral has before its last digit. -/
def leading (b n : ℕ) : List Char := if n < b then [] else Nat.toDigits b (n / b)

theorem toDigits_eq (hb : 1 < b) (n : ℕ) :
    Nat.toDigits b n = leading b n ++ [Nat.digitChar (n % b)] := by
  rw [Nat.toDigits_eq_if hb, leading]
  by_cases h : n < b
  · rw [if_pos h, if_pos h, Nat.mod_eq_of_lt h, List.nil_append]
  · rw [if_neg h, if_neg h]

theorem rtake_toDigits_succ (hb : 1 < b) (k n : ℕ) : (Nat.toDigits b n).rtake (k + 1) =
    (leading b n).rtake k ++ [Nat.digitChar (n % b)] := by
  rw [toDigits_eq hb, List.rtake_concat_succ]

theorem dvd_pow_succ (b k : ℕ) : b ∣ b ^ (k + 1) := by
  rw [Nat.pow_succ']
  exact Nat.dvd_mul_right b (b ^ k)

theorem div_mod_pow (b k n : ℕ) : n % b ^ (k + 1) / b = n / b % b ^ k := by
  rw [Nat.pow_succ', Nat.mod_mul_right_div_self]

/-- The digits that are kept are those of what is left of the number. -/
theorem ofDigitChars_rtake (hb : 1 < b) (hten : b ≤ 10) (k n : ℕ) :
    Nat.ofDigitChars b ((Nat.toDigits b n).rtake k) 0 = n % b ^ k := by
  induction k generalizing n with
  | zero => simp [Nat.mod_one]
  | succ k ih =>
    have hdigit : n % b < 10 := (Nat.mod_lt n (by omega)).trans_le hten
    have hleading : Nat.ofDigitChars b ((leading b n).rtake k) 0 = n / b % b ^ k := by
      by_cases h : n < b
      · simp [leading, h, Nat.div_eq_of_lt h]
      · rw [leading, if_neg h, ih]
    have hmod : n % b ^ (k + 1) % b = n % b :=
      Nat.mod_mod_of_dvd n (dvd_pow_succ b k)
    rw [rtake_toDigits_succ hb, Nat.ofDigitChars_append,
      Nat.ofDigitChars_cons_digitChar_of_lt_ten hdigit, Nat.ofDigitChars_nil, hleading,
      ← div_mod_pow, ← hmod, Nat.div_add_mod]

theorem length_leading (hb : 1 < b) (k n : ℕ) (h : k + 1 ≤ (Nat.toDigits b n).length) :
    k ≤ (leading b n).length := by
  rw [toDigits_eq hb, List.length_append, List.length_singleton] at h
  omega

/-- Numerals with at least that many digits keep the same ones when the numbers agree modulo the
power of the base. -/
theorem rtake_toDigits_congr (hb : 1 < b) {k m n : ℕ} (hm : k ≤ (Nat.toDigits b m).length)
    (hn : k ≤ (Nat.toDigits b n).length) (h : m % b ^ k = n % b ^ k) :
    (Nat.toDigits b m).rtake k = (Nat.toDigits b n).rtake k := by
  induction k generalizing m n with
  | zero => simp
  | succ k ih =>
    have hlast : m % b = n % b := by
      rw [← Nat.mod_mod_of_dvd m (dvd_pow_succ b k), h, Nat.mod_mod_of_dvd n (dvd_pow_succ b k)]
    have hdiv : m / b % b ^ k = n / b % b ^ k := by
      rw [← div_mod_pow, h, div_mod_pow]
    have hleading : (leading b m).rtake k = (leading b n).rtake k := by
      have hmlen := length_leading hb k m hm
      have hnlen := length_leading hb k n hn
      rcases Nat.eq_zero_or_pos k with rfl | hk
      · simp
      · by_cases hmlt : m < b
        · simp only [leading, hmlt, if_true, List.length_nil] at hmlen
          omega
        by_cases hnlt : n < b
        · simp only [leading, hnlt, if_true, List.length_nil] at hnlen
          omega
        rw [leading, if_neg hmlt] at hmlen ⊢
        rw [leading, if_neg hnlt] at hnlen ⊢
        exact ih hmlen hnlen hdiv
    rw [rtake_toDigits_succ hb, rtake_toDigits_succ hb, hleading, hlast]

theorem length_rtake {α : Type*} (k : ℕ) (l : List α) :
    (l.rtake k).length = min k l.length := by
  rw [List.rtake_eq_reverse_take_reverse, List.length_reverse, List.length_take,
    List.length_reverse]

/-- Two different numbers keep the same digits exactly when both have at least that many and they
agree modulo the power of the base. -/
theorem rtake_toDigits_eq_iff (hb : 1 < b) (hten : b ≤ 10) {k m n : ℕ} (hk : 1 < k)
    (hne : m ≠ n) : (Nat.toDigits b m).rtake k = (Nat.toDigits b n).rtake k ↔
      b ^ (k - 1) ≤ m ∧ b ^ (k - 1) ≤ n ∧ m % b ^ k = n % b ^ k := by
  have hlong : ∀ i, k ≤ (Nat.toDigits b i).length ↔ b ^ (k - 1) ≤ i := by
    intro i
    have hle := Nat.length_toDigits_le_iff (n := i) hb (show 0 < k - 1 by omega)
    have hlt : (i < b ^ (k - 1) ∧ (Nat.toDigits b i).length ≤ k - 1) ∨
        (b ^ (k - 1) ≤ i ∧ ¬(Nat.toDigits b i).length ≤ k - 1) := by
      rcases Nat.lt_or_ge i (b ^ (k - 1)) with h | h
      · exact .inl ⟨h, hle.mpr h⟩
      · exact .inr ⟨h, fun hlen => absurd (hle.mp hlen) (Nat.not_lt.mpr h)⟩
    omega
  constructor
  · intro heq
    have hmod : m % b ^ k = n % b ^ k := by
      rw [← ofDigitChars_rtake hb hten, heq, ofDigitChars_rtake hb hten]
    have hlen := congrArg List.length heq
    rw [length_rtake, length_rtake] at hlen
    -- a number of fewer digits is kept whole, and then the other one is as well
    have hshort : ¬(m < b ^ (k - 1) ∧ n < b ^ (k - 1)) := by
      rintro ⟨hm, hn⟩
      have hpow : b ^ (k - 1) ≤ b ^ k := Nat.pow_le_pow_right (by omega) (by omega)
      rw [Nat.mod_eq_of_lt (hm.trans_le hpow), Nat.mod_eq_of_lt (hn.trans_le hpow)] at hmod
      exact hne hmod
    have hm := hlong m
    have hn := hlong n
    refine ⟨?_, ?_, hmod⟩ <;> by_contra hlt <;> refine hshort ⟨?_, ?_⟩ <;> omega
  · rintro ⟨hm, hn, hmod⟩
    exact rtake_toDigits_congr hb ((hlong m).mpr hm) ((hlong n).mpr hn) hmod

end Numeral
