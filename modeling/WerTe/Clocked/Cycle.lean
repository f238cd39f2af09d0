import Mathlib

/-!
# Windows of a cycle

Positions on a cycle of length `n`, such as the seconds of a day, and a window from one position to
another, which may run over the end of the cycle. From any position, the next of the window's two
ends is where being in the window changes, and not before (`inWindow_before`, `inWindow_next`).
-/

namespace Cycle

variable {n a b x i : ℤ}

/-- The position lies in the window from `a` to just before `b`. -/
def inWindow (a b x : ℤ) : Bool :=
  if a < b then decide (a ≤ x) && decide (x < b) else decide (a ≤ x) || decide (x < b)

/-- How far ahead of `x` the position `a` is: a whole turn if it is there. -/
def ahead (n x a : ℤ) : ℤ := if a - x ≤ 0 then a - x + n else a - x

/-- How far ahead the next end of the window is. -/
def nextEnd (n a b x : ℤ) : ℤ := min (ahead n x a) (ahead n x b)

theorem add_emod (hx : 0 ≤ x ∧ x < n) (hi : 0 ≤ i ∧ i < n) :
    (x + i) % n = if x + i < n then x + i else x + i - n := by
  by_cases h : x + i < n
  · rw [if_pos h, Int.emod_eq_of_lt (by omega) h]
  · rw [if_neg h, ← Int.sub_emod_right, Int.emod_eq_of_lt (by omega) (by omega)]

theorem nextEnd_pos (ha : 0 ≤ a) (hb : 0 ≤ b) (hx : 0 ≤ x ∧ x < n) : 0 < nextEnd n a b x := by
  unfold nextEnd ahead
  omega

/-- Two ends are not both a whole turn ahead. -/
theorem nextEnd_lt (ha : 0 ≤ a ∧ a < n) (hb : 0 ≤ b ∧ b < n) (hne : a ≠ b)
    (hx : 0 ≤ x ∧ x < n) : nextEnd n a b x < n := by
  unfold nextEnd ahead
  omega

/-- Nothing changes before the next end. -/
theorem inWindow_before (ha : 0 ≤ a ∧ a < n) (hb : 0 ≤ b ∧ b < n) (hne : a ≠ b)
    (hx : 0 ≤ x ∧ x < n) (hi : 0 ≤ i) (hlt : i < nextEnd n a b x) :
    inWindow a b ((x + i) % n) = inWindow a b x := by
  have hturn := hlt.trans (nextEnd_lt ha hb hne hx)
  rw [add_emod hx ⟨hi, hturn⟩]
  unfold nextEnd ahead at hlt
  unfold inWindow
  by_cases hwindow : a < b
  · simp only [if_pos hwindow, ← Bool.decide_and, decide_eq_decide]
    omega
  · simp only [if_neg hwindow, ← Bool.decide_or, decide_eq_decide]
    omega

/-- At the next end, it changes. -/
theorem inWindow_next (ha : 0 ≤ a ∧ a < n) (hb : 0 ≤ b ∧ b < n) (hne : a ≠ b)
    (hx : 0 ≤ x ∧ x < n) : inWindow a b ((x + nextEnd n a b x) % n) = !inWindow a b x := by
  rw [add_emod hx ⟨(nextEnd_pos ha.1 hb.1 hx).le, nextEnd_lt ha hb hne hx⟩]
  unfold nextEnd ahead
  unfold inWindow
  by_cases hwindow : a < b
  · simp only [if_pos hwindow, ← Bool.decide_and, ← decide_not, decide_eq_decide]
    omega
  · simp only [if_neg hwindow, ← Bool.decide_or, ← decide_not, decide_eq_decide]
    omega

/-- What is so until just before an end, and otherwise there, changes first there. -/
theorem isLeast_change {f : ℤ → Bool} {start stop : ℤ} (hlt : start < stop)
    (hbefore : ∀ t, start ≤ t → t < stop → f t = f start) (hat : f stop = !f start) :
    IsLeast {t | start < t ∧ f t ≠ f (t - 1)} stop := by
  constructor
  · refine ⟨hlt, ?_⟩
    rw [hat, hbefore (stop - 1) (by omega) (by omega)]
    simp
  · rintro t ⟨hafter, hchange⟩
    by_contra hle
    have hlt' : t < stop := not_le.mp hle
    rw [hbefore t hafter.le hlt', hbefore (t - 1) (by omega) (by omega)] at hchange
    exact hchange rfl

end Cycle
