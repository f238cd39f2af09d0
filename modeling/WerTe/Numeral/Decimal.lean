import Mathlib.Algebra.Order.Field.Rat
import Mathlib.Data.List.Induction
import Mathlib.Data.List.Infix

/-!
# Decimals that need not be numbers

The values of a decimal arithmetic with infinities and with a value that is no number. Results are
rounded by a function that is a parameter here. The value that is no number is not ordered, so
that every comparison with it is false: a guard that rejects what lies on the wrong side of a
bound lets it pass (`nan_passes`), and a bound that is no number rejects nothing
(`greaterThan_nan`).
-/

namespace Numeral

inductive Decimal
  /-- no number -/
  | nan
  /-- one of the two infinities -/
  | infinity (negative : Bool)
  /-- a number -/
  | finite (value : ℚ)
deriving DecidableEq, Repr

namespace Decimal

/-- The number that the value is, if it is one. -/
def number : Decimal → Option ℚ
  | finite a => some a
  | nan | infinity _ => none

@[simp] theorem number_finite (a : ℚ) : (finite a).number = some a := rfl

theorem number_eq_some_iff {x : Decimal} {a : ℚ} : x.number = some a ↔ x = finite a := by
  cases x <;> simp [number]

/-- All of the values are numbers. -/
theorem mapM_number_eq_some_iff {xs : List Decimal} {as : List ℚ} :
    xs.mapM number = some as ↔ xs = as.map finite := by
  induction xs generalizing as with
  | nil => cases as <;> simp
  | cons x xs ih =>
    simp only [List.mapM_cons, Option.bind_eq_bind, Option.bind_eq_some_iff, Option.pure_def,
      number_eq_some_iff, Option.some.injEq]
    constructor
    · rintro ⟨a, rfl, as', hrest, rfl⟩
      rw [List.map_cons, ih.mp hrest]
    · intro h
      cases as with
      | nil => cases h
      | cons a as' =>
        obtain ⟨rfl, hrest⟩ := List.cons.inj h
        exact ⟨a, rfl, as', ih.mpr hrest, rfl⟩

/-! ## Comparisons -/

/-- Where the first value stands to the second, if it stands anywhere. -/
def cmp : Decimal → Decimal → Option Ordering
  | nan, _ | _, nan => none
  | infinity n, infinity n' => some (compare n' n)
  | infinity n, finite _ => some (if n then .lt else .gt)
  | finite _, infinity n => some (if n then .gt else .lt)
  | finite a, finite b => some (compare a b)

def greaterThan (x y : Decimal) : Bool := x.cmp y == some .gt

def lessThan (x y : Decimal) : Bool := x.cmp y == some .lt

def lessThanOrEqualTo (x y : Decimal) : Bool := x.cmp y == some .lt || x.cmp y == some .eq

def greaterThanOrEqualTo (x y : Decimal) : Bool := x.cmp y == some .gt || x.cmp y == some .eq

@[simp] theorem cmp_nan (x : Decimal) : x.cmp nan = none := by
  cases x <;> rfl

@[simp] theorem nan_cmp (x : Decimal) : nan.cmp x = none := by
  cases x <;> rfl

@[simp] theorem greaterThan_finite {a b : ℚ} :
    (finite a).greaterThan (finite b) = true ↔ b < a := by
  simp [greaterThan, cmp, compare_gt_iff_gt]

@[simp] theorem lessThan_finite {a b : ℚ} : (finite a).lessThan (finite b) = true ↔ a < b := by
  simp [lessThan, cmp, compare_lt_iff_lt]

@[simp] theorem lessThanOrEqualTo_finite {a b : ℚ} :
    (finite a).lessThanOrEqualTo (finite b) = true ↔ a ≤ b := by
  simp [lessThanOrEqualTo, cmp, compare_lt_iff_lt, le_iff_lt_or_eq]

@[simp] theorem greaterThanOrEqualTo_finite {a b : ℚ} :
    (finite a).greaterThanOrEqualTo (finite b) = true ↔ b ≤ a := by
  simp [greaterThanOrEqualTo, cmp, compare_gt_iff_gt, le_iff_lt_or_eq, @eq_comm ℚ b a]

theorem greaterThan_finite_eq_false {a b : ℚ} :
    (finite a).greaterThan (finite b) = false ↔ a ≤ b := by
  rw [← Bool.not_eq_true, greaterThan_finite, not_lt]

theorem lessThanOrEqualTo_finite_eq_false {a b : ℚ} :
    (finite a).lessThanOrEqualTo (finite b) = false ↔ b < a := by
  rw [← Bool.not_eq_true, lessThanOrEqualTo_finite, not_le]

/-- No bound rejects the value that is no number. -/
theorem nan_passes (lower upper : Decimal) :
    nan.lessThanOrEqualTo lower = false ∧ nan.greaterThan upper = false := by
  simp [lessThanOrEqualTo, greaterThan]

/-- A bound that is no number rejects nothing. -/
@[simp] theorem greaterThan_nan (x : Decimal) : x.greaterThan nan = false := by
  simp [greaterThan]

/-! ## Arithmetic -/

section Arithmetic

variable (round : ℚ → ℚ)

def add : Decimal → Decimal → Decimal
  | nan, _ | _, nan => nan
  | infinity n, infinity n' => if n = n' then infinity n else nan
  | infinity n, finite _ | finite _, infinity n => infinity n
  | finite a, finite b => finite (round (a + b))

def neg : Decimal → Decimal
  | nan => nan
  | infinity n => infinity !n
  | finite a => finite (-a)

def sub (x y : Decimal) : Decimal := x.add round y.neg

/-- The values added one after the other. -/
def sum (xs : List Decimal) : Decimal := xs.foldl (add round) (finite 0)

/-- The same for numbers, each of the sums rounded. -/
def roundedSum (as : List ℚ) : ℚ := as.foldl (fun total a => round (total + a)) 0

@[simp] theorem nan_add (x : Decimal) : nan.add round x = nan := by
  cases x <;> rfl

@[simp] theorem add_finite (a b : ℚ) :
    (finite a).add round (finite b) = finite (round (a + b)) := rfl

@[simp] theorem sub_finite (a b : ℚ) :
    (finite a).sub round (finite b) = finite (round (a - b)) := by
  simp [sub, neg, sub_eq_add_neg]

theorem sum_map_finite (as : List ℚ) :
    sum round (as.map finite) = finite (roundedSum round as) := by
  rw [sum, roundedSum]
  generalize (0 : ℚ) = total
  induction as generalizing total with
  | nil => rfl
  | cons a as ih => exact ih (round (total + a))

/-- Where nothing is rounded, the sum is the sum. -/
theorem roundedSum_of_exact (hround : ∀ a, round a = a) (as : List ℚ) :
    roundedSum round as = as.sum := by
  simp only [roundedSum, hround]
  rw [List.sum_eq_foldl]

variable {round}

/-- What adds up to a number are numbers. -/
theorem add_eq_finite {x y : Decimal} {a : ℚ} (h : x.add round y = finite a) :
    ∃ b c, x = finite b ∧ y = finite c := by
  cases x with
  | nan => rw [nan_add] at h; cases h
  | infinity n =>
    cases y with
    | nan => cases h
    | infinity n' => simp only [add] at h; split at h <;> cases h
    | finite c => cases h
  | finite b =>
    cases y with
    | nan => cases h
    | infinity n => cases h
    | finite c => exact ⟨b, c, rfl, rfl⟩

theorem sum_eq_finite {xs : List Decimal} :
    ∀ {a : ℚ}, sum round xs = finite a → ∃ as : List ℚ, xs = as.map finite := by
  induction xs using List.reverseRecOn with
  | nil => exact fun _ => ⟨[], rfl⟩
  | append_singleton xs x ih =>
    intro a h
    rw [sum, List.foldl_append] at h
    obtain ⟨b, c, hsum, rfl⟩ := add_eq_finite h
    obtain ⟨as, rfl⟩ := ih hsum
    exact ⟨as ++ [c], by rw [List.map_append, List.map_singleton]⟩

/-- The running totals of the numbers are not rounded. -/
def TotalsKept (round : ℚ → ℚ) (as : List ℚ) : Prop := ∀ bs ∈ as.inits, round bs.sum = bs.sum

instance (round : ℚ → ℚ) (as : List ℚ) : Decidable (TotalsKept round as) :=
  inferInstanceAs (Decidable (∀ bs ∈ as.inits, _))

/-- Where no running total is rounded, neither is the sum. -/
theorem roundedSum_of_totalsKept {as : List ℚ} (h : TotalsKept round as) :
    roundedSum round as = as.sum := by
  induction as using List.reverseRecOn with
  | nil => rfl
  | append_singleton as a ih =>
    have hbefore : TotalsKept round as := fun bs hbs => h bs
      ((List.mem_inits _ _).mpr (((List.mem_inits _ _).mp hbs).trans (List.prefix_append as [a])))
    have hlast := h (as ++ [a]) ((List.mem_inits _ _).mpr (List.prefix_refl _))
    have hsum : roundedSum round (as ++ [a]) = round (roundedSum round as + a) := by
      rw [roundedSum, List.foldl_append]
      rfl
    rw [hsum, ih hbefore, ← hlast, List.sum_append, List.sum_singleton]

end Arithmetic

end Decimal

end Numeral
