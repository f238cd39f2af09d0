import Mathlib.Algebra.Order.BigOperators.Group.List
import Mathlib.Algebra.Order.Group.Unbundled.Basic

/-!
# Taking an amount from supplies in turn

* `takes supplies amount`: what is taken from each supply, when each gives what it has until nothing
  more is needed. Supplies after the last one that is needed have no entry.
* `sum_takes`: the amount is taken when there is that much
* `takes_pos`, `takes_le`: nothing is taken in vain, and nothing that is not there
* `dropLast_takes`: every supply but the last one used is used up
-/

namespace Greedy

variable {M : Type*} [AddCommGroup M] [LinearOrder M] [IsOrderedAddMonoid M]

def takes : List M → M → List M
  | [], _ => []
  | supply :: supplies, amount =>
    if amount ≤ 0 then [] else min supply amount :: takes supplies (amount - min supply amount)

variable {supplies : List M} {amount : M}

omit [IsOrderedAddMonoid M] in
theorem takes_of_nonpos (h : amount ≤ 0) : takes supplies amount = [] := by
  cases supplies with
  | nil => rfl
  | cons supply supplies => exact if_pos h

omit [IsOrderedAddMonoid M] in
theorem takes_cons {supply : M} (h : 0 < amount) : takes (supply :: supplies) amount =
    min supply amount :: takes supplies (amount - min supply amount) := if_neg (not_le.mpr h)

omit [IsOrderedAddMonoid M] in
theorem length_takes_le : (takes supplies amount).length ≤ supplies.length := by
  induction supplies generalizing amount with
  | nil => exact le_rfl
  | cons supply supplies ih =>
    rcases le_or_gt amount 0 with h | h
    · rw [takes_of_nonpos h]
      exact Nat.zero_le _
    · rw [takes_cons h]
      exact Nat.succ_le_succ ih

omit [IsOrderedAddMonoid M] in
theorem takes_pos (hpos : ∀ supply ∈ supplies, 0 < supply) :
    ∀ taken ∈ takes supplies amount, 0 < taken := by
  induction supplies generalizing amount with
  | nil => simp [takes]
  | cons supply supplies ih =>
    intro taken htaken
    rcases le_or_gt amount 0 with h | h
    · rw [takes_of_nonpos h] at htaken
      cases htaken
    · rw [takes_cons h] at htaken
      rcases List.mem_cons.mp htaken with rfl | htaken
      · exact lt_min (hpos supply List.mem_cons_self) h
      · exact ih (fun s hs => hpos s (List.mem_cons_of_mem _ hs)) taken htaken

omit [IsOrderedAddMonoid M] in
theorem takes_le : ∀ pair ∈ supplies.zip (takes supplies amount), pair.2 ≤ pair.1 := by
  induction supplies generalizing amount with
  | nil => simp
  | cons supply supplies ih =>
    intro pair hpair
    rcases le_or_gt amount 0 with h | h
    · rw [takes_of_nonpos h, List.zip_nil_right] at hpair
      cases hpair
    · rw [takes_cons h, List.zip_cons_cons] at hpair
      rcases List.mem_cons.mp hpair with rfl | hpair
      · exact min_le_left supply amount
      · exact ih pair hpair

/-- When there is enough, the amount is taken. -/
theorem sum_takes (hsupplies : ∀ supply ∈ supplies, 0 ≤ supply) (hamount : 0 ≤ amount)
    (henough : amount ≤ supplies.sum) : (takes supplies amount).sum = amount := by
  induction supplies generalizing amount with
  | nil => exact (le_antisymm henough hamount).symm
  | cons supply supplies ih =>
    have hrest : ∀ s ∈ supplies, 0 ≤ s := fun s hs => hsupplies s (List.mem_cons_of_mem _ hs)
    rcases hamount.eq_or_lt with rfl | h
    · rw [takes_of_nonpos le_rfl, List.sum_nil]
    · rw [takes_cons h, List.sum_cons, ih hrest (sub_nonneg.mpr (min_le_right _ _)) ?_]
      · exact add_sub_cancel _ _
      · rw [List.sum_cons] at henough
        rcases le_total supply amount with hmin | hmin
        · rw [min_eq_left hmin, sub_le_iff_le_add']
          exact henough
        · rw [min_eq_right hmin, sub_self]
          exact List.sum_nonneg hrest

omit [IsOrderedAddMonoid M] in
/-- Every supply but the last one used gives all it has. -/
theorem dropLast_takes :
    ∀ pair ∈ (supplies.zip (takes supplies amount)).dropLast, pair.2 = pair.1 := by
  induction supplies generalizing amount with
  | nil => simp
  | cons supply supplies ih =>
    intro pair hpair
    rcases le_or_gt amount 0 with h | h
    · rw [takes_of_nonpos h, List.zip_nil_right] at hpair
      cases hpair
    · rw [takes_cons h, List.zip_cons_cons] at hpair
      rcases le_total supply amount with hmin | hmin
      · cases hrest : supplies.zip (takes supplies (amount - min supply amount)) with
        | nil =>
          rw [hrest] at hpair
          cases hpair
        | cons next rest =>
          rw [hrest, List.dropLast_cons_cons, ← hrest] at hpair
          rcases List.mem_cons.mp hpair with rfl | hpair
          · exact min_eq_left hmin
          · exact ih pair hpair
      · -- what is still needed is there, so nothing is taken from the next one
        rw [min_eq_right hmin, sub_self, takes_of_nonpos le_rfl, List.zip_nil_right] at hpair
        cases hpair

omit [AddCommGroup M] [LinearOrder M] [IsOrderedAddMonoid M] in
/-- What is paired with something comes first. -/
theorem map_fst_zip_le {α β : Type*} (l : List α) (l' : List β) :
    (l.zip l').map Prod.fst <+: l := by
  induction l generalizing l' with
  | nil => exact List.prefix_rfl
  | cons a l ih =>
    cases l' with
    | nil => exact List.nil_prefix
    | cons b l' => exact List.cons_prefix_cons.mpr ⟨rfl, ih l'⟩

end Greedy
