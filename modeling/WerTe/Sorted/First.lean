import Mathlib.Data.List.Sort
import Mathlib.Data.List.TakeWhile

/-!
# The first of a sorted list

* `then_ne_gt`: a comparison by one thing and then by another, as the lexicographic order has it
* `find?_insertionSort_cons`: among the elements with a property, the one that was put at the head
  of the list is found first after sorting, when it comes before all the others with the property
-/

namespace Sorted

theorem then_ne_gt {left right : Ordering} :
    left.then right ≠ .gt ↔ left = .lt ∨ left = .eq ∧ right ≠ .gt := by
  cases left <;> cases right <;> simp

variable {α : Type*} (r : α → α → Prop) [DecidableRel r]

/-- What stands before the place where an element is inserted. -/
theorem mem_takeWhile_of_not_rel [IsTrans α r] {x y : α} {l : List α} (hl : l.Pairwise r)
    (hy : y ∈ l) (h : ¬ r x y) : y ∈ l.takeWhile fun b => ¬ r x b := by
  induction l with
  | nil => cases hy
  | cons z l ih =>
    obtain ⟨hz, hl⟩ := List.pairwise_cons.mp hl
    have hhead : ¬ r x z := by
      rcases List.mem_cons.mp hy with rfl | hy
      · exact h
      · exact fun hxz => h (IsTrans.trans _ _ _ hxz (hz y hy))
    rw [List.takeWhile_cons_of_pos (by simpa using hhead)]
    rcases List.mem_cons.mp hy with rfl | hy
    · exact List.mem_cons_self
    · exact List.mem_cons_of_mem _ (ih hl hy)

theorem find?_insertionSort_cons [Std.Total r] [IsTrans α r] {p : α → Bool} {x : α} {l : List α}
    (hx : p x = true) :
    ((x :: l).insertionSort r).find? p = some x ↔ ∀ y ∈ l, p y = true → r x y := by
  rw [List.insertionSort_cons, List.orderedInsert_eq_take_drop, List.find?_append,
    List.find?_cons_of_pos hx]
  have hrefl : r x x := (Std.Total.total x x).elim id id
  constructor
  · intro hfound y hy hpy
    by_contra hlate
    have hbefore : y ∈ (l.insertionSort r).takeWhile fun b => ¬ r x b :=
      mem_takeWhile_of_not_rel r (List.pairwise_insertionSort r l)
        ((List.mem_insertionSort r).mpr hy) hlate
    -- then something before `x` is found, and `x` does not stand before itself
    cases hfind : ((l.insertionSort r).takeWhile fun b => ¬ r x b).find? p with
    | none => exact List.find?_eq_none.mp hfind y hbefore hpy
    | some z =>
      rw [hfind, Option.some_or, Option.some.injEq] at hfound
      have hz := List.mem_takeWhile_imp (List.mem_of_find?_eq_some hfind)
      rw [hfound] at hz
      simp [hrefl] at hz
  · intro hfirst
    have hnone : ((l.insertionSort r).takeWhile fun b => ¬ r x b).find? p = none := by
      refine List.find?_eq_none.mpr fun z hz hpz => ?_
      have hlate := List.mem_takeWhile_imp hz
      have hmem := (List.mem_insertionSort r).mp ((List.takeWhile_sublist _).subset hz)
      simp [hfirst z hmem hpz] at hlate
    rw [hnone, Option.none_or]

end Sorted
