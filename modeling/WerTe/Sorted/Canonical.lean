import Mathlib.Data.List.Dedup
import Mathlib.Data.List.Sort

/-!
# Sorted lists stand for sets

Under an order that tells all entries apart, lists without repetitions have the same entries just
when they are the same once they are sorted.
-/

namespace Sorted

variable {α : Type*}

theorem nodup_eraseDups [BEq α] [LawfulBEq α] (l : List α) : l.eraseDups.Nodup := by
  induction hlength : l.length using Nat.strong_induction_on generalizing l with
  | _ n ih =>
    cases l with
    | nil => exact .nil
    | cons a rest =>
      rw [List.eraseDups_cons, List.nodup_cons]
      refine ⟨fun hmem => ?_, ih _ ?_ _ rfl⟩
      · rw [List.mem_eraseDups, List.mem_filter] at hmem
        simp at hmem
      · have hle := List.length_filter_le (fun b => !b == a) rest
        rw [List.length_cons] at hlength
        omega

variable (r : α → α → Prop) [DecidableRel r] [Std.Total r] [IsTrans α r] [Std.Antisymm r]

/-- **Sorting tells the sets apart, and nothing else.** -/
theorem insertionSort_eq_iff {l l' : List α} (hl : l.Nodup) (hl' : l'.Nodup) :
    l.insertionSort r = l'.insertionSort r ↔ ∀ a, a ∈ l ↔ a ∈ l' := by
  constructor
  · intro heq a
    rw [← (List.perm_insertionSort r l).mem_iff, heq, (List.perm_insertionSort r l').mem_iff]
  · intro hmem
    refine List.Perm.eq_of_pairwise' (List.pairwise_insertionSort _ _)
      (List.pairwise_insertionSort _ _) ?_
    exact (List.perm_insertionSort r l).trans
      (((List.perm_ext_iff_of_nodup hl hl').mpr hmem).trans (List.perm_insertionSort r l').symm)

end Sorted
