import Mathlib.Data.List.Basic
import Mathlib.Data.String.Basic

/-!
# Words joined to a text

Words that are written one after the other with a separator between them can be read back from
the text, as long as none of them is empty or has the separator in it.
-/

namespace Words

/-- The word can be told from a text that it is joined to. -/
structure Joinable {α : Type*} (separator : α) (word : List α) : Prop where
  ne_nil : word ≠ []
  separator_notMem : separator ∉ word

section Lists

variable {α : Type*} [DecidableEq α] {separator : α} {words words' : List (List α)}

/-- Only no words at all make an empty text. -/
theorem intercalate_eq_nil_iff (h : ∀ word ∈ words, Joinable separator word) :
    [separator].intercalate words = [] ↔ words = [] := by
  constructor
  · intro hnil
    by_contra hne
    have hsplit := List.splitOn_intercalate separator (fun word hword =>
      (h word hword).separator_notMem) hne
    rw [hnil, List.splitOn_nil] at hsplit
    exact (h [] (hsplit ▸ List.mem_singleton_self [])).ne_nil rfl
  · rintro rfl
    rfl

/-- **The words can be read back.** -/
theorem intercalate_inj (h : ∀ word ∈ words, Joinable separator word)
    (h' : ∀ word ∈ words', Joinable separator word) :
    [separator].intercalate words = [separator].intercalate words' ↔ words = words' := by
  constructor
  · intro heq
    by_cases hnil : words = []
    · subst hnil
      exact ((intercalate_eq_nil_iff h').mp heq.symm).symm
    · have hnil' : words' ≠ [] := by
        rintro rfl
        exact hnil ((intercalate_eq_nil_iff h).mp heq)
      rw [← List.splitOn_intercalate separator (fun word hword =>
          (h word hword).separator_notMem) hnil, heq,
        List.splitOn_intercalate separator (fun word hword =>
          (h' word hword).separator_notMem) hnil']
  · rintro rfl
    rfl

end Lists

/-- The same for strings. -/
theorem string_intercalate_inj {separator : String} {c : Char} (hseparator : separator.toList = [c])
    {words words' : List String} (h : ∀ word ∈ words, Joinable c word.toList)
    (h' : ∀ word ∈ words', Joinable c word.toList) :
    separator.intercalate words = separator.intercalate words' ↔ words = words' := by
  rw [← String.toList_inj, String.toList_intercalate, String.toList_intercalate, hseparator,
    intercalate_inj (by simpa using h) (by simpa using h')]
  exact (List.map_injective_iff.mpr fun _ _ => String.toList_inj.mp).eq_iff

end Words
