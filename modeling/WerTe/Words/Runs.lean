import Mathlib.Data.List.Basic

/-!
# The words of a text

The maximal runs of letters of a text, over any alphabet with any choice of its letters. A word is
one of them exactly when it occurs in the text with no letter on either side of it.
-/

namespace Words

variable {α : Type*} (isLetter : α → Bool)

/-- The maximal runs of letters. -/
def runs (text : List α) : List (List α) :=
  (text.splitOnP fun c => !isLetter c).filter fun run => !run.isEmpty

/-- No letter stands at the end of what is before the word nor at the beginning of what is after
it. -/
def StandsAlone (word text : List α) : Prop :=
  ∃ before after, text = before ++ word ++ after ∧
    (∀ c, before.getLast? = some c → isLetter c = false) ∧
    ∀ c, after.head? = some c → isLetter c = false

variable {isLetter} {word text : List α}

/-- What stands alone still does behind a character that is no letter. -/
theorem StandsAlone.cons (h : StandsAlone isLetter word text) {before : List α} {c : α}
    (hc : isLetter c = false) : StandsAlone isLetter word (before ++ c :: text) := by
  obtain ⟨mid, after, rfl, hmid, hafter⟩ := h
  refine ⟨before ++ c :: mid, after, by simp, fun d hd => ?_, hafter⟩
  cases mid with
  | nil =>
    obtain rfl : c = d := by simpa using hd
    exact hc
  | cons m mid =>
    refine hmid d ?_
    simpa using hd

/-- A text is cut at what is no letter. -/
theorem runs_append_cons (before after : List α) {c : α} (hc : isLetter c = false) :
    runs isLetter (before ++ c :: after) = runs isLetter before ++ runs isLetter after := by
  rw [runs, List.splitOnP_append_cons before after (by simp [hc]), List.filter_append]
  rfl

/-- A text of letters only is one word. -/
theorem runs_of_letters (hne : word ≠ []) (h : ∀ c ∈ word, isLetter c = true) :
    runs isLetter word = [word] := by
  rw [runs, List.splitOnP_eq_singleton fun c hc => by simp [h c hc]]
  simp [hne]

@[simp] theorem runs_nil : runs isLetter [] = [] := by simp [runs]

/-- What the text has up to its first character that is no letter. -/
theorem letters_or_cut (isLetter : α → Bool) (text : List α) : (∀ c ∈ text, isLetter c = true) ∨
    ∃ before c after, text = before ++ c :: after ∧ (∀ d ∈ before, isLetter d = true) ∧
      isLetter c = false := by
  induction text with
  | nil => exact .inl fun c hc => by cases hc
  | cons d text ih =>
    by_cases hd : isLetter d = true
    · rcases ih with hall | ⟨before, c, after, rfl, hbefore, hc⟩
      · exact .inl (List.forall_mem_cons.mpr ⟨hd, hall⟩)
      · exact .inr ⟨d :: before, c, after, rfl, List.forall_mem_cons.mpr ⟨hd, hbefore⟩, hc⟩
    · exact .inr ⟨[], d, text, rfl, by simp, by simpa using hd⟩

/-- The words of a text are what stands alone in it. -/
theorem mem_runs_iff : word ∈ runs isLetter text ↔
    word ≠ [] ∧ (∀ c ∈ word, isLetter c = true) ∧ StandsAlone isLetter word text := by
  constructor
  · -- on the length of the text: what follows its first cut is shorter
    induction hlen : text.length using Nat.strongRecOn generalizing text with
    | ind n ih =>
      intro hword
      have hwhole : ∀ before : List α, (∀ d ∈ before, isLetter d = true) →
          word ∈ runs isLetter before → word = before ∧ before ≠ [] := by
        intro before hbefore hmem
        by_cases hne : before = []
        · simp [hne] at hmem
        · rw [runs_of_letters hne hbefore] at hmem
          exact ⟨List.mem_singleton.mp hmem, hne⟩
      rcases letters_or_cut isLetter text with hall | ⟨before, c, after, rfl, hbefore, hc⟩
      · obtain ⟨rfl, hne⟩ := hwhole _ hall hword
        exact ⟨hne, hall, [], [], by simp, by simp, by simp⟩
      · rw [runs_append_cons before after hc, List.mem_append] at hword
        rcases hword with hword | hword
        · obtain ⟨rfl, hne⟩ := hwhole _ hbefore hword
          refine ⟨hne, hbefore, [], c :: after, rfl, by simp, fun d hd => ?_⟩
          obtain rfl : c = d := by simpa using hd
          exact hc
        · have hshorter : after.length < n := by
            rw [← hlen, List.length_append, List.length_cons]
            omega
          obtain ⟨hne, hletters, halone⟩ := ih _ hshorter rfl hword
          exact ⟨hne, hletters, halone.cons hc⟩
  · rintro ⟨hne, hletters, before, after, rfl, hbefore, hafter⟩
    have hright : word ∈ runs isLetter (word ++ after) := by
      cases after with
      | nil => simp [runs_of_letters hne hletters]
      | cons c after =>
        rw [runs_append_cons word after (hafter c rfl), runs_of_letters hne hletters]
        simp
    rcases List.eq_nil_or_concat' before with rfl | ⟨before, c, rfl⟩
    · exact hright
    · have hc : isLetter c = false := hbefore c (by simp)
      rw [List.append_assoc, List.append_assoc, List.singleton_append,
        runs_append_cons before _ hc]
      exact List.mem_append_right _ hright

end Words
