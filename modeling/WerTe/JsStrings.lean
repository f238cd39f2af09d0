import Mathlib.Data.List.DropRight
import Mathlib.Data.List.TakeWhile
import WerTe.Numeral.Texts
import WerTe.Schema

/-!
# Case and white space of JavaScript strings

`String.prototype.toUpperCase`, over a table of what it does to each character, and what is left
of a string by `trim`.
-/

namespace WerTe

/-! ## `trim` -/

/-- The string neither begins nor ends with white space. -/
def Trimmed (s : String) : Prop :=
  ∀ c, s.toList.head? = some c ∨ s.toList.getLast? = some c → isJsSpace c = false

theorem trim_eq (s : String) :
    trim s = .ofList ((s.toList.dropWhile isJsSpace).rdropWhile isJsSpace) := rfl

/-- Nothing is left to trim. -/
theorem Trimmed.trim_eq_self {s : String} (h : Trimmed s) : trim s = s := by
  have hfirst : s.toList.dropWhile isJsSpace = s.toList := by
    rw [List.dropWhile_eq_self_iff]
    intro hlen hspace
    have hhead : s.toList.head? = some s.toList[0] := by
      rw [List.head?_eq_getElem?, List.getElem?_eq_getElem hlen]
    rw [h _ (.inl hhead)] at hspace
    cases hspace
  have hlast : s.toList.rdropWhile isJsSpace = s.toList := by
    rw [List.rdropWhile_eq_self_iff]
    intro hne hspace
    rw [h _ (.inr (List.getLast?_eq_some_getLast hne))] at hspace
    cases hspace
  rw [trim_eq, hfirst, hlast, String.ofList_toList]

theorem trimmed_trim (s : String) : Trimmed (trim s) := by
  intro c hc
  rw [trim_eq, String.toList_ofList] at hc
  generalize hrest : s.toList.dropWhile isJsSpace = rest at hc
  rcases hc with hfirst | hlast
  · -- what is dropped at the end leaves the first character, which was not dropped at the start
    have hhead : rest.head? = some c := by
      obtain ⟨dropped, hsplit⟩ := List.rdropWhile_prefix isJsSpace (l := rest)
      rw [← hsplit, List.head?_append, hfirst]
      rfl
    have hself : rest.dropWhile isJsSpace = rest := by
      rw [← hrest, List.dropWhile_idempotent]
    cases rest with
    | nil => cases hhead
    | cons d rest =>
      cases hhead
      by_contra hspace
      rw [List.dropWhile_cons_of_pos (by simpa using hspace)] at hself
      have hlen := congrArg List.length hself
      have hle := (List.dropWhile_suffix isJsSpace (l := rest)).length_le
      simp only [List.length_cons] at hlen
      omega
  · have hne : rest.rdropWhile isJsSpace ≠ [] := by
      intro hnil
      rw [hnil] at hlast
      cases hlast
    have hnot := List.rdropWhile_last_not isJsSpace rest hne
    rw [List.getLast?_eq_some_getLast hne, Option.some.injEq] at hlast
    simpa [hlast] using hnot

/-- The digits of a number are no white space. -/
theorem isJsSpace_of_isDigit {c : Char} (h : c.isDigit = true) : isJsSpace c = false := by
  simp only [Char.isDigit, Bool.and_eq_true, decide_eq_true_eq, ge_iff_le, UInt32.le_iff_toNat_le]
    at h
  simp only [isJsSpace, List.mem_cons, List.not_mem_nil, or_false, Bool.or_eq_false_iff,
    decide_eq_false_iff_not, Bool.and_eq_false_iff, UInt32.le_iff_toNat_le, ← UInt32.toNat_inj]
  have hlow : '0'.val.toNat = 48 := rfl
  have hhigh : '9'.val.toNat = 57 := rfl
  simp only [hlow, hhigh] at h
  simp only [UInt32.reduceToNat]
  omega

theorem trim_toString (i : ℕ) : trim (toString i) = toString i := by
  refine Trimmed.trim_eq_self fun c hc => isJsSpace_of_isDigit ?_
  have hmem : c ∈ (toString i).toList :=
    hc.elim List.mem_of_mem_head? List.mem_of_mem_getLast?
  exact Numeral.isDigit_of_mem_toString hmem

/-! ## `toUpperCase` -/

/-- Unicode's mapping of characters to upper case, with what is relied on of it: it maps to upper
case, and no character to white space or to nothing. -/
structure CaseTable where
  upper : Char → List Char
  upper_ne_nil : ∀ c, upper c ≠ []
  upper_upper : ∀ c, ∀ d ∈ upper c, upper d = [d]
  upper_space : ∀ c, isJsSpace c = false → ∀ d ∈ upper c, isJsSpace d = false

/-- `String.prototype.toUpperCase`. -/
def toUpperCase (table : CaseTable) (s : String) : String := .ofList (s.toList.flatMap table.upper)

/-- Upper case in ASCII. -/
def asciiUpper (c : Char) : Char :=
  if 97 ≤ c.toNat ∧ c.toNat ≤ 122 then Char.ofNat (c.toNat - 32) else c

/-- The table's rows for ASCII. -/
def CaseTable.ascii : CaseTable where
  upper c := [asciiUpper c]
  upper_ne_nil c := by simp
  upper_upper c d hd := by
    have hletters : ∀ n : Fin 123, 97 ≤ n.val →
        asciiUpper (Char.ofNat (n.val - 32)) = Char.ofNat (n.val - 32) := by decide
    rw [List.mem_singleton] at hd
    subst hd
    by_cases hlower : 97 ≤ c.toNat ∧ c.toNat ≤ 122
    · have hupper : asciiUpper c = Char.ofNat (c.toNat - 32) := if_pos hlower
      rw [hupper, hletters ⟨c.toNat, by omega⟩ hlower.1]
    · have hupper : asciiUpper c = c := if_neg hlower
      rw [hupper, hupper]
  upper_space c hc d hd := by
    have hletters : ∀ n : Fin 123, 97 ≤ n.val → isJsSpace (Char.ofNat (n.val - 32)) = false := by
      decide
    rw [List.mem_singleton] at hd
    subst hd
    by_cases hlower : 97 ≤ c.toNat ∧ c.toNat ≤ 122
    · rw [asciiUpper, if_pos hlower]
      exact hletters ⟨c.toNat, by omega⟩ hlower.1
    · rwa [asciiUpper, if_neg hlower]

variable {table : CaseTable}

/-- Upper case is upper case already. -/
theorem toUpperCase_toUpperCase (s : String) :
    toUpperCase table (toUpperCase table s) = toUpperCase table s := by
  have hfixed : ∀ l : List Char, (∀ d ∈ l, table.upper d = [d]) → l.flatMap table.upper = l := by
    intro l
    induction l with
    | nil => exact fun _ => rfl
    | cons d l ih =>
      intro h
      rw [List.flatMap_cons, h d List.mem_cons_self,
        ih fun e he => h e (List.mem_cons_of_mem _ he), List.singleton_append]
  rw [toUpperCase, toUpperCase, String.toList_ofList, hfixed]
  intro d hd
  obtain ⟨c, -, hdc⟩ := List.mem_flatMap.mp hd
  exact table.upper_upper c d hdc

/-- What has been trimmed stays trimmed in upper case. -/
theorem Trimmed.toUpperCase {s : String} (h : Trimmed s) : Trimmed (toUpperCase table s) := by
  intro d hd
  rw [WerTe.toUpperCase, String.toList_ofList] at hd
  rcases hd with hfirst | hlast
  · cases hs : s.toList with
    | nil => simp [hs] at hfirst
    | cons c l =>
      have hc : isJsSpace c = false := h c (.inl (by rw [hs]; rfl))
      refine table.upper_space c hc d ?_
      rw [hs, List.flatMap_cons, List.head?_append_of_ne_nil _ (table.upper_ne_nil c)] at hfirst
      exact List.mem_of_head? hfirst
  · rcases List.eq_nil_or_concat s.toList with hs | ⟨l, c, hs⟩
    · simp [hs] at hlast
    · have hc : isJsSpace c = false := h c (.inr (by rw [hs]; simp))
      refine table.upper_space c hc d ?_
      rw [hs, List.concat_eq_append, List.flatMap_append, List.flatMap_singleton,
        List.getLast?_append_of_ne_nil _ (table.upper_ne_nil c)] at hlast
      exact List.mem_of_getLast? hlast

end WerTe
