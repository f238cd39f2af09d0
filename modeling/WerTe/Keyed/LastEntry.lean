import Mathlib.Data.List.Basic

/-!
# Maps that are made from lists

A list of entries makes a map, in which a later entry takes the place of an earlier one with the
same key. Where the entries of a key are all the same, a look up is membership. A key of two parts
is as good as the pair of them when the first never has what separates them.
-/

namespace Keyed

variable {κ α : Type} [DecidableEq κ] {entries : List (κ × α)} {key : κ} {a : α}

/-- The value of the last entry of the key. -/
def lastEntry (entries : List (κ × α)) (key : κ) : Option α :=
  (entries.reverse.find? fun entry => decide (entry.1 = key)).map Prod.snd

theorem mem_of_lastEntry (h : lastEntry entries key = some a) : (key, a) ∈ entries := by
  obtain ⟨⟨key', a'⟩, hfind, rfl⟩ := Option.map_eq_some_iff.mp h
  have hkey : key' = key := by simpa using List.find?_some hfind
  rw [← hkey]
  exact List.mem_reverse.mp (List.mem_of_find?_eq_some hfind)

theorem lastEntry_eq_none_iff :
    lastEntry entries key = none ↔ ∀ entry ∈ entries, entry.1 ≠ key := by
  rw [lastEntry, Option.map_eq_none_iff, List.find?_eq_none]
  simp

/-- The entries that come after the last one of the key have other keys. -/
theorem split_of_lastEntry (h : lastEntry entries key = some a) : ∃ before after,
    entries = before ++ (key, a) :: after ∧ ∀ entry ∈ after, entry.1 ≠ key := by
  obtain ⟨⟨key', a'⟩, hfind, rfl⟩ := Option.map_eq_some_iff.mp h
  obtain ⟨hkey, after, before, hsplit, hafter⟩ := List.find?_eq_some_iff_append.mp hfind
  obtain rfl : key' = key := by simpa using hkey
  refine ⟨before.reverse, after.reverse, ?_, fun entry hentry => ?_⟩
  · rw [← List.reverse_reverse entries, hsplit]
    simp
  · simpa using hafter entry (List.mem_reverse.mp hentry)

/-- The keys have one entry each. -/
theorem lastEntry_eq_some_iff
    (hunique : ∀ a b, (key, a) ∈ entries → (key, b) ∈ entries → a = b) :
    lastEntry entries key = some a ↔ (key, a) ∈ entries := by
  refine ⟨mem_of_lastEntry, fun hmem => ?_⟩
  cases hlast : lastEntry entries key with
  | some b => rw [hunique a b hmem (mem_of_lastEntry hlast)]
  | none =>
    exact absurd rfl (lastEntry_eq_none_iff.mp hlast (key, a) hmem)

/-- The first of a list whose members are all the same. -/
theorem head?_eq_some_iff {l : List α} (hunique : ∀ b ∈ l, ∀ c ∈ l, b = c) :
    l.head? = some a ↔ a ∈ l := by
  refine ⟨List.mem_of_head?, fun hmem => ?_⟩
  cases l with
  | nil => cases hmem
  | cons b l => rw [List.head?_cons, hunique b List.mem_cons_self a hmem]

omit [DecidableEq κ] in
/-- What is kept of the values that are found for keys, by the keys. -/
theorem map_fst_filter_filterMap {f : κ → Option (κ × α)} {kept : κ × α → Bool} {keep : κ → Bool}
    {keys : List κ} (h : ∀ key ∈ keys, ∃ a, f key = some (key, a) ∧ kept (key, a) = keep key) :
    ((keys.filterMap f).filter kept).map Prod.fst = keys.filter keep := by
  induction keys with
  | nil => rfl
  | cons key keys ih =>
    obtain ⟨⟨a, hfound, hkept⟩, hkeys⟩ := List.forall_mem_cons.mp h
    rw [List.filterMap_cons, hfound, List.filter_cons, List.filter_cons, hkept, ← ih hkeys]
    cases keep key <;> rfl

/-- Neither first part has the separator. -/
theorem append_cons_inj {first first' second second' : List α} {separator : α}
    (h : separator ∉ first) (h' : separator ∉ first') :
    first ++ separator :: second = first' ++ separator :: second' ↔
      first = first' ∧ second = second' := by
  induction first generalizing first' with
  | nil =>
    cases first' with
    | nil => simp
    | cons b first' =>
      have hne : separator ≠ b := fun heq => h' (heq ▸ List.mem_cons_self)
      simp [hne]
  | cons a first ih =>
    have hne : a ≠ separator := fun heq => h (heq ▸ List.mem_cons_self)
    cases first' with
    | nil => simp [hne]
    | cons b first' =>
      simp only [List.cons_append, List.cons.injEq, and_assoc,
        ih (fun hmem => h (List.mem_cons_of_mem a hmem))
          fun hmem => h' (List.mem_cons_of_mem b hmem)]

end Keyed
