import Mathlib.Data.List.Nodup

/-!
# Tables

A map that keeps its keys in the order in which they came: the values that are written under a key
that is there take its place, and others come last.
-/

namespace Keyed

structure Table (κ α : Type*) where
  entries : List (κ × α)
  nodup : (entries.map Prod.fst).Nodup

namespace Table

variable {κ α : Type*}

def empty : Table κ α := ⟨[], .nil⟩

def size (t : Table κ α) : ℕ := t.entries.length

@[simp] theorem size_empty : (empty : Table κ α).size = 0 := rfl

/-- What is left of a table when only some entries are kept. -/
def filter (t : Table κ α) (p : κ × α → Bool) : Table κ α :=
  ⟨t.entries.filter p, t.nodup.sublist (List.filter_sublist.map _)⟩

theorem size_filter_le (t : Table κ α) (p : κ × α → Bool) : (t.filter p).size ≤ t.size :=
  List.length_filter_le ..

variable [DecidableEq κ]

def get (t : Table κ α) (key : κ) : Option α := t.entries.lookup key

/-- Write a value under a key. -/
def setEntries (key : κ) (a : α) : List (κ × α) → List (κ × α)
  | [] => [(key, a)]
  | entry :: rest => if entry.1 = key then (key, a) :: rest else entry :: setEntries key a rest

theorem map_fst_setEntries (key : κ) (a : α) (l : List (κ × α)) :
    (setEntries key a l).map Prod.fst =
      if key ∈ l.map Prod.fst then l.map Prod.fst else l.map Prod.fst ++ [key] := by
  induction l with
  | nil => rfl
  | cons entry rest ih =>
    rw [setEntries]
    by_cases h : entry.1 = key
    · simp [h]
    · simp only [if_neg h, List.map_cons, ih, List.mem_cons, Ne.symm h, false_or]
      split <;> rfl

def set (t : Table κ α) (key : κ) (a : α) : Table κ α where
  entries := setEntries key a t.entries
  nodup := by
    rw [map_fst_setEntries]
    split
    case isTrue => exact t.nodup
    case isFalse h => exact List.nodup_append.mpr ⟨t.nodup, List.nodup_singleton key, by grind⟩

@[simp] theorem get_empty (key : κ) : (empty : Table κ α).get key = none := rfl

theorem get_set_self (t : Table κ α) (key : κ) (a : α) : (t.set key a).get key = some a := by
  suffices h : ∀ l : List (κ × α), (setEntries key a l).lookup key = some a from h t.entries
  intro l
  induction l with
  | nil => simp [setEntries]
  | cons entry rest ih =>
    rw [setEntries]
    by_cases h : entry.1 = key
    · simp [h]
    · rw [if_neg h, List.lookup_cons, beq_eq_false_iff_ne.mpr (Ne.symm h)]
      exact ih

theorem get_set_ne (t : Table κ α) {key key' : κ} (hne : key' ≠ key) (a : α) :
    (t.set key a).get key' = t.get key' := by
  suffices h : ∀ l : List (κ × α), (setEntries key a l).lookup key' = l.lookup key' from h t.entries
  intro l
  induction l with
  | nil => simp [setEntries, hne]
  | cons entry rest ih =>
    rw [setEntries]
    by_cases h : entry.1 = key
    · rw [if_pos h, List.lookup_cons, List.lookup_cons, h, beq_eq_false_iff_ne.mpr hne]
    · rw [if_neg h, List.lookup_cons, List.lookup_cons, ih]

theorem mem_iff_get (t : Table κ α) {key : κ} {a : α} :
    (key, a) ∈ t.entries ↔ t.get key = some a := by
  obtain ⟨l, hnodup⟩ := t
  change _ ↔ l.lookup key = some a
  induction l with
  | nil => simp
  | cons entry rest ih =>
    obtain ⟨key', a'⟩ := entry
    rw [List.map_cons, List.nodup_cons] at hnodup
    rw [List.mem_cons, List.lookup_cons, ih hnodup.2]
    by_cases h : key = key'
    · subst h
      have hnot : (key, a) ∉ rest := fun hmem => hnodup.1 (List.mem_map.mpr ⟨_, hmem, rfl⟩)
      rw [← ih hnodup.2, beq_self_eq_true]
      simp [hnot, eq_comm]
    · rw [beq_eq_false_iff_ne.mpr h]
      simp [h]

theorem get_filter (t : Table κ α) (p : κ × α → Bool) {key : κ} {a : α} :
    (t.filter p).get key = some a ↔ t.get key = some a ∧ p (key, a) = true := by
  rw [← mem_iff_get, ← mem_iff_get, filter, List.mem_filter]

theorem size_set (t : Table κ α) (key : κ) (a : α) :
    (t.set key a).size = if (t.get key).isSome then t.size else t.size + 1 := by
  have hmem : key ∈ t.entries.map Prod.fst ↔ (t.get key).isSome = true := by
    rw [Option.isSome_iff_exists]
    constructor
    · intro h
      obtain ⟨⟨_, a⟩, hentry, rfl⟩ := List.mem_map.mp h
      exact ⟨a, t.mem_iff_get.mp hentry⟩
    · rintro ⟨a, ha⟩
      exact List.mem_map.mpr ⟨(key, a), t.mem_iff_get.mpr ha, rfl⟩
  have hlength := congrArg List.length (map_fst_setEntries key a t.entries)
  rw [List.length_map] at hlength
  rw [size, set, hlength]
  simp only [hmem]
  split <;> simp [size]

end Table

end Keyed
