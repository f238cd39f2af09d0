import Mathlib
import WerTe.Keyed.Table

/-!
# Tallies

The items of a list are counted in the entries of a table that are under their keys. An item without
an entry is left out (`total_tally`), and no entry is added.
-/

namespace Keyed

variable {κ α β γ : Type*} [DecidableEq κ]

namespace Table

/-- Change the value under a key, if there is one. -/
def modify (t : Table κ γ) (key : κ) (f : γ → γ) : Table κ γ :=
  (t.get key).elim t fun value => t.set key (f value)

def total (measure : γ → ℕ) (t : Table κ γ) : ℕ := (t.entries.map fun entry => measure entry.2).sum

theorem keys_set_of_get {t : Table κ γ} {key : κ} {value : γ} (h : t.get key = some value)
    (value' : γ) : (t.set key value').entries.map Prod.fst = t.entries.map Prod.fst := by
  have hmem : key ∈ t.entries.map Prod.fst := List.mem_map.mpr ⟨_, t.mem_iff_get.mpr h, rfl⟩
  rw [set, map_fst_setEntries, if_pos hmem]

theorem keys_modify (t : Table κ γ) (key : κ) (f : γ → γ) :
    (t.modify key f).entries.map Prod.fst = t.entries.map Prod.fst := by
  rw [modify]
  cases h : t.get key with
  | none => rfl
  | some value => exact keys_set_of_get h _

theorem total_set {measure : γ → ℕ} {t : Table κ γ} {key : κ} {value value' : γ} {n : ℕ}
    (h : t.get key = some value) (hmeasure : measure value' = measure value + n) :
    (t.set key value').total measure = t.total measure + n := by
  suffices hentries : ∀ l : List (κ × γ), l.lookup key = some value →
      ((setEntries key value' l).map fun entry => measure entry.2).sum =
        (l.map fun entry => measure entry.2).sum + n from hentries t.entries h
  intro l hl
  induction l with
  | nil => cases hl
  | cons entry rest ih =>
    rw [setEntries]
    by_cases hkey : entry.1 = key
    · subst hkey
      rw [List.lookup_cons, beq_self_eq_true] at hl
      obtain rfl := Option.some.inj hl
      rw [if_pos rfl, List.map_cons, List.map_cons, List.sum_cons, List.sum_cons, hmeasure]
      omega
    · rw [List.lookup_cons, beq_eq_false_iff_ne.mpr (Ne.symm hkey)] at hl
      rw [if_neg hkey, List.map_cons, List.map_cons, List.sum_cons, List.sum_cons, ih hl]
      omega

theorem total_modify {measure : γ → ℕ} {f : γ → γ} {n : ℕ}
    (hmeasure : ∀ value, measure (f value) = measure value + n) {t : Table κ γ} {key : κ}
    (hkey : key ∈ t.entries.map Prod.fst) :
    (t.modify key f).total measure = t.total measure + n := by
  obtain ⟨⟨key, value⟩, hentry, rfl⟩ := List.mem_map.mp hkey
  have hget := t.mem_iff_get.mp hentry
  rw [modify, hget]
  exact total_set hget (hmeasure value)

theorem forall_modify {P : κ → γ → Prop} {f : γ → γ} (hf : ∀ k value, P k value → P k (f value))
    {t : Table κ γ} (h : ∀ k value, t.get k = some value → P k value) (key k : κ) (value : γ)
    (hget : (t.modify key f).get k = some value) : P k value := by
  rw [modify] at hget
  cases hold : t.get key with
  | none => exact h k value (by simpa [hold] using hget)
  | some old =>
    rw [hold, Option.elim_some] at hget
    by_cases hk : k = key
    · subst hk
      rw [get_set_self] at hget
      obtain rfl := Option.some.inj hget
      exact hf k old (h k old hold)
    · exact h k value (by rwa [get_set_ne _ hk] at hget)

theorem entries_set_of_notMem {t : Table κ γ} {key : κ} (h : key ∉ t.entries.map Prod.fst)
    (value : γ) : (t.set key value).entries = t.entries ++ [(key, value)] := by
  suffices hentries : ∀ l : List (κ × γ), key ∉ l.map Prod.fst →
      setEntries key value l = l ++ [(key, value)] from hentries t.entries h
  intro l hl
  induction l with
  | nil => rfl
  | cons entry rest ih =>
    rw [List.map_cons, List.mem_cons, not_or] at hl
    rw [setEntries, if_neg (Ne.symm hl.1), ih hl.2, List.cons_append]

end Table

/-- Count each item in the entry of its key. -/
def tally (key : α → κ) (count : α → γ → γ) (items : List α) (t : Table κ γ) : Table κ γ :=
  items.foldl (fun t item => t.modify (key item) (count item)) t

variable {key : α → κ} {count : α → γ → γ}

theorem keys_tally (items : List α) (t : Table κ γ) :
    (tally key count items t).entries.map Prod.fst = t.entries.map Prod.fst := by
  induction items generalizing t with
  | nil => rfl
  | cons item items ih => exact (ih _).trans (t.keys_modify _ _)

/-- What every entry has and keeps when something is counted in it. -/
theorem forall_tally {P : κ → γ → Prop}
    (hcount : ∀ item k value, P k value → P k (count item value)) (items : List α) {t : Table κ γ}
    (h : ∀ k value, t.get k = some value → P k value) (k : κ) (value : γ)
    (hget : (tally key count items t).get k = some value) : P k value := by
  induction items generalizing t with
  | nil => exact h k value hget
  | cons item items ih => exact ih (Table.forall_modify (hcount item) h (key item)) hget

/-- **Nothing is left out** when every item has an entry. -/
theorem total_tally {measure : γ → ℕ} {amount : α → ℕ}
    (hcount : ∀ item value, measure (count item value) = measure value + amount item)
    {items : List α} {t : Table κ γ} (hkeys : ∀ item ∈ items, key item ∈ t.entries.map Prod.fst) :
    (tally key count items t).total measure = t.total measure + (items.map amount).sum := by
  induction items generalizing t with
  | nil => rfl
  | cons item items ih =>
    obtain ⟨hkey, hrest⟩ := List.forall_mem_cons.mp hkeys
    have hmodify := Table.total_modify (hcount item) hkey
    rw [tally, List.foldl_cons, ← tally, ih, hmodify, List.map_cons, List.sum_cons]
    · omega
    · rwa [Table.keys_modify]

/-! ## Counting without keys -/

/-- What a loop adds up. -/
theorem measure_foldl {measure : γ → ℕ} {amount : α → ℕ} {step : γ → α → γ}
    (hstep : ∀ value item, measure (step value item) = measure value + amount item)
    (items : List α) (value : γ) :
    measure (items.foldl step value) = measure value + (items.map amount).sum := by
  induction items generalizing value with
  | nil => rfl
  | cons item items ih =>
    rw [List.foldl_cons, ih, hstep, List.map_cons, List.sum_cons]
    omega

theorem sum_map_one_iff (P : α → Prop) [DecidablePred P] (items : List α) :
    (items.map fun item => if P item then 1 else 0).sum = items.countP (P ·) := by
  induction items with
  | nil => rfl
  | cons item items ih => simp [List.countP_cons, ih, Nat.add_comm]

/-- Counting by keys: each item has one of the keys. -/
theorem sum_countP_filter {keys : List κ} (hkeys : keys.Nodup) {items : List α}
    (hitems : ∀ item ∈ items, key item ∈ keys) (p : α → Bool) :
    (keys.map fun k => (items.filter (key · = k)).countP p).sum = items.countP p := by
  induction items with
  | nil => simp
  | cons item items ih =>
    obtain ⟨hitem, hrest⟩ := List.forall_mem_cons.mp hitems
    have hcons : ∀ k, ((item :: items).filter (key · = k)).countP p =
        (if key item = k ∧ p item = true then 1 else 0) +
          (items.filter (key · = k)).countP p := by
      intro k
      by_cases hk : key item = k <;> simp [hk, List.countP_cons, Nat.add_comm]
    have hone : (keys.map fun k => if key item = k ∧ p item = true then 1 else 0).sum =
        if p item = true then 1 else 0 := by
      rw [List.sum_map_eq_nsmul_single (key item) _ fun k hk _ => if_neg fun h => hk h.1.symm,
        List.count_eq_one_of_mem hkeys hitem]
      simp
    rw [List.map_congr_left fun k _ => hcons k, List.sum_map_add, hone, ih hrest, List.countP_cons,
      Nat.add_comm]

end Keyed
