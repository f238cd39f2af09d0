import Mathlib.Data.List.Induction
import WerTe.Keyed.Table

/-!
# Groups

The items of a list go into a table one after the other: the first of a key starts the key's group,
and the later ones are added to it. Nothing gets lost on the way, and nothing is in two groups
(`flatMap_members_perm`).
-/

namespace Keyed

variable {κ α γ : Type*} [DecidableEq κ] {key : α → κ} {start : α → γ} {add : γ → α → γ}

/-- The group of a key that is in the table already, or a new one. -/
def join (key : α → κ) (start : α → γ) (add : γ → α → γ) (groups : Table κ γ) (item : α) :
    Table κ γ :=
  groups.set (key item) ((groups.get (key item)).elim (start item) (add · item))

def grouped (key : α → κ) (start : α → γ) (add : γ → α → γ) (items : List α) : Table κ γ :=
  items.foldl (join key start add) .empty

theorem grouped_concat (items : List α) (item : α) : grouped key start add (items ++ [item]) =
    join key start add (grouped key start add items) item := by
  rw [grouped, List.foldl_append]
  rfl

/-- What a group has when it starts and keeps when an item of its key is added. -/
theorem of_get_grouped {P : κ → γ → Prop} (hstart : ∀ a, P (key a) (start a))
    (hadd : ∀ a g, P (key a) g → P (key a) (add g a)) {items : List α} {k : κ} {g : γ}
    (h : (grouped key start add items).get k = some g) : P k g := by
  induction items using List.reverseRecOn generalizing k g with
  | nil => cases h
  | append_singleton items item ih =>
    rw [grouped_concat, join] at h
    by_cases hk : k = key item
    · subst hk
      rw [Table.get_set_self] at h
      obtain rfl := Option.some.inj h
      cases hbefore : (grouped key start add items).get (key item) with
      | none => exact hstart item
      | some group => exact hadd item group (ih hbefore)
    · rw [Table.get_set_ne _ hk] at h
      exact ih h

/-- The same, of what the items of the list are known to have. -/
theorem of_get_grouped_of_mem {P : κ → γ → Prop} {items : List α}
    (hstart : ∀ a ∈ items, P (key a) (start a))
    (hadd : ∀ a ∈ items, ∀ g, P (key a) g → P (key a) (add g a)) {k : κ} {g : γ}
    (h : (grouped key start add items).get k = some g) : P k g := by
  induction items using List.reverseRecOn generalizing k g with
  | nil => cases h
  | append_singleton items item ih =>
    have hitem : item ∈ items ++ [item] := by simp
    have ih' : ∀ {k g}, (grouped key start add items).get k = some g → P k g :=
      ih (fun a ha => hstart a (List.mem_append_left _ ha))
        fun a ha => hadd a (List.mem_append_left _ ha)
    rw [grouped_concat, join] at h
    by_cases hk : k = key item
    · subst hk
      rw [Table.get_set_self] at h
      obtain rfl := Option.some.inj h
      cases hbefore : (grouped key start add items).get (key item) with
      | none => exact hstart item hitem
      | some group => exact hadd item hitem group (ih' hbefore)
    · rw [Table.get_set_ne _ hk] at h
      exact ih' h

/-! ## Counting the items of a group -/

/-- A group that counts its items has as many as there are of its key. -/
theorem count_get_grouped (count : γ → ℕ) (hstart : ∀ a, count (start a) = 1)
    (hadd : ∀ g a, count (add g a) = count g + 1) (items : List α) (k : κ) :
    ((grouped key start add items).get k).elim 0 count = items.countP (key · = k) := by
  induction items using List.reverseRecOn with
  | nil => rfl
  | append_singleton items item ih =>
    rw [grouped_concat, join, List.countP_append, ← ih]
    by_cases hk : key item = k
    · subst hk
      rw [Table.get_set_self]
      cases (grouped key start add items).get (key item) <;> simp [hstart, hadd]
    · rw [Table.get_set_ne _ (Ne.symm hk)]
      simp [hk]

/-- Every item has a group. -/
theorem get_grouped_isSome {items : List α} {item : α} (h : item ∈ items) :
    ∃ g, (grouped key start add items).get (key item) = some g := by
  induction items using List.reverseRecOn with
  | nil => cases h
  | append_singleton items last ih =>
    rw [grouped_concat, join]
    by_cases hk : key item = key last
    · exact ⟨_, by rw [hk, Table.get_set_self]⟩
    · rw [Table.get_set_ne _ hk]
      refine ih ((List.mem_append.mp h).resolve_right fun hlast => hk ?_)
      rw [List.mem_singleton.mp hlast]

section Members

variable (members : γ → List α) (hstart : ∀ a, members (start a) = [a])
  (hadd : ∀ g a, members (add g a) = members g ++ [a])

include hstart hadd

/-- A key's group has the items of the key, in their order. -/
theorem members_get_grouped (items : List α) (k : κ) :
    ((grouped key start add items).get k).elim [] members = items.filter (key · = k) := by
  induction items using List.reverseRecOn with
  | nil => rfl
  | append_singleton items item ih =>
    rw [grouped_concat, join, List.filter_append, ← ih]
    by_cases hk : key item = k
    · subst hk
      rw [Table.get_set_self]
      cases (grouped key start add items).get (key item) <;> simp [hstart, hadd]
    · rw [Table.get_set_ne _ (Ne.symm hk)]
      simp [hk]

theorem members_of_mem {items : List α} {entry : κ × γ}
    (h : entry ∈ (grouped key start add items).entries) :
    members entry.2 = items.filter (key · = entry.1) := by
  rw [← members_get_grouped members hstart hadd items entry.1, (Table.mem_iff_get _).mp h]
  rfl

theorem mem_flatMap_members {items : List α} {item : α} :
    item ∈ (grouped key start add items).entries.flatMap (members ·.2) ↔ item ∈ items := by
  rw [List.mem_flatMap]
  constructor
  · rintro ⟨entry, hentry, hitem⟩
    rw [members_of_mem members hstart hadd hentry] at hitem
    exact List.mem_of_mem_filter hitem
  · intro hitem
    have hmembers : ((grouped key start add items).get (key item)).elim [] members = _ :=
      members_get_grouped members hstart hadd items (key item)
    have hmem : item ∈ items.filter (key · = key item) := by simp [hitem]
    rw [← hmembers] at hmem
    cases hget : (grouped key start add items).get (key item) with
    | none => simp [hget] at hmem
    | some group =>
      rw [hget] at hmem
      exact ⟨_, (Table.mem_iff_get _).mpr hget, hmem⟩

theorem nodup_flatMap_members {items : List α} (hitems : items.Nodup) :
    ((grouped key start add items).entries.flatMap (members ·.2)).Nodup := by
  refine List.nodup_flatMap.mpr ⟨fun entry hentry => ?_, ?_⟩
  · rw [members_of_mem members hstart hadd hentry]
    exact hitems.filter _
  · have hkeys := List.pairwise_map.mp (grouped key start add items).nodup
    refine hkeys.imp_of_mem fun {left right} hleft hright hne item hitem hitem' => hne ?_
    have hof : ∀ entry ∈ (grouped key start add items).entries, item ∈ members entry.2 →
        key item = entry.1 := by
      intro entry hentry h
      rw [members_of_mem members hstart hadd hentry] at h
      exact of_decide_eq_true (List.mem_filter.mp h).2
    exact (hof left hleft hitem).symm.trans (hof right hright hitem')

/-- **Grouping only rearranges.** -/
theorem flatMap_members_perm {items : List α} (hitems : items.Nodup) :
    ((grouped key start add items).entries.flatMap (members ·.2)).Perm items :=
  (List.perm_ext_iff_of_nodup (nodup_flatMap_members members hstart hadd hitems) hitems).mpr
    fun _ => mem_flatMap_members members hstart hadd

end Members

end Keyed
