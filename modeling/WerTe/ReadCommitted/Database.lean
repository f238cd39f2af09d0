import Mathlib.Data.List.AList
import Mathlib.Algebra.BigOperators.Group.Finset.Basic
import Mathlib.Algebra.BigOperators.Group.Finset.Piecewise
import Mathlib.Algebra.BigOperators.Group.List.Lemmas
import Mathlib.Algebra.Order.BigOperators.Group.Finset
import Mathlib.Data.Finset.Dedup
import Mathlib.Tactic.Abel

/-!
# Databases: tables of rows, and row writes

A database over a *schema* `Row : T → Type` is one finite table for each `t : T`,
keyed by row ids. Rows are addressed by a `Key` (the table and the id), and every
change is a list of *row writes*: a write replaces one whole row, or deletes it.

Two facts are used everywhere above this file:

* a row no write touches is unchanged (`get_apply_of_notMem`);
* a row some write touches depends on the writes alone, never on the database they
  are applied to (`get_apply_congr`).

The second is what lets the uncommitted writes of a transaction be replayed over a
database that other transactions have changed in the meantime.
-/

namespace ReadCommitted

variable {T : Type} {Row : T → Type}

/-- A row's address: its table and its primary key. -/
abbrev Key (T : Type) : Type := T × ℕ

/-- A database: for each table the rows it holds, by id. -/
structure Db (Row : T → Type) where
  /-- the rows of a table -/
  rows : (t : T) → AList fun _ : ℕ => Row t

/-- A row write: the new row, or `none` to delete it. -/
structure Write (Row : T → Type) where
  /-- the table written to -/
  table : T
  /-- the row written -/
  id : ℕ
  /-- the row's new value -/
  row : Option (Row table)

/-- The row a write locks. -/
def Write.key (w : Write Row) : Key T := (w.table, w.id)

/-- The unique indexes of a schema, by the conflicts they cause. -/
class UniqueIndexes (Row : T → Type) where
  /-- the two rows hold the same value under some unique index of their table -/
  collide : (t : T) → Row t → Row t → Bool
  /-- whose row comes first does not matter -/
  collide_comm : ∀ t r r', collide t r r' = collide t r' r

namespace Db

/-- The empty database. -/
protected def empty : Db Row := ⟨fun _ => ∅⟩

/-- The row stored under a key. -/
def get (db : Db Row) (k : Key T) : Option (Row k.1) := (db.rows k.1).lookup k.2

variable [DecidableEq T]

/-- Carry out one row write. -/
def put (db : Db Row) (w : Write Row) : Db Row :=
  ⟨Function.update db.rows w.table
    (match w.row with
      | some r => (db.rows w.table).insert w.id r
      | none => (db.rows w.table).erase w.id)⟩

/-- Carry out a list of row writes, first one first. -/
def apply (ws : List (Write Row)) (db : Db Row) : Db Row := ws.foldl put db

/-! ## Reading after a write -/

omit [DecidableEq T] in
@[simp] theorem get_empty (k : Key T) : (Db.empty : Db Row).get k = none := rfl

theorem get_put_self (db : Db Row) (w : Write Row) : (db.put w).get w.key = w.row := by
  obtain ⟨t, i, r⟩ := w
  simp only [get, put, Write.key, Function.update_self]
  cases r with
  | none => exact AList.lookup_erase _ _
  | some r => exact AList.lookup_insert _

theorem get_put_ne (db : Db Row) {w : Write Row} {k : Key T} (h : k ≠ w.key) :
    (db.put w).get k = db.get k := by
  obtain ⟨t, i, r⟩ := w
  obtain ⟨t', i'⟩ := k
  simp only [get, put]
  by_cases ht : t' = t
  · subst ht
    have hi : i' ≠ i := fun hi => h (by rw [Write.key, hi])
    rw [Function.update_self]
    cases r with
    | none => exact AList.lookup_erase_ne hi
    | some r => exact AList.lookup_insert_ne hi
  · rw [Function.update_of_ne ht]

/-- Writing a row makes no other row go. -/
theorem isSome_put (db : Db Row) {t : T} {i : ℕ} {r : Row t} {k : Key T} (h : (db.get k).isSome) :
    ((db.put ⟨t, i, some r⟩).get k).isSome := by
  by_cases hk : k = (t, i)
  · subst hk
    have hself : (db.put ⟨t, i, some r⟩).get (t, i) = some r := get_put_self ..
    rw [hself]
    rfl
  · have hother : (db.put ⟨t, i, some r⟩).get k = db.get k := get_put_ne _ hk
    rwa [hother]

theorem rows_put_ne (db : Db Row) {w : Write Row} {t : T} (h : t ≠ w.table) :
    (db.put w).rows t = db.rows t := Function.update_of_ne h ..

@[simp] theorem apply_nil (db : Db Row) : db.apply [] = db := rfl

@[simp] theorem apply_cons (db : Db Row) (w : Write Row) (ws : List (Write Row)) :
    db.apply (w :: ws) = (db.put w).apply ws := rfl

@[simp] theorem apply_append (db : Db Row) (ws ws' : List (Write Row)) :
    db.apply (ws ++ ws') = (db.apply ws).apply ws' :=
  List.foldl_append ..

/-- A row that is not written keeps its value. -/
theorem get_apply_of_notMem {ws : List (Write Row)} {k : Key T} :
    ∀ {db : Db Row}, k ∉ ws.map Write.key → (db.apply ws).get k = db.get k := by
  induction ws with
  | nil => intro db _; rfl
  | cons w ws ih =>
    intro db hk
    rw [List.map_cons, List.mem_cons, not_or] at hk
    rw [apply_cons, ih hk.2, get_put_ne db hk.1]

/-- A row of a table that is not written to. -/
theorem get_apply_of_table {ws : List (Write Row)} {db : Db Row} {k : Key T}
    (h : ∀ w ∈ ws, w.table ≠ k.1) : (db.apply ws).get k = db.get k := by
  refine get_apply_of_notMem fun hk => ?_
  obtain ⟨w, hw, hkey⟩ := List.mem_map.mp hk
  exact h w hw (congrArg Prod.fst hkey)

/-- A row that is written depends on the writes alone. -/
theorem get_apply_congr {ws : List (Write Row)} {k : Key T} :
    ∀ {db db' : Db Row}, k ∈ ws.map Write.key →
      (db.apply ws).get k = (db'.apply ws).get k := by
  induction ws with
  | nil => intro db db' hk; cases hk
  | cons w ws ih =>
    intro db db' hk
    rw [apply_cons, apply_cons]
    by_cases hws : k ∈ ws.map Write.key
    · exact ih hws
    · rw [List.map_cons, List.mem_cons, or_iff_left hws] at hk
      subst hk
      rw [get_apply_of_notMem hws, get_apply_of_notMem hws, get_put_self, get_put_self]

/-- A row after the writes: as it was, or as one of them has left it. -/
theorem get_apply_cases (ws : List (Write Row)) (t : T) (i : ℕ) : ∀ db : Db Row,
    (db.apply ws).get (t, i) = db.get (t, i) ∨
      ∃ r, (⟨t, i, r⟩ : Write Row) ∈ ws ∧ (db.apply ws).get (t, i) = r := by
  induction ws with
  | nil => exact fun db => .inl rfl
  | cons w ws ih =>
    intro db
    rw [apply_cons]
    rcases ih (db.put w) with hkept | ⟨r, hr, hget⟩
    · by_cases hk : (t, i) = w.key
      · obtain ⟨t', i', r⟩ := w
        cases hk
        exact .inr ⟨r, List.mem_cons_self, hkept.trans (get_put_self db ⟨t', i', r⟩)⟩
      · exact .inl (hkept.trans (get_put_ne db hk))
    · exact .inr ⟨r, List.mem_cons_of_mem _ hr, hget⟩

/-! ## Row by row comparison -/

/-- Two databases hold the same rows at the keys that `ws` writes. -/
def Agree (ws : List (Write Row)) (db db' : Db Row) : Prop :=
  ∀ k ∈ ws.map Write.key, db.get k = db'.get k

omit [DecidableEq T] in
theorem Agree.refl (ws : List (Write Row)) (db : Db Row) : Agree ws db db := fun _ _ => rfl

omit [DecidableEq T] in
theorem Agree.trans {ws : List (Write Row)} {a b c : Db Row} (h₁ : Agree ws a b)
    (h₂ : Agree ws b c) : Agree ws a c := fun k hk => (h₁ k hk).trans (h₂ k hk)

omit [DecidableEq T] in
theorem Agree.left {ws ws' : List (Write Row)} {a b : Db Row} (h : Agree (ws ++ ws') a b) :
    Agree ws a b := fun k hk => h k (by rw [List.map_append]; exact List.mem_append_left _ hk)

/-- With the first writes done on both sides, the two databases agree on the others. -/
theorem Agree.apply {ws₀ ws : List (Write Row)} {a b : Db Row} (h : Agree (ws₀ ++ ws) a b) :
    Agree ws (a.apply ws₀) (b.apply ws₀) := by
  intro k hk
  by_cases hk₀ : k ∈ ws₀.map Write.key
  · exact get_apply_congr hk₀
  · rw [get_apply_of_notMem hk₀, get_apply_of_notMem hk₀]
    exact h k (by rw [List.map_append]; exact List.mem_append_right _ hk)

/-- Committing writes to other rows keeps the two databases in agreement. -/
theorem agree_apply {ws ws' : List (Write Row)} (db : Db Row)
    (h : ∀ k ∈ ws.map Write.key, k ∉ ws'.map Write.key) : Agree ws db (db.apply ws') :=
  fun k hk => (get_apply_of_notMem (h k hk)).symm

/-! ## Listing a table -/

section Tables

omit [DecidableEq T]

/-- The rows of a table that satisfy `p`, with their ids. -/
def list (db : Db Row) (t : T) (p : Row t → Bool) : List (ℕ × Row t) :=
  ((db.rows t).entries.map fun e => (e.1, e.2)).filter fun e => p e.2

theorem mem_list {db : Db Row} {t : T} {p : Row t → Bool} {i : ℕ} {r : Row t} :
    (i, r) ∈ db.list t p ↔ db.get (t, i) = some r ∧ p r = true := by
  have hmem : ((⟨i, r⟩ : Σ _ : ℕ, Row t) ∈ (db.rows t).entries) ↔ db.get (t, i) = some r :=
    AList.mem_lookup_iff.symm
  simp only [list, List.mem_filter, List.mem_map, Prod.mk.injEq]
  constructor
  · rintro ⟨⟨e, he, rfl, rfl⟩, hp⟩
    exact ⟨hmem.mp he, hp⟩
  · rintro ⟨hget, hp⟩
    exact ⟨⟨_, hmem.mpr hget, rfl, rfl⟩, hp⟩

/-- Writes to another table do not change a list. -/
theorem list_put_ne [DecidableEq T] (db : Db Row) {w : Write Row} {t : T} (h : t ≠ w.table)
    (p : Row t → Bool) : (db.put w).list t p = db.list t p := by
  rw [list, list, rows_put_ne db h]

theorem list_nodup (db : Db Row) (t : T) (p : Row t → Bool) :
    ((db.list t p).map Prod.fst).Nodup := by
  have h : ((db.rows t).entries.map fun e => ((e.1, e.2) : ℕ × Row t)).map Prod.fst =
      (db.rows t).keys := by
    rw [List.map_map]
    rfl
  exact (h ▸ (db.rows t).keys_nodup).sublist (List.filter_sublist.map _)

/-! ## Summing over a table -/

variable {M : Type} [AddCommMonoid M]

/-- The sum of `f` over the rows of a table. -/
def sumOver (db : Db Row) (t : T) (f : ℕ → Row t → M) : M :=
  ((db.rows t).entries.map fun e => f e.1 e.2).sum

/-- The ids stored in a table. -/
def ids (db : Db Row) (t : T) : Finset ℕ := ⟨(db.rows t).keys, (db.rows t).keys_nodup⟩

theorem mem_ids {db : Db Row} {t : T} {i : ℕ} : i ∈ db.ids t ↔ (db.get (t, i)).isSome :=
  AList.lookup_isSome.symm

/-- The sum over a table, as a sum over the ids it stores. -/
theorem sumOver_eq_sum (db : Db Row) (t : T) (f : ℕ → Row t → M) :
    db.sumOver t f = ∑ i ∈ db.ids t, (db.get (t, i)).elim 0 (f i) := by
  have hval : ∀ e ∈ (db.rows t).entries, f e.1 e.2 = (db.get (t, e.1)).elim 0 (f e.1) := by
    intro e he
    have hget : db.get (t, e.1) = some e.2 := AList.mem_lookup_iff.mpr he
    rw [hget]
    rfl
  rw [sumOver, List.map_congr_left hval]
  change _ = (Multiset.map (fun i => (db.get (t, i)).elim 0 (f i)) ↑((db.rows t).keys)).sum
  rw [Multiset.map_coe, Multiset.sum_coe, AList.keys, List.keys, List.map_map]
  rfl

/-- Ids that are not stored may be added. -/
theorem sumOver_eq_sum_of_subset {db : Db Row} {t : T} (f : ℕ → Row t → M) {ids : Finset ℕ}
    (h : db.ids t ⊆ ids) : db.sumOver t f = ∑ i ∈ ids, (db.get (t, i)).elim 0 (f i) := by
  rw [sumOver_eq_sum]
  refine Finset.sum_subset h fun i _ hi => ?_
  rw [mem_ids, Option.not_isSome_iff_eq_none] at hi
  rw [hi]
  rfl

theorem sumOver_congr {db : Db Row} {t : T} {f g : ℕ → Row t → M}
    (h : ∀ i r, db.get (t, i) = some r → f i r = g i r) : db.sumOver t f = db.sumOver t g :=
  congrArg List.sum (List.map_congr_left fun e he => h e.1 e.2 (AList.mem_lookup_iff.mpr he))

theorem sumOver_zero (db : Db Row) (t : T) : (db.sumOver t fun _ _ => (0 : M)) = 0 :=
  List.sum_eq_zero fun x hx => by
    obtain ⟨_, _, rfl⟩ := List.mem_map.mp hx
    rfl

theorem sumOver_add (db : Db Row) (t : T) (f g : ℕ → Row t → M) :
    (db.sumOver t fun i r => f i r + g i r) = db.sumOver t f + db.sumOver t g :=
  List.sum_map_add

/-- A table whose rows count for less. -/
theorem sumOver_le [PartialOrder M] [IsOrderedAddMonoid M] {db db' : Db Row} {t : T}
    {f : ℕ → Row t → M}
    (h : ∀ i, (db.get (t, i)).elim 0 (f i) ≤ (db'.get (t, i)).elim 0 (f i)) :
    db.sumOver t f ≤ db'.sumOver t f := by
  have hleft : db.ids t ⊆ db.ids t ∪ db'.ids t := Finset.subset_union_left
  have hright : db'.ids t ⊆ db.ids t ∪ db'.ids t := Finset.subset_union_right
  rw [sumOver_eq_sum_of_subset f hleft, sumOver_eq_sum_of_subset f hright]
  exact Finset.sum_le_sum fun i _ => h i

/-- Only the row under `i` counts. -/
theorem sumOver_single (db : Db Row) (t : T) (i : ℕ) (f : Row t → M) :
    (db.sumOver t fun j r => if j = i then f r else 0) = (db.get (t, i)).elim 0 f := by
  have hval : ∀ j, (db.get (t, j)).elim 0 (fun r => if j = i then f r else 0) =
      if j = i then (db.get (t, i)).elim 0 f else 0 := by
    intro j
    by_cases h : j = i
    · subst h
      simp only [if_true]
    · simp only [if_neg h]
      cases db.get (t, j) <;> rfl
  rw [sumOver_eq_sum, Finset.sum_congr rfl fun j _ => hval j, Finset.sum_ite_eq']
  by_cases h : i ∈ db.ids t
  · rw [if_pos h]
  · rw [if_neg h]
    rw [mem_ids, Option.not_isSome_iff_eq_none] at h
    rw [h]
    rfl

/-- When a table's rows are changed row by row, so is a sum over it. -/
theorem sumOver_map {db db' : Db Row} {t : T} {g : ℕ → Row t → Row t} (f : ℕ → Row t → M)
    (h : ∀ i, db'.get (t, i) = (db.get (t, i)).map (g i)) :
    db'.sumOver t f = db.sumOver t fun i r => f i (g i r) := by
  have hids : db'.ids t = db.ids t := by
    ext i
    rw [mem_ids, mem_ids, h i, Option.isSome_map]
  rw [sumOver_eq_sum, sumOver_eq_sum, hids]
  refine Finset.sum_congr rfl fun i _ => ?_
  rw [h i]
  cases db.get (t, i) <;> rfl

end Tables

/-! ## Sums and writes -/

section Writes

variable {M : Type} [AddCommMonoid M]

/-- Writing one row changes a sum by what the row counts, before and after. -/
theorem sumOver_put (db : Db Row) (t : T) (i : ℕ) (o : Option (Row t)) (f : ℕ → Row t → M) :
    (db.put ⟨t, i, o⟩).sumOver t f + (db.get (t, i)).elim 0 (f i) =
      db.sumOver t f + o.elim 0 (f i) := by
  have hself : (db.put ⟨t, i, o⟩).get (t, i) = o := get_put_self ..
  have hother : ∀ j ∈ (db.ids t ∪ (db.put ⟨t, i, o⟩).ids t).erase i,
      ((db.put ⟨t, i, o⟩).get (t, j)).elim 0 (f j) = (db.get (t, j)).elim 0 (f j) := by
    intro j hj
    have hne : (t, j) ≠ (t, i) := fun h => Finset.ne_of_mem_erase hj (Prod.mk.inj h).2
    rw [get_put_ne _ hne]
  have hsplit : ∀ db' : Db Row, db'.ids t ⊆ db.ids t ∪ (db.put ⟨t, i, o⟩).ids t →
      db'.sumOver t f = (db'.get (t, i)).elim 0 (f i) +
        ∑ j ∈ (db.ids t ∪ (db.put ⟨t, i, o⟩).ids t).erase i, (db'.get (t, j)).elim 0 (f j) := by
    intro db' hsub
    rw [sumOver_eq_sum_of_subset f (hsub.trans (Finset.subset_insert i _)),
      ← Finset.insert_erase (Finset.mem_insert_self i _), Finset.sum_insert (Finset.notMem_erase i _),
      Finset.erase_insert_eq_erase]
  rw [hsplit _ Finset.subset_union_right, hsplit _ Finset.subset_union_left,
    Finset.sum_congr rfl hother, hself]
  abel

theorem sumOver_put_ne (db : Db Row) {t : T} {w : Write Row} (h : w.table ≠ t)
    (f : ℕ → Row t → M) : (db.put w).sumOver t f = db.sumOver t f := by
  have hget : ∀ i, (db.put w).get (t, i) = db.get (t, i) := fun i =>
    get_put_ne _ fun hk => h (congrArg Prod.fst hk).symm
  have hids : (db.put w).ids t = db.ids t := by
    ext i
    rw [mem_ids, mem_ids, hget]
  rw [sumOver_eq_sum, sumOver_eq_sum, hids]
  exact Finset.sum_congr rfl fun i _ => by rw [hget]

end Writes

end Db

end ReadCommitted
