import WerTe.ReadCommitted.Frame

/-!
# What an observer sees of a database

An observer sees each row through a function that blanks what is kept from it. Two databases look
the same (`Db.SameView`) when they hold the same rows in the same order, as far as the observer
can tell. This file has how two such databases are read and written side by side.
-/

namespace ReadCommitted

variable {T : Type} {Row : T → Type}

namespace Db

/-- The rows of a table, each through `view`. -/
def viewed (view : (t : T) → Row t → Row t) (db : Db Row) (t : T) : List (ℕ × Row t) :=
  (db.rows t).entries.map fun e => (e.1, view t e.2)

/-- Two databases look the same through `view`. -/
def SameView (view : (t : T) → Row t → Row t) (db db' : Db Row) : Prop :=
  ∀ t, db.viewed view t = db'.viewed view t

namespace SameView

variable {view : (t : T) → Row t → Row t} {db db' : Db Row}

theorem refl (view : (t : T) → Row t → Row t) (db : Db Row) : SameView view db db := fun _ => rfl

/-- A row looks the same in both. -/
theorem get (h : SameView view db db') (k : Key T) :
    (db.get k).map (view k.1) = (db'.get k).map (view k.1) := by
  have hlookup : ∀ l : List (Σ _ : ℕ, Row k.1), (l.dlookup k.2).map (view k.1) =
      (l.map fun e => (e.1, view k.1 e.2)).lookup k.2 := by
    intro l
    induction l with
    | nil => rfl
    | cons e l ih =>
      obtain ⟨i, r⟩ := e
      by_cases hi : k.2 = i
      · subst hi
        simp
      · rw [List.dlookup_cons_ne _ _ hi, List.map_cons, List.lookup_cons,
          beq_eq_false_iff_ne.mpr hi, ih]
  have hrows := h k.1
  rw [Db.viewed, Db.viewed] at hrows
  rw [Db.get, Db.get, AList.lookup, AList.lookup, hlookup, hlookup, hrows]

/-- A row of which nothing is kept from the observer is the same in both. -/
theorem get_eq (h : SameView view db db') {k : Key T} (hk : ∀ r, view k.1 r = r) :
    db.get k = db'.get k := by
  have hview : view k.1 = id := funext hk
  have hget := h.get k
  rwa [hview, Option.map_id, id, id] at hget

/-- A list whose condition the observer can check looks the same in both. -/
theorem list (h : SameView view db db') {t : T} {p : Row t → Bool}
    (hp : ∀ r, p (view t r) = p r) :
    (db.list t p).map (fun e => (e.1, view t e.2)) =
      (db'.list t p).map fun e => (e.1, view t e.2) := by
  have hlist : ∀ db : Db Row, (db.list t p).map (fun e => (e.1, view t e.2)) =
      (db.viewed view t).filter fun e => p e.2 := by
    intro db
    rw [Db.list, Db.viewed, List.filter_map, List.filter_map, List.map_map]
    simp only [Function.comp_def, hp]
  rw [hlist, hlist, h t]

theorem list_eq (h : SameView view db db') {t : T} {p : Row t → Bool}
    (ht : ∀ r, view t r = r) : db.list t p = db'.list t p := by
  have hlist := h.list (t := t) (p := p) fun r => by rw [ht]
  simpa only [ht, Prod.mk.eta, List.map_id'] using hlist

variable [DecidableEq T]

/-- Two writes that look the same. -/
theorem put (h : SameView view db db') {t : T} {i : ℕ} {r r' : Option (Row t)}
    (hr : r.map (view t) = r'.map (view t)) :
    SameView view (db.put ⟨t, i, r⟩) (db'.put ⟨t, i, r'⟩) := by
  have herase : ∀ l : List (Σ _ : ℕ, Row t), (l.kerase i).map (fun e => (e.1, view t e.2)) =
      (l.map fun e => (e.1, view t e.2)).eraseP fun e => decide (i = e.1) := by
    intro l
    rw [List.eraseP_map]
    rfl
  intro t'
  by_cases ht : t' = t
  · subst ht
    have hrows := h t'
    simp only [Db.viewed, Db.put, Function.update_self] at hrows ⊢
    cases r with
    | none =>
      cases r' with
      | none =>
        -- the entries of a table that lost a row, in the form `herase` rewrites
        have herased : ∀ s : AList fun _ : ℕ => Row t',
            (s.erase i).entries = s.entries.kerase i := fun _ => rfl
        simp only [herased, herase, hrows]
      | some r' => cases hr
    | some r =>
      cases r' with
      | none => cases hr
      | some r' =>
        simp only [AList.entries_insert, List.map_cons, herase, hrows]
        rw [Option.some.inj hr]
  · rw [Db.viewed, Db.viewed, rows_put_ne db ht, rows_put_ne db' ht]
    exact h t'

/-- The same writes. -/
theorem apply (h : SameView view db db') (ws : List (Write Row)) :
    SameView view (db.apply ws) (db'.apply ws) := by
  induction ws generalizing db db' with
  | nil => exact h
  | cons w ws ih => exact ih (h.put rfl)

end SameView

end Db

end ReadCommitted
