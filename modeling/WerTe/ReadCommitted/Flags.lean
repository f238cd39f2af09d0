import WerTe.ReadCommitted.Frame

/-!
# Rows that satisfy a condition, and a flag that one row of a group bears

* `Db.Has` — row `i` of a table is there and satisfies a condition; how the kinds of
  write change which rows do.
* `Tx.updateAll` — the statement that changes all rows of a table that satisfy one.
* `Db.OneFlagged` — as long as a group of rows has any, exactly one of them bears a
  flag: the default of a list, the primary one of several.
-/

namespace ReadCommitted

variable {T : Type} {Row : T → Type} {ε : Type}

namespace Db

/-- Row `i` of the table is there and satisfies `p`. -/
def Has (db : Db Row) (t : T) (p : Row t → Bool) (i : ℕ) : Prop :=
  ∃ r, db.get (t, i) = some r ∧ p r = true

section Has

variable {db : Db Row} {t : T} {p q : Row t → Bool} {i : ℕ}

theorem mem_list_fst : i ∈ (db.list t p).map Prod.fst ↔ db.Has t p i := by
  simp only [List.mem_map, Prod.exists, mem_list, Has]
  constructor
  · rintro ⟨j, r, h, rfl⟩
    exact ⟨r, h⟩
  · rintro ⟨r, h⟩
    exact ⟨i, r, h, rfl⟩

theorem Has.mono (h : db.Has t p i) (hpq : ∀ r, p r = true → q r = true) : db.Has t q i := by
  obtain ⟨r, hget, hp⟩ := h
  exact ⟨r, hget, hpq r hp⟩

theorem has_congr {db' : Db Row} (h : db'.get (t, i) = db.get (t, i)) :
    db'.Has t p i ↔ db.Has t p i := by
  simp only [Has, h]

variable [DecidableEq T]

/-- Which rows satisfy a condition after one row is written. -/
theorem has_put {j : ℕ} {r : Row t} :
    (db.put ⟨t, j, some r⟩).Has t p i ↔ (i = j ∧ p r = true) ∨ (i ≠ j ∧ db.Has t p i) := by
  by_cases h : i = j
  · subst h
    have hself : (db.put ⟨t, i, some r⟩).get (t, i) = some r := get_put_self ..
    simp [Has, hself]
  · have hother : (db.put ⟨t, j, some r⟩).get (t, i) = db.get (t, i) :=
      get_put_ne _ fun hk => h (Prod.mk.inj hk).2
    simp [has_congr hother, h]

/-- Which rows satisfy a condition after one row is deleted. -/
theorem has_erase {j : ℕ} : (db.put ⟨t, j, none⟩).Has t p i ↔ i ≠ j ∧ db.Has t p i := by
  by_cases h : i = j
  · subst h
    have hself : (db.put ⟨t, i, none⟩).get (t, i) = none := get_put_self ..
    simp [Has, hself]
  · have hother : (db.put ⟨t, j, none⟩).get (t, i) = db.get (t, i) :=
      get_put_ne _ fun hk => h (Prod.mk.inj hk).2
    simp [has_congr hother, h]

theorem has_put_ne {w : Write Row} (h : w.table ≠ t) : (db.put w).Has t p i ↔ db.Has t p i :=
  has_congr (get_put_ne _ fun hk => h (congrArg Prod.fst hk).symm)

end Has

/-! ## Changing all rows of a kind -/

section UpdateAll

variable [DecidableEq T]

/-- The writes that change all rows of a table that satisfy `p`. -/
def updates (db : Db Row) (t : T) (p : Row t → Bool) (f : Row t → Row t) : List (Write Row) :=
  (db.list t p).map fun r => ⟨t, r.1, some (f r.2)⟩

variable {db : Db Row} {t : T} {p q : Row t → Bool} {f : Row t → Row t} {i : ℕ}

omit [DecidableEq T] in
theorem mem_updates {w : Write Row} (h : w ∈ db.updates t p f) :
    ∃ i r, db.get (t, i) = some r ∧ p r = true ∧ w = ⟨t, i, some (f r)⟩ := by
  obtain ⟨⟨i, r⟩, hr, rfl⟩ := List.mem_map.mp h
  exact ⟨i, r, (mem_list.mp hr).1, (mem_list.mp hr).2, rfl⟩

/-- The rows that satisfy `p` are changed, and no others. -/
theorem get_apply_updates : (db.apply (db.updates t p f)).get (t, i) =
    (db.get (t, i)).map fun r => if p r then f r else r := by
  by_cases hi : ((t, i) : Key T) ∈ (db.updates t p f).map Write.key
  · obtain ⟨_, hw, hget⟩ := get_apply_of_mem hi db
    obtain ⟨j, r, hr, hp, heq⟩ := mem_updates hw
    cases heq
    rw [hget, hr, Option.map_some, if_pos hp]
  · rw [get_apply_of_notMem hi]
    cases hr : db.get (t, i) with
    | none => rfl
    | some r =>
      have hp : ¬ p r = true := fun hp => hi (List.mem_map.mpr
        ⟨⟨t, i, some (f r)⟩, List.mem_map.mpr ⟨(i, r), mem_list.mpr ⟨hr, hp⟩, rfl⟩, rfl⟩)
      rw [Option.map_some, if_neg hp]

theorem get_apply_updates_ne {t' : T} (h : t' ≠ t) :
    (db.apply (db.updates t p f)).get (t', i) = db.get (t', i) := by
  refine get_apply_of_table fun w hw => ?_
  obtain ⟨_, _, _, _, rfl⟩ := mem_updates hw
  exact fun ht => h ht.symm

theorem has_updates : (db.apply (db.updates t p f)).Has t q i ↔
    ∃ r, db.get (t, i) = some r ∧ q (if p r then f r else r) = true := by
  simp only [Has, get_apply_updates, Option.map_eq_some_iff]
  constructor
  · rintro ⟨_, ⟨r, hget, rfl⟩, hq⟩
    exact ⟨r, hget, hq⟩
  · rintro ⟨r, hget, hq⟩
    exact ⟨_, ⟨r, hget, rfl⟩, hq⟩

/-- A condition that the change does not bear on. -/
theorem has_updates_of_eq (h : ∀ r, q (f r) = q r) :
    (db.apply (db.updates t p f)).Has t q i ↔ db.Has t q i := by
  rw [has_updates]
  refine exists_congr fun r => and_congr_right fun _ => ?_
  by_cases hp : p r = true
  · rw [if_pos hp, h]
  · rw [if_neg hp]

end UpdateAll

/-! ## Groups with one flagged row -/

/-- If there are rows in the group, then exactly one of them bears the flag. -/
def OneFlagged (db : Db Row) (t : T) (group flag : Row t → Bool) : Prop :=
  (db.list t fun r => group r && flag r).length = if db.list t group = [] then 0 else 1

section OneFlagged

variable {db : Db Row} {t : T} {group flag : Row t → Bool}

theorem list_eq_nil_iff {p : Row t → Bool} : db.list t p = [] ↔ ∀ i, ¬ db.Has t p i := by
  rw [← List.map_eq_nil_iff (f := Prod.fst), List.eq_nil_iff_forall_not_mem]
  simp only [mem_list_fst]

theorem list_eq_singleton_iff {p : Row t → Bool} {j : ℕ} {r : Row t} :
    db.list t p = [(j, r)] ↔
      (db.get (t, j) = some r ∧ p r = true) ∧ ∀ i, db.Has t p i → i = j := by
  constructor
  · intro h
    refine ⟨mem_list.mp (by rw [h]; exact List.mem_singleton_self _), fun i hi => ?_⟩
    have hmem := mem_list_fst.mpr hi
    rw [h] at hmem
    simpa using hmem
  · rintro ⟨hr, huniq⟩
    have hmem : (j, r) ∈ db.list t p := mem_list.mpr hr
    have hperm : (db.list t p).Perm [(j, r)] := by
      refine (List.perm_ext_iff_of_nodup (db.list_nodup t p).of_map (List.nodup_singleton _)).mpr ?_
      rintro ⟨i, r'⟩
      rw [List.mem_singleton]
      constructor
      · intro hi
        obtain ⟨hget, hp⟩ := mem_list.mp hi
        obtain rfl := huniq i ⟨r', hget, hp⟩
        rw [Option.some.inj (hget.symm.trans hr.1)]
      · intro heq
        rw [heq]
        exact hmem
    exact List.perm_singleton.mp hperm

/-- The same, row by row. -/
theorem oneFlagged_iff : db.OneFlagged t group flag ↔
    (∀ i, db.Has t group i → ∃ j, db.Has t (fun r => group r && flag r) j) ∧
      ∀ i j, db.Has t (fun r => group r && flag r) i → db.Has t (fun r => group r && flag r) j →
        i = j := by
  have hnodup := db.list_nodup t fun r => group r && flag r
  have hlength : (db.list t fun r => group r && flag r).length =
      ((db.list t fun r => group r && flag r).map Prod.fst).length := List.length_map .. |>.symm
  have hmem : ∀ i, i ∈ (db.list t fun r => group r && flag r).map Prod.fst ↔
      db.Has t (fun r => group r && flag r) i := fun i => mem_list_fst
  rw [OneFlagged, hlength]
  generalize (db.list t fun r => group r && flag r).map Prod.fst = flagged at hnodup hmem
  by_cases hnil : db.list t group = []
  · -- nothing in the group
    have hnone := list_eq_nil_iff.mp hnil
    have hempty : flagged = [] := List.eq_nil_iff_forall_not_mem.mpr fun i hi =>
      hnone i (((hmem i).mp hi).mono fun r hr => (Bool.and_eq_true_iff.mp hr).1)
    subst hempty
    simp only [if_pos hnil, List.length_nil, true_iff]
    refine ⟨fun i hi => (hnone i hi).elim, fun i j hi => ?_⟩
    exact absurd ((hmem i).mpr hi) List.not_mem_nil
  · rw [if_neg hnil]
    obtain ⟨i₀, hi₀⟩ := not_forall_not.mp fun h => hnil (list_eq_nil_iff.mpr h)
    simp only [← hmem]
    constructor
    · intro hone
      obtain ⟨k, rfl⟩ := List.length_eq_one_iff.mp hone
      simp only [List.mem_singleton]
      exact ⟨fun _ _ => ⟨k, rfl⟩, fun i j hi hj => hi.trans hj.symm⟩
    · rintro ⟨hsome, huniq⟩
      obtain ⟨k, hk⟩ := hsome i₀ hi₀
      have hperm : flagged.Perm [k] := (List.perm_ext_iff_of_nodup hnodup (List.nodup_singleton k)).mpr
        fun j => ⟨fun hj => List.mem_singleton.mpr (huniq j k hj hk),
          fun hj => by rwa [List.mem_singleton.mp hj]⟩
      exact hperm.length_eq

/-- What changes neither the group nor the flagged rows. -/
theorem OneFlagged.congr {db' : Db Row} (h : db.OneFlagged t group flag)
    (hgroup : ∀ i, db'.Has t group i ↔ db.Has t group i)
    (hflag : ∀ i, db'.Has t (fun r => group r && flag r) i ↔
      db.Has t (fun r => group r && flag r) i) : db'.OneFlagged t group flag := by
  rw [oneFlagged_iff] at h ⊢
  simpa only [hgroup, hflag] using h

/-- Exactly one row of the group, `j`, bears the flag. -/
theorem oneFlagged_of_iff {j : ℕ}
    (h : ∀ i, db.Has t (fun r => group r && flag r) i ↔ i = j) : db.OneFlagged t group flag :=
  oneFlagged_iff.mpr ⟨fun _ _ => ⟨j, (h j).mpr rfl⟩,
    fun _ _ hi hj => ((h _).mp hi).trans ((h _).mp hj).symm⟩

/-- An empty group. -/
theorem oneFlagged_of_empty (h : ∀ i, ¬ db.Has t group i) : db.OneFlagged t group flag :=
  oneFlagged_iff.mpr ⟨fun i hi => (h i hi).elim, fun i _ hi =>
    (h i (hi.mono fun _ hr => (Bool.and_eq_true_iff.mp hr).1)).elim⟩

end OneFlagged

end Db

/-! ## The statement -/

namespace Tx

/-- Change all rows of a table that satisfy `p`: `updateMany`. -/
def updateAll (t : T) (p : Row t → Bool) (f : Row t → Row t) : Tx Row ε Unit :=
  .update fun db => ((), db.updates t p f)

/-- Change the row under a key, which must be there, and return what it has become. -/
def updateReturning (k : Key T) (f : Row k.1 → Row k.1) (missing : ε) : Tx Row ε (Row k.1) :=
  .attempt fun db =>
    match db.get k with
    | none => .error missing
    | some r => .ok (f r, [⟨k.1, k.2, some (f r)⟩])

theorem run_updateReturning_ok [DecidableEq T] {k : Key T} {f : Row k.1 → Row k.1} {missing : ε}
    {db db' : Db Row} {r' : Row k.1}
    (h : (updateReturning k f missing : Tx Row ε (Row k.1)).run db = .ok (r', db')) :
    ∃ r, db.get k = some r ∧ r' = f r ∧ db' = db.put ⟨k.1, k.2, some (f r)⟩ := by
  simp only [updateReturning, attempt, run] at h
  cases hget : db.get k with
  | none => simp [hget] at h
  | some r =>
    simp only [hget, Db.apply_cons, Db.apply_nil, Except.ok.injEq, Prod.mk.injEq] at h
    obtain ⟨rfl, rfl⟩ := h
    exact ⟨r, rfl, rfl, rfl⟩

theorem run_updateReturning [DecidableEq T] {k : Key T} {f : Row k.1 → Row k.1} {missing : ε}
    {db : Db Row} {r : Row k.1} (h : db.get k = some r) :
    (updateReturning k f missing : Tx Row ε (Row k.1)).run db =
      .ok (f r, db.put ⟨k.1, k.2, some (f r)⟩) := by
  simp only [updateReturning, attempt, run, h]
  rfl

/-- Delete the row under a key, which must be there, and return what it was. -/
def deleteExisting (k : Key T) (missing : ε) : Tx Row ε (Row k.1) :=
  .attempt fun db =>
    match db.get k with
    | none => .error missing
    | some r => .ok (r, [⟨k.1, k.2, none⟩])

theorem run_deleteExisting_ok [DecidableEq T] {k : Key T} {missing : ε} {db db' : Db Row}
    {r : Row k.1} (h : (deleteExisting k missing : Tx Row ε (Row k.1)).run db = .ok (r, db')) :
    db.get k = some r ∧ db' = db.put ⟨k.1, k.2, none⟩ := by
  simp only [deleteExisting, attempt, run] at h
  cases hget : db.get k with
  | none => simp [hget] at h
  | some r' =>
    simp only [hget, Db.apply_cons, Db.apply_nil, Except.ok.injEq, Prod.mk.injEq] at h
    obtain ⟨rfl, rfl⟩ := h
    exact ⟨rfl, rfl⟩

end Tx

end ReadCommitted
