import Mathlib.Algebra.Group.Pi.Basic
import Mathlib.Algebra.Group.WithOne.Defs
import WerTe.ReadCommitted.Invariant

/-!
# Row by row reasoning

* `Tx.updateRow` — the guarded update of one row, the workhorse of every repository.
* `Rowwise P` — an invariant that speaks about one row at a time. A transaction keeps
  it when every row it writes meets `P` (`Assertion.rows`), whatever the others do.
* `Accumulates op d ws db` — the exact effect of writes that all apply one additive
  operation, such as taking stock: the row under a key has been passed through `op` by
  `d` of that key in all. It depends only on the rows written, so it survives commits
  by others (`Assertion.accumulates`), and says what the commit does to the database it
  commits to, not just to the one the transaction saw.
-/

namespace ReadCommitted

variable {T : Type} [DecidableEq T] {Row : T → Type} {ε α : Type}

/-! ## Updating one row -/

/-- Change the row under a key if there is one and it meets the guard; the result says
whether it did. -/
def Tx.updateRow (k : Key T) (guard : Row k.1 → Bool) (f : Row k.1 → Row k.1) :
    Tx Row ε Bool :=
  .update fun db =>
    match db.get k with
    | some r => if guard r then (true, [⟨k.1, k.2, some (f r)⟩]) else (false, [])
    | none => (false, [])

/-- The two outcomes of a guarded update: one row changed, or nothing. -/
theorem Tx.Triple.updateRow {I : Db Row → Prop} {Pre : Tx.Assertion I}
    {Post : Bool → Tx.Assertion I} {k : Key T} {guard : Row k.1 → Bool} {f : Row k.1 → Row k.1}
    (hhit : ∀ seen ws db r, I db → Pre.holds seen ws db → (db.apply ws).get k = some r →
      guard r = true → (Post true).holds seen (ws ++ [⟨k.1, k.2, some (f r)⟩]) db)
    (hmiss : ∀ seen ws db, I db → Pre.holds seen ws db →
      (∀ r, (db.apply ws).get k = some r → guard r = false) → (Post false).holds seen ws db) :
    Triple I Pre (Tx.updateRow k guard f : Tx Row ε Bool) Post := by
  refine Triple.update fun seen ws db hI hpre => ?_
  cases hget : (db.apply ws).get k with
  | none =>
    simp only [List.append_nil]
    exact hmiss seen ws db hI hpre fun r hr => by rw [hget] at hr; cases hr
  | some r =>
    by_cases hg : guard r = true
    · simp only [if_pos hg]
      exact hhit seen ws db r hI hpre hget hg
    · simp only [if_neg hg, List.append_nil]
      refine hmiss seen ws db hI hpre fun r' hr' => ?_
      rw [hget] at hr'
      cases hr'
      exact eq_false_of_ne_true hg

/-- A guarded update, run alone. -/
theorem Tx.run_updateRow {k : Key T} {guard : Row k.1 → Bool} {f : Row k.1 → Row k.1}
    {db db' : Db Row} {ok : Bool} (h : (Tx.updateRow k guard f : Tx Row ε Bool).run db = .ok (ok, db')) :
    (∃ r, ok = true ∧ db.get k = some r ∧ guard r = true ∧ db' = db.put ⟨k.1, k.2, some (f r)⟩) ∨
      (ok = false ∧ db' = db ∧ ∀ r, db.get k = some r → guard r = false) := by
  rw [Tx.updateRow, Tx.run_update] at h
  cases hget : db.get k with
  | none =>
    simp only [hget] at h
    cases h
    exact .inr ⟨rfl, rfl, fun r hr => by cases hr⟩
  | some r =>
    simp only [hget] at h
    by_cases hg : guard r = true
    · simp only [if_pos hg] at h
      cases h
      exact .inl ⟨r, rfl, rfl, hg, rfl⟩
    · simp only [if_neg hg] at h
      cases h
      exact .inr ⟨rfl, rfl, fun r' hr' => by cases hr'; exact eq_false_of_ne_true hg⟩

/-- The same, when it is known what is there. -/
theorem Tx.run_updateRow_of_get {k : Key T} {guard : Row k.1 → Bool} {f : Row k.1 → Row k.1}
    {db : Db Row} {r : Row k.1} (hget : db.get k = some r) :
    (Tx.updateRow k guard f : Tx Row ε Bool).run db =
      .ok (if guard r then (true, db.put ⟨k.1, k.2, some (f r)⟩) else (false, db)) := by
  rw [Tx.updateRow, Tx.run_update]
  simp only [hget]
  cases guard r <;> rfl

/-- Change the row under a key, which must be there. -/
def Tx.updateExisting (k : Key T) (f : Row k.1 → Row k.1) (missing : ε) : Tx Row ε Unit :=
  (Tx.updateRow k (fun _ => true) f).bind fun found => .require (found = true) missing

omit [DecidableEq T] in
theorem Tx.silent_updateRow (k : Key T) (guard : Row k.1 → Bool) (f : Row k.1 → Row k.1) :
    (Tx.updateRow k guard f : Tx Row ε Bool).Silent := .update _

omit [DecidableEq T] in
theorem Tx.silent_updateExisting (k : Key T) (f : Row k.1 → Row k.1) (missing : ε) :
    (Tx.updateExisting k f missing).Silent :=
  .bind (Tx.silent_updateRow k _ f) fun _ => .require _ _

/-- The outcome of such an update: the row changed. -/
theorem Tx.Triple.updateExisting {I : Db Row → Prop} {Pre Post : Tx.Assertion I} {k : Key T}
    {f : Row k.1 → Row k.1} {missing : ε}
    (h : ∀ seen ws db r, I db → Pre.holds seen ws db → (db.apply ws).get k = some r →
      Post.holds seen (ws ++ [⟨k.1, k.2, some (f r)⟩]) db) :
    Triple I Pre (Tx.updateExisting k f missing) fun _ => Post := by
  have hfound : ∀ found, Triple I (if found then Post else .trivial)
      (.require (found = true) missing : Tx Row ε Unit) fun _ => Post := by
    intro found
    refine Triple.require fun htrue _ _ _ _ hpre => ?_
    rwa [if_pos htrue] at hpre
  refine Triple.bind (Triple.updateRow (fun seen ws db r hI hpre hget _ => ?_)
    fun _ _ _ _ _ _ => ?_) hfound
  · rw [if_pos rfl]
    exact h seen ws db r hI hpre hget
  · rw [if_neg Bool.false_ne_true]
    exact True.intro

/-- A transaction that begins with such an update has written that row and no other. -/
theorem Tx.Triple.updateExisting_fresh {I S : Db Row → Prop} {k : Key T} {f : Row k.1 → Row k.1}
    {missing : ε} :
    Triple I (.and .fresh (.sees S)) (Tx.updateExisting k f missing) fun _ =>
      .ex fun base : Db Row => .ex fun r => .given (base.get k = some r)
        (.after base [⟨k.1, k.2, some (f r)⟩] (.and .fresh (.sees S))) := by
  refine Triple.updateExisting fun seen ws db r _ hpre hget => ?_
  obtain ⟨rfl, hseen⟩ := hpre
  exact ⟨db, r, hget, [], rfl, .refl _ _, rfl, hseen⟩

theorem Tx.run_updateExisting_ok {k : Key T} {f : Row k.1 → Row k.1} {missing : ε}
    {db db' : Db Row} {u : Unit} (h : (Tx.updateExisting k f missing).run db = .ok (u, db')) :
    ∃ r, db.get k = some r ∧ db' = db.put ⟨k.1, k.2, some (f r)⟩ := by
  obtain ⟨found, db₁, hupdate, hrequire⟩ := Tx.run_bind_ok h
  obtain ⟨hfound, rfl⟩ := Tx.run_require_ok hrequire
  rcases Tx.run_updateRow hupdate with ⟨r, -, hget, -, rfl⟩ | ⟨hmiss, -, -⟩
  · exact ⟨r, hget, rfl⟩
  · rw [hfound] at hmiss
    cases hmiss

theorem Tx.run_updateExisting {k : Key T} {f : Row k.1 → Row k.1} {missing : ε} {db : Db Row}
    {r : Row k.1} (h : db.get k = some r) :
    (Tx.updateExisting k f missing).run db = .ok ((), db.put ⟨k.1, k.2, some (f r)⟩) := by
  simp [Tx.updateExisting, Tx.updateRow, Tx.run_bind, h, Except.bind, Tx.require]

/-! ## Invariants that speak about one row at a time -/

section Rowwise

/-- Every row, or its absence, meets `P`. -/
def Rowwise (P : (k : Key T) → Option (Row k.1) → Prop) (db : Db Row) : Prop :=
  ∀ k, P k (db.get k)

/-- Every row the transaction has written meets `P`. -/
def Tx.Assertion.rows {I : Db Row → Prop} (P : (k : Key T) → Option (Row k.1) → Prop) :
    Tx.Assertion I where
  holds _ ws db := ∀ k ∈ ws.map Write.key, P k ((db.apply ws).get k)
  stable _ _ h k hk := Db.get_apply_congr hk ▸ h k hk

variable {P : (k : Key T) → Option (Row k.1) → Prop}

/-- Writes whose rows meet `P` keep the invariant. -/
theorem Rowwise.apply {ws : List (Write Row)} {db : Db Row} (h : Rowwise P db)
    (hws : ∀ k ∈ ws.map Write.key, P k ((db.apply ws).get k)) : Rowwise P (db.apply ws) := by
  intro k
  by_cases hk : k ∈ ws.map Write.key
  · exact hws k hk
  · rw [Db.get_apply_of_notMem hk]
    exact h k

/-- One more write whose row meets `P`. -/
theorem rows_snoc {ws : List (Write Row)} {db : Db Row} {w : Write Row}
    (h : ∀ k ∈ ws.map Write.key, P k ((db.apply ws).get k)) (hw : P w.key w.row) :
    ∀ k ∈ (ws ++ [w]).map Write.key, P k ((db.apply (ws ++ [w])).get k) := by
  intro k hk
  rw [Db.apply_append, Db.apply_cons, Db.apply_nil]
  by_cases hkw : k = w.key
  · subst hkw
    rw [Db.get_put_self]
    exact hw
  · rw [Db.get_put_ne _ hkw]
    rw [List.map_append, List.mem_append] at hk
    exact h k (hk.resolve_right fun hk => hkw (List.mem_singleton.mp hk))

/-- The row a transaction sees meets the invariant when the committed rows and the rows it
has written do. -/
theorem Rowwise.view {ws : List (Write Row)} {db : Db Row} (h : Rowwise P db)
    (hws : ∀ k ∈ ws.map Write.key, P k ((db.apply ws).get k)) {k : Key T} {r : Row k.1}
    (hget : (db.apply ws).get k = some r) : P k (some r) := hget ▸ h.apply hws k

/-- Every row the body writes meets `P`. -/
def Tx.KeepsRows (I : Db Row → Prop) (P : (k : Key T) → Option (Row k.1) → Prop)
    (p : Tx Row ε α) : Prop :=
  Triple I (.rows P) p fun _ => .rows P

namespace Tx.KeepsRows

variable {I : Db Row → Prop} {β : Type}

theorem ret (a : α) : KeepsRows I P (.ret a : Tx Row ε α) := Triple.ret fun _ _ _ _ h => h

theorem throw (e : ε) : KeepsRows I P (.throw e : Tx Row ε α) := Triple.throw

theorem read (f : Db Row → α) : KeepsRows I P (.read f : Tx Row ε α) :=
  Triple.read fun _ _ _ _ h => h

theorem require (q : Prop) [Decidable q] (e : ε) :
    KeepsRows I P (.require q e : Tx Row ε Unit) := Triple.require fun _ _ _ _ _ h => h

/-- After a check that has passed, its result may be relied on. -/
theorem check_bind {q : Db Row → Except ε α} {f : α → Tx Row ε β}
    (hf : ∀ db a, q db = .ok a → KeepsRows I P (f a)) : KeepsRows I P ((Tx.check q).bind f) :=
  Triple.seq (fun a => .given (∃ db, q db = .ok a) (.rows P))
    (Triple.check fun _ ws db _ _ h hq => ⟨⟨db.apply ws, hq⟩, h⟩)
    fun a => Triple.given fun ⟨db, hq⟩ => hf db a hq

theorem bind {p : Tx Row ε α} {f : α → Tx Row ε β} (hp : KeepsRows I P p)
    (hf : ∀ a, KeepsRows I P (f a)) : KeepsRows I P (p.bind f) := Triple.bind hp hf

/-- A guarded update writes a row that meets `P` when it does so on the rows it may see. -/
theorem updateRow {k : Key T} {guard : Row k.1 → Bool} {f : Row k.1 → Row k.1}
    (hf : ∀ ws db r, I db → (∀ k ∈ ws.map Write.key, P k ((db.apply ws).get k)) →
      (db.apply ws).get k = some r → guard r = true → P k (some (f r))) :
    KeepsRows I P (Tx.updateRow k guard f : Tx Row ε Bool) :=
  Triple.updateRow (fun _ ws db r hI hpre hget hg => rows_snoc hpre (hf ws db r hI hpre hget hg))
    fun _ _ _ _ hpre _ => hpre

/-- Committed, the body keeps a rowwise invariant. -/
theorem triple {p : Tx Row ε α} (h : KeepsRows I P p) : Triple I .fresh p fun _ => .rows P :=
  h.conseq (fun _ ws _ _ hws k hk => by cases hws; cases hk) fun _ _ _ _ _ hrows => hrows

end Tx.KeepsRows

/-! ## Calls that keep a rowwise invariant -/

namespace Service

variable {β : Type}

/-- Every row that a transaction of the call writes meets `P`. -/
def KeepsRows (P : (k : Key T) → Option (Row k.1) → Prop) : Service Row ε α → Prop
  | .ret _ => True
  | .throw _ => True
  | .read _ k => ∀ b, KeepsRows P (k b)
  | .tx body k => body.KeepsRows (Rowwise P) P ∧ ∀ r, KeepsRows P (k r)

namespace KeepsRows

theorem ret (a : α) : KeepsRows P (.ret a : Service Row ε α) := True.intro

theorem get (q : Db Row → α) : KeepsRows P (.get q : Service Row ε α) := fun _ => True.intro

theorem ofExcept (r : Except ε α) : KeepsRows P (.ofExcept r : Service Row ε α) := by
  cases r <;> exact True.intro

theorem orFail (o : Option α) (e : ε) : KeepsRows P (.orFail o e : Service Row ε α) := by
  cases o <;> exact True.intro

theorem require (q : Prop) [Decidable q] (e : ε) :
    KeepsRows P (.require q e : Service Row ε Unit) := by
  unfold Service.require
  split <;> exact True.intro

theorem transaction {body : Tx Row ε α} (h : body.KeepsRows (Rowwise P) P) :
    KeepsRows P (.transaction body) := ⟨h, fun r => ofExcept r⟩

theorem bind {p : Service Row ε α} {f : α → Service Row ε β} (hp : KeepsRows P p)
    (hf : ∀ a, KeepsRows P (f a)) : KeepsRows P (p.bind f) := by
  induction p with
  | ret a => exact hf a
  | throw e => exact True.intro
  | read q k ih => exact fun b => ih b (hp b)
  | tx body k ih => exact ⟨hp.1, fun r => ih r (hp.2 r)⟩

/-- After a check that has passed, its result may be relied on. -/
theorem ofExcept_bind {r : Except ε α} {f : α → Service Row ε β}
    (hf : ∀ a, r = .ok a → KeepsRows P (f a)) : KeepsRows P ((Service.ofExcept r).bind f) := by
  cases r with
  | error e => exact True.intro
  | ok a => exact hf a rfl

/-- Such a call keeps the rowwise invariant, whatever runs beside it. -/
theorem spec {p : Service Row ε α} (h : KeepsRows P p) (seen : Db Row) :
    p.Spec (Rowwise P) (fun _ _ db' => Rowwise P db') seen := by
  induction p generalizing seen with
  | ret a => exact True.intro
  | throw e => exact True.intro
  | read q k ih => exact fun db _ => ih (q db) (h (q db)) db
  | tx body k ih =>
    refine ⟨fun db hI => ?_, fun r seen' => ih r (h.2 r) seen'⟩
    exact h.1.triple.commits (fun _ _ _ _ hI hrows => hI.apply hrows) seen [] db hI rfl

/-- So it does when it runs alone. -/
theorem run {p : Service Row ε α} (h : KeepsRows P p) :
    ∀ {db : Db Row}, Rowwise P db → Rowwise P (p.run db).2 := by
  induction p with
  | ret a => exact id
  | throw e => exact id
  | read q k ih => exact fun {db} hdb => ih (q db) (h (q db)) hdb
  | tx body k ih =>
    intro db hdb
    simp only [Service.run]
    rcases hbody : body.run db with e | ⟨b, db'⟩
    · exact ih _ (h.2 _) hdb
    · obtain ⟨_, ws, rfl, hrows⟩ := h.1.triple.run hdb hbody
      exact ih _ (h.2 _) (hdb.apply hrows)

end KeepsRows

-- Calls are large terms: whoever meets this predicate should use the rules above, not unfold it.
attribute [irreducible] KeepsRows

end Service

end Rowwise

/-! ## The exact effect of a transaction's writes -/

section Accumulates

variable {M : Type} {op : M → (k : Key T) → Row k.1 → Row k.1}

/-- A row passed through `op` by an amount, or left alone when there is none. -/
def amend (op : M → (k : Key T) → Row k.1 → Row k.1) (d : WithZero M) (k : Key T)
    (r : Row k.1) : Row k.1 :=
  WithZero.recZeroCoe r (fun a => op a k r) d

omit [DecidableEq T] in
@[simp] theorem amend_zero (k : Key T) (r : Row k.1) : amend op 0 k r = r := rfl

omit [DecidableEq T] in
@[simp] theorem amend_coe (a : M) (k : Key T) (r : Row k.1) : amend op a k r = op a k r := rfl

omit [DecidableEq T] in
theorem amend_add [AddCommSemigroup M] (hadd : ∀ a b k r, op a k (op b k r) = op (b + a) k r) (d : WithZero M) (a : M)
    (k : Key T) (r : Row k.1) : op a k (amend op d k r) = amend op (d + a) k r := by
  induction d with
  | zero => rw [zero_add, amend_zero, amend_coe]
  | coe b => rw [← WithZero.coe_add, amend_coe, amend_coe, hadd]

/-- The row under each key has been passed through `op` by the amount that `d` gives for
that key in all; rows that `d` does not mention are not written. -/
structure Accumulates (op : M → (k : Key T) → Row k.1 → Row k.1) (d : Key T → WithZero M)
    (ws : List (Write Row)) (db : Db Row) : Prop where
  /-- the rows afterwards -/
  rows : ∀ k, (db.apply ws).get k = (db.get k).map (amend op (d k) k)
  /-- a row that is not written has no amount -/
  frame : ∀ k, k ∉ ws.map Write.key → d k = 0

namespace Accumulates

variable {d : Key T → WithZero M} {ws : List (Write Row)} {db db' : Db Row}

omit [DecidableEq T] in
theorem map_amend_zero {k : Key T} (o : Option (Row k.1)) : o.map (amend op 0 k) = o := by
  cases o <;> rfl

theorem nil (db : Db Row) : Accumulates op 0 [] db :=
  ⟨fun k => (map_amend_zero (db.get k)).symm, fun _ _ => rfl⟩

/-- The effect does not depend on rows that others may change. -/
theorem congr (h : Accumulates op d ws db) (hag : Db.Agree ws db db') : Accumulates op d ws db' := by
  refine ⟨fun k => ?_, h.frame⟩
  by_cases hk : k ∈ ws.map Write.key
  · rw [← hag k hk, ← h.rows k]
    exact Db.get_apply_congr hk
  · rw [Db.get_apply_of_notMem hk, h.frame k hk, map_amend_zero]

/-- Rows stay where they are. -/
theorem isSome (h : Accumulates op d ws db) (k : Key T) :
    ((db.apply ws).get k).isSome = (db.get k).isSome := by
  rw [h.rows k, Option.isSome_map]

/-- One more row passed through `op`. -/
theorem snoc [AddCommSemigroup M] (hadd : ∀ a b k r, op a k (op b k r) = op (b + a) k r) (h : Accumulates op d ws db)
    {k : Key T} {r : Row k.1} (hget : (db.apply ws).get k = some r) (a : M) :
    Accumulates op (d + Pi.single k (a : WithZero M)) (ws ++ [⟨k.1, k.2, some (op a k r)⟩]) db := by
  have hput : (db.apply (ws ++ [⟨k.1, k.2, some (op a k r)⟩])) =
      (db.apply ws).put ⟨k.1, k.2, some (op a k r)⟩ := Db.apply_append ..
  refine ⟨fun k' => ?_, fun k' hk' => ?_⟩
  · rw [hput]
    by_cases hkk : k' = k
    · subst hkk
      have hself : ((db.apply ws).put ⟨k'.1, k'.2, some (op a k' r)⟩).get k' =
          some (op a k' r) := Db.get_put_self ..
      rw [h.rows k', Option.map_eq_some_iff] at hget
      obtain ⟨r₀, hr₀, rfl⟩ := hget
      rw [hself, hr₀, Option.map_some, Pi.add_apply, Pi.single_eq_same, amend_add hadd]
    · rw [Db.get_put_ne _ hkk, h.rows k', Pi.add_apply, Pi.single_eq_of_ne hkk, add_zero]
  · rw [List.map_append, List.mem_append, not_or] at hk'
    have hkk : k' ≠ k := fun hk => hk'.2 (List.mem_singleton.mpr hk)
    rw [Pi.add_apply, Pi.single_eq_of_ne hkk, add_zero, h.frame k' hk'.1]

end Accumulates

/-- The transaction has passed the rows it wrote through `op`, by `d` in all. -/
def Tx.Assertion.accumulates {I : Db Row → Prop} (op : M → (k : Key T) → Row k.1 → Row k.1)
    (d : Key T → WithZero M) : Tx.Assertion I where
  holds _ ws db := Accumulates op d ws db
  stable _ hag h := h.congr hag

/-- A guarded update that adds to a row's amount. -/
theorem Tx.Triple.updateRow_accumulates [AddCommSemigroup M] {I : Db Row → Prop} {d : Key T → WithZero M}
    (hadd : ∀ a b k r, op a k (op b k r) = op (b + a) k r) {k : Key T} {a : M}
    {guard : Row k.1 → Bool} {f : Row k.1 → Row k.1}
    (hf : ∀ ws db r, I db → Accumulates op d ws db → (db.apply ws).get k = some r →
      guard r = true → f r = op a k r) :
    Triple I (.accumulates op d) (Tx.updateRow k guard f : Tx Row ε Bool) fun ok =>
      .accumulates op (if ok then d + Pi.single k (a : WithZero M) else d) := by
  refine Triple.updateRow (fun seen ws db r hI hpre hget hg => ?_) fun _ _ _ _ hpre _ => hpre
  rw [if_pos rfl, hf ws db r hI hpre hget hg]
  exact hpre.snoc hadd hget a

end Accumulates

end ReadCommitted
