import WerTe.ReadCommitted.RelyGuarantee

/-!
# What a call depends on, and what it leaves alone

* `Db.SameOn tables db db'` — the two databases have the same rows in these tables.
* `Respects E p` — run on databases that `E` relates, `p` does the same on both and leaves
  related databases: whatever `E` does not relate, it does not depend on.
* `Service.ReadOnly` — the call runs no transaction, and so changes nothing.
* `Service.Atomic` — a call that fails changes nothing.
* `Service.Writes` — every row that the call writes is of a kind.
* `Service.run_bind_ok` and its kin — when a call returns, said part by part.
-/

namespace ReadCommitted

variable {T : Type} {Row : T → Type} {ε α β : Type}

/-! ## Tables -/

namespace Db

/-- The databases have the same rows in the tables. -/
def SameOn (tables : T → Prop) (db db' : Db Row) : Prop := ∀ t, tables t → db.rows t = db'.rows t

namespace SameOn

variable {tables : T → Prop} {db db' : Db Row}

theorem refl (db : Db Row) : SameOn tables db db := fun _ _ => rfl

theorem symm (h : SameOn tables db db') : SameOn tables db' db := fun t ht => (h t ht).symm

theorem trans {db'' : Db Row} (h : SameOn tables db db') (h' : SameOn tables db' db'') :
    SameOn tables db db'' := fun t ht => (h t ht).trans (h' t ht)

theorem get (h : SameOn tables db db') {k : Key T} (hk : tables k.1) : db.get k = db'.get k := by
  rw [Db.get, h k.1 hk, Db.get]

theorem list (h : SameOn tables db db') {t : T} (ht : tables t) (p : Row t → Bool) :
    db.list t p = db'.list t p := by
  rw [Db.list, h t ht, Db.list]

/-- Both databases are written to. -/
theorem apply [DecidableEq T] (ws : List (Write Row)) : ∀ {db db' : Db Row},
    SameOn tables db db' → SameOn tables (db.apply ws) (db'.apply ws) := by
  induction ws with
  | nil => exact fun h => h
  | cons w ws ih =>
    refine fun h => ih fun t ht => ?_
    simp only [put]
    by_cases hw : t = w.table
    · subst hw
      simp only [Function.update_self, h _ ht]
    · simp only [Function.update_of_ne hw, h t ht]

/-- One is written to, in other tables. -/
theorem of_writes [DecidableEq T] {ws : List (Write Row)} : ∀ {db : Db Row},
    (∀ w ∈ ws, ¬ tables w.table) → SameOn tables db (db.apply ws) := by
  induction ws with
  | nil => exact fun _ => .refl _
  | cons w ws ih =>
    intro db h
    have hfirst : SameOn tables db (db.put w) := fun t ht =>
      (rows_put_ne db fun ht' => h w List.mem_cons_self (ht' ▸ ht)).symm
    exact hfirst.trans (ih fun w' hw' => h w' (List.mem_cons_of_mem _ hw'))

end SameOn

/-- A row that is written is as one of the writes has left it. -/
theorem get_apply_of_mem [DecidableEq T] {ws : List (Write Row)} {t : T} {i : ℕ}
    (h : ((t, i) : Key T) ∈ ws.map Write.key) (db : Db Row) :
    ∃ r, (⟨t, i, r⟩ : Write Row) ∈ ws ∧ (db.apply ws).get (t, i) = r := by
  induction ws generalizing db with
  | nil => cases h
  | cons w ws ih =>
    by_cases hws : ((t, i) : Key T) ∈ ws.map Write.key
    · obtain ⟨r, hr, hget⟩ := ih hws (db.put w)
      exact ⟨r, List.mem_cons_of_mem _ hr, hget⟩
    · rw [List.map_cons, List.mem_cons, or_iff_left hws] at h
      obtain ⟨t', i', r⟩ := w
      cases h
      refine ⟨r, List.mem_cons_self, ?_⟩
      rw [apply_cons, get_apply_of_notMem hws]
      exact get_put_self db (⟨t', i', r⟩ : Write Row)

/-- The row written last is listed first. -/
theorem list_put_head [DecidableEq T] (db : Db Row) {t : T} {i : ℕ} {r : Row t} {p : Row t → Bool}
    (h : p r = true) : ((db.put ⟨t, i, some r⟩).list t p).head? = some (i, r) := by
  simp only [list, put, Function.update_self, AList.entries_insert, List.map_cons]
  rw [List.filter_cons_of_pos (by exact h), List.head?_cons]

/-- After the row written last come all the other rows. -/
theorem list_put_cons [DecidableEq T] (db : Db Row) {t : T} {i : ℕ} {r : Row t} {p : Row t → Bool}
    (h : p r = true) : ∃ rest, (db.put ⟨t, i, some r⟩).list t p = (i, r) :: rest ∧
      ∀ j s, (j, s) ∈ rest ↔ j ≠ i ∧ db.get (t, j) = some s ∧ p s = true := by
  obtain ⟨rest, hlist⟩ := List.head?_eq_some_iff.mp (db.list_put_head (i := i) h)
  have hother : ∀ j, j ≠ i → (db.put ⟨t, i, some r⟩).get (t, j) = db.get (t, j) :=
    fun j hj => Db.get_put_ne _ (by simp [Write.key, hj])
  have hnodup := Db.list_nodup (db.put ⟨t, i, some r⟩) t p
  rw [hlist, List.map_cons, List.nodup_cons] at hnodup
  refine ⟨rest, hlist, fun j s => ⟨fun hmem => ?_, ?_⟩⟩
  · have hj : j ≠ i := by
      rintro rfl
      exact hnodup.1 (List.mem_map.mpr ⟨(j, s), hmem, rfl⟩)
    obtain ⟨hget, hp⟩ := Db.mem_list.mp (hlist ▸ List.mem_cons_of_mem (i, r) hmem)
    exact ⟨hj, hother j hj ▸ hget, hp⟩
  · rintro ⟨hj, hget, hp⟩
    have hmem : (j, s) ∈ (db.put ⟨t, i, some r⟩).list t p :=
      Db.mem_list.mpr ⟨(hother j hj).symm ▸ hget, hp⟩
    rw [hlist, List.mem_cons] at hmem
    exact hmem.resolve_left fun heq => hj (congrArg Prod.fst heq)

/-- A new row is listed before the others. -/
theorem list_put_new [DecidableEq T] {db : Db Row} {t : T} {i : ℕ} {r : Row t}
    (h : db.get (t, i) = none) (p : Row t → Bool) : (db.put ⟨t, i, some r⟩).list t p =
      if p r = true then (i, r) :: db.list t p else db.list t p := by
  have hnew : i ∉ db.rows t := AList.lookup_eq_none.mp h
  simp only [list, put, Function.update_self, AList.entries_insert_of_notMem hnew, List.map_cons,
    List.filter_cons]

/-- A row under a key that is not looked at is written or deleted. -/
theorem filter_list_put [DecidableEq T] (db : Db Row) {w : Write Row} {t : T} {p : Row t → Bool}
    {q : ℕ × Row t → Bool} (h : w.table = t → ∀ r, q (w.id, r) = false) :
    ((db.put w).list t p).filter q = (db.list t p).filter q := by
  by_cases ht : t = w.table
  · subst ht
    have hrest : ∀ l : List (Sigma fun _ : ℕ => Row w.table),
        (((l.kerase w.id).map fun e => (e.1, e.2)).filter fun e => p e.2).filter q =
          ((l.map fun e => (e.1, e.2)).filter fun e => p e.2).filter q := by
      intro l
      induction l with
      | nil => rfl
      | cons e l ih =>
        by_cases he : e.1 = w.id
        · rw [List.kerase_cons_eq he.symm]
          have hq : ∀ r, q (w.id, r) = false := h rfl
          simp only [List.map_cons, List.filter_cons, he]
          split
          · rw [List.filter_cons_of_neg (by simp [hq])]
          · rfl
        · rw [List.kerase_cons_ne (Ne.symm he)]
          simp only [List.map_cons, List.filter_cons]
          split
          · simp only [List.filter_cons, ih]
          · exact ih
    simp only [list, put, Function.update_self]
    cases hw : w.row with
    | none => exact hrest _
    | some r =>
      simp only [AList.entries_insert, List.map_cons, List.filter_cons]
      split
      · rw [List.filter_cons_of_neg (by simp [h rfl])]
        exact hrest _
      · exact hrest _
  · rw [list_put_ne db ht]

/-- The same for a list of writes. -/
theorem filter_list_apply [DecidableEq T] {t : T} {p : Row t → Bool} {q : ℕ × Row t → Bool}
    {ws : List (Write Row)} (h : ∀ w ∈ ws, w.table = t → ∀ r, q (w.id, r) = false) :
    ∀ db : Db Row, ((db.apply ws).list t p).filter q = (db.list t p).filter q := by
  induction ws with
  | nil => exact fun _ => rfl
  | cons w ws ih =>
    intro db
    rw [apply_cons, ih fun w' hw' => h w' (List.mem_cons_of_mem _ hw')]
    exact filter_list_put db (h w List.mem_cons_self)

/-- An id that no row of the table has. -/
def fresh (db : Db Row) (t : T) : ℕ := (db.rows t).keys.foldr max 0 + 1

theorem get_fresh (db : Db Row) (t : T) : db.get (t, db.fresh t) = none := by
  have hle : ∀ (ids : List ℕ), ∀ i ∈ ids, i ≤ ids.foldr max 0 := by
    intro ids
    induction ids with
    | nil => simp
    | cons id ids ih =>
      intro i hi
      rcases List.mem_cons.mp hi with rfl | hi
      · exact le_max_left ..
      · exact (ih i hi).trans (le_max_right ..)
  refine AList.lookup_eq_none.mpr fun hmem => ?_
  have := hle _ _ (AList.mem_keys.mp hmem)
  simp only [fresh] at this
  omega

end Db

/-! ## Respecting a relation -/

namespace Tx

variable [DecidableEq T]

/-- On databases that `E` relates, every statement does the same, and it leaves them related. -/
def Respects (E : Db Row → Db Row → Prop) : Tx Row ε α → Prop
  | .ret _ => True
  | .throw _ => True
  | .stmt _ q k => (∀ db db', E db db' → q db = q db' ∧ ∀ b ws, q db = .ok (b, ws) →
      E (db.apply ws) (db'.apply ws)) ∧ ∀ b, (k b).Respects E

namespace Respects

variable {E : Db Row → Db Row → Prop}

theorem ret (a : α) : (.ret a : Tx Row ε α).Respects E := True.intro

theorem throw (e : ε) : (.throw e : Tx Row ε α).Respects E := True.intro

theorem bind {p : Tx Row ε α} {f : α → Tx Row ε β} (hp : p.Respects E)
    (hf : ∀ a, (f a).Respects E) : (p.bind f).Respects E := by
  induction p with
  | ret a => exact hf a
  | throw e => exact True.intro
  | stmt query q k ih => exact ⟨hp.1, fun b => ih b (hp.2 b)⟩

theorem insertRow {k : Key T} {r : Row k.1} {violation : Db Row → Option ε}
    (hviolation : ∀ db db', E db db' → violation db = violation db')
    (hput : ∀ db db', E db db' → violation db = none →
      E (db.put ⟨k.1, k.2, some r⟩) (db'.put ⟨k.1, k.2, some r⟩)) :
    (Tx.insertRow k r violation).Respects E := by
  refine ⟨fun db db' h => ?_, fun _ => True.intro⟩
  dsimp only
  rw [← hviolation db db' h]
  refine ⟨rfl, fun b ws hq => ?_⟩
  cases hv : violation db with
  | some e =>
    rw [hv] at hq
    cases hq
  | none =>
    rw [hv] at hq
    cases hq
    exact hput db db' h hv

theorem run {p : Tx Row ε α} (hp : p.Respects E) : ∀ {db db' : Db Row}, E db db' →
    (∃ e, p.run db = .error e ∧ p.run db' = .error e) ∨
      ∃ a db₁ db₁', p.run db = .ok (a, db₁) ∧ p.run db' = .ok (a, db₁') ∧ E db₁ db₁' := by
  induction p with
  | ret a => exact fun h => .inr ⟨a, _, _, rfl, rfl, h⟩
  | throw e => exact fun _ => .inl ⟨e, rfl, rfl⟩
  | stmt query q k ih =>
    intro db db' h
    obtain ⟨hsame, hkeep⟩ := hp.1 db db' h
    simp only [Tx.run]
    rw [← hsame]
    rcases hq : q db with e | ⟨b, ws⟩
    · exact .inl ⟨e, rfl, rfl⟩
    · exact ih b (hp.2 b) (hkeep b ws hq)

end Respects

end Tx

namespace Service

variable [DecidableEq T]

/-- On databases that `E` relates, every read and every transaction does the same. -/
def Respects (E : Db Row → Db Row → Prop) : Service Row ε α → Prop
  | .ret _ => True
  | .throw _ => True
  | .read q k => (∀ db db', E db db' → q db = q db') ∧ ∀ b, (k b).Respects E
  | .tx body k => body.Respects E ∧ ∀ r, (k r).Respects E

namespace Respects

variable {E : Db Row → Db Row → Prop}

theorem ret (a : α) : (.ret a : Service Row ε α).Respects E := True.intro

theorem throw (e : ε) : (.throw e : Service Row ε α).Respects E := True.intro

theorem get {q : Db Row → α} (h : ∀ db db', E db db' → q db = q db') :
    (.get q : Service Row ε α).Respects E := ⟨h, fun _ => True.intro⟩

theorem ofExcept (r : Except ε α) : (.ofExcept r : Service Row ε α).Respects E := by
  cases r <;> exact True.intro

theorem orFail (o : Option α) (e : ε) : (.orFail o e : Service Row ε α).Respects E := by
  cases o <;> exact True.intro

theorem require (q : Prop) [Decidable q] (e : ε) :
    (.require q e : Service Row ε Unit).Respects E := by
  unfold Service.require
  split <;> exact True.intro

theorem transaction {body : Tx Row ε α} (h : body.Respects E) :
    (Service.transaction body).Respects E := ⟨h, fun r => .ofExcept r⟩

theorem bind {p : Service Row ε α} {f : α → Service Row ε β} (hp : p.Respects E)
    (hf : ∀ a, (f a).Respects E) : (p.bind f).Respects E := by
  induction p with
  | ret a => exact hf a
  | throw e => exact True.intro
  | read q k ih => exact ⟨hp.1, fun b => ih b (hp.2 b)⟩
  | tx body k ih => exact ⟨hp.1, fun r => ih r (hp.2 r)⟩

/-- On related databases the call has the same outcome, and leaves related databases. -/
theorem run {p : Service Row ε α} (hp : p.Respects E) : ∀ {db db' : Db Row}, E db db' →
    (p.run db).1 = (p.run db').1 ∧ E (p.run db).2 (p.run db').2 := by
  induction p with
  | ret a => exact fun h => ⟨rfl, h⟩
  | throw e => exact fun h => ⟨rfl, h⟩
  | read q k ih =>
    intro db db' h
    simp only [Service.run]
    rw [← hp.1 db db' h]
    exact ih _ (hp.2 _) h
  | tx body k ih =>
    intro db db' h
    simp only [Service.run]
    rcases hp.1.run h with ⟨e, hrun, hrun'⟩ | ⟨a, db₁, db₁', hrun, hrun', h₁⟩
    · rw [hrun, hrun']
      exact ih _ (hp.2 _) h
    · rw [hrun, hrun']
      exact ih _ (hp.2 _) h₁

end Respects

end Service

/-! ## Calls that only read -/

namespace Service

/-- The call runs no transaction. -/
def ReadOnly : Service Row ε α → Prop
  | .ret _ => True
  | .throw _ => True
  | .read _ k => ∀ b, (k b).ReadOnly
  | .tx _ _ => False

namespace ReadOnly

theorem ret (a : α) : (.ret a : Service Row ε α).ReadOnly := True.intro

theorem get (q : Db Row → α) : (.get q : Service Row ε α).ReadOnly := fun _ => True.intro

theorem orFail (o : Option α) (e : ε) : (.orFail o e : Service Row ε α).ReadOnly := by
  cases o <;> exact True.intro

theorem require (q : Prop) [Decidable q] (e : ε) :
    (.require q e : Service Row ε Unit).ReadOnly := by
  unfold Service.require
  split <;> exact True.intro

theorem ofExcept (r : Except ε α) : (.ofExcept r : Service Row ε α).ReadOnly := by
  cases r <;> exact True.intro

theorem bind {p : Service Row ε α} {f : α → Service Row ε β} (hp : p.ReadOnly)
    (hf : ∀ a, (f a).ReadOnly) : (p.bind f).ReadOnly := by
  induction p with
  | ret a => exact hf a
  | throw e => exact True.intro
  | read q k ih => exact fun b => ih b (hp b)
  | tx body k => exact hp.elim

/-- The call leaves the database as it is. -/
theorem run [DecidableEq T] {p : Service Row ε α} (hp : p.ReadOnly) (db : Db Row) :
    (p.run db).2 = db := by
  induction p with
  | ret a => rfl
  | throw e => rfl
  | read q k ih => exact ih _ (hp _)
  | tx body k => exact hp.elim

/-- There is no commit of the call. -/
theorem guarantees [DecidableEq T] {R : Rely Row}
    {Q : List (Db Row) → Db Row → List (Write Row) → Db Row → Prop} {p : Service Row ε α}
    (hp : p.ReadOnly) : ∀ {reads : List (Db Row)}, p.Guarantees R Q reads := by
  induction p with
  | ret a => exact True.intro
  | throw e => exact True.intro
  | read q k ih => exact fun db _ => ih (q db) (hp (q db))
  | tx body k => exact hp.elim

end ReadOnly

end Service

/-! ## Calls that change everything or nothing -/

namespace Service

variable [DecidableEq T]

/-- When the call fails, the database is as it was. -/
def Atomic (p : Service Row ε α) : Prop := ∀ db e, (p.run db).1 = .error e → (p.run db).2 = db

namespace Atomic

theorem transaction (body : Tx Row ε α) : (Service.transaction body).Atomic := by
  intro db e h
  simp only [Service.transaction, Service.run] at h ⊢
  rcases hbody : body.run db with e' | ⟨a, db'⟩
  · rfl
  · rw [hbody] at h
    cases h

/-- Before the part that changes something, the call may read. -/
theorem bind {p : Service Row ε α} {f : α → Service Row ε β} (hp : p.ReadOnly)
    (hf : ∀ a, (f a).Atomic) : (p.bind f).Atomic := by
  intro db e h
  have hsame := hp.run db
  rw [run_bind] at h ⊢
  rcases hrun : p.run db with ⟨e' | a, db'⟩
  · rw [hrun] at hsame
    exact hsame
  · rw [hrun] at h hsame
    obtain rfl : db' = db := hsame
    exact hf a db' e h

/-- The call changes nothing, or it returns. -/
theorem cases {p : Service Row ε α} (hp : p.Atomic) (db : Db Row) :
    (p.run db).2 = db ∨ ∃ a, p.run db = (.ok a, (p.run db).2) := by
  rcases hrun : (p.run db).1 with e | a
  · exact .inl (hp db e hrun)
  · exact .inr ⟨a, Prod.ext hrun rfl⟩

end Atomic

end Service

/-! ## What a body has written -/

/-- What each of the writes keeps, all of them keep. -/
theorem Db.apply_keeps [DecidableEq T] {P : Write Row → Prop} {I : Db Row → Prop}
    (h : ∀ db w, I db → P w → I (db.put w)) (ws : List (Write Row)) :
    ∀ db, I db → (∀ w ∈ ws, P w) → I (db.apply ws) := by
  induction ws with
  | nil => exact fun _ hI _ => hI
  | cons w ws ih =>
    exact fun db hI hws => ih (db.put w) (h db w hI (hws w List.mem_cons_self))
      fun w' hw' => hws w' (List.mem_cons_of_mem _ hw')

/-- A body that commits has carried out writes, each as the body can make them. -/
theorem Tx.Writes.run [DecidableEq T] {P : Write Row → Prop} {p : Tx Row ε α} (hp : p.Writes P) :
    ∀ {db db' : Db Row} {a : α}, p.run db = .ok (a, db') →
      ∃ ws, db' = db.apply ws ∧ ∀ w ∈ ws, P w := by
  induction p with
  | ret a =>
    intro db db' b h
    cases h
    exact ⟨[], rfl, by simp⟩
  | throw e =>
    intro db db' a h
    cases h
  | stmt query q k ih =>
    intro db db' a h
    rw [Tx.run] at h
    rcases hq : q db with e | ⟨b, ws⟩
    · rw [hq] at h
      cases h
    · rw [hq] at h
      obtain ⟨ws', rfl, hws'⟩ := ih b (hp.2 b) h
      refine ⟨ws ++ ws', (Db.apply_append db ws ws').symm, fun w hw => ?_⟩
      rcases List.mem_append.mp hw with hw | hw
      · exact hp.1 db b ws hq w hw
      · exact hws' w hw

theorem Tx.Writes.ofExcept {P : Write Row → Prop} (r : Except ε α) :
    (.ofExcept r : Tx Row ε α).Writes P := by
  cases r <;> exact True.intro

theorem Tx.run_ofExcept_ok [DecidableEq T] {r : Except ε α} {db db' : Db Row} {a : α}
    (h : (ofExcept r : Tx Row ε α).run db = .ok (a, db')) : r = .ok a ∧ db' = db := by
  cases r with
  | error e => cases h
  | ok b =>
    cases h
    exact ⟨rfl, rfl⟩

/-- Tables that a body does not write to. -/
theorem Tx.Writes.sameOn [DecidableEq T] {tables : T → Prop} {p : Tx Row ε α}
    (hp : p.Writes fun w => ¬ tables w.table) {db db' : Db Row} {a : α}
    (h : p.run db = .ok (a, db')) : Db.SameOn tables db db' := by
  obtain ⟨ws, rfl, hws⟩ := hp.run h
  exact .of_writes hws

theorem Tx.Writes.sameOn_ne [DecidableEq T] {t : T} {p : Tx Row ε α}
    (hp : p.Writes fun w => w.table = t) {db db' : Db Row} {a : α}
    (h : p.run db = .ok (a, db')) : Db.SameOn (· ≠ t) db db' :=
  (hp.mono fun _ hw => not_not_intro hw).sameOn h

/-! ## What a call can write -/

namespace Service

/-- Every row that a transaction of the call writes meets `P`. -/
def Writes (P : Write Row → Prop) : Service Row ε α → Prop
  | .ret _ => True
  | .throw _ => True
  | .read _ k => ∀ b, (k b).Writes P
  | .tx body k => body.Writes P ∧ ∀ r, (k r).Writes P

theorem ReadOnly.writes {P : Write Row → Prop} {p : Service Row ε α} (hp : p.ReadOnly) :
    p.Writes P := by
  induction p with
  | ret a => exact True.intro
  | throw e => exact True.intro
  | read q k ih => exact fun b => ih b (hp b)
  | tx body k => exact hp.elim

namespace Writes

variable {P : Write Row → Prop}

theorem ret (a : α) : (.ret a : Service Row ε α).Writes P := True.intro

theorem throw (e : ε) : (.throw e : Service Row ε α).Writes P := True.intro

theorem get (q : Db Row → α) : (.get q : Service Row ε α).Writes P := fun _ => True.intro

theorem mono {P' : Write Row → Prop} (h : ∀ w, P w → P' w) {p : Service Row ε α}
    (hp : p.Writes P) : p.Writes P' := by
  induction p with
  | ret a => exact True.intro
  | throw e => exact True.intro
  | read q k ih => exact fun b => ih b (hp b)
  | tx body k ih => exact ⟨hp.1.mono h, fun r => ih r (hp.2 r)⟩

theorem orFail (o : Option α) (e : ε) : (.orFail o e : Service Row ε α).Writes P :=
  (ReadOnly.orFail o e).writes

theorem require (q : Prop) [Decidable q] (e : ε) :
    (.require q e : Service Row ε Unit).Writes P := (ReadOnly.require q e).writes

theorem after_read {q : Db Row → β} {k : β → Service Row ε α} (h : (Service.read q k).Writes P)
    (b : β) : (k b).Writes P := h b

theorem of_tx {body : Tx Row ε β} {k : Except ε β → Service Row ε α}
    (h : (Service.tx body k).Writes P) : body.Writes P ∧ ∀ r, (k r).Writes P := h

theorem tx {body : Tx Row ε β} {k : Except ε β → Service Row ε α} (h : body.Writes P)
    (hk : ∀ r, (k r).Writes P) : (Service.tx body k).Writes P := ⟨h, hk⟩

theorem transaction {body : Tx Row ε α} (h : body.Writes P) :
    (Service.transaction body).Writes P := ⟨h, fun r => (ReadOnly.ofExcept r).writes⟩

theorem bind {p : Service Row ε α} {f : α → Service Row ε β} (hp : p.Writes P)
    (hf : ∀ a, (f a).Writes P) : (p.bind f).Writes P := by
  induction p with
  | ret a => exact hf a
  | throw e => exact True.intro
  | read q k ih => exact fun b => ih b (hp b)
  | tx body k ih => exact ⟨hp.1, fun r => ih r (hp.2 r)⟩

/-- What the writes keep, the call keeps. -/
theorem run [DecidableEq T] {I : Db Row → Prop} (hwrite : ∀ db w, I db → P w → I (db.put w))
    {p : Service Row ε α} (hp : p.Writes P) {db : Db Row} (h : I db) : I (p.run db).2 := by
  induction p generalizing db with
  | ret a => exact h
  | throw e => exact h
  | read q k ih => exact ih _ (hp _) h
  | tx body k ih =>
    simp only [Service.run]
    rcases hbody : body.run db with e | ⟨b, db'⟩
    · exact ih _ (hp.2 _) h
    · obtain ⟨ws, rfl, hws⟩ := hp.1.run hbody
      exact ih _ (hp.2 _) (Db.apply_keeps hwrite ws db h hws)

/-- Tables that a call does not write to. -/
theorem sameOn [DecidableEq T] {tables : T → Prop} {p : Service Row ε α}
    (hp : p.Writes fun w => ¬ tables w.table) {db : Db Row} : Db.SameOn tables db (p.run db).2 := by
  refine hp.run (I := fun db' => Db.SameOn tables db db') (fun db₁ w h hw => h.trans ?_) (.refl db)
  intro t ht
  exact (Db.rows_put_ne db₁ fun heq => hw (heq ▸ ht)).symm

end Writes

-- Like `Ends`: unfolded, a call would be run to see what it writes.
attribute [irreducible] Writes

end Service

/-! ## When a call returns -/

theorem except_bind_ok {x : Except ε α} {f : α → Except ε β} {b : β} :
    (x >>= f) = .ok b ↔ ∃ a, x = .ok a ∧ f a = .ok b := by
  cases x with
  | error e => simp [bind, Except.bind]
  | ok a => simp [bind, Except.bind]

namespace Service

variable [DecidableEq T] {db db' : Db Row}

theorem run_bind_ok {p : Service Row ε α} {f : α → Service Row ε β} {b : β} :
    (p.bind f).run db = (.ok b, db') ↔
      ∃ a db₁, p.run db = (.ok a, db₁) ∧ (f a).run db₁ = (.ok b, db') := by
  rw [run_bind]
  constructor
  · intro h
    rcases hp : p.run db with ⟨e | a, db₁⟩
    · rw [hp] at h
      cases h
    · rw [hp] at h
      exact ⟨a, db₁, rfl, h⟩
  · rintro ⟨a, db₁, hp, hf⟩
    rw [hp]
    exact hf

theorem run_ret_ok {a b : α} :
    (.ret a : Service Row ε α).run db = (.ok b, db') ↔ a = b ∧ db' = db := by
  simp only [run, Prod.mk.injEq, Except.ok.injEq, eq_comm (a := db)]

/-- A call that begins by reading. -/
theorem ReadOnly.run_bind_ok {p : Service Row ε α} {f : α → Service Row ε β} {b : β}
    (hp : p.ReadOnly) (hrun : (p.bind f).run db = (.ok b, db')) :
    ∃ a, p.run db = (.ok a, db) ∧ (f a).run db = (.ok b, db') := by
  obtain ⟨a, db₁, hfirst, hrest⟩ := Service.run_bind_ok.mp hrun
  have hsame := hp.run db
  rw [hfirst] at hsame
  obtain rfl : db₁ = db := hsame
  exact ⟨a, hfirst, hrest⟩

theorem run_get_ok {q : Db Row → α} {a : α} :
    (.get q : Service Row ε α).run db = (.ok a, db') ↔ q db = a ∧ db' = db := run_ret_ok

theorem run_orFail_ok {o : Option α} {e : ε} {a : α} :
    (.orFail o e : Service Row ε α).run db = (.ok a, db') ↔ o = some a ∧ db' = db := by
  cases o with
  | none => simp [orFail, run]
  | some b => simp only [orFail, run_ret_ok, Option.some.injEq]

theorem run_require_ok {q : Prop} [Decidable q] {e : ε} {u : Unit} :
    (.require q e : Service Row ε Unit).run db = (.ok u, db') ↔ q ∧ db' = db := by
  unfold require
  by_cases hq : q
  · rw [if_pos hq]
    simp only [run_ret_ok, hq, true_and]
  · rw [if_neg hq]
    simp [run, hq]

theorem run_transaction_ok {body : Tx Row ε α} {a : α} :
    (Service.transaction body).run db = (.ok a, db') ↔ body.run db = .ok (a, db') := by
  simp only [transaction, run]
  rcases body.run db with e | ⟨b, db₁⟩
  · simp [ofExcept, run]
  · simp [ofExcept, run]

theorem run_tx_ok {body : Tx Row ε β} {k : Except ε β → Service Row ε α} {a : α} :
    (Service.tx body k).run db = (.ok a, db') ↔
      (∃ b db₁, body.run db = .ok (b, db₁) ∧ (k (.ok b)).run db₁ = (.ok a, db')) ∨
        ∃ e, body.run db = .error e ∧ (k (.error e)).run db = (.ok a, db') := by
  simp only [run]
  rcases body.run db with e | ⟨b, db₁⟩
  · simp
  · simp

theorem run_ofExcept_ok {r : Except ε α} {a : α} :
    (.ofExcept r : Service Row ε α).run db = (.ok a, db') ↔ r = .ok a ∧ db' = db := by
  cases r with
  | error e => simp [ofExcept, run]
  | ok b => simp only [ofExcept, run_ret_ok, Except.ok.injEq]

theorem run_ofExcept_bind_ok {r : Except ε α} {f : α → Service Row ε β} {b : β}
    (hrun : ((ofExcept r).bind f).run db = (.ok b, db')) :
    ∃ a, r = .ok a ∧ (f a).run db = (.ok b, db') := by
  obtain ⟨a, db₁, hfirst, hrest⟩ := run_bind_ok.mp hrun
  obtain ⟨hr, rfl⟩ := run_ofExcept_ok.mp hfirst
  exact ⟨a, hr, hrest⟩

end Service

end ReadCommitted
