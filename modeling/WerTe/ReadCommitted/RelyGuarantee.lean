import WerTe.ReadCommitted.Rows

/-!
# Rely and guarantee

The rule of `Invariant` knows of the commits of others that they keep an invariant of the
database and leave the rows alone that a transaction has written. A transaction may rely on
more: a lock it holds keeps others from committing certain changes, though it is no row that
they would write. `Rely` says what others' commits do, given the rows a transaction holds.

* `Tx.Relies` and `Service.Guarantees` are the logic for it, in which a commit is told with
  the row writes it carries out and with what the call has read before.
* `Trace m₀ reads log m` is a run with its commits (`Event`), each with what was read before it
  and with the rows that others held.
* `Trace.sound` is the rule: every commit must guarantee what the others rely on.
-/

namespace ReadCommitted

variable {T : Type} [DecidableEq T] {Row : T → Type} {ε α β : Type}

/-- What a transaction may rely on. -/
structure Rely (Row : T → Type) where
  /-- holds of every committed database -/
  inv : Db Row → Prop
  /-- what the commits of others may do while the transaction holds the rows it has written -/
  rel : List (Write Row) → Db Row → Db Row → Prop
  /-- they may do nothing -/
  refl : ∀ {ws db}, inv db → rel ws db db
  /-- they may do one thing after the other -/
  trans : ∀ {ws a b c}, rel ws a b → rel ws b c → rel ws a c
  /-- they keep the invariant -/
  inv_right : ∀ {ws a b}, rel ws a b → inv b
  /-- they leave the rows alone that the transaction has written -/
  agree : ∀ {ws a b}, rel ws a b → Db.Agree ws a b

/-- Nothing is relied on but an invariant and the rows written. -/
def Rely.rows (I : Db Row → Prop) : Rely Row where
  inv := I
  rel ws a b := I b ∧ Db.Agree ws a b
  refl hI := ⟨hI, .refl _ _⟩
  trans h h' := ⟨h'.1, h.2.trans h'.2⟩
  inv_right h := h.1
  agree h := h.2

/-! ## Transactions -/

namespace Tx

/-- The body ends, if it does, where `Post` holds of the database last queried, of the writes
and of the committed database, whatever commits beside it that it may rely on. -/
def Relies (R : Rely Row) (Post : α → Db Row → List (Write Row) → Db Row → Prop) :
    Tx Row ε α → Db Row → List (Write Row) → Db Row → Prop
  | .ret a, seen, ws, db => ∀ db', R.rel ws db db' → Post a seen ws db'
  | .throw _, _, _, _ => True
  | .stmt query q k, seen, ws, db =>
    ∀ db', R.rel ws db db' → ∀ b ws', q (db'.apply ws) = .ok (b, ws') →
      Relies R Post (k b) (lastRead query seen db') (ws ++ ws') db'

variable {R : Rely Row} {Post : α → Db Row → List (Write Row) → Db Row → Prop} {seen db : Db Row}
  {ws : List (Write Row)}

theorem Relies.rely {p : Tx Row ε α} {db' : Db Row} (h : p.Relies R Post seen ws db)
    (hrel : R.rel ws db db') : p.Relies R Post seen ws db' := by
  cases p with
  | ret a => exact fun db₂ hrel₂ => h db₂ (R.trans hrel hrel₂)
  | throw e => exact True.intro
  | stmt query q k => exact fun db₂ hrel₂ b ws' hq => h db₂ (R.trans hrel hrel₂) b ws' hq

theorem Relies.mono {Post' : α → Db Row → List (Write Row) → Db Row → Prop}
    (hpost : ∀ a seen ws db, R.inv db → Post a seen ws db → Post' a seen ws db) (p : Tx Row ε α) :
    ∀ {seen : Db Row} {ws : List (Write Row)} {db : Db Row}, p.Relies R Post seen ws db →
      p.Relies R Post' seen ws db := by
  induction p with
  | ret a => exact fun h db' hrel => hpost a _ _ db' (R.inv_right hrel) (h db' hrel)
  | throw e => exact fun _ => True.intro
  | stmt query q k ih => exact fun h db' hrel b ws' hq => ih b (h db' hrel b ws' hq)

theorem Relies.bind {f : α → Tx Row ε β} {Post : β → Db Row → List (Write Row) → Db Row → Prop}
    (p : Tx Row ε α) : ∀ {seen : Db Row} {ws : List (Write Row)} {db : Db Row}, R.inv db →
      p.Relies R (fun a seen ws db => (f a).Relies R Post seen ws db) seen ws db →
      (p.bind f).Relies R Post seen ws db := by
  induction p with
  | ret a => exact fun hinv h => h _ (R.refl hinv)
  | throw e => exact fun _ _ => True.intro
  | stmt query q k ih =>
    exact fun _ h db' hrel b ws' hq => ih b (R.inv_right hrel) (h db' hrel b ws' hq)

/-- A body that nothing follows. -/
theorem Relies.of_bind_ret {f : α → β} {Post : β → Db Row → List (Write Row) → Db Row → Prop}
    (p : Tx Row ε α) : ∀ {seen : Db Row} {ws : List (Write Row)} {db : Db Row},
      (p.bind fun a => .ret (f a)).Relies R Post seen ws db →
      p.Relies R (fun a => Post (f a)) seen ws db := by
  induction p with
  | ret a => exact fun h => h
  | throw e => exact fun _ => True.intro
  | stmt query q k ih => exact fun h db' hrel b ws' hq => ih b (h db' hrel b ws' hq)

theorem Relies.ret {a : α} (h : ∀ db', R.rel ws db db' → Post a seen ws db') :
    (.ret a : Tx Row ε α).Relies R Post seen ws db := h

theorem Relies.read_bind {f : Db Row → β} {k : β → Tx Row ε α}
    (h : ∀ db', R.rel ws db db' → (k (f (db'.apply ws))).Relies R Post db' ws db') :
    ((Tx.read f).bind k).Relies R Post seen ws db := by
  intro db' hrel b ws' hq
  cases hq
  rw [List.append_nil]
  exact h db' hrel

theorem Relies.check_bind {f : Db Row → Except ε β} {k : β → Tx Row ε α}
    (h : ∀ db' b, R.rel ws db db' → f (db'.apply ws) = .ok b → (k b).Relies R Post db' ws db') :
    ((Tx.check f).bind k).Relies R Post seen ws db := by
  intro db' hrel b ws' hq
  dsimp only at hq
  cases hf : f (db'.apply ws) with
  | error e =>
    rw [hf] at hq
    cases hq
  | ok b' =>
    rw [hf] at hq
    cases hq
    rw [List.append_nil]
    exact h db' b hrel hf

theorem Relies.require_bind {p : Prop} [Decidable p] {e : ε} {k : Unit → Tx Row ε α}
    (h : p → (k ()).Relies R Post seen ws db) :
    ((Tx.require p e).bind k).Relies R Post seen ws db := by
  unfold Tx.require
  by_cases hp : p
  · rw [if_pos hp]
    exact h hp
  · rw [if_neg hp]
    exact True.intro

theorem Relies.orFail_bind {o : Option β} {e : ε} {k : β → Tx Row ε α}
    (h : ∀ b, o = some b → (k b).Relies R Post seen ws db) :
    ((Tx.orFail o e).bind k).Relies R Post seen ws db := by
  cases o with
  | some b => exact h b rfl
  | none => exact True.intro

theorem Relies.orFail {o : Option α} {e : ε}
    (h : ∀ a, o = some a → ∀ db', R.rel ws db db' → Post a seen ws db') :
    (Tx.orFail o e : Tx Row ε α).Relies R Post seen ws db := by
  cases o with
  | some a => exact h a rfl
  | none => exact True.intro

/-- A statement that always succeeds. -/
theorem Relies.update_bind {f : Db Row → β × List (Write Row)} {k : β → Tx Row ε α}
    (h : ∀ db', R.rel ws db db' →
      (k (f (db'.apply ws)).1).Relies R Post seen (ws ++ (f (db'.apply ws)).2) db') :
    ((Tx.update f).bind k).Relies R Post seen ws db := by
  intro db' hrel b ws' hq
  have := h db' hrel
  rwa [Except.ok.inj hq] at this

theorem Relies.attempt_bind {q : Db Row → Except ε (β × List (Write Row))} {k : β → Tx Row ε α}
    (h : ∀ db' b ws', R.rel ws db db' → q (db'.apply ws) = .ok (b, ws') →
      (k b).Relies R Post seen (ws ++ ws') db') :
    ((Tx.attempt q).bind k).Relies R Post seen ws db :=
  fun db' hrel b ws' hq => h db' b ws' hrel hq

/-- A row is inserted that violates no constraint. -/
theorem Relies.insertRow_bind {k : Key T} {r : Row k.1} {violation : Db Row → Option ε}
    {next : Unit → Tx Row ε α}
    (h : ∀ db', R.rel ws db db' → violation (db'.apply ws) = none →
      (next ()).Relies R Post seen (ws ++ [⟨k.1, k.2, some r⟩]) db') :
    ((Tx.insertRow k r violation).bind next).Relies R Post seen ws db := by
  refine .attempt_bind fun db' b ws' hrel hq => ?_
  cases hv : violation (db'.apply ws) with
  | some e =>
    rw [hv] at hq
    cases hq
  | none =>
    rw [hv] at hq
    cases hq
    exact h db' hrel hv

/-! ### What a body can write -/

/-- Every row that the body writes meets `P`. -/
def Writes (P : Write Row → Prop) : Tx Row ε α → Prop
  | .ret _ => True
  | .throw _ => True
  | .stmt _ q k => (∀ db b ws, q db = .ok (b, ws) → ∀ w ∈ ws, P w) ∧ ∀ b, (k b).Writes P

section Writes

omit [DecidableEq T]
variable {P : Write Row → Prop}

theorem Writes.ret (a : α) : (.ret a : Tx Row ε α).Writes P := True.intro

theorem Writes.bind {p : Tx Row ε α} {f : α → Tx Row ε β} (hp : p.Writes P)
    (hf : ∀ a, (f a).Writes P) : (p.bind f).Writes P := by
  induction p with
  | ret a => exact hf a
  | throw e => exact True.intro
  | stmt query q k ih => exact ⟨hp.1, fun b => ih b (hp.2 b)⟩

theorem Writes.mono {Q : Write Row → Prop} (h : ∀ w, P w → Q w) {p : Tx Row ε α}
    (hp : p.Writes P) : p.Writes Q := by
  induction p with
  | ret a => exact True.intro
  | throw e => exact True.intro
  | stmt query q k ih => exact ⟨fun db b ws hq w hw => h w (hp.1 db b ws hq w hw), fun b => ih b (hp.2 b)⟩

theorem Writes.read {f : Db Row → α} : (.read f : Tx Row ε α).Writes P := by
  refine ⟨fun db b ws hq w hw => ?_, fun _ => True.intro⟩
  cases hq
  cases hw

theorem Writes.check {f : Db Row → Except ε α} : (Tx.check f).Writes P := by
  refine ⟨fun db b ws hq w hw => ?_, fun _ => True.intro⟩
  dsimp only at hq
  cases hf : f db with
  | error e =>
    rw [hf] at hq
    cases hq
  | ok a =>
    rw [hf] at hq
    cases hq
    cases hw

theorem Writes.update {f : Db Row → α × List (Write Row)} (h : ∀ db, ∀ w ∈ (f db).2, P w) :
    (.update f : Tx Row ε α).Writes P :=
  ⟨fun db b ws hq => by have := h db; rwa [Except.ok.inj hq] at this, fun _ => True.intro⟩

theorem Writes.require (q : Prop) [Decidable q] (e : ε) :
    (.require q e : Tx Row ε Unit).Writes P := by
  unfold Tx.require
  split <;> exact True.intro

theorem Writes.insertRow {k : Key T} {r : Row k.1} {violation : Db Row → Option ε}
    (h : P ⟨k.1, k.2, some r⟩) : (Tx.insertRow k r violation).Writes P := by
  refine ⟨fun db b ws hq w hw => ?_, fun _ => True.intro⟩
  cases hv : violation db with
  | some e =>
    simp only [hv] at hq
    cases hq
  | none =>
    simp only [hv] at hq
    cases hq
    rw [List.mem_singleton.mp hw]
    exact h

theorem Writes.updateRow [DecidableEq T] {k : Key T} {guard : Row k.1 → Bool}
    {f : Row k.1 → Row k.1} (h : ∀ r, P ⟨k.1, k.2, some (f r)⟩) :
    (Tx.updateRow k guard f : Tx Row ε Bool).Writes P := by
  refine .update fun db w hw => ?_
  cases hrow : db.get k with
  | none =>
    simp only [hrow] at hw
    cases hw
  | some r =>
    simp only [hrow] at hw
    split at hw
    · rw [List.mem_singleton.mp hw]
      exact h r
    · cases hw

theorem Writes.updateExisting [DecidableEq T] {k : Key T} {f : Row k.1 → Row k.1} {missing : ε}
    (h : ∀ r, P ⟨k.1, k.2, some (f r)⟩) : (Tx.updateExisting k f missing).Writes P :=
  .bind (.updateRow h) fun _ => .require _ _

end Writes

/-- After a body of which is known what it can write, the rows written before are as they were. -/
theorem Relies.of_writes {P : Write Row → Prop} (p : Tx Row ε α) :
    ∀ {seen : Db Row} {ws : List (Write Row)} {db : Db Row}, p.Writes P →
      (∀ a seen' ws' db', (∀ w ∈ ws', P w) → R.inv db' → Db.Agree ws db db' →
        Post a seen' (ws ++ ws') db') → p.Relies R Post seen ws db := by
  induction p with
  | ret a =>
    intro seen ws db _ h db' hrel
    have := h a seen [] db' (by simp) (R.inv_right hrel) (R.agree hrel)
    rwa [List.append_nil] at this
  | throw e => exact fun _ _ => True.intro
  | stmt query q k ih =>
    intro seen ws db hp h db' hrel b ws' hq
    refine ih b (hp.2 b) fun a seen₂ ws₂ db₂ hws₂ hinv hag => ?_
    rw [List.append_assoc]
    refine h a seen₂ (ws' ++ ws₂) db₂ (fun w hw => ?_) hinv ((R.agree hrel).trans hag.left)
    rcases List.mem_append.mp hw with hw | hw
    · exact hp.1 _ b ws' hq w hw
    · exact hws₂ w hw

/-- A body of which is known what it can write, and what follows it. -/
theorem Relies.bind_writes {P : Write Row → Prop} {p : Tx Row ε β} {f : β → Tx Row ε α}
    (hp : p.Writes P) (hinv : R.inv db)
    (hf : ∀ b seen' ws' db', (∀ w ∈ ws', P w) → R.inv db' →
      (f b).Relies R Post seen' (ws ++ ws') db') : (p.bind f).Relies R Post seen ws db :=
  .bind p hinv (.of_writes p hp fun b seen' ws' db' hws' hinv' _ => hf b seen' ws' db' hws' hinv')

/-- A row is updated that is there. -/
theorem Relies.updateExisting_bind {k : Key T} {f : Row k.1 → Row k.1} {missing : ε}
    {next : Unit → Tx Row ε α} (hinv : R.inv db)
    (h : ∀ db' r, R.rel ws db db' → (db'.apply ws).get k = some r →
      (next ()).Relies R Post seen (ws ++ [⟨k.1, k.2, some (f r)⟩]) db') :
    ((Tx.updateExisting k f missing).bind next).Relies R Post seen ws db := by
  refine .bind _ hinv (.update_bind fun db' hrel => ?_)
  cases hrow : (db'.apply ws).get k with
  | none => exact True.intro
  | some r => exact fun db₂ hrel₂ => (h db' r hrel hrow).rely hrel₂

end Tx

/-! ## Calls -/

namespace Service

/-- Every commit of the call is one of those that `Q` allows, when the call has read outside of
transactions from `reads`, latest first: `Q reads seen ws db` speaks of the database last
queried, of the writes, and of the database they are committed to. -/
def Guarantees (R : Rely Row) (Q : List (Db Row) → Db Row → List (Write Row) → Db Row → Prop) :
    Service Row ε α → List (Db Row) → Prop
  | .ret _, _ => True
  | .throw _, _ => True
  | .read q k, reads => ∀ db, R.inv db → Guarantees R Q (k (q db)) (db :: reads)
  | .tx body k, reads =>
    (∀ seen db, R.inv db → body.Relies R (fun _ => Q reads) seen [] db) ∧
      ∀ r, Guarantees R Q (k r) reads

variable {R : Rely Row} {Q : List (Db Row) → Db Row → List (Write Row) → Db Row → Prop}
  {reads : List (Db Row)}

theorem Guarantees.bind {p : Service Row ε α} {f : α → Service Row ε β}
    (hf : ∀ a reads, (f a).Guarantees R Q reads) :
    ∀ {reads : List (Db Row)}, p.Guarantees R Q reads → (p.bind f).Guarantees R Q reads := by
  induction p with
  | ret a => exact fun _ => hf a _
  | throw e => exact fun _ => True.intro
  | read q k ih => exact fun h db hinv => ih (q db) (h db hinv)
  | tx body k ih => exact fun h => ⟨h.1, fun r => ih r (h.2 r)⟩

/-- Nothing is committed after the call. -/
theorem Guarantees.bind_ret {p : Service Row ε α} {f : α → β} (h : p.Guarantees R Q reads) :
    (p.bind fun a => .ret (f a)).Guarantees R Q reads := by
  refine bind (fun a reads => ?_) h
  exact True.intro

theorem Guarantees.get_bind {q : Db Row → α} {f : α → Service Row ε β}
    (hf : ∀ db, R.inv db → (f (q db)).Guarantees R Q (db :: reads)) :
    ((Service.get q).bind f).Guarantees R Q reads := hf

theorem Guarantees.orFail_bind {o : Option α} {e : ε} {f : α → Service Row ε β}
    (hf : ∀ a, o = some a → (f a).Guarantees R Q reads) :
    ((Service.orFail o e).bind f).Guarantees R Q reads := by
  cases o with
  | some a => exact hf a rfl
  | none => exact True.intro

theorem Guarantees.ofExcept_bind {r : Except ε α} {f : α → Service Row ε β}
    (hf : ∀ a, r = .ok a → (f a).Guarantees R Q reads) :
    ((Service.ofExcept r).bind f).Guarantees R Q reads := by
  cases r with
  | ok a => exact hf a rfl
  | error e => exact True.intro

theorem Guarantees.orFail (o : Option α) (e : ε) :
    (Service.orFail o e : Service Row ε α).Guarantees R Q reads := by
  cases o <;> exact True.intro

theorem Guarantees.require_bind {p : Prop} [Decidable p] {e : ε} {f : Unit → Service Row ε β}
    (hf : p → (f ()).Guarantees R Q reads) :
    ((Service.require p e).bind f).Guarantees R Q reads := by
  unfold Service.require
  by_cases hp : p
  · rw [if_pos hp]
    exact hf hp
  · rw [if_neg hp]
    exact True.intro

theorem Guarantees.tx {body : Tx Row ε β} {k : Except ε β → Service Row ε α}
    (hbody : ∀ seen db, R.inv db → body.Relies R (fun _ => Q reads) seen [] db)
    (hk : ∀ r, (k r).Guarantees R Q reads) : (Service.tx body k).Guarantees R Q reads :=
  ⟨hbody, hk⟩

theorem Guarantees.transaction {body : Tx Row ε α}
    (hbody : ∀ seen db, R.inv db → body.Relies R (fun _ => Q reads) seen [] db) :
    (Service.transaction body).Guarantees R Q reads := by
  refine ⟨hbody, fun r => ?_⟩
  cases r <;> exact True.intro

theorem Guarantees.transaction_bind {body : Tx Row ε α} {f : α → Service Row ε β}
    (hbody : ∀ seen db, R.inv db → body.Relies R (fun _ => Q reads) seen [] db)
    (hf : ∀ a, (f a).Guarantees R Q reads) :
    ((Service.transaction body).bind f).Guarantees R Q reads := by
  refine ⟨hbody, fun r => ?_⟩
  cases r with
  | ok a => exact hf a
  | error e => exact True.intro

/-- A call that guarantees more. -/
theorem Guarantees.mono {Q' : List (Db Row) → Db Row → List (Write Row) → Db Row → Prop}
    (hQ : ∀ reads seen ws db, R.inv db → Q reads seen ws db → Q' reads seen ws db)
    (p : Service Row ε α) : ∀ {reads : List (Db Row)}, p.Guarantees R Q reads →
      p.Guarantees R Q' reads := by
  induction p with
  | ret a => exact fun _ => True.intro
  | throw e => exact fun _ => True.intro
  | read q k ih => exact fun h db hinv => ih (q db) (h db hinv)
  | tx body k ih =>
    exact fun h => ⟨fun seen db hinv => .mono (fun _ seen ws db => hQ _ seen ws db) body
      (h.1 seen db hinv), fun r => ih r (h.2 r)⟩

/-- What is read meets the invariant. -/
theorem Guarantees.reads_inv (p : Service Row ε α) : ∀ {reads : List (Db Row)},
    (∀ db ∈ reads, R.inv db) → p.Guarantees R Q reads →
      p.Guarantees R (fun reads seen ws db => Q reads seen ws db ∧ ∀ db ∈ reads, R.inv db)
        reads := by
  induction p with
  | ret a => exact fun _ _ => True.intro
  | throw e => exact fun _ _ => True.intro
  | read q k ih =>
    exact fun hreads h db hinv =>
      ih (q db) (List.forall_mem_cons.mpr ⟨hinv, hreads⟩) (h db hinv)
  | tx body k ih =>
    exact fun hreads h => ⟨fun seen db hinv => .mono (fun _ _ _ _ _ hQ => ⟨hQ, hreads⟩) body
      (h.1 seen db hinv), fun r => ih r hreads (h.2 r)⟩

end Service

/-! ## Threads -/

namespace Thread

/-- The thread still guarantees `Q`. -/
def Meets (R : Rely Row) (Q : List (Db Row) → Db Row → List (Write Row) → Db Row → Prop)
    (reads : List (Db Row)) (db : Db Row) : Thread Row ε α → Prop
  | .outside _ p => p.Guarantees R Q reads
  | .inside seen body ws k =>
    body.Relies R (fun _ => Q reads) seen ws db ∧ ∀ r, (k r).Guarantees R Q reads

omit [DecidableEq T] in
/-- The thread's next step is a read outside of any transaction. -/
def reading : Thread Row ε α → Bool
  | .outside _ (.read _ _) => true
  | _ => false

variable {R : Rely Row} {Q : List (Db Row) → Db Row → List (Write Row) → Db Row → Prop}
  {reads : List (Db Row)} {db db' : Db Row}

theorem Meets.rely {t : Thread Row ε α} (h : t.Meets R Q reads db)
    (hrel : R.rel t.pending db db') : t.Meets R Q reads db' := by
  cases t with
  | outside seen p => exact h
  | inside seen body ws k => exact ⟨h.1.rely hrel, h.2⟩

theorem Meets.rollback {t : Thread Row ε α} (e : ε) (h : t.Meets R Q reads db) :
    (t.rollback e).Meets R Q reads db := by
  cases t with
  | outside seen p => exact h
  | inside seen body ws k => exact h.2 (.error e)

/-- A step of a thread that is no commit. -/
theorem Meets.step {t t' : Thread Row ε α} {locked : List (Write Row) → Prop}
    [DecidablePred locked] (hinv : R.inv db) (h : t.Meets R Q reads db)
    (hnone : t.committing = none) (hstep : t.step db locked = some (db', t')) :
    t'.Meets R Q (if t.reading then db :: reads else reads) db := by
  cases t with
  | outside seen p =>
    cases p with
    | ret a => cases hstep
    | throw e => cases hstep
    | read q k =>
      cases hstep
      exact h db hinv
    | tx body k =>
      cases hstep
      exact ⟨h.1 seen db hinv, h.2⟩
  | inside seen body ws k =>
    cases body with
    | ret b => cases hnone
    | throw e =>
      cases hstep
      exact h.2 (.error e)
    | stmt query q next =>
      rw [Thread.step] at hstep
      rcases hq : q (db.apply ws) with e | ⟨b, ws'⟩
      · rw [hq] at hstep
        cases hstep
        exact h.2 (.error e)
      · rw [hq] at hstep
        by_cases hl : locked ws'
        · simp only [if_pos hl] at hstep
          cases hstep
        · simp only [if_neg hl] at hstep
          cases hstep
          exact ⟨h.1 db (R.refl hinv) b ws' hq, h.2⟩

end Thread

/-! ## Runs -/

/-- A commit in a run. -/
structure Event (ι : Type) (Row : T → Type) where
  /-- the call that commits -/
  call : ι
  /-- the committed databases that it has read from outside of transactions, latest first -/
  reads : List (Db Row)
  /-- the committed database it has last queried -/
  seen : Db Row
  /-- the committed database before the commit -/
  db : Db Row
  /-- the writes it carries out -/
  writes : List (Write Row)
  /-- the rows that other transactions in flight have written -/
  held : Key T → Prop

/-- The committed database after the commit. -/
def Event.result {ι : Type} (e : Event ι Row) : Db Row := e.db.apply e.writes

namespace Machine

variable {ι : Type}

/-- The rows that transactions in flight other than `i`'s have written. -/
def held (m : Machine ι Row ε α) (i : ι) (k : Key T) : Prop :=
  ∃ j, j ≠ i ∧ k ∈ (m.threads j).pending.map Write.key

/-- The commit that an action carries out, if it does. -/
def events (m : Machine ι Row ε α) (reads : ι → List (Db Row)) :
    Action ι ε → List (Event ι Row)
  | .run i => ((m.threads i).committing.map fun seen =>
      ⟨i, reads i, seen, m.db, (m.threads i).pending, m.held i⟩).toList
  | .abort _ _ => []

/-- What each call has read, after an action. -/
def noteReads [DecidableEq ι] (m : Machine ι Row ε α) (reads : ι → List (Db Row)) :
    Action ι ε → ι → List (Db Row)
  | .run i => if (m.threads i).reading then Function.update reads i (m.db :: reads i) else reads
  | .abort _ _ => reads

variable [Fintype ι] [DecidableEq ι] [UniqueIndexes Row]

/-- `m` is reached from `m₀` by a run with the commits `log`, in which each call has read from
`reads`. -/
inductive Trace (m₀ : Machine ι Row ε α) :
    (ι → List (Db Row)) → List (Event ι Row) → Machine ι Row ε α → Prop
  /-- the empty run -/
  | start : Trace m₀ (fun _ => []) [] m₀
  /-- one more step -/
  | step {reads : ι → List (Db Row)} {log : List (Event ι Row)} {m m' : Machine ι Row ε α}
      (a : Action ι ε) : Trace m₀ reads log m → m.step a = some m' →
      Trace m₀ (m.noteReads reads a) (log ++ m.events reads a) m'

/-- Some interleaving with the commits `log` leads from `m₀` to `m`. -/
def Traced (m₀ : Machine ι Row ε α) (log : List (Event ι Row)) (m : Machine ι Row ε α) : Prop :=
  ∃ reads, Trace m₀ reads log m

theorem Trace.reachable {m₀ m : Machine ι Row ε α} {reads : ι → List (Db Row)}
    {log : List (Event ι Row)} (h : Trace m₀ reads log m) : Reachable m₀ m := by
  induction h with
  | start => exact ⟨[], .start⟩
  | step a _ hstep ih =>
    obtain ⟨log', hrun⟩ := ih
    exact ⟨_, hrun.step a hstep⟩

/-- The events of several steps in a row. -/
def execEvents : List (Action ι ε) → (ι → List (Db Row)) → Machine ι Row ε α →
    List (Event ι Row)
  | [], _, _ => []
  | a :: as, reads, m =>
    m.events reads a ++ (m.step a).elim [] (execEvents as (m.noteReads reads a))

theorem Trace.exec {as : List (Action ι ε)} :
    ∀ {m₀ m m' : Machine ι Row ε α} {reads : ι → List (Db Row)} {log : List (Event ι Row)},
      Trace m₀ reads log m → m.exec as = some m' →
      Traced m₀ (log ++ m.execEvents as reads) m' := by
  induction as with
  | nil =>
    intro m₀ m m' reads log h he
    cases he
    rw [execEvents, List.append_nil]
    exact ⟨reads, h⟩
  | cons a as ih =>
    intro m₀ m m' reads log h he
    rw [Machine.exec, Option.bind_eq_some_iff] at he
    obtain ⟨m₁, hstep, he⟩ := he
    rw [execEvents, hstep, ← List.append_assoc]
    exact ih (h.step a hstep) he

/-- Several steps from the start. -/
theorem Traced.exec {as : List (Action ι ε)} {m₀ m : Machine ι Row ε α} (h : m₀.exec as = some m) :
    Traced m₀ (m₀.execEvents as fun _ => []) m := by
  have := Trace.start.exec h
  rwa [List.nil_append] at this

/-! ## The rule -/

omit [Fintype ι] [DecidableEq ι] [UniqueIndexes Row] in
/-- Every call meets the specification that says nothing. -/
theorem spec_trivial (p : Service Row ε α) : ∀ seen,
    p.Spec (fun _ => True) (fun _ _ _ => True) seen := by
  induction p with
  | ret a => exact fun _ => True.intro
  | throw e => exact fun _ => True.intro
  | read q k ih => exact fun _ db _ => ih (q db) db
  | tx body k ih =>
    refine fun seen => ⟨fun db _ => ?_, fun r seen' => ih r seen'⟩
    have hbody : ∀ seen ws db, body.wp (fun _ => True) (fun _ => .commits fun _ _ _ => True)
        seen ws db := by
      clear ih
      induction body with
      | ret b => exact fun _ _ _ _ _ _ => True.intro
      | throw e => exact fun _ _ _ => True.intro
      | stmt query q next ih => exact fun _ _ _ _ _ _ b _ _ => ih b _ _ _
    exact hbody seen [] db

/-- In no reachable state have two transactions in flight written clashing rows. -/
theorem Reachable.apart {db : Db Row} {calls : ι → Service Row ε α} {m : Machine ι Row ε α}
    (h : Reachable (start db calls) m) {i j : ι} (hij : i ≠ j) {w w' : Write Row}
    (hw : w ∈ (m.threads i).pending) (hw' : w' ∈ (m.threads j).pending) : w.clash w' = false := by
  have hstart : Sound (fun _ => True) (fun _ _ _ _ => True) (start db calls) :=
    .start True.intro fun i => spec_trivial (calls i) db
  exact (h.sound (fun _ _ _ _ _ _ => True.intro) hstart).apart i j hij w hw w' hw'

/-- Every thread still guarantees what it has to. -/
structure Guaranteed (R : Rely Row)
    (Q : ι → List (Db Row) → Db Row → List (Write Row) → Db Row → Prop)
    (reads : ι → List (Db Row)) (m : Machine ι Row ε α) : Prop where
  /-- the committed database meets the invariant -/
  inv : R.inv m.db
  /-- every thread meets its guarantee -/
  meets : ∀ i, (m.threads i).Meets R (Q i) (reads i) m.db

variable {R : Rely Row} {Q : ι → List (Db Row) → Db Row → List (Write Row) → Db Row → Prop}

/-- What a commit that is allowed must do: keep `J`, and whatever the others rely on for the rows
they hold. -/
def Keeps (R : Rely Row) (J : List (Event ι Row) → Db Row → Prop) (log : List (Event ι Row))
    (e : Event ι Row) : Prop :=
  J (log ++ [e]) e.result ∧ ∀ ws, (∀ w ∈ ws, e.held w.key ∧ ∀ w' ∈ e.writes, w.clash w' = false) →
    R.rel ws e.db e.result

omit [Fintype ι] [DecidableEq ι] in
/-- The rows that others hold are not written. -/
theorem agree_of_not_clash {ws ws' : List (Write Row)} (db : Db Row)
    (h : ∀ w ∈ ws, ∀ w' ∈ ws', w.clash w' = false) : Db.Agree ws db (db.apply ws') := by
  refine Db.agree_apply db fun k hk hk' => ?_
  obtain ⟨w, hw, rfl⟩ := List.mem_map.mp hk
  obtain ⟨w', hw', hkey⟩ := List.mem_map.mp hk'
  have hclash := Write.clash_of_key_eq hkey.symm
  rw [h w hw w' hw'] at hclash
  cases hclash

omit [Fintype ι] [DecidableEq ι] in
/-- When nothing but an invariant and the rows written is relied on. -/
theorem Keeps.rows {I : Db Row → Prop} {J : List (Event ι Row) → Db Row → Prop}
    {log : List (Event ι Row)} {e : Event ι Row} (hI : I e.result) (hJ : J (log ++ [e]) e.result) :
    Keeps (.rows I) J log e :=
  ⟨hJ, fun _ hws => ⟨hI, agree_of_not_clash e.db fun w hw => (hws w hw).2⟩⟩

/-- The rule: along a run whose commits meet `ok`, every thread guarantees what it has to, and
`J` holds of the commits so far and the database. -/
theorem Trace.sound {ok : Event ι Row → Prop} {J : List (Event ι Row) → Db Row → Prop}
    {db : Db Row} {calls : ι → Service Row ε α}
    (hkeep : ∀ log e, R.inv e.db → J log e.db → ok e → Q e.call e.reads e.seen e.writes e.db →
      Keeps R J log e)
    (hinv : R.inv db) (hcalls : ∀ i, (calls i).Guarantees R (Q i) []) (hJ : J [] db)
    {m : Machine ι Row ε α} {reads : ι → List (Db Row)} {log : List (Event ι Row)}
    (htrace : Trace (Machine.start db calls) reads log m) :
    (∀ e ∈ log, ok e) → Guaranteed R Q reads m ∧ J log m.db := by
  induction htrace with
  | start => exact fun _ => ⟨⟨hinv, hcalls⟩, hJ⟩
  | @step reads log m m' a htrace hstep ih =>
    intro hok
    obtain ⟨hm, hJ⟩ := ih fun e he => hok e (List.mem_append_left _ he)
    cases a with
    | abort i e =>
      cases hstep
      refine ⟨⟨hm.inv, fun j => ?_⟩, by rwa [events, List.append_nil]⟩
      by_cases hj : j = i
      · subst hj
        rw [advance_self]
        exact (hm.meets j).rollback e
      · rw [advance_ne m hj]
        exact hm.meets j
    | run i =>
      rw [Machine.step, Option.map_eq_some_iff] at hstep
      obtain ⟨⟨db', t'⟩, ht, rfl⟩ := hstep
      rcases Thread.step_cases ht with
        ⟨β, seen, b, ws, k, hi, rfl, rfl⟩ | ⟨hnone, rfl, -, -⟩
      · have hevents : m.events reads (.run i) =
            [⟨i, reads i, seen, m.db, ws, m.held i⟩] := by rw [events, hi]; rfl
        have hreads : m.noteReads reads (.run i) = reads := by rw [noteReads, hi]; rfl
        have hthread := hm.meets i
        rw [hi] at hthread
        rw [hevents] at hok ⊢
        obtain ⟨hJ', hrely⟩ := hkeep log ⟨i, reads i, seen, m.db, ws, m.held i⟩ hm.inv hJ
          (hok _ (List.mem_append_right _ (List.mem_singleton_self _)))
          (hthread.1 m.db (R.refl hm.inv))
        -- what the commit does is what every other transaction relies on
        have hothers : ∀ j, j ≠ i → R.rel (m.threads j).pending m.db (m.db.apply ws) := by
          refine fun j hj => hrely _ fun w hw => ⟨⟨j, hj, List.mem_map_of_mem hw⟩, fun w' hw' => ?_⟩
          exact htrace.reachable.apart hj hw (by rw [hi]; exact hw')
        have hinv' : R.inv (m.db.apply ws) :=
          R.inv_right (hrely [] fun w hw => by cases hw)
        rw [hreads]
        refine ⟨⟨hinv', fun j => ?_⟩, hJ'⟩
        by_cases hj : j = i
        · subst hj
          rw [advance_self]
          exact hthread.2 (.ok b)
        · rw [advance_ne m hj]
          exact (hm.meets j).rely (hothers j hj)
      · have hevents : m.events reads (.run i) = [] := by rw [events, hnone]; rfl
        rw [hevents, List.append_nil]
        refine ⟨⟨hm.inv, fun j => ?_⟩, hJ⟩
        by_cases hj : j = i
        · subst hj
          rw [advance_self]
          have hread : m.noteReads reads (.run j) j =
              if (m.threads j).reading then m.db :: reads j else reads j := by
            rw [noteReads]
            split
            · exact Function.update_self ..
            · rfl
          rw [hread]
          exact (hm.meets j).step hm.inv hnone ht
        · rw [advance_ne m hj]
          have hread : m.noteReads reads (.run i) j = reads j := by
            rw [noteReads]
            split
            · exact Function.update_of_ne hj ..
            · rfl
          rw [hread]
          exact hm.meets j

end Machine

end ReadCommitted
