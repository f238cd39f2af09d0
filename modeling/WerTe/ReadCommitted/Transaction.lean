import WerTe.ReadCommitted.Database

/-!
# Transactions: statements, sequential runs, and a logic for read committed

* `Tx Row ε α` — a transaction body: a free monad whose only effect is one atomic
  statement against the database. A statement returns a value and its row writes, or
  it fails, which rolls the whole transaction back.
* `Tx.run` — the sequential meaning: the body alone on the database.
* `Tx.wp` and `Tx.Triple` — a program logic for the interleaved meaning. Between two
  statements of a read committed transaction other transactions commit, so the
  database under a body changes as it runs; only the rows it has written stay put.
  A postcondition is an `Assertion`, which by construction survives such changes.

The logic is sound for both meanings: for the sequential one in `Triple.run`, for the
interleaved one in `ReadCommitted.Machine`.
-/

namespace ReadCommitted

variable {T : Type} {Row : T → Type} {ε α β : Type}

/-! ## Transaction bodies -/

/-- A transaction body returning an `α`, or failing with an `ε`. -/
inductive Tx (Row : T → Type) (ε α : Type) : Type 1
  /-- finish, ready to commit -/
  | ret (a : α) : Tx Row ε α
  /-- fail: the transaction is rolled back -/
  | throw (e : ε) : Tx Row ε α
  /-- run one statement, a query or an update, on the database as this transaction sees it -/
  | stmt {β : Type} (query : Bool) (q : Db Row → Except ε (β × List (Write Row)))
      (k : β → Tx Row ε α) :
      Tx Row ε α

namespace Tx

/-- Run one body after the other. -/
protected def bind : Tx Row ε α → (α → Tx Row ε β) → Tx Row ε β
  | .ret a, f => f a
  | .throw e, _ => .throw e
  | .stmt query q k, f => .stmt query q fun b => (k b).bind f

instance : Monad (Tx Row ε) where
  pure := .ret
  bind := Tx.bind

/-- A statement that only reads. -/
def read (f : Db Row → α) : Tx Row ε α := .stmt true (fun db => .ok (f db, [])) .ret

/-- A statement that reads and writes rows in one go, and cannot fail. -/
def update (f : Db Row → α × List (Write Row)) : Tx Row ε α :=
  .stmt false (fun db => .ok (f db)) .ret

/-- A statement that may fail, such as an insert under a unique index. -/
def attempt (f : Db Row → Except ε (α × List (Write Row))) : Tx Row ε α :=
  .stmt false f .ret

/-- A statement that only reads, and may fail. -/
def check (f : Db Row → Except ε α) : Tx Row ε α :=
  .stmt true (fun db => (f db).map (·, [])) .ret

/-- Fail unless a condition holds. -/
def require (p : Prop) [Decidable p] (e : ε) : Tx Row ε Unit :=
  if p then .ret () else .throw e

/-- Insert a row, unless that violates a constraint. -/
def insertRow (k : Key T) (r : Row k.1) (violation : Db Row → Option ε) : Tx Row ε Unit :=
  .attempt fun db =>
    match violation db with
    | some e => .error e
    | none => .ok ((), [⟨k.1, k.2, some r⟩])

/-- Fail unless a value is there. -/
def orFail (o : Option α) (e : ε) : Tx Row ε α :=
  match o with
  | some a => .ret a
  | none => .throw e

/-- An outcome that needs no statement. -/
def ofExcept : Except ε α → Tx Row ε α
  | .ok a => .ret a
  | .error e => .throw e

@[simp] theorem pure_eq (a : α) : (pure a : Tx Row ε α) = .ret a := rfl

@[simp] theorem bind_eq (p : Tx Row ε α) (f : α → Tx Row ε β) : p >>= f = p.bind f := rfl

/-! ## Sequential runs -/

variable [DecidableEq T]

/-- Run a body alone: every statement sees what the ones before it wrote. -/
def run : Tx Row ε α → Db Row → Except ε (α × Db Row)
  | .ret a, db => .ok (a, db)
  | .throw e, _ => .error e
  | .stmt _ q k, db =>
    match q db with
    | .error e => .error e
    | .ok (b, ws) => (k b).run (db.apply ws)

@[simp] theorem run_ret (a : α) (db : Db Row) : (ret a : Tx Row ε α).run db = .ok (a, db) := rfl

@[simp] theorem run_throw (e : ε) (db : Db Row) : (throw e : Tx Row ε α).run db = .error e := rfl

@[simp] theorem run_read (f : Db Row → α) (db : Db Row) :
    (read f : Tx Row ε α).run db = .ok (f db, db) := rfl

@[simp] theorem run_update (f : Db Row → α × List (Write Row)) (db : Db Row) :
    (update f : Tx Row ε α).run db = .ok ((f db).1, db.apply (f db).2) := rfl

theorem run_bind (p : Tx Row ε α) (f : α → Tx Row ε β) (db : Db Row) :
    (p.bind f).run db = (p.run db).bind fun r => (f r.1).run r.2 := by
  induction p generalizing db with
  | ret a => rfl
  | throw e => rfl
  | stmt query q k ih =>
    simp only [Tx.bind, run]
    rcases q db with e | ⟨b, ws⟩
    · rfl
    · exact ih b (db.apply ws)

/-- A successful run of a sequence splits at the `bind`. -/
theorem run_bind_ok {p : Tx Row ε α} {f : α → Tx Row ε β} {db db' : Db Row} {b : β}
    (h : (p.bind f).run db = .ok (b, db')) :
    ∃ a db₁, p.run db = .ok (a, db₁) ∧ (f a).run db₁ = .ok (b, db') := by
  rw [run_bind] at h
  rcases hp : p.run db with e | ⟨a, db₁⟩
  · rw [hp] at h; cases h
  · rw [hp] at h; exact ⟨a, db₁, rfl, h⟩

theorem run_check_ok {f : Db Row → Except ε α} {db db' : Db Row} {a : α}
    (h : (check f).run db = .ok (a, db')) : f db = .ok a ∧ db' = db := by
  rw [check, run] at h
  cases hf : f db with
  | error e => rw [hf] at h; cases h
  | ok b => rw [hf] at h; cases h; exact ⟨rfl, rfl⟩

theorem run_insertRow_ok {k : Key T} {r : Row k.1} {violation : Db Row → Option ε}
    {db db' : Db Row} {u : Unit} (h : (insertRow k r violation).run db = .ok (u, db')) :
    violation db = none ∧ db' = db.put ⟨k.1, k.2, some r⟩ := by
  rw [insertRow, attempt, run] at h
  cases hv : violation db with
  | some e => rw [hv] at h; cases h
  | none => rw [hv] at h; cases h; exact ⟨rfl, rfl⟩

theorem run_require_ok {p : Prop} [Decidable p] {e : ε} {db db' : Db Row} {u : Unit}
    (h : (require p e : Tx Row ε Unit).run db = .ok (u, db')) : p ∧ db' = db := by
  unfold require at h
  by_cases hp : p
  · rw [if_pos hp] at h; cases h; exact ⟨hp, rfl⟩
  · rw [if_neg hp] at h; cases h

theorem run_orFail_ok {o : Option α} {e : ε} {db db' : Db Row} {a : α}
    (h : (orFail o e : Tx Row ε α).run db = .ok (a, db')) : o = some a ∧ db' = db := by
  cases o with
  | none => cases h
  | some b => cases h; exact ⟨rfl, rfl⟩

theorem run_read_bind_ok {f : Db Row → β} {g : β → Tx Row ε α} {db db' : Db Row} {a : α}
    (h : ((read f).bind g).run db = .ok (a, db')) : (g (f db)).run db = .ok (a, db') := h

theorem run_require_bind_ok {p : Prop} [Decidable p] {e : ε} {f : Unit → Tx Row ε α}
    {db db' : Db Row} {a : α} (h : ((require p e).bind f).run db = .ok (a, db')) :
    p ∧ (f ()).run db = .ok (a, db') := by
  obtain ⟨u, db₁, hrequire, hrest⟩ := run_bind_ok h
  obtain ⟨hp, rfl⟩ := run_require_ok hrequire
  exact ⟨hp, hrest⟩

/-! ## Bodies that cannot fail -/

/-- Run alone, the body always returns. -/
def Total (p : Tx Row ε α) : Prop := ∀ db, ∃ a db', p.run db = .ok (a, db')

theorem Total.ret (a : α) : Total (.ret a : Tx Row ε α) := fun db => ⟨a, db, rfl⟩

theorem Total.update (f : Db Row → α × List (Write Row)) : Total (.update f : Tx Row ε α) :=
  fun db => ⟨(f db).1, db.apply (f db).2, rfl⟩

theorem Total.bind {p : Tx Row ε α} {f : α → Tx Row ε β} (hp : Total p) (hf : ∀ a, Total (f a)) :
    Total (p.bind f) := by
  intro db
  obtain ⟨a, db₁, hrun⟩ := hp db
  obtain ⟨b, db₂, hrun₂⟩ := hf a db₁
  exact ⟨b, db₂, by rw [run_bind, hrun]; exact hrun₂⟩

/-! ## Bodies that run no query -/

/-- Every statement of the body is an update. -/
def Silent : Tx Row ε α → Prop
  | .ret _ => True
  | .throw _ => True
  | .stmt query _ k => query = false ∧ ∀ b, Silent (k b)

omit [DecidableEq T] in
theorem Silent.ret (a : α) : Silent (.ret a : Tx Row ε α) := True.intro

omit [DecidableEq T] in
theorem Silent.update (f : Db Row → α × List (Write Row)) : Silent (.update f : Tx Row ε α) :=
  ⟨rfl, fun _ => True.intro⟩

omit [DecidableEq T] in
theorem Silent.require (q : Prop) [Decidable q] (e : ε) : Silent (.require q e : Tx Row ε Unit) := by
  unfold Tx.require
  split <;> exact True.intro

omit [DecidableEq T] in
theorem Silent.bind {p : Tx Row ε α} {f : α → Tx Row ε β} (hp : Silent p)
    (hf : ∀ a, Silent (f a)) : Silent (p.bind f) := by
  induction p with
  | ret a => exact hf a
  | throw e => exact True.intro
  | stmt query q k ih => exact ⟨hp.1, fun b => ih b (hp.2 b)⟩

/-! ## Assertions about a transaction in flight -/

/-- What is known of a transaction in flight, in terms of the committed database it
last read from, the row writes it holds so far, and the committed database now. -/
structure Assertion (I : Db Row → Prop) where
  /-- the assertion itself -/
  holds : Db Row → List (Write Row) → Db Row → Prop
  /-- commits by others, which leave the rows written here alone, do not break it -/
  stable : ∀ {seen ws db db'}, I db' → Db.Agree ws db db' → holds seen ws db → holds seen ws db'

/-- The databases that meet `I`, with the writes `ws₀` done. -/
def Written (I : Db Row → Prop) (ws₀ : List (Write Row)) (db : Db Row) : Prop :=
  ∃ db₀, I db₀ ∧ db = db₀.apply ws₀

namespace Assertion

variable {I : Db Row → Prop}

/-- Nothing is known. -/
def trivial : Assertion I := ⟨fun _ _ _ => True, fun _ _ _ => True.intro⟩

/-- The transaction has not written anything yet. -/
def fresh : Assertion I := ⟨fun _ ws _ => ws = [], fun _ _ h => h⟩

/-- Both assertions hold. -/
def and (A B : Assertion I) : Assertion I :=
  ⟨fun seen ws db => A.holds seen ws db ∧ B.holds seen ws db,
    fun hI hag h => ⟨A.stable hI hag h.1, B.stable hI hag h.2⟩⟩

/-- One of a family of assertions holds. -/
def ex {κ : Type} (A : κ → Assertion I) : Assertion I :=
  ⟨fun seen ws db => ∃ i, (A i).holds seen ws db,
    fun hI hag ⟨i, h⟩ => ⟨i, (A i).stable hI hag h⟩⟩

/-- What is known of the database last queried. -/
def sees (p : Db Row → Prop) : Assertion I := ⟨fun seen _ _ => p seen, fun _ _ h => h⟩

/-- After the writes `ws₀`, whose rows are committed as in `base`: an assertion about the
writes that follow, over the database in which the first ones are done. -/
def after (base : Db Row) (ws₀ : List (Write Row)) (A : Assertion (Written I ws₀)) :
    Assertion I where
  holds seen ws db := ∃ ws', ws = ws₀ ++ ws' ∧ Db.Agree ws₀ base db ∧
    A.holds seen ws' (db.apply ws₀)
  stable := by
    rintro seen _ db db' hI' hag ⟨ws', rfl, hbase, h⟩
    exact ⟨ws', rfl, hbase.trans hag.left, A.stable ⟨db', hI', rfl⟩ hag.apply h⟩

/-- A fact about the values computed so far holds, and an assertion with it. -/
def given (p : Prop) (A : Assertion I) : Assertion I :=
  ⟨fun seen ws db => p ∧ A.holds seen ws db, fun hI hag h => ⟨h.1, A.stable hI hag h.2⟩⟩

end Assertion

/-- The committed database a transaction has last queried, after a statement. -/
def lastRead (query : Bool) (seen db : Db Row) : Db Row := if query then db else seen

/-! ## The logic -/

/-- The weakest precondition of a body, over commits by others between its statements:
such commits keep the invariant `I` and the rows written so far. -/
def wp (I : Db Row → Prop) (Post : α → Assertion I) :
    Tx Row ε α → Db Row → List (Write Row) → Db Row → Prop
  | .ret a, seen, ws, db => (Post a).holds seen ws db
  | .throw _, _, _, _ => True
  | .stmt query q k, seen, ws, db =>
    ∀ db', I db' → Db.Agree ws db db' → ∀ b ws', q (db'.apply ws) = .ok (b, ws') →
      wp I Post (k b) (lastRead query seen db') (ws ++ ws') db'

/-- Started where `Pre` holds, the body ends, if it does, where `Post` holds. -/
def Triple (I : Db Row → Prop) (Pre : Assertion I) (p : Tx Row ε α) (Post : α → Assertion I) :
    Prop :=
  ∀ seen ws db, I db → Pre.holds seen ws db → p.wp I Post seen ws db

variable {I : Db Row → Prop}

/-- The weakest precondition survives commits by others. -/
theorem wp_stable {Post : α → Assertion I} (p : Tx Row ε α) {seen : Db Row}
    {ws : List (Write Row)} {db db' : Db Row} (hI : I db') (hag : Db.Agree ws db db')
    (h : p.wp I Post seen ws db) : p.wp I Post seen ws db' := by
  cases p with
  | ret a => exact (Post a).stable hI hag h
  | throw e => exact h
  | stmt query q k =>
    intro db₂ hI₂ hag₂ b ws' hq
    exact h db₂ hI₂ (hag.trans hag₂) b ws' hq

theorem wp_mono {Post Post' : α → Assertion I}
    (hpost : ∀ a seen ws db, I db → (Post a).holds seen ws db → (Post' a).holds seen ws db)
    (p : Tx Row ε α) : ∀ {seen : Db Row} {ws : List (Write Row)} {db : Db Row}, I db →
      p.wp I Post seen ws db → p.wp I Post' seen ws db := by
  induction p with
  | ret a => intro seen ws db hI h; exact hpost a seen ws db hI h
  | throw e => intro _ _ _ _ h; exact h
  | stmt query q k ih =>
    intro seen ws db _ h db' hI' hag b ws' hq
    exact ih b hI' (h db' hI' hag b ws' hq)

theorem wp_and {Post Post' : α → Assertion I} (p : Tx Row ε α) :
    ∀ {seen : Db Row} {ws : List (Write Row)} {db : Db Row}, p.wp I Post seen ws db →
      p.wp I Post' seen ws db → p.wp I (fun a => (Post a).and (Post' a)) seen ws db := by
  induction p with
  | ret a => intro seen ws db h h'; exact ⟨h, h'⟩
  | throw e => intro _ _ _ h _; exact h
  | stmt query q k ih =>
    intro seen ws db h h' db' hI' hag b ws' hq
    exact ih b (h db' hI' hag b ws' hq) (h' db' hI' hag b ws' hq)

theorem wp_bind {Post : β → Assertion I} {Mid : α → Assertion I} {f : α → Tx Row ε β}
    (hf : ∀ a, Triple I (Mid a) (f a) Post) (p : Tx Row ε α) :
    ∀ {seen : Db Row} {ws : List (Write Row)} {db : Db Row}, I db →
      p.wp I Mid seen ws db → (p.bind f).wp I Post seen ws db := by
  induction p with
  | ret a => intro seen ws db hI h; exact hf a seen ws db hI h
  | throw e => intro _ _ _ _ h; exact h
  | stmt query q k ih =>
    intro seen ws db _ h db' hI' hag b ws' hq
    exact ih b hI' (h db' hI' hag b ws' hq)

namespace Triple

variable {Pre : Assertion I} {Post : α → Assertion I}

theorem ret {a : α} (h : ∀ seen ws db, I db → Pre.holds seen ws db → (Post a).holds seen ws db) :
    Triple I Pre (.ret a : Tx Row ε α) Post := h

theorem throw {e : ε} : Triple I Pre (.throw e : Tx Row ε α) Post := fun _ _ _ _ _ => True.intro

theorem bind {Mid : α → Assertion I} {Post : β → Assertion I} {p : Tx Row ε α}
    {f : α → Tx Row ε β} (hp : Triple I Pre p Mid) (hf : ∀ a, Triple I (Mid a) (f a) Post) :
    Triple I Pre (p.bind f) Post :=
  fun seen ws db hI h => wp_bind hf p hI (hp seen ws db hI h)

/-- The same, naming what holds in between. -/
theorem seq {Post : β → Assertion I} {p : Tx Row ε α} {f : α → Tx Row ε β}
    (Mid : α → Assertion I) (hp : Triple I Pre p Mid) (hf : ∀ a, Triple I (Mid a) (f a) Post) :
    Triple I Pre (p.bind f) Post := bind hp hf

theorem conseq {Pre' : Assertion I} {Post' : α → Assertion I} {p : Tx Row ε α}
    (h : Triple I Pre p Post)
    (hpre : ∀ seen ws db, I db → Pre'.holds seen ws db → Pre.holds seen ws db)
    (hpost : ∀ a seen ws db, I db → (Post a).holds seen ws db → (Post' a).holds seen ws db) :
    Triple I Pre' p Post' :=
  fun seen ws db hI hp => wp_mono hpost p hI (h seen ws db hI (hpre seen ws db hI hp))

/-- Two specifications of one body. -/
theorem and {Post' : α → Assertion I} {p : Tx Row ε α} (h : Triple I Pre p Post)
    (h' : Triple I Pre p Post') : Triple I Pre p fun a => (Post a).and (Post' a) :=
  fun seen ws db hI hp => wp_and p (h seen ws db hI hp) (h' seen ws db hI hp)

/-- A precondition's fact about the values so far may be taken out. -/
theorem given {q : Prop} {p : Tx Row ε α} (h : q → Triple I Pre p Post) :
    Triple I (.given q Pre) p Post := fun seen ws db hI hp => h hp.1 seen ws db hI hp.2

/-- So may the choice of an assertion. -/
theorem ex {κ : Type} {A : κ → Assertion I} {p : Tx Row ε α} (h : ∀ i, Triple I (A i) p Post) :
    Triple I (.ex A) p Post := fun seen ws db hI ⟨i, hp⟩ => h i seen ws db hI hp

/-- One statement: what it does to the view of the transaction gives the postcondition. -/
theorem stmt {query : Bool} {q : Db Row → Except ε (α × List (Write Row))}
    (h : ∀ seen ws db b ws', I db → Pre.holds seen ws db → q (db.apply ws) = .ok (b, ws') →
      (Post b).holds (lastRead query seen db) (ws ++ ws') db) :
    Triple I Pre (.stmt query q .ret) Post := by
  intro seen ws db _ hpre db' hI' hag b ws' hq
  exact h seen ws db' b ws' hI' (Pre.stable hI' hag hpre) hq

theorem attempt {q : Db Row → Except ε (α × List (Write Row))}
    (h : ∀ seen ws db b ws', I db → Pre.holds seen ws db → q (db.apply ws) = .ok (b, ws') →
      (Post b).holds seen (ws ++ ws') db) :
    Triple I Pre (Tx.attempt q) Post := stmt h

theorem update {f : Db Row → α × List (Write Row)}
    (h : ∀ seen ws db, I db → Pre.holds seen ws db →
      (Post (f (db.apply ws)).1).holds seen (ws ++ (f (db.apply ws)).2) db) :
    Triple I Pre (Tx.update f : Tx Row ε α) Post := by
  refine stmt fun seen ws db b ws' hI hpre hq => ?_
  have hf : f (db.apply ws) = (b, ws') := Except.ok.inj hq
  have := h seen ws db hI hpre
  rwa [hf] at this

theorem check {f : Db Row → Except ε α}
    (h : ∀ seen ws db a, I db → Pre.holds seen ws db → f (db.apply ws) = .ok a →
      (Post a).holds db ws db) :
    Triple I Pre (Tx.check f) Post := by
  refine stmt fun seen ws db a ws' hI hpre hq => ?_
  cases hf : f (db.apply ws) with
  | error e => rw [hf] at hq; cases hq
  | ok a' =>
    rw [hf] at hq
    cases hq
    rw [List.append_nil]
    exact h seen ws db a hI hpre hf

theorem read {f : Db Row → α}
    (h : ∀ seen ws db, I db → Pre.holds seen ws db →
      (Post (f (db.apply ws))).holds db ws db) :
    Triple I Pre (Tx.read f : Tx Row ε α) Post := by
  refine stmt fun seen ws db a ws' hI hpre hq => ?_
  cases hq
  rw [List.append_nil]
  exact h seen ws db hI hpre

theorem require {q : Prop} [Decidable q] {e : ε} {Post : Unit → Assertion I}
    (h : q → ∀ seen ws db, I db → Pre.holds seen ws db → (Post ()).holds seen ws db) :
    Triple I Pre (Tx.require q e) Post := by
  unfold Tx.require
  by_cases hq : q
  · rw [if_pos hq]; exact ret (h hq)
  · rw [if_neg hq]; exact throw

theorem orFail {o : Option α} {e : ε}
    (h : ∀ a, o = some a → ∀ seen ws db, I db → Pre.holds seen ws db → (Post a).holds seen ws db) :
    Triple I Pre (Tx.orFail o e) Post := by
  cases o with
  | some a => exact ret (h a rfl)
  | none => exact throw

/-- A body that runs no query leaves the database last queried as it is. -/
theorem sees {S : Db Row → Prop} {p : Tx Row ε α} (hp : p.Silent) (h : Triple I Pre p Post) :
    Triple I (.and Pre (.sees S)) p fun a => .and (Post a) (.sees S) := by
  have hsees : Triple I (.sees S) p fun _ => .sees S := by
    clear h
    induction p with
    | ret a => exact ret fun _ _ _ _ h => h
    | throw e => exact throw
    | stmt query q k ih =>
      intro seen ws db _ h db' hI' _ b ws' _
      obtain ⟨rfl, hk⟩ := hp
      exact ih b (hk b) _ _ db' hI' h
  have hpost : Triple I (.and Pre (.sees S)) p Post :=
    h.conseq (fun _ _ _ _ hpre => hpre.1) fun _ _ _ _ _ hpost => hpost
  exact hpost.and (hsees.conseq (fun _ _ _ _ hpre => hpre.2) fun _ _ _ _ _ hseen => hseen)

/-- What a body without queries does after some writes is what it does on the database in
which those are done. -/
theorem after {base : Db Row} {ws₀ : List (Write Row)} {Pre : Assertion (Written I ws₀)}
    {Post : α → Assertion (Written I ws₀)} {p : Tx Row ε α} (hp : p.Silent)
    (h : Triple (Written I ws₀) Pre p Post) :
    Triple I (.after base ws₀ Pre) p fun a => .after base ws₀ (Post a) := by
  have hwp : ∀ (p : Tx Row ε α), p.Silent → ∀ seen ws db, I db → Db.Agree ws₀ base db →
      p.wp (Written I ws₀) Post seen ws (db.apply ws₀) →
      p.wp I (fun a => .after base ws₀ (Post a)) seen (ws₀ ++ ws) db := by
    intro p
    induction p with
    | ret a => exact fun _ _ ws _ _ hbase h => ⟨ws, rfl, hbase, h⟩
    | throw e => exact fun _ _ _ _ _ _ _ => True.intro
    | stmt query q k ih =>
      intro hp seen ws db _ hbase h db' hI' hag b ws' hq
      obtain ⟨rfl, hk⟩ := hp
      rw [Db.apply_append] at hq
      rw [List.append_assoc]
      exact ih b (hk b) seen (ws ++ ws') db' hI' (hbase.trans hag.left)
        (h _ ⟨db', hI', rfl⟩ hag.apply b ws' hq)
  rintro seen _ db hdb ⟨ws, rfl, hbase, hpre⟩
  exact hwp p hp seen ws db hdb hbase (h seen ws _ ⟨db, hdb, rfl⟩ hpre)

/-- A body run alone from a database is a body no one interferes with. -/
theorem wp_run {Post : α → Assertion I} (p : Tx Row ε α) {db db' : Db Row} {a : α} (hI : I db) :
    ∀ {seen : Db Row} {ws : List (Write Row)}, p.wp I Post seen ws db →
      p.run (db.apply ws) = .ok (a, db') →
      ∃ seen' ws', db' = db.apply ws' ∧ (Post a).holds seen' ws' db := by
  induction p with
  | ret a =>
    intro seen ws hwp hrun
    cases hrun
    exact ⟨seen, ws, rfl, hwp⟩
  | throw e => intro _ _ _ hrun; cases hrun
  | stmt query q k ih =>
    intro seen ws hwp hrun
    rw [Tx.run] at hrun
    rcases hq : q (db.apply ws) with e | ⟨b, ws'⟩
    · rw [hq] at hrun; cases hrun
    · rw [hq] at hrun
      change (k b).run ((db.apply ws).apply ws') = _ at hrun
      rw [← Db.apply_append] at hrun
      exact ih b (hwp db hI (.refl ws db) b ws' hq) hrun

/-- Soundness for the sequential meaning. -/
theorem run {p : Tx Row ε α} (h : Triple I .fresh p Post) {db db' : Db Row} {a : α} (hI : I db)
    (hrun : p.run db = .ok (a, db')) :
    ∃ seen ws, db' = db.apply ws ∧ (Post a).holds seen ws db :=
  wp_run p hI (h db [] db hI rfl) hrun

end Triple

end Tx

end ReadCommitted
