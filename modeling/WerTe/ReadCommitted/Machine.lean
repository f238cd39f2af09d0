import Mathlib.Data.Fintype.Basic
import Mathlib.Logic.Function.Basic
import WerTe.ReadCommitted.Transaction

/-!
# The read committed machine: any number of calls, interleaved

* `Service Row ε α` — a service call: reads outside any transaction, then transactions,
  whose failure the caller sees as a value.
* `Service.run` — the sequential meaning.
* `Machine` — a committed database and one thread for each call. A step runs one read,
  one statement, one commit or one rollback of one thread, or aborts a transaction in
  flight. A statement sees the committed database with its own transaction's writes on
  top. It waits while another transaction in flight holds one of the rows it writes.
* `Run m₀ log m` — `m` is reached from `m₀` by a run with the commits `log`: any
  interleaving, with any of the transactions in flight broken off.
-/

namespace ReadCommitted

variable {T : Type} {Row : T → Type} {ε α β : Type}

/-! ## Service calls -/

/-- A service call returning an `α`, or failing with an `ε`. -/
inductive Service (Row : T → Type) (ε α : Type) : Type 1
  /-- return to the caller -/
  | ret (a : α) : Service Row ε α
  /-- throw to the caller -/
  | throw (e : ε) : Service Row ε α
  /-- one read of the committed database, outside any transaction -/
  | read {β : Type} (q : Db Row → β) (k : β → Service Row ε α) : Service Row ε α
  /-- one transaction; the continuation sees its result, or why it was rolled back -/
  | tx {β : Type} (body : Tx Row ε β) (k : Except ε β → Service Row ε α) : Service Row ε α

namespace Service

/-- Run one call after the other. -/
protected def bind : Service Row ε α → (α → Service Row ε β) → Service Row ε β
  | .ret a, f => f a
  | .throw e, _ => .throw e
  | .read q k, f => .read q fun b => (k b).bind f
  | .tx body k, f => .tx body fun r => (k r).bind f

instance : Monad (Service Row ε) where
  pure := .ret
  bind := Service.bind

@[simp] theorem pure_eq (a : α) : (pure a : Service Row ε α) = .ret a := rfl

@[simp] theorem bind_eq (p : Service Row ε α) (f : α → Service Row ε β) :
    p >>= f = p.bind f := rfl

theorem bind_assoc {γ : Type} (p : Service Row ε α) (f : α → Service Row ε β)
    (g : β → Service Row ε γ) : (p.bind f).bind g = p.bind fun a => (f a).bind g := by
  induction p with
  | ret a => rfl
  | throw e => rfl
  | read q k ih => exact congrArg (Service.read q) (funext ih)
  | tx body k ih => exact congrArg (Service.tx body) (funext ih)

/-- One read. -/
def get (q : Db Row → α) : Service Row ε α := .read q .ret

/-- The outcome of a transaction, passed on to the caller. -/
def ofExcept : Except ε α → Service Row ε α
  | .ok a => .ret a
  | .error e => .throw e

/-- One transaction whose failure is passed on to the caller. -/
def transaction (body : Tx Row ε α) : Service Row ε α := .tx body ofExcept

/-- Fail unless a condition holds. -/
def require (p : Prop) [Decidable p] (e : ε) : Service Row ε Unit :=
  if p then .ret () else .throw e

/-- Fail unless a value is there. -/
def orFail (o : Option α) (e : ε) : Service Row ε α :=
  match o with
  | some a => .ret a
  | none => .throw e

variable [DecidableEq T]

/-- Run a call alone. -/
def run : Service Row ε α → Db Row → Except ε α × Db Row
  | .ret a, db => (.ok a, db)
  | .throw e, db => (.error e, db)
  | .read q k, db => (k (q db)).run db
  | .tx body k, db =>
    match body.run db with
    | .ok (b, db') => (k (.ok b)).run db'
    | .error e => (k (.error e)).run db

theorem run_bind (p : Service Row ε α) (f : α → Service Row ε β) (db : Db Row) :
    (p.bind f).run db =
      match p.run db with
      | (.ok a, db') => (f a).run db'
      | (.error e, db') => (.error e, db') := by
  induction p generalizing db with
  | ret a => rfl
  | throw e => rfl
  | read q k ih => exact ih (q db) db
  | tx body k ih =>
    simp only [Service.bind, run]
    rcases body.run db with e | ⟨b, db'⟩
    · exact ih (.error e) db
    · exact ih (.ok b) db'

end Service

/-! ## Threads -/

variable [DecidableEq T]

/-- Two row writes that cannot both be pending: they write the same row, or leave two
rows that share a value of a unique index. -/
def Write.clash [UniqueIndexes Row] (w w' : Write Row) : Bool :=
  if h : w.table = w'.table then
    decide (w.id = w'.id) ||
      (match w.row, w'.row with
        | some r, some r' => UniqueIndexes.collide w'.table (h ▸ r) r'
        | _, _ => false)
  else false

/-- Writes to one row clash. -/
theorem Write.clash_of_key_eq [UniqueIndexes Row] {w w' : Write Row} (h : w.key = w'.key) :
    w.clash w' = true := by
  obtain ⟨ht, hi⟩ := Prod.mk.inj h
  rw [Write.clash, dif_pos ht, decide_eq_true hi, Bool.true_or]

theorem Write.clash_comm [UniqueIndexes Row] (w w' : Write Row) : w.clash w' = w'.clash w := by
  obtain ⟨t, i, r⟩ := w
  obtain ⟨t', i', r'⟩ := w'
  by_cases ht : t = t'
  · subst ht
    simp only [clash, dif_pos, eq_comm (a := i)]
    cases r <;> cases r' <;> simp only [UniqueIndexes.collide_comm t]
  · rw [clash, clash, dif_neg ht, dif_neg (Ne.symm ht)]

/-- Where one call stands. `seen` is the committed database it last queried. -/
inductive Thread (Row : T → Type) (ε α : Type) : Type 1
  /-- outside any transaction -/
  | outside (seen : Db Row) (p : Service Row ε α) : Thread Row ε α
  /-- in a transaction that has written `ws` -/
  | inside {β : Type} (seen : Db Row) (body : Tx Row ε β) (ws : List (Write Row))
      (k : Except ε β → Service Row ε α) : Thread Row ε α

namespace Thread

/-- The call has returned or failed. -/
def done : Thread Row ε α → Bool
  | .outside _ (.ret _) => true
  | .outside _ (.throw _) => true
  | _ => false

/-- The row writes a thread holds, not yet committed. -/
def pending : Thread Row ε α → List (Write Row)
  | .outside _ _ => []
  | .inside _ _ ws _ => ws

/-- The committed database the thread has last queried, if its next step commits. -/
def committing : Thread Row ε α → Option (Db Row)
  | .inside seen (.ret _) _ _ => some seen
  | _ => none

/-- Roll back the transaction in flight, if any. -/
def rollback (e : ε) : Thread Row ε α → Thread Row ε α
  | .outside seen p => .outside seen p
  | .inside seen _ _ k => .outside seen (k (.error e))

/-- One step of a thread: the committed database and the thread after it, or `none`
when it has ended or has to wait. -/
def step (db : Db Row) (locked : List (Write Row) → Prop) [DecidablePred locked] :
    Thread Row ε α → Option (Db Row × Thread Row ε α)
  | .outside _ (.ret _) => none
  | .outside _ (.throw _) => none
  | .outside _ (.read q k) => some (db, .outside db (k (q db)))
  | .outside seen (.tx body k) => some (db, .inside seen body [] k)
  | .inside seen (.ret b) ws k => some (db.apply ws, .outside seen (k (.ok b)))
  | .inside seen (.throw e) _ k => some (db, .outside seen (k (.error e)))
  | .inside seen (.stmt query q next) ws k =>
    match q (db.apply ws) with
    | .error e => some (db, .outside seen (k (.error e)))
    | .ok (b, ws') =>
      if locked ws' then none
      else some (db, .inside (Tx.lastRead query seen db) (next b) (ws ++ ws') k)

end Thread

/-! ## The machine -/

/-- A committed database, and one thread for each call. -/
structure Machine (ι : Type) (Row : T → Type) (ε α : Type) where
  /-- the committed database -/
  db : Db Row
  /-- the calls -/
  threads : ι → Thread Row ε α

/-- What the scheduler may do next. -/
inductive Action (ι ε : Type) : Type
  /-- let a thread take a step -/
  | run (i : ι) : Action ι ε
  /-- break off a thread's transaction, with the error its client sees: a lost
  connection, a timeout, a deadlock -/
  | abort (i : ι) (e : ε) : Action ι ε

namespace Machine

variable {ι : Type}

/-- The machine before the first step. -/
def start (db : Db Row) (calls : ι → Service Row ε α) : Machine ι Row ε α :=
  ⟨db, fun i => .outside db (calls i)⟩

section Advance

omit [DecidableEq T]
variable [DecidableEq ι]

/-- The machine after a step of one thread. -/
def advance (m : Machine ι Row ε α) (i : ι) (db : Db Row) (t : Thread Row ε α) :
    Machine ι Row ε α := ⟨db, Function.update m.threads i t⟩

@[simp] theorem advance_db (m : Machine ι Row ε α) (i : ι) (db : Db Row)
    (t : Thread Row ε α) : (m.advance i db t).db = db := rfl

@[simp] theorem advance_self (m : Machine ι Row ε α) (i : ι) (db : Db Row)
    (t : Thread Row ε α) : (m.advance i db t).threads i = t := Function.update_self ..

theorem advance_ne (m : Machine ι Row ε α) {i j : ι} (h : j ≠ i) (db : Db Row)
    (t : Thread Row ε α) : (m.advance i db t).threads j = m.threads j :=
  Function.update_of_ne h ..

end Advance

variable [Fintype ι] [DecidableEq ι] [UniqueIndexes Row]

/-- Some other thread's pending write clashes with one of these. -/
def Locked (m : Machine ι Row ε α) (i : ι) (ws : List (Write Row)) : Prop :=
  ∃ j, j ≠ i ∧ ∃ w ∈ ws, ∃ w' ∈ (m.threads j).pending, w.clash w' = true

instance (m : Machine ι Row ε α) (i : ι) : DecidablePred (m.Locked i) := fun ws =>
  inferInstanceAs
    (Decidable (∃ j, j ≠ i ∧ ∃ w ∈ ws, ∃ w' ∈ (m.threads j).pending, w.clash w' = true))

/-- One step of the machine. -/
def step (m : Machine ι Row ε α) : Action ι ε → Option (Machine ι Row ε α)
  | .run i =>
    ((m.threads i).step m.db (m.Locked i)).map fun r => m.advance i r.1 r.2
  | .abort i e => some (m.advance i m.db ((m.threads i).rollback e))

/-- Several steps in a row. -/
def exec : List (Action ι ε) → Machine ι Row ε α → Option (Machine ι Row ε α)
  | [], m => some m
  | a :: as, m => (m.step a).bind (exec as)

/-- The thread is about to commit these writes. -/
def Commits (m : Machine ι Row ε α) (i : ι) (seen : Db Row) (ws : List (Write Row)) : Prop :=
  ∃ (β : Type) (b : β) (k : Except ε β → Service Row ε α),
    m.threads i = .inside seen (.ret b) ws k

omit [DecidableEq T] [Fintype ι] [DecidableEq ι] [UniqueIndexes Row] in
theorem commits_of_committing {m : Machine ι Row ε α} {i : ι} {seen : Db Row}
    (h : (m.threads i).committing = some seen) : ∃ ws, m.Commits i seen ws := by
  unfold Commits
  revert h
  cases m.threads i with
  | outside seen p => exact fun h => by cases h
  | inside seen body ws k =>
    cases body with
    | ret b => exact fun h => by cases h; exact ⟨ws, _, b, k, rfl⟩
    | throw e => exact fun h => by cases h
    | stmt query q next => exact fun h => by cases h

end Machine

/-! ## Runs -/

/-- A commit in a run: whose it is, the committed database that call has last queried, and
the one it commits to. -/
structure Commit (ι : Type) (Row : T → Type) where
  /-- the call that commits -/
  call : ι
  /-- the committed database it has last queried -/
  seen : Db Row
  /-- the committed database before the commit -/
  db : Db Row

namespace Machine

variable {ι : Type}

/-- The commit that an action carries out, if it does. -/
def commits (m : Machine ι Row ε α) : Action ι ε → List (Commit ι Row)
  | .run i => ((m.threads i).committing.map fun seen => ⟨i, seen, m.db⟩).toList
  | .abort _ _ => []

variable [Fintype ι] [DecidableEq ι] [UniqueIndexes Row]

/-- `m` is reached from `m₀` by a run with the commits `log`. -/
inductive Run (m₀ : Machine ι Row ε α) : List (Commit ι Row) → Machine ι Row ε α → Prop
  /-- the empty run -/
  | start : Run m₀ [] m₀
  /-- one more step -/
  | step {log : List (Commit ι Row)} {m m' : Machine ι Row ε α} (a : Action ι ε) :
      Run m₀ log m → m.step a = some m' → Run m₀ (log ++ m.commits a) m'

/-- Some interleaving leads from `m₀` to `m`. -/
def Reachable (m₀ m : Machine ι Row ε α) : Prop := ∃ log, Run m₀ log m

/-- The commits of several steps in a row. -/
def execCommits : List (Action ι ε) → Machine ι Row ε α → List (Commit ι Row)
  | [], _ => []
  | a :: as, m => m.commits a ++ (m.step a).elim [] (execCommits as)

theorem Run.exec {as : List (Action ι ε)} :
    ∀ {m₀ m m' : Machine ι Row ε α} {log : List (Commit ι Row)}, Run m₀ log m →
      m.exec as = some m' → Run m₀ (log ++ m.execCommits as) m' := by
  induction as with
  | nil =>
    intro m₀ m m' log h he
    cases he
    rwa [execCommits, List.append_nil]
  | cons a as ih =>
    intro m₀ m m' log h he
    rw [Machine.exec, Option.bind_eq_some_iff] at he
    obtain ⟨m₁, hstep, he⟩ := he
    rw [execCommits, hstep, ← List.append_assoc]
    exact ih (h.step a hstep) he

theorem Run.trans {m₀ m₁ m₂ : Machine ι Row ε α} {log log' : List (Commit ι Row)}
    (h : Run m₀ log m₁) (h' : Run m₁ log' m₂) : Run m₀ (log ++ log') m₂ := by
  induction h' with
  | start => rwa [List.append_nil]
  | step a _ hstep ih =>
    rw [← List.append_assoc]
    exact ih.step a hstep

end Machine

end ReadCommitted
