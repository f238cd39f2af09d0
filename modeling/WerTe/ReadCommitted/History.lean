import WerTe.ReadCommitted.Frame

/-!
# The commits of a run, in order

What a call has read outside of its transactions may be out of date when it commits, but it was
the committed database once.

* `History db₀ log db`: the commits `log` lead from `db₀` to `db`, each carried out on what the one
  before it left, and each by a call that has read databases of before (`Past`).
* `Service.WritesOnce W`: only the first transaction of the call writes rows that meet `W`. Then no
  two commits of the call do (`Trace.once`), and a broken off transaction is not tried again.
-/

namespace ReadCommitted

variable {T : Type} [DecidableEq T] {Row : T → Type} {ε α β : Type} {ι : Type}

/-! ## History -/

/-- The committed database at the start or after one of the commits. -/
def Past (db₀ : Db Row) (log : List (Event ι Row)) (db : Db Row) : Prop :=
  db = db₀ ∨ ∃ e ∈ log, db = e.result

theorem Past.snoc {db₀ db : Db Row} {log : List (Event ι Row)} (h : Past db₀ log db)
    (e : Event ι Row) : Past db₀ (log ++ [e]) db :=
  h.imp_right fun ⟨e', he', hdb⟩ => ⟨e', List.mem_append_left _ he', hdb⟩

theorem past_snoc_iff {db₀ db : Db Row} {log : List (Event ι Row)} {e : Event ι Row} :
    Past db₀ (log ++ [e]) db ↔ Past db₀ log db ∨ db = e.result := by
  simp [Past, or_and_right, exists_or, or_assoc]

/-- The commits lead from `db₀` to the database. -/
inductive History (db₀ : Db Row) : List (Event ι Row) → Db Row → Prop
  /-- nothing is committed -/
  | start : History db₀ [] db₀
  /-- one more commit -/
  | commit {log : List (Event ι Row)} {e : Event ι Row} : History db₀ log e.db →
      (∀ db ∈ e.reads, Past db₀ log db) → History db₀ (log ++ [e]) e.result

theorem History.past {db₀ db : Db Row} {log : List (Event ι Row)} (h : History db₀ log db) :
    Past db₀ log db := by
  cases h with
  | start => exact .inl rfl
  | commit _ _ => exact .inr ⟨_, by simp, rfl⟩

/-! ## Writing once -/

/-- Only the first transaction of the call writes rows that meet `W`. -/
def Service.WritesOnce (W : Write Row → Prop) : Service Row ε α → Prop
  | .ret _ => True
  | .throw _ => True
  | .read q k => ∀ db, (k (q db)).WritesOnce W
  | .tx _ k => ∀ r, (k r).Writes fun w => ¬ W w

/-- The commit writes a row that meets `W`. -/
def Event.Marks (W : Write Row → Prop) (e : Event ι Row) : Prop := ∃ w ∈ e.writes, W w

/-- No call has two commits that write rows that meet `W`. -/
def MarksOnce (W : Write Row → Prop) (log : List (Event ι Row)) : Prop :=
  log.Pairwise fun e e' => e.call = e'.call → ¬ (e.Marks W ∧ e'.Marks W)

/-! ## Dropping failures -/

namespace Service

/-- The call does not fail: what it fails with is returned. -/
def attempt : Service Row ε α → Service Row ε (Except ε α)
  | .ret a => .ret (.ok a)
  | .throw e => .ret (.error e)
  | .read q k => .read q fun b => (k b).attempt
  | .tx body k => .tx body fun r => (k r).attempt

theorem Guarantees.attempt {R : Rely Row}
    {Q : List (Db Row) → Db Row → List (Write Row) → Db Row → Prop} {p : Service Row ε α} :
    ∀ {reads : List (Db Row)}, p.Guarantees R Q reads → p.attempt.Guarantees R Q reads := by
  induction p with
  | ret a => exact fun _ => True.intro
  | throw e => exact fun _ => True.intro
  | read q k ih => exact fun h db hinv => ih (q db) (h db hinv)
  | tx body k ih => exact fun h => ⟨h.1, fun r => ih r (h.2 r)⟩

omit [DecidableEq T] in
theorem Writes.attempt {P : Write Row → Prop} {p : Service Row ε α} (h : p.Writes P) :
    p.attempt.Writes P := by
  induction p with
  | ret a => exact .ret _
  | throw e => exact .ret _
  | read q k ih =>
    exact .bind (.get q) fun b => ih b (h.after_read b)
  | tx body k ih => exact .tx h.of_tx.1 fun r => ih r (h.of_tx.2 r)

/-- Run alone, it leaves what the call leaves. -/
theorem run_attempt (p : Service Row ε α) (db : Db Row) :
    p.attempt.run db = (.ok (p.run db).1, (p.run db).2) := by
  induction p generalizing db with
  | ret a => rfl
  | throw e => rfl
  | read q k ih => exact ih (q db) db
  | tx body k ih =>
    simp only [attempt, run]
    rcases body.run db with e | ⟨b, db'⟩
    · exact ih (.error e) db
    · exact ih (.ok b) db'

end Service

namespace Thread

/-- The thread writes no row any more that meets `W`, or may do so still in one transaction when it
has not yet (`fresh`). -/
def Once (W : Write Row → Prop) (fresh : Prop) : Thread Row ε α → Prop
  | .outside _ p => p.Writes (fun w => ¬ W w) ∨ fresh ∧ p.WritesOnce W
  | .inside _ body ws k => (∀ r, (k r).Writes fun w => ¬ W w) ∧
      (fresh ∨ body.Writes (fun w => ¬ W w) ∧ ∀ w ∈ ws, ¬ W w)

variable {W : Write Row → Prop} {fresh : Prop} {t t' : Thread Row ε α} {db db' : Db Row}

omit [DecidableEq T] in
theorem Once.imp {fresh' : Prop} (hfresh : fresh → fresh') (h : t.Once W fresh) :
    t.Once W fresh' := by
  cases t with
  | outside seen p => exact h.imp_right fun h => ⟨hfresh h.1, h.2⟩
  | inside seen body ws k => exact ⟨h.1, h.2.imp_left hfresh⟩

omit [DecidableEq T] in
theorem Once.rollback (h : t.Once W fresh) (e : ε) : (t.rollback e).Once W fresh := by
  cases t with
  | outside seen p => exact h
  | inside seen body ws k => exact .inl (h.1 (.error e))

/-- A step that is no commit. -/
theorem Once.step {locked : List (Write Row) → Prop} [DecidablePred locked]
    (h : t.Once W fresh) (hnone : t.committing = none) (hstep : t.step db locked = some (db', t')) :
    t'.Once W fresh := by
  cases t with
  | outside seen p =>
    cases p with
    | ret a => cases hstep
    | throw e => cases hstep
    | read q k =>
      cases hstep
      rcases h with h | ⟨hfresh, h⟩
      · exact .inl (h.after_read _)
      · exact .inr ⟨hfresh, h db⟩
    | tx body k =>
      cases hstep
      rcases h with h | ⟨hfresh, h⟩
      · exact ⟨h.of_tx.2, .inr ⟨h.of_tx.1, by simp⟩⟩
      · exact ⟨h, .inl hfresh⟩
  | inside seen body ws k =>
    cases body with
    | ret b => cases hnone
    | throw e =>
      cases hstep
      exact .inl (h.1 (.error e))
    | stmt query q next =>
      rw [Thread.step] at hstep
      rcases hq : q (db.apply ws) with e | ⟨b, ws'⟩
      · rw [hq] at hstep
        cases hstep
        exact .inl (h.1 (.error e))
      · rw [hq] at hstep
        by_cases hl : locked ws'
        · simp only [if_pos hl] at hstep
          cases hstep
        · simp only [if_neg hl] at hstep
          cases hstep
          refine ⟨h.1, h.2.imp_right fun hnone => ⟨hnone.1.2 b, ?_⟩⟩
          exact List.forall_mem_append.mpr ⟨hnone.2, hnone.1.1 _ b ws' hq⟩

end Thread

/-! ## Runs -/

namespace Machine

variable [Fintype ι] [DecidableEq ι] [UniqueIndexes Row]

/-- The commits of a run are its history, and whatever has been read was committed. -/
theorem Trace.history {m₀ m : Machine ι Row ε α} {reads : ι → List (Db Row)}
    {log : List (Event ι Row)} (h : Trace m₀ reads log m) :
    History m₀.db log m.db ∧ ∀ i, ∀ db ∈ reads i, Past m₀.db log db := by
  induction h with
  | start => exact ⟨.start, fun i db hdb => by cases hdb⟩
  | @step reads log m m' a htrace hstep ih =>
    obtain ⟨hlog, hreads⟩ := ih
    cases a with
    | abort i e =>
      cases hstep
      rw [events, List.append_nil]
      exact ⟨hlog, hreads⟩
    | run i =>
      rw [Machine.step, Option.map_eq_some_iff] at hstep
      obtain ⟨⟨db', t'⟩, ht, rfl⟩ := hstep
      rcases Thread.step_cases ht with
        ⟨β, seen, b, ws, k, hi, rfl, rfl⟩ | ⟨hnone, rfl, -, -⟩
      · have hevents : m.events reads (.run i) =
            [⟨i, reads i, seen, m.db, ws, m.held i⟩] := by rw [events, hi]; rfl
        have hsame : m.noteReads reads (.run i) = reads := by rw [noteReads, hi]; rfl
        rw [hevents, hsame]
        exact ⟨.commit hlog (hreads i), fun j db hdb => (hreads j db hdb).snoc _⟩
      · have hevents : m.events reads (.run i) = [] := by rw [events, hnone]; rfl
        rw [hevents, List.append_nil]
        refine ⟨hlog, fun j db hdb => ?_⟩
        rw [noteReads] at hdb
        split at hdb
        · by_cases hj : j = i
          · subst hj
            rw [Function.update_self] at hdb
            rcases List.mem_cons.mp hdb with rfl | hdb
            · exact hlog.past
            · exact hreads j db hdb
          · rw [Function.update_of_ne hj] at hdb
            exact hreads j db hdb
        · exact hreads j db hdb

/-- Calls that write rows that meet `W` once do so once. -/
theorem Trace.once {W : Write Row → Prop} {db : Db Row} {calls : ι → Service Row ε α}
    (hcalls : ∀ i, (calls i).WritesOnce W) {m : Machine ι Row ε α} {reads : ι → List (Db Row)}
    {log : List (Event ι Row)} (h : Trace (Machine.start db calls) reads log m) :
    MarksOnce W log ∧
      ∀ i, (m.threads i).Once W (∀ e ∈ log, e.call = i → ¬ e.Marks W) := by
  induction h with
  | start => exact ⟨.nil, fun i => .inr ⟨by simp, hcalls i⟩⟩
  | @step reads log m m' a htrace hstep ih =>
    obtain ⟨hlog, hthreads⟩ := ih
    cases a with
    | abort i e =>
      cases hstep
      rw [events, List.append_nil]
      refine ⟨hlog, fun j => ?_⟩
      by_cases hj : j = i
      · subst hj
        rw [advance_self]
        exact (hthreads j).rollback e
      · rw [advance_ne m hj]
        exact hthreads j
    | run i =>
      rw [Machine.step, Option.map_eq_some_iff] at hstep
      obtain ⟨⟨db', t'⟩, ht, rfl⟩ := hstep
      rcases Thread.step_cases ht with
        ⟨β, seen, b, ws, k, hi, rfl, rfl⟩ | ⟨hnone, rfl, -, -⟩
      · have hevents : m.events reads (.run i) =
            [⟨i, reads i, seen, m.db, ws, m.held i⟩] := by rw [events, hi]; rfl
        have hthread := hthreads i
        rw [hi] at hthread
        rw [hevents]
        constructor
        · refine List.pairwise_append.mpr ⟨hlog, List.pairwise_singleton .., ?_⟩
          rintro e he e' he' hcall ⟨hmarks, w, hw, hW⟩
          rw [List.mem_singleton.mp he'] at hcall hw
          rcases hthread.2 with hfresh | ⟨-, hws⟩
          · exact hfresh e he hcall hmarks
          · exact hws w hw hW
        · intro j
          by_cases hj : j = i
          · subst hj
            rw [advance_self]
            exact .inl (hthread.1 (.ok b))
          · rw [advance_ne m hj]
            refine (hthreads j).imp fun hfresh e he hcall => ?_
            rcases List.mem_append.mp he with he | he
            · exact hfresh e he hcall
            · rw [List.mem_singleton.mp he] at hcall
              exact absurd hcall.symm hj
      · have hevents : m.events reads (.run i) = [] := by rw [events, hnone]; rfl
        rw [hevents, List.append_nil]
        refine ⟨hlog, fun j => ?_⟩
        by_cases hj : j = i
        · subst hj
          rw [advance_self]
          exact (hthreads j).step hnone ht
        · rw [advance_ne m hj]
          exact hthreads j

end Machine

end ReadCommitted
