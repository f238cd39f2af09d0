import WerTe.ReadCommitted.History

/-!
# Statements that fail

A statement fails on the database that it finds, such as an insert under a unique index.

* `Thread.fault db t`: what the next statement of a thread fails with
* `Tx.Faults F`: whenever a statement of the body fails with `e` on the committed database `db`,
  `F db e` holds
* `Service.FaultsOnce F F'`: the first transaction of the call fails as `F` says, what follows it as
  `F'` does
* `Machine.Trace.fault`: so do the threads in a run, which are past their first transaction when
  they have committed
-/

namespace ReadCommitted

variable {T : Type} [DecidableEq T] {Row : T → Type} {ε α β : Type} {ι : Type}

/-- What the next statement of the thread fails with. -/
def Thread.fault (db : Db Row) : Thread Row ε α → Option ε
  | .inside _ (.stmt _ q _) ws _ =>
    match q (db.apply ws) with
    | .error e => some e
    | .ok _ => none
  | _ => none

/-! ## Bodies -/

/-- The failures of the statements of the body, after the writes `ws`, meet `F`. -/
def Tx.Faults (F : Db Row → ε → Prop) : Tx Row ε α → List (Write Row) → Prop
  | .ret _, _ => True
  | .throw _, _ => True
  | .stmt _ q k, ws => ∀ db, (∀ e, q (db.apply ws) = .error e → F db e) ∧
      ∀ b ws', q (db.apply ws) = .ok (b, ws') → (k b).Faults F (ws ++ ws')

namespace Tx.Faults

variable {F : Db Row → ε → Prop} {ws : List (Write Row)}

theorem ret (a : α) : (.ret a : Tx Row ε α).Faults F ws := True.intro

theorem require (p : Prop) [Decidable p] (e : ε) : (.require p e : Tx Row ε Unit).Faults F ws := by
  unfold Tx.require
  split <;> exact True.intro

theorem ofExcept (r : Except ε α) : (.ofExcept r : Tx Row ε α).Faults F ws := by
  cases r <;> exact True.intro

theorem update (f : Db Row → α × List (Write Row)) : (.update f : Tx Row ε α).Faults F ws := by
  refine fun db => ⟨fun e he => ?_, fun _ _ _ => True.intro⟩
  cases he

theorem read (f : Db Row → α) : (.read f : Tx Row ε α).Faults F ws := by
  refine fun db => ⟨fun e he => ?_, fun _ _ _ => True.intro⟩
  cases he

theorem check {f : Db Row → Except ε α}
    (h : ∀ db e, f (db.apply ws) = .error e → F db e) : (Tx.check f).Faults F ws := by
  refine fun db => ⟨fun e he => h db e ?_, fun _ _ _ => True.intro⟩
  dsimp only at he
  cases hf : f (db.apply ws) with
  | error e' =>
    rw [hf] at he
    cases he
    rfl
  | ok a =>
    rw [hf] at he
    cases he

theorem insertRow {k : Key T} {r : Row k.1} {violation : Db Row → Option ε}
    (h : ∀ db e, violation (db.apply ws) = some e → F db e) :
    (Tx.insertRow k r violation).Faults F ws := by
  refine fun db => ⟨fun e he => h db e ?_, fun _ _ _ => True.intro⟩
  cases hv : violation (db.apply ws) with
  | some e' =>
    simp only [hv] at he
    cases he
    rfl
  | none =>
    simp only [hv] at he
    cases he

theorem updateRow {k : Key T} {guard : Row k.1 → Bool} {f : Row k.1 → Row k.1} :
    (Tx.updateRow k guard f : Tx Row ε Bool).Faults F ws := update _

/-- One body after another, which may rely on what the first can have written. -/
theorem bind_writes {P : Write Row → Prop} {p : Tx Row ε α} {f : α → Tx Row ε β}
    (hp : p.Faults F ws) (hwrites : p.Writes P)
    (hf : ∀ a ws', (∀ w ∈ ws', P w) → (f a).Faults F (ws ++ ws')) : (p.bind f).Faults F ws := by
  induction p generalizing ws with
  | ret a =>
    have h := hf a [] (by simp)
    rwa [List.append_nil] at h
  | throw e => exact True.intro
  | stmt query q k ih =>
    refine fun db => ⟨(hp db).1, fun b ws₁ hq => ?_⟩
    refine ih b ((hp db).2 b ws₁ hq) (hwrites.2 b) fun a ws₂ hws₂ => ?_
    rw [List.append_assoc]
    exact hf a (ws₁ ++ ws₂)
      (List.forall_mem_append.mpr ⟨hwrites.1 _ b ws₁ hq, hws₂⟩)

theorem bind {p : Tx Row ε α} {f : α → Tx Row ε β} (hp : p.Faults F ws)
    (hf : ∀ a ws', (f a).Faults F ws') : (p.bind f).Faults F ws := by
  induction p generalizing ws with
  | ret a => exact hf a ws
  | throw e => exact True.intro
  | stmt query q k ih =>
    exact fun db => ⟨(hp db).1, fun b ws₁ hq => ih b ((hp db).2 b ws₁ hq)⟩

theorem updateExisting {k : Key T} {f : Row k.1 → Row k.1} {missing : ε} :
    (Tx.updateExisting k f missing).Faults F ws := bind updateRow fun _ _ => require _ _

theorem mono {F' : Db Row → ε → Prop} (hF : ∀ db e, F db e → F' db e) {p : Tx Row ε α}
    (h : p.Faults F ws) : p.Faults F' ws := by
  induction p generalizing ws with
  | ret a => exact True.intro
  | throw e => exact True.intro
  | stmt query q k ih =>
    exact fun db => ⟨fun e he => hF db e ((h db).1 e he),
      fun b ws' hq => ih b ((h db).2 b ws' hq)⟩

end Tx.Faults

/-! ## Calls -/

namespace Service

variable {F F' : Db Row → ε → Prop}

/-- The failures of the statements of the call meet `F`. -/
def Faults (F : Db Row → ε → Prop) : Service Row ε α → Prop
  | .ret _ => True
  | .throw _ => True
  | .read q k => ∀ db, (k (q db)).Faults F
  | .tx body k => body.Faults F [] ∧ ∀ r, (k r).Faults F

/-- Those of its first transaction meet `F`, those after it meet `F'`. -/
def FaultsOnce (F F' : Db Row → ε → Prop) : Service Row ε α → Prop
  | .ret _ => True
  | .throw _ => True
  | .read q k => ∀ db, (k (q db)).FaultsOnce F F'
  | .tx body k => body.Faults F [] ∧ ∀ r, (k r).Faults F'

theorem ReadOnly.faults {p : Service Row ε α} (hp : p.ReadOnly) : p.Faults F := by
  induction p with
  | ret a => exact True.intro
  | throw e => exact True.intro
  | read q k ih => exact fun db => ih (q db) (hp (q db))
  | tx body k => exact hp.elim

theorem Faults.bind {p : Service Row ε α} {f : α → Service Row ε β} (hp : p.Faults F)
    (hf : ∀ a, (f a).Faults F) : (p.bind f).Faults F := by
  induction p with
  | ret a => exact hf a
  | throw e => exact True.intro
  | read q k ih => exact fun db => ih (q db) (hp db)
  | tx body k ih => exact ⟨hp.1, fun r => ih r (hp.2 r)⟩

/-- Before its first transaction, a call may read. -/
theorem FaultsOnce.bind {p : Service Row ε α} {f : α → Service Row ε β} (hp : p.ReadOnly)
    (hf : ∀ a, (f a).FaultsOnce F F') : (p.bind f).FaultsOnce F F' := by
  induction p with
  | ret a => exact hf a
  | throw e => exact True.intro
  | read q k ih => exact fun db => ih (q db) (hp (q db))
  | tx body k => exact hp.elim

theorem FaultsOnce.bind_ret {p : Service Row ε α} {f : α → β} (hp : p.FaultsOnce F F') :
    (p.bind fun a => .ret (f a)).FaultsOnce F F' := by
  induction p with
  | ret a => exact True.intro
  | throw e => exact True.intro
  | read q k ih => exact fun db => ih (q db) (hp db)
  | tx body k ih => exact ⟨hp.1, fun r => .bind (hp.2 r) fun _ => True.intro⟩

/-- What a call commits is of the kind of its writes. -/
theorem Writes.guarantees {R : Rely Row} {P : Write Row → Prop} {p : Service Row ε α}
    (h : p.Writes P) :
    ∀ {reads : List (Db Row)}, p.Guarantees R (fun _ _ ws _ => ∀ w ∈ ws, P w) reads := by
  induction p with
  | ret a => exact True.intro
  | throw e => exact True.intro
  | read q k ih => exact fun db _ => ih (q db) (h.after_read _)
  | tx body k ih =>
    refine fun {reads} => ⟨fun seen db _ => ?_, fun r => ih r (h.of_tx.2 r)⟩
    refine .of_writes body h.of_tx.1 fun a seen' ws' db' hws _ _ => ?_
    exact hws

end Service

/-! ## Threads -/

namespace Thread

variable {F F' : Db Row → ε → Prop} {fresh : Prop} {t t' : Thread Row ε α} {db db' : Db Row}

/-- The failures to come meet `F'`, but for those of the first transaction, which meet `F`, when
the thread has not committed yet (`fresh`). -/
def FaultsOnce (F F' : Db Row → ε → Prop) (fresh : Prop) : Thread Row ε α → Prop
  | .outside _ p => p.Faults F' ∨ fresh ∧ p.FaultsOnce F F'
  | .inside _ body ws k => (∀ r, (k r).Faults F') ∧
      (body.Faults F' ws ∨ fresh ∧ body.Faults F ws)

theorem FaultsOnce.fault {e : ε} (h : t.FaultsOnce F F' fresh) (hfault : t.fault db = some e) :
    F' db e ∨ fresh ∧ F db e := by
  cases t with
  | outside seen p => cases hfault
  | inside seen body ws k =>
    cases body with
    | ret b => cases hfault
    | throw e' => cases hfault
    | stmt query q next =>
      rw [Thread.fault] at hfault
      rcases hq : q (db.apply ws) with e' | ⟨b, ws'⟩
      · rw [hq] at hfault
        cases hfault
        exact h.2.imp (fun hbody => (hbody db).1 e hq) fun hbody => ⟨hbody.1, (hbody.2 db).1 e hq⟩
      · rw [hq] at hfault
        cases hfault

theorem FaultsOnce.imp {fresh' : Prop} (hfresh : fresh → fresh') (h : t.FaultsOnce F F' fresh) :
    t.FaultsOnce F F' fresh' := by
  cases t with
  | outside seen p => exact h.imp_right fun h => ⟨hfresh h.1, h.2⟩
  | inside seen body ws k => exact ⟨h.1, h.2.imp_right fun h => ⟨hfresh h.1, h.2⟩⟩

theorem FaultsOnce.rollback (h : t.FaultsOnce F F' fresh) (e : ε) :
    (t.rollback e).FaultsOnce F F' fresh := by
  cases t with
  | outside seen p => exact h
  | inside seen body ws k => exact .inl (h.1 (.error e))

/-- A step that is no commit. -/
theorem FaultsOnce.step {locked : List (Write Row) → Prop} [DecidablePred locked]
    (h : t.FaultsOnce F F' fresh) (hnone : t.committing = none)
    (hstep : t.step db locked = some (db', t')) : t'.FaultsOnce F F' fresh := by
  cases t with
  | outside seen p =>
    cases p with
    | ret a => cases hstep
    | throw e => cases hstep
    | read q k =>
      cases hstep
      rcases h with h | ⟨hfresh, h⟩
      · exact .inl (h db)
      · exact .inr ⟨hfresh, h db⟩
    | tx body k =>
      cases hstep
      rcases h with h | ⟨hfresh, h⟩
      · exact ⟨h.2, .inl h.1⟩
      · exact ⟨h.2, .inr ⟨hfresh, h.1⟩⟩
  | inside seen body ws k =>
    cases body with
    | ret b => cases hnone
    | throw e =>
      cases hstep
      exact .inl (h.1 (.error e))
    | stmt query q next =>
      rw [Thread.step] at hstep
      rcases hq : q (db.apply ws) with e | ⟨b, ws'⟩
      · rw [hq] at hstep
        cases hstep
        exact .inl (h.1 (.error e))
      · rw [hq] at hstep
        by_cases hl : locked ws'
        · simp only [if_pos hl] at hstep
          cases hstep
        · simp only [if_neg hl] at hstep
          cases hstep
          exact ⟨h.1, h.2.imp (fun hbody => (hbody db).2 b ws' hq) fun hbody =>
            ⟨hbody.1, (hbody.2 db).2 b ws' hq⟩⟩

end Thread

/-! ## Runs -/

namespace Machine

variable [Fintype ι] [DecidableEq ι] [UniqueIndexes Row]

/-- A call whose failures are known has no other ones in a run, and those of its first transaction
before its first commit only. -/
theorem Trace.faultsOnce {F F' : Db Row → ε → Prop} {db : Db Row} {calls : ι → Service Row ε α}
    {i : ι} (hcall : (calls i).FaultsOnce F F') {m : Machine ι Row ε α} {reads : ι → List (Db Row)}
    {log : List (Event ι Row)} (h : Trace (Machine.start db calls) reads log m) :
    (m.threads i).FaultsOnce F F' (∀ e ∈ log, e.call ≠ i) := by
  induction h with
  | start => exact .inr ⟨by simp, hcall⟩
  | @step reads log m m' a htrace hstep ih =>
    cases a with
    | abort j e =>
      cases hstep
      rw [events, List.append_nil]
      by_cases hj : i = j
      · subst hj
        rw [advance_self]
        exact ih.rollback e
      · rw [advance_ne m hj]
        exact ih
    | run j =>
      rw [Machine.step, Option.map_eq_some_iff] at hstep
      obtain ⟨⟨db', t'⟩, ht, rfl⟩ := hstep
      rcases Thread.step_cases ht with
        ⟨β, seen, b, ws, k, hi, rfl, rfl⟩ | ⟨hnone, rfl, -, -⟩
      · have hevents : m.events reads (.run j) =
            [⟨j, reads j, seen, m.db, ws, m.held j⟩] := by rw [events, hi]; rfl
        rw [hevents]
        by_cases hj : i = j
        · subst hj
          rw [advance_self]
          rw [hi] at ih
          exact .inl (ih.1 (.ok b))
        · rw [advance_ne m hj]
          refine ih.imp fun hfresh e he => ?_
          rcases List.mem_append.mp he with he | he
          · exact hfresh e he
          · rw [List.mem_singleton.mp he]
            exact fun heq => hj heq.symm
      · have hevents : m.events reads (.run j) = [] := by rw [events, hnone]; rfl
        rw [hevents, List.append_nil]
        by_cases hj : i = j
        · subst hj
          rw [advance_self]
          exact ih.step hnone ht
        · rw [advance_ne m hj]
          exact ih

end Machine

end ReadCommitted
