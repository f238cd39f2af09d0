import WerTe.ReadCommitted.Machine

/-!
# The rule for invariants of the read committed machine

A call is specified by what each of its commits does: `Q seen db db'` relates the
committed database the call last read from, the one it commits to and the result.
`Service.Spec` says that a call's transactions keep such a `Q` whatever commits between
their statements, as long as those commits keep the invariant `I`.

`Machine.Sound` is the invariant of the machine itself: `I` holds of the committed
database, every thread still meets its specification, and no two transactions in flight
have written clashing rows. `Run.sound` carries it along a run.
-/

namespace ReadCommitted

variable {T : Type} [DecidableEq T] {Row : T → Type} {ε α β : Type}

/-! ## Specifications of calls -/

namespace Tx

variable {I : Db Row → Prop}

/-- Committed now, the transaction does what `Q` says. -/
def Assertion.commits (Q : Db Row → Db Row → Db Row → Prop) : Assertion I where
  holds seen ws db := ∀ db', I db' → Db.Agree ws db db' → Q seen db' (db'.apply ws)
  stable _ hag h db' hI' hag' := h db' hI' (hag.trans hag')

/-- To specify a transaction's commit it is enough to have a postcondition that tells
what its writes do. -/
theorem Triple.commits {Q : Db Row → Db Row → Db Row → Prop} {Pre : Assertion I}
    {Post : α → Assertion I} {p : Tx Row ε α} (h : Triple I Pre p Post)
    (hQ : ∀ a seen ws db, I db → (Post a).holds seen ws db → Q seen db (db.apply ws)) :
    Triple I Pre p fun _ => .commits Q :=
  h.conseq (fun _ _ _ _ hpre => hpre) fun a seen ws _ _ hpost db' hI' hag =>
    hQ a seen ws db' hI' ((Post a).stable hI' hag hpost)

/-- A commit said to do less. -/
theorem Triple.commits_imp {Q Q' : Db Row → Db Row → Db Row → Prop} {Pre : Assertion I}
    {p : Tx Row ε α} (h : Triple I Pre p fun _ => .commits Q)
    (hQ : ∀ seen db db', I db → Q seen db db' → Q' seen db db') :
    Triple I Pre p fun _ => .commits Q' :=
  h.conseq (fun _ _ _ _ hpre => hpre) fun _ seen _ _ _ hc db' hI' hag =>
    hQ seen db' _ hI' (hc db' hI' hag)

/-- A commit specified from the point where some writes were done. -/
theorem Assertion.commits_of_after {base : Db Row} {ws₀ : List (Write Row)}
    {Q : Db Row → Db Row → Db Row → Prop} {seen db : Db Row} {ws : List (Write Row)}
    (h : (Assertion.after base ws₀ (.commits Q) : Assertion I).holds seen ws db) :
    (Assertion.commits fun seen db db' =>
      Db.Agree ws₀ base db ∧ Q seen (db.apply ws₀) db' : Assertion I).holds seen ws db := by
  obtain ⟨ws', rfl, hbase, h⟩ := h
  intro db' hI' hag
  rw [Db.apply_append]
  exact ⟨hbase.trans hag.left, h _ ⟨db', hI', rfl⟩ hag.apply⟩

end Tx

namespace Service

/-- Every commit of the call does what `Q` says, when the call has last read from `seen`. -/
def Spec (I : Db Row → Prop) (Q : Db Row → Db Row → Db Row → Prop) :
    Service Row ε α → Db Row → Prop
  | .ret _, _ => True
  | .throw _, _ => True
  | .read q k, _ => ∀ db, I db → Spec I Q (k (q db)) db
  | .tx body k, seen =>
    (∀ db, I db → body.wp I (fun _ => .commits Q) seen [] db) ∧ ∀ r seen', Spec I Q (k r) seen'

variable {I : Db Row → Prop} {Q : Db Row → Db Row → Db Row → Prop}

theorem Spec.bind {f : α → Service Row ε β} (hf : ∀ a seen, Spec I Q (f a) seen)
    (p : Service Row ε α) : ∀ {seen : Db Row}, p.Spec I Q seen → (p.bind f).Spec I Q seen := by
  induction p with
  | ret a => intro seen _; exact hf a seen
  | throw e => intro _ h; exact h
  | read q k ih => intro _ h db hI; exact ih (q db) (h db hI)
  | tx body k ih => intro _ h; exact ⟨h.1, fun r seen' => ih r (h.2 r seen')⟩

/-- A specification that says less. -/
theorem Spec.mono {Q' : Db Row → Db Row → Db Row → Prop}
    (hQ : ∀ seen db db', Q seen db db' → Q' seen db db') (p : Service Row ε α) :
    ∀ {seen : Db Row}, p.Spec I Q seen → p.Spec I Q' seen := by
  induction p with
  | ret a => intro _ h; exact h
  | throw e => intro _ h; exact h
  | read q k ih => intro _ h db hI; exact ih (q db) (h db hI)
  | tx body k ih =>
    intro _ h
    refine ⟨fun db hI => Tx.wp_mono (fun _ _ _ _ _ hc db' hI' hag => ?_) body hI (h.1 db hI),
      fun r seen' => ih r (h.2 r seen')⟩
    exact hQ _ _ _ (hc db' hI' hag)

/-- A call that is one transaction. -/
theorem Spec.transaction {body : Tx Row ε α} {seen : Db Row}
    (h : Tx.Triple I .fresh body fun _ => .commits Q) :
    (Service.transaction body).Spec I Q seen := by
  refine ⟨fun db hI => h seen [] db hI rfl, fun r _ => ?_⟩
  cases r with
  | ok a => exact True.intro
  | error e => exact True.intro

/-- A transaction that relies on what the call has read before it. -/
theorem Spec.transaction_seen {body : Tx Row ε α} {seen : Db Row}
    (h : Tx.Triple I (.and .fresh (.sees (· = seen))) body fun _ => .commits Q) :
    (Service.transaction body).Spec I Q seen := by
  refine ⟨fun db hI => h seen [] db hI ⟨rfl, rfl⟩, fun r _ => ?_⟩
  cases r with
  | ok a => exact True.intro
  | error e => exact True.intro

/-- After a read, what was read is what the database `seen` holds. -/
theorem Spec.get_bind {q : Db Row → α} {f : α → Service Row ε β} {seen : Db Row}
    (hf : ∀ db, I db → (f (q db)).Spec I Q db) : ((Service.get q).bind f).Spec I Q seen := hf

theorem Spec.orFail_bind {o : Option α} {e : ε} {f : α → Service Row ε β} {seen : Db Row}
    (hf : ∀ a, o = some a → (f a).Spec I Q seen) :
    ((Service.orFail o e).bind f).Spec I Q seen := by
  cases o with
  | some a => exact hf a rfl
  | none => exact True.intro

theorem Spec.require_bind {p : Prop} [Decidable p] {e : ε} {f : Unit → Service Row ε β}
    {seen : Db Row} (hf : p → (f ()).Spec I Q seen) :
    ((Service.require p e).bind f).Spec I Q seen := by
  unfold Service.require
  by_cases hp : p
  · rw [if_pos hp]
    exact hf hp
  · rw [if_neg hp]
    exact True.intro

end Service

/-! ## The machine invariant -/

/-- The thread still meets its specification. -/
def Thread.Ok (I : Db Row → Prop) (Q : Db Row → Db Row → Db Row → Prop) (db : Db Row) :
    Thread Row ε α → Prop
  | .outside seen p => p.Spec I Q seen
  | .inside seen body ws k =>
    body.wp I (fun _ => .commits Q) seen ws db ∧ ∀ r seen', (k r).Spec I Q seen'

namespace Thread

variable {I : Db Row → Prop} {Q : Db Row → Db Row → Db Row → Prop}

theorem Ok.rollback {t : Thread Row ε α} {db : Db Row} (e : ε) (h : t.Ok I Q db) :
    (t.rollback e).Ok I Q db := by
  cases t with
  | outside seen p => exact h
  | inside seen body ws k => exact h.2 (.error e) seen

theorem Ok.stable {t : Thread Row ε α} {db db' : Db Row} (hI : I db')
    (hag : Db.Agree t.pending db db') (h : t.Ok I Q db) : t.Ok I Q db' := by
  cases t with
  | outside seen p => exact h
  | inside seen body ws k => exact ⟨Tx.wp_stable body hI hag h.1, h.2⟩

/-- What one step of a thread does: a commit carries out the pending writes, and any
other step leaves the database alone and adds to the pending writes only rows it may. -/
theorem step_cases {t t' : Thread Row ε α} {db db' : Db Row}
    {locked : List (Write Row) → Prop} [DecidablePred locked]
    (h : t.step db locked = some (db', t')) :
    (∃ (β : Type) (seen : Db Row) (b : β) (ws : List (Write Row)) (k : Except ε β → Service Row ε α),
      t = .inside seen (.ret b) ws k ∧ t' = .outside seen (k (.ok b)) ∧ db' = db.apply ws) ∨
    (t.committing = none ∧ db' = db ∧ (t'.pending = [] ∨ ∃ ws, t'.pending = t.pending ++ ws ∧ ¬ locked ws) ∧
      ∀ {I Q}, I db → t.Ok I Q db → t'.Ok I Q db) := by
  cases t with
  | outside seen p =>
    cases p with
    | ret a => cases h
    | throw e => cases h
    | read q k =>
      cases h
      exact .inr ⟨rfl, rfl, .inl rfl, fun hI hok => hok db hI⟩
    | tx body k =>
      cases h
      exact .inr ⟨rfl, rfl, .inl rfl, fun hI hok => ⟨hok.1 db hI, hok.2⟩⟩
  | inside seen body ws k =>
    cases body with
    | ret b =>
      cases h
      exact .inl ⟨_, seen, b, ws, k, rfl, rfl, rfl⟩
    | throw e =>
      cases h
      exact .inr ⟨rfl, rfl, .inl rfl, fun _ hok => hok.2 (.error e) seen⟩
    | stmt query q next =>
      rw [step] at h
      rcases hq : q (db.apply ws) with e | ⟨b, ws'⟩
      · rw [hq] at h
        cases h
        exact .inr ⟨rfl, rfl, .inl rfl, fun _ hok => hok.2 (.error e) seen⟩
      · rw [hq] at h
        by_cases hl : locked ws'
        · simp only [if_pos hl] at h
          cases h
        · simp only [if_neg hl] at h
          cases h
          exact .inr ⟨rfl, rfl, .inr ⟨ws', rfl, hl⟩, fun hI hok =>
            ⟨hok.1 db hI (.refl ws db) b ws' hq, hok.2⟩⟩

end Thread

namespace Machine

variable {ι : Type} [UniqueIndexes Row] {I : Db Row → Prop}
  {Q : ι → Db Row → Db Row → Db Row → Prop}

/-- The invariant of the machine. -/
structure Sound (I : Db Row → Prop) (Q : ι → Db Row → Db Row → Db Row → Prop)
    (m : Machine ι Row ε α) : Prop where
  /-- the committed database meets the invariant -/
  inv : I m.db
  /-- every thread meets its specification -/
  ok : ∀ i, (m.threads i).Ok I (Q i) m.db
  /-- no two transactions in flight have written clashing rows -/
  apart : ∀ i j, i ≠ j → ∀ w ∈ (m.threads i).pending, ∀ w' ∈ (m.threads j).pending,
    w.clash w' = false

theorem Sound.start {db : Db Row} {calls : ι → Service Row ε α} (hI : I db)
    (hspec : ∀ i, (calls i).Spec I (Q i) db) : Sound I Q (start db calls) :=
  ⟨hI, hspec, fun _ _ _ _ hw => nomatch hw⟩

/-- Pending writes of two threads lie on different rows. -/
theorem Sound.agree {m : Machine ι Row ε α} (h : Sound I Q m) {i j : ι} (hij : i ≠ j)
    (db : Db Row) : Db.Agree (m.threads i).pending db (db.apply (m.threads j).pending) := by
  refine Db.agree_apply db fun k hk hk' => ?_
  obtain ⟨w, hw, rfl⟩ := List.mem_map.mp hk
  obtain ⟨w', hw', hkey⟩ := List.mem_map.mp hk'
  have hclash := Write.clash_of_key_eq hkey.symm
  rw [h.apart i j hij w hw w' hw'] at hclash
  cases hclash

/-- What a sound machine's commit does: what the call's specification says. -/
theorem Sound.commits {m : Machine ι Row ε α} (h : Sound I Q m) {i : ι} {seen : Db Row}
    {ws : List (Write Row)} (hc : m.Commits i seen ws) : Q i seen m.db (m.db.apply ws) := by
  obtain ⟨β, b, k, ht⟩ := hc
  have hok := h.ok i
  rw [ht] at hok
  exact hok.1 m.db h.inv (.refl ws m.db)

variable [DecidableEq ι]

/-- One thread and the database replaced: what has to be checked. -/
theorem Sound.replace {m : Machine ι Row ε α} (h : Sound I Q m) {i : ι} {db : Db Row}
    {t : Thread Row ε α} (hI : I db) (hok : t.Ok I (Q i) db)
    (hrest : ∀ j, j ≠ i → (m.threads j).Ok I (Q j) db)
    (hapart : ∀ j, j ≠ i → ∀ w ∈ t.pending, ∀ w' ∈ (m.threads j).pending, w.clash w' = false) :
    Sound I Q (m.advance i db t) := by
  refine ⟨hI, fun j => ?_, fun j j' hjj' => ?_⟩
  · by_cases hj : j = i
    · subst hj
      rw [advance_self]
      exact hok
    · rw [advance_ne m hj]
      exact hrest j hj
  · by_cases hj : j = i
    · subst hj
      rw [advance_self, advance_ne m hjj'.symm]
      exact hapart j' hjj'.symm
    · rw [advance_ne m hj]
      by_cases hj' : j' = i
      · subst hj'
        rw [advance_self]
        intro w hw w' hw'
        rw [Write.clash_comm]
        exact hapart j hj w' hw' w hw
      · rw [advance_ne m hj']
        exact h.apart j j' hjj'

/-- A thread steps and the database stays as it is. -/
theorem Sound.update {m : Machine ι Row ε α} (h : Sound I Q m) {i : ι} {t : Thread Row ε α}
    (hok : t.Ok I (Q i) m.db)
    (hpending : t.pending = [] ∨ ∃ ws, t.pending = (m.threads i).pending ++ ws ∧ ¬ m.Locked i ws) :
    Sound I Q (m.advance i m.db t) := by
  refine h.replace h.inv hok (fun j _ => h.ok j) fun j hj w hw w' hw' => ?_
  rcases hpending with hnil | ⟨ws, happ, hlock⟩
  · rw [hnil] at hw; cases hw
  · rw [happ, List.mem_append] at hw
    rcases hw with hw | hw
    · exact h.apart i j hj.symm w hw w' hw'
    · by_contra hclash
      exact hlock ⟨j, hj, w, hw, w', hw', eq_true_of_ne_false hclash⟩

/-- A commit that keeps the invariant of the database keeps that of the machine. -/
theorem Sound.commit {m : Machine ι Row ε α} (h : Sound I Q m) {i : ι}
    {t : Thread Row ε α} (hI : I (m.db.apply (m.threads i).pending))
    (hok : t.Ok I (Q i) (m.db.apply (m.threads i).pending)) (hpending : t.pending = []) :
    Sound I Q (m.advance i (m.db.apply (m.threads i).pending) t) := by
  refine h.replace hI hok (fun j hj => (h.ok j).stable hI (h.agree hj m.db)) fun j _ w hw => ?_
  rw [hpending] at hw
  cases hw

variable [Fintype ι]

/-- One step of the machine. If every commit that meets `ok` keeps the invariant `I` of the
database, and `J` of the commits so far and the database, then so does every step. -/
theorem Sound.step {ok : Commit ι Row → Prop} {J : List (Commit ι Row) → Db Row → Prop}
    (hkeep : ∀ log c db', I c.db → J log c.db → ok c → Q c.call c.seen c.db db' →
      I db' ∧ J (log ++ [c]) db')
    {m m' : Machine ι Row ε α} {a : Action ι ε} {log : List (Commit ι Row)} (h : Sound I Q m)
    (hJ : J log m.db) (hok : ∀ c ∈ m.commits a, ok c) (hstep : m.step a = some m') :
    Sound I Q m' ∧ J (log ++ m.commits a) m'.db := by
  cases a with
  | abort i e =>
    cases hstep
    refine ⟨h.update ((h.ok i).rollback e) (.inl ?_), ?_⟩
    · cases m.threads i <;> rfl
    · rwa [Machine.commits, List.append_nil]
  | run i =>
    rw [Machine.step, Option.map_eq_some_iff] at hstep
    obtain ⟨⟨db', t'⟩, ht, rfl⟩ := hstep
    rcases Thread.step_cases ht with
      ⟨β, seen, b, ws, k, hi, rfl, rfl⟩ | ⟨hnone, rfl, hpending, hok'⟩
    · have hcommits : m.commits (.run i) = [⟨i, seen, m.db⟩] := by rw [Machine.commits, hi]; rfl
      have hpend : (m.threads i).pending = ws := by rw [hi]; rfl
      have hthread := h.ok i
      rw [hi] at hthread
      rw [hcommits] at hok ⊢
      obtain ⟨hI, hJ'⟩ := hkeep log ⟨i, seen, m.db⟩ _ h.inv hJ (hok _ (List.mem_singleton_self _))
        (h.commits ⟨β, b, k, hi⟩)
      refine ⟨?_, hJ'⟩
      change I (m.db.apply ws) at hI
      rw [← hpend] at hI ⊢
      exact h.commit hI (hthread.2 (.ok b) seen) rfl
    · have hcommits : m.commits (.run i) = [] := by rw [Machine.commits, hnone]; rfl
      refine ⟨h.update (hok' h.inv (h.ok i)) hpending, ?_⟩
      rwa [hcommits, List.append_nil]

/-- The invariant rule: along a run whose commits meet `ok`, the machine stays sound, and
`J` holds of the commits so far and the database. -/
theorem Run.sound {ok : Commit ι Row → Prop} {J : List (Commit ι Row) → Db Row → Prop}
    (hkeep : ∀ log c db', I c.db → J log c.db → ok c → Q c.call c.seen c.db db' →
      I db' ∧ J (log ++ [c]) db')
    {m₀ m : Machine ι Row ε α} {log : List (Commit ι Row)} (h₀ : Sound I Q m₀) (hJ₀ : J [] m₀.db)
    (hrun : Run m₀ log m) : (∀ c ∈ log, ok c) → Sound I Q m ∧ J log m.db := by
  induction hrun with
  | start => exact fun _ => ⟨h₀, hJ₀⟩
  | step a _ hstep ih =>
    intro hok
    obtain ⟨hsound, hJ⟩ := ih fun c hc => hok c (List.mem_append_left _ hc)
    exact hsound.step hkeep hJ (fun c hc => hok c (List.mem_append_right _ hc)) hstep

/-- The rule for an invariant that every commit keeps. -/
theorem Reachable.sound (hkeep : ∀ i seen db db', I db → Q i seen db db' → I db')
    {m₀ m : Machine ι Row ε α} (h₀ : Sound I Q m₀) (hrun : Reachable m₀ m) : Sound I Q m := by
  obtain ⟨log, hrun⟩ := hrun
  have hkeep' : ∀ (log : List (Commit ι Row)) (c : Commit ι Row) (db' : Db Row), I c.db → True →
      True → Q c.call c.seen c.db db' → I db' ∧ True :=
    fun _ c db' hI _ _ hQ => ⟨hkeep c.call c.seen c.db db' hI hQ, True.intro⟩
  exact (hrun.sound (J := fun _ _ => True) hkeep' h₀ True.intro fun _ _ => True.intro).1

/-- The step a commit takes. -/
theorem step_commits {m m' : Machine ι Row ε α} {i : ι} {seen : Db Row} {ws : List (Write Row)}
    (hc : m.Commits i seen ws) (hstep : m.step (.run i) = some m') : m'.db = m.db.apply ws := by
  obtain ⟨β, b, k, ht⟩ := hc
  rw [step, ht] at hstep
  cases hstep
  rfl

end Machine

end ReadCommitted
