import Mathlib.Logic.Relation
import WerTe.ReadCommitted.Machine

/-!
# Calls run one after the other

* `Service.Ends` — what a call run alone returns and leaves behind, with one rule for
  each way a call is built.
* `Runs` — the states reached by operations run one after the other, and the rule for
  their invariants.
-/

namespace ReadCommitted

/-! ## What a call leaves behind -/

namespace Service

variable {T : Type} {Row : T → Type} [DecidableEq T] {ε α β : Type}

/-- Run alone on `db`, the call ends with `Q` of its outcome and of the database it leaves. -/
def Ends (p : Service Row ε α) (db : Db Row) (Q : Except ε α → Db Row → Prop) : Prop :=
  Q (p.run db).1 (p.run db).2

namespace Ends

variable {db : Db Row} {Q Q' : Except ε α → Db Row → Prop}

theorem mono {p : Service Row ε α} (h : p.Ends db Q) (hQ : ∀ r db', Q r db' → Q' r db') :
    p.Ends db Q' := hQ _ _ h

theorem ret {a : α} (h : Q (.ok a) db) : (.ret a : Service Row ε α).Ends db Q := h

theorem throw {e : ε} (h : Q (.error e) db) : (.throw e : Service Row ε α).Ends db Q := h

theorem get {q : Db Row → α} (h : Q (.ok (q db)) db) : (.get q : Service Row ε α).Ends db Q := h

theorem ofExcept {r : Except ε α} (h : Q r db) : (.ofExcept r : Service Row ε α).Ends db Q := by
  cases r <;> exact h

theorem orFail {o : Option α} {e : ε} (hsome : ∀ a, o = some a → Q (.ok a) db)
    (hnone : o = none → Q (.error e) db) : (.orFail o e : Service Row ε α).Ends db Q := by
  cases o with
  | some a => exact hsome a rfl
  | none => exact hnone rfl

theorem require {q : Prop} [Decidable q] {e : ε} {Q : Except ε Unit → Db Row → Prop}
    (hok : q → Q (.ok ()) db) (hfail : ¬ q → Q (.error e) db) :
    (.require q e : Service Row ε Unit).Ends db Q := by
  unfold Service.require
  by_cases hq : q
  · rw [if_pos hq]
    exact hok hq
  · rw [if_neg hq]
    exact hfail hq

/-- A transaction commits what its body leaves, or leaves everything as it was. -/
theorem transaction {body : Tx Row ε α}
    (hcommit : ∀ a db', body.run db = .ok (a, db') → Q (.ok a) db')
    (hrollback : ∀ e, body.run db = .error e → Q (.error e) db) :
    (Service.transaction body).Ends db Q := by
  unfold Ends Service.transaction
  simp only [run]
  rcases hbody : body.run db with e | ⟨a, db'⟩
  · exact hrollback e hbody
  · exact hcommit a db' hbody

/-- A call and what comes after it. -/
theorem bind {p : Service Row ε β} {f : β → Service Row ε α}
    (h : p.Ends db fun r db' => match r with
      | .ok b => (f b).Ends db' Q
      | .error e => Q (.error e) db') : (p.bind f).Ends db Q := by
  unfold Ends at h ⊢
  rw [run_bind]
  rcases hrun : p.run db with ⟨e | b, db'⟩
  · rw [hrun] at h
    exact h
  · rw [hrun] at h
    exact h

/-- A call whose result is not looked at. -/
theorem discard {P : Db Row → Prop} {p : Service Row ε β} {a : α}
    (h : p.Ends db fun _ db' => P db') : (p.bind fun _ => .ret a).Ends db fun _ db' => P db' := by
  refine bind (h.mono fun r db' hdb' => ?_)
  cases r with
  | error e => exact hdb'
  | ok b => exact ret hdb'

theorem get_bind {q : Db Row → β} {f : β → Service Row ε α} (h : (f (q db)).Ends db Q) :
    ((Service.get q).bind f).Ends db Q := bind (get h)

theorem orFail_bind {o : Option β} {e : ε} {f : β → Service Row ε α}
    (hsome : ∀ b, o = some b → (f b).Ends db Q) (hnone : o = none → Q (.error e) db) :
    ((Service.orFail o e).bind f).Ends db Q := bind (orFail hsome hnone)

theorem require_bind {q : Prop} [Decidable q] {e : ε} {f : Unit → Service Row ε α}
    (hok : q → (f ()).Ends db Q) (hfail : ¬ q → Q (.error e) db) :
    ((Service.require q e).bind f).Ends db Q := bind (require hok hfail)

/-- A transaction whose outcome the call goes on with. -/
theorem tx {body : Tx Row ε β} {k : Except ε β → Service Row ε α}
    (hcommit : ∀ b db', body.run db = .ok (b, db') → (k (.ok b)).Ends db' Q)
    (hrollback : ∀ e, body.run db = .error e → (k (.error e)).Ends db Q) :
    (Service.tx body k).Ends db Q := by
  unfold Ends at hcommit hrollback ⊢
  simp only [Service.run]
  rcases hbody : body.run db with e | ⟨b, db'⟩
  · exact hrollback e hbody
  · exact hcommit b db' hbody

theorem transaction_bind {body : Tx Row ε β} {f : β → Service Row ε α}
    (hcommit : ∀ b db', body.run db = .ok (b, db') → (f b).Ends db' Q)
    (hrollback : ∀ e, body.run db = .error e → Q (.error e) db) :
    ((Service.transaction body).bind f).Ends db Q := bind (transaction hcommit hrollback)

/-- A call whose end is reached by steps of a relation, and what comes after it. -/
theorem bind_steps {R : Db Row → Db Row → Prop} {p : Service Row ε β} {f : β → Service Row ε α}
    (h : p.Ends db fun r db₁ => Relation.ReflTransGen R db db₁ ∧ ∀ b, r = .ok b →
      (f b).Ends db₁ fun _ db' => Relation.ReflTransGen R db₁ db') :
    (p.bind f).Ends db fun _ db' => Relation.ReflTransGen R db db' := by
  refine bind (h.mono fun r db₁ hr => ?_)
  cases r with
  | error e => exact hr.1
  | ok b => exact (hr.2 b rfl).mono fun _ _ hsteps => hr.1.trans hsteps

/-- The steps of a transaction come first. -/
theorem steps_trans {R : Db Row → Db Row → Prop} {p : Service Row ε α} {db₁ : Db Row}
    (hfirst : Relation.ReflTransGen R db db₁)
    (h : p.Ends db₁ fun _ db' => Relation.ReflTransGen R db₁ db') :
    p.Ends db₁ fun _ db' => Relation.ReflTransGen R db db' :=
  h.mono fun _ _ hsteps => hfirst.trans hsteps

/-- What is known of a run. -/
theorem of_run {p : Service Row ε α} {r : Except ε α} {db' : Db Row} (hrun : p.run db = (r, db'))
    (h : Q r db') : p.Ends db Q := by
  unfold Ends
  rw [hrun]
  exact h

/-- What has been shown of the end of a run. -/
theorem run {p : Service Row ε α} (h : p.Ends db Q) : Q (p.run db).1 (p.run db).2 := h

end Ends

-- As with the other predicates on calls: use the rules, do not unfold.
attribute [irreducible] Ends

end Service

/-! ## Runs -/

/-- The states reached from `s₀` by operations run one after the other, each of which
met `ok` in the state it was run in. -/
inductive Runs {κ σ : Type*} (run : κ → σ → σ) (ok : κ → σ → Prop) (s₀ : σ) : σ → Prop
  /-- no operation -/
  | start : Runs run ok s₀ s₀
  /-- one more operation -/
  | step {s : σ} (c : κ) : Runs run ok s₀ s → ok c s → Runs run ok s₀ (run c s)

/-- The state after a list of operations. -/
def runAll {κ σ : Type*} (run : κ → σ → σ) : List κ → σ → σ
  | [], s => s
  | c :: cs, s => runAll run cs (run c s)

theorem runAll_append {κ σ : Type*} (run : κ → σ → σ) (cs cs' : List κ) :
    ∀ s : σ, runAll run (cs ++ cs') s = runAll run cs' (runAll run cs s) := by
  induction cs with
  | nil => exact fun _ => rfl
  | cons c cs ih => exact fun s => ih (run c s)

/-- Each of a list of operations meets `ok` in the state it is run in. -/
def MeetAll {κ σ : Type*} (run : κ → σ → σ) (ok : κ → σ → Prop) : List κ → σ → Prop
  | [], _ => True
  | c :: cs, s => ok c s ∧ MeetAll run ok cs (run c s)

theorem Runs.all {κ σ : Type*} {run : κ → σ → σ} {ok : κ → σ → Prop} {s₀ : σ} (cs : List κ) :
    ∀ {s : σ}, Runs run ok s₀ s → MeetAll run ok cs s → Runs run ok s₀ (runAll run cs s) := by
  induction cs with
  | nil => exact fun h _ => h
  | cons c cs ih => exact fun h hok => ih (h.step c hok.1) hok.2

/-- What every operation keeps holds after every run. -/
theorem Runs.inv {κ σ : Type*} {run : κ → σ → σ} {ok : κ → σ → Prop} {s₀ s : σ} {I : σ → Prop}
    (hstart : I s₀) (hstep : ∀ c s, I s → ok c s → I (run c s)) (h : Runs run ok s₀ s) : I s := by
  induction h with
  | start => exact hstart
  | step c _ hok ih => exact hstep c _ ih hok

/-- Every state that a list of operations goes through meets `P`. -/
def Always {κ σ : Type*} (run : κ → σ → σ) (P : σ → Prop) : List κ → σ → Prop
  | [], s => P s
  | c :: cs, s => P s ∧ Always run P cs (run c s)

theorem Always.mono {κ σ : Type*} {run : κ → σ → σ} {P P' : σ → Prop} (h : ∀ s, P s → P' s)
    (cs : List κ) : ∀ {s : σ}, Always run P cs s → Always run P' cs s := by
  induction cs with
  | nil => exact h _
  | cons c cs ih => exact fun hP => ⟨h _ hP.1, ih hP.2⟩

/-- What every operation keeps holds in all the states of a run. -/
theorem always_of_inv {κ σ : Type*} {run : κ → σ → σ} {J : σ → Prop}
    (hkeep : ∀ c s, J s → J (run c s)) (cs : List κ) : ∀ {s : σ}, J s → Always run J cs s := by
  induction cs with
  | nil => exact fun h => h
  | cons c cs ih => exact fun h => ⟨h, ih (hkeep c _ h)⟩

/-- What holds of each operation in the states that meet an invariant. -/
theorem MeetAll.of_inv {κ σ : Type*} {run : κ → σ → σ} {J : σ → Prop} {dom ok P : κ → σ → Prop}
    (hkeep : ∀ c s, J s → dom c s → ok c s → J (run c s))
    (hmeet : ∀ c s, J s → dom c s → P c s) (cs : List κ) :
    ∀ {s : σ}, J s → MeetAll run dom cs s → MeetAll run ok cs s → MeetAll run P cs s := by
  induction cs with
  | nil => exact fun _ _ _ => True.intro
  | cons c cs ih =>
    exact fun hJ hdom hok => ⟨hmeet c _ hJ hdom.1, ih (hkeep c _ hJ hdom.1 hok.1) hdom.2 hok.2⟩

theorem MeetAll.of_forall {κ σ : Type*} {run : κ → σ → σ} {ok : κ → σ → Prop}
    (h : ∀ c s, ok c s) (cs : List κ) : ∀ s : σ, MeetAll run ok cs s := by
  induction cs with
  | nil => exact fun _ => True.intro
  | cons c cs ih => exact fun s => ⟨h c s, ih (run c s)⟩

theorem MeetAll.mono {κ σ : Type*} {run : κ → σ → σ} {ok ok' : κ → σ → Prop}
    (h : ∀ c s, ok c s → ok' c s) (cs : List κ) :
    ∀ {s : σ}, MeetAll run ok cs s → MeetAll run ok' cs s := by
  induction cs with
  | nil => exact fun _ => True.intro
  | cons c cs ih => exact fun hok => ⟨h c _ hok.1, ih hok.2⟩

/-- A run in two parts. -/
theorem meetAll_append {κ σ : Type*} {run : κ → σ → σ} {ok : κ → σ → Prop} (cs cs' : List κ) :
    ∀ {s : σ}, MeetAll run ok (cs ++ cs') s ↔
      MeetAll run ok cs s ∧ MeetAll run ok cs' (runAll run cs s) := by
  induction cs with
  | nil => exact ⟨fun h => ⟨True.intro, h⟩, fun h => h.2⟩
  | cons c cs ih => exact fun {s} => (and_congr_right fun _ => ih).trans (and_assoc).symm

/-- What is known of each of the operations. -/
theorem MeetAll.of_mem {κ σ : Type*} {run : κ → σ → σ} {ok : κ → σ → Prop} (cs : List κ) :
    ∀ s : σ, (∀ c ∈ cs, ∀ s, ok c s) → MeetAll run ok cs s := by
  induction cs with
  | nil => exact fun _ _ => True.intro
  | cons c cs ih =>
    exact fun s h => ⟨h c List.mem_cons_self s,
      ih _ fun c' hc' => h c' (List.mem_cons_of_mem _ hc')⟩

/-- Two conditions that agree in the states that meet an invariant. -/
theorem meetAll_congr {κ σ : Type*} {run : κ → σ → σ} {J : σ → Prop} {ok ok' : κ → σ → Prop}
    (hkeep : ∀ c s, J s → J (run c s)) (hiff : ∀ c s, J s → (ok c s ↔ ok' c s)) (cs : List κ) :
    ∀ {s : σ}, J s → (MeetAll run ok cs s ↔ MeetAll run ok' cs s) := by
  induction cs with
  | nil => exact fun _ => Iff.rfl
  | cons c cs ih => exact fun hJ => and_congr (hiff c _ hJ) (ih (hkeep c _ hJ))

/-- If operations that meet `dom` keep `J`, and each keeps `P` besides when it meets `ok`, then
all the states of a run meet `P` when all of its operations meet `ok`. -/
theorem always_of_meetAll {κ σ : Type*} {run : κ → σ → σ} {J P : σ → Prop} {dom ok : κ → σ → Prop}
    (hkeep : ∀ c s, J s → dom c s → J (run c s))
    (hstep : ∀ c s, J s → dom c s → P s → ok c s → P (run c s)) (cs : List κ) :
    ∀ {s : σ}, J s → P s → MeetAll run dom cs s → MeetAll run ok cs s → Always run P cs s := by
  induction cs with
  | nil => exact fun _ hP _ _ => hP
  | cons c cs ih =>
    exact fun hJ hP hdom hok => ⟨hP, ih (hkeep c _ hJ hdom.1) (hstep c _ hJ hdom.1 hP hok.1)
      hdom.2 hok.2⟩

/-- If besides each operation breaks `P` when it does not meet `ok`, then the converse holds
as well. -/
theorem always_iff_meetAll {κ σ : Type*} {run : κ → σ → σ} {J P : σ → Prop}
    {dom ok : κ → σ → Prop} (hkeep : ∀ c s, J s → dom c s → J (run c s))
    (hstep : ∀ c s, J s → dom c s → P s → (P (run c s) ↔ ok c s)) (cs : List κ) :
    ∀ {s : σ}, J s → P s → MeetAll run dom cs s →
      (Always run P cs s ↔ MeetAll run ok cs s) := by
  induction cs with
  | nil => exact fun _ hP _ => ⟨fun _ => True.intro, fun _ => hP⟩
  | cons c cs ih =>
    intro s hJ hP hdom
    have hnext : P (run c s) → (Always run P cs (run c s) ↔ MeetAll run ok cs (run c s)) :=
      fun hP' => ih (hkeep c s hJ hdom.1) hP' hdom.2
    have hfirst : Always run P cs (run c s) → P (run c s) := by
      cases cs with
      | nil => exact fun h => h
      | cons c' cs' => exact fun h => h.1
    constructor
    · rintro ⟨-, hrest⟩
      exact ⟨(hstep c s hJ hdom.1 hP).mp (hfirst hrest), (hnext (hfirst hrest)).mp hrest⟩
    · rintro ⟨hok, hrest⟩
      exact ⟨hP, (hnext ((hstep c s hJ hdom.1 hP).mpr hok)).mpr hrest⟩

/-- The same when nothing is assumed of the operations. -/
theorem always_iff_of_step {κ σ : Type*} {run : κ → σ → σ} {P : σ → Prop} {ok : κ → σ → Prop}
    (hstep : ∀ c s, P s → (P (run c s) ↔ ok c s)) (cs : List κ) {s : σ} (hP : P s) :
    Always run P cs s ↔ MeetAll run ok cs s := by
  exact always_iff_meetAll (J := fun _ => True)
    (fun _ _ _ _ => True.intro) (fun c s _ _ => hstep c s) cs True.intro hP
    (.of_forall (fun _ _ => True.intro) cs s)

theorem Always.start {κ σ : Type*} {run : κ → σ → σ} {P : σ → Prop} {cs : List κ} {s : σ}
    (h : Always run P cs s) : P s := by
  cases cs with
  | nil => exact h
  | cons c cs => exact h.1

/-- If, in the states that meet `P`, an operation meets `F` and keeps `P` just when it meets `ok`,
then this is so of runs as well. -/
theorem meetAll_and_always_iff {κ σ : Type*} {run : κ → σ → σ} {P : σ → Prop}
    {F ok : κ → σ → Prop} (hstep : ∀ c s, P s → ((F c s ∧ P (run c s)) ↔ ok c s)) (cs : List κ) :
    ∀ {s : σ}, P s → ((MeetAll run F cs s ∧ Always run P cs s) ↔ MeetAll run ok cs s) := by
  induction cs with
  | nil => exact fun hP => iff_of_true ⟨True.intro, hP⟩ True.intro
  | cons c cs ih =>
    intro s hP
    constructor
    · rintro ⟨⟨hF, hFs⟩, -, hPs⟩
      exact ⟨(hstep c s hP).mp ⟨hF, hPs.start⟩, (ih hPs.start).mp ⟨hFs, hPs⟩⟩
    · rintro ⟨hok, hoks⟩
      obtain ⟨hF, hP'⟩ := (hstep c s hP).mpr hok
      obtain ⟨hFs, hPs⟩ := (ih hP').mpr hoks
      exact ⟨⟨hF, hFs⟩, hP, hPs⟩

end ReadCommitted
