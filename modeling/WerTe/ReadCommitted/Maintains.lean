import WerTe.ReadCommitted.Frame
import WerTe.ReadCommitted.Sequential

/-!
# Invariants and results

`Maintains I Q` says of a body or a call that is run alone that it keeps the invariant `I` and
that what it returns meets `Q`. The rules follow the program: what a part returns is all that the
next part may assume besides `I`.
-/

namespace ReadCommitted

variable {T : Type} [DecidableEq T] {Row : T → Type} {ε α β : Type} {I : Db Row → Prop}
  {Q : α → Prop}

/-! ## Bodies -/

namespace Tx

/-- From a database that meets `I`, a body that commits leaves one that does, and returns
something that meets `Q`. -/
def Maintains (I : Db Row → Prop) (Q : α → Prop) (p : Tx Row ε α) : Prop :=
  ∀ db, I db → ∀ a db', p.run db = .ok (a, db') → I db' ∧ Q a

namespace Maintains

theorem ret {a : α} (h : Q a) : (.ret a : Tx Row ε α).Maintains I Q := by
  intro db hI b db' hrun
  cases hrun
  exact ⟨hI, h⟩

theorem bind {M : α → Prop} {Q : β → Prop} {p : Tx Row ε α} {f : α → Tx Row ε β}
    (hp : p.Maintains I M) (hf : ∀ a, M a → (f a).Maintains I Q) : (p.bind f).Maintains I Q := by
  intro db hI b db' hrun
  obtain ⟨a, db₁, hfirst, hrest⟩ := run_bind_ok hrun
  obtain ⟨hI₁, ha⟩ := hp db hI a db₁ hfirst
  exact hf a ha db₁ hI₁ b db' hrest

theorem read {q : Db Row → α} (h : ∀ db, I db → Q (q db)) :
    (.read q : Tx Row ε α).Maintains I Q := by
  intro db hI a db' hrun
  cases hrun
  exact ⟨hI, h db hI⟩

theorem check {q : Db Row → Except ε α} (h : ∀ db a, I db → q db = .ok a → Q a) :
    (.check q : Tx Row ε α).Maintains I Q := by
  intro db hI a db' hrun
  obtain ⟨hq, rfl⟩ := run_check_ok hrun
  exact ⟨hI, h _ a hI hq⟩

theorem ofExcept {r : Except ε α} (h : ∀ a, r = .ok a → Q a) :
    (.ofExcept r : Tx Row ε α).Maintains I Q := by
  intro db hI a db' hrun
  obtain ⟨hr, rfl⟩ := run_ofExcept_ok hrun
  exact ⟨hI, h a hr⟩

theorem attempt {q : Db Row → Except ε (α × List (Write Row))}
    (h : ∀ db a ws, I db → q db = .ok (a, ws) → I (db.apply ws) ∧ Q a) :
    (.attempt q : Tx Row ε α).Maintains I Q := by
  intro db hI a db' hrun
  rw [Tx.attempt, Tx.run] at hrun
  rcases hq : q db with e | ⟨b, ws⟩
  · rw [hq] at hrun
    cases hrun
  · rw [hq] at hrun
    cases hrun
    exact h db _ ws hI hq

theorem insertRow {k : Key T} {r : Row k.1} {violation : Db Row → Option ε}
    (h : ∀ db, I db → I (db.put ⟨k.1, k.2, some r⟩)) :
    (.insertRow k r violation : Tx Row ε Unit).Maintains I fun _ => True := by
  intro db hI u db' hrun
  rw [(run_insertRow_ok hrun).2]
  exact ⟨h db hI, True.intro⟩

theorem updateRow {k : Key T} {guard : Row k.1 → Bool} {f : Row k.1 → Row k.1}
    (h : ∀ db r, I db → db.get k = some r → guard r = true → I (db.put ⟨k.1, k.2, some (f r)⟩)) :
    (Tx.updateRow k guard f : Tx Row ε Bool).Maintains I fun _ => True := by
  intro db hI found db' hrun
  rcases run_updateRow hrun with ⟨r, -, hget, hguard, rfl⟩ | ⟨-, rfl, -⟩
  · exact ⟨h db r hI hget hguard, True.intro⟩
  · exact ⟨hI, True.intro⟩

theorem updateExisting {k : Key T} {f : Row k.1 → Row k.1} {missing : ε}
    (h : ∀ db r, I db → db.get k = some r → I (db.put ⟨k.1, k.2, some (f r)⟩)) :
    (.updateExisting k f missing : Tx Row ε Unit).Maintains I fun _ => True := by
  intro db hI u db' hrun
  obtain ⟨r, hget, rfl⟩ := run_updateExisting_ok hrun
  exact ⟨h db r hI hget, True.intro⟩

/-- A body whose writes all keep the invariant. -/
theorem of_writes {P : Write Row → Prop} {p : Tx Row ε α} (hp : p.Writes P)
    (h : ∀ db w, I db → P w → I (db.put w)) : p.Maintains I fun _ => True := by
  intro db hI a db' hrun
  obtain ⟨ws, rfl, hws⟩ := hp.run hrun
  exact ⟨Db.apply_keeps h ws db hI hws, True.intro⟩

end Maintains

end Tx

/-! ## Calls -/

namespace Service

/-- A call that only reads ends where it began. -/
theorem ReadOnly.ends {p : Service Row ε α} (hp : p.ReadOnly) {db : Db Row}
    {Q : Except ε α → Db Row → Prop} (h : ∀ r, Q r db) : p.Ends db Q := by
  induction p with
  | ret a => exact .ret (h _)
  | throw e => exact .throw (h _)
  | read q k ih => exact .get_bind (ih (q db) (hp (q db)))
  | tx body k => exact hp.elim

/-- From a database that meets `I`, the call leaves one that does, and what it returns, if it
does, meets `Q`. -/
def Maintains (I : Db Row → Prop) (Q : α → Prop) (p : Service Row ε α) : Prop :=
  ∀ db, I db → p.Ends db fun r db' => I db' ∧ ∀ a, r = .ok a → Q a

namespace Maintains

theorem ret {a : α} (h : Q a) : (.ret a : Service Row ε α).Maintains I Q := fun db hI =>
  .ret ⟨hI, fun b hb => by cases hb; exact h⟩

theorem throw (e : ε) : (.throw e : Service Row ε α).Maintains I Q := fun db hI =>
  .throw ⟨hI, fun b hb => by cases hb⟩

theorem get {q : Db Row → α} (h : ∀ db, I db → Q (q db)) :
    (.get q : Service Row ε α).Maintains I Q := fun db hI =>
  .get ⟨hI, fun b hb => by cases hb; exact h db hI⟩

theorem ofExcept {r : Except ε α} (h : ∀ a, r = .ok a → Q a) :
    (.ofExcept r : Service Row ε α).Maintains I Q := fun _ hI => .ofExcept ⟨hI, h⟩

theorem orFail {o : Option α} {e : ε} (h : ∀ a, o = some a → Q a) :
    (.orFail o e : Service Row ε α).Maintains I Q := fun _ hI =>
  .orFail (fun a ho => ⟨hI, fun b hb => by cases hb; exact h a ho⟩)
    fun _ => ⟨hI, fun b hb => by cases hb⟩

theorem require {q : Prop} [Decidable q] {e : ε} :
    (.require q e : Service Row ε Unit).Maintains I fun _ => q := fun _ hI =>
  .require (fun hq => ⟨hI, fun _ _ => hq⟩) fun _ => ⟨hI, fun b hb => by cases hb⟩

theorem transaction {body : Tx Row ε α} (h : body.Maintains I Q) :
    (Service.transaction body).Maintains I Q := fun db hI =>
  .transaction (fun a db' hrun => ⟨(h db hI a db' hrun).1,
    fun b hb => by cases hb; exact (h db hI a db' hrun).2⟩) fun _ _ => ⟨hI, fun b hb => by cases hb⟩

/-- A transaction whose outcome the call goes on with. -/
theorem tx {M : β → Prop} {body : Tx Row ε β} {k : Except ε β → Service Row ε α}
    (h : body.Maintains I M) (hok : ∀ b, M b → (k (.ok b)).Maintains I Q)
    (herror : ∀ e, (k (.error e)).Maintains I Q) : (Service.tx body k).Maintains I Q := fun db hI =>
  .tx (fun b db' hrun => hok b (h db hI b db' hrun).2 db' (h db hI b db' hrun).1)
    fun e _ => herror e db hI

theorem bind {M : α → Prop} {Q : β → Prop} {p : Service Row ε α} {f : α → Service Row ε β}
    (hp : p.Maintains I M) (hf : ∀ a, M a → (f a).Maintains I Q) : (p.bind f).Maintains I Q := by
  intro db hI
  refine .bind ((hp db hI).mono fun r db' h => ?_)
  cases r with
  | error e => exact ⟨h.1, fun b hb => by cases hb⟩
  | ok a => exact hf a (h.2 a rfl) db' h.1

/-- A call that only reads, when nothing is said of what it returns. -/
theorem of_readOnly {p : Service Row ε α} (hp : p.ReadOnly) : p.Maintains I fun _ => True :=
  fun _ hI => hp.ends fun _ => ⟨hI, fun _ _ => True.intro⟩

theorem run {p : Service Row ε α} (hp : p.Maintains I Q) {db : Db Row} (h : I db) : I (p.run db).2 :=
  ((hp db h).run).1

end Maintains

-- The rules say what there is to say; unfolded, a call would be run.
attribute [irreducible] Maintains

end Service

end ReadCommitted
