import WerTe.ReadCommitted.History
import WerTe.ReadCommitted.Rows

/-!
# Two databases side by side

A relation between databases is `Parallel` when doing the same to both keeps it. A call that reads
only what such a relation says is the same respects it, whatever it writes: one rule for each way
of reading and writing.
-/

namespace ReadCommitted

variable {T : Type} [DecidableEq T] {Row : T → Type} {ε α β : Type}

/-- Doing the same to both databases keeps the relation. -/
def Parallel (E : Db Row → Db Row → Prop) : Prop :=
  ∀ db db' w, E db db' → E (db.put w) (db'.put w)

theorem Parallel.apply {E : Db Row → Db Row → Prop} (hE : Parallel E) (ws : List (Write Row)) :
    ∀ {db db' : Db Row}, E db db' → E (db.apply ws) (db'.apply ws) := by
  induction ws with
  | nil => exact fun h => h
  | cons w ws ih => exact fun h => ih (hE _ _ w h)

theorem Parallel.and {E E' : Db Row → Db Row → Prop} (h : Parallel E) (h' : Parallel E') :
    Parallel fun db db' => E db db' ∧ E' db db' :=
  fun db db' w hboth => ⟨h db db' w hboth.1, h' db db' w hboth.2⟩

theorem Parallel.sameOn (tables : T → Prop) :
    Parallel (Db.SameOn tables : Db Row → Db Row → Prop) :=
  fun _ _ w h => h.apply [w]

/-- The same row under a key. -/
theorem Parallel.get (k : Key T) :
    Parallel fun db db' : Db Row => db.get k = db'.get k := by
  intro db db' w h
  by_cases hk : k = w.key
  · subst hk
    rw [Db.get_put_self, Db.get_put_self]
  · rw [Db.get_put_ne _ hk, Db.get_put_ne _ hk, h]

namespace Tx.Respects

variable {E : Db Row → Db Row → Prop}

/-- A statement that does the same on both. -/
theorem stmt (hE : Parallel E) {query : Bool} {q : Db Row → Except ε (β × List (Write Row))}
    {k : β → Tx Row ε α} (hq : ∀ db db', E db db' → q db = q db') (hk : ∀ b, (k b).Respects E) :
    (Tx.stmt query q k).Respects E :=
  ⟨fun db db' h => ⟨hq db db' h, fun _ ws _ => hE.apply ws h⟩, hk⟩

theorem read (hE : Parallel E) {f : Db Row → α} (hf : ∀ db db', E db db' → f db = f db') :
    (Tx.read f : Tx Row ε α).Respects E :=
  stmt hE (fun db db' h => by rw [hf db db' h]) fun b => .ret b

theorem update (hE : Parallel E) {f : Db Row → α × List (Write Row)}
    (hf : ∀ db db', E db db' → f db = f db') : (Tx.update f : Tx Row ε α).Respects E :=
  stmt hE (fun db db' h => by rw [hf db db' h]) fun b => .ret b

theorem orFail (o : Option α) (e : ε) : (Tx.orFail o e : Tx Row ε α).Respects E := by
  cases o with
  | none => exact .throw e
  | some a => exact .ret a

theorem require (q : Prop) [Decidable q] (e : ε) : (Tx.require q e : Tx Row ε Unit).Respects E := by
  unfold Tx.require
  split
  · exact .ret ()
  · exact .throw e

theorem updateRow (hE : Parallel E) {k : Key T} {guard : Row k.1 → Bool} {f : Row k.1 → Row k.1}
    (hget : ∀ db db', E db db' → db.get k = db'.get k) :
    (Tx.updateRow k guard f : Tx Row ε Bool).Respects E :=
  update hE fun db db' h => by rw [hget db db' h]

theorem updateExisting (hE : Parallel E) {k : Key T} {f : Row k.1 → Row k.1} {missing : ε}
    (hget : ∀ db db', E db db' → db.get k = db'.get k) :
    (Tx.updateExisting k f missing).Respects E :=
  .bind (updateRow hE hget) fun _ => require _ _

end Tx.Respects

/-- A call whose failure is caught. -/
theorem Service.Respects.attempt {E : Db Row → Db Row → Prop} {p : Service Row ε α}
    (h : p.Respects E) : p.attempt.Respects E := by
  induction p with
  | ret a => exact .ret _
  | throw e => exact .ret _
  | read q k ih => exact ⟨h.1, fun b => ih b (h.2 b)⟩
  | tx body k ih => exact ⟨h.1, fun r => ih r (h.2 r)⟩

end ReadCommitted
