import WerTe.ReadCommitted.RelyGuarantee
import WerTe.ReadCommitted.Sequential

/-!
# A call run alone

What a call guarantees of its commits while it runs beside others it guarantees as well when nothing
runs beside it. So what all these commits keep, the call keeps (`Service.Guarantees.run_keeps`).
-/

namespace ReadCommitted

variable {T : Type} {Row : T → Type} [DecidableEq T] {ε α : Type} {R : Rely Row}

/-- A body that is run alone ends where `Post` holds of all that it has written. -/
theorem Tx.Relies.run {Post : α → Db Row → List (Write Row) → Db Row → Prop} (p : Tx Row ε α) :
    ∀ {seen db db' : Db Row} {ws : List (Write Row)} {a : α}, R.inv db →
      p.Relies R Post seen ws db → p.run (db.apply ws) = .ok (a, db') →
      ∃ seen' ws', db' = db.apply ws' ∧ Post a seen' ws' db := by
  induction p with
  | ret b =>
    rintro seen db db' ws a hinv h ⟨⟩
    exact ⟨seen, ws, rfl, h db (R.refl hinv)⟩
  | throw e =>
    intro seen db db' ws a _ _ hrun
    cases hrun
  | stmt query q k ih =>
    intro seen db db' ws a hinv h hrun
    rw [Tx.run] at hrun
    cases hq : q (db.apply ws) with
    | error e =>
      rw [hq] at hrun
      cases hrun
    | ok result =>
      obtain ⟨b, ws'⟩ := result
      rw [hq] at hrun
      dsimp only at hrun
      rw [← Db.apply_append] at hrun
      exact ih b hinv (h db (R.refl hinv) b ws' hq) hrun

/-- A row that violates no constraint is inserted. -/
theorem Tx.run_insertRow {k : Key T} {r : Row k.1} {violation : Db Row → Option ε} {db : Db Row}
    (h : violation db = none) :
    (Tx.insertRow k r violation).run db = .ok ((), db.put ⟨k.1, k.2, some r⟩) := by
  simp [Tx.insertRow, Tx.attempt, Tx.run, h]

/-- Two guarantees are one of both. -/
theorem Tx.Relies.and {Post Post' : α → Db Row → List (Write Row) → Db Row → Prop}
    (p : Tx Row ε α) : ∀ {seen db : Db Row} {ws : List (Write Row)}, p.Relies R Post seen ws db →
      p.Relies R Post' seen ws db →
      p.Relies R (fun a seen ws db => Post a seen ws db ∧ Post' a seen ws db) seen ws db := by
  induction p with
  | ret a => exact fun h h' db' hrel => ⟨h db' hrel, h' db' hrel⟩
  | throw e => exact fun _ _ => True.intro
  | stmt query q k ih =>
    exact fun h h' db' hrel b ws' hq => ih b (h db' hrel b ws' hq) (h' db' hrel b ws' hq)

theorem Service.Guarantees.and {Q Q' : List (Db Row) → Db Row → List (Write Row) → Db Row → Prop}
    (p : Service Row ε α) : ∀ {reads : List (Db Row)}, p.Guarantees R Q reads →
      p.Guarantees R Q' reads →
      p.Guarantees R (fun reads seen ws db => Q reads seen ws db ∧ Q' reads seen ws db) reads := by
  induction p with
  | ret a => exact fun _ _ => True.intro
  | throw e => exact fun _ _ => True.intro
  | read q k ih => exact fun h h' db hinv => ih (q db) (h db hinv) (h' db hinv)
  | tx body k ih =>
    exact fun h h' => ⟨fun seen db hinv => .and body (h.1 seen db hinv) (h'.1 seen db hinv),
      fun r => ih r (h.2 r) (h'.2 r)⟩

/-- The rule: a call that is run alone keeps what all the commits that it guarantees keep. -/
theorem Service.Guarantees.run_keeps {J : Db Row → Prop}
    {Q : List (Db Row) → Db Row → List (Write Row) → Db Row → Prop}
    (hinv : ∀ db, J db → R.inv db)
    (hkeep : ∀ reads seen ws db, J db → Q reads seen ws db → J (db.apply ws))
    (p : Service Row ε α) : ∀ {reads : List (Db Row)} {db : Db Row}, p.Guarantees R Q reads →
      J db → J (p.run db).2 := by
  induction p with
  | ret a => exact fun _ hJ => hJ
  | throw e => exact fun _ hJ => hJ
  | read q k ih => exact fun {reads db} h hJ => ih (q db) (h db (hinv db hJ)) hJ
  | tx body k ih =>
    intro reads db h hJ
    rw [Service.run]
    cases hrun : body.run db with
    | error e => exact ih (.error e) (h.2 (.error e)) hJ
    | ok result =>
      obtain ⟨b, db'⟩ := result
      have hbody := h.1 db db (hinv db hJ)
      obtain ⟨seen, ws, rfl, hcommit⟩ := Tx.Relies.run body (hinv db hJ) hbody hrun
      exact ih (.ok b) (h.2 (.ok b)) (hkeep reads seen ws db hJ hcommit)

/-- A transaction that is known to commit. -/
theorem Service.Ends.committed {Q : Except ε α → Db Row → Prop} {body : Tx Row ε α}
    {db db' : Db Row} {a : α} (hrun : body.run db = .ok (a, db')) (h : Q (.ok a) db') :
    (Service.transaction body).Ends db Q := by
  refine .transaction (fun a' db'' hrun' => ?_) fun e hrun' => ?_
  · cases hrun.symm.trans hrun'
    exact h
  · cases hrun.symm.trans hrun'

end ReadCommitted
