import WerTe.ReadCommitted.Flags
import WerTe.ReadCommitted.Rows

/-!
# Row by row, statement by statement

More rules for `Tx.KeepsRows`, one for each kind of statement. Most statements change a row that
met the invariant before, and need no more than that the change keeps it (`updateExisting`,
`updateAll`). What a check reads meets the invariant too (`check_view_bind`), so that its result
may be relied on when a row is written.
-/

namespace ReadCommitted

variable {T : Type} [DecidableEq T] {Row : T → Type} {ε α β : Type}
  {P : (k : Key T) → Option (Row k.1) → Prop}

namespace Tx.KeepsRows

/-- After a check that has passed on rows that meet `P`, its result may be relied on. -/
theorem check_view_bind {q : Db Row → Except ε α} {f : α → Tx Row ε β}
    (hf : ∀ db a, Rowwise P db → q db = .ok a → KeepsRows (Rowwise P) P (f a)) :
    KeepsRows (Rowwise P) P ((Tx.check q).bind f) :=
  Triple.seq (fun a => .given (∃ db, Rowwise P db ∧ q db = .ok a) (.rows P))
    (Triple.check fun _ ws db _ hI h hq => ⟨⟨db.apply ws, hI.apply h, hq⟩, h⟩)
    fun a => Triple.given fun ⟨db, hview, hq⟩ => hf db a hview hq

theorem check {I : Db Row → Prop} (q : Db Row → Except ε α) : KeepsRows I P (Tx.check q) :=
  Triple.check fun _ _ _ _ _ h _ => h

/-- A row that meets `P` is inserted. -/
theorem insertRow {I : Db Row → Prop} {k : Key T} {r : Row k.1} {violation : Db Row → Option ε}
    (hrow : P k (some r)) : KeepsRows I P (Tx.insertRow k r violation) := by
  refine Triple.attempt fun _ ws db _ ws' _ hrows hinsert => ?_
  cases hviolation : violation (db.apply ws) with
  | some e =>
    rw [hviolation] at hinsert
    cases hinsert
  | none =>
    rw [hviolation] at hinsert
    cases hinsert
    exact rows_snoc hrows hrow

/-- The row under a key is changed so that it meets `P` if it did before. -/
theorem updateExisting {k : Key T} {f : Row k.1 → Row k.1} {missing : ε}
    (hf : ∀ r, P k (some r) → P k (some (f r))) :
    KeepsRows (Rowwise P) P (Tx.updateExisting k f missing) :=
  Triple.updateExisting fun _ _ _ r hI hrows hget => rows_snoc hrows (hf r (hI.view hrows hget))

/-- So are all rows of a kind. -/
theorem updateAll {t : T} {p : Row t → Bool} {f : Row t → Row t}
    (hf : ∀ i r, p r = true → P (t, i) (some r) → P (t, i) (some (f r))) :
    KeepsRows (Rowwise P) P (Tx.updateAll t p f : Tx Row ε Unit) := by
  refine Triple.update fun _ ws db hI hrows k hk => ?_
  rw [Db.apply_append]
  have hview : Rowwise P (db.apply ws) := hI.apply hrows
  obtain ⟨t', i⟩ := k
  by_cases ht : t' = t
  · subst ht
    have hrow := hview (t', i)
    rw [Db.get_apply_updates]
    cases hget : (db.apply ws).get (t', i) with
    | none => rwa [hget] at hrow
    | some r =>
      rw [hget] at hrow
      rw [Option.map_some]
      by_cases hp : p r = true
      · rw [if_pos hp]
        exact hf i r hp hrow
      · rwa [if_neg hp]
  · rw [Db.get_apply_updates_ne ht]
    exact hview (t', i)

end Tx.KeepsRows

/-- After a condition that a call has checked, it may be relied on. -/
theorem Service.KeepsRows.require_bind {q : Prop} [Decidable q] {e : ε} {f : Unit → Service Row ε β}
    (hf : q → Service.KeepsRows P (f ())) :
    Service.KeepsRows P ((Service.require q e).bind f) := by
  unfold Service.require
  split
  · exact hf ‹q›
  · exact ofExcept (.error e)

end ReadCommitted
