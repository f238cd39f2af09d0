import WerTe.ReadCommitted.Frame

/-!
# A call among others

`Among R p db r db'`: the call `p` starts in `db` and ends with `r` in `db'`, while after each of
its reads and transactions the others change the database as `R` allows. What the others may do is
left to `R`; a call that runs alone is one among others that leave the database as it is.
-/

namespace ReadCommitted.Service

variable {T : Type} [DecidableEq T] {Row : T → Type} {ε α β : Type}
  {R R' : Db Row → Db Row → Prop} {db db' : Db Row}

/-- The call ends with `r` in `db'`, with changes by `R` in between. -/
def Among (R : Db Row → Db Row → Prop) :
    Service Row ε α → Db Row → Except ε α → Db Row → Prop
  | .ret a, db, r, db' => r = .ok a ∧ db' = db
  | .throw e, db, r, db' => r = .error e ∧ db' = db
  | .read q k, db, r, db' => ∃ db₁, R db db₁ ∧ (k (q db)).Among R db₁ r db'
  | .tx body k, db, r, db' =>
    match body.run db with
    | .ok (b, db₁) => ∃ db₂, R db₁ db₂ ∧ (k (.ok b)).Among R db₂ r db'
    | .error e => ∃ db₁, R db db₁ ∧ (k (.error e)).Among R db₁ r db'

theorem among_get_bind {q : Db Row → β} {f : β → Service Row ε α} {r : Except ε α} :
    (Service.bind (.get q) f).Among R db r db' ↔ ∃ db₁, R db db₁ ∧ (f (q db)).Among R db₁ r db' :=
  Iff.rfl

theorem among_bind {p : Service Row ε α} {f : α → Service Row ε β} {r : Except ε β} :
    (p.bind f).Among R db r db' ↔
      (∃ a db₁, p.Among R db (.ok a) db₁ ∧ (f a).Among R db₁ r db') ∨
      ∃ e, r = .error e ∧ p.Among R db (.error e) db' := by
  induction p generalizing db with
  | ret a => simp [Service.bind, Among]
  | throw e =>
    simp only [Service.bind, Among]
    constructor
    · rintro ⟨rfl, rfl⟩
      exact .inr ⟨e, rfl, rfl, rfl⟩
    · rintro (⟨a, db₁, ⟨h, -⟩, -⟩ | ⟨e', rfl, h, rfl⟩)
      · cases h
      · cases h
        exact ⟨rfl, rfl⟩
  | read q k ih =>
    simp only [Service.bind, Among, ih]
    constructor
    · rintro ⟨db₁, hR, ⟨a, db₂, hp, hf⟩ | ⟨e, rfl, hp⟩⟩
      · exact .inl ⟨a, db₂, ⟨db₁, hR, hp⟩, hf⟩
      · exact .inr ⟨e, rfl, db₁, hR, hp⟩
    · rintro (⟨a, db₂, ⟨db₁, hR, hp⟩, hf⟩ | ⟨e, rfl, db₁, hR, hp⟩)
      · exact ⟨db₁, hR, .inl ⟨a, db₂, hp, hf⟩⟩
      · exact ⟨db₁, hR, .inr ⟨e, rfl, hp⟩⟩
  | tx body k ih =>
    simp only [Service.bind, Among]
    rcases body.run db with e | ⟨b, db₁⟩
    · simp only [ih]
      constructor
      · rintro ⟨db₁, hR, ⟨a, db₂, hp, hf⟩ | ⟨e', rfl, hp⟩⟩
        · exact .inl ⟨a, db₂, ⟨db₁, hR, hp⟩, hf⟩
        · exact .inr ⟨e', rfl, db₁, hR, hp⟩
      · rintro (⟨a, db₂, ⟨db₁, hR, hp⟩, hf⟩ | ⟨e', rfl, db₁, hR, hp⟩)
        · exact ⟨db₁, hR, .inl ⟨a, db₂, hp, hf⟩⟩
        · exact ⟨db₁, hR, .inr ⟨e', rfl, hp⟩⟩
    · simp only [ih]
      constructor
      · rintro ⟨db₂, hR, ⟨a, db₃, hp, hf⟩ | ⟨e', rfl, hp⟩⟩
        · exact .inl ⟨a, db₃, ⟨db₂, hR, hp⟩, hf⟩
        · exact .inr ⟨e', rfl, db₂, hR, hp⟩
      · rintro (⟨a, db₃, ⟨db₂, hR, hp⟩, hf⟩ | ⟨e', rfl, db₂, hR, hp⟩)
        · exact ⟨db₂, hR, .inl ⟨a, db₃, hp, hf⟩⟩
        · exact ⟨db₂, hR, .inr ⟨e', rfl, hp⟩⟩

theorem among_ofExcept_bind {r₀ : Except ε β} {f : β → Service Row ε α} {r : Except ε α} :
    (Service.bind (.ofExcept r₀) f).Among R db r db' ↔
      (∃ b, r₀ = .ok b ∧ (f b).Among R db r db') ∨
        ∃ e, r₀ = .error e ∧ r = .error e ∧ db' = db := by
  cases r₀ with
  | ok b => simp [Service.bind, ofExcept]
  | error e => simp [Service.bind, ofExcept, Among]

/-- A call among others that may do more. -/
theorem Among.mono (hR : ∀ db db', R db db' → R' db db') {p : Service Row ε α}
    {r : Except ε α} (h : p.Among R db r db') : p.Among R' db r db' := by
  induction p generalizing db with
  | ret a => exact h
  | throw e => exact h
  | read q k ih =>
    obtain ⟨db₁, hdb₁, hrest⟩ := h
    exact ⟨db₁, hR _ _ hdb₁, ih _ hrest⟩
  | tx body k ih =>
    simp only [Among] at h ⊢
    cases hbody : body.run db with
    | error e =>
      simp only [hbody] at h ⊢
      obtain ⟨db₁, hdb₁, hrest⟩ := h
      exact ⟨db₁, hR _ _ hdb₁, ih _ hrest⟩
    | ok result =>
      simp only [hbody] at h ⊢
      obtain ⟨db₁, hdb₁, hrest⟩ := h
      exact ⟨db₁, hR _ _ hdb₁, ih _ hrest⟩

/-- What the others keep holds all along a call that only reads. -/
theorem ReadOnly.among {I : Db Row → Prop} {p : Service Row ε α} (hp : p.ReadOnly)
    (hR : ∀ db db', I db → R db db' → I db') (hI : I db) {r : Except ε α}
    (h : p.Among R db r db') : p.Among (fun db db' => I db ∧ I db') db r db' ∧ I db' := by
  induction p generalizing db with
  | ret a =>
    obtain ⟨-, rfl⟩ := id h
    exact ⟨h, hI⟩
  | throw e =>
    obtain ⟨-, rfl⟩ := id h
    exact ⟨h, hI⟩
  | read q k ih =>
    obtain ⟨db₁, hdb₁, hrest⟩ := h
    have hI₁ := hR _ _ hI hdb₁
    obtain ⟨hamong, hI'⟩ := ih (q db) (hp _) hI₁ hrest
    exact ⟨⟨db₁, ⟨hI, hI₁⟩, hamong⟩, hI'⟩
  | tx body k => exact hp.elim

/-- A call that runs alone. -/
theorem among_eq_iff {p : Service Row ε α} {r : Except ε α} :
    p.Among Eq db r db' ↔ p.run db = (r, db') := by
  induction p generalizing db with
  | ret a => simp [Among, run, eq_comm]
  | throw e => simp [Among, run, eq_comm]
  | read q k ih => simp [Among, run, ih]
  | tx body k ih =>
    simp only [Among, run]
    rcases body.run db with e | ⟨b, db₁⟩
    · simp [ih]
    · simp [ih]

end ReadCommitted.Service
