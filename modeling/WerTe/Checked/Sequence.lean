import Mathlib.Data.List.Basic

/-!
# Sequences of checks

When a sequence of checks that may fail succeeds, in terms of each of them.
-/

namespace Checked

variable {ε α β : Type}

theorem bind_ok_iff {x : Except ε α} {f : α → Except ε β} {b : β} :
    x >>= f = .ok b ↔ ∃ a, x = .ok a ∧ f a = .ok b := by
  cases x with
  | error e => simp [bind, Except.bind]
  | ok a => simp [bind, Except.bind]

/-- A check that says more when it fails. -/
theorem mapError_ok_iff {ε' : Type} {x : Except ε α} {f : ε → ε'} {a : α} :
    x.mapError f = .ok a ↔ x = .ok a := by
  cases x with
  | error e => simp [Except.mapError]
  | ok a => simp [Except.mapError]

theorem map_ok_iff {x : Except ε α} {f : α → β} {b : β} :
    x.map f = .ok b ↔ ∃ a, x = .ok a ∧ f a = b := by
  cases x with
  | error e => simp [Except.map]
  | ok a => simp [Except.map]

/-- A list is checked one by one. -/
theorem forM_ok_iff {f : α → Except ε Unit} (l : List α) :
    l.forM f = .ok () ↔ ∀ a ∈ l, f a = .ok () := by
  rw [List.forM_eq_forM]
  induction l with
  | nil => simp [pure, Except.pure]
  | cons a l ih =>
    rw [List.forM_cons, List.forall_mem_cons, ← ih, bind_ok_iff]
    exact ⟨fun h => by obtain ⟨_, ha, hl⟩ := h; exact ⟨ha, hl⟩, fun h => ⟨(), h.1, h.2⟩⟩

/-- A list is looked up one by one, where each look up succeeds as `o` says. -/
theorem mapM_ok_iff {f : α → Except ε β} {o : α → Option β}
    (h : ∀ a b, f a = .ok b ↔ o a = some b) (l : List α) (l' : List β) :
    l.mapM f = .ok l' ↔ (∀ a ∈ l, (o a).isSome) ∧ l' = l.filterMap o := by
  induction l generalizing l' with
  | nil =>
    rw [List.mapM_nil]
    exact ⟨fun heq => ⟨by simp, by cases heq; rfl⟩, fun heq => by rw [heq.2]; rfl⟩
  | cons a l ih =>
    rw [List.mapM_cons, List.forall_mem_cons, bind_ok_iff]
    constructor
    · rintro ⟨b, hb, hrest⟩
      obtain ⟨rest, hl, heq⟩ := bind_ok_iff.mp hrest
      obtain ⟨hall, rfl⟩ := (ih rest).mp hl
      cases heq
      rw [List.filterMap_cons, (h a b).mp hb]
      exact ⟨⟨rfl, hall⟩, rfl⟩
    · rintro ⟨⟨ha, hall⟩, rfl⟩
      obtain ⟨b, hb⟩ := Option.isSome_iff_exists.mp ha
      refine ⟨b, (h a b).mpr hb, bind_ok_iff.mpr ⟨_, (ih _).mpr ⟨hall, rfl⟩, ?_⟩⟩
      rw [List.filterMap_cons, hb]
      rfl

/-- A list is mapped one by one, to what meets `P`. -/
theorem mapM_forall₂ {f : α → Except ε β} {P : α → β → Prop} {l : List α}
    (h : ∀ a ∈ l, ∃ b, f a = .ok b ∧ P a b) : ∃ l', l.mapM f = .ok l' ∧ List.Forall₂ P l l' := by
  induction l with
  | nil => exact ⟨[], rfl, .nil⟩
  | cons a l ih =>
    obtain ⟨⟨b, hb, hP⟩, hl⟩ := List.forall_mem_cons.mp h
    obtain ⟨rest, hrest, hforall⟩ := ih hl
    refine ⟨b :: rest, ?_, .cons hP hforall⟩
    rw [List.mapM_cons, bind_ok_iff]
    exact ⟨b, hb, bind_ok_iff.mpr ⟨rest, hrest, rfl⟩⟩

theorem mapM_congr {f g : α → Except ε β} {l : List α} (h : ∀ a ∈ l, f a = g a) :
    l.mapM f = l.mapM g := by
  induction l with
  | nil => rfl
  | cons a l ih =>
    obtain ⟨ha, hl⟩ := List.forall_mem_cons.mp h
    rw [List.mapM_cons, List.mapM_cons, ha, ih hl]

end Checked
