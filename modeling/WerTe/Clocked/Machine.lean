import Mathlib.Data.Int.Order.Basic
import Mathlib.Logic.Function.Basic

/-!
# Calls on a shared state, and a clock

* `Call F ε α`: a call is a tree of atomic operations. `F β` are those that answer with a `β`, and
  `Effects F σ` says what they may answer and do to the state when they are carried out at some
  instant. An operation that may fail has more than one outcome.
* `Machine`: the state, the clock, and what is left of each call. The scheduler picks a call, an
  instant that is not before the clock and one of the outcomes of the call's next operation.
* `Call.Obeys`: what a call does and returns, by what it has done before. `Run.sound` is the rule
  for invariants of the operations carried out and the state.
-/

namespace Clocked


/-- A call, as a tree of atomic operations. -/
inductive Call (F : Type → Type) (ε α : Type) : Type 1
  /-- the result -/
  | ret (a : α)
  /-- a failure -/
  | throw (e : ε)
  /-- an operation, and what comes after its answer -/
  | op {β : Type} (o : F β) (k : β → Call F ε α)

/-- What operations may answer at some instant, and do to the state. -/
class Effects (F : Type → Type) (σ : outParam Type) where
  outcomes : {β : Type} → F β → ℤ → σ → List (β × σ)

namespace Call

variable {F : Type → Type} {ε α β : Type}

protected def bind : Call F ε α → (α → Call F ε β) → Call F ε β
  | .ret a, f => f a
  | .throw e, _ => .throw e
  | .op o k, f => .op o fun b => (k b).bind f

instance : Monad (Call F ε) where
  pure := .ret
  bind := Call.bind

@[simp] theorem bind_eq (p : Call F ε α) (f : α → Call F ε β) : p >>= f = p.bind f := rfl

/-- One operation. -/
def perform (o : F α) : Call F ε α := .op o .ret

def ofExcept : Except ε α → Call F ε α
  | .ok a => .ret a
  | .error e => .throw e

def require (p : Prop) [Decidable p] (e : ε) : Call F ε Unit := if p then .ret () else .throw e

def orFail (o : Option α) (e : ε) : Call F ε α :=
  match o with
  | some a => .ret a
  | none => .throw e

end Call

/-- An operation that has been carried out. -/
structure Event (ι : Type) (F : Type → Type) (σ : Type) : Type 1 where
  /-- the call that carried it out -/
  call : ι
  /-- when -/
  time : ℤ
  {β : Type}
  op : F β
  answer : β
  /-- the state it was carried out in -/
  before : σ
  /-- and the state it left -/
  after : σ

/-! ## What a call does -/

section Obeys

variable {ι : Type} {F : Type → Type} {σ : Type} [Effects F σ] {ε α β : Type}

/-- When call `i` has carried out the operations `hist`, everything it still does meets `Q`, and
its result `Post`, given what it has carried out before. -/
def Call.Obeys (Q : List (Event ι F σ) → Event ι F σ → Prop)
    (Post : List (Event ι F σ) → α → Prop) (i : ι) : Call F ε α → List (Event ι F σ) → Prop
  | .ret a, hist => Post hist a
  | .throw _, _ => True
  | .op o k, hist => ∀ time s b s', (b, s') ∈ Effects.outcomes o time s →
      Q hist ⟨i, time, o, b, s, s'⟩ ∧ (k b).Obeys Q Post i (hist ++ [⟨i, time, o, b, s, s'⟩])

namespace Call.Obeys

variable {Q : List (Event ι F σ) → Event ι F σ → Prop} {Post : List (Event ι F σ) → β → Prop}
  {i : ι} {hist : List (Event ι F σ)}

theorem bind {p : Call F ε α} {f : α → Call F ε β} : ∀ {hist : List (Event ι F σ)},
    p.Obeys Q (fun hist a => (f a).Obeys Q Post i hist) i hist → (p.bind f).Obeys Q Post i hist := by
  induction p with
  | ret a => exact fun h => h
  | throw e => exact fun _ => True.intro
  | op o k ih => exact fun h time s b s' hb => ⟨(h time s b s' hb).1, ih b (h time s b s' hb).2⟩

theorem mono {Post' : List (Event ι F σ) → β → Prop} (hpost : ∀ hist b, Post hist b → Post' hist b)
    {p : Call F ε β} : ∀ {hist : List (Event ι F σ)}, p.Obeys Q Post i hist →
      p.Obeys Q Post' i hist := by
  induction p with
  | ret a => exact fun h => hpost _ a h
  | throw e => exact fun _ => True.intro
  | op o k ih => exact fun h time s b s' hb => ⟨(h time s b s' hb).1, ih b (h time s b s' hb).2⟩

/-- What has been carried out stays so. -/
theorem mem {e : Event ι F σ} {p : Call F ε β} : ∀ {hist : List (Event ι F σ)}, e ∈ hist →
    p.Obeys Q Post i hist → p.Obeys Q (fun hist b => Post hist b ∧ e ∈ hist) i hist := by
  induction p with
  | ret a => exact fun he h => ⟨h, he⟩
  | throw e => exact fun _ _ => True.intro
  | op o k ih =>
    exact fun he h time s b s' hb => ⟨(h time s b s' hb).1,
      ih b (List.mem_append_left _ he) (h time s b s' hb).2⟩

theorem ret {b : β} (h : Post hist b) : (.ret b : Call F ε β).Obeys Q Post i hist := h

theorem throw {e : ε} : (.throw e : Call F ε β).Obeys Q Post i hist := True.intro

/-- One operation, and what comes after it. -/
theorem perform_bind {o : F α} {f : α → Call F ε β} (h : ∀ time s a s',
    (a, s') ∈ Effects.outcomes o time s → Q hist ⟨i, time, o, a, s, s'⟩ ∧
      (f a).Obeys Q Post i (hist ++ [⟨i, time, o, a, s, s'⟩])) :
    ((Call.perform o).bind f).Obeys Q Post i hist := h

theorem require_bind {p : Prop} [Decidable p] {e : ε} {f : Unit → Call F ε β}
    (h : p → (f ()).Obeys Q Post i hist) : ((Call.require p e).bind f).Obeys Q Post i hist := by
  unfold Call.require
  by_cases hp : p
  · rw [if_pos hp]
    exact h hp
  · rw [if_neg hp]
    exact True.intro

theorem orFail_bind {o : Option α} {e : ε} {f : α → Call F ε β}
    (h : ∀ a, o = some a → (f a).Obeys Q Post i hist) :
    ((Call.orFail o e).bind f).Obeys Q Post i hist := by
  cases o with
  | some a => exact h a rfl
  | none => exact True.intro

end Call.Obeys

end Obeys

/-! ## The machine -/

structure Machine (ι : Type) (F : Type → Type) (σ ε α : Type) : Type 1 where
  clock : ℤ
  state : σ
  /-- what is left of each call -/
  calls : ι → Call F ε α

section Runs

variable {ι : Type} [DecidableEq ι] {F : Type → Type} {σ : Type} [Effects F σ] {ε α : Type}

/-- `m` is reached from `m₀` by the operations `log`. -/
inductive Run (m₀ : Machine ι F σ ε α) : List (Event ι F σ) → Machine ι F σ ε α → Prop
  /-- nothing is done -/
  | start : Run m₀ [] m₀
  /-- one more operation -/
  | step {log : List (Event ι F σ)} {m : Machine ι F σ ε α} {i : ι} {time : ℤ} {β : Type} {o : F β}
      {k : β → Call F ε α} {b : β} {s' : σ} : Run m₀ log m → m.clock ≤ time →
      m.calls i = .op o k → (b, s') ∈ Effects.outcomes o time m.state →
      Run m₀ (log ++ [⟨i, time, o, b, m.state, s'⟩])
        ⟨time, s', Function.update m.calls i (k b)⟩

/-- What a call has carried out. -/
def eventsOf (i : ι) (log : List (Event ι F σ)) : List (Event ι F σ) :=
  log.filter fun e => decide (e.call = i)

omit [Effects F σ] in
theorem mem_eventsOf {i : ι} {log : List (Event ι F σ)} {e : Event ι F σ} :
    e ∈ eventsOf i log ↔ e ∈ log ∧ e.call = i := by
  rw [eventsOf, List.mem_filter, decide_eq_true_eq]

/-- The rule: when every call obeys its `Q`, what each operation keeps that meets it holds of the
operations carried out so far and the state. -/
theorem Run.sound {Q : ι → List (Event ι F σ) → Event ι F σ → Prop}
    {Post : ι → List (Event ι F σ) → α → Prop} {J : List (Event ι F σ) → σ → Prop}
    {m₀ m : Machine ι F σ ε α} {log : List (Event ι F σ)}
    (hcalls : ∀ i, (m₀.calls i).Obeys (Q i) (Post i) i [])
    (hstart : J [] m₀.state)
    (hkeep : ∀ log (e : Event ι F σ), J log e.before → (∀ e' ∈ log, e'.time ≤ e.time) →
      (e.answer, e.after) ∈ Effects.outcomes e.op e.time e.before →
      Q e.call (eventsOf e.call log) e → J (log ++ [e]) e.after)
    (hrun : Run m₀ log m) :
    J log m.state ∧ (∀ e ∈ log, e.time ≤ m.clock) ∧
      ∀ i, (m.calls i).Obeys (Q i) (Post i) i (eventsOf i log) := by
  induction hrun with
  | start => exact ⟨hstart, by simp, hcalls⟩
  | @step log m i time β o k b s' _ hclock hi hb ih =>
    obtain ⟨hJ, htimes, hobeys⟩ := ih
    have hthread := hobeys i
    rw [hi] at hthread
    obtain ⟨hQ, hrest⟩ := hthread time m.state b s' hb
    have hbefore : ∀ e ∈ log, e.time ≤ time := fun e he => Int.le_trans (htimes e he) hclock
    refine ⟨hkeep log ⟨i, time, o, b, m.state, s'⟩ hJ hbefore hb hQ, ?_, fun j => ?_⟩
    · exact List.forall_mem_append.mpr ⟨hbefore, List.forall_mem_singleton.mpr le_rfl⟩
    · by_cases hj : j = i
      · subst hj
        have hown : eventsOf j (log ++ [⟨j, time, o, b, m.state, s'⟩]) =
            eventsOf j log ++ [⟨j, time, o, b, m.state, s'⟩] := by simp [eventsOf]
        rw [hown]
        simp only [Function.update_self]
        exact hrest
      · have hothers : eventsOf j (log ++ [⟨i, time, o, b, m.state, s'⟩]) = eventsOf j log := by
          simp [eventsOf, Ne.symm hj]
        rw [hothers]
        simp only [Function.update_of_ne hj]
        exact hobeys j

/-- Operations are carried out in the order of their times. -/
theorem Run.sorted {m₀ m : Machine ι F σ ε α} {log : List (Event ι F σ)} (hrun : Run m₀ log m) :
    log.Pairwise (fun e e' => e.time ≤ e'.time) ∧ ∀ e ∈ log, e.time ≤ m.clock := by
  induction hrun with
  | start => exact ⟨.nil, by simp⟩
  | @step log m i time β o k b s' _ hclock _ _ ih =>
    have hbefore : ∀ e ∈ log, e.time ≤ time := fun e he => Int.le_trans (ih.2 e he) hclock
    refine ⟨List.pairwise_append.mpr ⟨ih.1, List.pairwise_singleton .., fun e he e' he' => ?_⟩, ?_⟩
    · rw [List.mem_singleton.mp he']
      exact hbefore e he
    · exact List.forall_mem_append.mpr ⟨hbefore, List.forall_mem_singleton.mpr le_rfl⟩

/-! ## Running a schedule -/

/-- The next operation of call `i` is carried out, with its `n`-th outcome. -/
def Machine.next (m : Machine ι F σ ε α) (i : ι) (time : ℤ) (n : ℕ) :
    Option (Event ι F σ × Machine ι F σ ε α) :=
  match m.calls i with
  | .op o k =>
    if m.clock ≤ time then
      (Effects.outcomes o time m.state)[n]?.map fun r =>
        (⟨i, time, o, r.1, m.state, r.2⟩, ⟨time, r.2, Function.update m.calls i (k r.1)⟩)
    else none
  | _ => none

/-- Several operations in a row. -/
def Machine.exec : List (ι × ℤ × ℕ) → List (Event ι F σ) → Machine ι F σ ε α →
    Option (List (Event ι F σ) × Machine ι F σ ε α)
  | [], log, m => some (log, m)
  | (i, time, n) :: schedule, log, m =>
    (m.next i time n).bind fun r => exec schedule (log ++ [r.1]) r.2

theorem Run.next {m₀ m m' : Machine ι F σ ε α} {log : List (Event ι F σ)} {e : Event ι F σ}
    {i : ι} {time : ℤ} {n : ℕ} (hrun : Run m₀ log m) (h : m.next i time n = some (e, m')) :
    Run m₀ (log ++ [e]) m' := by
  rw [Machine.next] at h
  split at h
  · next o k hi =>
    split at h
    · next hclock =>
      obtain ⟨r, hr, heq⟩ := Option.map_eq_some_iff.mp h
      cases heq
      exact hrun.step hclock hi (List.mem_of_getElem? hr)
    · cases h
  · cases h

theorem Run.exec {m₀ : Machine ι F σ ε α} (schedule : List (ι × ℤ × ℕ)) :
    ∀ {m m' : Machine ι F σ ε α} {log log' : List (Event ι F σ)}, Run m₀ log m →
      m.exec schedule log = some (log', m') → Run m₀ log' m' := by
  induction schedule with
  | nil =>
    intro m m' log log' hrun h
    cases h
    exact hrun
  | cons first schedule ih =>
    intro m m' log log' hrun h
    obtain ⟨r, hr, h⟩ := Option.bind_eq_some_iff.mp h
    exact ih (hrun.next hr) h

end Runs

end Clocked
