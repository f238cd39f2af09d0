import Mathlib.Logic.Function.Basic
import Mathlib.Order.Defs.Unbundled

/-!
# A cache that is read through

* `Ends`: what a call leaves behind, when calls are made one after the other. A call that fails
  leaves what it has done.
* `Steps R`: a call that only does what `R` allows, with one rule for each way a call is built.
* `World`: what is stored, and what is cached of it. `Fresh`: who asks the cache gets what they
  would have loaded. There is one rule for each thing that may be done to a cache.
-/

namespace Cached

/-! ## Calls -/

section Calls

variable {ε σ α β : Type}

/-- The call, made in `s`, ends with `Q` of its outcome and of what it leaves. -/
def Ends (p : EStateM ε σ α) (s : σ) (Q : Except ε α → σ → Prop) : Prop :=
  match p s with
  | .ok a s' => Q (.ok a) s'
  | .error e s' => Q (.error e) s'

def require (p : Prop) [Decidable p] (e : ε) : EStateM ε σ Unit := if p then pure () else throw e

def orFail (o : Option α) (e : ε) : EStateM ε σ α :=
  match o with
  | some a => pure a
  | none => throw e

def ofExcept : Except ε α → EStateM ε σ α
  | .ok a => pure a
  | .error e => throw e

namespace Ends

variable {s : σ} {Q Q' : Except ε α → σ → Prop}

theorem mono {p : EStateM ε σ α} (h : Ends p s Q) (hQ : ∀ r s', Q r s' → Q' r s') :
    Ends p s Q' := by
  unfold Ends at h ⊢
  split at h <;> exact hQ _ _ h

theorem of_ok {p : EStateM ε σ α} {a : α} {s' : σ} (hp : p s = .ok a s') (h : Q (.ok a) s') :
    Ends p s Q := by
  unfold Ends
  rw [hp]
  exact h

theorem of_error {p : EStateM ε σ α} {e : ε} {s' : σ} (hp : p s = .error e s')
    (h : Q (.error e) s') : Ends p s Q := by
  unfold Ends
  rw [hp]
  exact h

/-- How a call has ended. -/
theorem result {p : EStateM ε σ α} (h : Ends p s Q) : (∃ a s', p s = .ok a s' ∧ Q (.ok a) s') ∨
    ∃ e s', p s = .error e s' ∧ Q (.error e) s' := by
  unfold Ends at h
  cases hp : p s with
  | ok a s' =>
    rw [hp] at h
    exact .inl ⟨a, s', rfl, h⟩
  | error e s' =>
    rw [hp] at h
    exact .inr ⟨e, s', rfl, h⟩

theorem ret {a : α} (h : Q (.ok a) s) : Ends (pure a) s Q := h

theorem fail {e : ε} (h : Q (.error e) s) : Ends (throw e) s Q := h

theorem get {Q : Except ε σ → σ → Prop} (h : Q (.ok s) s) :
    Ends (MonadState.get : EStateM ε σ σ) s Q := h

theorem modify {f : σ → σ} {Q : Except ε Unit → σ → Prop} (h : Q (.ok ()) (f s)) :
    Ends (modify f : EStateM ε σ Unit) s Q := h

/-- A call and what comes after it. -/
theorem bind {p : EStateM ε σ β} {f : β → EStateM ε σ α}
    (h : Ends p s fun r s' => match r with
      | .ok b => Ends (f b) s' Q
      | .error e => Q (.error e) s') : Ends (p >>= f) s Q := by
  unfold Ends at h ⊢
  change match (match p s with
    | .ok b s' => f b s'
    | .error e s' => .error e s' : EStateM.Result ε σ α) with
    | .ok a s' => Q (.ok a) s'
    | .error e s' => Q (.error e) s'
  cases hp : p s with
  | ok b s' =>
    rw [hp] at h
    exact h
  | error e s' =>
    rw [hp] at h
    exact h

theorem require {p : Prop} [Decidable p] {e : ε} {Q : Except ε Unit → σ → Prop}
    (hok : p → Q (.ok ()) s) (hfail : ¬ p → Q (.error e) s) : Ends (Cached.require p e) s Q := by
  unfold Cached.require
  by_cases hp : p
  · rw [if_pos hp]
    exact ret (hok hp)
  · rw [if_neg hp]
    exact fail (hfail hp)

theorem orFail {o : Option α} {e : ε} (hsome : ∀ a, o = some a → Q (.ok a) s)
    (hnone : o = none → Q (.error e) s) : Ends (Cached.orFail o e) s Q := by
  cases o with
  | some a => exact ret (hsome a rfl)
  | none => exact fail (hnone rfl)

theorem ofExcept {r : Except ε α} (h : Q r s) : Ends (Cached.ofExcept r) s Q := by
  cases r with
  | ok a => exact ret h
  | error e => exact fail h

theorem require_bind {p : Prop} [Decidable p] {e : ε} {f : Unit → EStateM ε σ α}
    (hok : p → Ends (f ()) s Q) (hfail : ¬ p → Q (.error e) s) :
    Ends (Cached.require p e >>= f) s Q := bind (require hok hfail)

/-- A call whose result is not used. -/
theorem discard {p : EStateM ε σ α} {P : σ → Prop} (h : Ends p s fun _ s' => P s') :
    Ends (discard p) s fun _ s' => P s' := by
  have hbind : Ends (p >>= fun _ => pure ()) s fun _ s' => P s' := by
    refine bind (h.mono fun r s' hP => ?_)
    cases r with
    | ok a => exact ret hP
    | error e => exact hP
  rwa [← map_eq_pure_bind] at hbind

end Ends

/-- Whatever the call does, `R` relates what was there before to what is there afterwards. -/
def Steps (R : σ → σ → Prop) (p : EStateM ε σ α) : Prop := ∀ s, Ends p s fun _ s' => R s s'

namespace Steps

variable {R : σ → σ → Prop}

theorem bind [IsTrans σ R] {p : EStateM ε σ β} {f : β → EStateM ε σ α} (hp : Steps R p)
    (hf : ∀ b, Steps R (f b)) : Steps R (p >>= f) := by
  refine fun s => .bind ((hp s).mono fun r s' h => ?_)
  cases r with
  | ok b => exact (hf b s').mono fun _ _ h' => IsTrans.trans _ _ _ h h'
  | error e => exact h

section Reflexive

variable [Std.Refl R]

theorem ret (a : α) : Steps R (pure a : EStateM ε σ α) := fun s => Ends.ret (refl s)

theorem fail (e : ε) : Steps R (throw e : EStateM ε σ α) := fun s => Ends.fail (refl s)

theorem require (p : Prop) [Decidable p] (e : ε) :
    Steps R (Cached.require p e : EStateM ε σ Unit) :=
  fun s => .require (fun _ => refl s) fun _ => refl s

theorem orFail (o : Option α) (e : ε) : Steps R (Cached.orFail o e : EStateM ε σ α) :=
  fun s => .orFail (fun _ _ => refl s) fun _ => refl s

theorem ofExcept (r : Except ε α) : Steps R (Cached.ofExcept r : EStateM ε σ α) :=
  fun s => .ofExcept (refl s)

end Reflexive

theorem of_ends {p : EStateM ε σ α} (h : ∀ s, Ends p s fun _ s' => R s s') : Steps R p := h

theorem ends {p : EStateM ε σ α} (h : Steps R p) (s : σ) : Ends p s fun _ s' => R s s' := h s

theorem discard {p : EStateM ε σ α} (h : Steps R p) : Steps R (discard p) :=
  fun s => (h s).discard

end Steps

-- Use the rules, do not unfold.
attribute [irreducible] Ends Steps

end Calls

/-! ## Caches -/

/-- What is stored, and what is cached of it under each key. -/
structure World (D K V : Type*) where
  data : D
  cache : K → Option V

section Fresh

variable {F D K V : Type*} {load : F → D → Option V} {key : F → K} {asked : F → Prop}

/-- Whoever asks and finds something in the cache finds what they would have loaded. -/
def Fresh (load : F → D → Option V) (key : F → K) (asked : F → Prop) (w : World D K V) : Prop :=
  ∀ f, asked f → ∀ v, w.cache (key f) = some v → load f w.data = some v

/-- Those who ask under one key would load the same. -/
def Apart (load : F → D → Option V) (key : F → K) (asked : F → Prop) : Prop :=
  ∀ f g, asked f → asked g → key f = key g → ∀ d, load f d = load g d

variable {w w' : World D K V}

theorem Fresh.of_empty (h : ∀ k, w.cache k = none) : Fresh load key asked w := by
  intro f _ v hv
  rw [h] at hv
  cases hv

/-- What has been loaded is put into the cache. -/
theorem Fresh.fill [DecidableEq K] {f : F} {v : V} (h : Fresh load key asked w)
    (hapart : Apart load key asked) (hf : asked f) (hv : load f w.data = some v)
    (hdata : w'.data = w.data) (hcache : w'.cache = Function.update w.cache (key f) (some v)) :
    Fresh load key asked w' := by
  intro g hg u hu
  rw [hcache] at hu
  rw [hdata]
  by_cases hkey : key g = key f
  · rw [hkey, Function.update_self] at hu
    rw [hapart g f hg hf hkey, hv, hu]
  · rw [Function.update_of_ne hkey] at hu
    exact h g hg u hu

/-- What is stored changes, but not for those who find something in the cache. -/
theorem Fresh.write (h : Fresh load key asked w)
    (hload : ∀ f, asked f → (w'.cache (key f)).isSome → load f w'.data = load f w.data)
    (hcache : ∀ k v, w'.cache k = some v → w.cache k = some v) : Fresh load key asked w' := by
  intro f hf v hv
  rw [hload f hf (by rw [hv]; rfl)]
  exact h f hf v (hcache _ v hv)

end Fresh

end Cached
