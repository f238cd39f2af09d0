import Mathlib.Data.List.Basic

/-!
# What a stateful computation puts out

A computation may keep lists in its state that it only ever appends to. What it appends to one of
them is said by `Emits`, whose rules follow how the computation is put together.
-/

namespace Emitted

variable {σ α β ι : Type} {view : σ → List β}

/-- `out` is appended to what `view` shows of the state, whatever the state is. -/
def Emits (view : σ → List β) (m : StateM σ α) (out : List β) : Prop :=
  ∀ s, view (m.run s).2 = view s ++ out

theorem Emits.pure (a : α) : Emits view (Pure.pure a : StateM σ α) [] := fun s =>
  (List.append_nil (view s)).symm

theorem Emits.modify {f : σ → σ} {out : List β} (h : ∀ s, view (f s) = view s ++ out) :
    Emits view (modify f : StateM σ PUnit) out := h

/-- What is put out does not depend on the value in between. -/
theorem Emits.bind {m : StateM σ ι} {f : ι → StateM σ α} {out out' : List β}
    (hm : Emits view m out) (hf : ∀ a, Emits view (f a) out') :
    Emits view (m >>= f) (out ++ out') := fun s => by
  rw [StateT.run_bind]
  exact (hf _ _).trans (by rw [hm s, List.append_assoc])

theorem Emits.mapM {f : ι → StateM σ α} {out : ι → List β} (hf : ∀ i, Emits view (f i) (out i))
    (l : List ι) : Emits view (l.mapM f) (l.flatMap out) := by
  induction l with
  | nil => exact Emits.pure []
  | cons i l ih =>
    rw [List.mapM_cons, List.flatMap_cons]
    refine (hf i).bind fun a => ?_
    rw [← List.append_nil (l.flatMap out)]
    exact ih.bind fun _ => Emits.pure _

end Emitted
