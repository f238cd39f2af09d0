import WerTe.ReadCommitted.Sequential

/-!
# What lasts

What an operation of a sequential run brings about may be meant to last: to hold after the
operation and ever after.

* `Lasting run due cs s`: so does what each of the operations is to bring about
* `lasting_iff_meetAll`: where no operation undoes what another has brought about, this is said of
  one operation at a time
-/

namespace ReadCommitted

variable {κ σ : Type*} {run : κ → σ → σ} {due ok : κ → σ → Prop}

/-- What every operation keeps holds after a run. -/
theorem runAll_of_inv {J : σ → Prop} (hkeep : ∀ c s, J s → J (run c s)) (cs : List κ) :
    ∀ {s : σ}, J s → J (runAll run cs s) := by
  induction cs with
  | nil => exact fun h => h
  | cons c cs ih => exact fun h => ih (hkeep c _ h)

/-- At each point of the run, what the operations so far were to bring about is so. -/
def Lasting (run : κ → σ → σ) (due : κ → σ → Prop) (cs : List κ) (s : σ) : Prop :=
  ∀ before after, cs = before ++ after → ∀ c ∈ before, due c (runAll run before s)

theorem lasting_nil (s : σ) : Lasting run due [] s := by
  intro before after hsplit c hc
  rw [(List.append_eq_nil_iff.mp hsplit.symm).1] at hc
  cases hc

theorem lasting_cons_iff (hkeep : ∀ c c' s, due c s → due c (run c' s)) {c : κ} {cs : List κ}
    {s : σ} : Lasting run due (c :: cs) s ↔ due c (run c s) ∧ Lasting run due cs (run c s) := by
  constructor
  · intro h
    refine ⟨h [c] cs rfl c List.mem_cons_self, fun before after hsplit c' hc' => ?_⟩
    exact h (c :: before) after (by rw [hsplit, List.cons_append]) c' (List.mem_cons_of_mem c hc')
  · rintro ⟨hfirst, hrest⟩ before after hsplit c' hc'
    cases before with
    | nil => cases hc'
    | cons c₀ before =>
      obtain ⟨rfl, rfl⟩ := List.cons_eq_cons.mp hsplit
      rcases List.mem_cons.mp hc' with rfl | hc'
      · exact runAll_of_inv (fun c'' s => hkeep c' c'' s) before hfirst
      · exact hrest before after rfl c' hc'

theorem lasting_iff_meetAll (hkeep : ∀ c c' s, due c s → due c (run c' s))
    (hstep : ∀ c s, due c (run c s) ↔ ok c s) (cs : List κ) :
    ∀ {s : σ}, Lasting run due cs s ↔ MeetAll run ok cs s := by
  induction cs with
  | nil => exact fun {s} => iff_of_true (lasting_nil s) True.intro
  | cons c cs ih => exact (lasting_cons_iff hkeep).trans (and_congr (hstep c _) ih)

end ReadCommitted
