import Mathlib

/-!
# Reports about a balance that goes down

A balance goes down step by step. Each step that makes its severity worse is reported, with the
balance that it leaves; only the last report is kept. When is that the report that the descent as a
whole asks for? When its last step is reported, unless nothing is (`lastReport_eq_report_iff`).
-/

namespace Reported

variable {σ : Type} [LinearOrder σ] {severity : ℤ → σ} {start step : ℤ} {steps : List ℤ}

/-- The balance that a step is reported with, if it is. -/
def report (severity : ℤ → σ) (start step : ℤ) : Option ℤ :=
  if severity start < severity (start - step) then some (start - step) else none

/-- The balance of the last report. -/
def lastReport (severity : ℤ → σ) : ℤ → List ℤ → Option ℤ
  | _, [] => none
  | start, step :: steps =>
    (lastReport severity (start - step) steps).or (report severity start step)

theorem lastReport_append (steps' : List ℤ) : lastReport severity start (steps ++ steps') =
    (lastReport severity (start - steps.sum) steps').or (lastReport severity start steps) := by
  induction steps generalizing start with
  | nil => simp [lastReport]
  | cons step steps ih =>
    rw [List.cons_append, lastReport, ih, lastReport, List.sum_cons, Option.or_assoc, sub_sub]

theorem lastReport_concat : lastReport severity start (steps ++ [step]) =
    (report severity (start - steps.sum) step).or (lastReport severity start steps) := by
  rw [lastReport_append, lastReport, lastReport, Option.none_or]

theorem report_eq_none_iff (hanti : Antitone severity) (hstep : 0 ≤ step) :
    report severity start step = none ↔ severity start = severity (start - step) := by
  have hle : severity start ≤ severity (start - step) := hanti (by omega)
  rw [report, ite_eq_right_iff]
  constructor
  · exact fun h => hle.antisymm (not_lt.mp fun hlt => Option.some_ne_none _ (h hlt))
  · exact fun heq hlt => absurd heq hlt.ne

theorem sum_nonneg (hpos : ∀ step ∈ steps, 0 < step) : 0 ≤ steps.sum :=
  List.sum_nonneg fun step hmem => (hpos step hmem).le

/-- Nothing is reported as long as the severity stays the same. -/
theorem lastReport_eq_none_iff (hanti : Antitone severity) (hpos : ∀ step ∈ steps, 0 < step) :
    lastReport severity start steps = none ↔ severity start = severity (start - steps.sum) := by
  induction steps generalizing start with
  | nil => simp [lastReport]
  | cons step steps ih =>
    obtain ⟨hstep, hsteps⟩ := List.forall_mem_cons.mp hpos
    have hsum := sum_nonneg hsteps
    have hfirst : severity start ≤ severity (start - step) := hanti (by omega)
    have hrest : severity (start - step) ≤ severity (start - step - steps.sum) := hanti (by omega)
    rw [lastReport, Option.or_eq_none_iff, ih hsteps, report_eq_none_iff hanti hstep.le,
      List.sum_cons, ← sub_sub]
    constructor
    · exact fun h => h.2.trans h.1
    · intro heq
      have hsame : severity start = severity (start - step) :=
        hfirst.antisymm (hrest.trans_eq heq.symm)
      exact ⟨hsame.symm.trans heq, hsame⟩

/-- A report before the last step is of more than is left. -/
theorem le_of_lastReport {balance : ℤ} (hpos : ∀ step ∈ steps, 0 < step)
    (h : lastReport severity start steps = some balance) : start - steps.sum ≤ balance := by
  induction steps generalizing start with
  | nil => cases h
  | cons step steps ih =>
    obtain ⟨hstep, hsteps⟩ := List.forall_mem_cons.mp hpos
    have hsum := sum_nonneg hsteps
    rw [List.sum_cons]
    rw [lastReport, Option.or_eq_some_iff] at h
    rcases h with h | ⟨-, h⟩
    · have hle := ih hsteps h
      omega
    · rw [report] at h
      split_ifs at h
      cases h
      omega

/-- **The last report is the one that the whole descent asks for** exactly when the last step is
reported, or nothing is. -/
theorem lastReport_eq_report_iff (hanti : Antitone severity) (hpos : ∀ step ∈ steps, 0 < step) :
    lastReport severity start steps = report severity start steps.sum ↔
      (severity start < severity (start - steps.sum) → ∀ step ∈ steps.getLast?,
        severity (start - steps.sum + step) < severity (start - steps.sum)) := by
  induction steps using List.reverseRecOn with
  | nil => simp [lastReport, report]
  | append_singleton steps step _ =>
    have hsteps : ∀ step ∈ steps, 0 < step := fun s hs => hpos s (List.mem_append_left _ hs)
    have hstep : 0 < step := hpos step (by simp)
    have hend : start - (steps ++ [step]).sum = start - steps.sum - step := by
      rw [List.sum_append, List.sum_singleton, sub_sub]
    have hmid : start - (steps ++ [step]).sum + step = start - steps.sum := by omega
    have hfirst : severity start ≤ severity (start - steps.sum) :=
      hanti (by have := sum_nonneg hsteps; omega)
    rw [List.getLast?_concat, hend, lastReport_concat]
    simp only [Option.mem_some_iff, forall_eq']
    rw [← hend, hmid, hend]
    by_cases hreported : severity (start - steps.sum) < severity (start - steps.sum - step)
    · -- the last step is reported, and the descent as a whole is
      have hwhole := hfirst.trans_lt hreported
      rw [report, if_pos hreported, Option.some_or, report, hend, if_pos hwhole]
      exact iff_of_true rfl fun _ => hreported
    · -- an earlier report is of another balance
      have hsame : severity (start - steps.sum) = severity (start - steps.sum - step) :=
        (hanti (by omega)).antisymm (not_lt.mp hreported)
      have hnone : lastReport severity start steps = none ↔
          severity start = severity (start - steps.sum) := lastReport_eq_none_iff hanti hsteps
      rw [report, if_neg hreported, Option.none_or, report, hend]
      by_cases hwhole : severity start < severity (start - steps.sum - step)
      · rw [if_pos hwhole]
        refine iff_of_false (fun heq => ?_) fun h => hreported (h hwhole)
        have hle := le_of_lastReport hsteps heq
        omega
      · rw [if_neg hwhole, hnone, hsame]
        exact iff_of_true (hsame ▸ hfirst.antisymm (hsame ▸ not_lt.mp hwhole))
          fun h => absurd h hwhole

end Reported
