import Mathlib

/-!
# Withdrawals, one after the other

Amounts are withdrawn from accounts, each if the account has it. Amounts that are not negative can
all be withdrawn exactly when no account gives more in total than it has (`withdrawAll_isSome_iff`);
that each of the accounts has each amount by itself is not enough.
-/

namespace Ledger

variable {κ : Type} [DecidableEq κ] {balances balances' : κ → Option ℤ} {w : κ × ℤ}
  {ws ws' : List (κ × ℤ)} {account : κ}

/-- An amount is withdrawn, if the account is there and has it. -/
def withdraw (balances : κ → Option ℤ) (w : κ × ℤ) : Option (κ → Option ℤ) :=
  (balances w.1).bind fun balance =>
    if w.2 ≤ balance then some (Function.update balances w.1 (some (balance - w.2))) else none

def withdrawAll (balances : κ → Option ℤ) : List (κ × ℤ) → Option (κ → Option ℤ)
  | [] => some balances
  | w :: ws => (withdraw balances w).bind fun balances => withdrawAll balances ws

/-- What is withdrawn from an account in total. -/
def total (ws : List (κ × ℤ)) (account : κ) : ℤ :=
  (ws.map fun w => if w.1 = account then w.2 else 0).sum

@[simp] theorem total_nil (account : κ) : total [] account = 0 := rfl

theorem total_cons (w : κ × ℤ) (ws : List (κ × ℤ)) (account : κ) :
    total (w :: ws) account = (if w.1 = account then w.2 else 0) + total ws account := by
  rw [total, List.map_cons, List.sum_cons, total]

theorem total_nonneg (h : ∀ w ∈ ws, 0 ≤ w.2) (account : κ) : 0 ≤ total ws account := by
  refine List.sum_nonneg fun x hx => ?_
  obtain ⟨w, hw, rfl⟩ := List.mem_map.mp hx
  have hamount := h w hw
  split_ifs <;> omega

theorem withdraw_eq_some_iff : withdraw balances w = some balances' ↔
    ∃ balance, balances w.1 = some balance ∧ w.2 ≤ balance ∧
      balances' = Function.update balances w.1 (some (balance - w.2)) := by
  rw [withdraw, Option.bind_eq_some_iff]
  refine exists_congr fun balance => and_congr_right fun _ => ?_
  split_ifs with hle
  · rw [and_iff_right hle, Option.some.injEq, eq_comm]
  · exact iff_of_false (by simp) fun h => hle h.1

theorem withdrawAll_append : withdrawAll balances (ws ++ ws') =
    (withdrawAll balances ws).bind fun balances => withdrawAll balances ws' := by
  induction ws generalizing balances with
  | nil => rfl
  | cons w ws ih =>
    rw [List.cons_append, withdrawAll, withdrawAll, Option.bind_assoc]
    exact congrArg _ (funext fun balances => ih)

/-- No account gives more in total than it has. -/
def Covered (balances : κ → Option ℤ) (ws : List (κ × ℤ)) : Prop :=
  ∀ w ∈ ws, ∃ balance, balances w.1 = some balance ∧ total ws w.1 ≤ balance

/-- The first withdrawal leaves enough for the others. -/
theorem covered_cons_iff (hws : ∀ w ∈ ws, 0 ≤ w.2) :
    Covered balances (w :: ws) ↔
      ∃ balances', withdraw balances w = some balances' ∧ Covered balances' ws := by
  constructor
  · intro h
    obtain ⟨balance, hbalance, htotal⟩ := h w List.mem_cons_self
    have hrest := total_nonneg hws w.1
    rw [total_cons, if_pos rfl] at htotal
    refine ⟨_, withdraw_eq_some_iff.mpr ⟨balance, hbalance, by omega, rfl⟩, fun v hv => ?_⟩
    obtain ⟨balance', hbalance', htotal'⟩ := h v (List.mem_cons_of_mem _ hv)
    by_cases hsame : v.1 = w.1
    · refine ⟨balance - w.2, by rw [hsame, Function.update_self], ?_⟩
      rw [hsame]
      omega
    · rw [total_cons, if_neg (Ne.symm hsame), zero_add] at htotal'
      exact ⟨balance', by rw [Function.update_of_ne hsame, hbalance'], htotal'⟩
  · rintro ⟨balances', hwithdraw, h⟩
    obtain ⟨balance, hbalance, hle, rfl⟩ := withdraw_eq_some_iff.mp hwithdraw
    -- the account of the first withdrawal may be used again
    have hfirst : total ws w.1 ≤ balance - w.2 := by
      by_cases hagain : ∃ v ∈ ws, v.1 = w.1
      · obtain ⟨v, hv, hsame⟩ := hagain
        obtain ⟨balance', hbalance', htotal'⟩ := h v hv
        rw [hsame] at hbalance' htotal'
        rw [Function.update_self] at hbalance'
        obtain rfl := Option.some.inj hbalance'
        exact htotal'
      · have hzero : total ws w.1 = 0 := by
          refine List.sum_eq_zero fun x hx => ?_
          obtain ⟨v, hv, rfl⟩ := List.mem_map.mp hx
          exact if_neg fun hsame => hagain ⟨v, hv, hsame⟩
        omega
    intro v hv
    by_cases hsame : v.1 = w.1
    · refine ⟨balance, by rw [hsame, hbalance], ?_⟩
      rw [total_cons, hsame, if_pos rfl]
      omega
    · have hv : v ∈ ws := (List.mem_cons.mp hv).resolve_left fun heq => hsame (heq ▸ rfl)
      obtain ⟨balance', hbalance', htotal'⟩ := h v hv
      rw [Function.update_of_ne hsame] at hbalance'
      refine ⟨balance', hbalance', ?_⟩
      rwa [total_cons, if_neg (Ne.symm hsame), zero_add]

/-- **When all of it can be withdrawn.** -/
theorem withdrawAll_isSome_iff (h : ∀ w ∈ ws, 0 ≤ w.2) :
    (withdrawAll balances ws).isSome ↔ Covered balances ws := by
  induction ws generalizing balances with
  | nil => exact iff_of_true rfl fun w hw => by cases hw
  | cons w ws ih =>
    obtain ⟨-, hws⟩ := List.forall_mem_cons.mp h
    rw [covered_cons_iff hws, withdrawAll, Option.isSome_bind, Option.any_eq_true]
    exact exists_congr fun balances' => and_congr_right fun _ => ih hws

end Ledger
