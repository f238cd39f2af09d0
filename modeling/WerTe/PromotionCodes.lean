import WerTe.Promotions
import WerTe.ReadCommitted.Maintains

/-!
# The codes of a branch

The database lets a branch have one promotion of a code, whether it was deleted or not. The
services ask for a promotion that was not deleted, so they take the code of a deleted one to be
available and the write that follows fails.
-/

namespace WerTe.Promotions

open ReadCommitted CheckoutPricing PromotionsRepository

/-- `@@unique([branchId, code])` -/
def CodesUnique (db : Store) : Prop :=
  ∀ i j promotion other, db.get (.promotion, i) = some promotion →
    db.get (.promotion, j) = some other → promotion.branchId = other.branchId →
      promotion.code = other.code → i = j

/-- The promotion that the code is checked for, if it is stored, is one of the branch's. -/
def OfBranch (db : Store) (branchId : Id) (existingPromotionId : Option Id) : Prop :=
  ∀ promotionId ∈ existingPromotionId, ∃ promotion,
    findPromotionById db promotionId = some promotion ∧ promotion.branchId = branchId

/-- The constraint lets a new promotion of the branch have the code, or the one that is updated. -/
def ConstraintAdmits (db : Store) (branchId : Id) (code : String) : Option Id → Prop
  | none => ∀ promotionId data, db.get (.promotion, promotionId) = none →
    data.branchId = branchId → data.code = code →
      (createPromotion promotionId data).run db ≠ .error (.uniqueConstraint "branchId_code")
  | some promotionId => ∀ data : Promotion → Promotion,
    (∀ promotion, db.get (.promotion, promotionId) = some promotion →
      (data promotion).branchId = branchId ∧ (data promotion).code = code) →
      (updatePromotion promotionId data).run db ≠ .error (.uniqueConstraint "branchId_code")

/-- Once the check has accepted the code, the constraint admits it. -/
def CheckComplete (details : List (String × Detail)) (db : Store) (branchId : Id) (code : String)
    (existingPromotionId : Option Id) : Prop :=
  (assertCodeIsAvailable details branchId code existingPromotionId).run db = (.ok (), db) →
    ConstraintAdmits db branchId code existingPromotionId

/-- A deleted promotion of the branch has the code. -/
def KeptByDeleted (db : Store) (branchId : Id) (code : String) : Prop :=
  ∃ i promotion, db.get (.promotion, i) = some promotion ∧ promotion.branchId = branchId ∧
    promotion.code = code ∧ promotion.isDeleted = true

variable {table : CaseTable} {parseDate : String → Option Date} {db : Store} {branchId : Id}
  {code : String} {details : List (String × Detail)} {existingPromotionId : Option Id}

/-! ## The check and the constraint -/

theorem assertCodeIsAvailable_run_ok :
    (assertCodeIsAvailable details branchId code existingPromotionId).run db = (.ok (), db) ↔
      (findPromotionByBranchIdAndCode db branchId code).all (fun promotion =>
        some promotion.1 == existingPromotionId) = true := by
  simp [assertCodeIsAvailable, Service.run_bind_ok, Service.run_get_ok, Service.run_require_ok]

theorem codeIsTaken_iff {promotionId : Id} {promotion : Promotion} :
    codeIsTaken db promotionId promotion = true ↔
      ∃ i other, db.get (.promotion, i) = some other ∧ other.branchId = promotion.branchId ∧
        other.code = promotion.code ∧ i ≠ promotionId := by
  simp [codeIsTaken, Db.mem_list, and_assoc]

theorem findPromotionByBranchIdAndCode_some {i : Id} {promotion : Promotion}
    (h : findPromotionByBranchIdAndCode db branchId code = some (i, promotion)) :
    db.get (.promotion, i) = some promotion ∧ promotion.branchId = branchId ∧
      promotion.code = code ∧ promotion.isDeleted = false := by
  have hmem := Db.mem_list.mp (List.mem_of_mem_head? h)
  simpa [and_assoc] using hmem

theorem findPromotionByBranchIdAndCode_none
    (h : findPromotionByBranchIdAndCode db branchId code = none) {i : Id} {promotion : Promotion}
    (hget : db.get (.promotion, i) = some promotion) (hbranch : promotion.branchId = branchId)
    (hcode : promotion.code = code) : promotion.isDeleted = true := by
  rw [findPromotionByBranchIdAndCode, List.head?_eq_none_iff] at h
  by_contra hlive
  have hmem : (i, promotion) ∈ db.list .promotion fun promotion =>
      promotion.branchId == branchId && promotion.code == code && !promotion.isDeleted :=
    Db.mem_list.mpr ⟨hget, by simp [hbranch, hcode, hlive]⟩
  rw [h] at hmem
  cases hmem

/-- The promotion that is found is the only one of the branch that has the code. -/
theorem CodesUnique.find (h : CodesUnique db) {i : Id} {promotion : Promotion}
    (hget : db.get (.promotion, i) = some promotion) (hbranch : promotion.branchId = branchId)
    (hcode : promotion.code = code) :
    findPromotionByBranchIdAndCode db branchId code =
      if promotion.isDeleted then none else some (i, promotion) := by
  cases hfind : findPromotionByBranchIdAndCode db branchId code with
  | none => simp [findPromotionByBranchIdAndCode_none hfind hget hbranch hcode]
  | some found =>
    obtain ⟨hfound, hb, hc, hlive⟩ := findPromotionByBranchIdAndCode_some hfind
    obtain rfl := h _ _ _ _ hfound hget (hb.trans hbranch.symm) (hc.trans hcode.symm)
    obtain rfl := Option.some.inj (hfound.symm.trans hget)
    simp [hlive]

theorem createPromotion_refused_iff {promotionId : Id} {data : Promotion}
    (hnew : db.get (.promotion, promotionId) = none) :
    (createPromotion promotionId data).run db = .error (.uniqueConstraint "branchId_code") ↔
      codeIsTaken db promotionId data = true := by
  cases htaken : codeIsTaken db promotionId data with
  | true => simp [createPromotion, Tx.insertRow, Tx.attempt, Tx.bind, Tx.run, hnew, htaken]
  | false =>
    cases hbranch : db.get (.branch, data.branchId) with
    | none =>
      simp [createPromotion, Tx.insertRow, Tx.attempt, Tx.bind, Tx.run, hnew, htaken, hbranch]
    | some branch =>
      simp [createPromotion, Tx.insertRow, Tx.attempt, Tx.bind, Tx.run, hnew, htaken, hbranch]

theorem updatePromotion_refused_iff {promotionId : Id} {promotion : Promotion}
    {data : Promotion → Promotion} (hget : db.get (.promotion, promotionId) = some promotion) :
    (updatePromotion promotionId data).run db = .error (.uniqueConstraint "branchId_code") ↔
      codeIsTaken db promotionId (data promotion) = true := by
  cases htaken : codeIsTaken db promotionId (data promotion) with
  | true => simp [updatePromotion, Tx.attempt, Tx.run, hget, htaken]
  | false => simp [updatePromotion, Tx.attempt, Tx.run, hget, htaken]

/-- If the codes are unique, the check is complete for a code unless a deleted promotion of the
branch has it. -/
theorem CodesUnique.checkComplete_iff (h : CodesUnique db)
    (hbranch : OfBranch db branchId existingPromotionId) :
    CheckComplete details db branchId code existingPromotionId ↔
      ¬ KeptByDeleted db branchId code := by
  rw [CheckComplete, assertCodeIsAvailable_run_ok]
  constructor
  · rintro hcomplete ⟨i, deleted, hget, hb, hc, hdeleted⟩
    have hfind := h.find hget hb hc
    rw [if_pos hdeleted] at hfind
    have hwrites := hcomplete (by rw [hfind]; rfl)
    cases existingPromotionId with
    | none =>
      have hfresh := db.get_fresh .promotion
      refine hwrites _ deleted hfresh hb hc ((createPromotion_refused_iff hfresh).mpr ?_)
      refine codeIsTaken_iff.mpr ⟨i, deleted, hget, rfl, rfl, ?_⟩
      rintro rfl
      rw [hfresh] at hget
      cases hget
    | some promotionId =>
      obtain ⟨promotion, hfound, hof⟩ := hbranch promotionId rfl
      obtain ⟨hstored, hlive⟩ := Option.filter_eq_some_iff.mp hfound
      refine hwrites (fun promotion => { promotion with branchId, code }) (fun _ _ => ⟨rfl, rfl⟩)
        ((updatePromotion_refused_iff hstored).mpr ?_)
      refine codeIsTaken_iff.mpr ⟨i, deleted, hget, hb, hc, ?_⟩
      -- the promotion that is updated was not deleted
      rintro rfl
      obtain rfl := Option.some.inj (hget.symm.trans hstored)
      simp [hdeleted] at hlive
  · intro hfree haccepts
    have hown : ∀ i other, db.get (.promotion, i) = some other → other.branchId = branchId →
        other.code = code → some i = existingPromotionId := by
      intro i other hget hb hc
      have hlive : ¬ other.isDeleted = true := fun hdeleted =>
        hfree ⟨i, other, hget, hb, hc, hdeleted⟩
      rw [h.find hget hb hc, if_neg hlive] at haccepts
      simpa using haccepts
    cases existingPromotionId with
    | none =>
      intro promotionId data hnew hb hc hrefused
      obtain ⟨i, other, hget, hb', hc', -⟩ :=
        codeIsTaken_iff.mp ((createPromotion_refused_iff hnew).mp hrefused)
      cases hown i other hget (hb'.trans hb) (hc'.trans hc)
    | some promotionId =>
      intro data hdata hrefused
      obtain ⟨promotion, hfound, -⟩ := hbranch promotionId rfl
      have hstored := (Option.filter_eq_some_iff.mp hfound).1
      obtain ⟨hb, hc⟩ := hdata promotion hstored
      obtain ⟨i, other, hget, hb', hc', hne⟩ :=
        codeIsTaken_iff.mp ((updatePromotion_refused_iff hstored).mp hrefused)
      exact hne (Option.some.inj (hown i other hget (hb'.trans hb) (hc'.trans hc)))

/-! ## Runs of requests -/

theorem promotion_put {promotionId i : Id} {promotion other : Promotion}
    (h : (db.put ⟨.promotion, promotionId, some promotion⟩).get (.promotion, i) = some other) :
    i = promotionId ∧ other = promotion ∨
      i ≠ promotionId ∧ db.get (.promotion, i) = some other := by
  by_cases hi : i = promotionId
  · subst hi
    have hself : (db.put ⟨.promotion, i, some promotion⟩).get (.promotion, i) = some promotion :=
      Db.get_put_self ..
    exact .inl ⟨rfl, Option.some.inj (h.symm.trans hself)⟩
  · rw [Db.get_put_ne _ (fun hk => hi (Prod.mk.inj hk).2)] at h
    exact .inr ⟨hi, h⟩

theorem CodesUnique.put (h : CodesUnique db) {promotionId : Id} {promotion : Promotion}
    (hfree : codeIsTaken db promotionId promotion = false) :
    CodesUnique (db.put ⟨.promotion, promotionId, some promotion⟩) := by
  have hother : ∀ i other, db.get (.promotion, i) = some other → i ≠ promotionId →
      other.branchId = promotion.branchId → other.code ≠ promotion.code := by
    intro i other hget hi hb hc
    have htaken : codeIsTaken db promotionId promotion = true :=
      codeIsTaken_iff.mpr ⟨i, other, hget, hb, hc, hi⟩
    rw [htaken] at hfree
    cases hfree
  intro i j first second hi hj hb hc
  rcases promotion_put hi with ⟨rfl, rfl⟩ | ⟨hi', hfirst⟩ <;>
    rcases promotion_put hj with ⟨rfl, rfl⟩ | ⟨hj', hsecond⟩
  · rfl
  · exact (hother j second hsecond hj' hb.symm hc.symm).elim
  · exact (hother i first hfirst hi' hb hc).elim
  · exact h i j first second hfirst hsecond hb hc

theorem createPromotion_codesUnique (promotionId : Id) (data : Promotion) :
    (createPromotion promotionId data).Maintains CodesUnique fun _ => True := by
  intro db h promotion db' hrun
  obtain ⟨_, db₁, hinsert, hret⟩ := Tx.run_bind_ok hrun
  cases hret
  obtain ⟨hviolation, rfl⟩ := Tx.run_insertRow_ok hinsert
  refine ⟨h.put ?_, True.intro⟩
  by_contra htaken
  rw [Bool.not_eq_false] at htaken
  by_cases hnew : (db.get (.promotion, promotionId)).isSome = true
  · simp [hnew] at hviolation
  · simp [hnew, htaken] at hviolation

theorem updatePromotion_codesUnique (promotionId : Id) (data : Promotion → Promotion) :
    (updatePromotion promotionId data).Maintains CodesUnique fun _ => True := by
  intro db h updated db' hrun
  obtain ⟨promotion, -, hfree, -, rfl⟩ := updatePromotion_run_ok.mp hrun
  exact ⟨h.put hfree, True.intro⟩

/-- Every request leaves the codes unique. -/
theorem service_codesUnique (call : PromotionCall) :
    (call.service table parseDate).Maintains CodesUnique fun _ => True := by
  have hpure : ∀ {α : Type} (r : Except Failure α),
      (Service.ofExcept r : StoreService α).Maintains CodesUnique fun _ => True :=
    fun _ => .ofExcept fun _ _ => True.intro
  cases call with
  | merchantCreate promotionId currentUser branchId payload =>
    exact .bind (.of_readOnly (requireOwnedBranch_readOnly _ _)) fun _ _ =>
      .bind (hpure _) fun _ _ =>
      .bind (hpure _) fun _ _ => .bind (hpure _) fun _ _ =>
        .bind (.of_readOnly (assertCodeIsAvailable_readOnly _ _ _ _)) fun _ _ =>
          .bind (hpure _) fun _ _ => .transaction (createPromotion_codesUnique _ _)
  | merchantUpdate currentUser branchId promotionId payload =>
    exact .bind (.of_readOnly (requireOwnedBranch_readOnly _ _)) fun _ _ =>
      .bind (.of_readOnly (requireBranchPromotion_readOnly _ _)) fun _ _ =>
        .bind (hpure _) fun _ _ => .bind (hpure _) fun _ _ => .bind (hpure _) fun _ _ =>
          .bind (.of_readOnly (assertNextCodeIsAvailable_readOnly _ _ _ _ _)) fun _ _ =>
            .bind (hpure _) fun _ _ => .transaction (updatePromotion_codesUnique _ _)
  | merchantDelete currentUser branchId promotionId =>
    exact .bind (.of_readOnly (requireOwnedBranch_readOnly _ _)) fun _ _ =>
      .bind (.of_readOnly (requireBranchPromotion_readOnly _ _)) fun _ _ =>
        .transaction (updatePromotion_codesUnique _ _)
  | adminCreate promotionId branchId payload =>
    exact .bind (hpure _) fun _ _ => .bind (hpure _) fun _ _ => .bind (hpure _) fun _ _ =>
      .bind (.of_readOnly (assertCodeIsAvailable_readOnly _ _ _ _)) fun _ _ =>
        .bind (hpure _) fun _ _ => .transaction (createPromotion_codesUnique _ _)
  | adminUpdate promotionId payload =>
    exact .bind (.of_readOnly (.get _)) fun _ _ => .bind (.of_readOnly (.orFail ..)) fun _ _ =>
      .bind (hpure _) fun _ _ =>
        .bind (.of_readOnly (assertNextCodeIsAvailable_readOnly _ _ _ _ _)) fun _ _ =>
          .bind (hpure _) fun _ _ => .transaction (updatePromotion_codesUnique _ _)

/-- **The check for a code is complete** in the states that a run of requests reaches, except for
the codes of deleted promotions. -/
theorem code_check_complete_iff (h : CodesUnique db) (calls : List PromotionCall) :
    Always (PromotionCall.run table parseDate) (fun reached =>
      ∀ details branchId code existingPromotionId, OfBranch reached branchId existingPromotionId →
        (CheckComplete details reached branchId code existingPromotionId ↔
          ¬ KeptByDeleted reached branchId code)) calls db := by
  refine Always.mono (fun reached hunique => ?_) calls
    (always_of_inv (fun call _ hunique => (service_codesUnique call).run hunique) calls h)
  intro details branchId code existingPromotionId hbranch
  exact CodesUnique.checkComplete_iff hunique hbranch

/-! ## A code that was deleted -/

/-- A merchant's branch without promotions. -/
def ownedBranch : Store := Db.empty.apply [
  ⟨.merchant, 1, some { userId := 10, status := .active }⟩,
  ⟨.branch, 1, some { merchantId := 1, status := .active }⟩]

def branchOwner : AuthenticatedUser where
  userId := 10
  role := .merchant
  merchantId := some 1
  customerProfileId := none
  riderId := none

/-- The merchant deletes the promotion of a fixed amount. -/
def deleteFixedAmount : PromotionCall := .merchantDelete branchOwner 1 7

theorem hundredth_le : (1 / 100 : ℚ) ≤ 150 := by norm_num

theorem all_undefined {α : Type} (p : α → Prop) : (Field.undefined : Field α).All p := by
  simp [Field.All]

/-- An admin creates it again. -/
def addFixedAmountAgain : PromotionCall := .adminCreate 8 1 {
  code := "save", name := "Save", discountType := .fixedAmount, discountValue := 150
  discountValue_min := hundredth_le, minimumSubtotalAmount_min := all_undefined _
  maximumDiscountAmount_min := all_undefined _, perCustomerLimit_min := all_undefined _ }

/-- The row that this would add. -/
def savedAgain : Promotion where
  branchId := 1
  code := "SAVE"
  name := "Save"
  description := none
  discountType := .fixedAmount
  discountValue := 150
  minimumSubtotalAmount := 0
  maximumDiscountAmount := none
  perCustomerLimit := none
  startsAt := none
  endsAt := none
  isActive := true
  isDeleted := false

theorem ownedBranch_codesUnique : CodesUnique ownedBranch := by
  intro i j promotion other hget
  rw [ownedBranch, Db.get_apply_of_table (by simp)] at hget
  cases hget

theorem deleted_code_refused : CodesUnique ownedBranch ∧
    ¬ Always (PromotionCall.run .ascii fun _ => none) (fun reached =>
      ∀ details branchId code existingPromotionId, OfBranch reached branchId existingPromotionId →
        CheckComplete details reached branchId code existingPromotionId)
      [addFixedAmount, deleteFixedAmount] ownedBranch ∧
    ((addFixedAmountAgain.service .ascii fun _ => none).run
      (runAll (PromotionCall.run .ascii fun _ => none) [addFixedAmount, deleteFixedAmount]
        ownedBranch)).1.map (fun _ => ()) = .error (.uniqueConstraint "branchId_code") := by
  refine ⟨ownedBranch_codesUnique, ?_, by decide +kernel⟩
  rintro ⟨-, -, hcomplete⟩
  have hadmits := hcomplete [] 1 "SAVE" none (fun _ hmem => by cases hmem)
    (assertCodeIsAvailable_run_ok.mpr (by decide +kernel))
  have hnew : (runAll (PromotionCall.run .ascii fun _ => none) [addFixedAmount, deleteFixedAmount]
      ownedBranch).get (.promotion, 8) = none := by
    decide +kernel
  exact hadmits 8 savedAgain hnew rfl rfl
    ((createPromotion_refused_iff hnew).mpr (by decide +kernel))

theorem code_check_complete_iff_afterDelete :
    Always (PromotionCall.run .ascii fun _ => none) (fun reached =>
      ∀ details branchId code existingPromotionId, OfBranch reached branchId existingPromotionId →
        (CheckComplete details reached branchId code existingPromotionId ↔
          ¬ KeptByDeleted reached branchId code))
      [addFixedAmount, deleteFixedAmount] ownedBranch :=
  code_check_complete_iff ownedBranch_codesUnique [addFixedAmount, deleteFixedAmount]

end WerTe.Promotions
