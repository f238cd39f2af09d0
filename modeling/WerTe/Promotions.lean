import Mathlib.Tactic.Linarith
import WerTe.Checkout
import WerTe.ReadCommitted.Frame
import WerTe.ReadCommitted.Sequential

/-!
# The promotions of a branch

`merchant-promotions.service.ts` and `admin-promotions.service.ts` write the same table, each with
validation of its own. A merchant's update is checked as it will be stored, together with the
fields that it leaves alone. An admin's update is not, so it can make a percentage of more than a
hundred or a window that ends before it begins (`stored_promotions_valid`); and an admin's requests
drop the limit per customer that they carry.

The answers' counts and names are left out; the answer to a request is the stored promotion.
-/

namespace WerTe

open ReadCommitted CheckoutPricing

/-! ## Requests -/

/-- `CreatePromotionDto`, as its validators let it through. -/
structure CreatePromotionDto where
  code : String
  name : String
  description : Field String := .undefined
  discountType : PromotionDiscountType
  discountValue : ℚ
  minimumSubtotalAmount : Field ℚ := .undefined
  maximumDiscountAmount : Field ℚ := .undefined
  perCustomerLimit : Field ℤ := .undefined
  startsAt : Field String := .undefined
  endsAt : Field String := .undefined
  isActive : Field Bool := .undefined
  discountValue_min : 1 / 100 ≤ discountValue
  minimumSubtotalAmount_min : minimumSubtotalAmount.All (0 ≤ ·) := by simp [Field.All]
  maximumDiscountAmount_min : maximumDiscountAmount.All (1 / 100 ≤ ·) := by simp [Field.All]
  perCustomerLimit_min : perCustomerLimit.All (1 ≤ ·) := by simp [Field.All]

/-- `UpdatePromotionDto`: the same fields, all of them optional. -/
structure UpdatePromotionDto where
  code : Field String := .undefined
  name : Field String := .undefined
  description : Field String := .undefined
  discountType : Field PromotionDiscountType := .undefined
  discountValue : Field ℚ := .undefined
  minimumSubtotalAmount : Field ℚ := .undefined
  maximumDiscountAmount : Field ℚ := .undefined
  perCustomerLimit : Field ℤ := .undefined
  startsAt : Field String := .undefined
  endsAt : Field String := .undefined
  isActive : Field Bool := .undefined
  discountValue_min : discountValue.All (1 / 100 ≤ ·) := by simp [Field.All]
  minimumSubtotalAmount_min : minimumSubtotalAmount.All (0 ≤ ·) := by simp [Field.All]
  maximumDiscountAmount_min : maximumDiscountAmount.All (1 / 100 ≤ ·) := by simp [Field.All]
  perCustomerLimit_min : perCustomerLimit.All (1 ≤ ·) := by simp [Field.All]

/-! ## `promotions.repository.ts` -/

namespace PromotionsRepository

def findPromotionById (db : Store) (promotionId : Id) : Option Promotion :=
  (db.get (.promotion, promotionId)).filter fun promotion => !promotion.isDeleted

/-- Another promotion, deleted or not, has the branch and the code. -/
def codeIsTaken (db : Store) (promotionId : Id) (promotion : Promotion) : Bool :=
  (db.list .promotion fun other => other.branchId == promotion.branchId &&
    other.code == promotion.code).any fun other => other.1 != promotionId

def createPromotion (promotionId : Id) (data : Promotion) : StoreTx Promotion := do
  .insertRow (.promotion, promotionId) data fun db =>
    if (db.get (.promotion, promotionId)).isSome then some (.uniqueConstraint "id")
    else if codeIsTaken db promotionId data then some (.uniqueConstraint "branchId_code")
    else if (db.get (.branch, data.branchId)).isNone then some (.foreignKeyConstraint "branchId")
    else none
  pure data

def updatePromotion (promotionId : Id) (data : Promotion → Promotion) : StoreTx Promotion :=
  .attempt fun db =>
    match db.get (.promotion, promotionId) with
    | none => .error .recordNotFound
    | some promotion =>
      if codeIsTaken db promotionId (data promotion) then .error (.uniqueConstraint "branchId_code")
      else .ok (data promotion, [⟨.promotion, promotionId, some (data promotion)⟩])

def softDeletePromotion (promotionId : Id) : StoreTx Promotion :=
  updatePromotion promotionId fun promotion => { promotion with isDeleted := true }

end PromotionsRepository

open PromotionsRepository

/-! ## What both services check and store -/

namespace Promotions

section Services

/- `new Date(value)` is `none` when the date is invalid -/
variable (table : CaseTable) (parseDate : String → Option Date)

/-- A date or `null`; the date may be an invalid one. -/
def toOptionalDate (value : Field String) : Option (Option Date) :=
  value.toOption.bind fun date => if (trim date).length = 0 then none else some (parseDate date)

/-- What a date column is set to, if it is. -/
def dateColumn (column : String) (value : Field String) : Except Failure (Option (Option Date)) :=
  if value = .undefined then .ok none
  else
    match toOptionalDate parseDate value with
    | none => .ok (some none)
    | some none => .error (.invalidArgument column)
    | some (some date) => .ok (some (some date))

/-- A comparison with an invalid date does not hold. -/
def assertPromotionWindow (startsAt endsAt : Option (Option Date)) : Except Failure Unit :=
  if ((startsAt.bind id).any fun startDate => (endsAt.bind id).any fun endDate =>
      endDate ≤ startDate) = true then
    .error (fail "Promotion end time must be later than the start time." .unprocessableEntity)
  else .ok ()

/-- The services word the first error differently. -/
def assertDiscountPayload (percentageError : String) (discountType : PromotionDiscountType)
    (discountValue : ℚ) (maximumDiscountAmount : Option ℚ) : Except Failure Unit :=
  if discountType = .percentage ∧ 100 < discountValue then
    .error (fail percentageError .unprocessableEntity)
  else if (maximumDiscountAmount.any fun maximum => maximum ≤ 0) = true then
    .error (fail "Maximum discount amount must be greater than zero." .unprocessableEntity)
  else .ok ()

def requireNormalizedCode (code : Option String) : Except Failure String :=
  match normalizePromotionCode table code with
  | some normalized => .ok normalized
  | none => .error (fail "A non-empty promotion code is required." .unprocessableEntity)

/-- The code is no other promotion's; the services give different details. -/
def assertCodeIsAvailable (details : List (String × Detail)) (branchId : Id) (code : String)
    (existingPromotionId : Option Id) : StoreService Unit := do
  let existing ← .get fun db => findPromotionByBranchIdAndCode db branchId code
  .require (existing.all (fun promotion => some promotion.1 == existingPromotionId) = true)
    (fail "This promotion code is already in use for the branch." .conflict details)

/-- The code that an update leads to. -/
def nextCode (code : Field String) (existing : String) : Except Failure String :=
  if code = .undefined then .ok existing else requireNormalizedCode table code.toOption

/-- A code that changes must be available. -/
def assertNextCodeIsAvailable (details : List (String × Detail)) (branchId : Id)
    (existing next : String) (promotionId : Id) : StoreService Unit :=
  if next ≠ existing then assertCodeIsAvailable details branchId next (some promotionId)
  else pure ()

/-- The stored row of a new promotion, but for the limit per customer. -/
def createRow (payload : CreatePromotionDto) (branchId : Id)
    (code : String) : Except Failure Promotion := do
  let startsAt ← dateColumn parseDate "startsAt" payload.startsAt
  let endsAt ← dateColumn parseDate "endsAt" payload.endsAt
  return {
    branchId, code
    name := trim payload.name
    description := normalizeOptionalString payload.description.toOption
    discountType := payload.discountType
    discountValue := payload.discountValue
    minimumSubtotalAmount := payload.minimumSubtotalAmount.toOption.getD 0
    maximumDiscountAmount := payload.maximumDiscountAmount.toOption
    perCustomerLimit := none
    startsAt := startsAt.getD none
    endsAt := endsAt.getD none
    isActive := payload.isActive.toOption.getD true
    isDeleted := false }

/-- What an update changes a promotion to, but for the limit per customer. -/
def updateData (payload : UpdatePromotionDto) (code : String) :
    Except Failure (Promotion → Promotion) := do
  let name ← payload.name.required "name"
  let discountType ← payload.discountType.required "discountType"
  let discountValue ← payload.discountValue.required "discountValue"
  let minimumSubtotalAmount ← payload.minimumSubtotalAmount.required "minimumSubtotalAmount"
  let startsAt ← dateColumn parseDate "startsAt" payload.startsAt
  let endsAt ← dateColumn parseDate "endsAt" payload.endsAt
  let isActive ← payload.isActive.required "isActive"
  return fun promotion => { promotion with
    code := if payload.code = .undefined then promotion.code else code
    name := (name.map trim).getD promotion.name
    description := if payload.description = .undefined then promotion.description
      else normalizeOptionalString payload.description.toOption
    discountType := discountType.getD promotion.discountType
    discountValue := discountValue.getD promotion.discountValue
    minimumSubtotalAmount := minimumSubtotalAmount.getD promotion.minimumSubtotalAmount
    maximumDiscountAmount := payload.maximumDiscountAmount.setNullable promotion.maximumDiscountAmount
    startsAt := startsAt.getD promotion.startsAt
    endsAt := endsAt.getD promotion.endsAt
    isActive := isActive.getD promotion.isActive }

/-! ## `merchant-promotions.service.ts` -/

def requireOwnedBranch (currentUser : AuthenticatedUser) (branchId : Id) : StoreService Unit := do
  let found ← .get fun db => (db.get (.branch, branchId)).bind fun branch =>
    (db.get (.merchant, branch.merchantId)).filter fun merchant =>
      merchant.userId == currentUser.userId
  let _ ← .orFail found (fail "The requested branch was not found for the authenticated merchant."
    .notFound)
  pure ()

def requireBranchPromotion (branchId promotionId : Id) : StoreService Promotion := do
  let found ← .get fun db => findPromotionById db promotionId
  .orFail (found.filter fun promotion => promotion.branchId == branchId)
    (fail "Promotion was not found." .notFound)

def merchantPercentageError : String := "Percentage promotions cannot exceed 100 percent."

def createBranchPromotion (promotionId : Id) (currentUser : AuthenticatedUser) (branchId : Id)
    (payload : CreatePromotionDto) : StoreService Promotion := do
  requireOwnedBranch currentUser branchId
  .ofExcept (assertPromotionWindow (toOptionalDate parseDate payload.startsAt)
    (toOptionalDate parseDate payload.endsAt))
  .ofExcept (assertDiscountPayload merchantPercentageError payload.discountType
    payload.discountValue payload.maximumDiscountAmount.toOption)
  let code ← .ofExcept (requireNormalizedCode table (some payload.code))
  assertCodeIsAvailable [("branchId", .id branchId), ("code", .text code)] branchId code none
  let row ← .ofExcept (createRow parseDate payload branchId code)
  .transaction (createPromotion promotionId
    { row with perCustomerLimit := payload.perCustomerLimit.toOption })

/-- The date that the window is checked with: the stored one unless the update sets it. -/
def nextDate (value : Field String) (stored : Option Date) : Option (Option Date) :=
  if value = .undefined then stored.map some else toOptionalDate parseDate value

def updateBranchPromotion (currentUser : AuthenticatedUser) (branchId promotionId : Id)
    (payload : UpdatePromotionDto) : StoreService Promotion := do
  requireOwnedBranch currentUser branchId
  let promotion ← requireBranchPromotion branchId promotionId
  let code ← .ofExcept (nextCode table payload.code promotion.code)
  .ofExcept (assertPromotionWindow (nextDate parseDate payload.startsAt promotion.startsAt)
    (nextDate parseDate payload.endsAt promotion.endsAt))
  .ofExcept (assertDiscountPayload merchantPercentageError
    (payload.discountType.toOption.getD promotion.discountType)
    (payload.discountValue.toOption.getD promotion.discountValue)
    (payload.maximumDiscountAmount.setNullable promotion.maximumDiscountAmount))
  assertNextCodeIsAvailable [("branchId", .id branchId), ("code", .text code)] branchId
    promotion.code code promotionId
  let data ← .ofExcept (updateData parseDate payload code)
  .transaction (updatePromotion promotionId fun promotion => { data promotion with
    perCustomerLimit := payload.perCustomerLimit.setNullable promotion.perCustomerLimit })

def deleteBranchPromotion (currentUser : AuthenticatedUser) (branchId promotionId : Id) :
    StoreService Promotion := do
  requireOwnedBranch currentUser branchId
  let _ ← requireBranchPromotion branchId promotionId
  .transaction (softDeletePromotion promotionId)

/-! ## `admin-promotions.service.ts` -/

/-- The limit per customer that the payload may carry is not stored. -/
def adminCreatePromotion (promotionId branchId : Id) (payload : CreatePromotionDto) :
    StoreService Promotion := do
  .ofExcept (assertPromotionWindow (toOptionalDate parseDate payload.startsAt)
    (toOptionalDate parseDate payload.endsAt))
  .ofExcept (assertDiscountPayload "Percentage promotions cannot exceed 100%."
    payload.discountType payload.discountValue payload.maximumDiscountAmount.toOption)
  let code ← .ofExcept (requireNormalizedCode table (some payload.code))
  assertCodeIsAvailable [] branchId code none
  let row ← .ofExcept (createRow parseDate payload branchId code)
  .transaction (createPromotion promotionId row)

/-- Neither the window nor the discount is checked, and the limit per customer is not stored. -/
def adminUpdatePromotion (promotionId : Id) (payload : UpdatePromotionDto) :
    StoreService Promotion := do
  let found ← .get fun db => findPromotionById db promotionId
  let existing ← .orFail found (fail "Promotion not found." .notFound)
  let code ← .ofExcept (nextCode table payload.code existing.code)
  assertNextCodeIsAvailable [] existing.branchId existing.code code promotionId
  let data ← .ofExcept (updateData parseDate payload code)
  .transaction (updatePromotion promotionId data)

end Services

/-- A request to one of the services; a new promotion's id is made up. -/
inductive PromotionCall
  | merchantCreate (promotionId : Id) (currentUser : AuthenticatedUser) (branchId : Id)
      (payload : CreatePromotionDto)
  | merchantUpdate (currentUser : AuthenticatedUser) (branchId promotionId : Id)
      (payload : UpdatePromotionDto)
  | merchantDelete (currentUser : AuthenticatedUser) (branchId promotionId : Id)
  | adminCreate (promotionId branchId : Id) (payload : CreatePromotionDto)
  | adminUpdate (promotionId : Id) (payload : UpdatePromotionDto)

namespace PromotionCall

variable (table : CaseTable) (parseDate : String → Option Date)

def service : PromotionCall → StoreService Promotion
  | merchantCreate promotionId currentUser branchId payload =>
    createBranchPromotion table parseDate promotionId currentUser branchId payload
  | merchantUpdate currentUser branchId promotionId payload =>
    updateBranchPromotion table parseDate currentUser branchId promotionId payload
  | merchantDelete currentUser branchId promotionId =>
    deleteBranchPromotion currentUser branchId promotionId
  | adminCreate promotionId branchId payload =>
    adminCreatePromotion table parseDate promotionId branchId payload
  | adminUpdate promotionId payload => adminUpdatePromotion table parseDate promotionId payload

/-- The database after a request. -/
def run (call : PromotionCall) (db : Store) : Store := ((call.service table parseDate).run db).2

end PromotionCall

/-! ## What is asked of a stored promotion -/

/-- The percentage and the window are possible ones. -/
structure Fits (promotion : Promotion) : Prop where
  percentage : promotion.discountType = .percentage → promotion.discountValue ≤ 100
  window : ∀ startsAt endsAt, promotion.startsAt = some startsAt → promotion.endsAt = some endsAt →
    startsAt < endsAt

/-- The code is as `normalizePromotionCode` makes it. -/
structure CodeNormalized (table : CaseTable) (code : String) : Prop where
  ne_empty : code ≠ ""
  trimmed : trim code = code
  upperCase : toUpperCase table code = code

/-- A promotion as it is to be stored. -/
structure ValidPromotion (table : CaseTable) (promotion : Promotion) : Prop extends
    Fits promotion where
  maximum : ∀ maximum, promotion.maximumDiscountAmount = some maximum → 0 < maximum
  code : CodeNormalized table promotion.code

/-- All stored promotions are valid. -/
def StoredValid (table : CaseTable) (db : Store) : Prop :=
  ∀ i promotion, db.get (.promotion, i) = some promotion → ValidPromotion table promotion

/-- An admin's update that passes everything the service and the database check: the promotion is
there, its new code is one and no other promotion's, and every value can be stored. -/
structure AdminAccepts (table : CaseTable) (parseDate : String → Option Date) (db : Store)
    (promotionId : Id) (payload : UpdatePromotionDto) (promotion : Promotion) (code : String)
    (data : Promotion → Promotion) : Prop where
  found : findPromotionById db promotionId = some promotion
  normalized : nextCode table payload.code promotion.code = .ok code
  available : code ≠ promotion.code →
    (findPromotionByBranchIdAndCode db promotion.branchId code).all (fun other =>
      some other.1 == some promotionId) = true
  stored : updateData parseDate payload code = .ok data
  unique : codeIsTaken db promotionId (data promotion) = false

/-- The request is an admin's update that is accepted and that leaves the promotion, with the
fields that were there before, with an impossible percentage or window. -/
def PromotionCall.Misfits (table : CaseTable) (parseDate : String → Option Date) :
    PromotionCall → Store → Prop
  | .adminUpdate promotionId payload, db => ∃ promotion code data,
    AdminAccepts table parseDate db promotionId payload promotion code data ∧ ¬ Fits (data promotion)
  | _, _ => False

/-! ## What the checks establish -/

section Checks

variable {table : CaseTable} {parseDate : String → Option Date}

theorem codeNormalized_of_eq_some {code : Option String} {normalized : String}
    (h : normalizePromotionCode table code = some normalized) : CodeNormalized table normalized := by
  have hupper : Trimmed (toUpperCase table (trim (code.getD ""))) :=
    (trimmed_trim _).toUpperCase
  have hfixed : toUpperCase table (toUpperCase table (trim (code.getD ""))) =
      toUpperCase table (trim (code.getD "")) := toUpperCase_toUpperCase _
  rw [normalizePromotionCode] at h
  generalize toUpperCase table (trim (code.getD "")) = upper at h hupper hfixed
  by_cases hlength : upper.length = 0
  · rw [if_pos hlength] at h
    cases h
  · rw [if_neg hlength] at h
    obtain rfl : upper = normalized := Option.some.inj h
    refine ⟨?_, hupper.trim_eq_self, hfixed⟩
    rintro rfl
    exact hlength rfl

theorem requireNormalizedCode_ok {code : Option String} {normalized : String}
    (h : requireNormalizedCode table code = .ok normalized) : CodeNormalized table normalized := by
  rw [requireNormalizedCode] at h
  cases hcode : normalizePromotionCode table code with
  | none =>
    rw [hcode] at h
    cases h
  | some normalized' =>
    rw [hcode] at h
    cases h
    exact codeNormalized_of_eq_some hcode

theorem assertPromotionWindow_ok {startsAt endsAt : Option (Option Date)} {u : Unit}
    (h : assertPromotionWindow startsAt endsAt = .ok u) {startDate endDate : Date}
    (hstart : startsAt.bind id = some startDate) (hend : endsAt.bind id = some endDate) :
    startDate < endDate := by
  simp only [assertPromotionWindow, hstart, hend, Option.any_some, decide_eq_true_eq] at h
  split at h
  next => cases h
  next hle => exact not_le.mp hle

theorem assertDiscountPayload_ok {percentageError : String}
    {discountType : PromotionDiscountType} {discountValue : ℚ} {maximumDiscountAmount : Option ℚ}
    {u : Unit}
    (h : assertDiscountPayload percentageError discountType discountValue maximumDiscountAmount =
      .ok u) : discountType = .percentage → discountValue ≤ 100 := by
  rw [assertDiscountPayload] at h
  split at h
  next => cases h
  next hpercentage => exact fun htype => not_lt.mp fun hlt => hpercentage ⟨htype, hlt⟩

theorem nextCode_ok {code : Field String} {existing next : String}
    (hexisting : CodeNormalized table existing) (h : nextCode table code existing = .ok next) :
    CodeNormalized table next := by
  rw [nextCode] at h
  split at h
  next =>
    cases h
    exact hexisting
  next => exact requireNormalizedCode_ok h

/-- The date that is stored is the one the window is checked with. -/
theorem dateColumn_ok {column : String} {value : Field String} {date : Option (Option Date)}
    (h : dateColumn parseDate column value = .ok date) (stored : Option Date) :
    date.getD stored = (nextDate parseDate value stored).bind id := by
  rw [dateColumn] at h
  rw [nextDate]
  split at h
  next hundefined =>
    cases h
    rw [if_pos hundefined]
    cases stored <;> rfl
  next hset =>
    rw [if_neg hset]
    cases hdate : toOptionalDate parseDate value with
    | none =>
      rw [hdate] at h
      cases h
      rfl
    | some parsed =>
      rw [hdate] at h
      cases parsed with
      | none => cases h
      | some date =>
        cases h
        rfl

theorem nextDate_none (value : Field String) :
    nextDate parseDate value none = toOptionalDate parseDate value := by
  rw [nextDate]
  split
  next h =>
    rw [h]
    rfl
  next => rfl

theorem required_eq {α : Type} {column : String} {field : Field α} {o : Option α}
    (h : field.required column = .ok o) : o = field.toOption := by
  cases field <;> cases h <;> rfl

/-! ## What the services store -/

theorem createRow_valid {payload : CreatePromotionDto} {branchId : Id} {code : String}
    {percentageError : String} {row : Promotion} {u u' : Unit}
    (hwindow : assertPromotionWindow (toOptionalDate parseDate payload.startsAt)
      (toOptionalDate parseDate payload.endsAt) = .ok u)
    (hdiscount : assertDiscountPayload percentageError payload.discountType payload.discountValue
      payload.maximumDiscountAmount.toOption = .ok u')
    (hcode : requireNormalizedCode table (some payload.code) = .ok code)
    (hrow : createRow parseDate payload branchId code = .ok row) : ValidPromotion table row := by
  simp only [createRow, except_bind_ok] at hrow
  obtain ⟨startsAt, hstartsAt, endsAt, hendsAt, hrow⟩ := hrow
  cases hrow
  refine ⟨⟨assertDiscountPayload_ok hdiscount, fun startDate endDate hstart hend => ?_⟩,
    fun maximum hmaximum => ?_, requireNormalizedCode_ok hcode⟩
  · rw [dateColumn_ok hstartsAt, nextDate_none] at hstart
    rw [dateColumn_ok hendsAt, nextDate_none] at hend
    exact assertPromotionWindow_ok hwindow hstart hend
  · have hmin := payload.maximumDiscountAmount_min
    cases hfield : payload.maximumDiscountAmount with
    | undefined => simp [hfield, Field.toOption] at hmaximum
    | null => simp [hfield, Field.toOption] at hmaximum
    | value m =>
      obtain rfl : m = maximum := by simpa [hfield, Field.toOption] using hmaximum
      have hle : (1 / 100 : ℚ) ≤ m := hmin m hfield
      linarith

/-- The columns of an updated promotion that are checked. -/
structure UpdatedColumns (parseDate : String → Option Date) (payload : UpdatePromotionDto)
    (code : String) (promotion updated : Promotion) : Prop where
  discountType : updated.discountType = payload.discountType.toOption.getD promotion.discountType
  discountValue : updated.discountValue =
    payload.discountValue.toOption.getD promotion.discountValue
  maximum : updated.maximumDiscountAmount =
    payload.maximumDiscountAmount.setNullable promotion.maximumDiscountAmount
  startsAt : updated.startsAt = (nextDate parseDate payload.startsAt promotion.startsAt).bind id
  endsAt : updated.endsAt = (nextDate parseDate payload.endsAt promotion.endsAt).bind id
  code : updated.code = if payload.code = .undefined then promotion.code else code

theorem updateData_columns {payload : UpdatePromotionDto} {code : String}
    {data : Promotion → Promotion} (h : updateData parseDate payload code = .ok data)
    (promotion : Promotion) : UpdatedColumns parseDate payload code promotion (data promotion) := by
  simp only [updateData, except_bind_ok] at h
  obtain ⟨_, _, _, htype, _, hvalue, _, _, _, hstartsAt, _, hendsAt, _, _, hdata⟩ := h
  cases hdata
  exact ⟨by rw [required_eq htype], by rw [required_eq hvalue], rfl,
    dateColumn_ok hstartsAt _, dateColumn_ok hendsAt _, rfl⟩

/-- Of an updated promotion, what the request alone does not settle is whether it fits. -/
theorem UpdatedColumns.valid_iff {payload : UpdatePromotionDto} {code : String}
    {promotion updated : Promotion} (h : UpdatedColumns parseDate payload code promotion updated)
    (hvalid : ValidPromotion table promotion)
    (hcode : nextCode table payload.code promotion.code = .ok code) :
    ValidPromotion table updated ↔ Fits updated := by
  refine ⟨fun hupdated => hupdated.toFits, fun hfits => ⟨hfits, fun maximum hmaximum => ?_, ?_⟩⟩
  · rw [h.maximum] at hmaximum
    cases hfield : payload.maximumDiscountAmount with
    | undefined =>
      rw [hfield] at hmaximum
      exact hvalid.maximum maximum hmaximum
    | null =>
      rw [hfield] at hmaximum
      cases hmaximum
    | value m =>
      rw [hfield] at hmaximum
      cases hmaximum
      have hle : (1 / 100 : ℚ) ≤ maximum := payload.maximumDiscountAmount_min maximum hfield
      linarith
  · rw [h.code]
    split
    next => exact hvalid.code
    next => exact nextCode_ok hvalid.code hcode

end Checks

/-! ## When the services return -/

section Runs

variable {table : CaseTable} {parseDate : String → Option Date} {db db' : Store}

theorem createPromotion_run_ok {promotionId : Id} {data promotion : Promotion}
    (h : (createPromotion promotionId data).run db = .ok (promotion, db')) :
    db' = db.put ⟨.promotion, promotionId, some data⟩ := by
  obtain ⟨_, db₁, hinsert, hret⟩ := Tx.run_bind_ok h
  cases hret
  exact (Tx.run_insertRow_ok hinsert).2

theorem updatePromotion_run_ok {promotionId : Id} {data : Promotion → Promotion}
    {updated : Promotion} : (updatePromotion promotionId data).run db = .ok (updated, db') ↔
      ∃ promotion, db.get (.promotion, promotionId) = some promotion ∧
        codeIsTaken db promotionId (data promotion) = false ∧ updated = data promotion ∧
        db' = db.put ⟨.promotion, promotionId, some (data promotion)⟩ := by
  simp only [updatePromotion, Tx.attempt, Tx.run]
  cases hget : db.get (.promotion, promotionId) with
  | none => simp
  | some promotion =>
    cases htaken : codeIsTaken db promotionId (data promotion) with
    | true => simp [htaken]
    | false =>
      simp only [htaken, Bool.false_eq_true, if_false, Db.apply_cons, Db.apply_nil,
        Except.ok.injEq, Prod.mk.injEq, Option.some.injEq]
      constructor
      · rintro ⟨rfl, rfl⟩
        exact ⟨promotion, rfl, htaken, rfl, rfl⟩
      · rintro ⟨_, rfl, -, rfl, rfl⟩
        exact ⟨rfl, rfl⟩

theorem requireOwnedBranch_readOnly (currentUser : AuthenticatedUser) (branchId : Id) :
    (requireOwnedBranch currentUser branchId).ReadOnly :=
  .bind (.get _) fun _ => .bind (.orFail ..) fun _ => .ret _

theorem requireBranchPromotion_readOnly (branchId promotionId : Id) :
    (requireBranchPromotion branchId promotionId).ReadOnly :=
  .bind (.get _) fun _ => .orFail ..

theorem assertCodeIsAvailable_readOnly (details : List (String × Detail)) (branchId : Id)
    (code : String) (existingPromotionId : Option Id) :
    (assertCodeIsAvailable details branchId code existingPromotionId).ReadOnly :=
  .bind (.get _) fun _ => .require ..

theorem assertNextCodeIsAvailable_readOnly (details : List (String × Detail)) (branchId : Id)
    (existing next : String) (promotionId : Id) :
    (assertNextCodeIsAvailable details branchId existing next promotionId).ReadOnly := by
  rw [assertNextCodeIsAvailable]
  split
  · exact assertCodeIsAvailable_readOnly _ _ _ _
  · exact .ret _

theorem assertNextCodeIsAvailable_run_ok {details : List (String × Detail)} {branchId : Id}
    {existing next : String} {promotionId : Id} {u : Unit} :
    (assertNextCodeIsAvailable details branchId existing next promotionId).run db = (.ok u, db') ↔
      (next ≠ existing → (findPromotionByBranchIdAndCode db branchId next).all (fun other =>
        some other.1 == some promotionId) = true) ∧ db' = db := by
  rw [assertNextCodeIsAvailable]
  by_cases hnext : next = existing
  · simp [hnext, Service.run_ret_ok]
  · simp only [hnext, ne_eq, not_false_eq_true, if_true, forall_const, assertCodeIsAvailable,
      Service.bind_eq, Service.run_bind_ok, Service.run_get_ok, Service.run_require_ok]
    constructor
    · rintro ⟨_, _, ⟨rfl, rfl⟩, havailable, rfl⟩
      exact ⟨havailable, rfl⟩
    · rintro ⟨havailable, rfl⟩
      exact ⟨_, _, ⟨rfl, rfl⟩, havailable, rfl⟩

/-- A request that fails changes nothing. -/
theorem PromotionCall.atomic (call : PromotionCall) : (call.service table parseDate).Atomic := by
  cases call with
  | merchantCreate promotionId currentUser branchId payload =>
    exact .bind (requireOwnedBranch_readOnly _ _) fun _ => .bind (.ofExcept _) fun _ =>
      .bind (.ofExcept _) fun _ => .bind (.ofExcept _) fun _ =>
        .bind (assertCodeIsAvailable_readOnly _ _ _ _) fun _ => .bind (.ofExcept _) fun _ =>
          .transaction _
  | merchantUpdate currentUser branchId promotionId payload =>
    exact .bind (requireOwnedBranch_readOnly _ _) fun _ =>
      .bind (requireBranchPromotion_readOnly _ _) fun _ => .bind (.ofExcept _) fun _ =>
        .bind (.ofExcept _) fun _ => .bind (.ofExcept _) fun _ =>
          .bind (assertNextCodeIsAvailable_readOnly _ _ _ _ _) fun _ => .bind (.ofExcept _) fun _ =>
            .transaction _
  | merchantDelete currentUser branchId promotionId =>
    exact .bind (requireOwnedBranch_readOnly _ _) fun _ =>
      .bind (requireBranchPromotion_readOnly _ _) fun _ => .transaction _
  | adminCreate promotionId branchId payload =>
    exact .bind (.ofExcept _) fun _ => .bind (.ofExcept _) fun _ => .bind (.ofExcept _) fun _ =>
      .bind (assertCodeIsAvailable_readOnly _ _ _ _) fun _ => .bind (.ofExcept _) fun _ =>
        .transaction _
  | adminUpdate promotionId payload =>
    exact .bind (.get _) fun _ => .bind (.orFail ..) fun _ => .bind (.ofExcept _) fun _ =>
      .bind (assertNextCodeIsAvailable_readOnly _ _ _ _ _) fun _ => .bind (.ofExcept _) fun _ =>
        .transaction _

/-- An admin's update goes through exactly when it is accepted. -/
theorem adminUpdatePromotion_run_ok {promotionId : Id} {payload : UpdatePromotionDto}
    {updated : Promotion} :
    (adminUpdatePromotion table parseDate promotionId payload).run db = (.ok updated, db') ↔
      ∃ promotion code data,
        AdminAccepts table parseDate db promotionId payload promotion code data ∧
        updated = data promotion ∧
        db' = db.put ⟨.promotion, promotionId, some (data promotion)⟩ := by
  simp only [adminUpdatePromotion, Service.bind_eq, Service.run_bind_ok, Service.run_get_ok,
    Service.run_orFail_ok, Service.run_ofExcept_ok, assertNextCodeIsAvailable_run_ok,
    Service.run_transaction_ok, updatePromotion_run_ok]
  have hget : ∀ promotion, findPromotionById db promotionId = some promotion →
      db.get (.promotion, promotionId) = some promotion := fun promotion hfound =>
    (Option.filter_eq_some_iff.mp hfound).1
  constructor
  · rintro ⟨_, _, ⟨rfl, rfl⟩, promotion, _, ⟨hfound, rfl⟩, code, _, ⟨hcode, rfl⟩, _, _,
      ⟨havailable, rfl⟩, data, _, ⟨hdata, rfl⟩, promotion', hget', htaken, rfl, rfl⟩
    obtain rfl : promotion = promotion' := Option.some.inj ((hget _ hfound).symm.trans hget')
    exact ⟨promotion, code, data, ⟨hfound, hcode, havailable, hdata, htaken⟩, rfl, rfl⟩
  · rintro ⟨promotion, code, data, haccepts, rfl, rfl⟩
    exact ⟨_, _, ⟨rfl, rfl⟩, promotion, _, ⟨haccepts.found, rfl⟩, code, _,
      ⟨haccepts.normalized, rfl⟩, (), _, ⟨haccepts.available, rfl⟩, data, _,
      ⟨haccepts.stored, rfl⟩, promotion, hget _ haccepts.found, haccepts.unique, rfl, rfl⟩

/-! ## Stored promotions -/

theorem StoredValid.put {promotionId : Id} {promotion : Promotion} (h : StoredValid table db)
    (hvalid : ValidPromotion table promotion) :
    StoredValid table (db.put ⟨.promotion, promotionId, some promotion⟩) := by
  intro i other hget
  by_cases hi : i = promotionId
  · subst hi
    have hself : (db.put ⟨.promotion, i, some promotion⟩).get (.promotion, i) = some promotion :=
      Db.get_put_self ..
    obtain rfl : promotion = other := Option.some.inj (hself.symm.trans hget)
    exact hvalid
  · rw [Db.get_put_ne _ (fun hk => hi (Prod.mk.inj hk).2)] at hget
    exact h i other hget

/-- The limit per customer is not asked about. -/
theorem ValidPromotion.withLimit {promotion : Promotion} (h : ValidPromotion table promotion)
    (limit : Option ℤ) : ValidPromotion table { promotion with perCustomerLimit := limit } :=
  ⟨⟨h.percentage, h.window⟩, h.maximum, h.code⟩

theorem createBranchPromotion_storedValid (h : StoredValid table db) {promotionId branchId : Id}
    {currentUser : AuthenticatedUser} {payload : CreatePromotionDto} {promotion : Promotion}
    (hrun : (createBranchPromotion table parseDate promotionId currentUser branchId payload).run db =
      (.ok promotion, db')) : StoredValid table db' := by
  obtain ⟨_, -, hrun₁⟩ := (requireOwnedBranch_readOnly _ _).run_bind_ok hrun
  obtain ⟨_, hwindow, hrun₂⟩ := Service.run_ofExcept_bind_ok hrun₁
  obtain ⟨_, hdiscount, hrun₃⟩ := Service.run_ofExcept_bind_ok hrun₂
  obtain ⟨code, hcode, hrun₄⟩ := Service.run_ofExcept_bind_ok hrun₃
  obtain ⟨_, -, hrun₅⟩ := (assertCodeIsAvailable_readOnly _ _ _ _).run_bind_ok hrun₄
  obtain ⟨row, hrow, htx⟩ := Service.run_ofExcept_bind_ok hrun₅
  rw [createPromotion_run_ok (Service.run_transaction_ok.mp htx)]
  exact h.put ((createRow_valid hwindow hdiscount hcode hrow).withLimit _)

theorem adminCreatePromotion_storedValid (h : StoredValid table db) {promotionId branchId : Id}
    {payload : CreatePromotionDto} {promotion : Promotion}
    (hrun : (adminCreatePromotion table parseDate promotionId branchId payload).run db =
      (.ok promotion, db')) : StoredValid table db' := by
  obtain ⟨_, hwindow, hrun₁⟩ := Service.run_ofExcept_bind_ok hrun
  obtain ⟨_, hdiscount, hrun₂⟩ := Service.run_ofExcept_bind_ok hrun₁
  obtain ⟨code, hcode, hrun₃⟩ := Service.run_ofExcept_bind_ok hrun₂
  obtain ⟨_, -, hrun₄⟩ := (assertCodeIsAvailable_readOnly _ _ _ _).run_bind_ok hrun₃
  obtain ⟨row, hrow, htx⟩ := Service.run_ofExcept_bind_ok hrun₄
  rw [createPromotion_run_ok (Service.run_transaction_ok.mp htx)]
  exact h.put (createRow_valid hwindow hdiscount hcode hrow)

/-- A merchant's update is checked as it is stored. -/
theorem updateBranchPromotion_storedValid (h : StoredValid table db) {promotionId branchId : Id}
    {currentUser : AuthenticatedUser} {payload : UpdatePromotionDto} {updated : Promotion}
    (hrun : (updateBranchPromotion table parseDate currentUser branchId promotionId payload).run db =
      (.ok updated, db')) : StoredValid table db' := by
  obtain ⟨_, -, hrun₁⟩ := (requireOwnedBranch_readOnly _ _).run_bind_ok hrun
  obtain ⟨promotion, hfound, hrun₂⟩ :=
    (requireBranchPromotion_readOnly _ _).run_bind_ok hrun₁
  obtain ⟨code, hcode, hrun₃⟩ := Service.run_ofExcept_bind_ok hrun₂
  obtain ⟨_, hwindow, hrun₄⟩ := Service.run_ofExcept_bind_ok hrun₃
  obtain ⟨_, hdiscount, hrun₅⟩ := Service.run_ofExcept_bind_ok hrun₄
  obtain ⟨_, -, hrun₆⟩ := (assertNextCodeIsAvailable_readOnly _ _ _ _ _).run_bind_ok hrun₅
  obtain ⟨data, hdata, htx⟩ := Service.run_ofExcept_bind_ok hrun₆
  obtain ⟨promotion', hget, -, -, rfl⟩ :=
    updatePromotion_run_ok.mp (Service.run_transaction_ok.mp htx)
  -- the promotion that was checked is the one that is updated
  have hread : db.get (.promotion, promotionId) = some promotion := by
    simp only [requireBranchPromotion, Service.bind_eq, Service.run_bind_ok, Service.run_get_ok,
      Service.run_orFail_ok] at hfound
    obtain ⟨_, _, ⟨rfl, rfl⟩, hfilter, -⟩ := hfound
    exact (Option.filter_eq_some_iff.mp (Option.filter_eq_some_iff.mp hfilter).1).1
  obtain rfl : promotion = promotion' := Option.some.inj (hread.symm.trans hget)
  have hcolumns := updateData_columns hdata promotion
  have hfits : Fits (data promotion) := by
    refine ⟨fun htype => ?_, fun startDate endDate hstart hend => ?_⟩
    · rw [hcolumns.discountType] at htype
      rw [hcolumns.discountValue]
      exact assertDiscountPayload_ok hdiscount htype
    · rw [hcolumns.startsAt] at hstart
      rw [hcolumns.endsAt] at hend
      exact assertPromotionWindow_ok hwindow hstart hend
  exact h.put (((hcolumns.valid_iff (h _ _ hget) hcode).mpr hfits).withLimit _)

theorem deleteBranchPromotion_storedValid (h : StoredValid table db) {promotionId branchId : Id}
    {currentUser : AuthenticatedUser} {deleted : Promotion}
    (hrun : (deleteBranchPromotion currentUser branchId promotionId).run db =
      (.ok deleted, db')) : StoredValid table db' := by
  obtain ⟨_, -, hrun₁⟩ := (requireOwnedBranch_readOnly _ _).run_bind_ok hrun
  obtain ⟨_, -, htx⟩ := (requireBranchPromotion_readOnly _ _).run_bind_ok hrun₁
  obtain ⟨promotion, hget, -, -, rfl⟩ :=
    updatePromotion_run_ok.mp (Service.run_transaction_ok.mp htx)
  have hvalid := h _ _ hget
  exact h.put ⟨⟨hvalid.percentage, hvalid.window⟩, hvalid.maximum, hvalid.code⟩

/-- An admin's update keeps the stored promotions valid if and only if the promotion fits. -/
theorem adminUpdatePromotion_storedValid (h : StoredValid table db) {promotionId : Id}
    {payload : UpdatePromotionDto} {promotion : Promotion} {code : String}
    {data : Promotion → Promotion}
    (haccepts : AdminAccepts table parseDate db promotionId payload promotion code data) :
    StoredValid table (db.put ⟨.promotion, promotionId, some (data promotion)⟩) ↔
      Fits (data promotion) := by
  have hget : db.get (.promotion, promotionId) = some promotion :=
    (Option.filter_eq_some_iff.mp haccepts.found).1
  have hiff := (updateData_columns haccepts.stored promotion).valid_iff (h _ _ hget)
    haccepts.normalized
  refine ⟨fun hstored => ?_, fun hfits => h.put (hiff.mpr hfits)⟩
  exact hiff.mp (hstored promotionId _ (Db.get_put_self ..))

/-- One request: the stored promotions stay valid unless it misfits. -/
theorem PromotionCall.run_storedValid (h : StoredValid table db) (call : PromotionCall) :
    StoredValid table (call.run table parseDate db) ↔ ¬ call.Misfits table parseDate db := by
  have hkept : (∀ promotion db', (call.service table parseDate).run db = (.ok promotion, db') →
      StoredValid table db') → StoredValid table (call.run table parseDate db) := by
    intro hok
    rcases (call.atomic).cases db with hsame | ⟨promotion, hrun⟩
    · rwa [run, hsame]
    · exact hok promotion _ hrun
  cases call with
  | merchantCreate promotionId currentUser branchId payload =>
    exact iff_of_true (hkept fun _ _ => createBranchPromotion_storedValid h) not_false
  | merchantUpdate currentUser branchId promotionId payload =>
    exact iff_of_true (hkept fun _ _ => updateBranchPromotion_storedValid h) not_false
  | merchantDelete currentUser branchId promotionId =>
    exact iff_of_true (hkept fun _ _ => deleteBranchPromotion_storedValid h) not_false
  | adminCreate promotionId branchId payload =>
    exact iff_of_true (hkept fun _ _ => adminCreatePromotion_storedValid h) not_false
  | adminUpdate promotionId payload =>
    constructor
    · rintro hstored ⟨promotion, code, data, haccepts, hmisfit⟩
      have hrun := adminUpdatePromotion_run_ok.mpr ⟨promotion, code, data, haccepts, rfl, rfl⟩
      have hafter : (PromotionCall.adminUpdate promotionId payload).run table parseDate db =
          db.put ⟨.promotion, promotionId, some (data promotion)⟩ := congrArg Prod.snd hrun
      rw [hafter] at hstored
      exact hmisfit ((adminUpdatePromotion_storedValid h haccepts).mp hstored)
    · intro hfits
      refine hkept fun updated db' hrun => ?_
      obtain ⟨promotion, code, data, haccepts, -, rfl⟩ := adminUpdatePromotion_run_ok.mp hrun
      refine (adminUpdatePromotion_storedValid h haccepts).mpr ?_
      by_contra hmisfit
      exact hfits ⟨promotion, code, data, haccepts, hmisfit⟩

/-- **Stored promotions stay valid** in every state of a run of requests if and only if none of
them is an admin's update that is accepted and leaves an impossible percentage or window. -/
theorem stored_promotions_valid (h : StoredValid table db) (calls : List PromotionCall) :
    Always (PromotionCall.run table parseDate) (StoredValid table) calls db ↔
      MeetAll (PromotionCall.run table parseDate)
        (fun call db => ¬ call.Misfits table parseDate db) calls db :=
  always_iff_of_step (fun call _ hvalid => call.run_storedValid hvalid) calls h

end Runs

/-! ## A percentage of 150 -/

/-- A branch without promotions. -/
def promotionBranch : Store := Db.empty.apply [
  ⟨.branch, 1, some { merchantId := 1, status := .active }⟩]

/-- An admin creates a promotion of a fixed amount of 150. -/
def addFixedAmount : PromotionCall := .adminCreate 7 1 {
  code := "save", name := "Save", discountType := .fixedAmount, discountValue := 150
  discountValue_min := by norm_num }

/-- An admin changes its type to a percentage. -/
def makePercentage : PromotionCall := .adminUpdate 7 { discountType := .value .percentage }

theorem promotionBranch_storedValid (table : CaseTable) : StoredValid table promotionBranch := by
  intro i promotion hget
  rw [promotionBranch, Db.get_apply_of_table (by simp)] at hget
  cases hget

theorem percentage_of_150 : StoredValid .ascii promotionBranch ∧
    ¬ StoredValid .ascii (runAll (PromotionCall.run .ascii fun _ => none)
      [addFixedAmount, makePercentage] promotionBranch) := by
  refine ⟨promotionBranch_storedValid _, fun hvalid => ?_⟩
  have hstored : ((runAll (PromotionCall.run .ascii fun _ => none)
      [addFixedAmount, makePercentage] promotionBranch).get (.promotion, 7)).map
        (fun promotion => (promotion.discountType, promotion.discountValue)) =
      some (.percentage, 150) := by
    decide +kernel
  obtain ⟨promotion, hget, hcolumns⟩ := Option.map_eq_some_iff.mp hstored
  have hle := (hvalid 7 promotion hget).percentage (congrArg Prod.fst hcolumns)
  rw [show promotion.discountValue = 150 from congrArg Prod.snd hcolumns] at hle
  norm_num at hle

theorem stored_promotions_valid_created :
    Always (PromotionCall.run .ascii fun _ => none) (StoredValid .ascii) [addFixedAmount]
        promotionBranch ↔
      MeetAll (PromotionCall.run .ascii fun _ => none)
        (fun call db => ¬ call.Misfits .ascii (fun _ => none) db) [addFixedAmount]
        promotionBranch :=
  stored_promotions_valid (promotionBranch_storedValid _) [addFixedAmount]

end Promotions

end WerTe
