import WerTe.Keyed.Table
import WerTe.MerchantInventory
import WerTe.ReadCommitted.Sequential
import WerTe.VerticalCatalogRules

/-!
# The catalog rules of what is stored

The item writes of `merchant-menu-items.service.ts`. The kinds of shop whose rules an item should
meet are those it is scoped to, or those that its branch is approved for, or the branch's own.

Creating an item falls back to the branch's own kind and updating one does not. The rules hold of
what is stored as long as no update makes use of that (`rules_hold_iff`).
-/

namespace WerTe.VerticalRules

open Keyed MenusRepository ReadCommitted

/-! ## What is stored -/

structure CatalogBranch where
  merchantId : Id
  merchantUserId : Id
  storeType : String
  primaryStoreTypeId : Option String

structure CatalogStoreType where
  code : String
  name : String
  sortOrder : ℤ
  isActive : Bool
  deletedAt : Option Date

structure CatalogAssignment where
  status : BranchStoreTypeStatus
  isPrimary : Bool
  sortOrder : ℤ
  createdAt : Date

/-- Of the attributes the keys; the store types are those the item is scoped to. -/
structure CatalogItem where
  branchId : Id
  categoryId : Option String
  sku : Option String
  brand : Option String
  attributes : Option (List String)
  stock : TrackedStock
  storeTypeIds : List String
deriving DecidableEq

structure Catalog where
  branches : Table Id CatalogBranch
  /-- the branch of each category -/
  categories : Table String Id
  storeTypes : Table String CatalogStoreType
  assignments : Table (Id × String) CatalogAssignment
  items : Table Id CatalogItem

def toSummary (id : String) (storeType : CatalogStoreType) : MenuVerticalStoreTypeSummary :=
  ⟨id, storeType.code, storeType.name, storeType.sortOrder⟩

/-- The primary one first. -/
def assignmentBefore (left right : (Id × String) × CatalogAssignment) : Bool :=
  (((compare right.2.isPrimary left.2.isPrimary).then
    (compare left.2.sortOrder right.2.sortOrder)).then
      (compare left.2.createdAt right.2.createdAt)) != .gt

/-- `MenusRepository.listApprovedStoreTypesByBranchId`, as the rules read them. -/
def loadApprovedRuleStoreTypes (catalog : Catalog) (branchId : Id) :
    List MenuVerticalStoreTypeSummary :=
  let assignments := catalog.assignments.entries.filter fun row =>
    row.1.1 == branchId && row.2.status == .approved
  let sorted := assignments.insertionSort fun left right => assignmentBefore left right
  sorted.filterMap fun row =>
    ((catalog.storeTypes.get row.1.2).filter fun storeType =>
      storeType.isActive && storeType.deletedAt.isNone).map (toSummary row.1.2)

/-- The store types an item is scoped to. -/
def scopedStoreTypes (catalog : Catalog) (storeTypeIds : List String) :
    List MenuVerticalStoreTypeSummary :=
  storeTypeIds.filterMap fun id => (catalog.storeTypes.get id).map (toSummary id)

/-! ## `merchant-menu-items.service.ts` -/

/-- The fields of a request that the rules look at: undefined, `null`, or a value. -/
structure MenuItemRequest where
  categoryId : Option (Option String) := none
  sku : Option (Option String) := none
  brand : Option (Option String) := none
  attributes : Option (Option (List String)) := none
  inventory : InventoryPayload := {}
  storeTypeIds : Option (Option (List String)) := none

def refuse (message : String) (status : HttpStatus) : CatalogFailure :=
  .failure (fail message status)

section Service

variable (texts : TextFunctions) (catalog : Catalog) (currentUser : AuthenticatedUser)
  (branchId : Id)

def hasMerchantAccess (branch : CatalogBranch) : Bool :=
  hasOwnedResourceAccess currentUser .merchant branch.merchantUserId branch.merchantId
    currentUser.merchantId

def resolveOwnedBranch : Except CatalogFailure CatalogBranch :=
  match (catalog.branches.get branchId).filter (·.merchantUserId == currentUser.userId) with
  | none => .error (refuse "Branch was not found." .notFound)
  | some branch =>
    if hasMerchantAccess currentUser branch then .ok branch
    else .error
      (refuse "You are not allowed to manage menu items for this branch." .forbidden)

/-- The item with its branch. -/
def findItemOwnedByUserId (itemId : Id) : Option (CatalogItem × CatalogBranch) := do
  let item ← catalog.items.get itemId
  let branch ← catalog.branches.get item.branchId
  guard (branch.merchantUserId = currentUser.userId)
  return (item, branch)

def resolveOwnedItem (itemId : Id) : Except CatalogFailure CatalogItem :=
  match (findItemOwnedByUserId catalog currentUser itemId).filter (·.1.branchId == branchId) with
  | none => .error (refuse "Menu item was not found for the requested branch." .notFound)
  | some (item, branch) =>
    if hasMerchantAccess currentUser branch then .ok item
    else .error (refuse "You are not allowed to manage this menu item." .forbidden)

def findCategoryOwnedByUserId (categoryId : String) : Option (Id × CatalogBranch) := do
  let owner ← catalog.categories.get categoryId
  let branch ← catalog.branches.get owner
  guard (branch.merchantUserId = currentUser.userId)
  return (owner, branch)

/-- `null` has no `trim`. -/
def resolveOptionalOwnedCategory :
    Option (Option String) → Except CatalogFailure (Option String)
  | none => .ok none
  | some none => .error (.failure .typeError)
  | some (some categoryId) =>
    if (trim categoryId).length = 0 then .ok none
    else
      match (findCategoryOwnedByUserId catalog currentUser categoryId).filter
        (·.1 == branchId) with
      | none => .error (refuse "Menu category was not found for the requested branch." .notFound)
      | some (_, branch) =>
        if hasMerchantAccess currentUser branch then .ok (some categoryId)
        else .error (refuse "You are not allowed to use this menu category." .forbidden)

def normalizeStoreTypeIds : Option (Option (List String)) → Except CatalogFailure (List String)
  | none => .ok []
  | some none => .error (.failure .typeError)
  | some (some storeTypeIds) =>
    .ok ((storeTypeIds.map trim).filter (fun storeTypeId => storeTypeId.length != 0)).eraseDups

def resolveScopedStoreTypeIds (storeTypeIds : Option (Option (List String)))
    (approvedStoreTypes : List MenuVerticalStoreTypeSummary) :
    Except CatalogFailure (List String) := do
  let normalizedStoreTypeIds ← normalizeStoreTypeIds storeTypeIds
  let invalidStoreTypeIds := normalizedStoreTypeIds.filter fun storeTypeId =>
    ! (approvedStoreTypes.map (·.id)).contains storeTypeId
  if invalidStoreTypeIds.isEmpty then return normalizedStoreTypeIds
  else throw (.invalidStoreTypeIds
    { message :=
        "Item storeTypeIds must belong to approved active store types for the branch."
      status := .badRequest, code := some "VALIDATION_FAILED" } branchId invalidStoreTypeIds)

def filterStoreTypesByIds (approvedStoreTypes : List MenuVerticalStoreTypeSummary)
    (scopedStoreTypeIds : List String) : List MenuVerticalStoreTypeSummary :=
  approvedStoreTypes.filter fun storeType => scopedStoreTypeIds.contains storeType.id

/-- `split('_')`, the first letter of each part in upper case. -/
def humanizeStoreTypeCode (storeTypeCode : String) : String :=
  let segments := (storeTypeCode.toList.splitOn '_').filter (! ·.isEmpty)
  " ".intercalate (segments.map fun segment =>
    texts.toUpperCase (.ofList (segment.take 1)) ++ .ofList (segment.drop 1))

def resolveBranchDefaultRuleStoreTypes (approvedStoreTypes : List MenuVerticalStoreTypeSummary)
    (fallbackStoreTypeCode : Option String := none) (fallbackStoreTypeId : Option String := none) :
    List MenuVerticalStoreTypeSummary :=
  if approvedStoreTypes.isEmpty then
    let normalizedStoreTypeCode :=
      (fallbackStoreTypeCode.map fun code => texts.toLowerCase (trim code)).getD ""
    if normalizedStoreTypeCode.length = 0 then []
    else [{
      id := fallbackStoreTypeId.getD ("branch_primary_store_type:" ++ normalizedStoreTypeCode)
      code := normalizedStoreTypeCode
      name := humanizeStoreTypeCode texts normalizedStoreTypeCode
      sortOrder := 0 }]
  else approvedStoreTypes

def resolveCreateEffectiveRuleStoreTypes (branch : CatalogBranch)
    (approvedStoreTypes : List MenuVerticalStoreTypeSummary) (scopedStoreTypeIds : List String) :
    List MenuVerticalStoreTypeSummary :=
  if scopedStoreTypeIds.isEmpty then
    resolveBranchDefaultRuleStoreTypes texts approvedStoreTypes (some branch.storeType)
      branch.primaryStoreTypeId
  else filterStoreTypesByIds approvedStoreTypes scopedStoreTypeIds

/-- No fallback is given here. -/
def resolveUpdateEffectiveRuleStoreTypes (item : CatalogItem)
    (approvedStoreTypes : List MenuVerticalStoreTypeSummary) :
    Option (List String) → List MenuVerticalStoreTypeSummary
  | some scopedStoreTypeIds =>
    if scopedStoreTypeIds.isEmpty then resolveBranchDefaultRuleStoreTypes texts approvedStoreTypes
    else filterStoreTypesByIds approvedStoreTypes scopedStoreTypeIds
  | none =>
    if (scopedStoreTypes catalog item.storeTypeIds).isEmpty then
      resolveBranchDefaultRuleStoreTypes texts approvedStoreTypes
    else scopedStoreTypes catalog item.storeTypeIds

/-- The database client takes no `null` for a column of JSON. -/
def toOptionalJson : Option (Option (List String)) → Except CatalogFailure (Option (List String))
  | none => .ok none
  | some none => .error (.failure (.invalidArgument "attributesJson"))
  | some (some keys) => .ok (some keys)

/-- The row is written, with its scope. -/
def createItem (newId : Id) (item : CatalogItem) : Except CatalogFailure Catalog :=
  if (catalog.items.get newId).isSome then .error (.failure (.uniqueConstraint "id"))
  else .ok { catalog with items := catalog.items.set newId item }

def createBranchItem (newId : Id) (payload : MenuItemRequest) : Except CatalogFailure Catalog := do
  let branch ← resolveOwnedBranch catalog currentUser branchId
  let category ← resolveOptionalOwnedCategory catalog currentUser branchId payload.categoryId
  let stock ← (normalizeCreateInventory payload.inventory).mapError .failure
  let approvedStoreTypes := loadApprovedRuleStoreTypes catalog branchId
  let scopedStoreTypeIds ←
    resolveScopedStoreTypeIds branchId payload.storeTypeIds approvedStoreTypes
  let effectiveStoreTypes :=
    resolveCreateEffectiveRuleStoreTypes texts branch approvedStoreTypes scopedStoreTypeIds
  assertMenuVerticalCatalogRules texts effectiveStoreTypes {
    sku := payload.sku.join
    brand := payload.brand.join
    attributes := payload.attributes.join
    isStockTracked := stock.isStockTracked }
  let attributes ← toOptionalJson payload.attributes
  createItem catalog newId {
    branchId, categoryId := category
    sku := payload.sku.join, brand := payload.brand.join
    attributes, stock, storeTypeIds := scopedStoreTypeIds }

def resolveNextItemStockTracking (payload : InventoryPayload) (isStockTracked : Bool) : Bool :=
  payload.isStockTracked.getD
    (payload.stockQuantity.isSome || payload.lowStockThreshold.isSome || isStockTracked)

/-- What an update has looked up when it comes to the rules. -/
structure ItemUpdate where
  item : CatalogItem
  category : Option String
  inventoryData : StockData
  approvedStoreTypes : List MenuVerticalStoreTypeSummary
  scopedStoreTypeIds : Option (List String)
deriving DecidableEq

/-- The part of `updateBranchItem` before the rules. -/
def resolveItemUpdate (itemId : Id) (payload : MenuItemRequest) :
    Except CatalogFailure ItemUpdate := do
  let item ← resolveOwnedItem catalog currentUser branchId itemId
  let category ← resolveOptionalOwnedCategory catalog currentUser branchId payload.categoryId
  let inventoryData ← (normalizeUpdateInventory assertWholeNumbers payload.inventory
    item.stock.isStockTracked).mapError .failure
  let approvedStoreTypes := loadApprovedRuleStoreTypes catalog branchId
  let scopedStoreTypeIds ←
    if payload.storeTypeIds.isSome then
      (resolveScopedStoreTypeIds branchId payload.storeTypeIds approvedStoreTypes).map some
    else .ok none
  return { item, category, inventoryData, approvedStoreTypes, scopedStoreTypeIds }

/-- The fields of the request, or else of the item. -/
def nextRuleInput (payload : MenuItemRequest) (item : CatalogItem) :
    MenuVerticalCatalogRuleInput where
  sku := payload.sku.getD item.sku
  brand := payload.brand.getD item.brand
  attributes := payload.attributes.getD item.attributes
  isStockTracked := resolveNextItemStockTracking payload.inventory item.stock.isStockTracked

def ItemUpdate.next (update : ItemUpdate) (payload : MenuItemRequest)
    (attributes : Option (List String)) : CatalogItem where
  branchId := update.item.branchId
  categoryId := if payload.categoryId.isSome then update.category else update.item.categoryId
  sku := payload.sku.getD update.item.sku
  brand := payload.brand.getD update.item.brand
  attributes := attributes.or update.item.attributes
  stock := update.inventoryData.apply update.item.stock
  storeTypeIds := update.scopedStoreTypeIds.getD update.item.storeTypeIds

def updateBranchItem (itemId : Id) (payload : MenuItemRequest) : Except CatalogFailure Catalog := do
  let update ← resolveItemUpdate catalog currentUser branchId itemId payload
  let effectiveStoreTypes := resolveUpdateEffectiveRuleStoreTypes texts catalog update.item
    update.approvedStoreTypes update.scopedStoreTypeIds
  assertMenuVerticalCatalogRules texts effectiveStoreTypes (nextRuleInput payload update.item)
  let attributes ← toOptionalJson payload.attributes
  return { catalog with items := catalog.items.set itemId (update.next payload attributes) }

end Service

/-! ## Requests one after the other -/

/-- A request on the branch; an item that is created gets an id. -/
inductive CatalogCall
  | create (currentUser : AuthenticatedUser) (newId : Id) (payload : MenuItemRequest)
  | update (currentUser : AuthenticatedUser) (itemId : Id) (payload : MenuItemRequest)

def CatalogCall.attempt (texts : TextFunctions) (branchId : Id) (catalog : Catalog) :
    CatalogCall → Except CatalogFailure Catalog
  | create currentUser newId payload =>
    createBranchItem texts catalog currentUser branchId newId payload
  | update currentUser itemId payload =>
    updateBranchItem texts catalog currentUser branchId itemId payload

/-- A request that is refused leaves everything as it was. -/
def CatalogCall.run (texts : TextFunctions) (branchId : Id) (call : CatalogCall)
    (catalog : Catalog) : Catalog :=
  match call.attempt texts branchId catalog with
  | .ok catalog' => catalog'
  | .error _ => catalog

/-! ## What is stored meets the rules -/

def CatalogItem.ruleInput (item : CatalogItem) : MenuVerticalCatalogRuleInput where
  sku := item.sku
  brand := item.brand
  attributes := item.attributes
  isStockTracked := item.stock.isStockTracked

/-- What a branch is of its own. -/
def ownStoreTypes (texts : TextFunctions) (catalog : Catalog) (branchId : Id) :
    List MenuVerticalStoreTypeSummary :=
  (catalog.branches.get branchId).elim [] fun branch =>
    resolveBranchDefaultRuleStoreTypes texts [] (some branch.storeType) branch.primaryStoreTypeId

/-- The store types whose rules an item should meet: those it is scoped to, or those its branch is
approved for, or its branch's own. -/
def ruleStoreTypes (texts : TextFunctions) (catalog : Catalog) (branchId : Id)
    (storeTypeIds : List String) : List MenuVerticalStoreTypeSummary :=
  let ofItem := scopedStoreTypes catalog storeTypeIds
  let approved := loadApprovedRuleStoreTypes catalog branchId
  if ofItem ≠ [] then ofItem
  else if approved ≠ [] then approved
  else ownStoreTypes texts catalog branchId

def RulesHold (texts : TextFunctions) (branchId : Id) (catalog : Catalog) : Prop :=
  ∀ itemId item, catalog.items.get itemId = some item → item.branchId = branchId →
    MeetsAll texts item.ruleInput (ruleStoreTypes texts catalog branchId item.storeTypeIds)

/-- No update leaves an item without a scope, in a branch that is approved for nothing, with fields
that miss the rules of the branch's own store type. -/
def KeepsOwnRules (texts : TextFunctions) (branchId : Id) : CatalogCall → Catalog → Prop
  | .create .., _ => True
  | .update currentUser itemId payload, catalog =>
    ∀ update, resolveItemUpdate catalog currentUser branchId itemId payload = .ok update →
      payload.attributes ≠ some none → loadApprovedRuleStoreTypes catalog branchId = [] →
        scopedStoreTypes catalog (update.scopedStoreTypeIds.getD update.item.storeTypeIds) = [] →
          MeetsAll texts (nextRuleInput payload update.item) (ownStoreTypes texts catalog branchId)

section Scope

variable {texts : TextFunctions} {catalog : Catalog} {branchId : Id}

theorem mem_loadApproved {storeType : MenuVerticalStoreTypeSummary}
    (h : storeType ∈ loadApprovedRuleStoreTypes catalog branchId) :
    ∃ row, catalog.storeTypes.get storeType.id = some row ∧
      storeType = toSummary storeType.id row := by
  obtain ⟨assignment, -, hrow⟩ := List.mem_filterMap.mp h
  obtain ⟨row, hget, rfl⟩ := Option.map_eq_some_iff.mp hrow
  exact ⟨row, (Option.filter_eq_some_iff.mp hget).1, rfl⟩

/-- The approved store types that an item is scoped to are those it is scoped to. -/
theorem mem_filterStoreTypesByIds {storeTypeIds : List String}
    (hids : ∀ id ∈ storeTypeIds, id ∈ (loadApprovedRuleStoreTypes catalog branchId).map (·.id))
    (storeType : MenuVerticalStoreTypeSummary) :
    storeType ∈ filterStoreTypesByIds (loadApprovedRuleStoreTypes catalog branchId) storeTypeIds ↔
      storeType ∈ scopedStoreTypes catalog storeTypeIds := by
  rw [filterStoreTypesByIds, scopedStoreTypes, List.mem_filter, List.mem_filterMap,
    List.contains_iff_mem]
  constructor
  · rintro ⟨happroved, hid⟩
    obtain ⟨row, hrow, heq⟩ := mem_loadApproved happroved
    exact ⟨storeType.id, hid, by rw [hrow, Option.map_some, ← heq]⟩
  · rintro ⟨id, hid, hstoreType⟩
    obtain ⟨row, hrow, rfl⟩ := Option.map_eq_some_iff.mp hstoreType
    obtain ⟨approved, happroved, rfl⟩ := List.mem_map.mp (hids id hid)
    obtain ⟨row', hrow', heq⟩ := mem_loadApproved happroved
    obtain rfl := Option.some.inj (hrow.symm.trans hrow')
    exact ⟨heq ▸ happroved, hid⟩

theorem scopedStoreTypes_ne_nil {storeTypeIds : List String} (hne : storeTypeIds ≠ [])
    (hids : ∀ id ∈ storeTypeIds, id ∈ (loadApprovedRuleStoreTypes catalog branchId).map (·.id)) :
    scopedStoreTypes catalog storeTypeIds ≠ [] := by
  obtain ⟨id, rest, rfl⟩ := List.exists_cons_of_ne_nil hne
  obtain ⟨approved, happroved, hid⟩ := List.mem_map.mp (hids id List.mem_cons_self)
  obtain ⟨row, hrow, -⟩ := mem_loadApproved happroved
  rw [hid] at hrow
  refine List.ne_nil_of_mem (a := toSummary id row) ?_
  exact List.mem_filterMap.mpr ⟨id, List.mem_cons_self, by rw [hrow]; rfl⟩

/-- A scope that is let through is of approved store types. -/
theorem resolveScopedStoreTypeIds_ok {storeTypeIds : Option (Option (List String))}
    {approvedStoreTypes : List MenuVerticalStoreTypeSummary} {scopedIds : List String}
    (h : resolveScopedStoreTypeIds branchId storeTypeIds approvedStoreTypes = .ok scopedIds) :
    ∀ id ∈ scopedIds, id ∈ approvedStoreTypes.map (·.id) := by
  rw [resolveScopedStoreTypeIds, Checked.bind_ok_iff] at h
  obtain ⟨normalized, -, h⟩ := h
  dsimp only at h
  split at h
  case isFalse => cases h
  case isTrue hempty =>
    obtain rfl := Except.ok.inj h
    intro id hid
    have hvalid := List.filter_eq_nil_iff.mp (List.isEmpty_iff.mp hempty) id hid
    simpa using hvalid

theorem ruleStoreTypes_of_none {storeTypeIds : List String}
    (happroved : loadApprovedRuleStoreTypes catalog branchId = [])
    (hscope : scopedStoreTypes catalog storeTypeIds = []) :
    ruleStoreTypes texts catalog branchId storeTypeIds = ownStoreTypes texts catalog branchId := by
  rw [ruleStoreTypes, if_neg (not_not.mpr hscope), if_neg (not_not.mpr happroved)]

theorem meetsAll_congr {item : MenuVerticalCatalogRuleInput}
    {storeTypes storeTypes' : List MenuVerticalStoreTypeSummary}
    (h : ∀ storeType, storeType ∈ storeTypes ↔ storeType ∈ storeTypes') :
    MeetsAll texts item storeTypes ↔ MeetsAll texts item storeTypes' :=
  forall_congr' fun storeType => imp_congr_left (h storeType)

/-- **Creating an item looks at the store types whose rules it should meet.** -/
theorem meetsAll_createEffective {item : MenuVerticalCatalogRuleInput} {branch : CatalogBranch}
    {storeTypeIds : List String} (hbranch : catalog.branches.get branchId = some branch)
    (hids : ∀ id ∈ storeTypeIds, id ∈ (loadApprovedRuleStoreTypes catalog branchId).map (·.id)) :
    MeetsAll texts item (resolveCreateEffectiveRuleStoreTypes texts branch
        (loadApprovedRuleStoreTypes catalog branchId) storeTypeIds) ↔
      MeetsAll texts item (ruleStoreTypes texts catalog branchId storeTypeIds) := by
  by_cases hnil : storeTypeIds = []
  · subst hnil
    have hscope : scopedStoreTypes catalog [] = [] := rfl
    rw [ruleStoreTypes, hscope, resolveCreateEffectiveRuleStoreTypes, if_pos List.isEmpty_nil,
      if_neg (not_not.mpr rfl)]
    by_cases happroved : loadApprovedRuleStoreTypes catalog branchId = []
    · rw [happroved, if_neg (by simp), ownStoreTypes, hbranch, Option.elim_some]
    · rw [if_pos happroved, resolveBranchDefaultRuleStoreTypes, if_neg (by simpa using happroved)]
  · rw [ruleStoreTypes, if_pos (scopedStoreTypes_ne_nil hnil hids),
      resolveCreateEffectiveRuleStoreTypes, if_neg (by simpa using hnil)]
    exact meetsAll_congr (mem_filterStoreTypesByIds hids)

/-- **Updating one does not look at the branch's own store type.** -/
theorem meetsAll_updateEffective {item : MenuVerticalCatalogRuleInput} {stored : CatalogItem}
    {storeTypeIds : Option (List String)} (hids : ∀ given, storeTypeIds = some given →
      ∀ id ∈ given, id ∈ (loadApprovedRuleStoreTypes catalog branchId).map (·.id)) :
    MeetsAll texts item (resolveUpdateEffectiveRuleStoreTypes texts catalog stored
        (loadApprovedRuleStoreTypes catalog branchId) storeTypeIds) ↔
      (loadApprovedRuleStoreTypes catalog branchId = [] ∧
          scopedStoreTypes catalog (storeTypeIds.getD stored.storeTypeIds) = [] ∨
        MeetsAll texts item
          (ruleStoreTypes texts catalog branchId (storeTypeIds.getD stored.storeTypeIds))) := by
  have hdefault : resolveBranchDefaultRuleStoreTypes texts
      (loadApprovedRuleStoreTypes catalog branchId) =
        loadApprovedRuleStoreTypes catalog branchId := by
    cases loadApprovedRuleStoreTypes catalog branchId with
    | nil => rfl
    | cons => rfl
  -- without a scope it is what the branch is approved for
  have hunscoped : ∀ ids, scopedStoreTypes catalog ids = [] →
      (MeetsAll texts item (loadApprovedRuleStoreTypes catalog branchId) ↔
        (loadApprovedRuleStoreTypes catalog branchId = [] ∧ scopedStoreTypes catalog ids = [] ∨
          MeetsAll texts item (ruleStoreTypes texts catalog branchId ids))) := by
    intro ids hscope
    by_cases happroved : loadApprovedRuleStoreTypes catalog branchId = []
    · rw [happroved]
      exact iff_of_true (fun _ h => by cases h) (.inl ⟨rfl, hscope⟩)
    · rw [ruleStoreTypes, if_neg (by simpa using hscope), if_pos happroved]
      exact ⟨.inr, fun h => h.resolve_left fun hnone => happroved hnone.1⟩
  have hscoped : ∀ ids, scopedStoreTypes catalog ids ≠ [] →
      (MeetsAll texts item (scopedStoreTypes catalog ids) ↔
        (loadApprovedRuleStoreTypes catalog branchId = [] ∧ scopedStoreTypes catalog ids = [] ∨
          MeetsAll texts item (ruleStoreTypes texts catalog branchId ids))) := by
    intro ids hscope
    rw [ruleStoreTypes, if_pos hscope]
    exact ⟨.inr, fun h => h.resolve_left fun hnone => hscope hnone.2⟩
  cases storeTypeIds with
  | none =>
    rw [resolveUpdateEffectiveRuleStoreTypes, hdefault, Option.getD_none]
    split
    case isTrue h => exact hunscoped _ (List.isEmpty_iff.mp h)
    case isFalse h => exact hscoped _ (by simpa using h)
  | some given =>
    rw [resolveUpdateEffectiveRuleStoreTypes, hdefault, Option.getD_some]
    split
    case isTrue h =>
      obtain rfl := List.isEmpty_iff.mp h
      exact hunscoped [] rfl
    case isFalse h =>
      have hne : given ≠ [] := by simpa using h
      rw [← hscoped given (scopedStoreTypes_ne_nil hne (hids given rfl))]
      exact meetsAll_congr (mem_filterStoreTypesByIds (hids given rfl))

end Scope

/-! ## What a request does -/

section Calls

variable {texts : TextFunctions} {catalog catalog' : Catalog} {currentUser : AuthenticatedUser}
  {branchId : Id}

theorem resolveOwnedBranch_ok {branch : CatalogBranch}
    (h : resolveOwnedBranch catalog currentUser branchId = .ok branch) :
    catalog.branches.get branchId = some branch := by
  rw [resolveOwnedBranch] at h
  split at h
  case h_1 => cases h
  case h_2 found hfound =>
    split at h
    case isFalse => cases h
    case isTrue =>
      obtain rfl := Except.ok.inj h
      exact (Option.filter_eq_some_iff.mp hfound).1

theorem resolveOwnedItem_ok {itemId : Id} {item : CatalogItem}
    (h : resolveOwnedItem catalog currentUser branchId itemId = .ok item) :
    catalog.items.get itemId = some item ∧ item.branchId = branchId := by
  rw [resolveOwnedItem] at h
  split at h
  case h_1 => cases h
  case h_2 found branch hfound =>
    split at h
    case isFalse => cases h
    case isTrue =>
      obtain rfl := Except.ok.inj h
      obtain ⟨hfound, hbranch⟩ := Option.filter_eq_some_iff.mp hfound
      obtain ⟨row, hrow, hfound⟩ := Option.bind_eq_some_iff.mp hfound
      obtain ⟨owner, -, hfound⟩ := Option.bind_eq_some_iff.mp hfound
      obtain ⟨-, -, hfound⟩ := Option.bind_eq_some_iff.mp hfound
      obtain ⟨rfl, -⟩ := Prod.mk.inj (Option.some.inj hfound)
      exact ⟨hrow, by simpa using hbranch⟩

/-- What is stored as the attributes is what the rules looked at. -/
theorem toOptionalJson_ok {payload : Option (Option (List String))}
    {attributes : Option (List String)} (h : toOptionalJson payload = .ok attributes) :
    payload.join = attributes ∧ ∀ stored, payload.getD stored = attributes.or stored := by
  cases payload with
  | none =>
    obtain rfl := Except.ok.inj h
    exact ⟨rfl, fun _ => rfl⟩
  | some given =>
    cases given with
    | none => cases h
    | some keys =>
      obtain rfl := Except.ok.inj h
      exact ⟨rfl, fun _ => rfl⟩

/-- The stock that an update stores is tracked when the rules took it to be. -/
theorem normalizeUpdateInventory_isStockTracked {payload : InventoryPayload} {stock : TrackedStock}
    {data : StockData}
    (h : normalizeUpdateInventory assertWholeNumbers payload stock.isStockTracked = .ok data) :
    (data.apply stock).isStockTracked =
      resolveNextItemStockTracking payload stock.isStockTracked := by
  rw [normalizeUpdateInventory] at h
  rw [resolveNextItemStockTracking]
  split at h
  case isTrue hnothing =>
    obtain rfl := Except.ok.inj h
    simp only [Bool.and_eq_true, Option.isNone_iff_eq_none] at hnothing
    obtain ⟨⟨htracked, hquantity⟩, hthreshold⟩ := hnothing
    rw [htracked, hquantity, hthreshold]
    simp [StockData.apply]
  case isFalse =>
    obtain ⟨-, -, h⟩ := Checked.bind_ok_iff.mp h
    split at h
    case isTrue htracked =>
      obtain rfl := Except.ok.inj h
      rw [htracked]
      rfl
    case isFalse huntracked =>
      obtain rfl := Except.ok.inj h
      rw [Bool.not_eq_true] at huntracked
      rw [huntracked]
      rfl

/-- **An item that is created meets its rules.** -/
theorem createBranchItem_ok {newId : Id} {payload : MenuItemRequest}
    (h : createBranchItem texts catalog currentUser branchId newId payload = .ok catalog') :
    ∃ item, catalog' = { catalog with items := catalog.items.set newId item } ∧
      item.branchId = branchId ∧
        MeetsAll texts item.ruleInput
          (ruleStoreTypes texts catalog branchId item.storeTypeIds) := by
  rw [createBranchItem] at h
  simp only [Checked.bind_ok_iff] at h
  obtain ⟨branch, hbranch, category, -, stock, -, scopedIds, hscope, _, hrules, attributes,
    hattributes, hcreate⟩ := h
  have hmeets := assertMenuVerticalCatalogRules_ok_iff.mp hrules
  rw [meetsAll_createEffective (resolveOwnedBranch_ok hbranch)
    (resolveScopedStoreTypeIds_ok hscope), (toOptionalJson_ok hattributes).1] at hmeets
  rw [createItem] at hcreate
  split at hcreate
  case isTrue => cases hcreate
  case isFalse => exact ⟨_, (Except.ok.inj hcreate).symm, rfl, hmeets⟩

theorem resolveItemUpdate_ok {itemId : Id} {payload : MenuItemRequest} {update : ItemUpdate}
    (h : resolveItemUpdate catalog currentUser branchId itemId payload = .ok update) :
    catalog.items.get itemId = some update.item ∧ update.item.branchId = branchId ∧
      normalizeUpdateInventory assertWholeNumbers payload.inventory
        update.item.stock.isStockTracked = .ok update.inventoryData ∧
      update.approvedStoreTypes = loadApprovedRuleStoreTypes catalog branchId ∧
      ∀ given, update.scopedStoreTypeIds = some given →
        ∀ id ∈ given, id ∈ (loadApprovedRuleStoreTypes catalog branchId).map (·.id) := by
  rw [resolveItemUpdate] at h
  obtain ⟨item, hitem, h⟩ := Checked.bind_ok_iff.mp h
  obtain ⟨category, -, h⟩ := Checked.bind_ok_iff.mp h
  obtain ⟨data, hdata, h⟩ := Checked.bind_ok_iff.mp h
  obtain ⟨hget, hbranch⟩ := resolveOwnedItem_ok hitem
  have hdata := Checked.mapError_ok_iff.mp hdata
  dsimp only at h
  split at h
  case isTrue =>
    obtain ⟨scope, hscope, h⟩ := Checked.bind_ok_iff.mp h
    obtain ⟨scopedIds, hresolved, rfl⟩ := Checked.map_ok_iff.mp hscope
    obtain rfl := Except.ok.inj h
    refine ⟨hget, hbranch, hdata, rfl, fun given hgiven => ?_⟩
    obtain rfl := Option.some.inj hgiven
    exact resolveScopedStoreTypeIds_ok hresolved
  case isFalse =>
    obtain rfl := Except.ok.inj h
    exact ⟨hget, hbranch, hdata, rfl, fun given hgiven => by cases hgiven⟩

/-- **What an update stores is what the rules looked at.** -/
theorem ItemUpdate.next_ruleInput {itemId : Id} {payload : MenuItemRequest} {update : ItemUpdate}
    {attributes : Option (List String)}
    (hresolved : resolveItemUpdate catalog currentUser branchId itemId payload = .ok update)
    (hattributes : toOptionalJson payload.attributes = .ok attributes) :
    (update.next payload attributes).ruleInput = nextRuleInput payload update.item := by
  obtain ⟨-, -, hdata, -⟩ := resolveItemUpdate_ok hresolved
  rw [nextRuleInput, ← normalizeUpdateInventory_isStockTracked hdata,
    (toOptionalJson_ok hattributes).2]
  rfl

/-- An update goes through when what it leaves meets the rules, or when no rules are found. -/
theorem updateBranchItem_ok_iff {itemId : Id} {payload : MenuItemRequest} :
    updateBranchItem texts catalog currentUser branchId itemId payload = .ok catalog' ↔
      ∃ update attributes,
        resolveItemUpdate catalog currentUser branchId itemId payload = .ok update ∧
          toOptionalJson payload.attributes = .ok attributes ∧
          (loadApprovedRuleStoreTypes catalog branchId = [] ∧
              scopedStoreTypes catalog (update.next payload attributes).storeTypeIds = [] ∨
            MeetsAll texts (update.next payload attributes).ruleInput
              (ruleStoreTypes texts catalog branchId
                (update.next payload attributes).storeTypeIds)) ∧
          catalog' = { catalog with
            items := catalog.items.set itemId (update.next payload attributes) } := by
  rw [updateBranchItem]
  simp only [Checked.bind_ok_iff]
  constructor
  · rintro ⟨update, hresolved, _, hrules, attributes, hattributes, h⟩
    refine ⟨update, attributes, hresolved, hattributes, ?_, (Except.ok.inj h).symm⟩
    obtain ⟨-, -, -, happroved, hids⟩ := resolveItemUpdate_ok hresolved
    rw [ItemUpdate.next_ruleInput hresolved hattributes]
    rw [happroved] at hrules
    exact (meetsAll_updateEffective hids).mp (assertMenuVerticalCatalogRules_ok_iff.mp hrules)
  · rintro ⟨update, attributes, hresolved, hattributes, hmeets, rfl⟩
    refine ⟨update, hresolved, (), ?_, attributes, hattributes, rfl⟩
    obtain ⟨-, -, -, happroved, hids⟩ := resolveItemUpdate_ok hresolved
    rw [ItemUpdate.next_ruleInput hresolved hattributes] at hmeets
    rw [happroved]
    exact assertMenuVerticalCatalogRules_ok_iff.mpr ((meetsAll_updateEffective hids).mpr hmeets)

/-- **One item is written**, and the others are as they were. -/
theorem rulesHold_set {itemId : Id} {item : CatalogItem} (hold : RulesHold texts branchId catalog)
    (hbranch : item.branchId = branchId) :
    RulesHold texts branchId { catalog with items := catalog.items.set itemId item } ↔
      MeetsAll texts item.ruleInput
        (ruleStoreTypes texts catalog branchId item.storeTypeIds) := by
  constructor
  · exact fun h => h itemId item (Table.get_set_self catalog.items itemId item) hbranch
  · intro hmeets otherId other hget hother
    by_cases heq : otherId = itemId
    · subst heq
      obtain rfl := Option.some.inj ((Table.get_set_self _ _ _).symm.trans hget)
      exact hmeets
    · rw [Table.get_set_ne _ heq] at hget
      exact hold otherId other hget hother

/-- **A request keeps the rules just when it is no update that leaves an item without any.** -/
theorem rulesHold_run_iff (call : CatalogCall) (hold : RulesHold texts branchId catalog) :
    RulesHold texts branchId (call.run texts branchId catalog) ↔
      KeepsOwnRules texts branchId call catalog := by
  cases call with
  | create currentUser newId payload =>
    refine iff_of_true ?_ True.intro
    rw [CatalogCall.run, CatalogCall.attempt]
    split
    case h_1 catalog' h =>
      obtain ⟨item, rfl, hbranch, hmeets⟩ := createBranchItem_ok h
      exact (rulesHold_set hold hbranch).mpr hmeets
    case h_2 => exact hold
  | update currentUser itemId payload =>
    rw [CatalogCall.run, CatalogCall.attempt, KeepsOwnRules]
    split
    case h_1 catalog' h =>
      obtain ⟨update, attributes, hresolved, hattributes, hlooked, rfl⟩ :=
        updateBranchItem_ok_iff.mp h
      have hbranch : (update.next payload attributes).branchId = branchId :=
        (resolveItemUpdate_ok hresolved).2.1
      rw [rulesHold_set hold hbranch, ItemUpdate.next_ruleInput hresolved hattributes]
      rw [ItemUpdate.next_ruleInput hresolved hattributes] at hlooked
      constructor
      · intro hmeets update' hresolved' _ happroved hscope
        obtain rfl := Except.ok.inj (hresolved.symm.trans hresolved')
        exact ruleStoreTypes_of_none happroved hscope ▸ hmeets
      · intro hkeeps
        rcases hlooked with ⟨happroved, hscope⟩ | hmeets
        · have hgiven : payload.attributes ≠ some none := by
            intro hnull
            rw [hnull] at hattributes
            cases hattributes
          rw [ruleStoreTypes_of_none happroved hscope]
          exact hkeeps update hresolved hgiven happroved hscope
        · exact hmeets
    case h_2 e h =>
      refine iff_of_true hold ?_
      intro update hresolved hgiven happroved hscope
      -- with no rules found the update would have gone through
      obtain ⟨attributes, hattributes⟩ : ∃ attributes,
          toOptionalJson payload.attributes = .ok attributes := by
        rcases hattributes : payload.attributes with - | - | keys
        · exact ⟨none, rfl⟩
        · exact absurd hattributes hgiven
        · exact ⟨some keys, rfl⟩
      have hok : updateBranchItem texts catalog currentUser branchId itemId payload = .ok _ :=
        updateBranchItem_ok_iff.mpr
          ⟨update, attributes, hresolved, hattributes, .inl ⟨happroved, hscope⟩, rfl⟩
      rw [hok] at h
      cases h

/-- **The rules hold of what is stored all through a run just when no update of it leaves an item
that has no scope, in a branch that is approved for nothing, with fields that miss the rules of
the branch's own store type.** -/
theorem rules_hold_iff (texts : TextFunctions) (branchId : Id) (start : Catalog)
    (hstart : RulesHold texts branchId start) (calls : List CatalogCall) :
    Always (CatalogCall.run texts branchId) (RulesHold texts branchId) calls start ↔
      MeetAll (CatalogCall.run texts branchId) (KeepsOwnRules texts branchId) calls start :=
  always_iff_of_step (fun call _ hold => rulesHold_run_iff call hold) calls hstart

end Calls

/-- Texts of plain letters, whose order is not looked at. -/
def plainTexts : TextFunctions := ⟨String.toLower, String.toUpper, fun _ _ => .eq⟩

def groceryOwner : AuthenticatedUser where
  userId := 10
  role := .merchant
  merchantId := some 1
  customerProfileId := none
  riderId := none

/-- A grocery that is approved for no store type yet, and sells nothing yet. -/
def newGrocery : Catalog where
  branches := Table.empty.set 1 ⟨1, 10, "grocery", none⟩
  categories := Table.empty
  storeTypes := Table.empty
  assignments := Table.empty
  items := Table.empty

def packOfRice : MenuItemRequest where
  sku := some (some "RICE-5")
  attributes := some (some ["weight"])
  inventory := { isStockTracked := some true }

theorem newGrocery_rulesHold : RulesHold plainTexts 1 newGrocery := by
  intro itemId item hget
  rw [newGrocery, Table.get_empty] at hget
  cases hget

/-- The rice is created and given another number. -/
theorem rules_hold_of_renumbering : Always (CatalogCall.run plainTexts 1) (RulesHold plainTexts 1)
    [.create groceryOwner 5 packOfRice, .update groceryOwner 5 { sku := some (some "RICE-6") }]
    newGrocery := by
  refine (rules_hold_iff plainTexts 1 newGrocery newGrocery_rulesHold _).mpr
    ⟨True.intro, ?_, True.intro⟩
  intro update hresolved _ _ _
  have hread : resolveItemUpdate
      ((CatalogCall.create groceryOwner 5 packOfRice).run plainTexts 1 newGrocery) groceryOwner 1 5
      { sku := some (some "RICE-6") } = .ok ⟨⟨1, none, some "RICE-5", none, some ["weight"],
        ⟨true, some 0, none⟩, []⟩, none, {}, [], none⟩ := by decide +kernel
  obtain rfl := Except.ok.inj (hread.symm.trans hresolved)
  exact assertMenuVerticalCatalogRules_ok_iff.mp (by decide +kernel)

/-- The rice is created, and its number then taken away. -/
theorem newGrocery_item_without_sku : ¬ ∀ calls,
    Always (CatalogCall.run plainTexts 1) (RulesHold plainTexts 1) calls newGrocery := by
  intro h
  have hlast := (h [.create groceryOwner 5 packOfRice,
    .update groceryOwner 5 { sku := some none }]).2.2
  have hread : (runAll (CatalogCall.run plainTexts 1)
      [.create groceryOwner 5 packOfRice, .update groceryOwner 5 { sku := some none }]
      newGrocery).items.get 5 = some ⟨1, none, none, none, some ["weight"],
        ⟨true, some 0, none⟩, []⟩ := by decide +kernel
  have hmeets := hlast 5 _ hread rfl
  have hpassed := assertMenuVerticalCatalogRules_ok_iff.mpr hmeets
  revert hpassed
  decide +kernel

end WerTe.VerticalRules