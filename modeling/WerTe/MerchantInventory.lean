import WerTe.MenusRepository

/-!
# The merchant's stock operations

The calls of the merchant API that write stock: creating and updating items, updating
options and variant combinations, direct adjustments, and inventory lots. Each reads
what it needs outside any transaction and then writes in one transaction, or in one
statement. Audit entries, cache invalidation and notifications come after the commit
and are left out, and so are the columns that nothing here reads.

The store-type scope and vertical rules that item writes also check read no stock; they
stand as a parameter `catalogChecks` that may refuse any write.
-/

namespace WerTe

open ReadCommitted MenusRepository

/-! ## Access -/

/-- `hasMerchantCatalogAccess`. -/
def hasMerchantCatalogAccess (currentUser : AuthenticatedUser)
    (item : MenuItemOwnershipRecord) : Bool :=
  hasOwnedResourceAccess currentUser .merchant item.merchantUserId item.merchantId
    currentUser.merchantId

/-- `resolveOwnedItem` of the lots service: the item, if it is the caller's and in the branch. -/
def resolveOwnedItem (currentUser : AuthenticatedUser) (branchId itemId : Id) :
    StoreService MenuItemOwnershipRecord := do
  let found ← .get fun db => findItemById db itemId
  let item ← .orFail (found.filter fun item =>
      item.merchantUserId == currentUser.userId && item.branchId == branchId)
    (fail "Menu item was not found for the requested branch." .notFound)
  pure item

/-- `resolveOwnedItem` of the items service, which checks the access policy too. -/
def resolveManagedItem (currentUser : AuthenticatedUser) (branchId itemId : Id) :
    StoreService MenuItemOwnershipRecord := do
  let item ← resolveOwnedItem currentUser branchId itemId
  .require (hasMerchantCatalogAccess currentUser item = true)
    (fail "You are not allowed to manage this menu item." .forbidden)
  pure item

/-- `resolveOwnedOptionGroup`. -/
def resolveOwnedOptionGroup (currentUser : AuthenticatedUser) (branchId itemId optionGroupId : Id) :
    StoreService ItemOptionGroupOwnershipRecord := do
  let found ← .get fun db => findOptionGroupById db optionGroupId
  let optionGroup ← .orFail (found.filter fun optionGroup =>
      optionGroup.menuItem.merchantUserId == currentUser.userId &&
        optionGroup.menuItem.branchId == branchId && optionGroup.menuItem.id == itemId)
    (fail "Item option group was not found for the requested menu item." .notFound)
  .require (hasMerchantCatalogAccess currentUser optionGroup.menuItem = true)
    (fail "You are not allowed to manage options for this option group." .forbidden)
  pure optionGroup

/-- `resolveOwnedOption`. -/
def resolveOwnedOption (currentUser : AuthenticatedUser)
    (branchId itemId optionGroupId optionId : Id) : StoreService ItemOptionOwnershipRecord := do
  let found ← .get fun db => findOptionById db optionId
  let option ← .orFail (found.filter fun option =>
      option.menuItem.merchantUserId == currentUser.userId &&
        option.menuItem.branchId == branchId && option.menuItem.id == itemId &&
        option.option.groupId == optionGroupId)
    (fail "Item option was not found for the requested option group." .notFound)
  .require (hasMerchantCatalogAccess currentUser option.menuItem = true)
    (fail "You are not allowed to manage this option." .forbidden)
  pure option

/-- `resolveOwnedVariantCombination`. -/
def resolveOwnedVariantCombination (currentUser : AuthenticatedUser)
    (branchId itemId combinationId : Id) :
    StoreService ItemVariantCombinationOwnershipRecord := do
  let found ← .get fun db => findVariantCombinationById db combinationId
  let combination ← .orFail (found.filter fun combination =>
      combination.menuItem.branchId == branchId && combination.menuItem.id == itemId)
    (fail "Variant combination was not found for the requested menu item." .notFound)
  .require (combination.menuItem.merchantUserId = currentUser.userId)
    (fail "You are not allowed to manage this variant combination." .forbidden)
  pure combination

/-- `resolveOwnedLot`. -/
def resolveOwnedLot (menuItemId lotId : Id) : StoreService MenuItemInventoryLot := do
  let found ← .get fun db => findItemInventoryLotById db lotId
  .orFail (found.filter fun lot => lot.menuItemId == menuItemId)
    (fail "Inventory lot was not found for the requested menu item." .notFound)

/-! ## Normalising stock columns -/

/-- The stock fields of a create or update request. -/
structure InventoryPayload where
  isStockTracked : Option Bool := none
  stockQuantity : Option ℤ := none
  lowStockThreshold : Option ℤ := none
deriving DecidableEq, Repr

/-- `assertInventoryValue`, with the text and status of the service that asserts. -/
def assertInventoryValue (text : String) (status : HttpStatus) (code : Option String)
    (name : String) (value : Option ℤ) : Except Failure Unit :=
  if value.all (0 ≤ ·) then .ok ()
  else .error (.app { message := name ++ text, status, code })

/-- Both stock values of a payload, as the item and option services assert them. -/
def assertWholeNumbers (payload : InventoryPayload) : Except Failure Unit := do
  assertInventoryValue " must be a whole number greater than or equal to zero." .badRequest
    (some "VALIDATION_FAILED") "stockQuantity" payload.stockQuantity
  assertInventoryValue " must be a whole number greater than or equal to zero." .badRequest
    (some "VALIDATION_FAILED") "lowStockThreshold" payload.lowStockThreshold

/-- Both stock values of a payload, as the variant combination service asserts them. -/
def assertNonNegativeIntegers (payload : InventoryPayload) : Except Failure Unit := do
  assertInventoryValue " must be a non-negative integer when provided." .unprocessableEntity
    none "stockQuantity" payload.stockQuantity
  assertInventoryValue " must be a non-negative integer when provided." .unprocessableEntity
    none "lowStockThreshold" payload.lowStockThreshold

/-- `normalizeCreateInventory`. -/
def normalizeCreateInventory (payload : InventoryPayload) : Except Failure TrackedStock := do
  let hasInventoryFields := payload.stockQuantity.isSome || payload.lowStockThreshold.isSome
  assertWholeNumbers payload
  if payload.isStockTracked.getD hasInventoryFields then
    .ok ⟨true, some (payload.stockQuantity.getD 0), payload.lowStockThreshold⟩
  else .ok ⟨false, none, none⟩

/-- `normalizeUpdateInventory`, the same in the three services but for what `assertValues`
says; `isStockTracked` is the row's, as read before the update. -/
def normalizeUpdateInventory (assertValues : InventoryPayload → Except Failure Unit)
    (payload : InventoryPayload) (isStockTracked : Bool) : Except Failure StockData :=
  if payload.isStockTracked.isNone && payload.stockQuantity.isNone &&
      payload.lowStockThreshold.isNone then .ok {}
  else do
    assertValues payload
    if payload.isStockTracked.getD
        (payload.stockQuantity.isSome || payload.lowStockThreshold.isSome || isStockTracked) then
      .ok {
        isStockTracked := some true
        stockQuantity :=
          match payload.stockQuantity with
          | some quantity => some (some quantity)
          | none => if isStockTracked then none else some (some 0)
        lowStockThreshold := payload.lowStockThreshold.map some }
    else
      .ok { isStockTracked := some false, stockQuantity := some none,
            lowStockThreshold := some none }

/-! ## Items -/

/-- The columns of a create or update request for an item. -/
structure MenuItemPayload where
  name : Option String := none
  basePrice : Option ℚ := none
  isAvailable : Option Bool := none
  inventory : InventoryPayload := {}

/-- `createBranchItem`, for an item with the given new id. -/
def createBranchItem (catalogChecks : Store → Except Failure Unit)
    (currentUser : AuthenticatedUser) (branchId newId : Id) (name : String) (basePrice : ℚ)
    (isAvailable : Option Bool) (inventory : InventoryPayload) : StoreService Unit := do
  let found ← .get fun db => do
    let branch ← db.get (.branch, branchId)
    let merchant ← db.get (.merchant, branch.merchantId)
    return (branch.merchantId, merchant.userId)
  let (merchantId, merchantUserId) ← .orFail
    (found.filter fun owner => owner.2 == currentUser.userId)
    (fail "Branch was not found." .notFound)
  .require (hasOwnedResourceAccess currentUser .merchant merchantUserId merchantId
      currentUser.merchantId = true)
    (fail "You are not allowed to manage menu items for this branch." .forbidden)
  .transaction do
    let stock ← .check fun _ => normalizeCreateInventory inventory
    .check catalogChecks
    createItem newId
      { branchId, name, basePrice, stock, isAvailable := isAvailable.getD true }

/-- `updateBranchItem`. -/
def updateBranchItem (catalogChecks : Store → Except Failure Unit)
    (currentUser : AuthenticatedUser) (branchId itemId : Id) (payload : MenuItemPayload) :
    StoreService Unit := do
  let item ← resolveManagedItem currentUser branchId itemId
  let data ← .ofExcept
    (normalizeUpdateInventory assertWholeNumbers payload.inventory item.item.stock.isStockTracked)
  .transaction do
    .check catalogChecks
    updateStockRow .menuItem item.id data fun r => { (r : MenuItem) with
      name := payload.name.getD r.name
      basePrice := payload.basePrice.getD r.basePrice
      isAvailable := payload.isAvailable.getD r.isAvailable }

/-- An adjustment request. -/
structure AdjustInventoryDto where
  delta : ℤ
  reasonCode : String

/-- `requireReasonCode`. -/
def requireReasonCode (reasonCode : String) : StoreService String :=
  .orFail (normalizeOptionalString (some reasonCode))
    (fail "A reason code is required for inventory adjustments." .unprocessableEntity)

/-- `adjustBranchItemInventory`: refused once the item has lots. -/
def adjustBranchItemInventory (currentUser : AuthenticatedUser) (branchId itemId : Id)
    (payload : AdjustInventoryDto) : StoreService MenuItemOwnershipRecord := do
  let item ← resolveManagedItem currentUser branchId itemId
  .require (item.item.stock.isStockTracked = true)
    (fail "Inventory adjustments require stock tracking to be enabled." .conflict)
  let lotCount ← .get fun db => countItemInventoryLotsByMenuItemId db item.id
  .require (lotCount = 0) (fail
    "Direct item-level inventory adjustments are disabled once inventory lots exist. Adjust the relevant lot instead."
    .conflict [("itemId", .id item.id), ("lotCount", .num lotCount)])
  let _ ← requireReasonCode payload.reasonCode
  let updated ← .transaction do
    let adjusted ← adjustTrackedItemStock item.id payload.delta
    .require (adjusted = true) (fail
      "The requested inventory adjustment would make the stock quantity invalid." .conflict
      [("itemId", .id item.id), ("requestedDelta", .num payload.delta),
        ("currentStockQuantity", .num (item.item.stock.stockQuantity.getD 0))])
    .read fun db => findItemById db item.id
  .orFail updated (fail "Adjusted menu item could not be reloaded." .internalServerError)

/-! ## Options and variant combinations -/

/-- `createGroupOption`, for an option with the given new id. -/
def createGroupOption (currentUser : AuthenticatedUser) (branchId itemId optionGroupId newId : Id)
    (name : String) (priceDelta : ℚ) (sortOrder : Option ℤ) (isActive : Option Bool)
    (inventory : InventoryPayload) : StoreService Unit := do
  let optionGroup ← resolveOwnedOptionGroup currentUser branchId itemId optionGroupId
  .transaction do
    let highest ← .read fun db => findHighestOptionSortOrderByOptionGroupId db optionGroup.id
    let stock ← .check fun _ => normalizeCreateInventory inventory
    createOption newId {
      groupId := optionGroup.id
      name := name
      priceDelta := priceDelta
      stock := stock
      sortOrder := sortOrder.getD (highest.getD (-1) + 1)
      isActive := isActive.getD true }

/-- `updateGroupOption`: one update, in no transaction of its own. -/
def updateGroupOption (currentUser : AuthenticatedUser)
    (branchId itemId optionGroupId optionId : Id) (name : Option String) (priceDelta : Option ℚ)
    (isActive : Option Bool) (inventory : InventoryPayload) : StoreService Unit := do
  let option ← resolveOwnedOption currentUser branchId itemId optionGroupId optionId
  let data ← .ofExcept
    (normalizeUpdateInventory assertWholeNumbers inventory option.option.stock.isStockTracked)
  .transaction do
    updateStockRow .itemOption option.id data fun r => { (r : ItemOption) with
      name := name.getD r.name
      priceDelta := priceDelta.getD r.priceDelta
      isActive := isActive.getD r.isActive }

/-- `adjustGroupOptionInventory`. -/
def adjustGroupOptionInventory (currentUser : AuthenticatedUser)
    (branchId itemId optionGroupId optionId : Id) (payload : AdjustInventoryDto) :
    StoreService ItemOptionOwnershipRecord := do
  let option ← resolveOwnedOption currentUser branchId itemId optionGroupId optionId
  .require (option.option.stock.isStockTracked = true)
    (fail "Inventory adjustments require stock tracking to be enabled." .conflict)
  let _ ← requireReasonCode payload.reasonCode
  let updated ← .transaction do
    let adjusted ← adjustTrackedOptionStock option.id payload.delta
    .require (adjusted = true) (fail
      "The requested inventory adjustment would make the option stock quantity invalid." .conflict
      [("optionId", .id option.id), ("requestedDelta", .num payload.delta),
        ("currentStockQuantity", .num (option.option.stock.stockQuantity.getD 0))])
    .read fun db => findOptionById db option.id
  .orFail updated (fail "Adjusted menu option could not be reloaded." .internalServerError)

/-- `updateItemVariantCombination`, with the selected options left as they are. -/
def updateItemVariantCombination (currentUser : AuthenticatedUser)
    (branchId itemId combinationId : Id) (name : Option String) (isActive : Option Bool)
    (inventory : InventoryPayload) : StoreService Unit := do
  let combination ← resolveOwnedVariantCombination currentUser branchId itemId combinationId
  .transaction do
    let data ← .check fun _ => normalizeUpdateInventory assertNonNegativeIntegers inventory
      combination.combination.stock.isStockTracked
    updateStockRow .itemVariantCombination combination.id data fun r =>
      { (r : ItemVariantCombination) with
        name := (name.map fun n => (normalizeOptionalString (some n)).getD
          combination.combination.name).getD r.name
        isActive := isActive.getD r.isActive }

/-! ## Inventory lots -/

/-- `createItemInventoryLot`, for a lot with the given new id; `now` is the clock. -/
def createInventoryLot (currentUser : AuthenticatedUser) (branchId itemId newId : Id)
    (batchNo : String) (expiryDate receivedAt : Option Date) (now : Date) (quantity : ℤ) :
    StoreService Unit := do
  let item ← resolveOwnedItem currentUser branchId itemId
  .require (item.item.stock.isStockTracked = true)
    (fail "Inventory lots require stock tracking to be enabled for the menu item." .conflict)
  let batchNo ← .orFail (normalizeOptionalString (some batchNo))
    (fail "batchNo is required for inventory lots." .unprocessableEntity)
  .transaction do
    let existingLotCount ← .read fun db => countItemInventoryLotsByMenuItemId db item.id
    .require (¬ (existingLotCount = 0 ∧ 0 < item.item.stock.stockQuantity.getD 0)) (fail
      "The first inventory lot can only be created when the item aggregate stock is zero. Reset or consume the direct stock first, then bootstrap lots."
      .conflict [("itemId", .id item.id),
        ("currentStockQuantity", .num (item.item.stock.stockQuantity.getD 0))])
    let existingLot ← .read fun db =>
      findItemInventoryLotByMenuItemIdAndBatchNo db item.id batchNo
    .require (existingLot = none) (fail
      "An inventory lot with the same batch number already exists for this item." .conflict
      [("itemId", .id item.id), ("batchNo", .text batchNo)])
    createItemInventoryLot newId {
      menuItemId := item.id
      batchNo
      expiryDate
      receivedAt := receivedAt.getD now
      createdAt := now
      receivedQuantity := quantity
      remainingQuantity := quantity }
    let _ ← incrementItemStock item.id quantity
    pure ()

/-- `adjustItemInventoryLot`: the lot and its item move by the same amount. -/
def adjustItemInventoryLot (currentUser : AuthenticatedUser) (branchId itemId lotId : Id)
    (payload : AdjustInventoryDto) : StoreService Unit := do
  let item ← resolveOwnedItem currentUser branchId itemId
  let lot ← resolveOwnedLot item.id lotId
  .require (item.item.stock.isStockTracked = true)
    (fail "Inventory lots require stock tracking to be enabled for the menu item." .conflict)
  let _ ← requireReasonCode payload.reasonCode
  .transaction do
    let adjustedLot ← adjustItemInventoryLotQuantity lotId payload.delta
    .require (adjustedLot = true) (fail
      "The requested lot adjustment would make the remaining quantity invalid." .conflict
      [("itemId", .id item.id), ("lotId", .id lotId), ("requestedDelta", .num payload.delta),
        ("currentRemainingQuantity", .num lot.remainingQuantity)])
    let adjustedItem ← adjustTrackedItemStock item.id payload.delta
    .require (adjustedItem = true) (fail
      "The requested lot adjustment would make the aggregate stock quantity invalid." .conflict
      [("itemId", .id item.id), ("lotId", .id lotId), ("requestedDelta", .num payload.delta),
        ("currentStockQuantity", .num (item.item.stock.stockQuantity.getD 0))])
    let nextLot ← .read fun db => findItemInventoryLotById db lotId
    let nextItem ← .read fun db => findItemById db item.id
    .require (nextLot.isSome = true ∧ nextItem.isSome = true)
      (fail "The adjusted inventory lot could not be reloaded." .internalServerError)

end WerTe
