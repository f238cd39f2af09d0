import WerTe.Carts
import WerTe.MerchantInventory

/-!
# Creating and re-selecting variant combinations

`merchant-menu-variant-combinations.service.ts`, for the calls that are given a selection of
options: creating a combination, and updating one together with the options that define it.
An update that leaves the options alone is `updateItemVariantCombination`.
-/

namespace WerTe

open ReadCommitted MenusRepository

/-! ## The repository -/

namespace MenusRepository

def findVariantCombinationByMenuItemIdAndSignature (db : Store) (menuItemId : Id)
    (signature : String) : Option (Id × ItemVariantCombination) :=
  (db.list .itemVariantCombination fun combination =>
    combination.menuItemId == menuItemId && combination.signature == signature).head?

def createVariantCombination (id : Id) (combination : ItemVariantCombination) : StoreTx Unit :=
  .insertRow (.itemVariantCombination, id) combination fun db =>
    if (db.get (.itemVariantCombination, id)).isSome then some (.uniqueConstraint "id")
    else if (findVariantCombinationByMenuItemIdAndSignature db combination.menuItemId
        combination.signature).isSome then some (.uniqueConstraint "menuItemId_signature")
    else none

/-- `replaceVariantCombinationOptions`: every option has to exist. -/
def replaceVariantCombinationOptions (combinationId : Id) (optionIds : List Id) : StoreTx Unit := do
  .check fun db =>
    if optionIds.all fun id => (db.get (.itemOption, id)).isSome then .ok ()
    else .error (.foreignKeyConstraint "itemOptionId")
  let _ ← .updateRow (.itemVariantCombination, combinationId) (fun _ => true)
    fun combination => { combination with optionIds }
  pure ()

end MenusRepository

/-! ## Selections -/

/-- `buildVariantCombinationDefaultName`. -/
def buildVariantCombinationDefaultName (optionNames : List String) : String :=
  " / ".intercalate ((optionNames.map trim).filter (·.length ≠ 0))

/-- What `resolveVariantSelection` returns. -/
structure VariantSelection where
  selectedOptions : List (Id × ItemOption)
  signature : String
  defaultName : String
deriving DecidableEq

/-- An item's groups that a combination selects from. -/
def variantGroups (db : Store) (menuItemId : Id) : List (Id × ItemOptionGroup) :=
  (activeOptionGroups db menuItemId).filter fun group => group.2.kind == .variantSelector

/-- A selected option, looked up in the map of the groups' active options. -/
def selectedVariantOption (db : Store) (menuItemId optionId : Id) :
    Except Failure (Id × ItemOption) :=
  match findActiveOption db (variantGroups db menuItemId) optionId with
  | some option => .ok option
  | none => .error (fail
      "Selected variant options must belong to active VARIANT_SELECTOR groups for the requested menu item."
      .unprocessableEntity [("menuItemId", .id menuItemId), ("optionId", .id optionId)])

/-- How many of the selected options are of a group. -/
def groupSelectionCount (selectedOptions : List (Id × ItemOption)) (groupId : Id) : ℕ :=
  selectedOptions.countP fun option => option.2.groupId == groupId

/-- `resolveVariantSelection`. -/
def resolveVariantSelection (menuItemId : Id) (selectedOptionIds : List Id) :
    StoreService VariantSelection := do
  .require (selectedOptionIds.Nodup)
    (fail "Variant combination option selections must not contain duplicate ids."
      .unprocessableEntity)
  let groups ← .get fun db => variantGroups db menuItemId
  .require (groups ≠ [])
    (fail "Variant combinations require at least one active variant selector option group."
      .unprocessableEntity [("menuItemId", .id menuItemId)])
  let found ← .get fun db => selectedOptionIds.mapM (selectedVariantOption db menuItemId)
  let selectedOptions ← .ofExcept found
  -- the counts are kept in the order in which the groups are first selected from
  match selectedOptions.find? fun option =>
      1 < groupSelectionCount selectedOptions option.2.groupId with
  | some option => .throw (fail
      "Variant combinations can include at most one option from each variant selector group."
      .unprocessableEntity
      [("menuItemId", .id menuItemId), ("optionGroupId", .id option.2.groupId),
        ("selectedCount", .num (groupSelectionCount selectedOptions option.2.groupId))])
  | none => pure {
      selectedOptions
      signature := buildVariantCombinationSignature (selectedOptions.map Prod.fst)
      defaultName := buildVariantCombinationDefaultName (selectedOptions.map (·.2.name)) }

/-! ## The calls -/

/-- `resolveOwnedItem` of the variant combinations service. -/
def resolveItemForCombinations (currentUser : AuthenticatedUser) (branchId itemId : Id) :
    StoreService MenuItemOwnershipRecord := do
  let item ← resolveOwnedItem currentUser branchId itemId
  .require (hasMerchantCatalogAccess currentUser item = true)
    (fail "You are not allowed to manage variant combinations for this menu item." .forbidden)
  pure item

/-- No other combination of the item has the signature. -/
def requireFreeSignature (menuItemId : Id) (signature : String) (combinationId : Option Id) :
    StoreService Unit := do
  let existing ← .get fun db =>
    findVariantCombinationByMenuItemIdAndSignature db menuItemId signature
  match existing.filter fun existing => combinationId != some existing.1 with
  | some existing => .throw (fail
      "A variant combination with the same selected options already exists for this menu item."
      .conflict
      [("menuItemId", .id menuItemId), ("existingCombinationId", .id existing.1)])
  | none => pure ()

/-- `normalizeCreateInventory` of the variant combinations service: the same as the others', but
for what it says of a bad value. -/
def normalizeCreateCombinationInventory (payload : InventoryPayload) :
    Except Failure TrackedStock := do
  let hasInventoryFields := payload.stockQuantity.isSome || payload.lowStockThreshold.isSome
  assertNonNegativeIntegers payload
  if payload.isStockTracked.getD hasInventoryFields then
    .ok ⟨true, some (payload.stockQuantity.getD 0), payload.lowStockThreshold⟩
  else .ok ⟨false, none, none⟩

/-- `createItemVariantCombination`, for a combination with the given new id. -/
def createItemVariantCombination (currentUser : AuthenticatedUser) (branchId itemId newId : Id)
    (selectedOptionIds : List Id) (name : Option String) (isActive : Option Bool)
    (inventory : InventoryPayload) : StoreService ItemVariantCombinationOwnershipRecord := do
  let item ← resolveItemForCombinations currentUser branchId itemId
  let selection ← resolveVariantSelection item.id selectedOptionIds
  requireFreeSignature item.id selection.signature none
  let combination ← .transaction do
    let stock ← .check fun _ => normalizeCreateCombinationInventory inventory
    createVariantCombination newId {
      menuItemId := item.id
      name := (normalizeOptionalString name).getD selection.defaultName
      signature := selection.signature
      optionIds := []
      stock := stock
      isActive := isActive.getD true }
    replaceVariantCombinationOptions newId (selection.selectedOptions.map Prod.fst)
    .read fun db => findVariantCombinationById db newId
  .orFail combination
    (fail "Created variant combination could not be reloaded." .internalServerError)

/-- `updateItemVariantCombination`, with other options selected. -/
def reselectItemVariantCombination (currentUser : AuthenticatedUser)
    (branchId itemId combinationId : Id) (selectedOptionIds : List Id) (name : Option String)
    (isActive : Option Bool) (inventory : InventoryPayload) :
    StoreService ItemVariantCombinationOwnershipRecord := do
  let combination ← resolveOwnedVariantCombination currentUser branchId itemId combinationId
  let selection ← resolveVariantSelection combination.menuItem.id selectedOptionIds
  requireFreeSignature combination.menuItem.id selection.signature (some combination.id)
  let updated ← .transaction do
    let data ← .check fun _ => normalizeUpdateInventory assertNonNegativeIntegers inventory
      combination.combination.stock.isStockTracked
    .check fun db =>
      if (findVariantCombinationByMenuItemIdAndSignature db combination.menuItem.id
          selection.signature).any fun existing => existing.1 != combination.id then
        .error (.uniqueConstraint "menuItemId_signature")
      else .ok ()
    updateStockRow .itemVariantCombination combination.id data fun r =>
      { (r : ItemVariantCombination) with
        signature := selection.signature
        name := match name with
          | some name =>
            (normalizeOptionalString (some name)).getD combination.combination.name
          | none => selection.defaultName
        isActive := isActive.getD r.isActive }
    replaceVariantCombinationOptions combination.id (selection.selectedOptions.map Prod.fst)
    .read fun db => findVariantCombinationById db combination.id
  .orFail updated
    (fail "Updated variant combination could not be reloaded." .internalServerError)

end WerTe
