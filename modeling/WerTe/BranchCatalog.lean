import WerTe.Carts
import WerTe.StoreDiscovery

/-!
# The catalog of a branch

What customers see of a branch's menu (`branch-catalog.entity.ts`,
`customer-catalog-read.service.ts`). The record that the repository loads may come from Redis; the
catalog is built of it anew for every customer. Texts, pictures and ratings are left out.

* `MenuLayout`: the columns that place the rows of a menu, which nothing but its catalog reads
* `MenusRepository.findBranchCatalogByBranchId`: the branch with all that belongs to its menu
* `BranchCatalog.buildBranchCatalog`: what is shown of it
-/

namespace WerTe

open ReadCommitted StoreTypesRepository

/-! ## How a menu is laid out -/

structure MenuCategory where
  branchId : Id
  name : String
  isActive : Bool
  sortOrder : ℤ
  createdAt : Date
  /-- the store types it is for, or none for all of them -/
  storeTypeIds : List Id
deriving DecidableEq

/-- The categories, and the columns of the other rows of a menu that nothing but the catalog
reads. Groups and options have their `sortOrder` with them. -/
structure MenuLayout where
  categories : List (Id × MenuCategory)
  categoryId : Id → Option Id
  storeTypeIds : Id → List Id
  sortOrder : Key Tbl → ℤ
  createdAt : Key Tbl → Date

namespace MenuLayout

variable {α : Type}

/-- By `sortOrder`, and then by `createdAt`. -/
def inOrder (sortOrder : Id × α → ℤ) (createdAt : Id × α → Date) (rows : List (Id × α)) :
    List (Id × α) :=
  rows.insertionSort fun left right =>
    ((compare (sortOrder left) (sortOrder right)).then
      (compare (createdAt left) (createdAt right))) != .gt

@[simp] theorem mem_inOrder {sortOrder : Id × α → ℤ} {createdAt : Id × α → Date}
    {rows : List (Id × α)} {row : Id × α} :
    row ∈ inOrder sortOrder createdAt rows ↔ row ∈ rows := by
  simp [inOrder]

end MenuLayout

/-! ## `branchCatalogInclude` -/

structure CatalogOptionGroupRecord where
  id : Id
  group : ItemOptionGroup
  options : List (Id × ItemOption)
deriving DecidableEq

structure CatalogOptionLink where
  optionId : Id
  option : ItemOption
  group : ItemOptionGroup
deriving DecidableEq

structure CatalogCombinationRecord where
  id : Id
  combination : ItemVariantCombination
  optionLinks : List CatalogOptionLink
deriving DecidableEq

structure CatalogItemRecord where
  id : Id
  item : MenuItem
  categoryId : Option Id
  storeTypes : List StoreTypeSummary
  optionGroups : List CatalogOptionGroupRecord
  variantCombinations : List CatalogCombinationRecord
deriving DecidableEq

structure CatalogCategoryRecord where
  id : Id
  category : MenuCategory
  storeTypes : List StoreTypeSummary
  menuItems : List CatalogItemRecord
deriving DecidableEq

structure BranchCatalogRecord where
  id : Id
  name : String
  status : BranchStatus
  merchant : MerchantSummary
  storeTypes : List CustomerStoreTypeAssignment
  menuCategories : List CatalogCategoryRecord
  /-- those without a category -/
  menuItems : List CatalogItemRecord
deriving DecidableEq

namespace MenusRepository

def includeStoreTypes (db : Store) (storeTypeIds : List Id) : List StoreTypeSummary :=
  (storeTypeIds.insertionSort (· ≤ ·)).filterMap fun id =>
    (db.get (.storeType, id)).map fun storeType =>
      ⟨id, storeType.code, storeType.name, storeType.sortOrder⟩

section Include

variable (layout : MenuLayout) (db : Store)

def includeOptionGroup (row : Id × ItemOptionGroup) : CatalogOptionGroupRecord where
  id := row.1
  group := row.2
  options := MenuLayout.inOrder (·.2.sortOrder)
    (fun option => layout.createdAt (.itemOption, option.1))
    (db.list .itemOption fun option => option.groupId == row.1)

def includeOptionLink (optionId : Id) : Option CatalogOptionLink := do
  let option ← db.get (.itemOption, optionId)
  let group ← db.get (.itemOptionGroup, option.groupId)
  return ⟨optionId, option, group⟩

def includeVariantCombination (row : Id × ItemVariantCombination) : CatalogCombinationRecord where
  id := row.1
  combination := row.2
  optionLinks := (row.2.optionIds.insertionSort (· ≤ ·)).filterMap (includeOptionLink db)

def includeMenuItem (row : Id × MenuItem) : CatalogItemRecord where
  id := row.1
  item := row.2
  categoryId := layout.categoryId row.1
  storeTypes := includeStoreTypes db (layout.storeTypeIds row.1)
  optionGroups := (MenuLayout.inOrder (·.2.sortOrder)
    (fun group => layout.createdAt (.itemOptionGroup, group.1))
      (db.list .itemOptionGroup fun group => group.menuItemId == row.1)).map
        (includeOptionGroup layout db)
  variantCombinations := (MenuLayout.inOrder
    (fun combination => layout.sortOrder (.itemVariantCombination, combination.1))
    (fun combination => layout.createdAt (.itemVariantCombination, combination.1))
      (db.list .itemVariantCombination fun combination => combination.menuItemId == row.1)).map
        (includeVariantCombination db)

def includeMenuItems (selected : Id × MenuItem → Bool) : List CatalogItemRecord :=
  (MenuLayout.inOrder (fun item => layout.sortOrder (.menuItem, item.1))
    (fun item => layout.createdAt (.menuItem, item.1))
      ((db.list .menuItem fun _ => true).filter selected)).map (includeMenuItem layout db)

def includeMenuCategory (row : Id × MenuCategory) : CatalogCategoryRecord where
  id := row.1
  category := row.2
  storeTypes := includeStoreTypes db row.2.storeTypeIds
  menuItems := includeMenuItems layout db fun item => layout.categoryId item.1 == some row.1

def findBranchCatalogByBranchId (branchId : Id) : Option BranchCatalogRecord := do
  let branch ← db.get (.branch, branchId)
  let merchant ← db.get (.merchant, branch.merchantId)
  return {
    id := branchId
    name := branch.name
    status := branch.status
    merchant := ⟨branch.merchantId, merchant.name, merchant.status⟩
    storeTypes := (includeDiscovery db branchId branch merchant).storeTypes
    menuCategories := (MenuLayout.inOrder (·.2.sortOrder) (·.2.createdAt)
      (layout.categories.filter fun category => category.2.branchId == branchId)).map
        (includeMenuCategory layout db)
    menuItems := includeMenuItems layout db fun item =>
      item.2.branchId == branchId && (layout.categoryId item.1).isNone }

end Include

end MenusRepository

/-! ## `branch-catalog.entity.ts` -/

structure CatalogOption where
  optionId : Id
  name : String
  priceDelta : ℚ
  stock : TrackedStock
  isInStock : Bool
  isLowStock : Bool
  sortOrder : ℤ
  isActive : Bool
deriving DecidableEq

structure CatalogOptionGroup where
  optionGroupId : Id
  kind : ItemOptionGroupKind
  minSelect : ℤ
  maxSelect : ℤ
  sortOrder : ℤ
  isActive : Bool
  options : List CatalogOption
deriving DecidableEq

/-- An option that a combination is of. -/
structure CatalogVariantSelection where
  optionId : Id
  optionName : String
  optionSortOrder : ℤ
  optionGroupId : Id
  optionGroupSortOrder : ℤ
deriving DecidableEq

structure CatalogVariantCombination where
  combinationId : Id
  name : String
  stock : TrackedStock
  isInStock : Bool
  isLowStock : Bool
  isActive : Bool
  selectedOptions : List CatalogVariantSelection
deriving DecidableEq

structure CatalogMenuItem where
  itemId : Id
  categoryId : Option Id
  name : String
  basePrice : ℚ
  stock : TrackedStock
  isInStock : Bool
  isLowStock : Bool
  isAvailable : Bool
  scopedStoreTypes : List StoreTypeSummary
  optionGroups : List CatalogOptionGroup
  variantCombinations : List CatalogVariantCombination
deriving DecidableEq

structure CatalogMenuCategory where
  categoryId : Id
  name : String
  sortOrder : ℤ
  isActive : Bool
  scopedStoreTypes : List StoreTypeSummary
  items : List CatalogMenuItem
deriving DecidableEq

structure BranchCatalog where
  branchId : Id
  merchantId : Id
  branchName : String
  branchStatus : BranchStatus
  approvedStoreTypes : List StoreTypeSummary
  categories : List CatalogMenuCategory
  uncategorizedItems : List CatalogMenuItem
deriving DecidableEq

namespace BranchCatalog

/-- The items of a catalog, wherever they stand. -/
def items (catalog : BranchCatalog) : List CatalogMenuItem :=
  catalog.categories.flatMap (·.items) ++ catalog.uncategorizedItems

/-- What is not tracked is in stock. -/
def hasStock (stock : TrackedStock) : Bool :=
  !stock.isStockTracked || 0 < stock.stockQuantity.getD 0

/-- What is tracked is low when it is not above its threshold. -/
def hasLowStock (stock : TrackedStock) : Bool :=
  stock.isStockTracked && stock.stockQuantity.any fun quantity =>
    stock.lowStockThreshold.any fun threshold => quantity ≤ threshold

def isInStock (item : MenuItem) : Bool := hasStock item.stock
def isLowStock (item : MenuItem) : Bool := hasLowStock item.stock
def isVariantCombinationInStock (combination : ItemVariantCombination) : Bool :=
  hasStock combination.stock
def isVariantCombinationLowStock (combination : ItemVariantCombination) : Bool :=
  hasLowStock combination.stock
def isOptionInStock (option : ItemOption) : Bool := hasStock option.stock
def isOptionLowStock (option : ItemOption) : Bool := hasLowStock option.stock

/-- A row that is for no store type in particular is for all of them. -/
def matchesSelectedStoreType (rules : TextRules) (storeTypes : List StoreTypeSummary)
    (selectedStoreTypeCode : Option String) : Bool :=
  selectedStoreTypeCode.all fun code =>
    storeTypes.isEmpty || storeTypes.any fun storeType => rules.toLowerCase storeType.code == code

def isVariantCombinationVisible (record : CatalogCombinationRecord) (activeOnly : Bool) : Bool :=
  !activeOnly || (record.combination.isActive &&
    record.optionLinks.all fun link => link.option.isActive && link.group.isActive)

def buildOption (row : Id × ItemOption) : CatalogOption where
  optionId := row.1
  name := row.2.name
  priceDelta := row.2.priceDelta
  stock := row.2.stock
  isInStock := isOptionInStock row.2
  isLowStock := isOptionLowStock row.2
  sortOrder := row.2.sortOrder
  isActive := row.2.isActive

def buildOptionGroup (activeOnly : Bool) (record : CatalogOptionGroupRecord) :
    CatalogOptionGroup where
  optionGroupId := record.id
  kind := record.group.kind
  minSelect := record.group.minSelect
  maxSelect := record.group.maxSelect
  sortOrder := record.group.sortOrder
  isActive := record.group.isActive
  options := (record.options.filter fun option => !activeOnly || option.2.isActive).map buildOption

/-- By the group, by the option, and then by the option's id. -/
def linkBefore (left right : CatalogOptionLink) : Bool :=
  (((compare left.group.sortOrder right.group.sortOrder).then
    (compare left.option.sortOrder right.option.sortOrder)).then
      (compare left.optionId right.optionId)) != .gt

def buildVariantSelection (link : CatalogOptionLink) : CatalogVariantSelection where
  optionId := link.optionId
  optionName := link.option.name
  optionSortOrder := link.option.sortOrder
  optionGroupId := link.option.groupId
  optionGroupSortOrder := link.group.sortOrder

def buildVariantCombination (record : CatalogCombinationRecord) : CatalogVariantCombination where
  combinationId := record.id
  name := record.combination.name
  stock := record.combination.stock
  isInStock := isVariantCombinationInStock record.combination
  isLowStock := isVariantCombinationLowStock record.combination
  isActive := record.combination.isActive
  selectedOptions := (record.optionLinks.insertionSort fun left right => linkBefore left right).map
    buildVariantSelection

def buildMenuItem (activeOnly : Bool) (record : CatalogItemRecord) : CatalogMenuItem where
  itemId := record.id
  categoryId := record.categoryId
  name := record.item.name
  basePrice := record.item.basePrice
  stock := record.item.stock
  isInStock := isInStock record.item
  isLowStock := isLowStock record.item
  isAvailable := record.item.isAvailable
  scopedStoreTypes := record.storeTypes
  optionGroups := (record.optionGroups.filter fun group => !activeOnly || group.group.isActive).map
    (buildOptionGroup activeOnly)
  variantCombinations := (record.variantCombinations.filter fun combination =>
    isVariantCombinationVisible combination activeOnly).map buildVariantCombination

/-- The items of a list that are shown. -/
def buildMenuItems (rules : TextRules) (activeOnly : Bool) (storeTypeCode : Option String)
    (records : List CatalogItemRecord) : List CatalogMenuItem :=
  (records.filter fun record => (!activeOnly || record.item.isAvailable) &&
    matchesSelectedStoreType rules record.storeTypes storeTypeCode).map (buildMenuItem activeOnly)

def buildMenuCategory (rules : TextRules) (activeOnly : Bool) (storeTypeCode : Option String)
    (record : CatalogCategoryRecord) : CatalogMenuCategory where
  categoryId := record.id
  name := record.category.name
  sortOrder := record.category.sortOrder
  isActive := record.category.isActive
  scopedStoreTypes := record.storeTypes
  items := buildMenuItems rules activeOnly storeTypeCode record.menuItems

def buildBranchCatalog (rules : TextRules) (branch : BranchCatalogRecord) (activeOnly : Bool)
    (storeTypeCode : Option String) : BranchCatalog :=
  let normalizedStoreTypeCode := storeTypeCode.map fun code => rules.toLowerCase (trim code)
  { branchId := branch.id
    merchantId := branch.merchant.id
    branchName := branch.name
    branchStatus := branch.status
    approvedStoreTypes := branch.storeTypes.map (·.storeType)
    categories := (branch.menuCategories.filter fun category =>
      (!activeOnly || category.category.isActive) &&
        matchesSelectedStoreType rules category.storeTypes normalizedStoreTypeCode).map
          (buildMenuCategory rules activeOnly normalizedStoreTypeCode)
    uncategorizedItems :=
      buildMenuItems rules activeOnly normalizedStoreTypeCode branch.menuItems }

end BranchCatalog

open BranchCatalog MenusRepository

/-! ## `customer-catalog-read.service.ts` -/

namespace CustomerCatalogRead

def normalizeOptionalString (rules : TextRules) (value : Option String) : Option String :=
  (value.map fun value => rules.toLowerCase (trim value)).filter fun value => 0 < value.length

/-- The catalog of a branch, of the record in Redis if there is one. -/
def getVisibleBranchCatalog (rules : TextRules) (layout : MenuLayout)
    (cached : Option BranchCatalogRecord) (db : Store) (branchId : Id)
    (storeTypeCode : Option String) : Option BranchCatalog := do
  let branchCatalog ← cached.or (findBranchCatalogByBranchId layout db branchId)
  if branchCatalog.status ≠ .active ∨ branchCatalog.merchant.status ≠ .active then none
  else
    let code := normalizeOptionalString rules storeTypeCode
    if code.all fun code => branchCatalog.storeTypes.any fun assignment =>
        rules.toLowerCase assignment.storeType.code == code then
      some (buildBranchCatalog rules branchCatalog true code)
    else none

/-- The branch of a catalog and its merchant are active, and the branch is of the store type that
is asked for. -/
theorem getVisibleBranchCatalog_eq_some {rules : TextRules} {layout : MenuLayout}
    {cached : Option BranchCatalogRecord} {db : Store} {branchId : Id}
    {storeTypeCode : Option String} {catalog : BranchCatalog} :
    getVisibleBranchCatalog rules layout cached db branchId storeTypeCode = some catalog ↔
      ∃ record, cached.or (findBranchCatalogByBranchId layout db branchId) = some record ∧
        record.status = .active ∧ record.merchant.status = .active ∧
        (∀ code, normalizeOptionalString rules storeTypeCode = some code →
          ∃ assignment ∈ record.storeTypes, rules.toLowerCase assignment.storeType.code = code) ∧
        buildBranchCatalog rules record true (normalizeOptionalString rules storeTypeCode) =
          catalog := by
  rw [getVisibleBranchCatalog, Option.bind_eq_bind, Option.bind_eq_some_iff]
  refine exists_congr fun record => and_congr_right fun _ => ?_
  by_cases hactive : record.status ≠ .active ∨ record.merchant.status ≠ .active
  · rw [if_pos hactive]
    refine iff_of_false (by simp) fun h => ?_
    exact hactive.elim (fun hne => hne h.1) fun hne => hne h.2.1
  · rw [if_neg hactive]
    obtain ⟨hstatus, hmerchant⟩ := not_or.mp hactive
    simp [not_not.mp hstatus, not_not.mp hmerchant, Option.all_eq_true]

end CustomerCatalogRead

end WerTe
