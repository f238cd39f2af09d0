import WerTe.ReadCommitted.Rows
import WerTe.Schema

/-!
# The menus repository: stock rows and inventory lots

The reads and the row updates of `menus.repository.ts` that touch stock. Items, options
and variant combinations have the same stock columns and the same three updates
(`decrementTracked…`, `adjustTracked…`, `increment…`), so these are defined once over
`StockTable`; lots have their own.
-/

namespace WerTe

open ReadCommitted

/-! ## The tables with stock columns -/

/-- A table with `isStockTracked`, `stockQuantity` and `lowStockThreshold`. -/
inductive StockTable
  | menuItem | itemOption | itemVariantCombination
deriving DecidableEq, Repr

namespace StockTable

/-- The table. -/
@[reducible] def tbl : StockTable → Tbl
  | .menuItem => .menuItem
  | .itemOption => .itemOption
  | .itemVariantCombination => .itemVariantCombination

/-- The stock columns of a row. -/
def stock : (t : StockTable) → Row t.tbl → TrackedStock
  | .menuItem, r => MenuItem.stock r
  | .itemOption, r => ItemOption.stock r
  | .itemVariantCombination, r => ItemVariantCombination.stock r

/-- The row with other stock columns. -/
def setStock : (t : StockTable) → Row t.tbl → TrackedStock → Row t.tbl
  | .menuItem, r, s => { (r : MenuItem) with stock := s }
  | .itemOption, r, s => { (r : ItemOption) with stock := s }
  | .itemVariantCombination, r, s => { (r : ItemVariantCombination) with stock := s }

@[simp] theorem stock_setStock (t : StockTable) (r : Row t.tbl) (s : TrackedStock) :
    t.stock (t.setStock r s) = s := by cases t <;> rfl

end StockTable

/-- `decrementTracked…Stock`: take `quantity` from a tracked row that has at least that much. -/
def decrementTrackedStock (t : StockTable) (id : Id) (quantity : ℤ) : StoreTx Bool :=
  .updateRow (t.tbl, id)
    (fun r => (t.stock r).isStockTracked && (t.stock r).stockQuantity.any (quantity ≤ ·))
    (fun r => t.setStock r
      { t.stock r with stockQuantity := (t.stock r).stockQuantity.map (· - quantity) })

/-- `adjustTracked…Stock`: a signed change of a tracked row, refused below zero. -/
def adjustTrackedStock (t : StockTable) (id : Id) (delta : ℤ) : StoreTx Bool :=
  if delta = 0 then pure true
  else if delta < 0 then decrementTrackedStock t id delta.natAbs
  else
    .updateRow (t.tbl, id)
      (fun r => (t.stock r).isStockTracked && (t.stock r).stockQuantity.isSome)
      (fun r => t.setStock r
        { t.stock r with stockQuantity := (t.stock r).stockQuantity.map (· + delta) })

/-- `increment…Stock`: add to a row, tracked or not, with `COALESCE` for a null stock. -/
def incrementStock (t : StockTable) (id : Id) (quantity : ℤ) : StoreTx Bool :=
  .updateRow (t.tbl, id) (fun _ => true)
    (fun r => t.setStock r
      { t.stock r with stockQuantity := some ((t.stock r).stockQuantity.getD 0 + quantity) })

namespace MenusRepository

def decrementTrackedItemStock := decrementTrackedStock .menuItem
def adjustTrackedItemStock := adjustTrackedStock .menuItem
def incrementItemStock := incrementStock .menuItem

def decrementTrackedOptionStock := decrementTrackedStock .itemOption
def adjustTrackedOptionStock := adjustTrackedStock .itemOption
def incrementOptionStock := incrementStock .itemOption

def decrementTrackedVariantCombinationStock := decrementTrackedStock .itemVariantCombination
def incrementVariantCombinationStock := incrementStock .itemVariantCombination

/-! ## Writing stock columns outright -/

/-- The stock columns of an update; a column that is not given keeps its value. -/
structure StockData where
  isStockTracked : Option Bool := none
  stockQuantity : Option (Option ℤ) := none
  lowStockThreshold : Option (Option ℤ) := none
deriving DecidableEq, Repr

/-- The stock columns after the update. -/
def StockData.apply (data : StockData) (stock : TrackedStock) : TrackedStock where
  isStockTracked := data.isStockTracked.getD stock.isStockTracked
  stockQuantity := data.stockQuantity.getD stock.stockQuantity
  lowStockThreshold := data.lowStockThreshold.getD stock.lowStockThreshold

/-- `updateItem`, `updateOption` and `updateVariantCombination`: write the stock columns, and
the other columns as `other` does. The row must be there. -/
def updateStockRow (t : StockTable) (id : Id) (data : StockData)
    (other : Row t.tbl → Row t.tbl) : StoreTx Unit := do
  let found ← .updateRow (t.tbl, id) (fun _ => true)
    (fun r => t.setStock (other r) (data.apply (t.stock r)))
  .require (found = true) .recordNotFound

/-! ## Items and options with their owners -/

/-- An item with the branch and the merchant user it belongs to. -/
structure MenuItemOwnershipRecord where
  id : Id
  item : MenuItem
  branchId : Id
  merchantId : Id
  merchantUserId : Id
deriving DecidableEq

def findItemById (db : Store) (id : Id) : Option MenuItemOwnershipRecord := do
  let item ← db.get (.menuItem, id)
  let branch ← db.get (.branch, item.branchId)
  let merchant ← db.get (.merchant, branch.merchantId)
  return ⟨id, item, item.branchId, branch.merchantId, merchant.userId⟩

/-- A group of options with its item and the item's owner. -/
structure ItemOptionGroupOwnershipRecord where
  id : Id
  group : ItemOptionGroup
  menuItem : MenuItemOwnershipRecord
deriving DecidableEq

def findOptionGroupById (db : Store) (id : Id) : Option ItemOptionGroupOwnershipRecord := do
  let group ← db.get (.itemOptionGroup, id)
  let menuItem ← findItemById db group.menuItemId
  return ⟨id, group, menuItem⟩

/-- An option with its group, its item, and the item's owner. -/
structure ItemOptionOwnershipRecord where
  id : Id
  option : ItemOption
  group : ItemOptionGroup
  menuItem : MenuItemOwnershipRecord
deriving DecidableEq

def findOptionById (db : Store) (id : Id) : Option ItemOptionOwnershipRecord := do
  let option ← db.get (.itemOption, id)
  let group ← db.get (.itemOptionGroup, option.groupId)
  let menuItem ← findItemById db group.menuItemId
  return ⟨id, option, group, menuItem⟩

/-- A variant combination with its item and the item's owner. -/
structure ItemVariantCombinationOwnershipRecord where
  id : Id
  combination : ItemVariantCombination
  menuItem : MenuItemOwnershipRecord
deriving DecidableEq

def findVariantCombinationById (db : Store) (id : Id) :
    Option ItemVariantCombinationOwnershipRecord := do
  let combination ← db.get (.itemVariantCombination, id)
  let menuItem ← findItemById db combination.menuItemId
  return ⟨id, combination, menuItem⟩

/-! ## Inventory lots -/

/-- The lots of an item; the order of the query does not matter to its one caller, which
sorts them itself. -/
def listItemInventoryLotsByMenuItemId (db : Store) (menuItemId : Id) :
    List (Id × MenuItemInventoryLot) :=
  db.list .menuItemInventoryLot fun lot => lot.menuItemId == menuItemId

def countItemInventoryLotsByMenuItemId (db : Store) (menuItemId : Id) : ℕ :=
  (listItemInventoryLotsByMenuItemId db menuItemId).length

def decrementItemInventoryLotQuantity (lotId : Id) (quantity : ℤ) : StoreTx Bool :=
  .updateRow (.menuItemInventoryLot, lotId) (fun lot => quantity ≤ lot.remainingQuantity)
    (fun lot => { lot with remainingQuantity := lot.remainingQuantity - quantity })

def adjustItemInventoryLotQuantity (lotId : Id) (delta : ℤ) : StoreTx Bool :=
  if delta = 0 then pure true
  else if delta < 0 then decrementItemInventoryLotQuantity lotId delta.natAbs
  else
    .updateRow (.menuItemInventoryLot, lotId) (fun _ => true)
      (fun lot => { lot with
        remainingQuantity := lot.remainingQuantity + delta
        receivedQuantity := lot.receivedQuantity + delta })

def incrementItemInventoryLotRemainingQuantity (lotId : Id) (quantity : ℤ) : StoreTx Bool :=
  .updateRow (.menuItemInventoryLot, lotId) (fun _ => true)
    (fun lot => { lot with remainingQuantity := lot.remainingQuantity + quantity })

def findItemInventoryLotById (db : Store) (id : Id) : Option MenuItemInventoryLot :=
  db.get (.menuItemInventoryLot, id)

def findItemInventoryLotByMenuItemIdAndBatchNo (db : Store) (menuItemId : Id) (batchNo : String) :
    Option (Id × MenuItemInventoryLot) :=
  (db.list .menuItemInventoryLot fun lot =>
    lot.menuItemId == menuItemId && lot.batchNo == batchNo).head?

def createItemInventoryLot (id : Id) (lot : MenuItemInventoryLot) : StoreTx Unit :=
  .insertRow (.menuItemInventoryLot, id) lot fun db =>
    if (db.get (.menuItemInventoryLot, id)).isSome then some (.uniqueConstraint "id")
    else if (findItemInventoryLotByMenuItemIdAndBatchNo db lot.menuItemId lot.batchNo).isSome then
      some (.uniqueConstraint "menuItemId_batchNo")
    else none

def createItem (id : Id) (item : MenuItem) : StoreTx Unit :=
  .insertRow (.menuItem, id) item fun db =>
    if (db.get (.menuItem, id)).isSome then some (.uniqueConstraint "id") else none

def findHighestOptionSortOrderByOptionGroupId (db : Store) (optionGroupId : Id) : Option ℤ :=
  ((db.list .itemOption fun option => option.groupId == optionGroupId).map
    fun option => option.2.sortOrder).max?

def createOption (id : Id) (option : ItemOption) : StoreTx Unit :=
  .insertRow (.itemOption, id) option fun db =>
    if (db.get (.itemOption, id)).isSome then some (.uniqueConstraint "id")
    else if (db.get (.itemOptionGroup, option.groupId)).isNone then
      some (.foreignKeyConstraint "groupId")
    else none

end MenusRepository

end WerTe
