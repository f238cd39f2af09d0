import Mathlib.Data.List.Sort
import WerTe.MenusRepository

/-!
# Reserving and restoring stock for an order

`menu-inventory-lifecycle.service.ts`: an order's lines take stock from items, lots,
variant combinations and options, and a cancelled order gives it back. Both run inside
the caller's transaction, one statement after the other, so both are transaction bodies
here; the loops of the source are recursions over the same lists.
-/

namespace WerTe

open ReadCommitted MenusRepository

/-! ## Order lines -/

/-- `MenuInventoryOrderLineInput`. -/
structure MenuInventoryOrderLineInput where
  lineKey : Option Id
  menuItemId : Id
  quantity : ℤ
  menuItemStockTrackedSnapshot : Bool
  selectedVariantCombinationId : Option Id
  variantCombinationStockTrackedSnapshot : Bool
  inventoryLotAllocations : List MenuInventoryLotAllocation
  selectedOptions : List OrderItemOption
deriving DecidableEq, Repr

/-- The combination whose stock the line takes, if it takes any. -/
def MenuInventoryOrderLineInput.reservedVariant (line : MenuInventoryOrderLineInput) : Option Id :=
  if line.variantCombinationStockTrackedSnapshot then line.selectedVariantCombinationId else none

/-- The options whose stock the line takes. -/
def MenuInventoryOrderLineInput.reservedOptions (line : MenuInventoryOrderLineInput) : List Id :=
  (line.selectedOptions.filter (·.itemOptionStockTrackedSnapshot)).map (·.itemOptionId)

/-! ## Alerts -/

/-- `MenuInventoryAlertEvent`; its `branchName` is always null. -/
structure MenuInventoryAlertEvent where
  merchantUserId : Id
  branchId : Id
  resourceType : InventoryResourceType
  resourceId : Id
  resourceLabel : String
  attentionLevel : InventoryAttentionLevel
  stockQuantity : Option ℤ
  lowStockThreshold : Option ℤ
  menuItemName : Option String
deriving DecidableEq, Repr

/-- `resolveItemAttentionLevel` and `resolveOptionAttentionLevel`. -/
def resolveAttentionLevel (stock : TrackedStock) : Option InventoryAttentionLevel :=
  if !stock.isStockTracked then none
  else if stock.stockQuantity.getD 0 ≤ 0 then some .outOfStock
  else
    match stock.lowStockThreshold, stock.stockQuantity with
    | some threshold, some quantity => if quantity ≤ threshold then some .lowStock else none
    | _, _ => none

def shouldEmitAlert (previous : Option InventoryAttentionLevel)
    (next : InventoryAttentionLevel) : Bool :=
  previous == none || (previous == some .lowStock && next == .outOfStock)

def buildItemAlertEvent : Option MenuItemOwnershipRecord → Option MenuItemOwnershipRecord →
    Option MenuInventoryAlertEvent
  | some previousItem, some nextItem =>
    match resolveAttentionLevel nextItem.item.stock with
    | none => none
    | some next =>
      if shouldEmitAlert (resolveAttentionLevel previousItem.item.stock) next then
        some {
          merchantUserId := nextItem.merchantUserId
          branchId := nextItem.branchId
          resourceType := .menuItem
          resourceId := nextItem.id
          resourceLabel := nextItem.item.name
          attentionLevel := next
          stockQuantity := nextItem.item.stock.stockQuantity
          lowStockThreshold := nextItem.item.stock.lowStockThreshold
          menuItemName := none }
      else none
  | _, _ => none

def buildOptionAlertEvent : Option ItemOptionOwnershipRecord → Option ItemOptionOwnershipRecord →
    Option MenuInventoryAlertEvent
  | some previousOption, some nextOption =>
    match resolveAttentionLevel nextOption.option.stock with
    | none => none
    | some next =>
      if shouldEmitAlert (resolveAttentionLevel previousOption.option.stock) next then
        some {
          merchantUserId := nextOption.menuItem.merchantUserId
          branchId := nextOption.menuItem.branchId
          resourceType := .itemOption
          resourceId := nextOption.id
          resourceLabel := nextOption.option.name
          attentionLevel := next
          stockQuantity := nextOption.option.stock.stockQuantity
          lowStockThreshold := nextOption.option.stock.lowStockThreshold
          menuItemName := some nextOption.menuItem.item.name }
      else none
  | _, _ => none

/-- `alerts.set`: an alert under a key that is there already takes its place. -/
def setAlert (alerts : List MenuInventoryAlertEvent) :
    Option MenuInventoryAlertEvent → List MenuInventoryAlertEvent
  | none => alerts
  | some alert =>
    let sameKey := fun a : MenuInventoryAlertEvent =>
      a.resourceType == alert.resourceType && a.resourceId == alert.resourceId
    if alerts.any sameKey then alerts.map fun a => if sameKey a then alert else a
    else alerts ++ [alert]

/-! ## Lots -/

/-- `compareOptionalDates` as an order: earlier first, no date last. -/
def compareOptionalDates : Option Date → Option Date → Ordering
  | none, none => .eq
  | none, some _ => .gt
  | some _, none => .lt
  | some left, some right => compare left right

/-- The order in which lots are used up: by expiry, receipt, creation and id. -/
def lotBefore (left right : Id × MenuItemInventoryLot) : Bool :=
  ((compareOptionalDates left.2.expiryDate right.2.expiryDate).then <|
    (compare left.2.receivedAt right.2.receivedAt).then <|
    (compare left.2.createdAt right.2.createdAt).then <|
    compare left.1 right.1) != .gt

/-- The lots with something left, in the order in which they are used up. -/
def availableLots (lots : List (Id × MenuItemInventoryLot)) : List (Id × MenuItemInventoryLot) :=
  (lots.filter fun lot => 0 < lot.2.remainingQuantity).insertionSort fun l r => lotBefore l r

/-- What one lot gives to a line. -/
def lotAllocation (lot : Id × MenuItemInventoryLot) (quantity : ℤ) : MenuInventoryLotAllocation where
  inventoryLotId := lot.1
  batchNoSnapshot := lot.2.batchNo
  expiryDateSnapshot := lot.2.expiryDate
  quantity := quantity

/-- The loop of `reserveTrackedInventoryLots`: take from each lot in turn until nothing
remains to be taken. -/
def reserveFromLots (menuItemId : Id) : List (Id × MenuItemInventoryLot) → ℤ →
    StoreTx (List MenuInventoryLotAllocation)
  | [], _ => pure []
  | lot :: lots, remainingQuantity =>
    if remainingQuantity ≤ 0 then pure []
    else do
      let allocatedQuantity := min lot.2.remainingQuantity remainingQuantity
      let reserved ← decrementItemInventoryLotQuantity lot.1 allocatedQuantity
      .require (reserved = true) (fail
        "The requested inventory lot is no longer available in the requested quantity." .conflict
        [("menuItemId", .id menuItemId), ("lotId", .id lot.1),
          ("requestedQuantity", .num allocatedQuantity)])
      let rest ← reserveFromLots menuItemId lots (remainingQuantity - allocatedQuantity)
      pure (lotAllocation lot allocatedQuantity :: rest)

def reserveTrackedInventoryLots (menuItemId : Id) (quantity : ℤ) :
    StoreTx (List MenuInventoryLotAllocation) := do
  let lots ← .read fun db => listItemInventoryLotsByMenuItemId db menuItemId
  let availableQuantity := ((availableLots lots).map (·.2.remainingQuantity)).sum
  .require (quantity ≤ availableQuantity) (fail
    "The requested item is no longer available in the requested quantity across its remaining inventory lots."
    .conflict
    [("menuItemId", .id menuItemId), ("requestedQuantity", .num quantity),
      ("availableLotQuantity", .num availableQuantity)])
  reserveFromLots menuItemId (availableLots lots) quantity

/-! ## Reserving -/

/-- `MenuInventoryReservationResult`; the record of allocations is a list with the most
recent entry for a key first. -/
structure MenuInventoryReservationResult where
  alerts : List MenuInventoryAlertEvent
  inventoryLotAllocationsByLineKey : List (Id × List MenuInventoryLotAllocation)
deriving DecidableEq, Repr

/-- Note the allocations of a line, when there are any and the line has a key. -/
def recordAllocations (byLineKey : List (Id × List MenuInventoryLotAllocation))
    (lineKey : Option Id) (allocations : List MenuInventoryLotAllocation) :
    List (Id × List MenuInventoryLotAllocation) :=
  match lineKey with
  | some key => if allocations.isEmpty then byLineKey else (key, allocations) :: byLineKey
  | none => byLineKey

def MenuInventoryReservationResult.setAlert (result : MenuInventoryReservationResult)
    (alert : Option MenuInventoryAlertEvent) : MenuInventoryReservationResult :=
  { result with alerts := WerTe.setAlert result.alerts alert }

/-- A line's item: its lots, if it has any, and its own stock. -/
def reserveItem (line : MenuInventoryOrderLineInput) (result : MenuInventoryReservationResult) :
    StoreTx MenuInventoryReservationResult :=
  if line.menuItemStockTrackedSnapshot then do
    let previousItem ← .read fun db => findItemById db line.menuItemId
    let lotCount ← .read fun db => countItemInventoryLotsByMenuItemId db line.menuItemId
    let allocations ←
      (if 0 < lotCount then reserveTrackedInventoryLots line.menuItemId line.quantity
        else pure [] : StoreTx (List MenuInventoryLotAllocation))
    let wasReserved ← decrementTrackedItemStock line.menuItemId line.quantity
    .require (wasReserved = true) (fail
      "The requested item is no longer available in the requested quantity." .conflict
      [("menuItemId", .id line.menuItemId), ("requestedQuantity", .num line.quantity)])
    let nextItem ← .read fun db => findItemById db line.menuItemId
    pure { result.setAlert (buildItemAlertEvent previousItem nextItem) with
      inventoryLotAllocationsByLineKey :=
        recordAllocations result.inventoryLotAllocationsByLineKey line.lineKey allocations }
  else pure result

/-- A line's variant combination. -/
def reserveVariant (line : MenuInventoryOrderLineInput) : StoreTx Unit :=
  match line.reservedVariant with
  | none => pure ()
  | some combinationId => do
    let wasReserved ← decrementTrackedVariantCombinationStock combinationId line.quantity
    .require (wasReserved = true) (fail
      "The selected variant combination is no longer available in the requested quantity."
      .conflict
      [("combinationId", .id combinationId), ("requestedQuantity", .num line.quantity)])

/-- A line's options, one after the other. -/
def reserveOptions (quantity : ℤ) : List Id → MenuInventoryReservationResult →
    StoreTx MenuInventoryReservationResult
  | [], result => pure result
  | itemOptionId :: rest, result => do
    let previousOption ← .read fun db => findOptionById db itemOptionId
    let wasReserved ← decrementTrackedOptionStock itemOptionId quantity
    .require (wasReserved = true) (fail
      "One of the selected options is no longer available in the requested quantity." .conflict
      [("itemOptionId", .id itemOptionId), ("requestedQuantity", .num quantity)])
    let nextOption ← .read fun db => findOptionById db itemOptionId
    reserveOptions quantity rest
      (result.setAlert (buildOptionAlertEvent previousOption nextOption))

/-- The loop over the lines. -/
def reserveLines : List MenuInventoryOrderLineInput → MenuInventoryReservationResult →
    StoreTx MenuInventoryReservationResult
  | [], result => pure result
  | line :: lines, result => do
    let result ← reserveItem line result
    reserveVariant line
    let result ← reserveOptions line.quantity line.reservedOptions result
    reserveLines lines result

def reserveTrackedInventoryForOrder (items : List MenuInventoryOrderLineInput) :
    StoreTx MenuInventoryReservationResult := reserveLines items ⟨[], []⟩

/-- The line as the order stores it: with the allocations of its key, if there are any. -/
def MenuInventoryOrderLineInput.withAllocations (line : MenuInventoryOrderLineInput)
    (byLineKey : List (Id × List MenuInventoryLotAllocation)) : MenuInventoryOrderLineInput :=
  { line with
    inventoryLotAllocations := (line.lineKey.bind fun key => byLineKey.lookup key).getD [] }

/-! ## Restoring -/

/-- Give back to each lot what was taken from it. -/
def restoreLots : List MenuInventoryLotAllocation → StoreTx Unit
  | [] => pure ()
  | allocation :: rest => do
    let _ ← incrementItemInventoryLotRemainingQuantity allocation.inventoryLotId
      allocation.quantity
    restoreLots rest

def restoreItem (line : MenuInventoryOrderLineInput) : StoreTx Unit :=
  if line.menuItemStockTrackedSnapshot then do
    let _ ← incrementItemStock line.menuItemId line.quantity
    restoreLots line.inventoryLotAllocations
  else pure ()

def restoreVariant (line : MenuInventoryOrderLineInput) : StoreTx Unit :=
  match line.reservedVariant with
  | none => pure ()
  | some combinationId => do
    let _ ← incrementVariantCombinationStock combinationId line.quantity
    pure ()

def restoreOptions (quantity : ℤ) : List Id → StoreTx Unit
  | [] => pure ()
  | itemOptionId :: rest => do
    let _ ← incrementOptionStock itemOptionId quantity
    restoreOptions quantity rest

def restoreTrackedInventoryForOrder : List MenuInventoryOrderLineInput → StoreTx Unit
  | [] => pure ()
  | line :: lines => do
    restoreItem line
    restoreVariant line
    restoreOptions line.quantity line.reservedOptions
    restoreTrackedInventoryForOrder lines

/-! ## What is written -/

/-- The tables with stock. -/
def stockTables : List Tbl :=
  [.menuItem, .itemOption, .itemVariantCombination, .menuItemInventoryLot]

/-- The write is of a stock row. -/
def StockWrite (w : Write Row) : Prop := w.table ∈ stockTables

/-! ## A sample shop -/

/-- A tracked stock without an alert threshold. -/
def TrackedStock.tracking (quantity : ℤ) : TrackedStock := ⟨true, some quantity, none⟩

/-- A shop with one item in two lots and one option. -/
def teaShop : Store := Db.empty.apply [
  ⟨.merchant, 1, some { userId := 10, status := .active }⟩,
  ⟨.branch, 1, some { merchantId := 1, status := .active }⟩,
  ⟨.menuItem, 1, some {
    branchId := 1, name := "Tea", basePrice := 1500, stock := .tracking 5, isAvailable := true }⟩,
  ⟨.menuItemInventoryLot, 1, some {
    menuItemId := 1, batchNo := "A", expiryDate := none, receivedAt := 0, createdAt := 0,
    receivedQuantity := 3, remainingQuantity := 3 }⟩,
  ⟨.menuItemInventoryLot, 2, some {
    menuItemId := 1, batchNo := "B", expiryDate := some 100, receivedAt := 0, createdAt := 0,
    receivedQuantity := 2, remainingQuantity := 2 }⟩,
  ⟨.itemOptionGroup, 1, some {
    menuItemId := 1, kind := .addOn, minSelect := 0, maxSelect := 2, sortOrder := 0,
    isActive := true }⟩,
  ⟨.itemOption, 1, some {
    groupId := 1, name := "Milk", priceDelta := 200, stock := .tracking 9, sortOrder := 0,
    isActive := true }⟩]

/-- A line for `quantity` cups of tea with milk. -/
def teaLine (lineKey : Id) (quantity : ℤ) : MenuInventoryOrderLineInput where
  lineKey := some lineKey
  menuItemId := 1
  quantity := quantity
  menuItemStockTrackedSnapshot := true
  selectedVariantCombinationId := none
  variantCombinationStockTrackedSnapshot := false
  inventoryLotAllocations := []
  selectedOptions := [⟨1, true⟩]

-- The lot that expires is used up before the one that does not.
example : ((reserveTrackedInventoryForOrder [teaLine 1 1, teaLine 2 3]).run teaShop).map
    (fun r => r.1.inventoryLotAllocationsByLineKey) =
    .ok [(2, [⟨2, "B", some 100, 1⟩, ⟨1, "A", none, 2⟩]), (1, [⟨2, "B", some 100, 1⟩])] := by
  decide

end WerTe
