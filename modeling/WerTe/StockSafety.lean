import Mathlib.Data.Fin.VecNotation
import WerTe.MerchantInventory
import WerTe.StockTotals

/-!
# Stock is never oversold

Any number of checkout reservations, order restorations and merchant stock operations
run at once, interleaved in any way. No stock level ever becomes negative, and every
reservation that commits has taken exactly what its lines order: from the items, options
and combinations, and, for an item with lots, from its lots in total.

The invariant speaks about one row at a time (`StockRow`), so each operation only has to
show that the rows it writes meet it. That a reservation's effect is exact although
other transactions commit while it runs is `reserveTrackedInventoryForOrder_taken`.
-/

namespace WerTe

open ReadCommitted MenusRepository Tx

/-! ## The invariant -/

/-- The item a lot belongs to. -/
def lotOwner : (t : Tbl) → Row t → Option Id
  | .menuItemInventoryLot, r => some (MenuItemInventoryLot.menuItemId r)
  | _, _ => none

/-- A row whose level is not negative, and which, if it is a lot, belongs to its item. -/
structure StockRow (lotItem : Id → Option Id) (k : Key Tbl) (o : Option (Row k.1)) : Prop where
  /-- the level is not negative -/
  nonneg : ∀ level, o.bind (stockLevel k.1) = some level → 0 ≤ level
  /-- a lot is a lot of its item -/
  owner : k.1 = .menuItemInventoryLot → o.bind (lotOwner k.1) = lotItem k.2

/-- No stock level is negative. -/
def NonNegativeStock (db : Store) : Prop := ∀ k level, levelAt db k = some level → 0 ≤ level

theorem rowwise_stockRow {db : Store} (h : NonNegativeStock db) :
    Rowwise (StockRow (lotItemOf db)) db := by
  rintro ⟨t, i⟩
  refine ⟨h (t, i), fun ht => ?_⟩
  cases ht
  rw [lotItemOf]
  cases db.get (.menuItemInventoryLot, i) <;> rfl

section Invariant

variable {lotItem : Id → Option Id}

theorem lotsOf_of_rowwise {db : Store} (h : Rowwise (StockRow lotItem) db) : LotsOf lotItem db := by
  intro i
  have howner := (h (.menuItemInventoryLot, i)).owner rfl
  rw [← howner, lotItemOf]
  cases db.get (.menuItemInventoryLot, i) <;> rfl

/-- A row changed in its level only still meets the invariant if the level is not negative. -/
theorem StockRow.change {k : Key Tbl} {r r' : Row k.1} (h : StockRow lotItem k (some r))
    (howner : lotOwner k.1 r' = lotOwner k.1 r)
    (hlevel : ∀ level, stockLevel k.1 r' = some level → 0 ≤ level) :
    StockRow lotItem k (some r') :=
  ⟨hlevel, fun hk => howner.trans (h.owner hk)⟩

theorem lotOwner_take (q : ℤ) (k : Key Tbl) (r : Row k.1) :
    lotOwner k.1 (take q k r) = lotOwner k.1 r := by
  obtain ⟨t, i⟩ := k
  cases t <;> rfl

/-- Taking no more than there is keeps the invariant. -/
theorem stockRow_takeCloses : TakeCloses (Rowwise (StockRow lotItem)) (StockRow lotItem) := by
  intro ws db k r quantity level hI hrows hget hlevel hle
  refine (hI.view hrows hget).change (lotOwner_take quantity k r) fun level' hlevel' => ?_
  rw [stockLevel_take, hlevel] at hlevel'
  cases hlevel'
  exact Int.sub_nonneg_of_le hle

/-- An update that keeps a row's owner and leaves it a level that is not negative. -/
theorem stockRow_updateRow {k : Key Tbl} {guard : Row k.1 → Bool} {f : Row k.1 → Row k.1}
    (howner : ∀ r, lotOwner k.1 (f r) = lotOwner k.1 r)
    (hlevel : ∀ r level, (∀ level₀, stockLevel k.1 r = some level₀ → 0 ≤ level₀) →
      stockLevel k.1 (f r) = some level → 0 ≤ level) :
    KeepsRows (Rowwise (StockRow lotItem)) (StockRow lotItem)
      (Tx.updateRow k guard f : StoreTx Bool) := by
  refine .updateRow fun ws db r hI hrows hget _ => ?_
  have hrow := hI.view hrows hget
  exact hrow.change (howner r) fun level hl => hlevel r level hrow.nonneg hl

/-! ## The repository's updates keep it -/

/-- Adding to a nullable stock keeps it from going below zero. -/
theorem nonneg_map_add {o : Option ℤ} {q level : ℤ} (hq : 0 ≤ q)
    (ho : ∀ level₀, o = some level₀ → 0 ≤ level₀) (h : o.map (· + q) = some level) :
    0 ≤ level := by
  obtain ⟨level₀, hlevel₀, rfl⟩ := Option.map_eq_some_iff.mp h
  have := ho level₀ hlevel₀
  omega

theorem adjustTrackedStock_stockRow (t : StockTable) (id : Id) (delta : ℤ) :
    KeepsRows (Rowwise (StockRow lotItem)) (StockRow lotItem) (adjustTrackedStock t id delta) := by
  unfold adjustTrackedStock
  split
  · exact .ret true
  · split
    · exact decrementTrackedStock_rows stockRow_takeCloses t id _
    · refine stockRow_updateRow (fun r => by cases t <;> rfl) fun r level hr hlevel => ?_
      have hdelta : 0 ≤ delta := by omega
      cases t <;> exact nonneg_map_add hdelta hr hlevel

theorem incrementStock_stockRow (t : StockTable) (id : Id) {quantity : ℤ} (hq : 0 ≤ quantity) :
    KeepsRows (Rowwise (StockRow lotItem)) (StockRow lotItem) (incrementStock t id quantity) := by
  refine stockRow_updateRow (fun r => by cases t <;> rfl) fun r level hr hlevel => ?_
  have hsum : ∀ o : Option ℤ, (∀ level₀, o = some level₀ → 0 ≤ level₀) →
      some (o.getD 0 + quantity) = some level → 0 ≤ level := by
    intro o ho h
    cases h
    cases o with
    | none => exact Int.add_nonneg le_rfl hq
    | some level₀ => exact Int.add_nonneg (ho level₀ rfl) hq
  cases t <;> exact hsum _ hr hlevel

theorem incrementLot_stockRow (lotId : Id) {quantity : ℤ} (hq : 0 ≤ quantity) :
    KeepsRows (Rowwise (StockRow lotItem)) (StockRow lotItem)
      (incrementItemInventoryLotRemainingQuantity lotId quantity) :=
  stockRow_updateRow (fun _ => rfl) fun _ _ hr hlevel => nonneg_map_add hq hr hlevel

theorem adjustLot_stockRow (lotId : Id) (delta : ℤ) :
    KeepsRows (Rowwise (StockRow lotItem)) (StockRow lotItem)
      (adjustItemInventoryLotQuantity lotId delta) := by
  unfold adjustItemInventoryLotQuantity
  split
  · exact .ret true
  · split
    · exact decrementItemInventoryLotQuantity_rows stockRow_takeCloses lotId _
    · have hdelta : 0 ≤ delta := by omega
      exact stockRow_updateRow (fun _ => rfl) fun _ _ hr hlevel => nonneg_map_add hdelta hr hlevel

/-- The stock that an update writes is not negative. -/
def MenusRepository.StockData.NonNegative (data : StockData) : Prop :=
  ∀ level, data.stockQuantity = some (some level) → 0 ≤ level

theorem updateStockRow_stockRow (t : StockTable) (id : Id) {data : StockData}
    (hdata : data.NonNegative) (other : Row t.tbl → Row t.tbl) :
    KeepsRows (Rowwise (StockRow lotItem)) (StockRow lotItem)
      (updateStockRow t id data other) := by
  refine .bind (stockRow_updateRow (fun r => by cases t <;> rfl) fun r level hr hlevel => ?_)
    fun _ => .require _ _
  have hwrite : ∀ o : Option ℤ, (∀ level₀, o = some level₀ → 0 ≤ level₀) →
      data.stockQuantity.getD o = some level → 0 ≤ level := by
    intro o ho h
    cases hq : data.stockQuantity with
    | none => rw [hq] at h; exact ho level h
    | some q => rw [hq] at h; exact hdata level (hq.trans (congrArg some h))
  cases t <;> exact hwrite _ hr hlevel

/-- What `assertInventoryValue` asserts. -/
theorem assertInventoryValue_bind {text : String} {status : HttpStatus} {code : Option String}
    {name : String} {value : Option ℤ} {rest : Except Failure Unit}
    (h : (assertInventoryValue text status code name value >>= fun _ => rest) = .ok ()) :
    ∀ q ∈ value, 0 ≤ q := by
  unfold assertInventoryValue at h
  split at h
  case isTrue hall =>
    intro q hq
    rw [Option.mem_def.mp hq] at hall
    exact of_decide_eq_true hall
  case isFalse => cases h

theorem assertWholeNumbers_nonNegative (payload : InventoryPayload)
    (h : assertWholeNumbers payload = .ok ()) : ∀ q ∈ payload.stockQuantity, 0 ≤ q :=
  assertInventoryValue_bind h

theorem assertNonNegativeIntegers_nonNegative (payload : InventoryPayload)
    (h : assertNonNegativeIntegers payload = .ok ()) : ∀ q ∈ payload.stockQuantity, 0 ≤ q :=
  assertInventoryValue_bind h

/-- A request that passes its check writes a stock that is not negative. -/
theorem normalizeUpdateInventory_nonNegative
    {assertValues : InventoryPayload → Except Failure Unit}
    (hassert : ∀ payload, assertValues payload = .ok () → ∀ q ∈ payload.stockQuantity, 0 ≤ q)
    {payload : InventoryPayload} {isStockTracked : Bool} {data : StockData}
    (h : normalizeUpdateInventory assertValues payload isStockTracked = .ok data) :
    data.NonNegative := by
  intro level hlevel
  unfold normalizeUpdateInventory at h
  split at h
  · cases h
    cases hlevel
  · cases hvalues : assertValues payload with
    | error e => rw [hvalues] at h; cases h
    | ok u =>
      rw [hvalues] at h
      have hgiven := hassert payload hvalues
      change (if _ then _ else _) = _ at h
      split at h
      · cases h
        cases hq : payload.stockQuantity with
        | some q =>
          rw [hq] at hlevel hgiven
          cases hlevel
          exact hgiven level rfl
        | none =>
          rw [hq] at hlevel
          cases isStockTracked <;> cases hlevel
          exact le_rfl
      · cases h
        cases hlevel

theorem normalizeCreateInventory_nonNegative {payload : InventoryPayload} {stock : TrackedStock}
    (h : normalizeCreateInventory payload = .ok stock) :
    ∀ level, stock.stockQuantity = some level → 0 ≤ level := by
  intro level hlevel
  unfold normalizeCreateInventory at h
  cases hvalues : assertWholeNumbers payload with
  | error e => rw [hvalues] at h; cases h
  | ok u =>
    rw [hvalues] at h
    have hgiven := assertWholeNumbers_nonNegative payload hvalues
    change (if _ then _ else _) = _ at h
    split at h
    · cases h
      cases hq : payload.stockQuantity with
      | some q =>
        rw [hq] at hlevel
        exact Option.some.inj hlevel ▸ hgiven q hq
      | none =>
        rw [hq] at hlevel
        cases hlevel
        exact le_rfl
    · cases h
      cases hlevel

/-! ## The merchant's calls keep it -/

section MerchantCalls

variable {P : (k : Key Tbl) → Option (Row k.1) → Prop} (currentUser : AuthenticatedUser)
  (branchId itemId : Id)

theorem resolveOwnedItem_rows :
    Service.KeepsRows P (resolveOwnedItem currentUser branchId itemId) :=
  .bind (.get _) fun _ => .orFail _ _

theorem resolveManagedItem_rows :
    Service.KeepsRows P (resolveManagedItem currentUser branchId itemId) :=
  .bind (resolveOwnedItem_rows _ _ _) fun _ => .bind (.require _ _) fun _ => .ret _

theorem requireReasonCode_rows (reasonCode : String) :
    Service.KeepsRows P (requireReasonCode reasonCode) := by
  unfold requireReasonCode
  exact .orFail _ _

/-- A direct adjustment writes what the item's stock update writes. -/
theorem adjustBranchItemInventory_rows
    (hadjust : ∀ id delta, KeepsRows (Rowwise P) P (adjustTrackedStock .menuItem id delta))
    (payload : AdjustInventoryDto) :
    Service.KeepsRows P (adjustBranchItemInventory currentUser branchId itemId payload) := by
  unfold adjustBranchItemInventory
  refine .bind (resolveManagedItem_rows _ _ _) fun item => .bind (.require _ _) fun _ =>
    .bind (.get _) fun _ => .bind (.require _ _) fun _ =>
    .bind (requireReasonCode_rows _) fun _ => .bind (.transaction ?_) fun _ => .orFail _ _
  exact .bind (hadjust _ _) fun _ => .bind (.require _ _) fun _ => .read _

theorem adjustBranchItemInventory_stockRow (payload : AdjustInventoryDto) :
    Service.KeepsRows (StockRow lotItem)
      (adjustBranchItemInventory currentUser branchId itemId payload) :=
  adjustBranchItemInventory_rows _ _ _ (adjustTrackedStock_stockRow .menuItem) payload

theorem updateBranchItem_stockRow (catalogChecks : Store → Except Failure Unit)
    (payload : MenuItemPayload) : Service.KeepsRows (StockRow lotItem)
      (updateBranchItem catalogChecks currentUser branchId itemId payload) := by
  unfold updateBranchItem
  refine .bind (resolveManagedItem_rows _ _ _) fun item =>
    .ofExcept_bind fun data hdata => .transaction (.check_bind fun _ _ _ => ?_)
  exact updateStockRow_stockRow .menuItem _
    (normalizeUpdateInventory_nonNegative assertWholeNumbers_nonNegative hdata) _

/-- A lot's adjustment writes what the updates of the lot and of its item write. -/
theorem adjustItemInventoryLot_rows
    (hlot : ∀ id delta, KeepsRows (Rowwise P) P (adjustItemInventoryLotQuantity id delta))
    (hadjust : ∀ id delta, KeepsRows (Rowwise P) P (adjustTrackedStock .menuItem id delta))
    (lotId : Id) (payload : AdjustInventoryDto) :
    Service.KeepsRows P (adjustItemInventoryLot currentUser branchId itemId lotId payload) := by
  unfold adjustItemInventoryLot
  refine .bind (resolveOwnedItem_rows _ _ _) fun item =>
    .bind (.bind (.get _) fun _ => .orFail _ _) fun lot => .bind (.require _ _) fun _ =>
    .bind (requireReasonCode_rows _) fun _ => .transaction ?_
  exact .bind (hlot _ _) fun _ => .bind (.require _ _) fun _ =>
    .bind (hadjust _ _) fun _ => .bind (.require _ _) fun _ =>
    .bind (.read _) fun _ => .bind (.read _) fun _ => .require _ _

theorem adjustItemInventoryLot_stockRow (lotId : Id) (payload : AdjustInventoryDto) :
    Service.KeepsRows (StockRow lotItem)
      (adjustItemInventoryLot currentUser branchId itemId lotId payload) :=
  adjustItemInventoryLot_rows _ _ _ adjustLot_stockRow (adjustTrackedStock_stockRow .menuItem)
    lotId payload

variable (optionGroupId optionId : Id)

theorem resolveOwnedOption_rows : Service.KeepsRows P
    (resolveOwnedOption currentUser branchId itemId optionGroupId optionId) :=
  .bind (.get _) fun _ => .bind (.orFail _ _) fun _ => .bind (.require _ _) fun _ => .ret _

theorem updateGroupOption_stockRow (name : Option String) (priceDelta : Option ℚ)
    (isActive : Option Bool) (inventory : InventoryPayload) :
    Service.KeepsRows (StockRow lotItem) (updateGroupOption currentUser branchId itemId
      optionGroupId optionId name priceDelta isActive inventory) := by
  unfold updateGroupOption
  refine .bind (resolveOwnedOption_rows _ _ _ _ _) fun option =>
    .ofExcept_bind fun data hdata => .transaction ?_
  exact updateStockRow_stockRow .itemOption _
    (normalizeUpdateInventory_nonNegative assertWholeNumbers_nonNegative hdata) _

/-- An option's adjustment writes what its stock update writes. -/
theorem adjustGroupOptionInventory_rows
    (hadjust : ∀ id delta, KeepsRows (Rowwise P) P (adjustTrackedStock .itemOption id delta))
    (payload : AdjustInventoryDto) :
    Service.KeepsRows P (adjustGroupOptionInventory currentUser branchId itemId
      optionGroupId optionId payload) := by
  unfold adjustGroupOptionInventory
  refine .bind (resolveOwnedOption_rows _ _ _ _ _) fun option => .bind (.require _ _) fun _ =>
    .bind (requireReasonCode_rows _) fun _ => .bind (.transaction ?_) fun _ => .orFail _ _
  exact .bind (hadjust _ _) fun _ => .bind (.require _ _) fun _ => .read _

theorem adjustGroupOptionInventory_stockRow (payload : AdjustInventoryDto) :
    Service.KeepsRows (StockRow lotItem) (adjustGroupOptionInventory currentUser branchId itemId
      optionGroupId optionId payload) :=
  adjustGroupOptionInventory_rows _ _ _ _ _ (adjustTrackedStock_stockRow .itemOption) payload

theorem updateItemVariantCombination_stockRow (combinationId : Id) (name : Option String)
    (isActive : Option Bool) (inventory : InventoryPayload) :
    Service.KeepsRows (StockRow lotItem) (updateItemVariantCombination currentUser branchId itemId
      combinationId name isActive inventory) := by
  unfold updateItemVariantCombination
  refine .bind (.bind (.get _) fun _ => .bind (.orFail _ _) fun _ => .bind (.require _ _)
    fun _ => .ret _) fun combination => .transaction (.check_bind fun _ data hdata => ?_)
  exact updateStockRow_stockRow .itemVariantCombination _
    (normalizeUpdateInventory_nonNegative assertNonNegativeIntegers_nonNegative hdata) _

end MerchantCalls

/-! ## So do restorations -/

/-- A line with a quantity, and quantities from lots, that are not negative. -/
structure MenuInventoryOrderLineInput.NonNegative (line : MenuInventoryOrderLineInput) : Prop where
  quantity : 0 ≤ line.quantity
  allocations : ∀ a ∈ line.inventoryLotAllocations, 0 ≤ a.quantity

theorem restoreLots_stockRow (allocations : List MenuInventoryLotAllocation) :
    (∀ a ∈ allocations, 0 ≤ a.quantity) →
      KeepsRows (Rowwise (StockRow lotItem)) (StockRow lotItem) (restoreLots allocations) := by
  induction allocations with
  | nil => exact fun _ => .ret ()
  | cons a allocations ih =>
    exact fun h => .bind (incrementLot_stockRow _ (h a List.mem_cons_self))
      fun _ => ih fun a' ha' => h a' (List.mem_cons_of_mem a ha')

theorem restoreItem_stockRow {line : MenuInventoryOrderLineInput} (h : line.NonNegative) :
    KeepsRows (Rowwise (StockRow lotItem)) (StockRow lotItem) (restoreItem line) := by
  unfold restoreItem
  split
  · exact .bind (incrementStock_stockRow .menuItem _ h.quantity) fun _ =>
      restoreLots_stockRow _ h.allocations
  · exact .ret ()

theorem restoreVariant_stockRow {line : MenuInventoryOrderLineInput} (h : line.NonNegative) :
    KeepsRows (Rowwise (StockRow lotItem)) (StockRow lotItem) (restoreVariant line) := by
  unfold restoreVariant
  split
  · exact .ret ()
  · exact .bind (incrementStock_stockRow .itemVariantCombination _ h.quantity) fun _ => .ret ()

theorem restoreOptions_stockRow {quantity : ℤ} (h : 0 ≤ quantity) (optionIds : List Id) :
    KeepsRows (Rowwise (StockRow lotItem)) (StockRow lotItem)
      (restoreOptions quantity optionIds) := by
  induction optionIds with
  | nil => exact .ret ()
  | cons optionId optionIds ih =>
    exact .bind (incrementStock_stockRow .itemOption _ h) fun _ => ih

theorem restoreTrackedInventoryForOrder_stockRow (lines : List MenuInventoryOrderLineInput) :
    (∀ line ∈ lines, line.NonNegative) → KeepsRows (Rowwise (StockRow lotItem)) (StockRow lotItem)
      (restoreTrackedInventoryForOrder lines) := by
  induction lines with
  | nil => exact fun _ => .ret ()
  | cons line lines ih =>
    intro h
    have hline := h line List.mem_cons_self
    exact .bind (restoreItem_stockRow hline) fun _ => .bind (restoreVariant_stockRow hline)
      fun _ => .bind (restoreOptions_stockRow hline.quantity _) fun _ =>
      ih fun line' hline' => h line' (List.mem_cons_of_mem line hline')

end Invariant

/-! ## Concurrent calls -/

/-- What may run at once: reservations and restorations, each the stock part of some
transaction, and the merchant's operations. -/
inductive StockCall
  /-- reserve the stock of these lines -/
  | reserve (items : List MenuInventoryOrderLineInput)
  /-- give back the stock of these lines -/
  | restore (items : List MenuInventoryOrderLineInput)
  | adjustItem (currentUser : AuthenticatedUser) (branchId itemId : Id)
      (payload : AdjustInventoryDto)
  | adjustOption (currentUser : AuthenticatedUser) (branchId itemId optionGroupId optionId : Id)
      (payload : AdjustInventoryDto)
  | adjustLot (currentUser : AuthenticatedUser) (branchId itemId lotId : Id)
      (payload : AdjustInventoryDto)
  | updateItem (catalogChecks : Store → Except Failure Unit) (currentUser : AuthenticatedUser)
      (branchId itemId : Id) (payload : MenuItemPayload)
  | updateOption (currentUser : AuthenticatedUser) (branchId itemId optionGroupId optionId : Id)
      (name : Option String) (priceDelta : Option ℚ) (isActive : Option Bool)
      (inventory : InventoryPayload)
  | updateVariant (currentUser : AuthenticatedUser) (branchId itemId combinationId : Id)
      (name : Option String) (isActive : Option Bool) (inventory : InventoryPayload)

namespace StockCall

/-- The call. -/
def service : StockCall → StoreService Unit
  | reserve items => .transaction do
    let _ ← reserveTrackedInventoryForOrder items
    pure ()
  | restore items => .transaction (restoreTrackedInventoryForOrder items)
  | adjustItem currentUser branchId itemId payload => do
    let _ ← adjustBranchItemInventory currentUser branchId itemId payload
    pure ()
  | adjustOption currentUser branchId itemId optionGroupId optionId payload => do
    let _ ← adjustGroupOptionInventory currentUser branchId itemId optionGroupId optionId payload
    pure ()
  | adjustLot currentUser branchId itemId lotId payload =>
    adjustItemInventoryLot currentUser branchId itemId lotId payload
  | updateItem catalogChecks currentUser branchId itemId payload =>
    updateBranchItem catalogChecks currentUser branchId itemId payload
  | updateOption currentUser branchId itemId optionGroupId optionId name priceDelta isActive
      inventory =>
    updateGroupOption currentUser branchId itemId optionGroupId optionId name priceDelta isActive
      inventory
  | updateVariant currentUser branchId itemId combinationId name isActive inventory =>
    updateItemVariantCombination currentUser branchId itemId combinationId name isActive inventory

/-- The quantities of an order's lines are not negative. -/
def Valid : StockCall → Prop
  | reserve items => ∀ line ∈ items, 0 ≤ line.quantity
  | restore items => ∀ line ∈ items, line.NonNegative
  | _ => True

end StockCall

/-- The stock that these lines take has been taken. -/
structure Reserved (items : List MenuInventoryOrderLineInput) (db db' : Store) : Prop where
  /-- items, options and variant combinations lose what the lines order of them -/
  level : ∀ k, k.1 ≠ .menuItemInventoryLot →
    levelAt db' k = (levelAt db k).map (· - ordered items k)
  /-- those that a line takes from had that much -/
  covered : ∀ line ∈ items, ∀ k ∈ line.drawsOn, ∃ level, levelAt db k = some level ∧
    ordered items k ≤ level
  /-- the lots of an item that has lots lose in total what the lines order of the item -/
  lots : ∀ menuItemId, (∃ i, lotItemOf db i = some menuItemId) →
    lotTotal db' menuItemId = lotTotal db menuItemId - ordered items (.menuItem, menuItemId)

section Reservation

variable {lotItem : Id → Option Id} {items : List MenuInventoryOrderLineInput}

theorem mem_drawsOn_ne {line : MenuInventoryOrderLineInput} {k : Key Tbl}
    (hk : k ∈ line.drawsOn) : k.1 ≠ .menuItemInventoryLot := by
  rw [MenuInventoryOrderLineInput.drawsOn, List.mem_append, List.mem_append] at hk
  obtain (hk | hk) | hk := hk
  · split at hk
    · rw [List.mem_singleton.mp hk]
      exact fun h => by cases h
    · cases hk
  · obtain ⟨_, _, rfl⟩ := List.mem_map.mp hk
    exact fun h => by cases h
  · obtain ⟨_, _, rfl⟩ := List.mem_map.mp hk
    exact fun h => by cases h

/-- The writes of a reservation, committed to any database that meets the invariant. -/
theorem reserved_of_taken {db : Store} {ws : List (Write Row)}
    {allocated : List (MenuInventoryOrderLineInput × List MenuInventoryLotAllocation)}
    (hI : Rowwise (StockRow lotItem) db)
    (hallocated : ∀ l ∈ allocated, Allocated lotItem l.1 l.2)
    (hquantity : ∀ line ∈ allocated.map Prod.fst, 0 ≤ line.quantity)
    (htaken : Accumulates take (demand allocated) ws db)
    (hstocked : ∀ k ∈ ws.map Write.key, Stocked k ((db.apply ws).get k)) :
    Reserved (allocated.map Prod.fst) db (db.apply ws) := by
  have hlevel : ∀ k, k.1 ≠ .menuItemInventoryLot → levelAt (db.apply ws) k =
      (levelAt db k).map (· - ordered (allocated.map Prod.fst) k) := by
    intro k hk
    rw [levelAt, levelAt, htaken.rows k, ← amountAt_demand hk allocated, amountAt_apply]
    cases db.get k with
    | none => rfl
    | some r => exact stockLevel_amend_take ..
  refine ⟨hlevel, fun line hline k hk => ?_, fun menuItemId hlot => ?_⟩
  · have hwritten : k ∈ ws.map Write.key := by
      by_contra hnot
      exact demand_ne_zero hline hk (htaken.frame k hnot)
    obtain ⟨r, level, hr, hlevel', h0⟩ := hstocked k hwritten
    have hafter : levelAt (db.apply ws) k = some level := by rw [levelAt, hr]; exact hlevel'
    rw [hlevel k (mem_drawsOn_ne hk), Option.map_eq_some_iff] at hafter
    obtain ⟨level₀, hlevel₀, rfl⟩ := hafter
    exact ⟨level₀, hlevel₀, Int.sub_nonneg.mp h0⟩
  · have hlots := lotsOf_of_rowwise hI
    have hitem : ∃ i, lotItem i = some menuItemId := hlot.imp fun i hi => (hlots i).symm.trans hi
    have hdraw : lotDraw db menuItemId (demand allocated) =
        ordered (allocated.map Prod.fst) (.menuItem, menuItemId) :=
      lotDraw_demand hlots (fun l hl => (hallocated l hl).mem) fun l hl htracked hid =>
        (hallocated l hl).total htracked (hid ▸ hitem) (hquantity l.1 (List.mem_map_of_mem hl))
    have htotal := lotTotal_taken htaken menuItemId
    omega

/-- Rows with a level that is not negative keep the others company. -/
theorem NonNegativeStock.stocked {db : Store} {ws : List (Write Row)} (h : NonNegativeStock db)
    (hstocked : ∀ k ∈ ws.map Write.key, Stocked k ((db.apply ws).get k)) :
    NonNegativeStock (db.apply ws) := by
  intro k level hlevel
  by_cases hk : k ∈ ws.map Write.key
  · obtain ⟨r, level', hr, hlevel', h0⟩ := hstocked k hk
    rw [levelAt, hr] at hlevel
    rw [show stockLevel k.1 r = some level from hlevel] at hlevel'
    cases hlevel'
    exact h0
  · rw [levelAt, Db.get_apply_of_notMem hk] at hlevel
    exact h k level hlevel

/-- A reservation, committed whatever ran beside it, has taken its stock. -/
theorem reserve_commits (hitems : ∀ line ∈ items, 0 ≤ line.quantity) :
    Triple (Rowwise (StockRow lotItem)) .fresh (reserveTrackedInventoryForOrder items) fun _ =>
      .commits fun _ db db' => Rowwise (StockRow lotItem) db' ∧ Reserved items db db' := by
  have hlots : ∀ db, Rowwise (StockRow lotItem) db → LotsOf lotItem db :=
    fun _ h => lotsOf_of_rowwise h
  have hspec := ((reserveTrackedInventoryForOrder_taken hlots items).and
    (reserveTrackedInventoryForOrder_rows stocked_takeCloses items).triple).and
    (reserveTrackedInventoryForOrder_rows stockRow_takeCloses items).triple
  refine hspec.commits fun result seen ws db hI h => ?_
  obtain ⟨⟨⟨allocated, ⟨rfl, hallocated, -⟩, htaken⟩, hstocked⟩, hrows⟩ := h
  exact ⟨hI.apply hrows, reserved_of_taken hI hallocated hitems htaken hstocked⟩

end Reservation

/-- What a commit of the call does. -/
def StockCall.Effect (call : StockCall) (lotItem : Id → Option Id) (_seen db db' : Store) : Prop :=
  Rowwise (StockRow lotItem) db' ∧ ∀ items, call = .reserve items → Reserved items db db'

theorem StockCall.service_keepsRows {lotItem : Id → Option Id} {call : StockCall}
    (h : call.Valid) (hcall : ∀ items, call ≠ .reserve items) :
    call.service.KeepsRows (StockRow lotItem) := by
  cases call with
  | reserve items => exact absurd rfl (hcall items)
  | restore items => exact .transaction (restoreTrackedInventoryForOrder_stockRow items h)
  | adjustItem => exact .bind (adjustBranchItemInventory_stockRow ..) fun _ => .ret ()
  | adjustOption => exact .bind (adjustGroupOptionInventory_stockRow ..) fun _ => .ret ()
  | adjustLot => exact adjustItemInventoryLot_stockRow ..
  | updateItem => exact updateBranchItem_stockRow ..
  | updateOption => exact updateGroupOption_stockRow ..
  | updateVariant => exact updateItemVariantCombination_stockRow ..

theorem StockCall.service_spec {lotItem : Id → Option Id} {call : StockCall} (h : call.Valid)
    (seen : Store) :
    call.service.Spec (Rowwise (StockRow lotItem)) (call.Effect lotItem) seen := by
  by_cases hcall : ∃ items, call = .reserve items
  · obtain ⟨items, rfl⟩ := hcall
    refine .transaction (.bind (reserve_commits h) fun _ => .ret fun _ ws db _ hc => ?_)
    refine fun db' hI' hag => ⟨(hc db' hI' hag).1, fun items' hitems' => ?_⟩
    cases hitems'
    exact (hc db' hI' hag).2
  · rw [not_exists] at hcall
    exact .mono (fun _ _ _ hrows => ⟨hrows, fun items hitems => absurd hitems (hcall items)⟩) _
      ((StockCall.service_keepsRows h hcall).spec seen)

/-- However stock operations interleave, no stock level becomes negative, and every
reservation that commits takes exactly what its lines order. -/
theorem stock_never_oversold {ι : Type} [Fintype ι] [DecidableEq ι] {db₀ : Store}
    (hdb₀ : NonNegativeStock db₀) {calls : ι → StockCall} (hcalls : ∀ i, (calls i).Valid)
    {m : Machine ι Row Failure Unit}
    (hrun : Machine.Reachable (.start db₀ fun i => (calls i).service) m) :
    NonNegativeStock m.db ∧ ∀ i items seen ws m', calls i = .reserve items →
      m.Commits i seen ws → m.step (.run i) = some m' → Reserved items m.db m'.db := by
  have hsound : Machine.Sound (Rowwise (StockRow (lotItemOf db₀)))
      (fun i => (calls i).Effect (lotItemOf db₀)) m :=
    hrun.sound (fun _ _ _ _ _ heffect => heffect.1)
      (.start (rowwise_stockRow hdb₀) fun i => StockCall.service_spec (hcalls i) db₀)
  refine ⟨fun k level => (hsound.inv k).nonneg level, fun i items seen ws m' hcall hc hstep => ?_⟩
  rw [Machine.step_commits hc hstep]
  exact (hsound.commits hc).2 items hcall

/-- Stock written row by row is checked row by row. -/
theorem nonNegativeStock_apply {ws : List (Write Row)}
    (h : ∀ k ∈ ws.map Write.key, ∀ level ∈ levelAt (Db.empty.apply ws) k, 0 ≤ level) :
    NonNegativeStock (Db.empty.apply ws) := by
  intro k level hlevel
  by_cases hk : k ∈ ws.map Write.key
  · exact h k hk level hlevel
  · rw [levelAt, Db.get_apply_of_notMem hk] at hlevel
    cases hlevel

theorem nonNegativeStock_teaShop : NonNegativeStock teaShop := nonNegativeStock_apply (by decide)

/-- Two orders for seven cups of tea, where there are five. -/
def teaOrders : Fin 2 → StockCall := ![.reserve [teaLine 1 4], .reserve [teaLine 1 3]]

/-- The second order has read the lots when the first one commits. -/
theorem stock_never_oversold_teaShop : ∃ m m' : Machine (Fin 2) Row Failure Unit,
    Machine.Reachable (.start teaShop fun i => (teaOrders i).service) m ∧
      m.step (.run 0) = some m' ∧ levelAt m'.db (.menuItem, 1) = some 1 ∧
      NonNegativeStock m.db ∧ Reserved [teaLine 1 4] m.db m'.db := by
  have hexec : ((Machine.start teaShop fun i => (teaOrders i).service).exec
      (List.map .run ([1, 1, 1, 1] ++ List.replicate 11 0))).any (fun m =>
        (m.threads 0).committing.isSome && (m.step (.run 0)).any fun m' =>
          levelAt m'.db (.menuItem, 1) == some 1) = true := by decide
  obtain ⟨m, hm, hlast⟩ := (Option.any_eq_true _ _).mp hexec
  obtain ⟨hcommitting, hlast⟩ := Bool.and_eq_true_iff.mp hlast
  obtain ⟨m', hstep, hlevel⟩ := (Option.any_eq_true _ _).mp hlast
  obtain ⟨seen, hseen⟩ := Option.isSome_iff_exists.mp hcommitting
  obtain ⟨ws, hc⟩ := Machine.commits_of_committing hseen
  have hrun : Machine.Reachable _ m := ⟨_, Machine.Run.start.exec hm⟩
  have hfirst : ∀ line ∈ [teaLine 1 4], 0 ≤ line.quantity := by decide
  have hsecond : ∀ line ∈ [teaLine 1 3], 0 ≤ line.quantity := by decide
  have hvalid : ∀ i, (teaOrders i).Valid := Fin.forall_fin_two.mpr ⟨hfirst, hsecond⟩
  have hsafe := stock_never_oversold nonNegativeStock_teaShop hvalid hrun
  exact ⟨m, m', hrun, hstep, eq_of_beq hlevel, hsafe.1,
    hsafe.2 0 [teaLine 1 4] seen ws m' rfl hc hstep⟩

end WerTe
