import WerTe.LotLedger
import WerTe.ReadCommitted.Maintains
import WerTe.VariantCombinations

/-!
# Tracked stock has a quantity, untracked stock has none

An item, an option or a variant combination whose stock is not tracked should have no quantity,
and one whose stock is tracked a quantity that is not negative. Every operation keeps that but
one: a restoration adds to whatever its order's lines once took from, and leaves a quantity where
the merchant has stopped tracking in between.

* `NormalStock` — the normal form, row by row.
* `restore_stockAt` — what a restoration leaves in a row, exactly.
* `stock_normal_iff` — the normal form holds in every state of a run if and only if the run's
  restorations give back to tracked stock only.
-/

namespace WerTe

open ReadCommitted MenusRepository

/-! ## The normal form -/

/-- Stock columns that agree with each other. -/
structure TrackedStock.Normal (stock : TrackedStock) : Prop where
  /-- untracked stock has no quantity -/
  untracked : stock.isStockTracked = false → stock.stockQuantity = none
  /-- tracked stock has a quantity that is not negative -/
  tracked : stock.isStockTracked = true → ∃ q, stock.stockQuantity = some q ∧ 0 ≤ q

/-- The stock columns of a row, if its table has them. -/
def stockColumns : (t : Tbl) → Row t → Option TrackedStock
  | .menuItem, r => some (MenuItem.stock r)
  | .itemOption, r => some (ItemOption.stock r)
  | .itemVariantCombination, r => some (ItemVariantCombination.stock r)
  | _, _ => none

/-- The stock columns at a key, if there are any. -/
def stockAt (db : Store) (k : Key Tbl) : Option TrackedStock := (db.get k).bind (stockColumns k.1)

/-- Every item, option and variant combination is in normal form. -/
def NormalStock (db : Store) : Prop := ∀ k, ∀ stock ∈ stockAt db k, stock.Normal

/-- The same of one row. -/
def NormalRow (k : Key Tbl) (o : Option (Row k.1)) : Prop :=
  ∀ stock ∈ o.bind (stockColumns k.1), stock.Normal

@[simp] theorem stockColumns_tbl (t : StockTable) (r : Row t.tbl) :
    stockColumns t.tbl r = some (t.stock r) := by cases t <;> rfl

namespace TrackedStock.Normal

variable {stock : TrackedStock}

/-- Stock that has a quantity is tracked. -/
theorem isTracked (h : stock.Normal) {q : ℤ} (hq : stock.stockQuantity = some q) :
    stock.isStockTracked = true := by
  by_contra htracked
  rw [h.untracked (Bool.not_eq_true _ ▸ htracked)] at hq
  cases hq

/-- Stock that is tracked and has the given quantity. -/
theorem of_quantity {q : ℤ} (htracked : stock.isStockTracked = true)
    (hquantity : stock.stockQuantity = some q) (hq : 0 ≤ q) : stock.Normal :=
  ⟨fun h => absurd (htracked.symm.trans h) (by decide), fun _ => ⟨q, hquantity, hq⟩⟩

/-- Stock that is not tracked and has no quantity. -/
theorem of_none (htracked : stock.isStockTracked = false)
    (hquantity : stock.stockQuantity = none) : stock.Normal :=
  ⟨fun _ => hquantity, fun h => absurd (htracked.symm.trans h) (by decide)⟩

end TrackedStock.Normal

theorem NormalStock.get {db : Store} (h : NormalStock db) {t : StockTable} {id : Id}
    {r : Row t.tbl} (hget : db.get (t.tbl, id) = some r) : (t.stock r).Normal :=
  h (t.tbl, id) _ (by rw [stockAt, hget]; exact stockColumns_tbl t r)

/-- A row in normal form may be written. -/
theorem NormalStock.put {db : Store} (h : NormalStock db) {k : Key Tbl} {r : Row k.1}
    (hr : NormalRow k (some r)) : NormalStock (db.put ⟨k.1, k.2, some r⟩) := by
  intro k' stock hstock
  by_cases hk : k' = k
  · subst hk
    have hself : (db.put ⟨k'.1, k'.2, some r⟩).get k' = some r := Db.get_put_self ..
    rw [stockAt, hself] at hstock
    exact hr stock hstock
  · have hother : (db.put ⟨k.1, k.2, some r⟩).get k' = db.get k' := Db.get_put_ne _ hk
    rw [stockAt, hother] at hstock
    exact h k' stock hstock

theorem NormalStock.putStock {db : Store} (h : NormalStock db) {t : StockTable} {id : Id}
    {r : Row t.tbl} (hr : (t.stock r).Normal) : NormalStock (db.put ⟨t.tbl, id, some r⟩) := by
  refine h.put (k := (t.tbl, id)) fun stock hstock => ?_
  rw [Option.bind_some, stockColumns_tbl, Option.mem_some_iff] at hstock
  exact hstock ▸ hr

/-! ## Reservations and adjustments -/

theorem stockColumns_take (q : ℤ) (k : Key Tbl) (r : Row k.1) :
    stockColumns k.1 (take q k r) = (stockColumns k.1 r).map fun stock =>
      { stock with stockQuantity := stock.stockQuantity.map (· - q) } := by
  obtain ⟨t, i⟩ := k
  cases t <;> rfl

theorem stockLevel_of_stockColumns {t : Tbl} {r : Row t} {stock : TrackedStock}
    (h : stockColumns t r = some stock) : stockLevel t r = stock.stockQuantity := by
  cases t <;> cases h <;> rfl

/-- Taking no more than there is keeps the normal form. -/
theorem normalRow_takeCloses : TakeCloses (Rowwise NormalRow) NormalRow := by
  intro ws db k r quantity level hI hrows hget hlevel hle stock' hstock'
  rw [Option.bind_some, stockColumns_take, Option.mem_map] at hstock'
  obtain ⟨stock, hstock, rfl⟩ := hstock'
  have hnormal : stock.Normal := hI.view hrows hget stock hstock
  rw [stockLevel_of_stockColumns hstock] at hlevel
  exact .of_quantity (hnormal.isTracked hlevel) (by rw [hlevel]; rfl) (Int.sub_nonneg_of_le hle)

theorem adjustTrackedStock_normal (t : StockTable) (id : Id) (delta : ℤ) :
    Tx.KeepsRows (Rowwise NormalRow) NormalRow (adjustTrackedStock t id delta) := by
  unfold adjustTrackedStock
  split
  · exact .ret true
  · split
    · exact decrementTrackedStock_rows normalRow_takeCloses t id _
    · refine .updateRow fun ws db r hI hrows hget hguard stock hstock => ?_
      rw [Option.bind_some, stockColumns_tbl, Option.mem_some_iff, StockTable.stock_setStock]
        at hstock
      obtain ⟨htracked, -⟩ := Bool.and_eq_true_iff.mp hguard
      have hnormal : (t.stock r).Normal := hI.view hrows hget _ (stockColumns_tbl t r)
      obtain ⟨q, hq, hnonneg⟩ := hnormal.tracked htracked
      subst hstock
      exact .of_quantity htracked (by rw [hq]; rfl) (Int.add_nonneg hnonneg (by omega))

/-- Lots have no stock columns. -/
theorem adjustLot_normal (lotId : Id) (delta : ℤ) :
    Tx.KeepsRows (Rowwise NormalRow) NormalRow (adjustItemInventoryLotQuantity lotId delta) := by
  have hupdate : ∀ (guard : MenuItemInventoryLot → Bool) f,
      Tx.KeepsRows (Rowwise NormalRow) NormalRow
        (Tx.updateRow (.menuItemInventoryLot, lotId) guard f : StoreTx Bool) := fun guard f =>
    .updateRow fun ws db r _ _ _ _ stock hstock => by cases hstock
  unfold adjustItemInventoryLotQuantity
  split
  · exact .ret true
  · split
    · exact hupdate _ _
    · exact hupdate _ _

/-! ## Restorations -/

theorem stockColumns_restock (q : ℤ) (k : Key Tbl) (r : Row k.1) :
    stockColumns k.1 (restock q k r) = (stockColumns k.1 r).map fun stock =>
      { stock with stockQuantity := some (stock.stockQuantity.getD 0 + q) } := by
  obtain ⟨t, i⟩ := k
  cases t <;> rfl

theorem sum_eq_zero_of_forall {ds : List Amounts} {k : Key Tbl} (h : ∀ d ∈ ds, d k = 0) :
    ds.sum k = 0 := by
  induction ds with
  | nil => rfl
  | cons d ds ih =>
    rw [List.sum_cons, Pi.add_apply, h d List.mem_cons_self,
      ih fun d' hd' => h d' (List.mem_cons_of_mem d hd'), add_zero]

/-- What a line does not draw on is not in its demand, lots apart. -/
theorem lineDemand_eq_zero {line : MenuInventoryOrderLineInput} {k : Key Tbl}
    (hlot : k.1 ≠ .menuItemInventoryLot) (hk : k ∉ line.drawsOn)
    (allocations : List MenuInventoryLotAllocation) : lineDemand line allocations k = 0 := by
  simp only [MenuInventoryOrderLineInput.drawsOn, List.mem_append, List.mem_map, Option.mem_toList,
    not_or, not_exists, not_and] at hk
  obtain ⟨⟨hitem, hvariant⟩, hoptions⟩ := hk
  rw [lineDemand, Pi.add_apply, Pi.add_apply, add_eq_zero_iff, add_eq_zero_iff]
  refine ⟨⟨?_, ?_⟩, ?_⟩
  · unfold itemDemand
    split
    case isTrue htracked =>
      rw [if_pos htracked, List.mem_singleton] at hitem
      rw [Pi.add_apply, Pi.single_eq_of_ne hitem, zero_add]
      refine sum_eq_zero_of_forall fun d hd => ?_
      obtain ⟨a, -, rfl⟩ := List.mem_map.mp hd
      exact Pi.single_eq_of_ne (fun h => hlot (congrArg Prod.fst h)) _
    case isFalse => rfl
  · cases hreserved : line.reservedVariant with
    | none => rw [variantDemand, hreserved]; rfl
    | some id =>
      rw [variantDemand, hreserved]
      exact Pi.single_eq_of_ne (fun h => hvariant id hreserved h.symm) _
  · refine sum_eq_zero_of_forall fun d hd => ?_
    obtain ⟨id, hid, rfl⟩ := List.mem_map.mp hd
    exact Pi.single_eq_of_ne (fun h => hoptions id hid h.symm) _

theorem lineOrdered_nonneg {line : MenuInventoryOrderLineInput} (h : 0 ≤ line.quantity)
    (k : Key Tbl) : 0 ≤ lineOrdered line k := by
  have hif : ∀ (p : Prop) [Decidable p], 0 ≤ if p then line.quantity else 0 := fun p _ => by
    split
    · exact h
    · exact le_rfl
  obtain ⟨t, id⟩ := k
  cases t
  case menuItem | itemVariantCombination => exact hif _
  case itemOption =>
    refine List.sum_nonneg fun q hq => ?_
    obtain ⟨optionId, -, rfl⟩ := List.mem_map.mp hq
    exact hif _
  all_goals exact le_rfl

theorem ordered_nonneg {lines : List MenuInventoryOrderLineInput}
    (h : ∀ line ∈ lines, 0 ≤ line.quantity) (k : Key Tbl) : 0 ≤ ordered lines k := by
  refine List.sum_nonneg fun q hq => ?_
  obtain ⟨line, hline, rfl⟩ := List.mem_map.mp hq
  exact lineOrdered_nonneg (h line hline) k

section Restore

variable {lines : List MenuInventoryOrderLineInput} {db db' : Store}

/-- A row with stock columns is not a lot. -/
theorem ne_lot_of_stockColumns {t : Tbl} {r : Row t} {stock : TrackedStock}
    (h : stockColumns t r = some stock) : t ≠ .menuItemInventoryLot := by
  rintro rfl
  cases h

/-- A restoration gives back to the keys that its lines draw on, and to no others. -/
theorem restore_stockAt (h : (restoreTrackedInventoryForOrder lines).run db = .ok ((), db'))
    (k : Key Tbl) : stockAt db' k = (stockAt db k).map fun stock =>
      if ∃ line ∈ lines, k ∈ line.drawsOn then
        { stock with stockQuantity := some (stock.stockQuantity.getD 0 + ordered lines k) }
      else stock := by
  obtain ⟨d, ws, rfl, hd, hrestocked⟩ := restore_run h
  rw [stockAt, stockAt, hrestocked.rows k]
  cases hget : db.get k with
  | none => rfl
  | some r =>
    rw [Option.map_some, Option.bind_some, Option.bind_some]
    cases hstock : stockColumns k.1 r with
    | none =>
      cases d k with
      | zero => exact hstock
      | coe q => rw [amend_coe, stockColumns_restock, hstock]; rfl
    | some stock =>
      have hlot : k.1 ≠ .menuItemInventoryLot := ne_lot_of_stockColumns hstock
      have hlines : (lines.map fun line => (line, line.inventoryLotAllocations)).map Prod.fst =
          lines := by rw [List.map_map, Function.comp_def, List.map_id']
      have hamount := amountAt_demand hlot
        (lines.map fun line => (line, line.inventoryLotAllocations))
      rw [hlines] at hamount
      rw [Option.map_some, hd k (by rw [hget]; rfl)]
      split
      case isTrue hdrawn =>
        obtain ⟨line, hline, hk⟩ := hdrawn
        rw [← hlines] at hline
        have hne := demand_ne_zero hline hk
        rw [← hamount, amountAt_apply]
        cases hdemand : demand (lines.map fun line => (line, line.inventoryLotAllocations)) k with
        | zero => exact absurd hdemand hne
        | coe q => rw [amend_coe, stockColumns_restock, hstock, quantity_coe, Option.map_some]
      case isFalse hdrawn =>
        have hzero : demand (lines.map fun line => (line, line.inventoryLotAllocations)) k = 0 := by
          refine sum_eq_zero_of_forall fun d' hd' => ?_
          obtain ⟨l, hl, rfl⟩ := List.mem_map.mp hd'
          obtain ⟨line, hline, rfl⟩ := List.mem_map.mp hl
          exact lineDemand_eq_zero hlot (fun hk => hdrawn ⟨line, hline, hk⟩) _
        rw [hzero, amend_zero, hstock]

/-- Everything that the lines give back to is tracked, or gone. -/
def GivesBackToTracked (lines : List MenuInventoryOrderLineInput) (db : Store) : Prop :=
  ∀ line ∈ lines, ∀ k ∈ line.drawsOn, ∀ stock ∈ stockAt db k, stock.isStockTracked = true

instance : Decidable (GivesBackToTracked lines db) := by unfold GivesBackToTracked; infer_instance

/-- A restoration keeps the normal form if and only if it gives back to tracked stock only. -/
theorem restore_normal_iff (hdb : NormalStock db) (hlines : ∀ line ∈ lines, 0 ≤ line.quantity)
    (h : (restoreTrackedInventoryForOrder lines).run db = .ok ((), db')) :
    NormalStock db' ↔ GivesBackToTracked lines db := by
  constructor
  · intro hdb' line hline k hk stock hstock
    have hafter := restore_stockAt h k
    rw [Option.mem_def.mp hstock, Option.map_some, if_pos ⟨line, hline, hk⟩] at hafter
    exact (hdb' k _ hafter).isTracked rfl
  · intro htracked k stock' hstock'
    rw [restore_stockAt h k, Option.mem_map] at hstock'
    obtain ⟨stock, hstock, rfl⟩ := hstock'
    have hnormal := hdb k stock hstock
    split
    case isTrue hdrawn =>
      obtain ⟨line, hline, hk⟩ := hdrawn
      have hline' : stock.isStockTracked = true := htracked line hline k hk stock hstock
      obtain ⟨q, hq, hnonneg⟩ := hnormal.tracked hline'
      exact .of_quantity hline' rfl
        (Int.add_nonneg (by rw [hq]; exact hnonneg) (ordered_nonneg hlines k))
    case isFalse => exact hnormal

end Restore

/-! ## Creating and updating -/

section Normalise

variable {assertValues : InventoryPayload → Except Failure Unit} {payload : InventoryPayload}

/-- The columns of a new row: no quantity, or one that is given or zero. -/
theorem created_normal
    (hassert : ∀ payload, assertValues payload = .ok () → ∀ q ∈ payload.stockQuantity, 0 ≤ q)
    {stock : TrackedStock}
    (h : (assertValues payload >>= fun _ =>
      if payload.isStockTracked.getD
          (payload.stockQuantity.isSome || payload.lowStockThreshold.isSome) then
        .ok ⟨true, some (payload.stockQuantity.getD 0), payload.lowStockThreshold⟩
      else .ok ⟨false, none, none⟩) = Except.ok stock) : stock.Normal := by
  obtain ⟨u, hvalues, h⟩ := except_bind_ok.mp h
  split at h
  · cases h
    refine .of_quantity rfl rfl ?_
    cases hq : payload.stockQuantity with
    | none => exact le_rfl
    | some q => exact hassert payload hvalues q hq
  · cases h
    exact .of_none rfl rfl

theorem normalizeCreateInventory_normal {stock : TrackedStock}
    (h : normalizeCreateInventory payload = .ok stock) : stock.Normal :=
  created_normal assertWholeNumbers_nonNegative h

theorem normalizeCreateCombinationInventory_normal {stock : TrackedStock}
    (h : normalizeCreateCombinationInventory payload = .ok stock) : stock.Normal :=
  created_normal assertNonNegativeIntegers_nonNegative h

/-- An update that is normalised against the columns it is written over. -/
theorem normalizeUpdateInventory_normal
    (hassert : ∀ payload, assertValues payload = .ok () → ∀ q ∈ payload.stockQuantity, 0 ≤ q)
    {stock : TrackedStock} (hstock : stock.Normal) {data : StockData}
    (h : normalizeUpdateInventory assertValues payload stock.isStockTracked = .ok data) :
    (data.apply stock).Normal := by
  unfold normalizeUpdateInventory at h
  split at h
  · cases h
    exact hstock
  · obtain ⟨u, hvalues, h⟩ := except_bind_ok.mp h
    split at h
    · cases h
      cases hq : payload.stockQuantity with
      | some q => exact .of_quantity rfl rfl (hassert payload hvalues q hq)
      | none =>
        -- no quantity is given: the row keeps its own, or starts from zero
        cases htracked : stock.isStockTracked with
        | false => exact .of_quantity rfl rfl le_rfl
        | true =>
          obtain ⟨q, hquantity, hnonneg⟩ := hstock.tracked htracked
          exact .of_quantity rfl hquantity hnonneg
    · cases h
      exact .of_none rfl rfl

end Normalise

/-- Stock columns that stay in normal form may be written over a row's. -/
theorem updateStockRow_normal {db db' : Store} (hdb : NormalStock db) {t : StockTable} {id : Id}
    {data : StockData} {other : Row t.tbl → Row t.tbl} {u : Unit}
    (hdata : ∀ r, db.get (t.tbl, id) = some r → (data.apply (t.stock r)).Normal)
    (h : (updateStockRow t id data other).run db = .ok (u, db')) : NormalStock db' := by
  obtain ⟨r, hget, rfl⟩ := Tx.run_updateExisting_ok h
  exact hdb.putStock (by rw [StockTable.stock_setStock]; exact hdata r hget)

/-- The options of a combination have no stock columns. -/
theorem replaceVariantCombinationOptions_normal (combinationId : Id) (optionIds : List Id) :
    (replaceVariantCombinationOptions combinationId optionIds).Maintains NormalStock
      fun _ => True := by
  refine .bind (.check fun _ _ _ _ => True.intro) fun _ _ =>
    .bind (.updateRow fun db r hdb hget _ => ?_) fun _ _ => .ret True.intro
  have hr : (StockTable.itemVariantCombination.stock r).Normal := hdb.get hget
  exact hdb.putStock (t := .itemVariantCombination) hr

theorem findOptionById_eq_some {db : Store} {id : Id} {option : ItemOptionOwnershipRecord}
    (h : findOptionById db id = some option) :
    option.id = id ∧ db.get (.itemOption, id) = some option.option := by
  simp only [findOptionById, Option.bind_eq_bind, Option.bind_eq_some_iff, Option.pure_def,
    Option.some.injEq] at h
  obtain ⟨r, hr, _, _, _, _, rfl⟩ := h
  exact ⟨rfl, hr⟩

theorem findVariantCombinationById_eq_some {db : Store} {id : Id}
    {combination : ItemVariantCombinationOwnershipRecord}
    (h : findVariantCombinationById db id = some combination) :
    combination.id = id ∧
      db.get (.itemVariantCombination, id) = some combination.combination := by
  simp only [findVariantCombinationById, Option.bind_eq_bind, Option.bind_eq_some_iff,
    Option.pure_def, Option.some.injEq] at h
  obtain ⟨r, hr, _, _, rfl⟩ := h
  exact ⟨rfl, hr⟩

theorem resolveVariantSelection_readOnly (menuItemId : Id) (selectedOptionIds : List Id) :
    (resolveVariantSelection menuItemId selectedOptionIds).ReadOnly := by
  refine .bind (.require _ _) fun _ => .bind (.get _) fun groups => .bind (.require _ _) fun _ =>
    .bind (.get _) fun found => .bind (.ofExcept _) fun selectedOptions => ?_
  cases selectedOptions.find? fun option =>
      1 < groupSelectionCount selectedOptions option.2.groupId with
  | some option => exact True.intro
  | none => exact .ret _

theorem requireFreeSignature_readOnly (menuItemId : Id) (signature : String)
    (combinationId : Option Id) :
    (requireFreeSignature menuItemId signature combinationId).ReadOnly := by
  refine .bind (.get _) fun existing => ?_
  cases existing.filter fun existing => combinationId != some existing.1 with
  | some existing => exact True.intro
  | none => exact .ret _

section Calls

variable {currentUser : AuthenticatedUser} {branchId itemId : Id} {db : Store}

theorem createBranchItem_normal {catalogChecks : Store → Except Failure Unit} {newId : Id}
    {name : String} {basePrice : ℚ} {isAvailable : Option Bool} {inventory : InventoryPayload} :
    (createBranchItem catalogChecks currentUser branchId newId name basePrice isAvailable
      inventory).Maintains NormalStock fun _ => True := by
  refine .bind (.of_readOnly (.get _)) fun found _ =>
    .bind (.of_readOnly (.orFail _ _)) fun owner _ => ?_
  obtain ⟨merchantId, merchantUserId⟩ := owner
  refine .bind .require fun _ _ => .transaction (.bind
    (.check fun _ stock _ hstock => normalizeCreateInventory_normal hstock) fun stock hstock =>
    .bind (.check fun _ _ _ _ => True.intro) fun _ _ => .insertRow fun db hdb => ?_)
  exact hdb.putStock (t := .menuItem) hstock

theorem createGroupOption_normal {optionGroupId newId : Id} {name : String} {priceDelta : ℚ}
    {sortOrder : Option ℤ} {isActive : Option Bool} {inventory : InventoryPayload} :
    (createGroupOption currentUser branchId itemId optionGroupId newId name priceDelta sortOrder
      isActive inventory).Maintains NormalStock fun _ => True := by
  refine .bind (.of_readOnly (.bind (.get _) fun _ => .bind (.orFail _ _) fun _ =>
    .bind (.require _ _) fun _ => .ret _)) fun optionGroup _ => .transaction (.bind
    (M := fun _ => True) (.read fun _ _ => True.intro) fun highest _ => .bind
    (.check fun _ stock _ hstock => normalizeCreateInventory_normal hstock) fun stock hstock =>
    .insertRow fun db hdb => ?_)
  exact hdb.putStock (t := .itemOption) hstock

theorem createItemVariantCombination_normal {newId : Id} {selectedOptionIds : List Id}
    {name : Option String} {isActive : Option Bool} {inventory : InventoryPayload} :
    (createItemVariantCombination currentUser branchId itemId newId selectedOptionIds name isActive
      inventory).Maintains NormalStock fun _ => True := by
  refine .bind (.of_readOnly (.bind (.bind (.get _) fun _ => .orFail _ _) fun _ =>
    .bind (.require _ _) fun _ => .ret _)) fun item _ => .bind
    (.of_readOnly (resolveVariantSelection_readOnly _ _)) fun selection _ => .bind
    (.of_readOnly (requireFreeSignature_readOnly _ _ _)) fun _ _ => .bind
    (M := fun _ => True) (.transaction (.bind (.check fun _ stock _ hstock =>
      normalizeCreateCombinationInventory_normal hstock) fun stock hstock => .bind
      (.insertRow fun db hdb => ?_) fun _ _ => .bind
      (replaceVariantCombinationOptions_normal _ _) fun _ _ => .read fun _ _ => True.intro))
    fun _ _ => .of_readOnly (.orFail _ _)
  exact hdb.putStock (t := .itemVariantCombination) hstock

theorem updateBranchItem_normal (hdb : NormalStock db)
    {catalogChecks : Store → Except Failure Unit} {payload : MenuItemPayload} :
    (updateBranchItem catalogChecks currentUser branchId itemId payload).Ends db
      fun _ db' => NormalStock db' := by
  unfold updateBranchItem
  refine .bind (resolveManagedItem_ends (fun item hfind _ => ?_) fun _ => hdb)
  obtain ⟨rfl, hitem⟩ := findItemById_eq_some hfind
  refine .bind (.ofExcept ?_)
  cases hdata : normalizeUpdateInventory assertWholeNumbers payload.inventory
      item.item.stock.isStockTracked with
  | error e => exact hdb
  | ok data =>
    refine .transaction (fun _ db' hrun => ?_) fun _ _ => hdb
    obtain ⟨_, db₁, hchecks, hrest⟩ := Tx.run_bind_ok hrun
    obtain ⟨-, rfl⟩ := Tx.run_check_ok hchecks
    refine updateStockRow_normal hdb (t := .menuItem) (fun r hget => ?_) hrest
    obtain rfl := Option.some.inj (hitem.symm.trans hget)
    exact normalizeUpdateInventory_normal assertWholeNumbers_nonNegative
      (hdb.get (t := .menuItem) hitem) hdata

theorem updateGroupOption_normal (hdb : NormalStock db) {optionGroupId optionId : Id}
    {name : Option String} {priceDelta : Option ℚ} {isActive : Option Bool}
    {inventory : InventoryPayload} :
    (updateGroupOption currentUser branchId itemId optionGroupId optionId name priceDelta isActive
      inventory).Ends db fun _ db' => NormalStock db' := by
  unfold updateGroupOption resolveOwnedOption
  refine .bind (.get_bind (.orFail_bind (fun option hfound => .require_bind
    (fun _ => .ret ?_) fun _ => hdb) fun _ => hdb))
  obtain ⟨rfl, hoption⟩ := findOptionById_eq_some (Option.filter_eq_some_iff.mp hfound).1
  refine .bind (.ofExcept ?_)
  cases hdata : normalizeUpdateInventory assertWholeNumbers inventory
      option.option.stock.isStockTracked with
  | error e => exact hdb
  | ok data =>
    refine .transaction (fun _ db' hrun => ?_) fun _ _ => hdb
    refine updateStockRow_normal hdb (t := .itemOption) (fun r hget => ?_) hrun
    obtain rfl := Option.some.inj (hoption.symm.trans hget)
    exact normalizeUpdateInventory_normal assertWholeNumbers_nonNegative
      (hdb.get (t := .itemOption) hoption) hdata

/-- Both updates of a combination normalise against the columns they have read. -/
theorem resolveOwnedVariantCombination_ends {combinationId : Id}
    {Q : Except Failure ItemVariantCombinationOwnershipRecord → Store → Prop}
    (hok : ∀ combination, combination.id = combinationId →
      db.get (.itemVariantCombination, combinationId) = some combination.combination →
      Q (.ok combination) db)
    (hfail : ∀ e, Q (.error e) db) :
    (resolveOwnedVariantCombination currentUser branchId itemId combinationId).Ends db Q := by
  refine .get_bind (.orFail_bind (fun combination hfound => .require_bind
    (fun _ => .ret ?_) fun _ => hfail _) fun _ => hfail _)
  obtain ⟨hid, hget⟩ :=
    findVariantCombinationById_eq_some (Option.filter_eq_some_iff.mp hfound).1
  exact hok combination hid hget

theorem updateItemVariantCombination_normal (hdb : NormalStock db) {combinationId : Id}
    {name : Option String} {isActive : Option Bool} {inventory : InventoryPayload} :
    (updateItemVariantCombination currentUser branchId itemId combinationId name isActive
      inventory).Ends db fun _ db' => NormalStock db' := by
  unfold updateItemVariantCombination
  refine .bind (resolveOwnedVariantCombination_ends (fun combination hid hcombination => ?_)
    fun _ => hdb)
  refine .transaction (fun _ db' hrun => ?_) fun _ _ => hdb
  obtain ⟨data, db₁, hchecks, hrest⟩ := Tx.run_bind_ok hrun
  obtain ⟨hdata, rfl⟩ := Tx.run_check_ok hchecks
  refine updateStockRow_normal hdb (t := .itemVariantCombination) (fun r hget => ?_) hrest
  rw [hid] at hget
  obtain rfl := Option.some.inj (hcombination.symm.trans hget)
  exact normalizeUpdateInventory_normal assertNonNegativeIntegers_nonNegative
    (hdb.get (t := .itemVariantCombination) hcombination) hdata

theorem reselectItemVariantCombination_normal (hdb : NormalStock db) {combinationId : Id}
    {selectedOptionIds : List Id} {name : Option String} {isActive : Option Bool}
    {inventory : InventoryPayload} :
    (reselectItemVariantCombination currentUser branchId itemId combinationId selectedOptionIds
      name isActive inventory).Ends db fun _ db' => NormalStock db' := by
  unfold reselectItemVariantCombination
  refine .bind (resolveOwnedVariantCombination_ends (fun combination hid hcombination => ?_)
    fun _ => hdb)
  refine .bind ((resolveVariantSelection_readOnly _ _).ends fun r => ?_)
  cases r with
  | error e => exact hdb
  | ok selection =>
    refine .bind ((requireFreeSignature_readOnly _ _ _).ends fun r => ?_)
    cases r with
    | error e => exact hdb
    | ok u =>
      refine .transaction_bind (fun updated db' hrun => ?_) fun _ _ => hdb
      obtain ⟨data, db₁, hchecks, hrest₁⟩ := Tx.run_bind_ok hrun
      obtain ⟨hdata, rfl⟩ := Tx.run_check_ok hchecks
      obtain ⟨_, db₂, hunique, hrest₂⟩ := Tx.run_bind_ok hrest₁
      obtain ⟨-, rfl⟩ := Tx.run_check_ok hunique
      obtain ⟨_, db₃, hupdate, hrest₃⟩ := Tx.run_bind_ok hrest₂
      have hdb₃ : NormalStock db₃ := by
        refine updateStockRow_normal hdb (t := .itemVariantCombination) (fun r hget => ?_) hupdate
        rw [hid] at hget
        obtain rfl := Option.some.inj (hcombination.symm.trans hget)
        exact normalizeUpdateInventory_normal assertNonNegativeIntegers_nonNegative
          (hdb.get (t := .itemVariantCombination) hcombination) hdata
      obtain ⟨_, db₄, hreplace, hread⟩ := Tx.run_bind_ok hrest₃
      cases hread
      have hdb' := (replaceVariantCombinationOptions_normal _ _ db₃ hdb₃ _ _ hreplace).1
      exact .orFail (fun _ _ => hdb') fun _ => hdb'

end Calls

/-! ## Runs -/

/-- The operations that write stock columns. -/
inductive TrackingCall
  /-- an adjustment, an update, a reservation or a restoration -/
  | stock (call : StockCall)
  | createItem (catalogChecks : Store → Except Failure Unit) (currentUser : AuthenticatedUser)
      (branchId newId : Id) (name : String) (basePrice : ℚ) (isAvailable : Option Bool)
      (inventory : InventoryPayload)
  | createOption (currentUser : AuthenticatedUser) (branchId itemId optionGroupId newId : Id)
      (name : String) (priceDelta : ℚ) (sortOrder : Option ℤ) (isActive : Option Bool)
      (inventory : InventoryPayload)
  | createVariant (currentUser : AuthenticatedUser) (branchId itemId newId : Id)
      (selectedOptionIds : List Id) (name : Option String) (isActive : Option Bool)
      (inventory : InventoryPayload)
  /-- an update of a combination that selects other options -/
  | reselectVariant (currentUser : AuthenticatedUser) (branchId itemId combinationId : Id)
      (selectedOptionIds : List Id) (name : Option String) (isActive : Option Bool)
      (inventory : InventoryPayload)

namespace TrackingCall

/-- The call. -/
def service : TrackingCall → StoreService Unit
  | stock call => call.service
  | createItem catalogChecks currentUser branchId newId name basePrice isAvailable inventory =>
    createBranchItem catalogChecks currentUser branchId newId name basePrice isAvailable inventory
  | createOption currentUser branchId itemId optionGroupId newId name priceDelta sortOrder isActive
      inventory =>
    createGroupOption currentUser branchId itemId optionGroupId newId name priceDelta sortOrder
      isActive inventory
  | createVariant currentUser branchId itemId newId selectedOptionIds name isActive inventory => do
    let _ ← createItemVariantCombination currentUser branchId itemId newId selectedOptionIds name
      isActive inventory
    pure ()
  | reselectVariant currentUser branchId itemId combinationId selectedOptionIds name isActive
      inventory => do
    let _ ← reselectItemVariantCombination currentUser branchId itemId combinationId
      selectedOptionIds name isActive inventory
    pure ()

/-- The store after the call. -/
def run (call : TrackingCall) (db : Store) : Store := (call.service.run db).2

/-- No line of a restored order has a negative quantity. -/
def Valid : TrackingCall → Prop
  | stock (.restore items) => ∀ line ∈ items, 0 ≤ line.quantity
  | _ => True

/-- The call, if it is a restoration, gives back to tracked stock only. -/
def RestoresTracked : TrackingCall → Store → Prop
  | stock (.restore items), db => GivesBackToTracked items db
  | _, _ => True

variable {db : Store}

/-- A restoration always succeeds. -/
theorem restore_run_iff {items : List MenuInventoryOrderLineInput}
    (hitems : ∀ line ∈ items, 0 ≤ line.quantity) (hdb : NormalStock db) :
    NormalStock ((stock (.restore items)).run db) ↔ GivesBackToTracked items db := by
  obtain ⟨u, db', hrun⟩ := restoreTrackedInventoryForOrder_total items db
  have hend : (stock (.restore items)).run db = db' := by
    change ((Service.transaction (restoreTrackedInventoryForOrder items)).run db).2 = db'
    rw [Service.transaction, Service.run, hrun]
    rfl
  rw [hend]
  exact restore_normal_iff hdb hitems hrun

/-- The other calls keep the normal form. -/
theorem run_normal {call : TrackingCall} (hcall : ∀ items, call ≠ stock (.restore items))
    (hdb : NormalStock db) : NormalStock (call.run db) := by
  have hrows : ∀ {p : StoreService Unit}, p.KeepsRows NormalRow → NormalStock (p.run db).2 :=
    fun hp => hp.run hdb
  cases call with
  | stock call =>
    cases call with
    | reserve items =>
      exact hrows (.transaction (.bind
        (reserveTrackedInventoryForOrder_rows normalRow_takeCloses items) fun _ => .ret ()))
    | restore items => exact absurd rfl (hcall items)
    | adjustItem => exact hrows (.bind (adjustBranchItemInventory_rows _ _ _
        (adjustTrackedStock_normal .menuItem) _) fun _ => .ret ())
    | adjustOption => exact hrows (.bind (adjustGroupOptionInventory_rows _ _ _ _ _
        (adjustTrackedStock_normal .itemOption) _) fun _ => .ret ())
    | adjustLot => exact hrows (adjustItemInventoryLot_rows _ _ _ adjustLot_normal
        (adjustTrackedStock_normal .menuItem) _ _)
    | updateItem => exact (updateBranchItem_normal hdb).run
    | updateOption => exact (updateGroupOption_normal hdb).run
    | updateVariant => exact (updateItemVariantCombination_normal hdb).run
  | createItem => exact createBranchItem_normal.run hdb
  | createOption => exact createGroupOption_normal.run hdb
  | createVariant =>
    refine Service.Ends.run (.discard (Service.Ends.of_run rfl ?_))
    exact createItemVariantCombination_normal.run hdb
  | reselectVariant =>
    exact (Service.Ends.discard (reselectItemVariantCombination_normal hdb)).run

/-- One call: the normal form is kept unless untracked stock is given back. -/
theorem run_normal_iff {call : TrackingCall} (hcall : call.Valid) (hdb : NormalStock db) :
    NormalStock (call.run db) ↔ call.RestoresTracked db := by
  by_cases hrestore : ∃ items, call = stock (.restore items)
  · obtain ⟨items, rfl⟩ := hrestore
    exact restore_run_iff hcall hdb
  · rw [not_exists] at hrestore
    refine iff_of_true (run_normal hrestore hdb) ?_
    unfold RestoresTracked
    split
    case h_1 _ _ items => exact absurd rfl (hrestore items)
    case h_2 => exact True.intro

end TrackingCall

/-- Every state of a run is in normal form if and only if every restoration of the run gives back
to stock that is tracked when it is given back. -/
theorem stock_normal_iff {db₀ : Store} (hdb₀ : NormalStock db₀) {calls : List TrackingCall}
    (hcalls : ∀ call ∈ calls, call.Valid) :
    Always TrackingCall.run NormalStock calls db₀ ↔
      MeetAll TrackingCall.run TrackingCall.RestoresTracked calls db₀ := by
  have hdom : MeetAll TrackingCall.run (fun call _ => call.Valid) calls db₀ :=
    .of_mem calls db₀ fun call hcall _ => hcalls call hcall
  exact always_iff_meetAll (J := fun _ => True) (fun _ _ _ _ => True.intro)
    (fun call db _ hvalid hdb => TrackingCall.run_normal_iff hvalid hdb) calls True.intro hdb₀ hdom

theorem normalStock_apply {ws : List (Write Row)}
    (h : ∀ k ∈ ws.map Write.key, ∀ stock ∈ stockAt (Db.empty.apply ws) k, stock.Normal) :
    NormalStock (Db.empty.apply ws) := by
  intro k stock hstock
  by_cases hk : k ∈ ws.map Write.key
  · exact h k hk stock hstock
  · rw [stockAt, Db.get_apply_of_notMem hk] at hstock
    cases hstock

instance (stock : TrackedStock) : Decidable stock.Normal :=
  decidable_of_iff
    (if stock.isStockTracked then stock.stockQuantity.any (0 ≤ ·) = true
      else stock.stockQuantity = none) <| by
    cases htracked : stock.isStockTracked with
    | false => exact ⟨.of_none htracked, fun h => h.untracked htracked⟩
    | true =>
      refine ⟨fun h => ?_, fun h => ?_⟩
      · obtain ⟨q, hq, hnonneg⟩ := (Option.any_eq_true _ _).mp h
        exact .of_quantity htracked hq (of_decide_eq_true hnonneg)
      · obtain ⟨q, hq, hnonneg⟩ := h.tracked htracked
        exact (Option.any_eq_true _ _).mpr ⟨q, hq, decide_eq_true hnonneg⟩

theorem normalStock_teaShop : NormalStock teaShop := normalStock_apply (by decide)

/-- A cup of tea is ordered and cancelled again. -/
theorem stock_normal_teaShop : Always TrackingCall.run NormalStock
    [.stock (.reserve [teaLine 1 1]), .stock (.restore [teaLine 1 1])] teaShop := by
  have hcalls : ∀ call ∈ [TrackingCall.stock (.reserve [teaLine 1 1]),
      .stock (.restore [teaLine 1 1])], call.Valid := by
    refine List.forall_mem_cons.mpr ⟨True.intro, List.forall_mem_singleton.mpr ?_⟩
    exact List.forall_mem_singleton.mpr (by decide)
  have hrestored : GivesBackToTracked [teaLine 1 1]
      ((TrackingCall.stock (.reserve [teaLine 1 1])).run teaShop) := by decide +kernel
  exact (stock_normal_iff normalStock_teaShop hcalls).mpr ⟨True.intro, hrestored, True.intro⟩

/-- The merchant stops tracking the tea while an order of one cup is open, and the order is then
cancelled. -/
def untrackedMeanwhile : List TrackingCall := [
  .stock (.reserve [teaLine 1 1]),
  .stock (.updateItem (fun _ => .ok ()) teaOwner 1 1
    { inventory := { isStockTracked := some false } }),
  .stock (.restore [teaLine 1 1])]

/-- The tea is not tracked and has a quantity. -/
theorem stock_not_normal : NormalStock teaShop ∧ (∀ call ∈ untrackedMeanwhile, call.Valid) ∧
    ¬ Always TrackingCall.run NormalStock untrackedMeanwhile teaShop := by
  refine ⟨normalStock_teaShop, ?_, fun h => ?_⟩
  · refine List.forall_mem_cons.mpr ⟨True.intro, List.forall_mem_cons.mpr ⟨True.intro,
      List.forall_mem_singleton.mpr (List.forall_mem_singleton.mpr (by decide))⟩⟩
  · have hlast : stockAt (runAll TrackingCall.run untrackedMeanwhile teaShop) (.menuItem, 1) =
        some ⟨false, some 1, none⟩ := by decide +kernel
    obtain ⟨-, -, -, hnormal⟩ := h
    have hnone := (hnormal (.menuItem, 1) _ hlast).untracked rfl
    cases hnone

end WerTe
