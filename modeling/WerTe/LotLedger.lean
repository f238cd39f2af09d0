import WerTe.ReadCommitted.Sequential
import WerTe.ReserveRestore
import WerTe.StockSafety

/-!
# The lot ledger

An item with inventory lots has its stock written down twice: in its own
`stockQuantity`, and spread over the `remainingQuantity` of its lots. `LotLedger` says
that the two agree.

* `Consistent.putItem` and `Consistent.putLotItem` — the two ways of writing that keep
  them in agreement: an item alone, and a lot and its item by the same amount.
* `LotCall` — the operations that write either, run one after the other on a `Shop`,
  which also remembers the lines of the orders placed.
* `lotLedger_of_runs` — the ledger holds after every run in which no item update writes
  a stock of its own over an item with lots, and no order line that was reserved before
  its item's first lot is restored after it.
-/

namespace WerTe

open ReadCommitted MenusRepository

/-! ## The invariant -/

/-- The item has inventory lots. -/
def HasLots (db : Store) (menuItemId : Id) : Prop := ∃ i, lotItemOf db i = some menuItemId

/-- A tracked item with lots has the stock of its lots. -/
def LotLedger (db : Store) : Prop :=
  ∀ (id : Id) (item : MenuItem), db.get (.menuItem, id) = some item →
    item.stock.isStockTracked = true → HasLots db id →
    item.stock.stockQuantity = some (lotTotal db id)

/-- The ledger holds, no level is negative, and lots belong to items that are there. -/
structure Consistent (db : Store) : Prop where
  /-- an item with lots has the stock of its lots -/
  ledger : LotLedger db
  /-- no level is negative -/
  nonneg : NonNegativeStock db
  /-- a lot's item is there -/
  owned : ∀ menuItemId, HasLots db menuItemId → (db.get (.menuItem, menuItemId)).isSome

/-- Lots are never taken from their items. -/
def KeepsLotItems (db db' : Store) : Prop :=
  ∀ i menuItemId, lotItemOf db i = some menuItemId → lotItemOf db' i = some menuItemId

theorem KeepsLotItems.of_eq {db db' : Store} (h : lotItemOf db' = lotItemOf db) :
    KeepsLotItems db db' := fun i _ hi => (congrFun h i).trans hi

/-! ## Writing an item -/

theorem NonNegativeStock.put {db : Store} (h : NonNegativeStock db) {w : Write Row}
    (hw : ∀ level, w.row.bind (stockLevel w.table) = some level → 0 ≤ level) :
    NonNegativeStock (db.put w) := by
  intro k level hlevel
  by_cases hk : k = w.key
  · subst hk
    rw [levelAt, Db.get_put_self] at hlevel
    exact hw level hlevel
  · rw [levelAt, Db.get_put_ne _ hk] at hlevel
    exact h k level hlevel

theorem lotItemOf_putItem (db : Store) (id : Id) (r : MenuItem) :
    lotItemOf (db.put ⟨.menuItem, id, some r⟩) = lotItemOf db := by
  funext i
  rw [lotItemOf, Db.get_put_ne _ (fun h => by cases h)]
  rfl

theorem lotTotal_putItem (db : Store) (id : Id) (r : MenuItem) :
    lotTotal (db.put ⟨.menuItem, id, some r⟩) = lotTotal db :=
  funext fun _ => Db.sumOver_put_ne db (fun h => by cases h) _

theorem hasLots_putItem (db : Store) (id : Id) (r : MenuItem) :
    HasLots (db.put ⟨.menuItem, id, some r⟩) = HasLots db := by
  funext menuItemId
  rw [HasLots, lotItemOf_putItem]
  rfl

theorem get_putItem (db : Store) (id id' : Id) (r : MenuItem) :
    (db.put ⟨.menuItem, id, some r⟩).get (.menuItem, id') =
      if id' = id then some r else db.get (.menuItem, id') := by
  split
  case isTrue h => rw [h]; exact Db.get_put_self ..
  case isFalse h => exact Db.get_put_ne _ fun hk => h (Prod.mk.inj hk).2

/-- An item may be written when, if it is tracked and has lots, its stock is theirs. -/
theorem Consistent.putItem {db : Store} (h : Consistent db) {id : Id} {r : MenuItem}
    (hlevel : ∀ level, r.stock.stockQuantity = some level → 0 ≤ level)
    (hledger : r.stock.isStockTracked = true → HasLots db id →
      r.stock.stockQuantity = some (lotTotal db id)) :
    Consistent (db.put ⟨.menuItem, id, some r⟩) := by
  refine ⟨fun id' item hitem htracked hlots => ?_, h.nonneg.put hlevel, fun id' hlots => ?_⟩
  · rw [hasLots_putItem] at hlots
    rw [lotTotal_putItem]
    rw [get_putItem] at hitem
    split at hitem
    case isTrue hid =>
      subst hid
      cases hitem
      exact hledger htracked hlots
    case isFalse => exact h.ledger id' item hitem htracked hlots
  · rw [hasLots_putItem] at hlots
    rw [get_putItem]
    split
    · rfl
    · exact h.owned id' hlots

theorem lotTotal_eq_zero {db : Store} {menuItemId : Id} (h : ¬ HasLots db menuItemId) :
    lotTotal db menuItemId = 0 := by
  refine (Db.sumOver_congr fun i lot hlot => if_neg fun hitem => h ⟨i, ?_⟩).trans
    (db.sumOver_zero .menuItemInventoryLot)
  rw [lotItemOf, hlot]
  exact congrArg some hitem

theorem hasLots_iff {db : Store} {menuItemId : Id} :
    HasLots db menuItemId ↔ 0 < countItemInventoryLotsByMenuItemId db menuItemId :=
  (lotsOf_lotItemOf db).count_pos.symm

/-! ## Writing a lot and its item -/

/-- What a lot counts for in the total of an item. -/
def lotShare (menuItemId : Id) (lot : MenuItemInventoryLot) : ℤ :=
  if lot.menuItemId = menuItemId then lot.remainingQuantity else 0

theorem lotTotal_putLot (db : Store) (i : Id) (lot : MenuItemInventoryLot) (menuItemId : Id) :
    lotTotal (db.put ⟨.menuItemInventoryLot, i, some lot⟩) menuItemId +
        (db.get (.menuItemInventoryLot, i)).elim 0 (lotShare menuItemId) =
      lotTotal db menuItemId + lotShare menuItemId lot :=
  Db.sumOver_put db .menuItemInventoryLot i (some lot) fun _ => lotShare menuItemId

theorem lotItemOf_putLot (db : Store) (i : Id) (lot : MenuItemInventoryLot) (j : Id) :
    lotItemOf (db.put ⟨.menuItemInventoryLot, i, some lot⟩) j =
      if j = i then some lot.menuItemId else lotItemOf db j := by
  rw [lotItemOf]
  split
  case isTrue h =>
    subst h
    have hget : (db.put ⟨.menuItemInventoryLot, j, some lot⟩).get (.menuItemInventoryLot, j) =
        some lot := Db.get_put_self ..
    rw [hget]
    rfl
  case isFalse h =>
    rw [Db.get_put_ne _ fun hk => h (Prod.mk.inj hk).2]
    rfl

/-- A lot of an item, new or already there, may be written together with its item when
both change by the same amount. -/
theorem Consistent.putLotItem {db : Store} (h : Consistent db) {i id : Id}
    {lot : MenuItemInventoryLot} {item r : MenuItem} {delta : ℤ}
    (hitem : db.get (.menuItem, id) = some item) (howner : lot.menuItemId = id)
    (hi : ∀ lot₀, db.get (.menuItemInventoryLot, i) = some lot₀ → lot₀.menuItemId = id)
    (hlot : lot.remainingQuantity =
      (db.get (.menuItemInventoryLot, i)).elim 0 (·.remainingQuantity) + delta)
    (hlot0 : 0 ≤ lot.remainingQuantity)
    (hr : r.stock.stockQuantity = some (lotTotal db id + delta))
    (hr0 : 0 ≤ lotTotal db id + delta) :
    Consistent ((db.put ⟨.menuItemInventoryLot, i, some lot⟩).put ⟨.menuItem, id, some r⟩) := by
  subst howner
  have htotal : lotTotal (db.put ⟨.menuItemInventoryLot, i, some lot⟩) lot.menuItemId =
      lotTotal db lot.menuItemId + delta := by
    have hput := lotTotal_putLot db i lot lot.menuItemId
    rw [lotShare, if_pos rfl, hlot] at hput
    cases hget : db.get (.menuItemInventoryLot, i) with
    | none =>
      rw [hget] at hput
      simp only [Option.elim_none] at hput
      omega
    | some lot₀ =>
      rw [hget] at hput
      simp only [Option.elim_some, lotShare, if_pos (hi lot₀ hget)] at hput
      omega
  have hother : ∀ id', id' ≠ lot.menuItemId →
      lotTotal (db.put ⟨.menuItemInventoryLot, i, some lot⟩) id' = lotTotal db id' := by
    intro id' hid'
    have hput := lotTotal_putLot db i lot id'
    rw [lotShare, if_neg (Ne.symm hid'), add_zero] at hput
    cases hget : db.get (.menuItemInventoryLot, i) with
    | none =>
      rwa [hget, Option.elim_none, add_zero] at hput
    | some lot₀ =>
      rw [hget] at hput
      simp only [Option.elim_some, lotShare, hi lot₀ hget, if_neg (Ne.symm hid'), add_zero] at hput
      exact hput
  have hlots : ∀ id', id' ≠ lot.menuItemId →
      HasLots (db.put ⟨.menuItemInventoryLot, i, some lot⟩) id' → HasLots db id' := by
    rintro id' hid' ⟨j, hj⟩
    rw [lotItemOf_putLot] at hj
    split at hj
    · exact absurd (Option.some.inj hj).symm hid'
    · exact ⟨j, hj⟩
  have hget : ∀ id', (db.put ⟨.menuItemInventoryLot, i, some lot⟩).get (.menuItem, id') =
      db.get (.menuItem, id') := fun id' => Db.get_put_ne _ fun hk => by cases hk
  refine ⟨fun id' item' hitem' htracked hlots' => ?_, ?_, fun id' hlots' => ?_⟩
  · rw [hasLots_putItem] at hlots'
    rw [lotTotal_putItem]
    rw [get_putItem] at hitem'
    split at hitem'
    case isTrue hid =>
      cases hitem'
      rw [hid, htotal, hr]
    case isFalse hid =>
      rw [hget] at hitem'
      rw [hother id' hid]
      exact h.ledger id' item' hitem' htracked (hlots id' hid hlots')
  · refine (h.nonneg.put fun level hlevel => ?_).put fun level hlevel => ?_
    · cases hlevel
      exact hlot0
    · rw [show (some r : Option MenuItem).bind (stockLevel Tbl.menuItem) = _ from hr] at hlevel
      cases hlevel
      exact hr0
  · rw [hasLots_putItem] at hlots'
    rw [get_putItem]
    split
    · rfl
    case isFalse hid =>
      rw [hget]
      exact h.owned id' (hlots id' hid hlots')

/-! ## What the repository's updates write -/

theorem run_updateStockRow_ok {t : StockTable} {id : Id} {data : StockData}
    {other : Row t.tbl → Row t.tbl} {db db' : Store} {u : Unit}
    (h : (updateStockRow t id data other).run db = .ok (u, db')) :
    ∃ r, db.get (t.tbl, id) = some r ∧
      db' = db.put ⟨t.tbl, id, some (t.setStock (other r) (data.apply (t.stock r)))⟩ := by
  obtain ⟨found, db₁, hupdate, hrequire⟩ := Tx.run_bind_ok h
  obtain ⟨hfound, rfl⟩ := Tx.run_require_ok hrequire
  rcases Tx.run_updateRow hupdate with ⟨r, -, hget, -, rfl⟩ | ⟨hfalse, -⟩
  · exact ⟨r, hget, rfl⟩
  · rw [hfalse] at hfound
    cases hfound

/-- An adjustment that succeeds changes nothing, or a tracked item's stock by `delta`. -/
theorem run_adjustTrackedItemStock {id : Id} {delta : ℤ} {db db' : Store}
    (h : (adjustTrackedItemStock id delta).run db = .ok (true, db')) :
    (delta = 0 ∧ db' = db) ∨ delta ≠ 0 ∧ ∃ (r : MenuItem) (level : ℤ),
      db.get (.menuItem, id) = some r ∧ r.stock.isStockTracked = true ∧
      r.stock.stockQuantity = some level ∧ (delta < 0 → 0 ≤ level + delta) ∧
      db' = db.put ⟨.menuItem, id,
        some { r with stock := { r.stock with stockQuantity := some (level + delta) } }⟩ := by
  unfold adjustTrackedItemStock adjustTrackedStock at h
  split at h
  case isTrue h0 =>
    cases h
    exact .inl ⟨h0, rfl⟩
  case isFalse hdelta =>
    refine .inr ⟨hdelta, ?_⟩
    split at h
    case isTrue hneg =>
      rcases Tx.run_updateRow h with ⟨r, -, hget, hguard, rfl⟩ | ⟨hfalse, -⟩
      · obtain ⟨htracked, hstock⟩ := Bool.and_eq_true_iff.mp hguard
        obtain ⟨level, hlevel, hle⟩ := (Option.any_eq_true _ _).mp hstock
        have hle := of_decide_eq_true hle
        have habs : level - (delta.natAbs : ℤ) = level + delta := by omega
        refine ⟨r, level, hget, htracked, hlevel, fun _ => by omega, ?_⟩
        simp only [StockTable.setStock, StockTable.stock] at hlevel ⊢
        rw [hlevel, Option.map_some, habs]
      · cases hfalse
    case isFalse hpos =>
      rcases Tx.run_updateRow h with ⟨r, -, hget, hguard, rfl⟩ | ⟨hfalse, -⟩
      · obtain ⟨htracked, hstock⟩ := Bool.and_eq_true_iff.mp hguard
        obtain ⟨level, hlevel⟩ := Option.isSome_iff_exists.mp hstock
        refine ⟨r, level, hget, htracked, hlevel, fun hneg => absurd hneg hpos, ?_⟩
        simp only [StockTable.setStock, StockTable.stock] at hlevel ⊢
        rw [hlevel, Option.map_some]
      · cases hfalse

/-- A lot's adjustment that succeeds changes nothing, or what the lot has left by `delta`. -/
theorem run_adjustItemInventoryLotQuantity {lotId : Id} {delta : ℤ} {db db' : Store}
    (h : (adjustItemInventoryLotQuantity lotId delta).run db = .ok (true, db')) :
    (delta = 0 ∧ db' = db) ∨ delta ≠ 0 ∧ ∃ lot₀ lot : MenuItemInventoryLot,
      db.get (.menuItemInventoryLot, lotId) = some lot₀ ∧ lot.menuItemId = lot₀.menuItemId ∧
      lot.remainingQuantity = lot₀.remainingQuantity + delta ∧
      (delta < 0 → 0 ≤ lot.remainingQuantity) ∧
      db' = db.put ⟨.menuItemInventoryLot, lotId, some lot⟩ := by
  unfold adjustItemInventoryLotQuantity at h
  split at h
  case isTrue h0 =>
    cases h
    exact .inl ⟨h0, rfl⟩
  case isFalse hdelta =>
    refine .inr ⟨hdelta, ?_⟩
    split at h
    case isTrue hneg =>
      rcases Tx.run_updateRow h with ⟨lot₀, -, hget, hguard, rfl⟩ | ⟨hfalse, -⟩
      · have hle := of_decide_eq_true hguard
        refine ⟨lot₀, _, hget, ?_, ?_, fun _ => ?_, rfl⟩
        · rfl
        · change lot₀.remainingQuantity - (delta.natAbs : ℤ) = _
          omega
        · change 0 ≤ lot₀.remainingQuantity - (delta.natAbs : ℤ)
          omega
      · cases hfalse
    case isFalse hpos =>
      rcases Tx.run_updateRow h with ⟨lot₀, -, hget, -, rfl⟩ | ⟨hfalse, -⟩
      · refine ⟨lot₀, _, hget, ?_, ?_, fun hneg => absurd hneg hpos, rfl⟩ <;> rfl
      · cases hfalse

/-! ## The merchant's calls -/

theorem findItemById_eq_some {db : Store} {id : Id} {item : MenuItemOwnershipRecord}
    (h : findItemById db id = some item) :
    item.id = id ∧ db.get (.menuItem, id) = some item.item := by
  simp only [findItemById, Option.bind_eq_bind, Option.bind_eq_some_iff, Option.pure_def,
    Option.some.injEq] at h
  obtain ⟨r, hr, _, _, _, _, rfl⟩ := h
  exact ⟨rfl, hr⟩

/-- The caller may manage the item. -/
structure Managed (currentUser : AuthenticatedUser) (branchId : Id)
    (item : MenuItemOwnershipRecord) : Prop where
  owner : item.merchantUserId = currentUser.userId
  branch : item.branchId = branchId
  access : hasMerchantCatalogAccess currentUser item = true

section Calls

variable {currentUser : AuthenticatedUser} {branchId itemId : Id} {db : Store}

theorem resolveOwnedItem_ends {Q : Except Failure MenuItemOwnershipRecord → Store → Prop}
    (hok : ∀ item, findItemById db itemId = some item →
      item.merchantUserId = currentUser.userId → item.branchId = branchId → Q (.ok item) db)
    (hfail : ∀ e, Q (.error e) db) :
    (resolveOwnedItem currentUser branchId itemId).Ends db Q := by
  refine .bind (.get (.orFail (fun item hitem => ?_) fun _ => hfail _))
  obtain ⟨hfind, hfilter⟩ := Option.filter_eq_some_iff.mp hitem
  obtain ⟨howner, hbranch⟩ := Bool.and_eq_true_iff.mp hfilter
  exact hok item hfind (eq_of_beq howner) (eq_of_beq hbranch)

theorem resolveManagedItem_ends {Q : Except Failure MenuItemOwnershipRecord → Store → Prop}
    (hok : ∀ item, findItemById db itemId = some item → Managed currentUser branchId item →
      Q (.ok item) db)
    (hfail : ∀ e, Q (.error e) db) :
    (resolveManagedItem currentUser branchId itemId).Ends db Q :=
  .bind (resolveOwnedItem_ends (fun item hfind howner hbranch => .bind (.require
    (fun haccess => .ret (hok item hfind ⟨howner, hbranch, haccess⟩)) fun _ => hfail _)) hfail)

theorem requireReasonCode_ends {reasonCode : String} {Q : Except Failure String → Store → Prop}
    (hok : ∀ code, Q (.ok code) db) (hfail : ∀ e, Q (.error e) db) :
    (requireReasonCode reasonCode).Ends db Q := by
  unfold requireReasonCode
  exact .orFail (fun code _ => hok code) fun _ => hfail _

/-- A direct adjustment is for items without lots. -/
theorem adjustBranchItemInventory_consistent (h : Consistent db) (payload : AdjustInventoryDto) :
    (adjustBranchItemInventory currentUser branchId itemId payload).Ends db
      fun _ db' => Consistent db' := by
  unfold adjustBranchItemInventory
  refine .bind (resolveManagedItem_ends (fun item hfind _ => ?_) fun _ => h)
  obtain ⟨rfl, hitem⟩ := findItemById_eq_some hfind
  refine .bind (.require (fun _ => .bind (.get (.bind (.require (fun hcount => ?_) fun _ => h))))
    fun _ => h)
  have hlots : ¬ HasLots db item.id := fun hlots => by
    have hpos := hasLots_iff.mp hlots
    omega
  refine .bind (requireReasonCode_ends (fun _ => .bind (.transaction ?_ fun _ _ => h)) fun _ => h)
  intro updated db' hrun
  have hconsistent : Consistent db' := by
    obtain ⟨adjusted, db₁, hadjust, hrest⟩ := Tx.run_bind_ok hrun
    obtain ⟨rfl, hread⟩ := Tx.run_require_bind_ok hrest
    cases hread
    rcases run_adjustTrackedItemStock hadjust with
      ⟨-, rfl⟩ | ⟨-, r, level, hget, -, hlevel, h0, rfl⟩
    · exact h
    · refine h.putItem (fun level' hlevel' => ?_) fun _ hlots' => absurd hlots' hlots
      have hstock : levelAt db (.menuItem, item.id) = some level := by rw [levelAt, hget]; exact hlevel
      have hnonneg := h.nonneg _ _ hstock
      cases hlevel'
      omega
  exact .orFail (fun _ _ => hconsistent) fun _ => hconsistent

/-- A lot and its item are adjusted by the same amount. -/
theorem adjustItemInventoryLot_consistent (h : Consistent db) (lotId : Id)
    (payload : AdjustInventoryDto) :
    (adjustItemInventoryLot currentUser branchId itemId lotId payload).Ends db
      fun _ db' => Consistent db' := by
  unfold adjustItemInventoryLot
  refine .bind (resolveOwnedItem_ends (fun item hfind _ _ => ?_) fun _ => h)
  obtain ⟨rfl, hitem⟩ := findItemById_eq_some hfind
  refine .bind (.bind (.get (.orFail (fun lot hlot => ?_) fun _ => h)))
  obtain ⟨hget, hlotItem⟩ := Option.filter_eq_some_iff.mp hlot
  have hgetLot : db.get (.menuItemInventoryLot, lotId) = some lot := hget
  refine .bind (.require (fun htracked => ?_) fun _ => h)
  refine .bind (requireReasonCode_ends (fun _ => .transaction ?_ fun _ _ => h) fun _ => h)
  intro _ db' hrun
  obtain ⟨adjustedLot, db₁, hadjustLot, hrest₁⟩ := Tx.run_bind_ok hrun
  obtain ⟨rfl, hrest₂⟩ := Tx.run_require_bind_ok hrest₁
  obtain ⟨adjustedItem, db₂, hadjustItem, hrest₃⟩ := Tx.run_bind_ok hrest₂
  obtain ⟨rfl, hrest₄⟩ := Tx.run_require_bind_ok hrest₃
  obtain ⟨-, rfl⟩ := Tx.run_require_ok hrest₄
  rcases run_adjustItemInventoryLotQuantity hadjustLot with
    ⟨hzero, rfl⟩ | ⟨hne, lot₀, lot', hget₀, howner, hremaining, hlot0, rfl⟩
  · rcases run_adjustTrackedItemStock hadjustItem with ⟨-, rfl⟩ | ⟨hne, -⟩
    · exact h
    · exact absurd hzero hne
  · rcases run_adjustTrackedItemStock hadjustItem with
      ⟨hzero, -⟩ | ⟨-, r, level, hgetItem, -, hlevel, h0, rfl⟩
    · exact absurd hzero hne
    · rw [hgetLot] at hget₀
      cases hget₀
      have hframe : (db.put ⟨.menuItemInventoryLot, lotId, some lot'⟩).get (.menuItem, item.id) =
          db.get (.menuItem, item.id) := Db.get_put_ne _ fun hk => by cases hk
      obtain rfl := Option.some.inj ((hframe.trans hitem).symm.trans hgetItem)
      have hlotItem := eq_of_beq hlotItem
      have hlots : HasLots db item.id :=
        ⟨lotId, by rw [lotItemOf, hgetLot]; exact congrArg some hlotItem⟩
      have htotal : level = lotTotal db item.id :=
        Option.some.inj (hlevel.symm.trans (h.ledger item.id item.item hitem htracked hlots))
      have hlevel0 := h.nonneg (.menuItem, item.id) level (by rw [levelAt, hitem]; exact hlevel)
      have hlot0' := h.nonneg (.menuItemInventoryLot, lotId) lot.remainingQuantity
        (by rw [levelAt, hgetLot]; rfl)
      refine h.putLotItem hitem (howner.trans hlotItem) (fun lot₀ hlot₀ => ?_) ?_ ?_
        (congrArg (fun l => some (l + payload.delta)) htotal) ?_
      · rw [hgetLot] at hlot₀
        cases hlot₀
        exact hlotItem
      · rw [hgetLot]
        exact hremaining
      · omega
      · omega

/-- A new lot adds its quantity to its item, which holds nothing besides its lots. -/
theorem createInventoryLot_consistent (h : Consistent db) {newId : Id} {batchNo : String}
    {expiryDate receivedAt : Option Date} {now : Date} {quantity : ℤ} (hquantity : 0 ≤ quantity) :
    (createInventoryLot currentUser branchId itemId newId batchNo expiryDate receivedAt now
      quantity).Ends db fun _ db' => Consistent db' ∧ KeepsLotItems db db' := by
  have hsame : Consistent db ∧ KeepsLotItems db db := ⟨h, .of_eq rfl⟩
  unfold createInventoryLot
  refine .bind (resolveOwnedItem_ends (fun item hfind _ _ => ?_) fun _ => hsame)
  obtain ⟨rfl, hitem⟩ := findItemById_eq_some hfind
  refine .bind (.require (fun htracked => ?_) fun _ => hsame)
  refine .bind (.orFail (fun batchNo _ => .transaction ?_ fun _ _ => hsame) fun _ => hsame)
  intro _ db' hrun
  obtain ⟨hfirst, hrest₁⟩ := Tx.run_require_bind_ok (Tx.run_read_bind_ok hrun)
  obtain ⟨-, hrest₂⟩ := Tx.run_require_bind_ok (Tx.run_read_bind_ok hrest₁)
  obtain ⟨_, db₁, hinsert, hrest₃⟩ := Tx.run_bind_ok hrest₂
  obtain ⟨hviolation, rfl⟩ := Tx.run_insertRow_ok hinsert
  obtain ⟨_, db₂, hincrement, hrest₄⟩ := Tx.run_bind_ok hrest₃
  cases hrest₄
  have hnew : db.get (.menuItemInventoryLot, newId) = none := by
    by_contra hsome
    rw [if_pos (Option.ne_none_iff_isSome.mp hsome)] at hviolation
    cases hviolation
  -- the item's stock is the stock of its lots, whether or not this is the first of them
  have hlevel0 : 0 ≤ item.item.stock.stockQuantity.getD 0 := by
    cases hlevel : item.item.stock.stockQuantity with
    | none => exact le_rfl
    | some level => exact h.nonneg (.menuItem, item.id) level (by rw [levelAt, hitem]; exact hlevel)
  have htotal : item.item.stock.stockQuantity.getD 0 = lotTotal db item.id := by
    by_cases hlots : HasLots db item.id
    · rw [h.ledger item.id item.item hitem htracked hlots, Option.getD_some]
    · have hzero : countItemInventoryLotsByMenuItemId db item.id = 0 := by
        rw [hasLots_iff] at hlots
        omega
      rw [lotTotal_eq_zero hlots]
      exact le_antisymm (not_lt.mp fun hpos => hfirst ⟨hzero, hpos⟩) hlevel0
  have hframe : (db.put ⟨.menuItemInventoryLot, newId, some {
      menuItemId := item.id, batchNo, expiryDate, receivedAt := receivedAt.getD now,
      createdAt := now, receivedQuantity := quantity, remainingQuantity := quantity }⟩).get
      (.menuItem, item.id) = db.get (.menuItem, item.id) := Db.get_put_ne _ fun hk => by cases hk
  rcases Tx.run_updateRow hincrement with ⟨r, -, hget, -, rfl⟩ | ⟨-, -, hmiss⟩
  · obtain rfl := Option.some.inj ((hframe.trans hitem).symm.trans hget)
    refine ⟨h.putLotItem hitem rfl (fun lot₀ hlot₀ => ?_) ?_ hquantity
      (congrArg (fun l => some (l + quantity)) htotal)
      (Int.add_nonneg (htotal ▸ hlevel0) hquantity), fun i menuItemId hi => ?_⟩
    · rw [hnew] at hlot₀
      cases hlot₀
    · rw [hnew]
      exact (zero_add quantity).symm
    · have hne : i ≠ newId := by
        rintro rfl
        rw [lotItemOf, hnew] at hi
        cases hi
      refine (congrFun (lotItemOf_putItem _ _ _) i).trans ?_
      rw [lotItemOf_putLot, if_neg hne]
      exact hi
  · cases hmiss item.item (hframe.trans hitem)

/-- A new item has no lots. -/
theorem createBranchItem_consistent (h : Consistent db)
    {catalogChecks : Store → Except Failure Unit} {newId : Id} {name : String} {basePrice : ℚ}
    {isAvailable : Option Bool} {inventory : InventoryPayload} :
    (createBranchItem catalogChecks currentUser branchId newId name basePrice isAvailable
      inventory).Ends db fun _ db' => Consistent db' ∧ KeepsLotItems db db' := by
  have hsame : Consistent db ∧ KeepsLotItems db db := ⟨h, .of_eq rfl⟩
  unfold createBranchItem
  refine .bind (.get (.bind (.orFail (fun owner _ => .bind (.require (fun _ => .transaction ?_
    fun _ _ => hsame) fun _ => hsame)) fun _ => hsame)))
  intro _ db' hrun
  obtain ⟨stock, db₁, hstock, hrest₁⟩ := Tx.run_bind_ok hrun
  obtain ⟨hnormalize, rfl⟩ := Tx.run_check_ok hstock
  obtain ⟨_, db₂, hchecks, hrest₂⟩ := Tx.run_bind_ok hrest₁
  obtain ⟨-, rfl⟩ := Tx.run_check_ok hchecks
  obtain ⟨hviolation, rfl⟩ := Tx.run_insertRow_ok hrest₂
  refine ⟨h.putItem (normalizeCreateInventory_nonNegative hnormalize) fun _ hlots => ?_,
    .of_eq (lotItemOf_putItem _ _ _)⟩
  rw [if_pos (h.owned newId hlots)] at hviolation
  cases hviolation

/-- An update of an item with lots, if it is let through, leaves the stock to the lots: it
gives up tracking, or gives no stock other than theirs. -/
def UpdateKeepsLots (catalogChecks : Store → Except Failure Unit)
    (currentUser : AuthenticatedUser) (branchId itemId : Id) (inventory : InventoryPayload)
    (db : Store) : Prop :=
  ∀ item, findItemById db itemId = some item → Managed currentUser branchId item →
    assertWholeNumbers inventory = .ok () → catalogChecks db = .ok () →
    HasLots db itemId → inventory.isStockTracked ≠ some false →
    (∀ q, inventory.stockQuantity = some q → q = lotTotal db itemId) ∧
    -- tracking switched on without a stock starts from zero
    (inventory.stockQuantity = none → item.item.stock.isStockTracked = false →
      inventory.isStockTracked = some true ∨ inventory.lowStockThreshold.isSome →
      lotTotal db itemId = 0)

/-- The stock columns after such an update. -/
theorem normalizeUpdateInventory_ledger {inventory : InventoryPayload} {stock : TrackedStock}
    {data : StockData} {total : ℤ}
    (hdata : normalizeUpdateInventory assertWholeNumbers inventory stock.isStockTracked = .ok data)
    (hstock : stock.isStockTracked = true → stock.stockQuantity = some total)
    (hgiven : assertWholeNumbers inventory = .ok () → inventory.isStockTracked ≠ some false →
      (∀ q, inventory.stockQuantity = some q → q = total) ∧
      (inventory.stockQuantity = none → stock.isStockTracked = false →
        inventory.isStockTracked = some true ∨ inventory.lowStockThreshold.isSome → total = 0))
    (htracked : (data.apply stock).isStockTracked = true) :
    (data.apply stock).stockQuantity = some total := by
  unfold normalizeUpdateInventory at hdata
  split at hdata
  · cases hdata
    exact hstock htracked
  case isFalse hsome =>
    cases hvalues : assertWholeNumbers inventory with
    | error e => rw [hvalues] at hdata; cases hdata
    | ok u =>
      rw [hvalues] at hdata
      change (if _ then _ else _) = _ at hdata
      split at hdata
      case isFalse =>
        cases hdata
        cases htracked
      case isTrue hnext =>
        have hon : inventory.isStockTracked ≠ some false := fun h => by
          rw [h] at hnext
          cases hnext
        obtain ⟨hquantity, hzero⟩ := hgiven hvalues hon
        cases hdata
        cases hq : inventory.stockQuantity with
        | some q => exact congrArg some (hquantity q hq)
        | none =>
          cases ht : stock.isStockTracked with
          | true => exact hstock ht
          | false =>
            refine congrArg some (hzero hq ht ?_).symm
            rw [hq, ht] at hnext
            cases hswitch : inventory.isStockTracked with
            | none =>
              rw [hswitch] at hnext
              exact .inr (by simpa using hnext)
            | some on =>
              rw [hswitch] at hnext
              exact .inl (congrArg some hnext)

/-- An update that leaves an item's lots in charge. -/
theorem updateBranchItem_consistent (h : Consistent db)
    {catalogChecks : Store → Except Failure Unit} {payload : MenuItemPayload}
    (hlots : UpdateKeepsLots catalogChecks currentUser branchId itemId payload.inventory db) :
    (updateBranchItem catalogChecks currentUser branchId itemId payload).Ends db
      fun _ db' => Consistent db' := by
  unfold updateBranchItem
  refine .bind (resolveManagedItem_ends (fun item hfind hmanaged => ?_) fun _ => h)
  obtain ⟨rfl, hitem⟩ := findItemById_eq_some hfind
  refine .bind (.ofExcept ?_)
  cases hdata : normalizeUpdateInventory assertWholeNumbers payload.inventory
      item.item.stock.isStockTracked with
  | error e => exact h
  | ok data =>
    refine .transaction ?_ fun _ _ => h
    intro _ db' hrun
    obtain ⟨_, db₁, hchecks, hrest⟩ := Tx.run_bind_ok hrun
    obtain ⟨hchecks, rfl⟩ := Tx.run_check_ok hchecks
    obtain ⟨r, hget, rfl⟩ := run_updateStockRow_ok hrest
    obtain rfl := Option.some.inj (hitem.symm.trans hget)
    refine h.putItem (fun level hlevel => ?_) fun htracked hhas => ?_
    · cases hq : data.stockQuantity with
      | none =>
        refine h.nonneg (.menuItem, item.id) level ?_
        rw [levelAt, hitem]
        refine Eq.trans ?_ hlevel
        exact (congrArg (·.getD item.item.stock.stockQuantity) hq).symm
      | some q =>
        refine normalizeUpdateInventory_nonNegative assertWholeNumbers_nonNegative hdata level ?_
        rw [hq]
        refine congrArg some (Eq.trans ?_ hlevel)
        exact (congrArg (·.getD item.item.stock.stockQuantity) hq).symm
    · exact normalizeUpdateInventory_ledger hdata
        (fun ht => h.ledger item.id item.item hitem ht hhas)
        (fun hvalues hon => hlots item hfind hmanaged hvalues hchecks hhas hon) htracked

end Calls

/-! ## Orders -/

/-- An operation that switches no tracking leaves every item as it is in that respect. -/
theorem item_of_accumulates {op : ℤ → (k : Key Tbl) → Row k.1 → Row k.1} {d : Amounts}
    {ws : List (Write Row)} {db : Store} (h : Accumulates op d ws db)
    (hop : ∀ q id (r : MenuItem),
      (MenuItem.stock (op q (.menuItem, id) r)).isStockTracked = r.stock.isStockTracked)
    {id : Id} {item : MenuItem} (hitem : (db.apply ws).get (.menuItem, id) = some item) :
    ∃ item₀ : MenuItem, db.get (.menuItem, id) = some item₀ ∧
      item = amend op (d (.menuItem, id)) (.menuItem, id) item₀ ∧
      item.stock.isStockTracked = item₀.stock.isStockTracked := by
  rw [h.rows, Option.map_eq_some_iff] at hitem
  obtain ⟨item₀, hitem₀, rfl⟩ := hitem
  refine ⟨item₀, hitem₀, rfl, ?_⟩
  cases d (.menuItem, id) with
  | zero => rfl
  | coe q => exact hop q id item₀

/-- The ledger after an order has taken or given back stock: items and lots stay where they
are, so it is enough that each item's stock still is that of its lots. -/
theorem Consistent.accumulates {op : ℤ → (k : Key Tbl) → Row k.1 → Row k.1} {d : Amounts}
    {ws : List (Write Row)} {db : Store} (h : Consistent db) (hd : Accumulates op d ws db)
    (hlot : ∀ q i (lot : MenuItemInventoryLot),
      MenuItemInventoryLot.menuItemId (op q (.menuItemInventoryLot, i) lot) = lot.menuItemId)
    (hop : ∀ q id (r : MenuItem),
      (MenuItem.stock (op q (.menuItem, id) r)).isStockTracked = r.stock.isStockTracked)
    (hnonneg : NonNegativeStock (db.apply ws))
    (hledger : ∀ (id : Id) (item : MenuItem), db.get (.menuItem, id) = some item →
      item.stock.isStockTracked = true → HasLots db id →
      item.stock.stockQuantity = some (lotTotal db id) →
      levelAt (db.apply ws) (.menuItem, id) = some (lotTotal (db.apply ws) id)) :
    Consistent (db.apply ws) := by
  have hlots : HasLots (db.apply ws) = HasLots db := by
    funext menuItemId
    rw [HasLots, lotItemOf_accumulates hlot hd]
    rfl
  refine ⟨fun id item hitem htracked hhas => ?_, hnonneg, fun id hhas => ?_⟩
  · rw [hlots] at hhas
    obtain ⟨item₀, hitem₀, -, htracking⟩ := item_of_accumulates hd hop hitem
    rw [htracking] at htracked
    have hlevel := hledger id item₀ hitem₀ htracked hhas (h.ledger id item₀ hitem₀ htracked hhas)
    rw [levelAt, hitem] at hlevel
    exact hlevel
  · rw [hlots] at hhas
    rw [hd.isSome]
    exact h.owned id hhas

/-- A reservation takes from an item what it takes from the item's lots. -/
theorem reserve_consistent {db db' : Store} {items : List MenuInventoryOrderLineInput}
    {result : MenuInventoryReservationResult} (h : Consistent db)
    (hitems : ∀ line ∈ items, 0 ≤ line.quantity)
    (hrun : (reserveTrackedInventoryForOrder items).run db = .ok (result, db')) :
    Consistent db' := by
  obtain ⟨allocated, ws, rfl, hallocated, -, rfl, htaken, hstocked⟩ := reserve_run hrun
  have hreserved := reserved_of_taken (rowwise_stockRow h.nonneg) hallocated hitems htaken hstocked
  refine h.accumulates htaken (fun _ _ _ => rfl) (fun _ _ _ => rfl)
    (h.nonneg.stocked hstocked) fun id item hitem _ hhas hstock => ?_
  have hlevel : levelAt db (.menuItem, id) = some (lotTotal db id) := by
    rw [levelAt, hitem]
    exact hstock
  rw [hreserved.level _ (fun hk => by cases hk), hlevel, hreserved.lots id hhas]
  rfl

/-- A line whose item is tracked and has lots carries its whole quantity in lots. -/
def RestoreKeepsLots (lines : List MenuInventoryOrderLineInput) (db : Store) : Prop :=
  ∀ line ∈ lines, line.menuItemStockTrackedSnapshot = true →
    (∃ item : MenuItem, db.get (.menuItem, line.menuItemId) = some item ∧
      item.stock.isStockTracked = true) →
    HasLots db line.menuItemId → (line.inventoryLotAllocations.map (·.quantity)).sum = line.quantity

/-- The lines of an order that was placed: the lots they carry are lots of their items. -/
structure PlacedLine (db : Store) (line : MenuInventoryOrderLineInput) : Prop where
  nonNegative : line.NonNegative
  lots : ∀ a ∈ line.inventoryLotAllocations, lotItemOf db a.inventoryLotId = some line.menuItemId

/-- A restoration gives back to an item what it gives back to the item's lots. -/
theorem restore_consistent {db db' : Store} {lines : List MenuInventoryOrderLineInput}
    (h : Consistent db) (hplaced : ∀ line ∈ lines, PlacedLine db line)
    (hkeeps : RestoreKeepsLots lines db)
    (hrun : (restoreTrackedInventoryForOrder lines).run db = .ok ((), db')) : Consistent db' := by
  have hnonneg : NonNegativeStock db' := by
    obtain ⟨_, ws, rfl, hrows⟩ := (restoreTrackedInventoryForOrder_stockRow lines
      fun line hline => (hplaced line hline).nonNegative).triple.run
      (rowwise_stockRow h.nonneg) hrun
    exact fun k level => ((rowwise_stockRow h.nonneg).apply hrows k).nonneg level
  obtain ⟨d, ws, rfl, hd, hrestocked⟩ := restore_run hrun
  refine h.accumulates hrestocked (fun _ _ _ => rfl) (fun _ _ _ => rfl) hnonneg
    fun id item hitem htracked hhas hstock => ?_
  -- the lots of the item get back what the lines order of it
  have hdraw : lotDraw db id d = ordered lines (.menuItem, id) := by
    rw [lotDraw_congr hd, lotDraw_demand (lotsOf_lotItemOf db), List.map_map]
    · exact congrArg (fun lines => ordered lines (.menuItem, id)) (List.map_id lines)
    · intro l hl
      obtain ⟨line, hline, rfl⟩ := List.mem_map.mp hl
      exact (hplaced line hline).lots
    · intro l hl hsnapshot hid
      obtain ⟨line, hline, rfl⟩ := List.mem_map.mp hl
      subst hid
      exact hkeeps line hline hsnapshot ⟨item, hitem, htracked⟩ hhas
  -- and so does the item itself
  have hquantity : quantity (d (.menuItem, id)) = ordered lines (.menuItem, id) := by
    rw [hd _ (Option.isSome_iff_exists.mpr ⟨item, hitem⟩), ← amountAt_apply,
      amountAt_demand (fun hk => by cases hk), List.map_map]
    exact congrArg (fun lines => ordered lines (.menuItem, id)) (List.map_id lines)
  have hlevel : stockLevel Tbl.menuItem item = some (lotTotal db id) := hstock
  rw [levelAt, hrestocked.rows, hitem, Option.map_some, Option.bind_some,
    stockLevel_amend_restock hlevel, hquantity, lotTotal_restocked hrestocked, hdraw]

/-! ## The shop -/

/-- The store, and the lines of the orders placed in it, with the lots they took from. -/
structure Shop where
  db : Store
  placed : List (List MenuInventoryOrderLineInput)

/-- The operations that write the stock of items or lots. -/
inductive LotCall
  | createLot (currentUser : AuthenticatedUser) (branchId itemId newId : Id) (batchNo : String)
      (expiryDate receivedAt : Option Date) (now : Date) (quantity : ℤ)
  | adjustLot (currentUser : AuthenticatedUser) (branchId itemId lotId : Id)
      (payload : AdjustInventoryDto)
  | createItem (catalogChecks : Store → Except Failure Unit) (currentUser : AuthenticatedUser)
      (branchId newId : Id) (name : String) (basePrice : ℚ) (isAvailable : Option Bool)
      (inventory : InventoryPayload)
  | updateItem (catalogChecks : Store → Except Failure Unit) (currentUser : AuthenticatedUser)
      (branchId itemId : Id) (payload : MenuItemPayload)
  | adjustItem (currentUser : AuthenticatedUser) (branchId itemId : Id)
      (payload : AdjustInventoryDto)
  /-- place an order for these lines -/
  | reserve (items : List MenuInventoryOrderLineInput)
  /-- give back the stock of the order placed as number `order` -/
  | restore (order : ℕ)

namespace LotCall

/-- What the operation does, whether it succeeds or not. -/
def run : LotCall → Shop → Shop
  | createLot currentUser branchId itemId newId batchNo expiryDate receivedAt now quantity, s =>
    { s with db := ((createInventoryLot currentUser branchId itemId newId batchNo expiryDate
      receivedAt now quantity).run s.db).2 }
  | adjustLot currentUser branchId itemId lotId payload, s =>
    { s with db := ((adjustItemInventoryLot currentUser branchId itemId lotId payload).run s.db).2 }
  | createItem catalogChecks currentUser branchId newId name basePrice isAvailable inventory, s =>
    { s with db := ((createBranchItem catalogChecks currentUser branchId newId name basePrice
      isAvailable inventory).run s.db).2 }
  | updateItem catalogChecks currentUser branchId itemId payload, s =>
    { s with db := ((updateBranchItem catalogChecks currentUser branchId itemId payload).run
      s.db).2 }
  | adjustItem currentUser branchId itemId payload, s =>
    { s with db := ((adjustBranchItemInventory currentUser branchId itemId payload).run s.db).2 }
  | reserve items, s =>
    match (reserveTrackedInventoryForOrder items).run s.db with
    | .ok (result, db) =>
      ⟨db, s.placed ++ [items.map (·.withAllocations result.inventoryLotAllocationsByLineKey)]⟩
    | .error _ => s
  | restore order, s =>
    match s.placed[order]? with
    | none => s
    | some lines =>
      match (restoreTrackedInventoryForOrder lines).run s.db with
      | .ok ((), db) => { s with db }
      | .error _ => s

/-- What callers see to: new lots hold something, and the lines of an order have keys of
their own and quantities. -/
def Valid : LotCall → Prop
  | createLot _ _ _ _ _ _ _ _ quantity => 0 < quantity
  | reserve items => (∀ line ∈ items, 0 < line.quantity) ∧
    ∃ keys : List Id, items.map (·.lineKey) = keys.map some ∧ keys.Nodup
  | _ => True

/-- No update writes a stock over an item with lots, and no line that was reserved without
lots is restored to an item that has them. -/
def KeepsLots : LotCall → Shop → Prop
  | updateItem catalogChecks currentUser branchId itemId payload, s =>
    UpdateKeepsLots catalogChecks currentUser branchId itemId payload.inventory s.db
  | restore order, s => ∀ lines, s.placed[order]? = some lines → RestoreKeepsLots lines s.db
  | _, _ => True

end LotCall

/-- The invariant of runs. -/
structure Shop.Consistent (s : Shop) : Prop where
  db : WerTe.Consistent s.db
  placed : ∀ lines ∈ s.placed, ∀ line ∈ lines, PlacedLine s.db line

theorem PlacedLine.mono {db db' : Store} (h : KeepsLotItems db db')
    {line : MenuInventoryOrderLineInput} (hline : PlacedLine db line) : PlacedLine db' line :=
  ⟨hline.nonNegative, fun a ha => h _ _ (hline.lots a ha)⟩

theorem Shop.Consistent.of_db {s : Shop} (h : s.Consistent) {db : Store}
    (hdb : WerTe.Consistent db) (hlots : KeepsLotItems s.db db) :
    Shop.Consistent { s with db := db } :=
  ⟨hdb, fun lines hlines line hline => (h.placed lines hlines line hline).mono hlots⟩

/-- A call that writes no lot's item leaves every lot with its item. -/
theorem keepsLotItems_run {α : Type} {p : StoreService α} {db : Store} (h : WerTe.Consistent db)
    (hp : p.KeepsRows (StockRow (lotItemOf db))) : KeepsLotItems db (p.run db).2 :=
  .of_eq (funext (lotsOf_of_rowwise (hp.run (rowwise_stockRow h.nonneg))))

/-- The lines of an order, as they are placed. -/
theorem placedLine_withAllocations {db : Store} {keys : List Id}
    {allocated : List (MenuInventoryOrderLineInput × List MenuInventoryLotAllocation)}
    (hquantity : ∀ line ∈ allocated.map Prod.fst, 0 < line.quantity)
    (hkeys : (allocated.map Prod.fst).map (·.lineKey) = keys.map some) (hnodup : keys.Nodup)
    (hallocated : ∀ l ∈ allocated, Allocated (lotItemOf db) l.1 l.2) :
    ∀ line ∈ (allocated.map Prod.fst).map (·.withAllocations (recordAll [] allocated)),
      PlacedLine db line := by
  intro line hline
  obtain ⟨_, hmem, rfl⟩ := List.mem_map.mp hline
  obtain ⟨l, hl, rfl⟩ := List.mem_map.mp hmem
  rw [List.map_map] at hkeys
  have hlots := withAllocations_recordAll allocated keys [] hkeys hnodup (fun _ _ => rfl) l hl
  refine ⟨⟨(hquantity l.1 (List.mem_map_of_mem hl)).le, fun a ha => ?_⟩, fun a ha => ?_⟩
  · rw [hlots] at ha
    exact ((hallocated l hl).pos a ha).le
  · rw [hlots] at ha
    exact (hallocated l hl).mem a ha

/-- One operation. -/
theorem LotCall.run_consistent {c : LotCall} {s : Shop} (h : s.Consistent) (hvalid : c.Valid)
    (hkeeps : c.KeepsLots s) : (c.run s).Consistent := by
  cases c with
  | createLot =>
    obtain ⟨hdb, hlots⟩ := (createInventoryLot_consistent h.db (le_of_lt hvalid)).run
    exact h.of_db hdb hlots
  | adjustLot =>
    exact h.of_db (adjustItemInventoryLot_consistent h.db _ _).run
      (keepsLotItems_run h.db (adjustItemInventoryLot_stockRow ..))
  | createItem =>
    obtain ⟨hdb, hlots⟩ := (createBranchItem_consistent h.db).run
    exact h.of_db hdb hlots
  | updateItem =>
    exact h.of_db (updateBranchItem_consistent h.db hkeeps).run
      (keepsLotItems_run h.db (updateBranchItem_stockRow ..))
  | adjustItem =>
    exact h.of_db (adjustBranchItemInventory_consistent h.db _).run
      (keepsLotItems_run h.db (adjustBranchItemInventory_stockRow ..))
  | reserve items =>
    simp only [LotCall.run]
    cases hrun : (reserveTrackedInventoryForOrder items).run s.db with
    | error e => exact h
    | ok r =>
      obtain ⟨result, db⟩ := r
      obtain ⟨hquantity, keys, hkeys, hnodup⟩ := hvalid
      have hdb := reserve_consistent h.db (fun line hline => (hquantity line hline).le) hrun
      obtain ⟨allocated, ws, rfl, hallocated, hrecord, rfl, htaken, -⟩ := reserve_run hrun
      have hlots : KeepsLotItems s.db (s.db.apply ws) :=
        .of_eq (lotItemOf_accumulates (fun _ _ _ => rfl) htaken)
      refine ⟨hdb, fun lines hlines line hline => ?_⟩
      rcases List.mem_append.mp hlines with hlines | hlines
      · exact (h.placed lines hlines line hline).mono hlots
      · rw [List.mem_singleton.mp hlines, hrecord] at hline
        exact (placedLine_withAllocations hquantity hkeys hnodup hallocated line hline).mono hlots
  | restore order =>
    simp only [LotCall.run]
    cases hlines : s.placed[order]? with
    | none => exact h
    | some lines =>
      dsimp only
      cases hrun : (restoreTrackedInventoryForOrder lines).run s.db with
      | error e => exact h
      | ok r =>
        obtain ⟨_, db⟩ := r
        have hplaced := h.placed lines (List.mem_of_getElem? hlines)
        have hdb := restore_consistent h.db hplaced (hkeeps lines hlines) hrun
        obtain ⟨d, ws, rfl, -, hrestocked⟩ := restore_run hrun
        exact h.of_db hdb (.of_eq (lotItemOf_accumulates (fun _ _ _ => rfl) hrestocked))

/-- The ledger holds throughout every run that leaves items with lots to their lots. -/
theorem lotLedger_of_runs {db₀ : Store} (h₀ : Consistent db₀) {s : Shop}
    (hrun : Runs LotCall.run (fun c s => c.Valid ∧ c.KeepsLots s) ⟨db₀, []⟩ s) :
    LotLedger s.db := by
  have hstart : Shop.Consistent ⟨db₀, []⟩ := ⟨h₀, fun _ hlines => nomatch hlines⟩
  exact (hrun.inv hstart fun c s hs hok => LotCall.run_consistent hs hok.1 hok.2).db.ledger

/-! ## The sample shop, with and without its lots -/

theorem mem_keys_of_get {ws : List (Write Row)} {k : Key Tbl} {r : Row k.1}
    (h : (Db.empty.apply ws).get k = some r) : k ∈ ws.map Write.key := by
  by_contra hk
  rw [Db.get_apply_of_notMem hk] at h
  cases h

/-- Items and lots are checked one by one. -/
theorem consistent_apply {ws : List (Write Row)}
    (hlevel : ∀ k ∈ ws.map Write.key, ∀ level ∈ levelAt (Db.empty.apply ws) k, 0 ≤ level)
    (hledger : ∀ id, (Tbl.menuItem, id) ∈ ws.map Write.key →
      countItemInventoryLotsByMenuItemId (Db.empty.apply ws) id = 0 ∨
        levelAt (Db.empty.apply ws) (.menuItem, id) = some (lotTotal (Db.empty.apply ws) id))
    (howned : ∀ i, (Tbl.menuItemInventoryLot, i) ∈ ws.map Write.key →
      ∀ id ∈ lotItemOf (Db.empty.apply ws) i,
        ((Db.empty.apply ws).get (.menuItem, id)).isSome = true) :
    Consistent (Db.empty.apply ws) := by
  refine ⟨fun id item hitem _ hlots => ?_, nonNegativeStock_apply hlevel, ?_⟩
  · rcases hledger id (mem_keys_of_get hitem) with hzero | hstock
    · rw [hasLots_iff] at hlots
      omega
    · rw [levelAt, hitem] at hstock
      exact hstock
  · rintro id ⟨i, hi⟩
    obtain ⟨lot, hlot, -⟩ := Option.map_eq_some_iff.mp hi
    exact howned i (mem_keys_of_get hlot) id hi

theorem consistent_teaShop : Consistent teaShop := by
  refine consistent_apply (by decide) (fun id hid => ?_) fun i hi => ?_
  · simp [Write.key] at hid
    subst hid
    decide
  · simp [Write.key] at hi
    rcases hi with rfl | rfl <;> decide

/-- The owner of the sample shop. -/
def teaOwner : AuthenticatedUser where
  userId := 10
  role := .merchant
  merchantId := none
  customerProfileId := none
  riderId := none

/-- An order is placed and restored, and the item renamed. -/
def quietRun : List LotCall := [
  .reserve [teaLine 1 1, teaLine 2 3],
  .updateItem (fun _ => .ok ()) teaOwner 1 1 { name := some "Green tea" },
  .restore 0]

theorem lotLedger_of_runs_teaShop :
    LotLedger (runAll LotCall.run quietRun ⟨teaShop, []⟩).db := by
  refine lotLedger_of_runs consistent_teaShop (.all quietRun .start ⟨?_, ?_, ?_, True.intro⟩)
  · exact ⟨⟨by decide, [1, 2], rfl, by decide⟩, True.intro⟩
  · refine ⟨True.intro, fun item _ _ _ _ _ _ => ⟨fun q hq => (nomatch hq), fun _ _ h => ?_⟩⟩
    rcases h with h | h <;> cases h
  · have hsums : ∀ lines ∈ (runAll LotCall.run (quietRun.take 2) ⟨teaShop, []⟩).placed,
        ∀ line ∈ lines, (line.inventoryLotAllocations.map (·.quantity)).sum = line.quantity := by
      decide
    exact ⟨True.intro, fun lines hlines line hline _ _ _ =>
      hsums lines (List.mem_of_getElem? hlines) line hline⟩

/-- The sample shop before its first lot arrives. -/
def plainShop : Store := Db.empty.apply [
  ⟨.merchant, 1, some { userId := 10, status := .active }⟩,
  ⟨.branch, 1, some { merchantId := 1, status := .active }⟩,
  ⟨.menuItem, 1, some {
    branchId := 1, name := "Tea", basePrice := 1500, stock := .tracking 5, isAvailable := true }⟩]

theorem consistent_plainShop : Consistent plainShop := by
  refine consistent_apply (by decide) (fun id hid => ?_) fun i hi => ?_
  · simp [Write.key] at hid
    subst hid
    decide
  · simp [Write.key] at hi

/-- A line for `quantity` cups of tea with nothing in them. -/
def plainLine (lineKey : Id) (quantity : ℤ) : MenuInventoryOrderLineInput :=
  { teaLine lineKey quantity with selectedOptions := [] }

/-- An item tracked, with lots, and with another stock than theirs. -/
theorem not_lotLedger {db : Store} (id : Id)
    (h : (db.get (.menuItem, id)).any (fun item : MenuItem => item.stock.isStockTracked &&
      item.stock.stockQuantity != some (lotTotal db id)) = true)
    (hlots : 0 < countItemInventoryLotsByMenuItemId db id) : ¬ LotLedger db := by
  intro hledger
  obtain ⟨item, hitem, hbad⟩ := (Option.any_eq_true _ _).mp h
  obtain ⟨htracked, hne⟩ := Bool.and_eq_true_iff.mp hbad
  exact bne_iff_ne.mp hne (hledger id item hitem htracked (hasLots_iff.mpr hlots))

/-- The merchant sets the stock of an item with lots. -/
def setStockRun : List LotCall := [
  .updateItem (fun _ => .ok ()) teaOwner 1 1 { inventory := { stockQuantity := some 7 } }]

/-- An order is placed while the item has no lots, the first lot arrives, and the order is
cancelled. -/
def lateRestoreRun : List LotCall := [
  .reserve [plainLine 1 5],
  .createLot teaOwner 1 1 1 "A" none none 0 4,
  .restore 0]

/-- From stores whose ledger is right, two runs of valid operations that break it. -/
theorem lotLedger_broken :
    (Consistent teaShop ∧ ∃ s, Runs LotCall.run (fun c _ => c.Valid) ⟨teaShop, []⟩ s ∧
      ¬ LotLedger s.db) ∧
    (Consistent plainShop ∧ ∃ s, Runs LotCall.run (fun c _ => c.Valid) ⟨plainShop, []⟩ s ∧
      ¬ LotLedger s.db) := by
  refine ⟨⟨consistent_teaShop, runAll LotCall.run setStockRun ⟨teaShop, []⟩,
    .all setStockRun .start ⟨True.intro, True.intro⟩, not_lotLedger 1 (by decide) (by decide)⟩,
    ⟨consistent_plainShop, runAll LotCall.run lateRestoreRun ⟨plainShop, []⟩,
    .all lateRestoreRun .start ⟨⟨by decide, [1], rfl, by decide⟩, show (0 : ℤ) < 4 by decide,
      True.intro, True.intro⟩,
    not_lotLedger 1 (by decide) (by decide)⟩⟩

end WerTe
