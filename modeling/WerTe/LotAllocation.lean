import Mathlib
import WerTe.Allocation.Greedy
import WerTe.ReadCommitted.Frame
import WerTe.Sorted.First
import WerTe.StockMoves

/-!
# First expired, first out

`reserveTrackedInventoryLots` takes a line's quantity from the lots of an item: from those that
expire first, and among them from those that were received first.

* `fefoKey`: what the lots are ordered by
* `lotBefore_iff`: the comparison of the source is by it
* `reserveFromLots_run`: the loop takes what `Greedy.takes` says
* `reserveTrackedInventoryLots_exact`: when it succeeds, and what it has done then
-/

namespace WerTe

open ReadCommitted MenusRepository Greedy Sorted

/-! ## The order of the lots -/

/-- The expiry date, with none as the last one, then when the lot was received and created, and
its id. -/
def fefoKey (lot : Id × MenuItemInventoryLot) : WithTop Date ×ₗ Date ×ₗ Date ×ₗ Id :=
  toLex (lot.2.expiryDate.elim ⊤ fun expiryDate => ↑expiryDate,
    toLex (lot.2.receivedAt, toLex (lot.2.createdAt, lot.1)))

theorem compareOptionalDates_eq (left right : Option Date) : compareOptionalDates left right =
    compare (left.elim ⊤ fun date => ↑date : WithTop Date) (right.elim ⊤ fun date => ↑date) := by
  cases left with
  | none =>
    cases right with
    | none => exact (compare_eq_iff_eq.mpr rfl).symm
    | some right => exact (compare_gt_iff_gt.mpr (WithTop.coe_lt_top right)).symm
  | some left =>
    cases right with
    | none => exact (compare_lt_iff_lt.mpr (WithTop.coe_lt_top left)).symm
    | some right =>
      change compare left right = compare (left : WithTop Date) right
      rcases lt_trichotomy left right with h | h | h
      · rw [compare_lt_iff_lt.mpr h, compare_lt_iff_lt.mpr (WithTop.coe_lt_coe.mpr h)]
      · rw [compare_eq_iff_eq.mpr h, compare_eq_iff_eq.mpr (congrArg _ h)]
      · rw [compare_gt_iff_gt.mpr h, compare_gt_iff_gt.mpr (WithTop.coe_lt_coe.mpr h)]

theorem lotBefore_iff {left right : Id × MenuItemInventoryLot} :
    lotBefore left right = true ↔ fefoKey left ≤ fefoKey right := by
  rw [lotBefore, bne_iff_ne, then_ne_gt, then_ne_gt, then_ne_gt, compareOptionalDates_eq,
    compare_lt_iff_lt, compare_eq_iff_eq, compare_lt_iff_lt, compare_eq_iff_eq, compare_lt_iff_lt,
    compare_eq_iff_eq, compare_le_iff_le]
  simp only [fefoKey, Prod.Lex.toLex_le_toLex]

instance : Std.Total fun left right => lotBefore left right = true where
  total left right := by
    rw [lotBefore_iff, lotBefore_iff]
    exact le_total _ _

instance : IsTrans (Id × MenuItemInventoryLot) fun left right => lotBefore left right = true where
  trans _ _ _ hleft hright := by
    rw [lotBefore_iff] at hleft hright ⊢
    exact hleft.trans hright

theorem availableLots_perm (lots : List (Id × MenuItemInventoryLot)) :
    (availableLots lots).Perm (lots.filter fun lot => 0 < lot.2.remainingQuantity) :=
  List.perm_insertionSort ..

variable {lots : List (Id × MenuItemInventoryLot)}

theorem availableLots_nodup (h : (lots.map Prod.fst).Nodup) :
    ((availableLots lots).map Prod.fst).Nodup :=
  ((availableLots_perm lots).map Prod.fst).nodup_iff.mpr (h.sublist (List.filter_sublist.map _))

/-- The lots are used in the order of their keys. -/
theorem availableLots_sorted (h : (lots.map Prod.fst).Nodup) :
    (availableLots lots).Pairwise fun left right => fefoKey left < fefoKey right := by
  have hle : (availableLots lots).Pairwise fun left right => lotBefore left right = true :=
    List.pairwise_insertionSort _ _
  refine (hle.and (List.pairwise_map.mp (availableLots_nodup h))).imp fun {left right} h => ?_
  refine lt_of_le_of_ne (lotBefore_iff.mp h.1) fun heq => h.2 ?_
  simp only [fefoKey, toLex_inj, Prod.mk.injEq] at heq
  exact heq.2.2.2

/-! ## The loop -/

/-- The row of a lot after something has been taken from it. -/
def lotWrite (lot : Id × MenuItemInventoryLot) (taken : ℤ) : Write Row :=
  ⟨.menuItemInventoryLot, lot.1,
    some { lot.2 with remainingQuantity := lot.2.remainingQuantity - taken }⟩

/-- What is taken from each of the lots. -/
def lotTakes (lots : List (Id × MenuItemInventoryLot)) (quantity : ℤ) :
    List ((Id × MenuItemInventoryLot) × ℤ) :=
  lots.zip (takes (lots.map (·.2.remainingQuantity)) quantity)

/-- Alone, the loop takes from the lots what `Greedy.takes` says, and never fails. -/
theorem reserveFromLots_run (menuItemId : Id) {lots : List (Id × MenuItemInventoryLot)} :
    ∀ {db : Store} {quantity : ℤ}, (lots.map Prod.fst).Nodup →
      (∀ lot ∈ lots, db.get (.menuItemInventoryLot, lot.1) = some lot.2) →
      (reserveFromLots menuItemId lots quantity).run db =
        .ok ((lotTakes lots quantity).map fun take => lotAllocation take.1 take.2,
          db.apply ((lotTakes lots quantity).map fun take => lotWrite take.1 take.2)) := by
  induction lots with
  | nil => exact fun _ _ => rfl
  | cons lot lots ih =>
    intro db quantity hnodup hrows
    rw [List.map_cons, List.nodup_cons] at hnodup
    rw [reserveFromLots]
    by_cases hq : quantity ≤ 0
    · rw [if_pos hq, lotTakes, takes_of_nonpos hq, List.zip_nil_right]
      rfl
    · have htakes : lotTakes (lot :: lots) quantity = (lot, min lot.2.remainingQuantity quantity) ::
          lotTakes lots (quantity - min lot.2.remainingQuantity quantity) := by
        rw [lotTakes, List.map_cons, takes_cons (not_le.mp hq)]
        rfl
      generalize hgiven : min lot.2.remainingQuantity quantity = given at htakes ⊢
      have hdecrement : (decrementItemInventoryLotQuantity lot.1 given).run db =
          .ok (true, db.put (lotWrite lot given)) := by
        refine (Tx.run_updateRow_of_get (hrows lot List.mem_cons_self)).trans ?_
        rw [if_pos (decide_eq_true (hgiven ▸ min_le_left _ _))]
        rfl
      -- the rows of the other lots are as they were
      have hrest : ∀ l ∈ lots, (db.put (lotWrite lot given)).get (.menuItemInventoryLot, l.1) =
          some l.2 := by
        intro l hl
        rw [Db.get_put_ne]
        · exact hrows l (List.mem_cons_of_mem _ hl)
        · intro hkey
          have hid : l.1 = lot.1 := congrArg Prod.snd hkey
          exact hnodup.1 (hid ▸ List.mem_map_of_mem hl)
      rw [if_neg hq, htakes]
      simp only [Tx.bind_eq, Tx.run_bind, hdecrement, Except.bind, Tx.require, if_true, Tx.run_ret,
        ih hnodup.2 hrest, Tx.pure_eq]
      rfl

/-! ## What the item gives -/

theorem sum_availableLots (h : ∀ lot ∈ lots, 0 ≤ lot.2.remainingQuantity) :
    ((availableLots lots).map (·.2.remainingQuantity)).sum =
      (lots.map (·.2.remainingQuantity)).sum := by
  rw [((availableLots_perm lots).map _).sum_eq]
  induction lots with
  | nil => rfl
  | cons lot lots ih =>
    have hrest := ih fun l hl => h l (List.mem_cons_of_mem _ hl)
    by_cases hpos : 0 < lot.2.remainingQuantity
    · rw [List.filter_cons_of_pos (by simpa using hpos), List.map_cons, List.map_cons,
        List.sum_cons, List.sum_cons, hrest]
    · rw [List.filter_cons_of_neg (by simpa using hpos), List.map_cons, List.sum_cons, hrest]
      have hnonneg := h lot List.mem_cons_self
      omega

/-- The lots are not enough. -/
def notEnoughLots (menuItemId : Id) (quantity availableQuantity : ℤ) : Failure := fail
  "The requested item is no longer available in the requested quantity across its remaining inventory lots."
  .conflict
  [("menuItemId", .id menuItemId), ("requestedQuantity", .num quantity),
    ("availableLotQuantity", .num availableQuantity)]

/-- What an allocation of `quantity` from the lots of `db` has to be, and what it leaves. -/
structure FefoAllocation (db db' : Store) (menuItemId : Id) (quantity : ℤ)
    (allocations : List MenuInventoryLotAllocation) : Prop where
  /-- no lot is named twice -/
  distinct : (allocations.map (·.inventoryLotId)).Nodup
  /-- each amount is there -/
  amounts : ∀ allocation ∈ allocations, 0 < allocation.quantity ∧ ∃ lot,
    (allocation.inventoryLotId, lot) ∈ listItemInventoryLotsByMenuItemId db menuItemId ∧
      allocation.quantity ≤ lot.remainingQuantity
  /-- nothing is missing, and nothing is taken in vain -/
  total : (allocations.map (·.quantity)).sum = quantity
  /-- the lots are the first of those with stock -/
  fefo : ∃ lots : List (Id × MenuItemInventoryLot),
    lots.Perm ((listItemInventoryLotsByMenuItemId db menuItemId).filter
      fun lot => 0 < lot.2.remainingQuantity) ∧
    lots.Pairwise (fun left right => fefoKey left < fefoKey right) ∧
    allocations.map (·.inventoryLotId) <+: lots.map Prod.fst
  /-- what is taken is taken from the lots -/
  taken : ∀ allocation ∈ allocations, ∀ lot,
    db.get (.menuItemInventoryLot, allocation.inventoryLotId) = some lot →
      db'.get (.menuItemInventoryLot, allocation.inventoryLotId) =
        some { lot with remainingQuantity := lot.remainingQuantity - allocation.quantity }
  /-- the lots before the last one are used up -/
  emptied : ∀ allocation ∈ allocations.dropLast, ∃ lot,
    db'.get (.menuItemInventoryLot, allocation.inventoryLotId) = some lot ∧
      lot.remainingQuantity = 0
  /-- and nothing else is touched -/
  others : ∀ key, (∀ allocation ∈ allocations,
    key ≠ ((.menuItemInventoryLot, allocation.inventoryLotId) : Key Tbl)) → db'.get key = db.get key

section Taken

variable {db : Store} {menuItemId : Id} {quantity : ℤ}

/-- The takes from the available lots, with the amount of each beside what the lot has. -/
theorem zip_takes (lots : List (Id × MenuItemInventoryLot)) (quantity : ℤ) :
    (lots.map (·.2.remainingQuantity)).zip (takes (lots.map (·.2.remainingQuantity)) quantity) =
      (lotTakes lots quantity).map fun take => (take.1.2.remainingQuantity, take.2) := by
  rw [List.zip_map_left]
  rfl

theorem lotTakes_prefix_of_lots (lots : List (Id × MenuItemInventoryLot)) (quantity : ℤ) :
    ((lotTakes lots quantity).map fun take => take.1) <+: lots :=
  map_fst_zip_le _ _

theorem lotTakes_amounts (lots : List (Id × MenuItemInventoryLot)) (quantity : ℤ) :
    ((lotTakes lots quantity).map fun take => take.2) =
      takes (lots.map (·.2.remainingQuantity)) quantity :=
  List.map_snd_zip (length_takes_le.trans_eq (List.length_map _))

/-- Taking from lots that are in the database, each once, takes them in turn. -/
theorem FefoAllocation.of_lotTakes {lots : List (Id × MenuItemInventoryLot)}
    (hlots : lots = availableLots (listItemInventoryLotsByMenuItemId db menuItemId))
    (hquantity : 0 ≤ quantity) (henough : quantity ≤ (lots.map (·.2.remainingQuantity)).sum) :
    FefoAllocation db (db.apply ((lotTakes lots quantity).map fun take => lotWrite take.1 take.2))
      menuItemId quantity ((lotTakes lots quantity).map fun take =>
        lotAllocation take.1 take.2) := by
  have hlisted := Db.list_nodup db .menuItemInventoryLot fun lot => lot.menuItemId == menuItemId
  have hnodup : (lots.map Prod.fst).Nodup := hlots ▸ availableLots_nodup hlisted
  have hmem : ∀ lot ∈ lots, lot ∈ listItemInventoryLotsByMenuItemId db menuItemId ∧
      0 < lot.2.remainingQuantity := fun lot hlot => mem_availableLots.mp (hlots ▸ hlot)
  have hget : ∀ lot ∈ lots, db.get (.menuItemInventoryLot, lot.1) = some lot.2 :=
    fun lot hlot => (Db.mem_list.mp (hmem lot hlot).1).1
  have hpos : ∀ supply ∈ lots.map (·.2.remainingQuantity), 0 < supply := by
    intro supply hsupply
    obtain ⟨lot, hlot, rfl⟩ := List.mem_map.mp hsupply
    exact (hmem lot hlot).2
  have hfrom : ∀ take ∈ lotTakes lots quantity, take.1 ∈ lots := fun take htake =>
    (lotTakes_prefix_of_lots lots quantity).subset (List.mem_map_of_mem htake)
  have hids : ((lotTakes lots quantity).map fun take => take.1.1).Nodup := by
    have hprefix := (lotTakes_prefix_of_lots lots quantity).map Prod.fst
    rw [List.map_map] at hprefix
    exact hnodup.sublist hprefix.sublist
  -- each lot has been written once, by its own take
  have hwritten : ∀ take ∈ lotTakes lots quantity, (db.apply ((lotTakes lots quantity).map
      fun take => lotWrite take.1 take.2)).get (.menuItemInventoryLot, take.1.1) =
        some { take.1.2 with remainingQuantity := take.1.2.remainingQuantity - take.2 } := by
    intro take htake
    have hkey : ((.menuItemInventoryLot, take.1.1) : Key Tbl) ∈ ((lotTakes lots quantity).map
        fun take => lotWrite take.1 take.2).map Write.key := by
      rw [List.map_map]
      exact List.mem_map_of_mem htake
    obtain ⟨row, hrow, hwrite⟩ := Db.get_apply_of_mem hkey db
    obtain ⟨take', htake', heq⟩ := List.mem_map.mp hrow
    have hid : take'.1.1 = take.1.1 := congrArg Write.id heq
    obtain rfl := List.inj_on_of_nodup_map hids htake' htake hid
    rw [hwrite]
    cases heq
    rfl
  refine ⟨?distinct, fun allocation h => ?amounts, ?total, ?fefo,
    fun allocation h lot hlot => ?taken, fun allocation h => ?emptied, fun key hkey => ?others⟩
  case distinct =>
    rw [List.map_map]
    exact hids
  case amounts =>
    obtain ⟨take, htake, rfl⟩ := List.mem_map.mp h
    have htaken : take.2 ∈ takes (lots.map (·.2.remainingQuantity)) quantity :=
      lotTakes_amounts lots quantity ▸ List.mem_map_of_mem htake
    have hle := takes_le (take.1.2.remainingQuantity, take.2)
      (zip_takes lots quantity ▸ List.mem_map_of_mem htake)
    exact ⟨takes_pos hpos _ htaken, take.1.2, (hmem _ (hfrom take htake)).1, hle⟩
  case total =>
    rw [List.map_map]
    have hsum := sum_takes (fun supply hsupply => (hpos supply hsupply).le) hquantity henough
    rwa [← lotTakes_amounts] at hsum
  case fefo =>
    have hprefix := (lotTakes_prefix_of_lots lots quantity).map Prod.fst
    rw [List.map_map] at hprefix ⊢
    exact ⟨lots, hlots ▸ availableLots_perm _, hlots ▸ availableLots_sorted hlisted, hprefix⟩
  case taken =>
    obtain ⟨take, htake, rfl⟩ := List.mem_map.mp h
    obtain rfl := Option.some.inj ((hget _ (hfrom take htake)).symm.trans hlot)
    exact hwritten take htake
  case emptied =>
    rw [← List.map_dropLast] at h
    obtain ⟨take, htake, rfl⟩ := List.mem_map.mp h
    have hall := dropLast_takes (take.1.2.remainingQuantity, take.2)
      (by rw [zip_takes, ← List.map_dropLast]; exact List.mem_map_of_mem htake)
    refine ⟨_, hwritten take (List.mem_of_mem_dropLast htake), ?_⟩
    exact sub_eq_zero.mpr hall.symm
  case others =>
    refine Db.get_apply_of_notMem fun hmem' => ?_
    rw [List.map_map] at hmem'
    obtain ⟨take, htake, rfl⟩ := List.mem_map.mp hmem'
    exact hkey _ (List.mem_map_of_mem htake) rfl

end Taken

/-- **First expired, first out.** Alone, the reservation of a positive quantity from an item's lots
succeeds when the lots have that much left. It then takes exactly that from the first lots with
stock, uses them up one after the other and touches nothing else. When it fails it has not written
anything. -/
theorem reserveTrackedInventoryLots_exact {db : Store} {menuItemId : Id} {quantity : ℤ}
    (hquantity : 0 < quantity)
    (hlots : ∀ lot ∈ listItemInventoryLotsByMenuItemId db menuItemId,
      0 ≤ lot.2.remainingQuantity) :
    ((∃ outcome, (reserveTrackedInventoryLots menuItemId quantity).run db = .ok outcome) ↔
      quantity ≤ ((listItemInventoryLotsByMenuItemId db menuItemId).map
        (·.2.remainingQuantity)).sum) ∧
    (∀ allocations db', (reserveTrackedInventoryLots menuItemId quantity).run db =
      .ok (allocations, db') → FefoAllocation db db' menuItemId quantity allocations) ∧
    ∀ e, (reserveTrackedInventoryLots menuItemId quantity).run db = .error e →
      (∃ availableQuantity, e = notEnoughLots menuItemId quantity availableQuantity) ∧
        (Service.transaction (reserveTrackedInventoryLots menuItemId quantity)).run db =
          (.error e, db) := by
  generalize hitem : listItemInventoryLotsByMenuItemId db menuItemId = lots at hlots
  have hsum := sum_availableLots hlots
  have hrows : ∀ lot ∈ availableLots lots, db.get (.menuItemInventoryLot, lot.1) = some lot.2 := by
    intro lot hlot
    exact (Db.mem_list.mp (hitem ▸ (mem_availableLots.mp hlot).1)).1
  have hnodup : ((availableLots lots).map Prod.fst).Nodup :=
    availableLots_nodup (hitem ▸ Db.list_nodup db .menuItemInventoryLot _)
  have hrun : (reserveTrackedInventoryLots menuItemId quantity).run db =
      if quantity ≤ (lots.map (·.2.remainingQuantity)).sum then
        .ok ((lotTakes (availableLots lots) quantity).map fun take => lotAllocation take.1 take.2,
          db.apply ((lotTakes (availableLots lots) quantity).map
            fun take => lotWrite take.1 take.2))
      else .error (notEnoughLots menuItemId quantity (lots.map (·.2.remainingQuantity)).sum) := by
    simp only [reserveTrackedInventoryLots, Tx.bind_eq, Tx.run_bind, Tx.run_read, Except.bind,
      hitem, hsum]
    by_cases henough : quantity ≤ (lots.map (·.2.remainingQuantity)).sum
    · simp only [Tx.require, henough, if_true, Tx.run_ret,
        reserveFromLots_run menuItemId hnodup hrows]
    · simp only [Tx.require, henough, if_false, Tx.run_throw]
      rfl
  by_cases henough : quantity ≤ (lots.map (·.2.remainingQuantity)).sum
  · rw [if_pos henough] at hrun
    refine ⟨⟨fun _ => henough, fun _ => ⟨_, hrun⟩⟩, fun allocations db' h => ?_, fun e h => ?_⟩
    · cases hrun.symm.trans h
      exact .of_lotTakes (by rw [hitem]) hquantity.le (hsum ▸ henough)
    · cases hrun.symm.trans h
  · rw [if_neg henough] at hrun
    refine ⟨⟨fun hok => ?_, fun h => absurd h henough⟩, fun allocations db' h => ?_,
      fun e h => ?_⟩
    · obtain ⟨outcome, h⟩ := hok
      cases hrun.symm.trans h
    · cases hrun.symm.trans h
    · cases hrun.symm.trans h
      refine ⟨⟨_, rfl⟩, ?_⟩
      simp only [Service.transaction, Service.run, hrun]
      rfl

/-- Three of the five cups are taken from the two lots: all of the one that expires, then one. -/
theorem reserveTrackedInventoryLots_exact_teaShop : ∃ allocations db',
    (reserveTrackedInventoryLots 1 3).run teaShop = .ok (allocations, db') ∧
      FefoAllocation teaShop db' 1 3 allocations := by
  have hlots : ∀ lot ∈ listItemInventoryLotsByMenuItemId teaShop 1,
      0 ≤ lot.2.remainingQuantity := by decide
  have henough : (3 : ℤ) ≤ ((listItemInventoryLotsByMenuItemId teaShop 1).map
      (·.2.remainingQuantity)).sum := by decide
  obtain ⟨hsucceeds, hspec, -⟩ :=
    reserveTrackedInventoryLots_exact (show (0 : ℤ) < 3 by decide) hlots
  obtain ⟨⟨allocations, db'⟩, hrun⟩ := hsucceeds.mpr henough
  exact ⟨allocations, db', hrun, hspec allocations db' hrun⟩

end WerTe
