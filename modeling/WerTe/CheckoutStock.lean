import WerTe.OrderLines
import WerTe.ReserveSuccess

/-!
# Lines that share a stock

The validation of a cart asks for each line whether its item, its options and its combination have
what the line orders. The reservation takes what the lines order one after the other, from the lots
of an item too, which the validation does not look at. So a cart may pass although its lines order
too much of something together; `validation_reserves_iff` says when the reservation goes through.
-/

namespace WerTe

open ReadCommitted MenusRepository CheckoutValidation Checked Ledger

/-! ## What a line draws on -/

def isTracked (db : Store) (t : StockTable) (id : Id) : Bool :=
  (db.get (t.tbl, id)).any fun r => (t.stock r).isStockTracked

/-- What a line of a cart takes, and from where. -/
def CartAggregateItem.draws (db : Store) (item : CartAggregateItem) : List (StockAccount × ℤ) :=
  let combination := findActiveVariantCombinationByMenuItemIdAndOptionIds db item.item.menuItemId
    (variantSelectorOptions db item.optionIds)
  (if isTracked db .menuItem item.item.menuItemId then
    (if hasLots db item.item.menuItemId then [(.lots item.item.menuItemId, item.item.quantity)]
      else []) ++ [(.stock .menuItem item.item.menuItemId, item.item.quantity)]
  else []) ++
  (combination.filter fun combination => combination.2.stock.isStockTracked).toList.map
    (fun combination => (.stock .itemVariantCombination combination.1, item.item.quantity)) ++
  (item.optionIds.filter fun id => isTracked db .itemOption id).map
    fun id => (.stock .itemOption id, item.item.quantity)

section Line

variable {db : Store} {branchId : Id} {item : CartAggregateItem}

/-- The options that the submission takes for tracked ones. -/
theorem reservedOptions_eq (h : ∀ optionId ∈ item.optionIds, ∃ option group,
    FoundOption db branchId item.item.menuItemId optionId option group) :
    ((item.optionIds.map fun optionId => (⟨optionId, (findBranchOption db branchId optionId).any
        fun option => option.1.stock.isStockTracked⟩ : OrderItemOption)).filter
      (·.itemOptionStockTrackedSnapshot)).map (·.itemOptionId) =
    item.optionIds.filter fun id => isTracked db .itemOption id := by
  rw [List.filter_map, List.map_map]
  refine (List.map_congr_left fun _ _ => rfl).trans (List.map_id _) |>.trans ?_
  refine List.filter_congr fun optionId hmem => ?_
  obtain ⟨option, group, hfound⟩ := h optionId hmem
  rw [Function.comp_apply, hfound.inBranch, isTracked, hfound.row]
  rfl

/-- The line of the order withdraws what the line of the cart draws on. -/
theorem buildOrderCartItem_withdrawals (hchecked : checkCartItem db item = .ok ())
    (hof : item.menuItem.branchId = branchId) :
    ∃ line, buildOrderCartItem db branchId item = .ok line ∧
      withdrawals (hasLots db) line.line = item.draws db ∧
      line.line.quantity = item.item.quantity := by
  obtain ⟨line, hline, hagrees⟩ := buildOrderCartItem_agrees hchecked hof
  refine ⟨line, hline, ?_⟩
  obtain ⟨hitem, hselection⟩ := checkCartItem_ok_iff.mp hchecked
  obtain ⟨hvalid, -⟩ := assertCartItemSelectionsRemainValid_ok_iff.mp hselection
  obtain ⟨menuItem, hmenuItem, hbranch⟩ := menuItem_of_checked hitem
  have hoptions := reservedOptions_eq fun optionId hmem =>
    exists_foundOption hmenuItem (hbranch.trans hof) (hvalid.options optionId hmem)
  have hvariant : line.line.reservedVariant =
      ((findActiveVariantCombinationByMenuItemIdAndOptionIds db item.item.menuItemId
        (variantSelectorOptions db item.optionIds)).filter
          fun combination => combination.2.stock.isStockTracked).map Prod.fst := by
    rw [MenuInventoryOrderLineInput.reservedVariant, hagrees.combination, hagrees.stockTracked]
    cases findActiveVariantCombinationByMenuItemIdAndOptionIds db item.item.menuItemId
      (variantSelectorOptions db item.optionIds) with
    | none => rfl
    | some combination =>
      by_cases htracked : combination.2.stock.isStockTracked = true
      · simp only [Option.any_some, htracked, if_true, Option.filter_some]
      · simp only [Option.any_some, htracked, Option.filter_some, Bool.false_eq_true, if_false,
          Option.map_none]
  simp only [buildOrderCartItem, ite_eq_iff, reduceCtorEq, and_false, false_or] at hline
  obtain ⟨-, hbuilt⟩ := hline
  cases hbuilt
  refine ⟨?_, rfl⟩
  rw [withdrawals, hvariant, MenuInventoryOrderLineInput.reservedOptions]
  have hids : (item.selectedOptions.map fun option => option.2.itemOptionId) = item.optionIds := rfl
  simp only [hids, hoptions, CartAggregateItem.draws, isTracked, Option.toList_map, List.map_map]
  rfl

end Line

/-! ## The order -/

/-- The order withdraws what the cart draws on. -/
theorem withdrawals_of_forall₂ {db : Store} {items : List CartAggregateItem}
    {lines : List CheckoutLine} (h : List.Forall₂ (fun item line =>
      withdrawals (hasLots db) line.line = item.draws db ∧
        line.line.quantity = item.item.quantity) items lines) :
    (lines.map (·.line)).flatMap (withdrawals (hasLots db)) =
        items.flatMap (fun item => item.draws db) ∧
      ((∀ item ∈ items, 1 ≤ item.item.quantity) →
        ∀ line ∈ lines.map (·.line), 0 ≤ line.quantity) := by
  induction h with
  | nil => exact ⟨rfl, fun _ line hline => by cases hline⟩
  | cons hline _ ih =>
    obtain ⟨hwithdrawals, hquantity⟩ := ih
    rw [List.map_cons, List.flatMap_cons, List.flatMap_cons, hwithdrawals, hline.1]
    refine ⟨rfl, fun hpositive => List.forall_mem_cons.mpr ?_⟩
    obtain ⟨hone, hrest⟩ := List.forall_mem_cons.mp hpositive
    exact ⟨by rw [hline.2]; omega, hquantity hrest⟩

/-- The lines of the order are made, and their stock is reserved. -/
def Reserves (db : Store) (context : CheckoutContext) : Prop :=
  ∃ lines outcome, buildOrderCartItems db context = .ok lines ∧
    (reserveTrackedInventoryForOrder (lines.map (·.line))).run db = .ok outcome

/-- **When validation implies reservation.** Let a cart have passed the validation, with items of
the branch and at least one of each. With no change in between, its order is reserved exactly when
each stock, and the lots of each item, have what all the lines together take. -/
theorem validation_reserves_iff {db db' : Store} {context : CheckoutContext} {branch : Branch}
    {merchant : Merchant} {cartId : Id} (hunique : CombinationsUnique db)
    (hready : (assertCartReadyForCheckout context.branchId branch merchant context.cart).run db =
      (.ok cartId, db'))
    (hof : ∀ item ∈ context.cart.items, item.menuItem.branchId = context.branchId)
    (hquantity : ∀ item ∈ context.cart.items, 1 ≤ item.item.quantity) :
    Reserves db context ↔
      Covered (balance db) (context.cart.items.flatMap fun item => item.draws db) := by
  obtain ⟨-, -, -, -, -, hchecked⟩ := assertCartReadyForCheckout_run_ok.mp hready
  have hbuilt : ∃ lines, buildOrderCartItems db context = .ok lines ∧
      List.Forall₂ (fun item line => withdrawals (hasLots db) line.line = item.draws db ∧
        line.line.quantity = item.item.quantity) context.cart.items lines := by
    rw [buildOrderCartItems_eq hunique]
    exact mapM_forall₂ fun item hitem =>
      buildOrderCartItem_withdrawals (hchecked item hitem).2 (hof item hitem)
  obtain ⟨lines, hlines, hforall⟩ := hbuilt
  obtain ⟨hdraws, hpositive⟩ := withdrawals_of_forall₂ hforall
  rw [← hdraws, ← reserve_succeeds_iff (hpositive hquantity)]
  constructor
  · rintro ⟨lines', outcome, hlines', hrun⟩
    cases hlines.symm.trans hlines'
    exact ⟨outcome, hrun⟩
  · rintro ⟨outcome, hrun⟩
    exact ⟨lines, outcome, hlines, hrun⟩

/-- Three large teas with milk, and three teas without: three cups more than the lots hold. -/
def crowdedCart : CheckoutContext where
  customer := ⟨1, 20, .customer⟩
  address := none
  branchId := 1
  cart := {
    cartId := some 1
    branchId := 1
    totalQuantity := 6
    items := [
      ⟨1, ⟨1, 1, 3, 2200, 6600, 0⟩, ⟨1, "Tea", 1500, .tracking 5, true⟩,
        [(1, ⟨1, 2, 500, 0⟩), (2, ⟨1, 1, 200, 0⟩)]⟩,
      ⟨2, ⟨1, 1, 3, 1500, 4500, 1⟩, ⟨1, "Tea", 1500, .tracking 5, true⟩, []⟩]
    subtotalAmount := 11100
    totalAmount := 11100 }

/-- The five cups of the shop are enough for each of the lines, but not for both. -/
theorem validated_not_reserved :
    (assertCartReadyForCheckout crowdedCart.branchId
      { merchantId := 1, status := .active } { userId := 10, status := .active }
        crowdedCart.cart).run sizedShop = (.ok 1, sizedShop) ∧
      ¬ Reserves sizedShop crowdedCart := by
  constructor
  · rw [assertCartReadyForCheckout_run_ok]
    exact ⟨rfl, ⟨rfl, rfl⟩, by decide, rfl, rfl, by decide +kernel⟩
  · rintro ⟨lines, outcome, hlines, hrun⟩
    have hfails : (buildOrderCartItems sizedShop crowdedCart).map (fun lines =>
        ((reserveTrackedInventoryForOrder (lines.map (·.line))).run sizedShop).isOk) =
          .ok false := by decide +kernel
    simp only [hlines, Except.map, hrun] at hfails
    cases hfails

/-- Two large teas with milk and one tea are there. -/
theorem validation_reserves_iff_sizedShop : Reserves sizedShop sizedCart := by
  have hready : (assertCartReadyForCheckout sizedCart.branchId
      { merchantId := 1, status := .active } { userId := 10, status := .active }
        sizedCart.cart).run sizedShop = (.ok 1, sizedShop) := by
    rw [assertCartReadyForCheckout_run_ok]
    exact ⟨rfl, ⟨rfl, rfl⟩, by decide, rfl, rfl, by decide +kernel⟩
  have hof : ∀ item ∈ sizedCart.cart.items, item.menuItem.branchId = sizedCart.branchId := by
    decide
  have hquantity : ∀ item ∈ sizedCart.cart.items, 1 ≤ item.item.quantity := by decide
  refine (validation_reserves_iff combinationsUnique_sizedShop hready hof hquantity).mpr ?_
  have hall : ∀ w ∈ sizedCart.cart.items.flatMap fun item => item.draws sizedShop,
      (balance sizedShop w.1).any (fun left => decide (total
        (sizedCart.cart.items.flatMap fun item => item.draws sizedShop) w.1 ≤ left)) = true := by
    decide +kernel
  intro w hw
  obtain ⟨left, hleft, hle⟩ := (Option.any_eq_true _ _).mp (hall w hw)
  exact ⟨left, hleft, of_decide_eq_true hle⟩

end WerTe
