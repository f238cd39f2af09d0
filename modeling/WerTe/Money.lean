import WerTe.CartOrders
import WerTe.CartTotals
import WerTe.MerchantInventory
import WerTe.Promotions
import WerTe.ReadCommitted.Maintains

/-!
# Amounts of money

An item's price, the options' price deltas, the lines and the totals of a cart, a promotion's
discount and the delivery fee all go into what an order costs. Promotions are checked when they
are stored. Prices and price deltas are not: a merchant may store any number, and a line of a cart
costs what its item and its options add up to. All amounts stay non-negative as long as no line is
priced below zero (`money_nonNegative`).
-/

namespace WerTe

open ReadCommitted MenusRepository CartsRepository CartPricing CartMutation CheckoutContextService
  CheckoutValidation CheckoutPricing Promotions PromotionsRepository

/-! ## What is stored -/

/-- The amounts of a row are not negative. -/
def NonNegative : (t : Tbl) → Row t → Prop
  | .cartItem, (item : CartItem) => 0 ≤ item.unitPriceSnapshot ∧ 0 ≤ item.lineTotal
  | .cart, (cart : Cart) => 0 ≤ cart.subtotalAmount
  | .promotion, (promotion : Promotion) =>
    0 ≤ promotion.discountValue ∧ ∀ maximum, promotion.maximumDiscountAmount = some maximum →
      0 ≤ maximum
  | .order, (order : Order) => 0 ≤ order.subtotalAmount ∧ 0 ≤ order.discountAmount ∧
      0 ≤ order.deliveryFee ∧ 0 ≤ order.totalAmount
  | .payment, (payment : Payment) => 0 ≤ payment.amount
  | _, _ => True

/-- All stored amounts are non-negative, those that others are computed from among them. -/
def AmountsNonNegative (db : Store) : Prop := ∀ t i r, db.get (t, i) = some r → NonNegative t r

/-- No line, cart, order or payment is about a negative amount. -/
structure MoneyNonNegative (db : Store) : Prop where
  lines : ∀ i item, db.get (.cartItem, i) = some item → 0 ≤ item.lineTotal
  carts : ∀ i cart, db.get (.cart, i) = some cart → 0 ≤ cart.subtotalAmount
  orders : ∀ i order, db.get (.order, i) = some order → 0 ≤ order.subtotalAmount ∧
    0 ≤ order.discountAmount ∧ 0 ≤ order.deliveryFee ∧ 0 ≤ order.totalAmount
  payments : ∀ i payment, db.get (.payment, i) = some payment → 0 ≤ payment.amount

theorem AmountsNonNegative.money {db : Store} (h : AmountsNonNegative db) :
    MoneyNonNegative db where
  lines i item hget := (h .cartItem i item hget).2
  carts i cart hget := h .cart i cart hget
  orders i order hget := h .order i order hget
  payments i payment hget := h .payment i payment hget

/-- The tables that lines are priced from. -/
def IsCatalog (t : Tbl) : Prop :=
  t = .menuItem ∨ t = .itemOption ∨ t = .itemOptionGroup ∨ t = .itemVariantCombination

/-- A row with non-negative amounts is written, or one is removed, and not in the catalog. -/
structure AmountWrite (w : Write Row) : Prop where
  row : ∀ r, w.row = some r → NonNegative w.table r
  table : ¬ IsCatalog w.table

/-- The amounts are non-negative, and the catalog is as it was. -/
structure Since (db₀ db : Store) : Prop where
  amounts : AmountsNonNegative db
  catalog : Db.SameOn IsCatalog db₀ db

section Puts

variable {db db₀ : Store} {w : Write Row}

theorem AmountsNonNegative.put (h : AmountsNonNegative db)
    (hw : ∀ r, w.row = some r → NonNegative w.table r) : AmountsNonNegative (db.put w) := by
  intro t i r hget
  rcases Db.get_apply_cases [w] t i db with hkept | ⟨row, hrow, hget'⟩
  · exact h t i r (hkept.symm.trans hget)
  · obtain rfl := List.mem_singleton.mp hrow
    exact hw r (hget'.symm.trans hget)

theorem Since.put (h : Since db₀ db) (hw : AmountWrite w) : Since db₀ (db.put w) := by
  have hsame : Db.SameOn IsCatalog db (db.apply [w]) := .of_writes fun w' hw' => by
    rw [List.mem_singleton.mp hw']
    exact hw.table
  exact ⟨h.amounts.put hw.row, h.catalog.trans hsame⟩

end Puts

/-! ## The cart -/

section Prices

variable {round : ℚ → ℚ}

theorem addUp_nonneg (hround : ∀ x, 0 ≤ x → 0 ≤ round x) {amounts : List ℚ}
    (h : ∀ amount ∈ amounts, 0 ≤ amount) : ∀ {start : ℚ}, 0 ≤ start →
      0 ≤ addUp round start amounts := by
  induction amounts with
  | nil => exact fun hstart => hstart
  | cons amount amounts ih =>
    intro start hstart
    have hfirst : 0 ≤ amount := h amount List.mem_cons_self
    exact ih (fun a ha => h a (List.mem_cons_of_mem _ ha)) (hround _ (add_nonneg hstart hfirst))

theorem computeLineTotal_nonneg (hround : ∀ x, 0 ≤ x → 0 ≤ round x) {quantity : ℤ} {price : ℚ}
    (hquantity : 1 ≤ quantity) (hprice : 0 ≤ price) :
    0 ≤ computeLineTotal round quantity price := by
  have hcast : (0 : ℚ) ≤ quantity := by
    have h : (0 : ℤ) ≤ quantity := by omega
    exact_mod_cast h
  exact hround _ (mul_nonneg hprice hcast)

/-- The same catalog, the same options. -/
theorem resolveSelectedOptionsForMenuItem_congr {db₀ db : Store}
    (h : Db.SameOn IsCatalog db₀ db) (menuItemId : Id) (optionIds : List Id) (quantity : ℤ) :
    resolveSelectedOptionsForMenuItem db menuItemId optionIds quantity =
      resolveSelectedOptionsForMenuItem db₀ menuItemId optionIds quantity := by
  have hgroups : activeOptionGroups db menuItemId = activeOptionGroups db₀ menuItemId := by
    rw [activeOptionGroups, ← h.list (by simp [IsCatalog])]
    rfl
  have hoption : ∀ groups optionId,
      findActiveOption db groups optionId = findActiveOption db₀ groups optionId := by
    intro groups optionId
    rw [findActiveOption, ← h.get (by simp [IsCatalog])]
    rfl
  have hcombination : ∀ optionIds, findActiveVariantCombination db menuItemId optionIds =
      findActiveVariantCombination db₀ menuItemId optionIds := by
    intro optionIds
    rw [findActiveVariantCombination, ← h.list (by simp [IsCatalog])]
    rfl
  simp only [resolveSelectedOptionsForMenuItem, assertSelectedVariantCombinationIsValid, hgroups,
    hoption, hcombination]

/-- The options that can be selected for an item cost, with the item, nothing below zero. -/
def NonNegativePrice (round : ℚ → ℚ) (db : Store) (branchId menuItemId : Id) (quantity : ℤ)
    (selectedOptionIds : List Id) : Prop :=
  1 ≤ quantity → ∀ menuItem selected, findItemById db menuItemId = some menuItem →
    menuItem.branchId = branchId → menuItem.item.isAvailable = true →
      resolveSelectedOptionsForMenuItem db menuItem.id selectedOptionIds quantity = .ok selected →
        0 ≤ addUp round menuItem.item.basePrice (selected.map fun option => option.2.priceDelta)

/-- The call prices no line below zero: what is added to a cart, or selected anew for a line, is
stored in the catalog with prices that do not add up to less. -/
def CartCall.PricesNonNegative (round : ℚ → ℚ) (db : Store) : CartCall → Prop
  | add _ _ branchId menuItemId quantity selectedOptionIds =>
    NonNegativePrice round db branchId menuItemId quantity selectedOptionIds
  | update _ _ cartItemId quantity (some selectedOptionIds) =>
    ∀ record, findCartItemById db cartItemId = some record →
      NonNegativePrice round db record.cart.branchId record.item.menuItemId quantity
        selectedOptionIds
  | _ => True

end Prices

section Carts

variable {round : ℚ → ℚ} {db₀ : Store}

theorem recomputeCartTotals_maintains (hround : ∀ x, 0 ≤ x → 0 ≤ round x) (cartId : Id) :
    (recomputeCartTotals round cartId).Maintains (Since db₀) fun _ => True := by
  refine .bind (M := fun cartItems => ∀ item ∈ cartItems, 0 ≤ item.lineTotal)
    (.read fun db h item hitem => ?_) fun cartItems hitems => .updateExisting fun db cart h _ => ?_
  · obtain ⟨⟨i, item'⟩, hmem, rfl⟩ := List.mem_map.mp hitem
    exact (h.amounts .cartItem i item' (mem_listCartItemsByCartId.mp hmem).1).2
  · refine h.put ⟨fun r hr => ?_, by simp [IsCatalog]⟩
    cases hr
    exact addUp_nonneg hround (fun total htotal => by
      obtain ⟨item, hitem, rfl⟩ := List.mem_map.mp htotal
      exact hitems item hitem) le_rfl

/-- Writes that are not about amounts. -/
theorem maintains_of_options {α : Type} {p : StoreTx α}
    (hp : p.Writes fun w => w.table = .cartItemOption) :
    p.Maintains (Since db₀) fun _ => True := by
  refine .of_writes hp fun db w h hw => h.put ⟨fun r _ => ?_, by simp [hw, IsCatalog]⟩
  obtain ⟨t, i, row⟩ := w
  cases hw
  exact True.intro

/-- Removing lines. -/
theorem maintains_of_removed {α : Type} {p : StoreTx α}
    (hp : p.Writes fun w => w.table = .cartItem ∧ w.row = none) :
    p.Maintains (Since db₀) fun _ => True := by
  refine .of_writes hp fun db w h hw => h.put ⟨fun r hr => ?_, by simp [hw.1, IsCatalog]⟩
  cases hw.2.symm.trans hr

theorem addLine_maintains (hround : ∀ x, 0 ≤ x → 0 ≤ round x) (ids : NewIds)
    (customerProfileId branchId menuItemId : Id) {quantity : ℤ} {unitPriceSnapshot : ℚ}
    (selected : List (Id × ItemOption)) (hquantity : 1 ≤ quantity)
    (hprice : 0 ≤ unitPriceSnapshot) :
    (addLine round ids customerProfileId branchId menuItemId quantity unitPriceSnapshot
      selected).Maintains (Since db₀) fun _ => True := by
  refine .bind (M := fun _ => True) (.read fun _ _ => True.intro) fun found _ => ?_
  have hline : ∀ cartId : Id, ((do
      createCartItem ids.cartItemId ⟨cartId, menuItemId, quantity, unitPriceSnapshot,
        computeLineTotal round quantity unitPriceSnapshot, ids.createdAt⟩
      createCartItemOptions
        (selectedOptionRows ids.optionRowIds ids.createdAt ids.cartItemId selected)
      recomputeCartTotals round cartId
      pure cartId) : StoreTx Id).Maintains (Since db₀) fun _ => True := by
    refine fun cartId => .bind (.insertRow fun db h => h.put ⟨fun r hr => ?_, by simp [IsCatalog]⟩)
      fun _ _ => .bind (maintains_of_options (createCartItemOptions_writes _)) fun _ _ =>
        .bind (recomputeCartTotals_maintains hround _) fun _ _ => .ret True.intro
    cases hr
    exact ⟨hprice, computeLineTotal_nonneg hround hquantity hprice⟩
  cases found with
  | some cart => exact hline cart.1
  | none =>
    refine .bind (.insertRow fun db h => h.put ⟨fun r hr => ?_, by simp [IsCatalog]⟩)
      fun _ _ => hline ids.cartId
    cases hr
    exact le_refl (0 : ℚ)

theorem reselectOptions_maintains (ids : NewIds) (cartItem : CartItemOwnershipRecord)
    (menuItem : MenuItemOwnershipRecord) (quantity : ℤ) (selectedOptionIds : Option (List Id))
    (hkept : 0 ≤ cartItem.item.unitPriceSnapshot)
    (hprice : ∀ optionIds selected, selectedOptionIds = some optionIds →
      resolveSelectedOptionsForMenuItem db₀ menuItem.id optionIds quantity = .ok selected →
        0 ≤ computeUnitPriceSnapshot round menuItem.item selected) :
    (reselectOptions round ids cartItem menuItem quantity selectedOptionIds).Maintains (Since db₀)
      fun price => 0 ≤ price := by
  cases selectedOptionIds with
  | some optionIds =>
    refine .bind (M := fun selected => resolveSelectedOptionsForMenuItem db₀ menuItem.id optionIds
      quantity = .ok selected) (.check fun db selected h hselected => ?_) fun selected hselected =>
        .bind (maintains_of_options (deleteCartItemOptions_writes _)) fun _ _ =>
          .bind (maintains_of_options (createCartItemOptions_writes _)) fun _ _ =>
            .ret (hprice optionIds selected rfl hselected)
    rw [← hselected, resolveSelectedOptionsForMenuItem_congr h.catalog]
  | none =>
    exact .bind (M := fun _ => True) (.read fun _ _ => True.intro) fun _ _ =>
      .bind (M := fun _ => True) (.check fun _ _ _ _ => True.intro) fun _ _ => .ret hkept

/-- A transaction that maintains the amounts, and reading after it. -/
theorem ends_of_maintains {α β : Type} {body : StoreTx α} {f : α → StoreService β}
    (hbody : body.Maintains (Since db₀) fun _ => True) (hf : ∀ a, (f a).ReadOnly)
    (h : AmountsNonNegative db₀) :
    ((Service.transaction body).bind f).Ends db₀ fun _ db => AmountsNonNegative db :=
  .transaction_bind (fun a db' hrun => (hf a).ends fun _ =>
    (hbody db₀ ⟨h, .refl db₀⟩ a db' hrun).1.amounts) fun _ _ => h

theorem resolveCartAggregateOrThrow_readOnly (cartId : Id) :
    (resolveCartAggregateOrThrow cartId).ReadOnly := .bind (.get _) fun _ => .orFail ..

theorem CartCall.ends (hround : ∀ x, 0 ≤ x → 0 ≤ round x) (call : CartCall)
    (h : AmountsNonNegative db₀) (hprices : call.PricesNonNegative round db₀) :
    (call.service round).Ends db₀ fun _ db => AmountsNonNegative db := by
  have hprofile : ∀ currentUser,
      (CartMutation.resolveCurrentCustomerProfile currentUser).ReadOnly := fun _ =>
    .bind (.get _) fun _ => .bind (.orFail ..) fun _ => .bind (.require ..) fun _ => .ret _
  cases call with
  | add ids currentUser branchId menuItemId quantity selectedOptionIds =>
    refine .require_bind (fun hquantity => ?_) fun _ => h
    refine .bind ((hprofile currentUser).ends fun r => ?_)
    cases r with
    | error e => exact h
    | ok profileId =>
      refine .bind (.get_bind (.orFail_bind (fun menuItem hfound => ?_) fun _ => h))
      obtain ⟨hfind, hbranch⟩ := Option.filter_eq_some_iff.mp hfound
      refine .require_bind (fun havailable => .ret (.get_bind (.bind (.ofExcept ?_)))) fun _ => h
      cases hselected : resolveSelectedOptionsForMenuItem db₀ menuItem.id selectedOptionIds
        quantity with
      | error e => exact h
      | ok selected =>
        have hprice : 0 ≤ computeUnitPriceSnapshot round menuItem.item selected :=
          hprices hquantity menuItem selected hfind (eq_of_beq hbranch) havailable hselected
        exact ends_of_maintains (addLine_maintains hround ids _ _ _ selected hquantity hprice)
          resolveCartAggregateOrThrow_readOnly h
  | update ids currentUser cartItemId quantity selectedOptionIds =>
    refine .require_bind (fun hquantity => ?_) fun _ => h
    refine .bind (.get_bind (.orFail (fun record hfound => ?_) fun _ => h))
    obtain ⟨hfind, -⟩ := Option.filter_eq_some_iff.mp hfound
    refine .bind (.get_bind (.orFail_bind (fun menuItem hfound' => ?_) fun _ => h))
    obtain ⟨hitem, hbranch⟩ := Option.filter_eq_some_iff.mp hfound'
    refine .require_bind (fun havailable => .ret ?_) fun _ => h
    have hkept : 0 ≤ record.item.unitPriceSnapshot := by
      simp only [findCartItemById, Option.bind_eq_bind, Option.bind_eq_some_iff, Option.pure_def,
        Option.some.injEq] at hfind
      obtain ⟨item, hget, _, _, _, _, rfl⟩ := hfind
      exact (h .cartItem _ item hget).1
    refine ends_of_maintains (.bind (reselectOptions_maintains ids record menuItem quantity
      selectedOptionIds hkept ?_) fun price hprice => .bind (.updateExisting fun db item h _ => ?_)
        fun _ _ => recomputeCartTotals_maintains hround _)
          (fun _ => resolveCartAggregateOrThrow_readOnly _) h
    · rintro optionIds selected rfl hselected
      exact hprices record hfind hquantity menuItem selected hitem (eq_of_beq hbranch) havailable
        hselected
    · refine h.put ⟨fun r hr => ?_, by simp [IsCatalog]⟩
      cases hr
      exact ⟨hprice, computeLineTotal_nonneg hround hquantity hprice⟩
  | remove currentUser cartItemId =>
    refine .bind (.get_bind (.orFail (fun record _ => ?_) fun _ => h))
    refine ends_of_maintains (.bind (maintains_of_options (deleteCartItemOptions_writes _))
      fun _ _ => .bind (maintains_of_removed ⟨fun db u ws hws w hw => ?_, fun _ => True.intro⟩)
        fun _ _ => recomputeCartTotals_maintains hround _)
          (fun _ => resolveCartAggregateOrThrow_readOnly _) h
    beta_reduce at hws
    split at hws
    · cases hws
    · cases hws
      rw [List.mem_singleton.mp hw]
      exact ⟨rfl, rfl⟩
  | clear currentUser branchId =>
    refine .bind ((hprofile currentUser).ends fun r => ?_)
    cases r with
    | error e => exact h
    | ok profileId =>
      refine .get_bind ?_
      cases findActiveCartByCustomerProfileIdAndBranchId db₀ profileId branchId with
      | none => exact .ret h
      | some cart =>
        refine ends_of_maintains (.bind (maintains_of_options (deleteCartItemOptions_writes _))
          fun _ _ => .bind (maintains_of_removed (.update fun db w hw => ?_)) fun _ _ =>
            recomputeCartTotals_maintains hround _)
              (fun _ => resolveCartAggregateOrThrow_readOnly _) h
        obtain ⟨line, -, rfl⟩ := List.mem_map.mp hw
        exact ⟨rfl, rfl⟩

end Carts

/-! ## The catalog -/

/-- The requests that set prices, with the ids of what they create. -/
inductive CatalogCall
  | createItem (catalogChecks : Store → Except Failure Unit) (currentUser : AuthenticatedUser)
      (branchId newId : Id) (name : String) (basePrice : ℚ) (isAvailable : Option Bool)
      (inventory : InventoryPayload)
  | updateItem (catalogChecks : Store → Except Failure Unit) (currentUser : AuthenticatedUser)
      (branchId itemId : Id) (payload : MenuItemPayload)
  | createOption (currentUser : AuthenticatedUser) (branchId itemId optionGroupId newId : Id)
      (name : String) (priceDelta : ℚ) (sortOrder : Option ℤ) (isActive : Option Bool)
      (inventory : InventoryPayload)
  | updateOption (currentUser : AuthenticatedUser) (branchId itemId optionGroupId optionId : Id)
      (name : Option String) (priceDelta : Option ℚ) (isActive : Option Bool)
      (inventory : InventoryPayload)

def CatalogCall.service : CatalogCall → StoreService Unit
  | createItem catalogChecks currentUser branchId newId name basePrice isAvailable inventory =>
    createBranchItem catalogChecks currentUser branchId newId name basePrice isAvailable inventory
  | updateItem catalogChecks currentUser branchId itemId payload =>
    updateBranchItem catalogChecks currentUser branchId itemId payload
  | createOption currentUser branchId itemId optionGroupId newId name priceDelta sortOrder isActive
      inventory =>
    createGroupOption currentUser branchId itemId optionGroupId newId name priceDelta sortOrder
      isActive inventory
  | updateOption currentUser branchId itemId optionGroupId optionId name priceDelta isActive
      inventory =>
    updateGroupOption currentUser branchId itemId optionGroupId optionId name priceDelta isActive
      inventory

theorem updateStockRow_writes (t : StockTable) (id : Id) (data : StockData)
    (other : Row t.tbl → Row t.tbl) :
    (updateStockRow t id data other).Writes fun w => w.table = t.tbl :=
  .bind (.updateRow fun _ => rfl) fun _ => .require _ _

/-- Requests to the catalog write items and options. -/
theorem CatalogCall.writes (call : CatalogCall) :
    call.service.Writes fun w => w.table = .menuItem ∨ w.table = .itemOption := by
  cases call with
  | createItem catalogChecks currentUser branchId newId name basePrice isAvailable inventory =>
    exact .bind (.get _) fun _ => .bind (.orFail _ _) fun _ => .bind (.require _ _) fun _ =>
      .transaction (.bind .check fun _ => .bind .check fun _ => .insertRow (.inl rfl))
  | updateItem catalogChecks currentUser branchId itemId payload =>
    exact .bind (.bind (.bind (.get _) fun _ => .orFail _ _) fun _ =>
      .bind (.require _ _) fun _ => .ret _) fun _ => .bind (Service.ReadOnly.ofExcept _).writes
        fun _ => .transaction (.bind .check fun _ => (updateStockRow_writes .menuItem _ _ _).mono
          fun _ => .inl)
  | createOption currentUser branchId itemId optionGroupId newId name priceDelta sortOrder isActive
      inventory =>
    exact .bind (.bind (.get _) fun _ => .bind (.orFail _ _) fun _ => .bind (.require _ _) fun _ =>
      .ret _) fun _ => .transaction (.bind .read fun _ => .bind .check fun _ =>
        .insertRow (.inr rfl))
  | updateOption currentUser branchId itemId optionGroupId optionId name priceDelta isActive
      inventory =>
    exact .bind (.bind (.get _) fun _ => .bind (.orFail _ _) fun _ => .bind (.require _ _) fun _ =>
      .ret _) fun _ => .bind (Service.ReadOnly.ofExcept _).writes fun _ =>
        .transaction ((updateStockRow_writes .itemOption _ _ _).mono fun _ => .inr)

theorem CatalogCall.run_nonNegative (call : CatalogCall) {db : Store}
    (h : AmountsNonNegative db) : AmountsNonNegative (call.service.run db).2 := by
  refine call.writes.run (fun db w h hw => h.put fun r _ => ?_) h
  obtain ⟨t, i, row⟩ := w
  rcases hw with hw | hw <;> cases hw <;> exact True.intro

/-! ## Promotions -/

section Promotions

variable {table : CaseTable} {parseDate : String → Option Date}

theorem createRow_nonNegative {payload : CreatePromotionDto} {branchId : Id} {code : String}
    {row : Promotion} (h : createRow parseDate payload branchId code = .ok row) :
    NonNegative .promotion row := by
  simp only [createRow, except_bind_ok] at h
  obtain ⟨startsAt, -, endsAt, -, hrow⟩ := h
  cases hrow
  refine ⟨le_trans (by norm_num) payload.discountValue_min, fun maximum hmaximum => ?_⟩
  have hmin := payload.maximumDiscountAmount_min
  cases hfield : payload.maximumDiscountAmount with
  | undefined => simp [hfield, Field.toOption] at hmaximum
  | null => simp [hfield, Field.toOption] at hmaximum
  | value m =>
    obtain rfl : m = maximum := by simpa [hfield, Field.toOption] using hmaximum
    exact le_trans (by norm_num) (hmin m hfield)

theorem updateData_nonNegative {payload : UpdatePromotionDto} {code : String}
    {data : Promotion → Promotion} (h : updateData parseDate payload code = .ok data)
    {promotion : Promotion} (hpromotion : NonNegative .promotion promotion) :
    NonNegative .promotion (data promotion) := by
  have hcolumns := updateData_columns h promotion
  refine ⟨?_, fun maximum hmaximum => ?_⟩
  · rw [hcolumns.discountValue]
    cases hfield : payload.discountValue with
    | value v => exact le_trans (by norm_num) (payload.discountValue_min v hfield)
    | _ => exact hpromotion.1
  · rw [hcolumns.maximum] at hmaximum
    cases hfield : payload.maximumDiscountAmount with
    | undefined =>
      rw [hfield] at hmaximum
      exact hpromotion.2 maximum hmaximum
    | null =>
      rw [hfield] at hmaximum
      cases hmaximum
    | value m =>
      rw [hfield] at hmaximum
      cases hmaximum
      exact le_trans (by norm_num) (payload.maximumDiscountAmount_min maximum hfield)

theorem createPromotion_maintains (promotionId : Id) {data : Promotion}
    (hdata : NonNegative .promotion data) :
    (createPromotion promotionId data).Maintains AmountsNonNegative fun _ => True := by
  refine .bind (.insertRow fun db h => h.put fun r hr => ?_) fun _ _ => .ret True.intro
  cases hr
  exact hdata

theorem updatePromotion_maintains (promotionId : Id) {data : Promotion → Promotion}
    (hdata : ∀ promotion, NonNegative .promotion promotion →
      NonNegative .promotion (data promotion)) :
    (updatePromotion promotionId data).Maintains AmountsNonNegative fun _ => True := by
  refine .attempt fun db updated ws h hws => ⟨?_, True.intro⟩
  dsimp only at hws
  cases hget : db.get (.promotion, promotionId) with
  | none =>
    rw [hget] at hws
    cases hws
  | some promotion =>
    simp only [hget] at hws
    split at hws
    · cases hws
    · cases hws
      refine h.put fun r hr => ?_
      cases hr
      exact hdata promotion (h .promotion promotionId promotion hget)

theorem Promotions.PromotionCall.maintains (call : PromotionCall) :
    (call.service table parseDate).Maintains AmountsNonNegative fun _ => True := by
  have hcheck : ∀ r : Except Failure Unit,
      (.ofExcept r : StoreService Unit).Maintains AmountsNonNegative fun _ => True := fun r =>
    .ofExcept fun _ _ => True.intro
  have hcode : ∀ r : Except Failure String,
      (.ofExcept r : StoreService String).Maintains AmountsNonNegative fun _ => True := fun r =>
    .ofExcept fun _ _ => True.intro
  cases call with
  | merchantCreate promotionId currentUser branchId payload =>
    exact .bind (.of_readOnly (requireOwnedBranch_readOnly _ _)) fun _ _ =>
      .bind (hcheck _) fun _ _ => .bind (hcheck _) fun _ _ => .bind (hcode _) fun _ _ =>
        .bind (.of_readOnly (assertCodeIsAvailable_readOnly _ _ _ _)) fun _ _ =>
          .bind (.ofExcept fun _ => createRow_nonNegative) fun row hrow =>
            .transaction (createPromotion_maintains _ hrow)
  | merchantUpdate currentUser branchId promotionId payload =>
    exact .bind (.of_readOnly (requireOwnedBranch_readOnly _ _)) fun _ _ =>
      .bind (.of_readOnly (requireBranchPromotion_readOnly _ _)) fun _ _ =>
        .bind (hcode _) fun _ _ => .bind (hcheck _) fun _ _ => .bind (hcheck _) fun _ _ =>
          .bind (.of_readOnly (assertNextCodeIsAvailable_readOnly _ _ _ _ _)) fun _ _ =>
            .bind (.ofExcept fun _ hdata _ => updateData_nonNegative hdata) fun data hdata =>
              .transaction (updatePromotion_maintains _ hdata)
  | merchantDelete currentUser branchId promotionId =>
    exact .bind (.of_readOnly (requireOwnedBranch_readOnly _ _)) fun _ _ =>
      .bind (.of_readOnly (requireBranchPromotion_readOnly _ _)) fun _ _ =>
        .transaction (updatePromotion_maintains _ fun _ hpromotion => hpromotion)
  | adminCreate promotionId branchId payload =>
    exact .bind (hcheck _) fun _ _ => .bind (hcheck _) fun _ _ => .bind (hcode _) fun _ _ =>
      .bind (.of_readOnly (assertCodeIsAvailable_readOnly _ _ _ _)) fun _ _ =>
        .bind (.ofExcept fun _ => createRow_nonNegative) fun row hrow =>
          .transaction (createPromotion_maintains _ hrow)
  | adminUpdate promotionId payload =>
    exact .bind (.of_readOnly (.get _)) fun _ _ => .bind (.of_readOnly (.orFail _ _)) fun _ _ =>
      .bind (hcode _) fun _ _ =>
        .bind (.of_readOnly (assertNextCodeIsAvailable_readOnly _ _ _ _ _)) fun _ _ =>
          .bind (.ofExcept fun _ hdata _ => updateData_nonNegative hdata) fun data hdata =>
            .transaction (updatePromotion_maintains _ hdata)

end Promotions

/-! ## The checkout -/

/-- No amount of a price is negative, and the discount is within the subtotal. -/
structure CheckoutPricingBreakdown.NonNegative (pricing : CheckoutPricingBreakdown) : Prop where
  subtotal : 0 ≤ pricing.subtotalAmount
  discount : 0 ≤ pricing.discountAmount
  within : pricing.discountAmount ≤ pricing.subtotalAmount
  fee : 0 ≤ pricing.deliveryFee
  total : 0 ≤ pricing.totalAmount

section Checkout

variable {round : ℚ → ℚ}

theorem discountOf_nonneg (hround : ∀ x, 0 ≤ x → 0 ≤ round x) {promotion : Promotion}
    (h : NonNegative .promotion promotion) {subtotalAmount : ℚ} (hsubtotal : 0 ≤ subtotalAmount) :
    0 ≤ discountOf round promotion subtotalAmount := by
  rw [discountOf]
  split
  · exact le_rfl
  · refine le_min ?_ hsubtotal
    have huncapped : 0 ≤ (if promotion.discountType = .fixedAmount then promotion.discountValue
        else round (round (subtotalAmount * promotion.discountValue) / 100)) := by
      split
      · exact h.1
      · exact hround _ (div_nonneg (hround _ (mul_nonneg hsubtotal h.1)) (by norm_num))
    split
    · exact huncapped
    · next maximum hmaximum => exact le_min huncapped (h.2 maximum hmaximum)

theorem discountOf_le {promotion : Promotion} {subtotalAmount : ℚ}
    (hsubtotal : 0 ≤ subtotalAmount) :
    discountOf round promotion subtotalAmount ≤ subtotalAmount := by
  rw [discountOf]
  split
  · exact hsubtotal
  · exact min_le_right ..

theorem evaluatePromotion_maintains (hround : ∀ x, 0 ≤ x → 0 ≤ round x) (now : Date) (branchId : Id)
    {subtotalAmount : ℚ} (hsubtotal : 0 ≤ subtotalAmount) (promotionCode : Option String)
    (customerProfileId : Id) :
    (evaluatePromotion round now branchId subtotalAmount promotionCode customerProfileId).Maintains
      AmountsNonNegative fun promotion => ∀ p, promotion = some p →
        0 ≤ p.discountAmount ∧ p.discountAmount ≤ subtotalAmount := by
  rw [evaluatePromotion]
  cases normalizePromotionCode .ascii promotionCode with
  | none => exact .ret fun p hp => by cases hp
  | some code =>
    refine .bind (M := fun found => ∀ p, found = some p → NonNegative .promotion p.2)
      (.get fun db h p hp => ?_) fun found hfound =>
        .bind (M := fun p => NonNegative .promotion p.2) (.orFail fun p hp => ?_) fun p hp => ?_
    · obtain ⟨i, promotion⟩ := p
      exact h .promotion i promotion (Db.mem_list.mp (List.mem_of_head? hp)).1
    · exact hfound p (Option.filter_eq_some_iff.mp hp).1
    · refine .bind (.of_readOnly (.bind (.require _ _) fun _ => .bind (.require _ _) fun _ =>
        .require _ _)) fun _ _ => .bind (.of_readOnly (.get _)) fun _ _ =>
          .bind (.of_readOnly (.require _ _)) fun _ _ => .ret fun p' hp' => ?_
      cases hp'
      exact ⟨discountOf_nonneg hround hp hsubtotal, discountOf_le hsubtotal⟩

theorem buildPricingBreakdown_maintains (hround : ∀ x, 0 ≤ x → 0 ≤ round x) (now : Date)
    (context : CheckoutContext) (hsubtotal : 0 ≤ context.cart.subtotalAmount)
    (promotionCode : Option String) :
    (buildPricingBreakdown round now context promotionCode).Maintains AmountsNonNegative
      CheckoutPricingBreakdown.NonNegative := by
  refine .bind (evaluatePromotion_maintains hround now _ hsubtotal _ _) fun promotion hpromotion =>
    .ret ?_
  have hdiscount : 0 ≤ (promotion.map (·.discountAmount)).getD 0 ∧
      (promotion.map (·.discountAmount)).getD 0 ≤ context.cart.subtotalAmount := by
    cases promotion with
    | none => exact ⟨le_rfl, hsubtotal⟩
    | some p => exact hpromotion p rfl
  have hfee : (0 : ℚ) ≤ if context.address = none ∨
      promotion.any (·.deliveryFeeWaived) = true then 0 else 1500 := by
    split <;> norm_num
  exact ⟨hsubtotal, hdiscount.1, hdiscount.2, hfee,
    hround _ (add_nonneg (hround _ (sub_nonneg.mpr hdiscount.2)) hfee)⟩

theorem getOwnedActiveCartAggregateOrEmpty_nonneg {db : Store} (h : AmountsNonNegative db)
    (userId branchId : Id) :
    0 ≤ (getOwnedActiveCartAggregateOrEmpty db userId branchId).subtotalAmount := by
  rw [getOwnedActiveCartAggregateOrEmpty]
  cases hcart : (findActiveCartByUserIdAndBranchId db userId branchId).bind fun cart =>
      findCartAggregateById db cart.1 with
  | none => exact le_refl (0 : ℚ)
  | some aggregate =>
    obtain ⟨⟨cartId, _⟩, -, haggregate⟩ := Option.bind_eq_some_iff.mp hcart
    simp only [findCartAggregateById, Option.bind_eq_bind, Option.bind_eq_some_iff, Option.pure_def,
      Option.some.injEq] at haggregate
    obtain ⟨cart, hget, items, -, rfl⟩ := haggregate
    exact h .cart cartId cart hget

theorem getValidatedCurrentCustomerCheckoutContext_maintains (currentUser : AuthenticatedUser)
    (input : SubmitCheckoutInput) :
    (getValidatedCurrentCustomerCheckoutContext currentUser input).Maintains AmountsNonNegative
      fun context => 0 ≤ context.1.cart.subtotalAmount := by
  refine .bind (.of_readOnly (resolveCheckoutParties_readOnly _ _)) fun parties _ =>
    .bind (M := fun cart => 0 ≤ cart.subtotalAmount)
      (.get fun db h => getOwnedActiveCartAggregateOrEmpty_nonneg h _ _) fun cart hcart =>
        .bind (.of_readOnly ?_) fun cartId _ => .ret hcart
  exact .bind (.bind (.require _ _) fun _ => .require _ _) fun _ => .bind (.orFail _ _) fun _ =>
    .bind (.require _ _) fun _ => .bind (checkCartItems_readOnly _) fun _ => .ret _

theorem createCheckoutPaymentIntent_maintains (paymentId orderId customerProfileId : Id)
    {amount : ℚ} (hamount : 0 ≤ amount) (input : SubmitCheckoutInput) :
    (createCheckoutPaymentIntent paymentId orderId customerProfileId amount input).Maintains
      AmountsNonNegative fun _ => True := by
  refine .bind (M := fun _ => True) (.ofExcept fun _ _ => True.intro) fun profile _ =>
    .bind (.insertRow fun db h => h.put fun r hr => ?_) fun _ _ => .ret True.intro
  cases hr
  exact hamount

/-- Writes to tables without amounts. -/
theorem maintains_of_tables {α : Type} {p : StoreTx α} {P : Write Row → Prop} (hp : p.Writes P)
    (hP : ∀ w, P w → w.table ≠ .cartItem ∧ w.table ≠ .cart ∧ w.table ≠ .promotion ∧
      w.table ≠ .order ∧ w.table ≠ .payment) :
    p.Maintains AmountsNonNegative fun _ => True := by
  refine .of_writes hp fun db w h hw => h.put fun r _ => ?_
  obtain ⟨t, i, row⟩ := w
  have htable := hP _ hw
  cases t <;> first | exact True.intro | simp at htable

theorem placeOrder_maintains (hround : ∀ x, 0 ≤ x → 0 ≤ round x) (ids : CheckoutIds)
    (input : SubmitCheckoutInput) (context : CheckoutContext) (cartId : Id)
    {pricing : CheckoutPricingBreakdown} (hpricing : pricing.NonNegative) :
    (placeOrder round ids input context cartId pricing).Maintains AmountsNonNegative
      fun _ => True := by
  refine .bind (M := fun _ => True) (.check fun _ _ _ _ => True.intro) fun lines _ =>
    .bind (maintains_of_tables (reserveLines_writes _ _) fun w hw => ?_) fun reserved _ =>
      .bind (.insertRow fun db h => h.put fun r hr => ?_) fun _ _ =>
        .bind (createCheckoutPaymentIntent_maintains _ _ _ hpricing.total _) fun _ _ =>
          .bind (.updateExisting fun db cart h hget => h.put fun r hr => ?_) fun _ _ =>
            .bind (maintains_of_tables (createAppliedUsage_writes _ _ _) fun w hw => by simp [hw])
              fun _ _ => .ret True.intro
  · simp only [StockWrite, stockTables, List.mem_cons, List.not_mem_nil, or_false] at hw
    rcases hw with hw | hw | hw | hw <;> simp [hw]
  · cases hr
    refine ⟨hpricing.subtotal, hpricing.discount, ?_, ?_⟩
    · change 0 ≤ if input.deliveryType = some .pickup then 0 else pricing.deliveryFee
      split
      · exact le_refl (0 : ℚ)
      · exact hpricing.fee
    · change 0 ≤ if input.deliveryType = some .pickup then _ else pricing.totalAmount
      split
      · exact hround _ (sub_nonneg.mpr hpricing.within)
      · exact hpricing.total
  · cases hr
    exact h .cart cartId cart hget

/-- The order's total, of an order that was placed before. -/
theorem findByIdempotencyKey_nonneg {db : Store} (h : AmountsNonNegative db) {key : String}
    {existing : Id × Order} (hexisting : findByIdempotencyKey db key = some existing) :
    0 ≤ existing.2.totalAmount :=
  (h .order existing.1 existing.2 (Db.mem_list.mp (List.mem_of_head? hexisting)).1).2.2.2

theorem submitOrder_maintains (hround : ∀ x, 0 ≤ x → 0 ≤ round x) (ids : CheckoutIds)
    (currentUser : AuthenticatedUser) (input : SubmitCheckoutInput) (context : CheckoutContext)
    (cartId : Id) {pricing : CheckoutPricingBreakdown} (hpricing : pricing.NonNegative) :
    (submitOrder round ids currentUser input context cartId pricing).Maintains AmountsNonNegative
      fun _ => True := by
  refine .bind (M := fun existing => ∀ e : Id × Order, existing = some e → 0 ≤ e.2.totalAmount)
    (.read fun db h e he => findByIdempotencyKey_nonneg h he) fun existing hexisting => ?_
  cases existing with
  | none => exact placeOrder_maintains hround ids input context cartId hpricing
  | some existing =>
    refine .bind (M := fun _ => True) (.ofExcept fun _ _ => True.intro) fun _ _ =>
      .bind (M := fun _ => True) (.bind (M := fun _ => True) (.read fun _ _ => True.intro)
        fun found _ => ?_) fun _ _ => .ret True.intro
    cases found with
    | some payment => exact .ret True.intro
    | none => exact createCheckoutPaymentIntent_maintains _ _ _ (hexisting existing rfl) _

theorem tryResolveReplayAfterUniqueConstraint_maintains (ids : CheckoutIds)
    (input : SubmitCheckoutInput) (context : CheckoutContext) (error : Failure) :
    (tryResolveReplayAfterUniqueConstraint ids input context error).Maintains AmountsNonNegative
      fun _ => True := by
  rw [tryResolveReplayAfterUniqueConstraint]
  split
  · exact .throw error
  · refine .bind (M := fun existing => ∀ e : Id × Order, existing = some e → 0 ≤ e.2.totalAmount)
      (.get fun db h e he => findByIdempotencyKey_nonneg h he) fun existing hexisting =>
        .bind (M := fun e => 0 ≤ e.2.totalAmount) (.orFail hexisting) fun existing htotal =>
          .bind (M := fun _ => True) (.ofExcept fun _ _ => True.intro) fun _ _ =>
            .bind (.of_readOnly (.get _)) fun found _ => ?_
    cases found with
    | some payment => exact .ret True.intro
    | none =>
      exact .bind (.transaction (createCheckoutPaymentIntent_maintains _ _ _ htotal _))
        fun _ _ => .ret True.intro

theorem SubmitCall.maintains (hround : ∀ x, 0 ≤ x → 0 ≤ round x) (call : SubmitCall) :
    (call.service round).Maintains AmountsNonNegative fun _ => True := by
  refine .bind (getValidatedCurrentCustomerCheckoutContext_maintains _ _) fun context hcontext =>
    .bind (buildPricingBreakdown_maintains hround _ _ hcontext _) fun pricing hpricing =>
      .tx (submitOrder_maintains hround _ _ _ _ _ hpricing) (fun _ _ => .ret True.intro)
        fun error => tryResolveReplayAfterUniqueConstraint_maintains _ _ _ error

end Checkout

/-! ## Every operation -/

/-- The operations that set prices and make amounts of them. -/
inductive MoneyCall
  | catalog (call : CatalogCall)
  | cart (call : CartCall)
  | promotion (call : PromotionCall)
  | checkout (call : SubmitCall)

section Runs

variable (round : ℚ → ℚ) (table : CaseTable) (parseDate : String → Option Date)

def MoneyCall.run : MoneyCall → Store → Store
  | catalog call, db => (call.service.run db).2
  | cart call, db => ((call.service round).run db).2
  | promotion call, db => call.run table parseDate db
  | checkout call, db => ((call.service round).run db).2

/-- If the call prices a line of a cart, then not below zero. -/
def MoneyCall.PricesNonNegative : MoneyCall → Store → Prop
  | cart call, db => call.PricesNonNegative round db
  | _, _ => True

variable {round table parseDate}

theorem MoneyCall.run_nonNegative (hround : ∀ x, 0 ≤ x → 0 ≤ round x) (call : MoneyCall)
    {db : Store} (h : AmountsNonNegative db) (hprices : call.PricesNonNegative round db) :
    AmountsNonNegative (call.run round table parseDate db) := by
  cases call with
  | catalog call => exact call.run_nonNegative h
  | cart call => exact (call.ends hround h hprices).run
  | promotion call => exact call.maintains.run h
  | checkout call => exact (call.maintains hround).run h

/-- **Money is never negative** in any state of a run in which no line of a cart is priced below
zero. -/
theorem money_nonNegative (hround : ∀ x, 0 ≤ x → 0 ≤ round x) {db : Store}
    (h : AmountsNonNegative db) (calls : List MoneyCall)
    (hprices : MeetAll (MoneyCall.run round table parseDate)
      (MoneyCall.PricesNonNegative round) calls db) :
    Always (MoneyCall.run round table parseDate) MoneyNonNegative calls db := by
  have hdom : MeetAll (MoneyCall.run round table parseDate) (fun _ _ => True) calls db :=
    .of_forall (fun _ _ => True.intro) calls db
  have hkept := always_of_meetAll (J := fun _ => True) (fun _ _ _ _ => True.intro)
    (fun call db _ _ h hok => call.run_nonNegative hround h hok) calls True.intro h hdom hprices
  exact hkept.mono (fun db h => h.money) calls

/-- The merchant sets the price of the tea, and the customer adds a cup to the cart. -/
def priceAndAdd (basePrice : ℚ) : List MoneyCall := [
  .catalog (.updateItem (fun _ => .ok ()) teaMerchant 1 1 { basePrice := some basePrice }),
  .cart (.add ⟨2, 1, [], 0⟩ teaCustomer 1 1 1 [])]

theorem amountsNonNegative_cartShop : AmountsNonNegative cartShop := by
  intro t i r hget
  have hall : (∀ cart ∈ cartShop.list .cart fun _ => true, 0 ≤ cart.2.subtotalAmount) ∧
      (∀ o ∈ cartShop.list .order fun _ => true,
        0 ≤ o.2.subtotalAmount ∧ 0 ≤ o.2.discountAmount ∧ 0 ≤ o.2.deliveryFee ∧
          0 ≤ o.2.totalAmount) ∧
      cartShop.list .cartItem (fun _ => true) = [] ∧
      cartShop.list .promotion (fun _ => true) = [] ∧
      cartShop.list .payment (fun _ => true) = [] := by decide
  obtain ⟨hcarts, horders, hlines, hpromotions, hpayments⟩ := hall
  have hmem : (i, r) ∈ cartShop.list t fun _ => true := Db.mem_list.mpr ⟨hget, rfl⟩
  cases t with
  | cart => exact hcarts _ hmem
  | order => exact horders _ hmem
  | cartItem => exact absurd (hlines ▸ hmem) List.not_mem_nil
  | promotion => exact absurd (hpromotions ▸ hmem) List.not_mem_nil
  | payment => exact absurd (hpayments ▸ hmem) List.not_mem_nil
  | _ => exact True.intro

/-- A price of -5 is accepted, and the line costs -5. -/
theorem negative_price : ¬ Always (MoneyCall.run id .ascii fun _ => none) MoneyNonNegative
    (priceAndAdd (-5)) cartShop := by
  rintro ⟨-, -, hmoney⟩
  have hline : ((runAll (MoneyCall.run id .ascii fun _ => none) (priceAndAdd (-5)) cartShop).get
      (.cartItem, 1)).map (·.lineTotal) = some (-5) := by decide +kernel
  obtain ⟨item, hget, htotal⟩ := Option.map_eq_some_iff.mp hline
  have hnonneg := hmoney.lines 1 item hget
  rw [htotal] at hnonneg
  exact absurd hnonneg (by decide)

theorem money_nonNegative_cartShop :
    Always (MoneyCall.run id .ascii fun _ => none) MoneyNonNegative (priceAndAdd 5) cartShop := by
  refine money_nonNegative (fun _ h => h) amountsNonNegative_cartShop _
    ⟨True.intro, fun _ menuItem selected hfound _ _ hselected => ?_, True.intro⟩
  have hprice : ∀ found ∈ findItemById ((priceAndAdd 5).head?.elim cartShop fun call =>
      call.run id .ascii (fun _ => none) cartShop) 1, found.item.basePrice = 5 := by decide
  have hnone : selected = [] := by
    have hcomputed : resolveSelectedOptionsForMenuItem ((priceAndAdd 5).head?.elim cartShop
      fun call => call.run id .ascii (fun _ => none) cartShop) 1 [] 1 = .ok [] := by decide
    have hid : menuItem.id = 1 := by
      simp only [findItemById, Option.bind_eq_bind, Option.bind_eq_some_iff, Option.pure_def,
        Option.some.injEq] at hfound
      obtain ⟨_, _, _, _, _, _, rfl⟩ := hfound
      rfl
    rw [hid] at hselected
    exact Except.ok.inj (hselected.symm.trans hcomputed)
  rw [hnone, hprice menuItem hfound]
  decide

end Runs

end WerTe
