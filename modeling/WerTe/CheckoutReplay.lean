import WerTe.Checkout
import WerTe.ReadCommitted.Frame
import WerTe.ReadCommitted.Sequential
import WerTe.StockRelease

/-!
# Submitting a checkout again

A submission stores its order and its payment under the request's idempotency key, and a later
one with that key looks them up. The lookup comes last: before it the customer's cart is read,
checked and priced, and the cart that was ordered is no longer an active one.
-/

namespace WerTe

open ReadCommitted MenusRepository CartsRepository CheckoutContextService CheckoutValidation CheckoutPricing

/-! ## When a checkout can be made -/

/-- The promotion of the code, if one is given, can be had by the customer now. -/
def PromotionApplies (db : Store) (now : Date) (branchId customerProfileId : Id)
    (subtotalAmount : ℚ) (promotionCode : Option String) : Prop :=
  ∀ code, normalizePromotionCode .ascii promotionCode = some code →
    ∃ promotionId promotion,
      findPromotionByBranchIdAndCode db branchId code = some (promotionId, promotion) ∧
      promotion.isActive = true ∧ promotion.startsAt.all (· ≤ now) = true ∧
      promotion.endsAt.all (now ≤ ·) = true ∧ promotion.minimumSubtotalAmount ≤ subtotalAmount ∧
      promotion.perCustomerLimit.all (fun limit =>
        (countCustomerUsage db promotionId customerProfileId : ℤ) < limit) = true

/-- What a customer needs to check out, beside an address and a branch that takes orders: an
active cart at the branch, whose lines can still be had, as can the promotion. -/
structure CartCanBeOrdered (db : Store) (now : Date) (currentUser : AuthenticatedUser)
    (input : SubmitCheckoutInput) (customerProfileId : Id) : Prop where
  /-- the cart is there, and has lines -/
  lines : (getOwnedActiveCartAggregateOrEmpty db currentUser.userId input.branchId).items ≠ []
  /-- each of them is to be had -/
  available : ∀ item ∈
    (getOwnedActiveCartAggregateOrEmpty db currentUser.userId input.branchId).items,
      item.menuItem.isAvailable = true ∧ checkCartItem db item = .ok ()
  /-- and so is the promotion -/
  promotion : PromotionApplies db now input.branchId customerProfileId
    (getOwnedActiveCartAggregateOrEmpty db currentUser.userId input.branchId).subtotalAmount
    input.promotionCode

/-! ## The steps before the transaction -/

section Reads

variable {db db' : Store}

theorem findCartAggregateById_some {cartId : Id} {cart : CartAggregate}
    (h : findCartAggregateById db cartId = some cart) :
    cart.cartId = some cartId ∧ ∃ row, db.get (.cart, cartId) = some row ∧
      cart.branchId = row.branchId := by
  simp only [findCartAggregateById, Option.bind_eq_bind, Option.bind_eq_some_iff,
    Option.pure_def, Option.some.injEq] at h
  obtain ⟨row, hrow, items, -, rfl⟩ := h
  exact ⟨rfl, row, hrow, rfl⟩

/-- A cart with lines is one of the customer's at the branch. -/
theorem activeCart_some {userId branchId : Id}
    (h : (getOwnedActiveCartAggregateOrEmpty db userId branchId).items ≠ []) :
    (getOwnedActiveCartAggregateOrEmpty db userId branchId).branchId = branchId ∧
      ∃ cartId row, (getOwnedActiveCartAggregateOrEmpty db userId branchId).cartId = some cartId ∧
        db.get (.cart, cartId) = some row ∧ row.status = .active := by
  rw [getOwnedActiveCartAggregateOrEmpty] at h ⊢
  cases hfind : findActiveCartByUserIdAndBranchId db userId branchId with
  | none =>
    rw [hfind] at h
    exact absurd rfl h
  | some found =>
    rw [hfind, Option.bind_some] at h
    rw [Option.bind_some]
    cases hcart : findCartAggregateById db found.1 with
    | none =>
      rw [hcart] at h
      exact absurd rfl h
    | some cart =>
      obtain ⟨hid, row, hrow, hbranch⟩ := findCartAggregateById_some hcart
      have hmem : (found.1, found.2) ∈ _ := List.mem_of_head? hfind
      obtain ⟨hget, hactive⟩ := Db.mem_list.mp hmem
      obtain rfl := Option.some.inj (hrow.symm.trans hget)
      simp only [Bool.and_eq_true, beq_iff_eq] at hactive
      exact ⟨hbranch.trans hactive.1.1, found.1, found.2, hid, hget, hactive.1.2⟩

theorem checkCartItems_run_ok (items : List CartAggregateItem) {u : Unit} :
    (checkCartItems items).run db = (.ok u, db') ↔ db' = db ∧ ∀ item ∈ items,
      item.menuItem.isAvailable = true ∧ checkCartItem db item = .ok () := by
  induction items with
  | nil => simp [checkCartItems, Service.run_ret_ok]
  | cons item items ih =>
    simp only [checkCartItems, Service.bind_eq, Service.run_bind_ok, Service.run_require_ok,
      Service.run_get_ok, Service.run_ofExcept_ok, List.forall_mem_cons]
    constructor
    · rintro ⟨_, _, ⟨havailable, rfl⟩, _, _, ⟨rfl, rfl⟩, _, _, ⟨hchecked, rfl⟩, hrest⟩
      obtain ⟨hdb, hitems⟩ := ih.mp hrest
      exact ⟨hdb, ⟨havailable, hchecked⟩, hitems⟩
    · rintro ⟨hdb, ⟨havailable, hchecked⟩, hitems⟩
      exact ⟨(), _, ⟨havailable, rfl⟩, _, _, ⟨rfl, rfl⟩, (), _, ⟨hchecked, rfl⟩,
        ih.mpr ⟨hdb, hitems⟩⟩

theorem assertCartReadyForCheckout_run_ok {branchId cartId : Id} {branch : Branch}
    {merchant : Merchant} {cart : CartAggregate} :
    (assertCartReadyForCheckout branchId branch merchant cart).run db = (.ok cartId, db') ↔
      db' = db ∧ (branch.status = .active ∧ merchant.status = .active) ∧ cart.items ≠ [] ∧
        cart.cartId = some cartId ∧ cart.branchId = branchId ∧ ∀ item ∈ cart.items,
          item.menuItem.isAvailable = true ∧ checkCartItem db item = .ok () := by
  simp only [assertCartReadyForCheckout, assertBranchIsOrderable, Service.bind_eq,
    Service.pure_eq, Service.run_bind_ok, Service.run_require_ok, Service.run_orFail_ok,
    checkCartItems_run_ok, Service.run_ret_ok, ite_eq_iff, reduceCtorEq, and_false, false_or]
  constructor
  · rintro ⟨_, _, ⟨_, _, ⟨hbranch, rfl⟩, hmerchant, rfl⟩, _, _, ⟨⟨hlines, hid⟩, rfl⟩, _, _,
      ⟨hof, rfl⟩, _, _, ⟨rfl, hitems⟩, rfl, rfl⟩
    exact ⟨rfl, ⟨hbranch, hmerchant⟩, hlines, hid, hof, hitems⟩
  · rintro ⟨rfl, ⟨hbranch, hmerchant⟩, hlines, hid, hof, hitems⟩
    exact ⟨(), _, ⟨(), _, ⟨hbranch, rfl⟩, hmerchant, rfl⟩, _, _, ⟨⟨hlines, hid⟩, rfl⟩, (), _,
      ⟨hof, rfl⟩, (), _, ⟨rfl, hitems⟩, rfl, rfl⟩

theorem getValidatedCurrentCustomerCheckoutContext_run_ok {currentUser : AuthenticatedUser}
    {input : SubmitCheckoutInput} {context : CheckoutContext} {cartId : Id} :
    (getValidatedCurrentCustomerCheckoutContext currentUser input).run db =
        (.ok (context, cartId), db') ↔
      ∃ parties db₁, (resolveCheckoutParties currentUser input).run db = (.ok parties, db₁) ∧
        (assertCartReadyForCheckout input.branchId parties.branch parties.merchant
          (getOwnedActiveCartAggregateOrEmpty db₁ currentUser.userId input.branchId)).run db₁ =
            (.ok cartId, db') ∧
        context = ⟨parties.customer, parties.address, input.branchId,
          getOwnedActiveCartAggregateOrEmpty db₁ currentUser.userId input.branchId⟩ := by
  simp only [getValidatedCurrentCustomerCheckoutContext, Service.bind_eq, Service.pure_eq,
    Service.run_bind_ok, Service.run_get_ok, Service.run_ret_ok, Prod.mk.injEq]
  constructor
  · rintro ⟨parties, db₁, hparties, _, _, ⟨rfl, rfl⟩, _, _, hready, ⟨rfl, rfl⟩, rfl⟩
    exact ⟨parties, _, hparties, hready, rfl⟩
  · rintro ⟨parties, db₁, hparties, hready, rfl⟩
    exact ⟨parties, db₁, hparties, _, _, ⟨rfl, rfl⟩, _, _, hready, ⟨rfl, rfl⟩, rfl⟩

theorem checkPromotion_run_ok {now : Date} {subtotalAmount : ℚ} {promotionId : Id}
    {promotion : Promotion} {u : Unit} :
    (checkPromotion now subtotalAmount promotionId promotion).run db = (.ok u, db') ↔
      db' = db ∧ promotion.startsAt.all (· ≤ now) = true ∧
        promotion.endsAt.all (now ≤ ·) = true ∧
          promotion.minimumSubtotalAmount ≤ subtotalAmount := by
  simp only [checkPromotion, Service.bind_eq, Service.run_bind_ok, Service.run_require_ok]
  constructor
  · rintro ⟨_, _, ⟨hstart, rfl⟩, _, _, ⟨hend, rfl⟩, hminimum, rfl⟩
    exact ⟨rfl, hstart, hend, hminimum⟩
  · rintro ⟨rfl, hstart, hend, hminimum⟩
    exact ⟨(), _, ⟨hstart, rfl⟩, (), _, ⟨hend, rfl⟩, hminimum, rfl⟩

/-- A checkout is priced exactly when the promotion applies. -/
theorem buildPricingBreakdown_run_ok {round : ℚ → ℚ} {now : Date} {context : CheckoutContext}
    {promotionCode : Option String} :
    (∃ pricing, (buildPricingBreakdown round now context promotionCode).run db =
        (.ok pricing, db')) ↔
      db' = db ∧ PromotionApplies db now context.branchId context.customer.id
        context.cart.subtotalAmount promotionCode := by
  have hprice : (∃ pricing, (buildPricingBreakdown round now context promotionCode).run db =
      (.ok pricing, db')) ↔ ∃ promotion, (evaluatePromotion round now context.branchId
        context.cart.subtotalAmount promotionCode context.customer.id).run db =
          (.ok promotion, db') := by
    simp only [buildPricingBreakdown, Service.bind_eq, Service.pure_eq, Service.run_bind_ok,
      Service.run_ret_ok]
    constructor
    · rintro ⟨_, promotion, _, h, rfl, rfl⟩
      exact ⟨promotion, h⟩
    · rintro ⟨promotion, h⟩
      exact ⟨_, promotion, _, h, rfl, rfl⟩
  rw [hprice, evaluatePromotion, PromotionApplies]
  cases normalizePromotionCode .ascii promotionCode with
  | none => simp [Service.run_ret_ok]
  | some code =>
    simp only [Service.bind_eq, Service.pure_eq, Service.run_bind_ok, Service.run_get_ok,
      Service.run_orFail_ok, Service.run_require_ok, Service.run_ret_ok, checkPromotion_run_ok,
      Option.filter_eq_some_iff]
    constructor
    · rintro ⟨_, _, _, ⟨rfl, rfl⟩, ⟨promotionId, promotion⟩, _, ⟨⟨hfind, hactive⟩, rfl⟩, _, _,
        ⟨rfl, hstart, hend, hminimum⟩, _, _, ⟨rfl, rfl⟩, _, _, ⟨hlimit, rfl⟩, rfl, rfl⟩
      refine ⟨rfl, fun code' hcode => ?_⟩
      obtain rfl := Option.some.inj hcode
      exact ⟨promotionId, promotion, hfind, hactive, hstart, hend, hminimum, hlimit⟩
    · rintro ⟨rfl, happlies⟩
      obtain ⟨promotionId, promotion, hfind, hactive, hstart, hend, hminimum, hlimit⟩ :=
        happlies code rfl
      exact ⟨_, _, _, ⟨rfl, rfl⟩, (promotionId, promotion), _, ⟨⟨hfind, hactive⟩, rfl⟩, (), _,
        ⟨rfl, hstart, hend, hminimum⟩, _, _, ⟨rfl, rfl⟩, (), _, ⟨hlimit, rfl⟩, rfl, rfl⟩

end Reads

/-! ## What the transaction writes -/

section Writes

theorem reserveFromLots_writes (menuItemId : Id) (lots : List (Id × MenuItemInventoryLot)) :
    ∀ quantity, (reserveFromLots menuItemId lots quantity).Writes StockWrite := by
  induction lots with
  | nil => exact fun _ => .ret []
  | cons lot lots ih =>
    intro quantity
    rw [reserveFromLots]
    split
    · exact .ret []
    · exact .bind (.updateRow fun _ => by simp [StockWrite, stockTables]) fun _ =>
        .bind (.require _ _) fun _ => .bind (ih _) fun _ => .ret _

theorem decrementTrackedStock_writes (t : StockTable) (id : Id) (quantity : ℤ) :
    (decrementTrackedStock t id quantity).Writes StockWrite :=
  .updateRow fun _ => by cases t <;> simp [StockWrite, stockTables]

theorem reserveItem_writes (line : MenuInventoryOrderLineInput)
    (result : MenuInventoryReservationResult) : (reserveItem line result).Writes StockWrite := by
  unfold reserveItem
  split
  · refine .bind .read fun _ => .bind .read fun _ => .bind ?_ fun _ =>
      .bind (decrementTrackedStock_writes _ _ _) fun _ => .bind (.require _ _) fun _ =>
        .bind .read fun _ => .ret _
    split
    · exact .bind .read fun _ => .bind (.require _ _) fun _ => reserveFromLots_writes _ _ _
    · exact .ret []
  · exact .ret _

theorem reserveVariant_writes (line : MenuInventoryOrderLineInput) :
    (reserveVariant line).Writes StockWrite := by
  unfold reserveVariant
  split
  · exact .ret ()
  · exact .bind (decrementTrackedStock_writes _ _ _) fun _ => .require _ _

theorem reserveOptions_writes (quantity : ℤ) (optionIds : List Id) :
    ∀ result, (reserveOptions quantity optionIds result).Writes StockWrite := by
  induction optionIds with
  | nil => exact fun result => .ret result
  | cons optionId optionIds ih =>
    exact fun _ => .bind .read fun _ => .bind (decrementTrackedStock_writes _ _ _) fun _ =>
      .bind (.require _ _) fun _ => .bind .read fun _ => ih _

/-- A reservation writes stock. -/
theorem reserveLines_writes (lines : List MenuInventoryOrderLineInput) :
    ∀ result, (reserveLines lines result).Writes StockWrite := by
  induction lines with
  | nil => exact fun result => .ret result
  | cons line lines ih =>
    exact fun _ => .bind (reserveItem_writes _ _) fun _ => .bind (reserveVariant_writes _) fun _ =>
      .bind (reserveOptions_writes _ _ _) fun _ => ih _

theorem createCheckoutPaymentIntent_writes (paymentId orderId customerProfileId : Id) (amount : ℚ)
    (input : SubmitCheckoutInput) :
    (createCheckoutPaymentIntent paymentId orderId customerProfileId amount input).Writes
      fun w => w.table = .payment :=
  .bind (.ofExcept _) fun _ => .bind (.insertRow rfl) fun _ => .ret _

theorem resolveExistingOrCreatePaymentIntent_writes (ids : CheckoutIds)
    (input : SubmitCheckoutInput) (existing : Id × Order) :
    (resolveExistingOrCreatePaymentIntent ids input existing).Writes
      fun w => w.table = .payment := by
  refine .bind .read fun found => ?_
  cases found with
  | some payment => exact .ret _
  | none => exact createCheckoutPaymentIntent_writes ..

theorem updateCart_writes (cartId : Id) (data : Cart → Cart) :
    (updateCart cartId data).Writes fun w => w.table = .cart := .updateExisting fun _ => rfl

theorem createAppliedUsage_writes (ids : CheckoutIds) (customerProfileId : Id)
    (appliedPromotion : Option PromotionPricingEvaluation) :
    (createAppliedUsage ids customerProfileId appliedPromotion).Writes
      fun w => w.table = .promotionUsage := by
  cases appliedPromotion with
  | none => exact .ret ()
  | some promotion => exact .insertRow rfl

end Writes

/-! ## What a submission leaves behind -/

/-- The tables in which a checkout finds out who orders, from where and to where. -/
def IsPartyTable (t : Tbl) : Prop :=
  t = .user ∨ t = .customerProfile ∨ t = .customerAddress ∨ t = .branch ∨ t = .merchant

/-- The submission's order and payment are stored under its key. -/
structure StoredUnder (db : Store) (idempotencyKey : String) (customerProfileId : Id)
    (submission : CheckoutSubmission) : Prop where
  order : findByIdempotencyKey db idempotencyKey = some (submission.orderId, submission.order)
  payment : findCheckoutPaymentIntentByIdempotencyKey db idempotencyKey =
    some submission.paymentIntent
  customer : submission.order.customerProfileId = customerProfileId

section Transaction

variable {db db' : Store} {round : ℚ → ℚ} {ids : CheckoutIds} {input : SubmitCheckoutInput}
  {currentUser : AuthenticatedUser} {context : CheckoutContext} {submission : CheckoutSubmission}

theorem findByIdempotencyKey_congr {key : String}
    (h : Db.SameOn (fun t => t = .order ∨ t = .payment) db db') :
    findByIdempotencyKey db key = findByIdempotencyKey db' key := by
  rw [findByIdempotencyKey, h.list (.inl rfl), findByIdempotencyKey]

theorem findCheckoutPaymentIntentByIdempotencyKey_congr {key : String}
    (h : Db.SameOn (fun t => t = .order ∨ t = .payment) db db') :
    findCheckoutPaymentIntentByIdempotencyKey db key =
      findCheckoutPaymentIntentByIdempotencyKey db' key := by
  rw [findCheckoutPaymentIntentByIdempotencyKey, h.list (.inr rfl),
    findCheckoutPaymentIntentByIdempotencyKey]

theorem createCheckoutPaymentIntent_run_ok {paymentId orderId customerProfileId : Id} {amount : ℚ}
    {payment : Id × Payment} (h : (createCheckoutPaymentIntent paymentId orderId customerProfileId
      amount input).run db = .ok (payment, db')) :
    findCheckoutPaymentIntentByIdempotencyKey db' input.idempotencyKey = some payment ∧
      Db.SameOn (· ≠ .payment) db db' := by
  obtain ⟨profile, db₁, hprofile, h₁⟩ := Tx.run_bind_ok h
  obtain ⟨_, db₂, hinsert, h₂⟩ := Tx.run_bind_ok h₁
  cases h₂
  obtain ⟨-, rfl⟩ := Tx.run_ofExcept_ok hprofile
  obtain ⟨-, rfl⟩ := Tx.run_insertRow_ok hinsert
  refine ⟨Db.list_put_head _ ?_, fun t ht => (Db.rows_put_ne _ ht).symm⟩
  simp [CheckoutPaymentProfile.payment]

theorem resolveExistingOrCreatePaymentIntent_run_ok {existing : Id × Order}
    {payment : Id × Payment}
    (h : (resolveExistingOrCreatePaymentIntent ids input existing).run db = .ok (payment, db')) :
    findCheckoutPaymentIntentByIdempotencyKey db' input.idempotencyKey = some payment ∧
      Db.SameOn (· ≠ .payment) db db' := by
  replace h := Tx.run_read_bind_ok h
  cases hfound : findCheckoutPaymentIntentByIdempotencyKey db input.idempotencyKey with
  | some found =>
    rw [hfound] at h
    cases h
    exact ⟨hfound, .refl _⟩
  | none =>
    rw [hfound] at h
    exact createCheckoutPaymentIntent_run_ok h

/-- A new order is stored with its payment, and with neither another's key. -/
theorem placeOrder_run_ok {cartId : Id} {pricing : CheckoutPricingBreakdown}
    (h : (placeOrder round ids input context cartId pricing).run db = .ok (submission, db')) :
    StoredUnder db' input.idempotencyKey context.customer.id submission ∧
      Db.SameOn IsPartyTable db db' := by
  obtain ⟨lines, db₀, hlines, h₀⟩ := Tx.run_bind_ok h
  obtain ⟨reserved, db₁, hreserve, h₁⟩ := Tx.run_bind_ok h₀
  obtain ⟨_, dbₒ, hinsert, hₒ⟩ := Tx.run_bind_ok h₁
  obtain ⟨payment, db₂, hcreate, h₂⟩ := Tx.run_bind_ok hₒ
  obtain ⟨_, db₃, hcart, h₃⟩ := Tx.run_bind_ok h₂
  obtain ⟨_, db₄, husage, h₄⟩ := Tx.run_bind_ok h₃
  cases h₄
  obtain ⟨-, rfl⟩ := Tx.run_check_ok hlines
  obtain ⟨-, rfl⟩ := Tx.run_insertRow_ok hinsert
  obtain ⟨hpayment, hsame⟩ := createCheckoutPaymentIntent_run_ok hcreate
  have hstock : Db.SameOn IsPartyTable _ db₁ :=
    ((reserveLines_writes _ _).mono fun w hw ht => by
      simp only [StockWrite, stockTables, List.mem_cons, List.not_mem_nil, or_false] at hw
      rcases hw with hw | hw | hw | hw <;> simp [hw, IsPartyTable] at ht).sameOn hreserve
  have hcart' : Db.SameOn (· ≠ .cart) db₂ db₃ := (updateCart_writes _ _).sameOn_ne hcart
  have husage' : Db.SameOn (· ≠ .promotionUsage) db₃ _ :=
    (createAppliedUsage_writes _ _ _).sameOn_ne husage
  have hlast : Db.SameOn (fun t => t = .order ∨ t = .payment) db₂ _ := fun t ht =>
    (hcart' t (by rcases ht with rfl | rfl <;> simp)).trans
      (husage' t (by rcases ht with rfl | rfl <;> simp))
  refine ⟨⟨?_, ?_, rfl⟩, fun t ht => ?_⟩
  · rw [← findByIdempotencyKey_congr hlast, findByIdempotencyKey,
      ← hsame.list (by simp), Db.list_put_head _ (by simp [checkoutOrder])]
  · rw [← findCheckoutPaymentIntentByIdempotencyKey_congr hlast, hpayment]
  · have horder : (db₁.put ⟨.order, ids.orderId, some (checkoutOrder round ids input context cartId
        pricing (lines.map (·.orderItem reserved.inventoryLotAllocationsByLineKey)))⟩).rows t =
          db₁.rows t := Db.rows_put_ne _ (by rcases ht with rfl | rfl | rfl | rfl | rfl <;> simp)
    calc Db.rows _ t = db₁.rows t := hstock t ht
      _ = db₂.rows t := by
        rw [← horder]
        exact hsame t (by rcases ht with rfl | rfl | rfl | rfl | rfl <;> simp)
      _ = db₃.rows t := hcart' t (by rcases ht with rfl | rfl | rfl | rfl | rfl <;> simp)
      _ = Db.rows _ t := husage' t (by rcases ht with rfl | rfl | rfl | rfl | rfl <;> simp)

theorem assertIdempotentOrderBelongsToCustomer_ok {customerProfileId : Id} :
    assertIdempotentOrderBelongsToCustomer currentUser context customerProfileId = .ok () ↔
      hasCheckoutCustomerAccess currentUser context.customer.userId customerProfileId = true ∧
        customerProfileId = context.customer.id := by
  rw [assertIdempotentOrderBelongsToCustomer]
  split
  · next h => exact iff_of_true rfl h
  · next h => simpa using h

theorem submitOrder_run_ok {cartId : Id} {pricing : CheckoutPricingBreakdown}
    (h : (submitOrder round ids currentUser input context cartId pricing).run db =
      .ok (submission, db')) :
    StoredUnder db' input.idempotencyKey context.customer.id submission ∧
      Db.SameOn IsPartyTable db db' := by
  replace h := Tx.run_read_bind_ok h
  cases hexisting : findByIdempotencyKey db input.idempotencyKey with
  | none =>
    rw [hexisting] at h
    exact placeOrder_run_ok h
  | some existing =>
    rw [hexisting] at h
    obtain ⟨_, db₁, hassert, h₁⟩ := Tx.run_bind_ok h
    obtain ⟨payment, db₂, hresolve, h₂⟩ := Tx.run_bind_ok h₁
    cases h₂
    obtain ⟨hbelongs, rfl⟩ := Tx.run_ofExcept_ok hassert
    obtain ⟨hpayment, hsame⟩ := resolveExistingOrCreatePaymentIntent_run_ok hresolve
    refine ⟨⟨?_, hpayment, (assertIdempotentOrderBelongsToCustomer_ok.mp hbelongs).2⟩,
      fun t ht => hsame t (by rcases ht with rfl | rfl | rfl | rfl | rfl <;> simp)⟩
    rw [← hexisting, findByIdempotencyKey, ← hsame.list (by simp), findByIdempotencyKey]

/-- A key that is used already leads back to its order. -/
theorem submitOrder_run_stored {cartId : Id} {pricing : CheckoutPricingBreakdown}
    (h : StoredUnder db input.idempotencyKey context.customer.id submission)
    (haccess : hasCheckoutCustomerAccess currentUser context.customer.userId
      submission.order.customerProfileId = true) :
    (submitOrder round ids currentUser input context cartId pricing).run db =
      .ok ({ submission with isIdempotentReplay := true }, db) := by
  have hbelongs := assertIdempotentOrderBelongsToCustomer_ok.mpr ⟨haccess, h.customer⟩
  simp only [submitOrder, resolveExistingOrCreatePaymentIntent, Tx.bind_eq, Tx.run_bind,
    Tx.run_read, Except.bind, h.order, hbelongs, Tx.ofExcept, Tx.run_ret, h.payment, Tx.pure_eq]

end Transaction

/-! ## The whole submission -/

section Submission

variable {db db' : Store} {round : ℚ → ℚ} {ids : CheckoutIds} {input : SubmitCheckoutInput}
  {currentUser : AuthenticatedUser} {submission : CheckoutSubmission}

theorem resolveCurrentCustomerProfile_respects (currentUser : AuthenticatedUser) :
    (CheckoutContextService.resolveCurrentCustomerProfile currentUser).Respects
      (Db.SameOn IsPartyTable) := by
  refine .bind (.get fun db db' h => ?_) fun _ => .bind (.orFail _ _) fun _ =>
    .bind (.require _ _) fun _ => .ret _
  have hfind : findCurrentCustomerProfile db currentUser =
      findCurrentCustomerProfile db' currentUser := by
    rw [findCurrentCustomerProfile, findCurrentCustomerProfile]
    cases currentUser.customerProfileId with
    | none => rw [h.list (.inr (.inl rfl))]
    | some profileId =>
      dsimp only
      rw [h.get (k := (.customerProfile, profileId)) (.inr (.inl rfl))]
  rw [hfind]
  refine Option.bind_congr fun profile _ => ?_
  rw [h.get (k := (.user, profile.2.userId)) (.inl rfl)]

theorem resolveCheckoutAddress_respects (customer : CustomerProfileRecord)
    (addressId : Option Id) :
    (resolveCheckoutAddress customer addressId).Respects (Db.SameOn IsPartyTable) := by
  cases addressId with
  | none =>
    refine .bind (.get fun db db' h => ?_) fun _ => .orFail _ _
    rw [h.list (.inr (.inr (.inl rfl)))]
  | some addressId =>
    refine .bind (.get fun db db' h => ?_) fun _ => .orFail _ _
    have hprofile : ∀ id, db.get (.customerProfile, id) = db'.get (.customerProfile, id) :=
      fun id => h.get (.inr (.inl rfl))
    simp only [findOwnAddress, hprofile,
      h.get (k := (.customerAddress, addressId)) (.inr (.inr (.inl rfl)))]

/-- Who orders, from where and to where is a question to the party tables only. -/
theorem resolveCheckoutParties_respects (currentUser : AuthenticatedUser)
    (input : SubmitCheckoutInput) :
    (resolveCheckoutParties currentUser input).Respects (Db.SameOn IsPartyTable) := by
  refine .bind (resolveCurrentCustomerProfile_respects _) fun customer => .bind ?_ fun _ =>
    .bind (.get fun db db' h => ?_) fun _ => .bind (.orFail _ _) fun _ => .ret _
  · split
    · exact .ret none
    · exact .bind (resolveCheckoutAddress_respects _ _) fun _ => .ret _
  · have hmerchant : ∀ id, db.get (.merchant, id) = db'.get (.merchant, id) := fun id =>
      h.get (.inr (.inr (.inr (.inr rfl))))
    simp only [hmerchant, h.get (k := (.branch, input.branchId)) (.inr (.inr (.inr (.inl rfl))))]

/-- To find out who orders is to read only. -/
theorem resolveCheckoutParties_readOnly (currentUser : AuthenticatedUser)
    (input : SubmitCheckoutInput) : (resolveCheckoutParties currentUser input).ReadOnly := by
  refine .bind (.bind (.get _) fun _ => .bind (.orFail _ _) fun _ => .bind (.require _ _)
    fun _ => .ret _) fun customer => .bind ?_ fun _ => .bind (.get _) fun _ =>
      .bind (.orFail _ _) fun _ => .ret _
  split
  · exact .ret none
  · refine .bind ?_ fun _ => .ret _
    cases input.addressId with
    | none => exact .bind (.get _) fun _ => .orFail _ _
    | some addressId => exact .bind (.get _) fun _ => .orFail _ _

theorem resolveCheckoutParties_run_ok {parties : CheckoutParties}
    (h : (resolveCheckoutParties currentUser input).run db = (.ok parties, db')) :
    db' = db ∧
      hasCheckoutCustomerAccess currentUser parties.customer.userId parties.customer.id = true := by
  have hdb := (resolveCheckoutParties_readOnly currentUser input).run db
  rw [h] at hdb
  refine ⟨hdb, ?_⟩
  simp only [resolveCheckoutParties, CheckoutContextService.resolveCurrentCustomerProfile,
    Service.bind_eq, Service.pure_eq, Service.run_bind_ok, Service.run_get_ok,
    Service.run_orFail_ok, Service.run_require_ok, Service.run_ret_ok] at h
  obtain ⟨customer, _, ⟨_, _, -, _, _, -, _, _, ⟨haccess, -⟩, rfl, -⟩, address, _, -, _, _, -, _, _,
    -, rfl, -⟩ := h
  exact haccess

theorem tryResolveReplayAfterUniqueConstraint_run_ok {context : CheckoutContext} {error : Failure}
    (h : (tryResolveReplayAfterUniqueConstraint ids input context error).run db =
      (.ok submission, db')) :
    StoredUnder db' input.idempotencyKey context.customer.id submission ∧
      Db.SameOn IsPartyTable db db' := by
  rw [tryResolveReplayAfterUniqueConstraint] at h
  split at h
  · cases h
  simp only [Service.bind_eq, Service.pure_eq, Service.run_bind_ok, Service.run_get_ok,
    Service.run_orFail_ok, Service.run_ofExcept_ok] at h
  obtain ⟨_, _, ⟨rfl, rfl⟩, existing, _, ⟨hexisting, rfl⟩, _, _, ⟨hbelongs, rfl⟩, found, _,
    ⟨hfound, rfl⟩, h⟩ := h
  have hcustomer := (assertIdempotentOrderBelongsToCustomer_ok.mp hbelongs).2
  cases found with
  | some payment =>
    obtain ⟨rfl, rfl⟩ := Service.run_ret_ok.mp h
    exact ⟨⟨hexisting, hfound, hcustomer⟩, .refl _⟩
  | none =>
    obtain ⟨payment, db₁, hcreate, hret⟩ := Service.run_bind_ok.mp h
    obtain ⟨rfl, rfl⟩ := Service.run_ret_ok.mp hret
    obtain ⟨hpayment, hsame⟩ := createCheckoutPaymentIntent_run_ok
      (Service.run_transaction_ok.mp hcreate)
    refine ⟨⟨?_, hpayment, hcustomer⟩,
      fun t ht => hsame t (by rcases ht with rfl | rfl | rfl | rfl | rfl <;> simp)⟩
    rw [← hexisting, findByIdempotencyKey, ← hsame.list (by simp), findByIdempotencyKey]

/-- A submission that goes through has found who orders, and a branch that takes orders, and
stores its order and its payment under its key. -/
theorem submitCurrentCustomerCheckout_run_ok
    (h : (submitCurrentCustomerCheckout round ids currentUser input).run db =
      (.ok submission, db')) :
    ∃ parties, (resolveCheckoutParties currentUser input).run db = (.ok parties, db) ∧
      (parties.branch.status = .active ∧ parties.merchant.status = .active) ∧
      CartCanBeOrdered db ids.now currentUser input parties.customer.id ∧
      StoredUnder db' input.idempotencyKey parties.customer.id submission ∧
      Db.SameOn IsPartyTable db db' := by
  obtain ⟨⟨context, cartId⟩, db₁, hcontext, hrest⟩ := Service.run_bind_ok.mp h
  obtain ⟨pricing, db₂, hpricing, htx⟩ := Service.run_bind_ok.mp hrest
  obtain ⟨parties, db₀, hparties, hready, rfl⟩ :=
    getValidatedCurrentCustomerCheckoutContext_run_ok.mp hcontext
  obtain ⟨rfl, -⟩ := resolveCheckoutParties_run_ok hparties
  obtain ⟨rfl, hbranch, hlines, -, -, havailable⟩ :=
    assertCartReadyForCheckout_run_ok.mp hready
  obtain ⟨rfl, hpromotion⟩ := buildPricingBreakdown_run_ok.mp ⟨pricing, hpricing⟩
  refine ⟨parties, hparties, hbranch, ⟨hlines, havailable, hpromotion⟩, ?_⟩
  rcases Service.run_tx_ok.mp htx with ⟨_, _, hsubmit, hret⟩ | ⟨error, -, hresolve⟩
  · obtain ⟨rfl, rfl⟩ := Service.run_ret_ok.mp hret
    exact submitOrder_run_ok hsubmit
  · exact tryResolveReplayAfterUniqueConstraint_run_ok hresolve

/-- A retry returns what the submission has returned exactly when yet another cart of the
customer's could be ordered. -/
theorem replayed_iff (ids' : CheckoutIds)
    (h : (submitCurrentCustomerCheckout round ids currentUser input).run db =
      (.ok submission, db')) :
    (submitCurrentCustomerCheckout round ids' currentUser input).run db' =
        (.ok { submission with isIdempotentReplay := true }, db') ↔
      CartCanBeOrdered db' ids'.now currentUser input submission.order.customerProfileId := by
  obtain ⟨parties, hparties, hbranch, -, hstored, hsame⟩ :=
    submitCurrentCustomerCheckout_run_ok h
  have hparties' : (resolveCheckoutParties currentUser input).run db' = (.ok parties, db') := by
    have hrun := (resolveCheckoutParties_respects currentUser input).run hsame
    rw [hparties] at hrun
    rcases hres : (resolveCheckoutParties currentUser input).run db' with ⟨r, db''⟩
    rw [hres] at hrun
    obtain rfl : Except.ok parties = r := hrun.1
    obtain ⟨rfl, -⟩ := resolveCheckoutParties_run_ok hres
    rfl
  have haccess := (resolveCheckoutParties_run_ok hparties).2
  rw [hstored.customer]
  constructor
  · intro hreplay
    obtain ⟨parties', hagain, -, hcan, -⟩ := submitCurrentCustomerCheckout_run_ok hreplay
    obtain rfl : parties = parties' := by
      rw [hparties'] at hagain
      exact Except.ok.inj (Prod.mk.inj hagain).1
    exact hcan
  · intro hcan
    obtain ⟨hof, cartId, -, hcartId, -⟩ := activeCart_some hcan.lines
    have hpriced : ∃ pricing, (buildPricingBreakdown round ids'.now ⟨parties.customer,
        parties.address, input.branchId, getOwnedActiveCartAggregateOrEmpty db' currentUser.userId
          input.branchId⟩ input.promotionCode).run db' = (.ok pricing, db') :=
      buildPricingBreakdown_run_ok.mpr ⟨rfl, hcan.promotion⟩
    obtain ⟨pricing, hpricing⟩ := hpriced
    have hcontext := getValidatedCurrentCustomerCheckoutContext_run_ok.mpr ⟨parties, db', hparties',
      assertCartReadyForCheckout_run_ok.mpr
        ⟨rfl, hbranch, hcan.lines, hcartId, hof, hcan.available⟩, rfl⟩
    refine Service.run_bind_ok.mpr ⟨_, db', hcontext, Service.run_bind_ok.mpr ⟨_, db', hpricing,
      Service.run_tx_ok.mpr (.inl ⟨_, db', submitOrder_run_stored hstored ?_, rfl⟩)⟩⟩
    exact hstored.customer ▸ haccess

/-- The store after a submission. -/
def submitted (round : ℚ → ℚ) (currentUser : AuthenticatedUser) (input : SubmitCheckoutInput)
    (ids : CheckoutIds) (db : Store) : Store :=
  ((submitCurrentCustomerCheckout round ids currentUser input).run db).2

/-- The retry returns the submission's order and payment, as a replay, and changes nothing. -/
def ReplayOf (round : ℚ → ℚ) (currentUser : AuthenticatedUser) (input : SubmitCheckoutInput)
    (submission : CheckoutSubmission) (ids : CheckoutIds) (db : Store) : Prop :=
  (submitCurrentCustomerCheckout round ids currentUser input).run db =
    (.ok { submission with isIdempotentReplay := true }, db)

/-- After a submission, retries with its key return what it has returned and change nothing
exactly when for each of them the customer has yet another cart that could be ordered. -/
theorem retries_replay_iff
    (h : (submitCurrentCustomerCheckout round ids currentUser input).run db =
      (.ok submission, db')) (retries : List CheckoutIds) :
    MeetAll (submitted round currentUser input) (ReplayOf round currentUser input submission)
        retries db' ↔
      ∀ retry ∈ retries, CartCanBeOrdered db' retry.now currentUser input
        submission.order.customerProfileId := by
  induction retries with
  | nil => simp [MeetAll]
  | cons retry retries ih =>
    have hfirst := replayed_iff retry h
    rw [MeetAll, List.forall_mem_cons, ← hfirst, ReplayOf]
    refine and_congr_right fun hreplay => ?_
    rw [submitted, hreplay]
    exact ih

end Submission

/-! ## The cart that was ordered -/

/-- The sample shop with one cup of tea in the customer's cart, and five in stock. -/
def cupShop : Store := teaShop.apply [
  ⟨.user, 20, some { status := .active, role := .customer }⟩,
  ⟨.customerProfile, 1, some { userId := 20 }⟩,
  ⟨.cart, 1, some ⟨1, 1, .active, 1, 1500, 1500⟩⟩,
  ⟨.cartItem, 1, some {
    cartId := 1, menuItemId := 1, quantity := 1, unitPriceSnapshot := 1500, lineTotal := 1500,
    createdAt := 0 }⟩]

/-- The customer picks the tea up and pays in cash. -/
def pickUpCup (idempotencyKey : String) : SubmitCheckoutInput where
  branchId := 1
  addressId := none
  deliveryType := some .pickup
  idempotencyKey := idempotencyKey
  paymentMethod := none
  paymentProvider := none
  promotionCode := none

/-- The retry is turned away: the cart of the first submission is checked out. -/
theorem retry_turned_away : ∃ submission db',
    (submitCurrentCustomerCheckout id ⟨7, "ORD-7", 7, 7, 0⟩ teaCustomer (pickUpCup "k")).run
        cupShop = (.ok submission, db') ∧
      ¬ MeetAll (submitted id teaCustomer (pickUpCup "k"))
        (ReplayOf id teaCustomer (pickUpCup "k") submission) [⟨8, "ORD-8", 8, 8, 1⟩] db' ∧
      ((submitCurrentCustomerCheckout id ⟨8, "ORD-8", 8, 8, 1⟩ teaCustomer (pickUpCup "k")).run
        db').1 = .error (fail "A non-empty active cart is required before checkout."
          .unprocessableEntity) := by
  have hok : ((submitCurrentCustomerCheckout id ⟨7, "ORD-7", 7, 7, 0⟩ teaCustomer
      (pickUpCup "k")).run cupShop).1.isOk = true := by decide +kernel
  have hfails : ((submitCurrentCustomerCheckout id ⟨8, "ORD-8", 8, 8, 1⟩ teaCustomer
      (pickUpCup "k")).run (submitted id teaCustomer (pickUpCup "k") ⟨7, "ORD-7", 7, 7, 0⟩
        cupShop)).1 = .error (fail "A non-empty active cart is required before checkout."
          .unprocessableEntity) := by decide +kernel
  rcases hrun : (submitCurrentCustomerCheckout id ⟨7, "ORD-7", 7, 7, 0⟩ teaCustomer
    (pickUpCup "k")).run cupShop with ⟨e | submission, db'⟩
  · rw [hrun] at hok
    cases hok
  · rw [submitted, hrun] at hfails
    refine ⟨submission, db', rfl, fun hreplay => ?_, hfails⟩
    rw [hreplay.1] at hfails
    cases hfails

/-- The shop when the customer has a second cart at the branch, with another cup. -/
def twoCartShop : Store := cupShop.apply [
  ⟨.cart, 2, some ⟨1, 1, .active, 1, 1500, 1500⟩⟩,
  ⟨.cartItem, 2, some {
    cartId := 2, menuItemId := 1, quantity := 1, unitPriceSnapshot := 1500, lineTotal := 1500,
    createdAt := 1 }⟩]

/-- With the second cart still to be had, retries lead back to the order of the first. -/
theorem retries_replay_twoCartShop : ∃ submission db',
    (submitCurrentCustomerCheckout id ⟨7, "ORD-7", 7, 7, 0⟩ teaCustomer (pickUpCup "k")).run
        twoCartShop = (.ok submission, db') ∧
      MeetAll (submitted id teaCustomer (pickUpCup "k"))
        (ReplayOf id teaCustomer (pickUpCup "k") submission)
        [⟨8, "ORD-8", 8, 8, 1⟩, ⟨9, "ORD-9", 9, 9, 2⟩] db' := by
  have hok : ((submitCurrentCustomerCheckout id ⟨7, "ORD-7", 7, 7, 0⟩ teaCustomer
      (pickUpCup "k")).run twoCartShop).1.isOk = true := by decide +kernel
  have hcart : (getOwnedActiveCartAggregateOrEmpty (submitted id teaCustomer (pickUpCup "k")
      ⟨7, "ORD-7", 7, 7, 0⟩ twoCartShop) 20 1).items ≠ [] ∧
        ∀ item ∈ (getOwnedActiveCartAggregateOrEmpty (submitted id teaCustomer (pickUpCup "k")
          ⟨7, "ORD-7", 7, 7, 0⟩ twoCartShop) 20 1).items, item.menuItem.isAvailable = true ∧
            checkCartItem (submitted id teaCustomer (pickUpCup "k") ⟨7, "ORD-7", 7, 7, 0⟩
              twoCartShop) item = .ok () := by decide +kernel
  rcases hrun : (submitCurrentCustomerCheckout id ⟨7, "ORD-7", 7, 7, 0⟩ teaCustomer
    (pickUpCup "k")).run twoCartShop with ⟨e | submission, db'⟩
  · rw [hrun] at hok
    cases hok
  · rw [submitted, hrun] at hcart
    refine ⟨submission, db', rfl, (retries_replay_iff hrun _).mpr fun retry _ =>
      ⟨hcart.1, hcart.2, fun code hcode => ?_⟩⟩
    exact absurd hcode (by simp [pickUpCup, normalizePromotionCode, trim, toUpperCase])

end WerTe
