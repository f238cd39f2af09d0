import WerTe.Money

/-!
# What a checkout is said to cost

`checkout-preview.service.ts` and `buildCheckoutPreview` of `checkout-pricing.service.ts`: a
customer is shown what the cart will cost before ordering it. The preview and the submission
resolve the same context and price it with the same function; the submission sets the fee of an
order that is picked up to zero once more, and charges the total that was priced. Amounts are
exact here: the `Decimal` library's rounding is the identity.
-/

namespace WerTe

open ReadCommitted CheckoutContextService CheckoutValidation CheckoutPricing

/-! ## The preview -/

/-- `PreviewCurrentCustomerCheckoutInput`. -/
structure PreviewCheckoutInput where
  branchId : Id
  addressId : Option Id
  deliveryType : Option DeliveryType
  promotionCode : Option String
deriving DecidableEq, Repr

/-- The context is resolved from the fields that a preview shares with a submission. -/
def PreviewCheckoutInput.toSubmission (input : PreviewCheckoutInput) : SubmitCheckoutInput where
  branchId := input.branchId
  addressId := input.addressId
  deliveryType := input.deliveryType
  idempotencyKey := ""
  paymentMethod := none
  paymentProvider := none
  promotionCode := input.promotionCode

/-- What is asked of a preview of a submission. -/
def SubmitCheckoutInput.preview (input : SubmitCheckoutInput) : PreviewCheckoutInput where
  branchId := input.branchId
  addressId := input.addressId
  deliveryType := input.deliveryType
  promotionCode := input.promotionCode

/-- `CheckoutPreviewEntity`; its amounts are texts in the source, here the numbers themselves. -/
structure CheckoutPreview where
  customer : CustomerProfileRecord
  address : Option CustomerAddress
  branchId : Id
  cart : CartAggregate
  pricing : CheckoutPricingBreakdown
deriving DecidableEq

section Preview

variable (round : ℚ → ℚ)

def buildCheckoutPreview (now : Date) (context : CheckoutContext) (promotionCode : Option String) :
    StoreService CheckoutPreview := do
  let pricing ← buildPricingBreakdown round now context promotionCode
  pure ⟨context.customer, context.address, context.branchId, context.cart, pricing⟩

def previewCurrentCustomerCheckout (now : Date) (currentUser : AuthenticatedUser)
    (input : PreviewCheckoutInput) : StoreService CheckoutPreview := do
  let (context, _) ←
    getValidatedCurrentCustomerCheckoutContext currentUser input.toSubmission
  buildCheckoutPreview round now context input.promotionCode

end Preview

/-! ## Its amounts -/

/-- The promotion that a code asks for. -/
def requestedPromotion (db : Store) (branchId : Id) (promotionCode : Option String) :
    Option (Id × Promotion) :=
  (normalizePromotionCode .ascii promotionCode).bind fun code =>
    findPromotionByBranchIdAndCode db branchId code

/-- The promotion takes something off, and no more than everything. -/
structure ValidDiscount (promotion : Promotion) : Prop where
  value : 0 < promotion.discountValue
  percentage : promotion.discountType = .percentage → promotion.discountValue ≤ 100
  maximum : ∀ maximum, promotion.maximumDiscountAmount = some maximum → 0 < maximum

/-- How the amounts of a price belong together, with the promotion that was asked for. -/
structure Priced (context : CheckoutContext) (promotion : Option Promotion)
    (pricing : CheckoutPricingBreakdown) : Prop where
  subtotal : pricing.subtotalAmount = context.cart.subtotalAmount
  discount_nonneg : 0 ≤ pricing.discountAmount
  discount_le : pricing.discountAmount ≤ pricing.subtotalAmount
  discount_capped : ∀ p maximum, promotion = some p → p.maximumDiscountAmount = some maximum →
    pricing.discountAmount ≤ maximum
  total : pricing.totalAmount =
    pricing.subtotalAmount - pricing.discountAmount + pricing.deliveryFee
  total_nonneg : 0 ≤ pricing.totalAmount
  fee_pickup : context.address = none → pricing.deliveryFee = 0
  fee_waived : ∀ p, promotion = some p → p.discountType = .freeDelivery → pricing.deliveryFee = 0

/-- The order and its payment are stored with the amounts of the preview. -/
structure AmountsAgree (preview : CheckoutPricingBreakdown) (submission : CheckoutSubmission)
    (db : Store) : Prop where
  order : db.get (.order, submission.orderId) = some submission.order
  payment : db.get (.payment, submission.paymentIntent.1) = some submission.paymentIntent.2
  subtotal : submission.order.subtotalAmount = preview.subtotalAmount
  discount : submission.order.discountAmount = preview.discountAmount
  fee : submission.order.deliveryFee = preview.deliveryFee
  total : submission.order.totalAmount = preview.totalAmount
  charged : submission.paymentIntent.2.amount = preview.totalAmount

section Pricing

variable {db db' : Store} {round : ℚ → ℚ} {now now' : Date} {context : CheckoutContext}
  {promotionCode : Option String} {pricing pricing' : CheckoutPricingBreakdown}

/-- The time decides whether a promotion applies, not what it is worth. -/
theorem evaluatePromotion_run_ok {branchId customerProfileId : Id} {subtotalAmount : ℚ}
    {evaluation : Option PromotionPricingEvaluation}
    (h : (evaluatePromotion round now branchId subtotalAmount promotionCode customerProfileId).run
      db = (.ok evaluation, db')) :
    evaluation = (requestedPromotion db branchId promotionCode).map fun p =>
      ⟨p.1, discountOf round p.2 subtotalAmount, p.2.discountType == .freeDelivery⟩ := by
  rw [evaluatePromotion] at h
  rw [requestedPromotion]
  cases hcode : normalizePromotionCode .ascii promotionCode with
  | none =>
    rw [hcode] at h
    exact (Service.run_ret_ok.mp h).1.symm
  | some code =>
    rw [hcode] at h
    simp only [Service.bind_eq, Service.pure_eq, Service.run_bind_ok, Service.run_get_ok,
      Service.run_orFail_ok, Service.run_require_ok, Service.run_ret_ok, checkPromotion_run_ok,
      Option.filter_eq_some_iff] at h
    obtain ⟨_, _, ⟨rfl, rfl⟩, ⟨promotionId, promotion⟩, _, ⟨⟨hfind, -⟩, rfl⟩, _, _, ⟨rfl, -⟩, _, _,
      ⟨rfl, rfl⟩, _, _, ⟨-, rfl⟩, rfl, rfl⟩ := h
    simp [hfind]

/-- The breakdown, read off the promotion that was asked for. -/
theorem buildPricingBreakdown_run {pricing : CheckoutPricingBreakdown}
    (h : (buildPricingBreakdown round now context promotionCode).run db = (.ok pricing, db')) :
    let promotion : Option PromotionPricingEvaluation :=
      (requestedPromotion db context.branchId promotionCode).map fun p =>
        ⟨p.1, discountOf round p.2 context.cart.subtotalAmount, p.2.discountType == .freeDelivery⟩
    let discountAmount := (promotion.map (·.discountAmount)).getD 0
    let deliveryFee : ℚ :=
      if context.address = none ∨ promotion.any (·.deliveryFeeWaived) = true then 0 else 1500
    pricing = ⟨context.cart.subtotalAmount, discountAmount, deliveryFee,
      round (round (context.cart.subtotalAmount - discountAmount) + deliveryFee), promotion⟩ := by
  obtain ⟨evaluation, db₁, hevaluate, hret⟩ := Service.run_bind_ok.mp h
  obtain rfl := evaluatePromotion_run_ok hevaluate
  exact (Service.run_ret_ok.mp hret).1.symm

/-- A context costs the same at any time at which it has a price. -/
theorem buildPricingBreakdown_unique {db₁ db₂ : Store}
    (h : (buildPricingBreakdown round now context promotionCode).run db = (.ok pricing, db₁))
    (h' : (buildPricingBreakdown round now' context promotionCode).run db = (.ok pricing', db₂)) :
    pricing = pricing' :=
  (buildPricingBreakdown_run h).trans (buildPricingBreakdown_run h').symm

theorem discountOf_le_maximum {promotion : Promotion} {subtotalAmount maximum : ℚ}
    (hmaximum : promotion.maximumDiscountAmount = some maximum) (hpositive : 0 ≤ maximum) :
    discountOf round promotion subtotalAmount ≤ maximum := by
  rw [discountOf, hmaximum]
  split
  · exact hpositive
  · exact (min_le_left ..).trans (min_le_right ..)

theorem ValidDiscount.nonNegative {promotion : Promotion} (h : ValidDiscount promotion) :
    NonNegative .promotion promotion :=
  ⟨h.value.le, fun maximum hmaximum => (h.maximum maximum hmaximum).le⟩

theorem buildPricingBreakdown_priced (hsubtotal : 0 ≤ context.cart.subtotalAmount)
    (hvalid : ∀ p, requestedPromotion db context.branchId promotionCode = some p →
      ValidDiscount p.2)
    (h : (buildPricingBreakdown id now context promotionCode).run db = (.ok pricing, db')) :
    Priced context ((requestedPromotion db context.branchId promotionCode).map Prod.snd)
      pricing := by
  obtain rfl := buildPricingBreakdown_run h
  have hfee : ∀ b : Prop, [Decidable b] → (0 : ℚ) ≤ if b then 0 else 1500 := by
    intro b _
    split <;> norm_num
  cases hpromotion : requestedPromotion db context.branchId promotionCode with
  | none =>
    refine ⟨rfl, le_rfl, hsubtotal, by simp, rfl, ?_, fun haddress => if_pos (.inl haddress),
      by simp⟩
    exact add_nonneg (sub_nonneg.mpr hsubtotal) (hfee _)
  | some p =>
    have hp : ValidDiscount p.2 := hvalid p hpromotion
    have hle : discountOf id p.2 context.cart.subtotalAmount ≤ context.cart.subtotalAmount :=
      discountOf_le hsubtotal
    refine ⟨rfl, discountOf_nonneg (fun _ hx => hx) hp.nonNegative hsubtotal, hle, ?_, rfl, ?_,
      fun haddress => if_pos (.inl haddress), ?_⟩
    · rintro _ maximum ⟨⟩ hmaximum
      exact discountOf_le_maximum hmaximum (hp.maximum maximum hmaximum).le
    · exact add_nonneg (sub_nonneg.mpr hle) (hfee _)
    · rintro _ ⟨⟩ hfree
      exact if_pos (.inr (by simp [hfree]))

end Pricing

/-! ## Preview, order and payment -/

section Agreement

variable {db db₁ db₂ : Store} {now : Date} {ids : CheckoutIds} {currentUser : AuthenticatedUser}
  {input : SubmitCheckoutInput} {preview : CheckoutPreview} {submission : CheckoutSubmission}

theorem resolveCheckoutParties_address {parties : CheckoutParties}
    (hpickup : input.deliveryType = some .pickup)
    (h : (resolveCheckoutParties currentUser input).run db = (.ok parties, db₁)) :
    parties.address = none := by
  simp only [resolveCheckoutParties, hpickup, if_true, Service.bind_eq, Service.pure_eq,
    Service.run_bind_ok, Service.run_get_ok, Service.run_orFail_ok, Service.run_ret_ok] at h
  obtain ⟨_, _, -, _, _, ⟨rfl, -⟩, _, _, -, _, _, -, rfl, -⟩ := h
  rfl

/-- An order that is picked up goes to no address. -/
theorem context_address {context : CheckoutContext × Id}
    (hpickup : input.deliveryType = some .pickup)
    (h : (getValidatedCurrentCustomerCheckoutContext currentUser input).run db =
      (.ok context, db₁)) : context.1.address = none := by
  obtain ⟨parties, _, hparties, -, hcontext⟩ :=
    getValidatedCurrentCustomerCheckoutContext_run_ok.mp h
  rw [hcontext]
  exact resolveCheckoutParties_address hpickup hparties

/-- A preview prices the context that a submission of the same input resolves. -/
theorem previewCurrentCustomerCheckout_run_ok
    (h : (previewCurrentCustomerCheckout id now currentUser input.preview).run db =
      (.ok preview, db₁)) :
    ∃ context, (getValidatedCurrentCustomerCheckoutContext currentUser input).run db =
        (.ok context, db) ∧
      (buildPricingBreakdown id now context.1 input.promotionCode).run db =
        (.ok preview.pricing, db) ∧ db₁ = db := by
  obtain ⟨context, hcontext, hbuild⟩ :=
    (getValidatedCurrentCustomerCheckoutContext_readOnly _ _).run_bind_ok h
  obtain ⟨pricing, hpricing, hret⟩ := (buildPricingBreakdown_readOnly _ _ _ _).run_bind_ok hbuild
  obtain ⟨rfl, rfl⟩ := Service.run_ret_ok.mp hret
  exact ⟨context, hcontext, hpricing, rfl⟩

theorem createCheckoutPaymentIntent_amount {paymentId orderId customerProfileId : Id} {amount : ℚ}
    {payment : Id × Payment} (h : (createCheckoutPaymentIntent paymentId orderId customerProfileId
      amount input).run db = .ok (payment, db₁)) : payment.2.amount = amount := by
  obtain ⟨profile, _, -, hrest⟩ := Tx.run_bind_ok h
  obtain ⟨_, _, -, hret⟩ := Tx.run_bind_ok hrest
  cases hret
  rfl

/-- A new order is the one that was priced, and so is its payment. -/
theorem placeOrder_amounts {context : CheckoutContext} {cartId : Id}
    {pricing : CheckoutPricingBreakdown}
    (h : (placeOrder id ids input context cartId pricing).run db = .ok (submission, db₁)) :
    (∃ items, submission.order = checkoutOrder id ids input context cartId pricing items) ∧
      submission.paymentIntent.2.amount = pricing.totalAmount := by
  obtain ⟨lines, _, -, h⟩ := Tx.run_bind_ok h
  obtain ⟨reserved, _, -, h⟩ := Tx.run_bind_ok h
  obtain ⟨_, _, -, h⟩ := Tx.run_bind_ok h
  obtain ⟨payment, _, hcreate, h⟩ := Tx.run_bind_ok h
  obtain ⟨_, _, -, h⟩ := Tx.run_bind_ok h
  obtain ⟨_, _, -, hret⟩ := Tx.run_bind_ok h
  cases hret
  exact ⟨⟨_, rfl⟩, createCheckoutPaymentIntent_amount hcreate⟩

theorem submitOrder_amounts {context : CheckoutContext} {cartId : Id}
    {pricing : CheckoutPricingBreakdown} (hnew : submission.isIdempotentReplay = false)
    (h : (submitOrder id ids currentUser input context cartId pricing).run db =
      .ok (submission, db₁)) :
    (∃ items, submission.order = checkoutOrder id ids input context cartId pricing items) ∧
      submission.paymentIntent.2.amount = pricing.totalAmount := by
  replace h := Tx.run_read_bind_ok h
  cases hexisting : findByIdempotencyKey db input.idempotencyKey with
  | none =>
    rw [hexisting] at h
    exact placeOrder_amounts h
  | some existing =>
    rw [hexisting] at h
    obtain ⟨_, _, -, h⟩ := Tx.run_bind_ok h
    obtain ⟨_, _, -, hret⟩ := Tx.run_bind_ok h
    cases hret
    cases hnew

/-- An order that is found by its key under another request is a replay. -/
theorem tryResolveReplayAfterUniqueConstraint_replay {context : CheckoutContext} {error : Failure}
    (h : (tryResolveReplayAfterUniqueConstraint ids input context error).run db =
      (.ok submission, db₁)) : submission.isIdempotentReplay = true := by
  rw [tryResolveReplayAfterUniqueConstraint] at h
  split at h
  · cases h
  simp only [Service.bind_eq, Service.pure_eq, Service.run_bind_ok, Service.run_get_ok,
    Service.run_orFail_ok, Service.run_ofExcept_ok] at h
  obtain ⟨_, _, -, _, _, -, _, _, -, found, _, -, h⟩ := h
  cases found with
  | some payment =>
    obtain ⟨rfl, -⟩ := Service.run_ret_ok.mp h
    rfl
  | none =>
    obtain ⟨_, _, -, hret⟩ := Service.run_bind_ok.mp h
    obtain ⟨rfl, -⟩ := Service.run_ret_ok.mp hret
    rfl

/-- What an order costs is what it was priced at, picked up or not. -/
theorem checkoutOrder_amounts {context : CheckoutContext} {cartId : Id}
    {pricing : CheckoutPricingBreakdown} {items : List OrderItem}
    (hpickup : input.deliveryType = some .pickup → pricing.deliveryFee = 0)
    (htotal : pricing.totalAmount =
      pricing.subtotalAmount - pricing.discountAmount + pricing.deliveryFee) :
    (checkoutOrder id ids input context cartId pricing items).deliveryFee = pricing.deliveryFee ∧
      (checkoutOrder id ids input context cartId pricing items).totalAmount =
        pricing.totalAmount := by
  by_cases htype : input.deliveryType = some .pickup
  · simp [checkoutOrder, htype, hpickup htype, htotal]
  · simp [checkoutOrder, htype]

/-- The submission of an input that was previewed has the preview's amounts. -/
theorem submitCurrentCustomerCheckout_amounts
    (hpreview : (previewCurrentCustomerCheckout id now currentUser input.preview).run db =
      (.ok preview, db₁))
    (hsubmit : (submitCurrentCustomerCheckout id ids currentUser input).run db₁ =
      (.ok submission, db₂))
    (hnew : submission.isIdempotentReplay = false) :
    AmountsAgree preview.pricing submission db₂ ∧
      (input.deliveryType = some .pickup → preview.pricing.deliveryFee = 0) := by
  obtain ⟨context, hcontext, hpricing, rfl⟩ := previewCurrentCustomerCheckout_run_ok hpreview
  obtain ⟨_, -, -, -, hstored, -⟩ := submitCurrentCustomerCheckout_run_ok hsubmit
  obtain ⟨context', hcontext', hrest⟩ :=
    (getValidatedCurrentCustomerCheckoutContext_readOnly _ _).run_bind_ok hsubmit
  obtain ⟨pricing, hpricing', htx⟩ := (buildPricingBreakdown_readOnly _ _ _ _).run_bind_ok hrest
  cases hcontext.symm.trans hcontext'
  obtain rfl := buildPricingBreakdown_unique hpricing hpricing'
  have hfee : input.deliveryType = some .pickup → preview.pricing.deliveryFee = 0 := by
    intro hpickup
    rw [buildPricingBreakdown_run hpricing]
    exact if_pos (.inl (context_address hpickup hcontext))
  have htotal : preview.pricing.totalAmount = preview.pricing.subtotalAmount -
      preview.pricing.discountAmount + preview.pricing.deliveryFee := by
    rw [buildPricingBreakdown_run hpricing]
    rfl
  rcases Service.run_tx_ok.mp htx with ⟨placed, _, hplaced, hret⟩ | ⟨_, -, hreplay⟩
  · obtain ⟨rfl, rfl⟩ := Service.run_ret_ok.mp hret
    obtain ⟨⟨items, horder⟩, hcharged⟩ := submitOrder_amounts hnew hplaced
    have hamounts : placed.order.deliveryFee = preview.pricing.deliveryFee ∧
        placed.order.totalAmount = preview.pricing.totalAmount := by
      rw [horder]
      exact checkoutOrder_amounts hfee htotal
    refine ⟨⟨?_, ?_, ?_, ?_, hamounts.1, hamounts.2, hcharged⟩, hfee⟩
    · exact (Db.mem_list.mp (List.mem_of_head? hstored.order)).1
    · exact (Db.mem_list.mp (List.mem_of_head? hstored.payment)).1
    · rw [horder, checkoutOrder]
    · rw [horder, checkoutOrder]
  · rw [tryResolveReplayAfterUniqueConstraint_replay hreplay] at hnew
    cases hnew

/-- **Pricing.** Whatever the subtotal, the discount is within it and within the promotion's cap,
and nothing is paid for a delivery that is not made or that the promotion pays for. As long as the
store stays as it is, the preview, the order and the payment are about the same amounts. -/
theorem checkout_amounts (db : Store) :
    (∀ (now : Date) (context : CheckoutContext) (promotionCode : Option String)
      (pricing : CheckoutPricingBreakdown) (db' : Store), 0 ≤ context.cart.subtotalAmount →
      (∀ p, requestedPromotion db context.branchId promotionCode = some p →
        ValidDiscount p.2) →
      (buildPricingBreakdown id now context promotionCode).run db = (.ok pricing, db') →
        Priced context ((requestedPromotion db context.branchId promotionCode).map Prod.snd)
          pricing) ∧
    ∀ (now : Date) (ids : CheckoutIds) (currentUser : AuthenticatedUser)
      (input : SubmitCheckoutInput) (preview : CheckoutPreview) (submission : CheckoutSubmission)
      (db₁ db₂ : Store),
      (previewCurrentCustomerCheckout id now currentUser input.preview).run db =
        (.ok preview, db₁) →
      (submitCurrentCustomerCheckout id ids currentUser input).run db₁ = (.ok submission, db₂) →
      submission.isIdempotentReplay = false →
        AmountsAgree preview.pricing submission db₂ ∧
          (input.deliveryType = some .pickup → preview.pricing.deliveryFee = 0) :=
  ⟨fun _ _ _ _ _ hsubtotal hvalid h => buildPricingBreakdown_priced hsubtotal hvalid h,
    fun _ _ _ _ _ _ _ _ hpreview hsubmit hnew =>
      submitCurrentCustomerCheckout_amounts hpreview hsubmit hnew⟩

/-- The shop with half price, for at most 500, and a customer's address. -/
def halfPriceShop : Store := cupShop.apply [
  ⟨.promotion, 1, some {
    branchId := 1, code := "HALF", name := "Half price", description := none
    discountType := .percentage, discountValue := 50, minimumSubtotalAmount := 0
    maximumDiscountAmount := some 500, perCustomerLimit := none, startsAt := none, endsAt := none
    isActive := true, isDeleted := false }⟩,
  ⟨.customerAddress, 1, some {
    customerProfileId := 1, label := "Home", line1 := "No. 1, Main Road", line2 := none
    landmark := none, township := "Botahtaung", city := none, postalCode := none
    deliveryInstructions := none, isDefault := true, latitude := 16, longitude := 96
    createdAt := 0 }⟩]

/-- The cup is brought to the customer, with the promotion's code. -/
def halfPriceCup : SubmitCheckoutInput :=
  { pickUpCup "k" with deliveryType := none, promotionCode := some "half" }

/-- The customer's cart at the branch, to be picked up. -/
def halfPriceContext : CheckoutContext where
  customer := ⟨1, 20, .customer⟩
  address := none
  branchId := 1
  cart := getOwnedActiveCartAggregateOrEmpty halfPriceShop 20 1

theorem halfPrice_valid (p : Id × Promotion)
    (h : requestedPromotion halfPriceShop 1 (some "half") = some p) : ValidDiscount p.2 := by
  have hfound : ∀ p ∈ requestedPromotion halfPriceShop 1 (some "half"),
      0 < p.2.discountValue ∧ p.2.discountValue ≤ 100 ∧
        p.2.maximumDiscountAmount = some 500 := by decide +kernel
  obtain ⟨hvalue, hpercentage, hmaximum⟩ := hfound p h
  refine ⟨hvalue, fun _ => hpercentage, fun maximum hsome => ?_⟩
  rw [hmaximum] at hsome
  obtain rfl := Option.some.inj hsome
  norm_num

/-- A cup of 1500 is shown, ordered and charged at 1500 - 500 + 1500; picked up, it is 1000. -/
theorem checkout_amounts_halfPriceShop :
    (∃ pricing, Priced halfPriceContext
        ((requestedPromotion halfPriceShop 1 (some "half")).map Prod.snd) pricing ∧
      pricing.totalAmount = 1000) ∧
    ∃ preview submission db',
      (previewCurrentCustomerCheckout id 0 teaCustomer halfPriceCup.preview).run halfPriceShop =
        (.ok preview, halfPriceShop) ∧
      (submitCurrentCustomerCheckout id ⟨7, "ORD-7", 7, 7, 1⟩ teaCustomer halfPriceCup).run
        halfPriceShop = (.ok submission, db') ∧
      AmountsAgree preview.pricing submission db' ∧ preview.pricing.totalAmount = 2500 := by
  have hpriced : ((buildPricingBreakdown id 0 halfPriceContext (some "half")).run
      halfPriceShop).1.toOption.map (·.totalAmount) = some 1000 := by decide +kernel
  have hshown : ((previewCurrentCustomerCheckout id 0 teaCustomer halfPriceCup.preview).run
      halfPriceShop).1.toOption.map (·.pricing.totalAmount) = some 2500 := by decide +kernel
  have hnew : ((submitCurrentCustomerCheckout id ⟨7, "ORD-7", 7, 7, 1⟩ teaCustomer
      halfPriceCup).run halfPriceShop).1.toOption.map (·.isIdempotentReplay) = some false := by
    decide +kernel
  rcases hpricing : (buildPricingBreakdown id 0 halfPriceContext (some "half")).run
    halfPriceShop with ⟨_ | pricing, db₀⟩ <;> rw [hpricing] at hpriced
  · cases hpriced
  rcases hpreview : (previewCurrentCustomerCheckout id 0 teaCustomer halfPriceCup.preview).run
    halfPriceShop with ⟨_ | preview, db₁⟩ <;> rw [hpreview] at hshown
  · cases hshown
  rcases hsubmit : (submitCurrentCustomerCheckout id ⟨7, "ORD-7", 7, 7, 1⟩ teaCustomer
    halfPriceCup).run halfPriceShop with ⟨_ | submission, db'⟩ <;> rw [hsubmit] at hnew
  · cases hnew
  obtain ⟨_, -, -, rfl⟩ := previewCurrentCustomerCheckout_run_ok hpreview
  have hcart : 0 ≤ halfPriceContext.cart.subtotalAmount := by decide +kernel
  refine ⟨⟨pricing, ?_, Option.some.inj hpriced⟩, preview, submission, db', rfl, rfl, ?_,
    Option.some.inj hshown⟩
  · exact (checkout_amounts halfPriceShop).1 0 halfPriceContext (some "half") pricing db₀ hcart
      halfPrice_valid hpricing
  · exact ((checkout_amounts halfPriceShop).2 0 _ _ _ _ _ _ _ hpreview hsubmit
      (Option.some.inj hnew)).1

end Agreement

end WerTe
