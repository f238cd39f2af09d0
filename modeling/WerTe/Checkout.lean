import WerTe.Carts
import WerTe.JsStrings
import WerTe.OrdersRepository

/-!
# Checkout

`checkout-context.service.ts`, `checkout-validation.service.ts`, `promotion-pricing.service.ts`,
`checkout-pricing.service.ts`, `checkout-payment-intent.service.ts` and
`checkout-submission.service.ts`: a customer orders what is in the cart of a branch. The cart is
read, checked and priced first; the order, its stock, its payment, the cart's new status and the
promotion's usage are written in one transaction after that. A request whose idempotency key has
been used returns the order it was used for.

As in `Carts`, `round` is what the `Decimal` library does to each result.
-/

namespace WerTe

open ReadCommitted MenusRepository CartsRepository CartPricing

/-! ## The context -/

/-- `SubmitCheckoutInput`. -/
structure SubmitCheckoutInput where
  branchId : Id
  addressId : Option Id
  deliveryType : Option DeliveryType
  idempotencyKey : String
  paymentMethod : Option PaymentMethod
  paymentProvider : Option PaymentProvider
  promotionCode : Option String
deriving DecidableEq, Repr

/-- A customer's profile with its user. -/
structure CustomerProfileRecord where
  id : Id
  userId : Id
  role : UserRole
deriving DecidableEq, Repr

/-- `CheckoutContextEntity`; an order that is picked up has no address. -/
structure CheckoutContext where
  customer : CustomerProfileRecord
  address : Option CustomerAddress
  branchId : Id
  cart : CartAggregate
deriving DecidableEq

def hasCheckoutCustomerAccess (currentUser : AuthenticatedUser)
    (ownerUserId customerProfileId : Id) : Bool :=
  hasOwnedResourceAccess currentUser .customer ownerUserId customerProfileId
    currentUser.customerProfileId

/-- The user of a profile, as a caller scoped to the profile. -/
def CustomerProfileRecord.asCaller (customer : CustomerProfileRecord) : AuthenticatedUser where
  userId := customer.userId
  role := customer.role
  merchantId := none
  customerProfileId := some customer.id
  riderId := none

namespace CheckoutContextService

def resolveCurrentCustomerProfile (currentUser : AuthenticatedUser) :
    StoreService CustomerProfileRecord := do
  let found ← .get fun db => (findCurrentCustomerProfile db currentUser).bind fun profile =>
    (db.get (.user, profile.2.userId)).map fun user =>
      (⟨profile.1, profile.2.userId, user.role⟩ : CustomerProfileRecord)
  let profile ← .orFail found
    (fail "Customer profile was not found for the authenticated user." .notFound)
  .require (hasCheckoutCustomerAccess currentUser profile.userId profile.id = true)
    (fail "You are not allowed to access this checkout customer context." .forbidden)
  pure profile

/-- An address of the customer's own. -/
def findOwnAddress (db : Store) (customer : CustomerProfileRecord) (addressId : Id) :
    Option CustomerAddress :=
  (db.get (.customerAddress, addressId)).filter fun address =>
    (db.get (.customerProfile, address.customerProfileId)).any (fun profile =>
      hasCheckoutCustomerAccess customer.asCaller profile.userId address.customerProfileId) &&
        address.customerProfileId == customer.id

def resolveCheckoutAddress (customer : CustomerProfileRecord) (addressId : Option Id) :
    StoreService CustomerAddress := do
  match addressId with
  | some addressId => do
    let address ← .get fun db => findOwnAddress db customer addressId
    .orFail address (fail "The requested checkout address was not found." .notFound)
  | none => do
    let defaultAddress ← .get fun db => ((db.list .customerAddress fun address =>
      address.customerProfileId == customer.id && address.isDefault).head?).map Prod.snd
    .orFail defaultAddress
      (fail "A default delivery address is required before checkout." .unprocessableEntity)

/-- `getOwnedActiveCartAggregateOrEmpty`. -/
def getOwnedActiveCartAggregateOrEmpty (db : Store) (userId branchId : Id) : CartAggregate :=
  ((findActiveCartByUserIdAndBranchId db userId branchId).bind fun cart =>
    findCartAggregateById db cart.1).getD (buildEmptyCartAggregate branchId)

end CheckoutContextService

/-! ## Its validation -/

/-- The database's text for the status. -/
def BranchStatus.text : BranchStatus → String
  | active => "ACTIVE"
  | inactive => "INACTIVE"
  | suspended => "SUSPENDED"

/-- The database's text for the status. -/
def MerchantStatus.text : MerchantStatus → String
  | active => "ACTIVE"
  | suspended => "SUSPENDED"
  | pending => "PENDING"

namespace CheckoutValidation

/-- The branch and its merchant take orders. -/
def assertBranchIsOrderable (branchId : Id) (branch : Branch) (merchant : Merchant) :
    StoreService Unit := do
  .require (branch.status = .active) (fail
    "The requested branch is not currently accepting checkout requests." .unprocessableEntity
    [("branchId", .id branchId), ("branchStatus", .text branch.status.text)])
  .require (merchant.status = .active) (fail
    "The merchant that owns the requested branch is not currently orderable." .unprocessableEntity
    [("branchId", .id branchId), ("merchantId", .id branch.merchantId),
      ("merchantStatus", .text merchant.status.text)])

def notAvailable (item : CartAggregateItem) : Failure :=
  fail "One or more cart items are no longer available for checkout." .unprocessableEntity
    [("cartItemId", .id item.cartItemId), ("menuItemId", .id item.item.menuItemId)]

/-- What is left of a stock, beside what is asked for. -/
def stockDetails (stock : TrackedStock) (quantity : ℤ) : List (String × Detail) :=
  [("stockQuantity", .num (stock.stockQuantity.getD 0)), ("requestedQuantity", .num quantity)]

def assertMenuItemInventoryRemainsAvailable (db : Store) (item : CartAggregateItem) :
    Except Failure Unit :=
  match findItemById db item.item.menuItemId with
  | none => .error (notAvailable item)
  | some current =>
    if current.branchId ≠ item.menuItem.branchId ∨ current.item.isAvailable = false then
      .error (notAvailable item)
    else if current.item.stock.lacks item.item.quantity then
      .error (fail "One or more cart items do not have enough remaining stock for checkout."
        .unprocessableEntity ([("cartItemId", .id item.cartItemId),
          ("menuItemId", .id item.item.menuItemId)] ++
            stockDetails current.item.stock item.item.quantity))
    else .ok ()

def assertSelectedOptionRemainsValid (db : Store) (groups : List (Id × ItemOptionGroup))
    (item : CartAggregateItem) (itemOptionId : Id) : Except Failure (Id × ItemOption) :=
  match findActiveOption db groups itemOptionId with
  | none => .error (fail
      "One or more selected cart item options are no longer valid for checkout."
      .unprocessableEntity
      [("cartItemId", .id item.cartItemId), ("itemOptionId", .id itemOptionId)])
  | some option =>
    if option.2.stock.lacks item.item.quantity then
      .error (fail
        "One or more selected cart item options do not have enough remaining stock for checkout."
        .unprocessableEntity ([("cartItemId", .id item.cartItemId),
          ("itemOptionId", .id itemOptionId)] ++ stockDetails option.2.stock item.item.quantity))
    else .ok option

def assertGroupSelection (item : CartAggregateItem) (selected : List (Id × ItemOption))
    (group : Id × ItemOptionGroup) : Except Failure Unit :=
  let selectedCount : ℤ := (selected.filter fun option => option.2.groupId == group.1).length
  if group.2.minSelect ≤ selectedCount ∧ selectedCount ≤ group.2.maxSelect then .ok ()
  else .error (fail
    "Selected cart item options no longer satisfy the option group selection rules."
    .unprocessableEntity [("cartItemId", .id item.cartItemId),
      ("menuItemId", .id item.item.menuItemId), ("optionGroupId", .id group.1),
      ("minSelect", .num group.2.minSelect), ("maxSelect", .num group.2.maxSelect),
      ("selectedCount", .num selectedCount)])

def assertSelectedVariantCombinationRemainsAvailable (db : Store) (item : CartAggregateItem)
    (groups : List (Id × ItemOptionGroup)) (selected : List (Id × ItemOption)) :
    Except Failure Unit :=
  let selectedVariantOptionIds := (selected.filter fun option => groups.any fun group =>
    group.1 == option.2.groupId && group.2.kind == .variantSelector).map Prod.fst
  if selectedVariantOptionIds = [] then .ok ()
  else
    match findActiveVariantCombination db item.item.menuItemId selectedVariantOptionIds with
    | none => .error (fail
        "Selected cart item options no longer match an active variant combination for checkout."
        .unprocessableEntity [("cartItemId", .id item.cartItemId),
          ("menuItemId", .id item.item.menuItemId),
          ("selectedVariantOptionIds", .ids selectedVariantOptionIds)])
    | some combination =>
      if combination.2.stock.lacks item.item.quantity then .error (fail
        "The selected variant combination does not have enough remaining stock for checkout."
        .unprocessableEntity ([("cartItemId", .id item.cartItemId),
          ("combinationId", .id combination.1)] ++
            stockDetails combination.2.stock item.item.quantity))
      else .ok ()

/-- What is checked of a line; its queries are one here. -/
def checkCartItem (db : Store) (item : CartAggregateItem) : Except Failure Unit := do
  assertMenuItemInventoryRemainsAvailable db item
  let groups := activeOptionGroups db item.item.menuItemId
  let selected ← item.selectedOptions.mapM fun option =>
    assertSelectedOptionRemainsValid db groups item option.2.itemOptionId
  groups.forM fun group => assertGroupSelection item selected group
  assertSelectedVariantCombinationRemainsAvailable db item groups selected

/-- The loop over the lines. -/
def checkCartItems : List CartAggregateItem → StoreService Unit
  | [] => pure ()
  | item :: items => do
    .require (item.menuItem.isAvailable = true) (notAvailable item)
    let checked ← .get fun db => checkCartItem db item
    .ofExcept checked
    checkCartItems items

/-- The cart's id, once the cart is known to be ready. -/
def assertCartReadyForCheckout (branchId : Id) (branch : Branch) (merchant : Merchant)
    (cart : CartAggregate) : StoreService Id := do
  assertBranchIsOrderable branchId branch merchant
  let cartId ← .orFail (if cart.items = [] then none else cart.cartId)
    (fail "A non-empty active cart is required before checkout." .unprocessableEntity)
  .require (cart.branchId = branchId) (fail
    "The requested cart does not belong to the requested branch." .unprocessableEntity
    [("cartBranchId", .id cart.branchId), ("requestedBranchId", .id branchId)])
  checkCartItems cart.items
  pure cartId

end CheckoutValidation

open CheckoutContextService CheckoutValidation

/-- Who orders, from where, and where the order goes to. -/
structure CheckoutParties where
  customer : CustomerProfileRecord
  address : Option CustomerAddress
  branch : Branch
  merchant : Merchant
deriving DecidableEq

def resolveCheckoutParties (currentUser : AuthenticatedUser) (input : SubmitCheckoutInput) :
    StoreService CheckoutParties := do
  let customer ← CheckoutContextService.resolveCurrentCustomerProfile currentUser
  let address ← (if input.deliveryType = some .pickup then pure none
    else do
      let address ← resolveCheckoutAddress customer input.addressId
      pure (some address) : StoreService (Option CustomerAddress))
  let found ← .get fun db => (db.get (.branch, input.branchId)).bind fun branch =>
    (db.get (.merchant, branch.merchantId)).map fun merchant => (branch, merchant)
  let (branch, merchant) ← .orFail found (fail "Branch was not found." .notFound)
  pure ⟨customer, address, branch, merchant⟩

/-- The context, with the id of its cart. -/
def getValidatedCurrentCustomerCheckoutContext (currentUser : AuthenticatedUser)
    (input : SubmitCheckoutInput) : StoreService (CheckoutContext × Id) := do
  let parties ← resolveCheckoutParties currentUser input
  let cart ← .get fun db =>
    getOwnedActiveCartAggregateOrEmpty db currentUser.userId input.branchId
  let cartId ← assertCartReadyForCheckout input.branchId parties.branch parties.merchant cart
  pure (⟨parties.customer, parties.address, input.branchId, cart⟩, cartId)

/-! ## Its price -/

/-- `PromotionPricingEvaluation`. -/
structure PromotionPricingEvaluation where
  promotionId : Id
  discountAmount : ℚ
  deliveryFeeWaived : Bool
deriving DecidableEq

/-- `CheckoutPricingBreakdown`. -/
structure CheckoutPricingBreakdown where
  subtotalAmount : ℚ
  discountAmount : ℚ
  deliveryFee : ℚ
  totalAmount : ℚ
  appliedPromotion : Option PromotionPricingEvaluation
deriving DecidableEq

namespace CheckoutPricing

def normalizePromotionCode (table : CaseTable) (code : Option String) : Option String :=
  let normalized := toUpperCase table (trim (code.getD ""))
  if normalized.length = 0 then none else some normalized

-- what a call does is found without computing codes
attribute [irreducible] normalizePromotionCode

def findPromotionByBranchIdAndCode (db : Store) (branchId : Id) (code : String) :
    Option (Id × Promotion) :=
  (db.list .promotion fun promotion => promotion.branchId == branchId && promotion.code == code &&
    !promotion.isDeleted).head?

def countCustomerUsage (db : Store) (promotionId customerProfileId : Id) : ℕ :=
  (db.list .promotionUsage fun usage => usage.promotionId == promotionId &&
    usage.customerProfileId == customerProfileId).length

section Pricing

variable (round : ℚ → ℚ)

/-- The promotion's own conditions. -/
def checkPromotion (now : Date) (subtotalAmount : ℚ) (promotionId : Id) (promotion : Promotion) :
    StoreService Unit := do
  .require (promotion.startsAt.all (· ≤ now) = true)
    (fail "The promotion code is not active yet." .unprocessableEntity
      [("promotionId", .id promotionId), ("startsAt", .num (promotion.startsAt.getD 0))])
  .require (promotion.endsAt.all (now ≤ ·) = true)
    (fail "The promotion code has expired." .unprocessableEntity
      [("promotionId", .id promotionId), ("endsAt", .num (promotion.endsAt.getD 0))])
  .require (promotion.minimumSubtotalAmount ≤ subtotalAmount)
    (fail "The checkout subtotal does not satisfy the promotion minimum." .unprocessableEntity
      [("promotionId", .id promotionId),
        ("minimumSubtotalAmount", .amount promotion.minimumSubtotalAmount),
        ("subtotalAmount", .amount subtotalAmount)])

def discountOf (promotion : Promotion) (subtotalAmount : ℚ) : ℚ :=
  if promotion.discountType = .freeDelivery then 0
  else
    let uncappedDiscount := if promotion.discountType = .fixedAmount then promotion.discountValue
      else round (round (subtotalAmount * promotion.discountValue) / 100)
    let cappedDiscount := match promotion.maximumDiscountAmount with
      | none => uncappedDiscount
      | some maximum => min uncappedDiscount maximum
    min cappedDiscount subtotalAmount

/-- `evaluatePromotionForCheckout`, for codes in ASCII. -/
def evaluatePromotion (now : Date) (branchId : Id) (subtotalAmount : ℚ)
    (promotionCode : Option String) (customerProfileId : Id) :
    StoreService (Option PromotionPricingEvaluation) := do
  match normalizePromotionCode .ascii promotionCode with
  | none => pure none
  | some code => do
    let found ← .get fun db => findPromotionByBranchIdAndCode db branchId code
    let (promotionId, promotion) ← .orFail (found.filter fun p => p.2.isActive)
      (fail "The promotion code is invalid or unavailable for this branch." .unprocessableEntity
        [("branchId", .id branchId), ("promotionCode", .text code)])
    checkPromotion now subtotalAmount promotionId promotion
    let usageCount ← .get fun db => countCustomerUsage db promotionId customerProfileId
    .require (promotion.perCustomerLimit.all (fun limit => (usageCount : ℤ) < limit) = true)
      (fail "You have already used this promotion the maximum number of times."
        .unprocessableEntity [("promotionId", .id promotionId),
          ("perCustomerLimit", .num (promotion.perCustomerLimit.getD 0)),
          ("usageCount", .num usageCount)])
    pure (some ⟨promotionId, discountOf round promotion subtotalAmount,
      promotion.discountType == .freeDelivery⟩)

def buildPricingBreakdown (now : Date) (context : CheckoutContext)
    (promotionCode : Option String) : StoreService CheckoutPricingBreakdown := do
  let subtotalAmount := context.cart.subtotalAmount
  let promotion ← evaluatePromotion round now context.branchId subtotalAmount promotionCode
    context.customer.id
  let discountAmount := (promotion.map (·.discountAmount)).getD 0
  let deliveryFee : ℚ :=
    if context.address = none ∨ promotion.any (·.deliveryFeeWaived) = true then 0 else 1500
  pure ⟨subtotalAmount, discountAmount, deliveryFee,
    round (round (subtotalAmount - discountAmount) + deliveryFee), promotion⟩

end Pricing

end CheckoutPricing

open CheckoutPricing

/-! ## Its payment -/

/-- `ResolvedCheckoutPaymentProfile`. -/
structure CheckoutPaymentProfile where
  method : PaymentMethod
  provider : PaymentProvider
  status : PaymentStatus
deriving DecidableEq, Repr

def resolvePaymentProfile (paymentMethod : Option PaymentMethod)
    (paymentProvider : Option PaymentProvider) : Except Failure CheckoutPaymentProfile :=
  match paymentMethod.getD .cashOnDelivery with
  | .cashOnDelivery =>
    if paymentProvider.all (· == .cod) then .ok ⟨.cashOnDelivery, .cod, .pending⟩
    else .error (fail "Cash on delivery checkouts must use the COD payment provider."
      .unprocessableEntity)
  | .manual =>
    if paymentProvider.all (· == .manual) then .ok ⟨.manual, .manual, .pending⟩
    else .error (fail "Manual payments must use the MANUAL payment provider."
      .unprocessableEntity)
  | method =>
    if paymentProvider = some .cod then
      .error (fail "Non-cash checkout payments cannot use the COD provider." .unprocessableEntity)
    else .ok ⟨method, paymentProvider.getD .manual, .requiresAction⟩

def findCheckoutPaymentIntentByIdempotencyKey (db : Store) (idempotencyKey : String) :
    Option (Id × Payment) :=
  (db.list .payment fun payment => payment.idempotencyKey == some idempotencyKey).head?

/-- The payment as it is created. -/
def CheckoutPaymentProfile.payment (profile : CheckoutPaymentProfile)
    (orderId customerProfileId : Id) (amount : ℚ) (idempotencyKey : String) : Payment where
  orderId := orderId
  customerProfileId := customerProfileId
  method := profile.method
  provider := profile.provider
  status := profile.status
  amount := amount
  refundedAmount := 0
  idempotencyKey := some idempotencyKey
  providerReference := none
  providerReceiptId := none
  failureCode := none
  failureMessage := none
  attempts := [⟨profile.provider, profile.status, none, none, none⟩]

/-- `paymentId` is the id of the new payment. -/
def createCheckoutPaymentIntent (paymentId orderId customerProfileId : Id) (amount : ℚ)
    (input : SubmitCheckoutInput) : StoreTx (Id × Payment) := do
  let profile ← .ofExcept (resolvePaymentProfile input.paymentMethod input.paymentProvider)
  let payment := profile.payment orderId customerProfileId amount input.idempotencyKey
  .insertRow (.payment, paymentId) payment fun db =>
    if (db.get (.payment, paymentId)).isSome then some (.uniqueConstraint "id")
    else if (findCheckoutPaymentIntentByIdempotencyKey db input.idempotencyKey).isSome then
      some (.uniqueConstraint "idempotencyKey")
    else none
  pure (paymentId, payment)

/-! ## Its order -/

/-- A line of the order before its stock is reserved. -/
structure CheckoutLine where
  line : MenuInventoryOrderLineInput
  unitPriceSnapshot : ℚ
  lineTotal : ℚ
deriving DecidableEq

/-- The line as the order stores it. -/
def CheckoutLine.orderItem (checkoutLine : CheckoutLine)
    (byLineKey : List (Id × List MenuInventoryLotAllocation)) : OrderItem :=
  let line := checkoutLine.line.withAllocations byLineKey
  { menuItemId := line.menuItemId
    quantity := line.quantity
    menuItemStockTrackedSnapshot := line.menuItemStockTrackedSnapshot
    selectedVariantCombinationId := line.selectedVariantCombinationId
    variantCombinationStockTrackedSnapshot := line.variantCombinationStockTrackedSnapshot
    inventoryLotAllocations := line.inventoryLotAllocations
    selectedOptions := line.selectedOptions
    unitPriceSnapshot := checkoutLine.unitPriceSnapshot
    lineTotal := checkoutLine.lineTotal }

/-- An option of the branch's, with its group. -/
def findBranchOption (db : Store) (branchId optionId : Id) :
    Option (ItemOption × ItemOptionGroup) := do
  let option ← db.get (.itemOption, optionId)
  let group ← db.get (.itemOptionGroup, option.groupId)
  let menuItem ← db.get (.menuItem, group.menuItemId)
  if menuItem.branchId = branchId then some (option, group) else none

def buildOrderCartItem (db : Store) (branchId : Id) (item : CartAggregateItem) :
    Except Failure CheckoutLine :=
  let optionIds := item.selectedOptions.map fun option => option.2.itemOptionId
  let selectedVariantOptionIds := optionIds.filter fun optionId =>
    (findBranchOption db branchId optionId).any fun option => option.2.kind == .variantSelector
  let combination := if selectedVariantOptionIds = [] then none
    else findActiveVariantCombination db item.item.menuItemId selectedVariantOptionIds
  if selectedVariantOptionIds ≠ [] ∧ combination = none then
    .error (fail "The selected variant combination is no longer valid for checkout submission."
      .conflict [("menuItemId", .id item.item.menuItemId),
        ("selectedVariantOptionIds", .ids selectedVariantOptionIds)])
  else .ok {
    line := {
      lineKey := some item.cartItemId
      menuItemId := item.item.menuItemId
      quantity := item.item.quantity
      menuItemStockTrackedSnapshot :=
        (db.get (.menuItem, item.item.menuItemId)).any fun menuItem => menuItem.stock.isStockTracked
      selectedVariantCombinationId := combination.map Prod.fst
      variantCombinationStockTrackedSnapshot :=
        combination.any fun combination => combination.2.stock.isStockTracked
      inventoryLotAllocations := []
      selectedOptions := optionIds.map fun optionId => ⟨optionId,
        (findBranchOption db branchId optionId).any fun option => option.1.stock.isStockTracked⟩ }
    unitPriceSnapshot := item.item.unitPriceSnapshot
    lineTotal := item.item.lineTotal }

def findByIdempotencyKey (db : Store) (idempotencyKey : String) : Option (Id × Order) :=
  (db.list .order fun order => order.idempotencyKey == some idempotencyKey).head?

def createCheckoutOrder (orderId : Id) (order : Order) : StoreTx Unit :=
  .insertRow (.order, orderId) order fun db =>
    if (db.get (.order, orderId)).isSome then some (.uniqueConstraint "id")
    else if !(db.list .order fun o => o.orderCode == order.orderCode).isEmpty then
      some (.uniqueConstraint "orderCode")
    else if !(db.list .order fun o => sameUnique o.idempotencyKey order.idempotencyKey).isEmpty then
      some (.uniqueConstraint "idempotencyKey")
    else none

def createUsage (usageId : Id) (usage : PromotionUsage) : StoreTx Unit :=
  .insertRow (.promotionUsage, usageId) usage fun db =>
    if (db.get (.promotionUsage, usageId)).isSome then some (.uniqueConstraint "id")
    else if !(db.list .promotionUsage fun u => u.orderId == usage.orderId).isEmpty then
      some (.uniqueConstraint "orderId")
    else none

/-! ## The submission -/

/-- The ids, the order's code and the time that a submission makes up. -/
structure CheckoutIds where
  orderId : Id
  orderCode : String
  paymentId : Id
  usageId : Id
  now : Date
deriving DecidableEq, Repr

/-- `CheckoutSubmissionEntity`. -/
structure CheckoutSubmission where
  orderId : Id
  order : Order
  paymentIntent : Id × Payment
  isIdempotentReplay : Bool
deriving DecidableEq

def assertIdempotentOrderBelongsToCustomer (currentUser : AuthenticatedUser)
    (context : CheckoutContext) (customerProfileId : Id) : Except Failure Unit :=
  if hasCheckoutCustomerAccess currentUser context.customer.userId customerProfileId = true ∧
      customerProfileId = context.customer.id then .ok ()
  else .error (fail
    "The provided idempotency key is already in use by another checkout request." .conflict)

/-- The payment of an order that was placed before; one is created if it has none. -/
def resolveExistingOrCreatePaymentIntent (ids : CheckoutIds) (input : SubmitCheckoutInput)
    (existing : Id × Order) : StoreTx (Id × Payment) := do
  let found ← .read fun db => findCheckoutPaymentIntentByIdempotencyKey db input.idempotencyKey
  match found with
  | some payment => pure payment
  | none =>
    createCheckoutPaymentIntent ids.paymentId existing.1 existing.2.customerProfileId
      existing.2.totalAmount input

section Submission

variable (round : ℚ → ℚ)

/-- The order of a submission. -/
def checkoutOrder (ids : CheckoutIds) (input : SubmitCheckoutInput) (context : CheckoutContext)
    (cartId : Id) (pricing : CheckoutPricingBreakdown) (items : List OrderItem) : Order where
  orderCode := ids.orderCode
  customerProfileId := context.customer.id
  branchId := context.branchId
  cartId := some cartId
  idempotencyKey := some input.idempotencyKey
  promotionId := pricing.appliedPromotion.map (·.promotionId)
  status := .placed
  deliveryType := input.deliveryType.getD .delivery
  subtotalAmount := pricing.subtotalAmount
  discountAmount := pricing.discountAmount
  deliveryFee := if input.deliveryType = some .pickup then 0 else pricing.deliveryFee
  totalAmount := if input.deliveryType = some .pickup then
      round (pricing.subtotalAmount - pricing.discountAmount)
    else pricing.totalAmount
  deliveryTownship := context.address.map (·.township)
  placedAt := ids.now
  items := items
  statusHistory := [⟨none, .placed, some "checkout_submitted", none⟩]

/-- The promotion's usage, if one is applied. -/
def createAppliedUsage (ids : CheckoutIds) (customerProfileId : Id)
    (appliedPromotion : Option PromotionPricingEvaluation) : StoreTx Unit :=
  match appliedPromotion with
  | some promotion => createUsage ids.usageId ⟨promotion.promotionId, customerProfileId, ids.orderId⟩
  | none => pure ()

/-- What a new order is made of: its stock, itself, its payment, its cart and its promotion. -/
def placeOrder (ids : CheckoutIds) (input : SubmitCheckoutInput) (context : CheckoutContext)
    (cartId : Id) (pricing : CheckoutPricingBreakdown) : StoreTx CheckoutSubmission := do
  let lines ← .check fun db => context.cart.items.mapM fun item =>
    buildOrderCartItem db context.branchId item
  let reserved ← reserveTrackedInventoryForOrder (lines.map (·.line))
  let order := checkoutOrder round ids input context cartId pricing
    (lines.map (·.orderItem reserved.inventoryLotAllocationsByLineKey))
  createCheckoutOrder ids.orderId order
  let payment ← createCheckoutPaymentIntent ids.paymentId ids.orderId context.customer.id
    pricing.totalAmount input
  updateCart cartId fun cart => { cart with status := .checkedOut }
  createAppliedUsage ids context.customer.id pricing.appliedPromotion
  pure ⟨ids.orderId, order, payment, false⟩

/-- The transaction. -/
def submitOrder (ids : CheckoutIds) (currentUser : AuthenticatedUser) (input : SubmitCheckoutInput)
    (context : CheckoutContext) (cartId : Id) (pricing : CheckoutPricingBreakdown) :
    StoreTx CheckoutSubmission := do
  let existing ← .read fun db => findByIdempotencyKey db input.idempotencyKey
  match existing with
  | some existing => do
    .ofExcept (assertIdempotentOrderBelongsToCustomer currentUser context
      existing.2.customerProfileId)
    let payment ← resolveExistingOrCreatePaymentIntent ids input existing
    pure ⟨existing.1, existing.2, payment, true⟩
  | none => placeOrder round ids input context cartId pricing

/-- When another request has just used the key, its order is returned after all. The payment is
looked for, and created if need be, with neither the method nor the provider of the request. -/
def tryResolveReplayAfterUniqueConstraint (ids : CheckoutIds) (input : SubmitCheckoutInput)
    (context : CheckoutContext) (error : Failure) : StoreService CheckoutSubmission := do
  if error ≠ .uniqueConstraint "idempotencyKey" then .throw error
  else do
    let existing ← .get fun db => findByIdempotencyKey db input.idempotencyKey
    let existing ← .orFail existing error
    .ofExcept (assertIdempotentOrderBelongsToCustomer context.customer.asCaller context
      existing.2.customerProfileId)
    let found ← .get fun db => findCheckoutPaymentIntentByIdempotencyKey db input.idempotencyKey
    match found with
    | some payment => pure ⟨existing.1, existing.2, payment, true⟩
    | none => do
      let payment ← .transaction (createCheckoutPaymentIntent ids.paymentId existing.1
        existing.2.customerProfileId existing.2.totalAmount
        { input with paymentMethod := none, paymentProvider := none })
      pure ⟨existing.1, existing.2, payment, true⟩

/-- What follows the transaction, a timer, messages and alerts, is left out: its failures are
only logged. -/
def submitCurrentCustomerCheckout (ids : CheckoutIds) (currentUser : AuthenticatedUser)
    (input : SubmitCheckoutInput) : StoreService CheckoutSubmission := do
  let (context, cartId) ← getValidatedCurrentCustomerCheckoutContext currentUser input
  let pricing ← buildPricingBreakdown round ids.now context input.promotionCode
  .tx (submitOrder round ids currentUser input context cartId pricing) fun outcome =>
    match outcome with
    | .ok submission => .ret submission
    | .error error => tryResolveReplayAfterUniqueConstraint ids input context error

end Submission

end WerTe
