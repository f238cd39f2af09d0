import WerTe.OrdersRepository

/-!
# Operations on an order's status

* `order-cancellation.service.ts`: the customer's cancellation and the system's.
* `merchant-order-handling.service.ts`: the merchant's five actions.
* `admin-order-operations.service.ts`: the administrator's cancellation and override.
* `order-timeout.job.ts`: the merchant and the rider timeout.

All of them read the order first, decide on what they read, and then write the new status
in a transaction of their own (`changeOrderStatus`), which gives the order's stock back if
the status they read and the one they write say so. What is reported to the caller, the
notifications and the alerts that follow the transaction are left out.
-/

namespace WerTe

open ReadCommitted OrdersRepository

/-! ## `order-inventory-lifecycle.helper.ts` -/

def inventoryReleaseToStatuses : List OrderStatus := [.cancelled, .merchantRejected]

def inventoryReleasableFromStatuses : List OrderStatus := [.placed, .merchantAccepted]

def shouldReleaseInventoryForOrderTransition (fromStatus toStatus : OrderStatus) : Bool :=
  if fromStatus = toStatus then false
  else
    inventoryReleaseToStatuses.contains toStatus &&
      inventoryReleasableFromStatuses.contains fromStatus

/-! ## `order-policy.service.ts` -/

def customerCancellableStatuses : List OrderStatus :=
  [.placed, .merchantAccepted, .preparing, .ready]

def adminCancellableStatuses : List OrderStatus :=
  [.placed, .merchantAccepted, .preparing, .ready, .riderAssigned, .riderAccepted, .pickedUp,
    .onTheWay]

def hasCustomerOrderAccess (currentUser : AuthenticatedUser) (record : OrderDetailRecord) : Bool :=
  hasOwnedResourceAccess currentUser .customer record.customerUserId
    record.order.customerProfileId currentUser.customerProfileId

def hasMerchantOrderAccess (currentUser : AuthenticatedUser) (record : OrderDetailRecord) : Bool :=
  hasOwnedResourceAccess currentUser .merchant record.merchantUserId record.merchantId
    currentUser.merchantId

def canViewAdminOrders (currentUser : AuthenticatedUser) : Bool := currentUser.role == .admin

def canCancelCustomerOrder (currentUser : AuthenticatedUser) (record : OrderDetailRecord) : Bool :=
  hasCustomerOrderAccess currentUser record &&
    customerCancellableStatuses.contains record.order.status

def canMerchantAccept (currentUser : AuthenticatedUser) (record : OrderDetailRecord) : Bool :=
  hasMerchantOrderAccess currentUser record && record.order.status == .placed

def canMerchantReject (currentUser : AuthenticatedUser) (record : OrderDetailRecord) : Bool :=
  hasMerchantOrderAccess currentUser record && record.order.status == .placed

/-- Orders that are picked up are prepared once accepted, the others once a rider has
accepted too. -/
def canMarkPreparing (currentUser : AuthenticatedUser) (record : OrderDetailRecord) : Bool :=
  if !hasMerchantOrderAccess currentUser record then false
  else if record.order.deliveryType = .pickup then record.order.status == .merchantAccepted
  else record.order.status == .riderAccepted

def canMarkReady (currentUser : AuthenticatedUser) (record : OrderDetailRecord) : Bool :=
  hasMerchantOrderAccess currentUser record && record.order.status == .preparing

def canMerchantConfirmPickup (currentUser : AuthenticatedUser) (record : OrderDetailRecord) :
    Bool :=
  hasMerchantOrderAccess currentUser record && record.order.deliveryType == .pickup &&
    record.order.status == .ready

def canAdminOverrideStatus (currentUser : AuthenticatedUser) : Bool := currentUser.role == .admin

def canAdminCancelOrder (currentUser : AuthenticatedUser) (record : OrderDetailRecord) : Bool :=
  canViewAdminOrders currentUser && adminCancellableStatuses.contains record.order.status

/-! ## The transaction -/

/-- Write the new status, and give the order's stock back if that transition releases it. -/
def changeOrderStatus (record : OrderDetailRecord) (payload : UpdateOrderStatusInput) :
    StoreTx Unit := do
  updateOrderStatus record.id payload
  if shouldReleaseInventoryForOrderTransition payload.fromStatus payload.status then
    restoreTrackedInventoryForOrder record.order.inventoryLines
  else pure ()

/-- The payments that a delivery settles: cash on delivery, still pending. -/
def settleCashOnDelivery (orderId : Id) : StoreTx Unit :=
  .update fun db =>
    let payments := db.list .payment fun payment =>
      payment.orderId == orderId && payment.method == .cashOnDelivery && payment.status == .pending
    ((), payments.map fun p => ⟨.payment, p.1, some { p.2 with status := .succeeded }⟩)

/-! ## The customer and the system cancel -/

def cancelCurrentCustomerOrder (currentUser : AuthenticatedUser) (orderId : Id)
    (reasonCode note : Option String) : StoreService Unit := do
  let customerProfileId ← .orFail currentUser.customerProfileId
    (fail "The authenticated actor does not have a customer profile scope." .forbidden)
  let found ← .get fun db => findCustomerOrderDetail db orderId customerProfileId
  let record ← .orFail found (fail "Order was not found." .notFound)
  if record.order.status = .cancelled then pure ()
  else do
    .require (canCancelCustomerOrder currentUser record = true)
      (fail "This order can no longer be cancelled by the customer." .conflict)
    .transaction (changeOrderStatus record {
      status := .cancelled
      fromStatus := record.order.status
      reasonCode := some (reasonCode.getD "customer_cancelled")
      note := note })

/-- Used when no rider can be found for an order. -/
def cancelOrderForSystem (orderId : Id) (reasonCode : String) : StoreService Unit := do
  let found ← .get fun db => findOrderDetailById db orderId
  match found with
  | none => pure ()
  | some record =>
    if record.order.status = .cancelled then pure ()
    else
      .transaction (changeOrderStatus record {
        status := .cancelled
        fromStatus := record.order.status
        reasonCode := some reasonCode
        note := none })

/-! ## The merchant -/

/-- `MerchantActionConfig`. -/
structure MerchantActionConfig where
  targetStatus : OrderStatus
  defaultReasonCode : String
  canTransition : AuthenticatedUser → OrderDetailRecord → Bool
  conflictMessage : String

/-- `handleMerchantAction` up to the end of its transaction; the order as it was read, unless
there was nothing to do. -/
def merchantTransition (currentUser : AuthenticatedUser) (orderId : Id)
    (reasonCode note : Option String) (config : MerchantActionConfig) :
    StoreService (Option OrderDetailRecord) := do
  let merchantId ← .orFail currentUser.merchantId
    (fail "The authenticated actor does not have a merchant scope." .forbidden)
  let found ← .get fun db => findMerchantOrderDetail db orderId merchantId
  let record ← .orFail found (fail "Order was not found." .notFound)
  if record.order.status = config.targetStatus then pure none
  else do
    .require (config.canTransition currentUser record = true)
      (fail config.conflictMessage .conflict)
    .transaction (do
      changeOrderStatus record {
        status := config.targetStatus
        fromStatus := record.order.status
        reasonCode := some (reasonCode.getD config.defaultReasonCode)
        note := note }
      if config.targetStatus = .delivered then settleCashOnDelivery orderId else pure ())
    pure (some record)

/-- `_autoAdvancePickupToReady`. -/
def autoAdvancePickupToReady (currentUser : AuthenticatedUser) (orderId : Id) :
    StoreService Unit := do
  let _ ← merchantTransition currentUser orderId (some "auto_pickup_advance") none {
    targetStatus := .preparing
    defaultReasonCode := "auto_pickup_advance"
    canTransition := canMarkPreparing
    conflictMessage := "Auto-advance PREPARING failed for pickup order." }
  let _ ← merchantTransition currentUser orderId (some "auto_pickup_advance") none {
    targetStatus := .ready
    defaultReasonCode := "auto_pickup_advance"
    canTransition := canMarkReady
    conflictMessage := "Auto-advance READY failed for pickup order." }
  pure ()

def handleMerchantAction (currentUser : AuthenticatedUser) (orderId : Id)
    (reasonCode note : Option String) (config : MerchantActionConfig) : StoreService Unit := do
  let transitioned ← merchantTransition currentUser orderId reasonCode note config
  match transitioned with
  | none => pure ()
  | some record =>
    if config.targetStatus = .merchantAccepted ∧ record.order.deliveryType = .pickup then
      autoAdvancePickupToReady currentUser orderId
    else pure ()

def acceptConfig : MerchantActionConfig where
  targetStatus := .merchantAccepted
  defaultReasonCode := "merchant_accepted"
  canTransition := canMerchantAccept
  conflictMessage := "This order can no longer be accepted by the merchant."

def rejectConfig : MerchantActionConfig where
  targetStatus := .merchantRejected
  defaultReasonCode := "merchant_rejected"
  canTransition := canMerchantReject
  conflictMessage := "This order can no longer be rejected by the merchant."

def preparingConfig : MerchantActionConfig where
  targetStatus := .preparing
  defaultReasonCode := "merchant_preparing"
  canTransition := canMarkPreparing
  conflictMessage := "This order cannot be marked as preparing by the merchant."

def readyConfig : MerchantActionConfig where
  targetStatus := .ready
  defaultReasonCode := "merchant_ready"
  canTransition := canMarkReady
  conflictMessage := "This order cannot be marked as ready by the merchant."

def confirmPickupConfig : MerchantActionConfig where
  targetStatus := .delivered
  defaultReasonCode := "customer_pickup_confirmed"
  canTransition := canMerchantConfirmPickup
  conflictMessage :=
    "This order cannot be confirmed as picked up. It must be a PICKUP order in READY status."

def acceptCurrentMerchantOrder (currentUser : AuthenticatedUser) (orderId : Id)
    (reasonCode note : Option String) : StoreService Unit :=
  handleMerchantAction currentUser orderId reasonCode note acceptConfig

def rejectCurrentMerchantOrder (currentUser : AuthenticatedUser) (orderId : Id)
    (reasonCode note : Option String) : StoreService Unit :=
  handleMerchantAction currentUser orderId reasonCode note rejectConfig

def markPreparingCurrentMerchantOrder (currentUser : AuthenticatedUser) (orderId : Id)
    (reasonCode note : Option String) : StoreService Unit :=
  handleMerchantAction currentUser orderId reasonCode note preparingConfig

def markReadyCurrentMerchantOrder (currentUser : AuthenticatedUser) (orderId : Id)
    (reasonCode note : Option String) : StoreService Unit :=
  handleMerchantAction currentUser orderId reasonCode note readyConfig

def confirmPickupCurrentMerchantOrder (currentUser : AuthenticatedUser) (orderId : Id)
    (reasonCode note : Option String) : StoreService Unit :=
  handleMerchantAction currentUser orderId reasonCode note confirmPickupConfig

/-! ## The administrator -/

def requireAdminAccess (currentUser : AuthenticatedUser) : StoreService Unit :=
  .require (canViewAdminOrders currentUser = true)
    (fail "You are not allowed to perform admin order actions." .forbidden)

def cancelAdminOrder (currentUser : AuthenticatedUser) (orderId : Id)
    (reasonCode note : Option String) : StoreService Unit := do
  requireAdminAccess currentUser
  let found ← .get fun db => findOrderDetailById db orderId
  let record ← .orFail found (fail "Order was not found." .notFound)
  if record.order.status = .cancelled then pure ()
  else do
    .require (canAdminCancelOrder currentUser record = true)
      (fail "This order can no longer be cancelled by the admin control plane." .conflict)
    .transaction (changeOrderStatus record {
      status := .cancelled
      fromStatus := record.order.status
      reasonCode := some ((normalizeOptionalString reasonCode).getD "admin_cancelled")
      note := normalizeOptionalString note })

def AdminOrderOperations.requireReasonCode (reasonCode : String) : StoreService String :=
  .orFail (normalizeOptionalString (some reasonCode))
    (fail "A reason code is required for admin order status overrides." .unprocessableEntity)

def overrideAdminOrderStatus (currentUser : AuthenticatedUser) (orderId : Id)
    (status : OrderStatus) (reasonCode : String) (note : Option String) : StoreService Unit := do
  requireAdminAccess currentUser
  let reasonCode ← AdminOrderOperations.requireReasonCode reasonCode
  let found ← .get fun db => findOrderDetailById db orderId
  let record ← .orFail found (fail "Order was not found." .notFound)
  if record.order.status = status then pure ()
  else do
    .require (canAdminOverrideStatus currentUser = true)
      (fail "You are not allowed to override order statuses." .forbidden)
    .transaction (changeOrderStatus record {
      status := status
      fromStatus := record.order.status
      reasonCode := some reasonCode
      note := normalizeOptionalString note })

/-! ## The timeouts -/

/-- `cancelAndNotify`, from the order as the job has read it. -/
def cancelAndNotify (record : OrderDetailRecord) (reasonCode : String) : StoreService Unit :=
  .transaction (changeOrderStatus record {
    status := .cancelled
    fromStatus := record.order.status
    reasonCode := some reasonCode
    note := none })

/-- Cancel if the order is still placed. -/
def handleMerchantTimeout (orderId : Id) : StoreService Unit := do
  let found ← .get fun db => findOrderDetailById db orderId
  match found with
  | none => pure ()
  | some record =>
    if record.order.status ≠ .placed then pure ()
    else cancelAndNotify record "merchant_timeout"

/-- Cancel if the order is still accepted and no rider is assigned. -/
def handleRiderTimeout (orderId : Id) : StoreService Unit := do
  let found ← .get fun db => findOrderDetailById db orderId
  match found with
  | none => pure ()
  | some record =>
    let hasAssignedRider := record.delivery.any fun d => d.2.riderId.isSome
    if record.order.status ≠ .merchantAccepted ∨ hasAssignedRider = true then pure ()
    else cancelAndNotify record "rider_timeout"

end WerTe
