import WerTe.OrderOperations

/-!
# The lifecycle of a payment

`payment-lifecycle.service.ts`: a payment is confirmed, failed, cancelled or expired, by an
administrator or on a provider's word. A payment that fails cancels an order that is still
placed, in the same transaction.
-/

namespace WerTe

open ReadCommitted OrdersRepository

/-! ## `payments.repository.ts` -/

/-- A payment with the status of its order. -/
structure PaymentSummaryRecord where
  id : Id
  payment : Payment
  orderStatus : OrderStatus
deriving DecidableEq

/-- What a transition writes to a payment. -/
structure PaymentTransitionInput where
  status : PaymentStatus
  provider : PaymentProvider
  providerReference : Option String
  providerReceiptId : Option String
  failureCode : Option String
  failureMessage : Option String
deriving DecidableEq, Repr

/-- The payment after a transition. -/
def Payment.transition (payment : Payment) (payload : PaymentTransitionInput) : Payment :=
  { payment with
    provider := payload.provider
    status := payload.status
    providerReference := payload.providerReference
    providerReceiptId := payload.providerReceiptId
    failureCode := payload.failureCode
    failureMessage := payload.failureMessage
    attempts := payment.attempts ++ [⟨payload.provider, payload.status, payload.providerReference,
      payload.failureCode, payload.failureMessage⟩] }

namespace PaymentsRepository

def findById (db : Store) (paymentId : Id) : Option PaymentSummaryRecord := do
  let payment ← db.get (.payment, paymentId)
  let order ← db.get (.order, payment.orderId)
  return ⟨paymentId, payment, order.status⟩

/-- The status is written whatever it was before. -/
def transitionPaymentStatus (paymentId : Id) (payload : PaymentTransitionInput) :
    StoreTx PaymentSummaryRecord := do
  .updateExisting (.payment, paymentId) (fun payment => payment.transition payload) .recordNotFound
  let payment ← .read fun db => findById db paymentId
  .orFail payment .recordNotFound

theorem get_of_findById {db : Store} {paymentId : Id} {record : PaymentSummaryRecord}
    (h : findById db paymentId = some record) :
    record.id = paymentId ∧ db.get (.payment, paymentId) = some record.payment ∧
      ∃ order, db.get (.order, record.payment.orderId) = some order ∧
        record.orderStatus = order.status := by
  simp only [findById, Option.bind_eq_bind, Option.bind_eq_some_iff, Option.pure_def,
    Option.some.injEq] at h
  obtain ⟨payment, hpayment, order, horder, rfl⟩ := h
  exact ⟨rfl, hpayment, order, horder, rfl⟩

theorem findById_eq_some {db : Store} {paymentId : Id} {payment : Payment} {order : Order}
    (hpayment : db.get (.payment, paymentId) = some payment)
    (horder : db.get (.order, payment.orderId) = some order) :
    findById db paymentId = some ⟨paymentId, payment, order.status⟩ := by
  simp [findById, hpayment, horder]

end PaymentsRepository

open PaymentsRepository

/-! ## The service -/

def hasAdminFinanceAccess (currentUser : AuthenticatedUser) : Bool := currentUser.role == .admin

/-- `PaymentLifecycleConfig`; all four transitions have the same `allowedFrom`. -/
structure PaymentLifecycleConfig where
  targetStatus : PaymentStatus
  conflictMessage : String
  defaultReasonCode : String
deriving DecidableEq, Repr

/-- `PaymentLifecycleInput`, and whether the caller vouches for the actor. -/
structure PaymentLifecycleInput where
  paymentId : Id
  providerReference : Option String
  providerReceiptId : Option String
  reasonCode : Option String
  note : Option String
  failureCode : Option String
  failureMessage : Option String
  skipAdminFinanceAccess : Bool
deriving DecidableEq, Repr

def inProgressPaymentStatuses : List PaymentStatus := [.pending, .requiresAction, .processing]

def shouldAutoCancelOrder (payment : PaymentSummaryRecord) (targetStatus : PaymentStatus) : Bool :=
  if targetStatus ≠ .failed ∧ targetStatus ≠ .cancelled ∧ targetStatus ≠ .expired then false
  else if payment.orderStatus ≠ .placed then false
  else payment.payment.method != .cashOnDelivery

/-- The cancellation of the payment's order. The order is read again for its lines, and
whether they are given back is decided on the status read then. -/
def autoCancelOrder (payment : PaymentSummaryRecord) (reasonCode note : Option String) :
    StoreTx Unit := do
  let orderDetail ← .read fun db => findOrderDetailById db payment.payment.orderId
  updateOrderStatus payment.payment.orderId {
    status := .cancelled
    fromStatus := payment.orderStatus
    reasonCode := reasonCode
    note := note }
  match orderDetail with
  | none => pure ()
  | some record =>
    if shouldReleaseInventoryForOrderTransition record.order.status .cancelled then
      restoreTrackedInventoryForOrder record.order.inventoryLines
    else pure ()

def handlePaymentTransition (currentUser : AuthenticatedUser) (input : PaymentLifecycleInput)
    (config : PaymentLifecycleConfig) : StoreService Unit := do
  .require (input.skipAdminFinanceAccess = true ∨ hasAdminFinanceAccess currentUser = true)
    (fail "Only admins can manage payments." .forbidden)
  let found ← .get fun db => findById db input.paymentId
  let currentPayment ← .orFail found (fail "Payment was not found." .notFound)
  if currentPayment.payment.status = config.targetStatus then pure ()
  else do
    .require (inProgressPaymentStatuses.contains currentPayment.payment.status = true)
      (fail config.conflictMessage .conflict)
    .transaction (do
      let transitionedPayment ← transitionPaymentStatus input.paymentId {
        status := config.targetStatus
        provider := currentPayment.payment.provider
        providerReference := input.providerReference <|> currentPayment.payment.providerReference
        providerReceiptId := input.providerReceiptId <|> currentPayment.payment.providerReceiptId
        failureCode := input.failureCode
        failureMessage := input.failureMessage }
      if shouldAutoCancelOrder transitionedPayment config.targetStatus then
        autoCancelOrder transitionedPayment
          (some (input.reasonCode.getD config.defaultReasonCode)) input.note
      else pure ())

def confirmPaymentConfig : PaymentLifecycleConfig where
  targetStatus := .succeeded
  conflictMessage := "This payment can no longer be confirmed."
  defaultReasonCode := "payment_succeeded"

def failPaymentConfig : PaymentLifecycleConfig where
  targetStatus := .failed
  conflictMessage := "This payment can no longer be marked as failed."
  defaultReasonCode := "payment_failed"

def cancelPaymentConfig : PaymentLifecycleConfig where
  targetStatus := .cancelled
  conflictMessage := "This payment can no longer be cancelled."
  defaultReasonCode := "payment_cancelled"

def expirePaymentConfig : PaymentLifecycleConfig where
  targetStatus := .expired
  conflictMessage := "This payment can no longer be expired."
  defaultReasonCode := "payment_expired"

def confirmCurrentPayment (currentUser : AuthenticatedUser) (input : PaymentLifecycleInput) :
    StoreService Unit := handlePaymentTransition currentUser input confirmPaymentConfig

def failCurrentPayment (currentUser : AuthenticatedUser) (input : PaymentLifecycleInput) :
    StoreService Unit := handlePaymentTransition currentUser input failPaymentConfig

def cancelCurrentPayment (currentUser : AuthenticatedUser) (input : PaymentLifecycleInput) :
    StoreService Unit := handlePaymentTransition currentUser input cancelPaymentConfig

def expireCurrentPayment (currentUser : AuthenticatedUser) (input : PaymentLifecycleInput) :
    StoreService Unit := handlePaymentTransition currentUser input expirePaymentConfig

end WerTe
