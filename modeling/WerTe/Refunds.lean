import WerTe.OrderEvents
import WerTe.PaymentLifecycle
import WerTe.ReadCommitted.History

/-!
# Refunds

`refund-operations.service.ts` and `refunds.repository.ts`: an administrator asks for a refund of a
completed payment, of an amount that is given as a text. The amount is checked against what is
left of the payment once its other refunds are taken off, and what is stored is what the column
makes of it.
-/

namespace WerTe

open ReadCommitted Numeral

/-- What the code takes from the `Decimal` library and from the column of a refund's amount. -/
structure DecimalRuntime where
  /-- `new Decimal`, which throws on a text that it cannot read -/
  newDecimal : String → Option Decimal
  /-- the rounding of sums and differences to the library's precision -/
  round : ℚ → ℚ
  /-- what the column holds of an amount, if it takes it -/
  column : Decimal → Option Decimal

/-- A refund with its id. -/
structure RefundSummaryRecord where
  id : Id
  refund : Refund
deriving DecidableEq

/-! ## `refunds.repository.ts` -/

structure CreateRefundInput where
  paymentId : Id
  orderId : Id
  status : RefundStatus
  amount : Decimal
  idempotencyKey : Option String
  providerReference : Option String
  reasonCode : Option String
  note : Option String
  provider : PaymentProvider

namespace RefundsRepository

/-- The latest first. -/
def requestedAfter (left right : RefundSummaryRecord) : Bool :=
  ((compare right.refund.requestedAt left.refund.requestedAt).then
    (compare right.id left.id)) != .gt

def findPaymentRefunds (db : Store) (paymentId : Id) : List RefundSummaryRecord :=
  ((db.list .refund (·.paymentId == paymentId)).map fun row => ⟨row.1, row.2⟩).insertionSort
    fun left right => requestedAfter left right

def findByIdempotencyKey (db : Store) (idempotencyKey : String) : Option RefundSummaryRecord :=
  (db.list .refund (·.idempotencyKey == some idempotencyKey)).head?.map fun row => ⟨row.1, row.2⟩

/-- The refund as it is created, with what the column holds of its amount. -/
def newRefund (payload : CreateRefundInput) (stored : Decimal) (now : Date) : Refund where
  paymentId := payload.paymentId
  orderId := payload.orderId
  status := payload.status
  amount := stored
  idempotencyKey := payload.idempotencyKey
  providerReference := payload.providerReference
  reasonCode := payload.reasonCode
  note := payload.note
  failureCode := none
  failureMessage := none
  requestedAt := now
  attempts := [⟨payload.provider, payload.status, payload.providerReference, none, none⟩]

/-- `refundId` is the id of the new refund. -/
def createRefundRequest (decimals : DecimalRuntime) (refundId : Id) (now : Date)
    (payload : CreateRefundInput) : StoreTx RefundSummaryRecord := do
  let stored ← .orFail (decimals.column payload.amount) (.invalidArgument "amount")
  let refund := newRefund payload stored now
  .insertRow (.refund, refundId) refund fun db =>
    if (db.get (.refund, refundId)).isSome then some (.uniqueConstraint "id")
    else if (payload.idempotencyKey.bind (RefundsRepository.findByIdempotencyKey db)).isSome then
      some (.uniqueConstraint "idempotencyKey")
    else none
  .ret ⟨refundId, refund⟩

end RefundsRepository

/-- A payment with its refunds. -/
structure PaymentRefundsRecord extends PaymentSummaryRecord where
  refunds : List RefundSummaryRecord
deriving DecidableEq

namespace PaymentsRepository

def findByIdWithRefunds (db : Store) (paymentId : Id) : Option PaymentRefundsRecord :=
  (findById db paymentId).map fun record =>
    { record with refunds := RefundsRepository.findPaymentRefunds db paymentId }

end PaymentsRepository

/-! ## `refund-operations.service.ts` -/

namespace RefundOperations

open RefundsRepository PaymentsRepository

structure RequestRefundInput where
  paymentId : Id
  amount : String
  idempotencyKey : Option String := none
  providerReference : Option String := none
  reasonCode : Option String := none
  note : Option String := none
deriving DecidableEq, Repr

def refundablePaymentStatuses : List PaymentStatus := [.succeeded, .partiallyRefunded]

def reservedRefundStatuses : List RefundStatus := [.pending, .processing, .succeeded]

section Amounts

variable (decimals : DecimalRuntime)

def parsePositiveAmount (value : String) : Except Failure Decimal :=
  match decimals.newDecimal value with
  | none => .error (fail "Refund amount is invalid." .badRequest)
  | some amount =>
    if amount.lessThanOrEqualTo (.finite 0) then
      .error (fail "Refund amount must be greater than zero." .unprocessableEntity)
    else .ok amount

def computeAvailableRefundableAmount (payment : PaymentRefundsRecord) : Decimal :=
  let reservedAmount := payment.refunds.foldl (fun total record =>
    if reservedRefundStatuses.contains record.refund.status then
      total.add decimals.round record.refund.amount
    else total) (.finite 0)
  let availableAmount := (Decimal.finite payment.payment.amount).sub decimals.round reservedAmount
  if availableAmount.lessThan (.finite 0) then .finite 0 else availableAmount

end Amounts

/-- One request: the ids of the refund and of the message that it makes, and what the message says
of a refund, as metadata and as text. -/
structure RefundCall where
  refundId : Id
  messageId : Id
  now : Date
  currentUser : AuthenticatedUser
  input : RequestRefundInput
  metadata : RefundSummaryRecord → String
  body : RefundSummaryRecord → String

def publishRefundEvent (call : RefundCall) (code : SystemMessageCode)
    (refund : RefundSummaryRecord) : StoreService (Except Failure Unit) :=
  (SystemMessageService.publishOrderEventOrThrow call.messageId call.now call.currentUser {
    orderId := refund.refund.orderId
    code := code
    metadata := some (call.metadata refund)
    body := call.body refund }).attempt

/-- What is asked to be created. -/
def refundRequest (input : RequestRefundInput) (payment : PaymentRefundsRecord)
    (amount : Decimal) : CreateRefundInput where
  paymentId := payment.id
  orderId := payment.payment.orderId
  status := .pending
  amount := amount
  idempotencyKey := input.idempotencyKey
  providerReference := input.providerReference
  reasonCode := some (input.reasonCode.getD "admin_requested_refund")
  note := input.note
  provider := payment.payment.provider

/-- The amount is checked against what is left of the payment, and the refund created. -/
def requestRefundOf (decimals : DecimalRuntime) (call : RefundCall)
    (payment : PaymentRefundsRecord) : StoreService RefundSummaryRecord := do
  let requestedAmount ← .ofExcept (parsePositiveAmount decimals call.input.amount)
  let availableAmount := computeAvailableRefundableAmount decimals payment
  .require (requestedAmount.greaterThan availableAmount = false)
    (fail "The requested refund amount exceeds the refundable balance." .unprocessableEntity)
  let refund ← .transaction (createRefundRequest decimals call.refundId call.now
    (refundRequest call.input payment requestedAmount))
  let _ ← publishRefundEvent call .refundRequested refund
  .ret refund

/-- What comes after the idempotency key has been looked up. -/
def requestNewRefund (decimals : DecimalRuntime) (call : RefundCall) :
    StoreService RefundSummaryRecord := do
  let found ← .get fun db => findByIdWithRefunds db call.input.paymentId
  let payment ← .orFail found (fail "Payment was not found." .notFound)
  .require (refundablePaymentStatuses.contains payment.payment.status = true)
    (fail "Refunds can only be requested for completed payments." .conflict)
  requestRefundOf decimals call payment

def requestCurrentAdminRefund (decimals : DecimalRuntime) (call : RefundCall) :
    StoreService RefundSummaryRecord := do
  .require (hasAdminFinanceAccess call.currentUser = true)
    (fail "Only admins can manage refunds." .forbidden)
  let existing ← .get fun db =>
    call.input.idempotencyKey.bind (RefundsRepository.findByIdempotencyKey db)
  match existing with
  | some refund => do
    .require (refund.refund.paymentId = call.input.paymentId)
      (fail "This refund idempotency key is already linked to another payment." .conflict)
    .ret refund
  | none => requestNewRefund decimals call

end RefundOperations

end WerTe
