import WerTe.Refunds

/-!
# How refunds end

`refund-operations.service.ts`: a refund that is open succeeds, fails or is cancelled, by an
administrator or on a provider's word. One that succeeds is added to what its payment says has
been refunded. The message about it is sent after the commit and left out.
-/

namespace WerTe

open ReadCommitted Numeral

/-! ## The repositories -/

/-- What a transition writes to a refund. -/
structure RefundTransitionInput where
  provider : PaymentProvider
  status : RefundStatus
  providerReference : Option String
  failureCode : Option String
  failureMessage : Option String
deriving DecidableEq, Repr

/-- The refund after a transition. -/
def Refund.transition (refund : Refund) (payload : RefundTransitionInput) : Refund :=
  { refund with
    status := payload.status
    providerReference := payload.providerReference
    failureCode := payload.failureCode
    failureMessage := payload.failureMessage
    attempts := refund.attempts ++ [⟨payload.provider, payload.status, payload.providerReference,
      payload.failureCode, payload.failureMessage⟩] }

/-- A refund with the provider of its payment. -/
structure RefundDetailRecord extends RefundSummaryRecord where
  paymentProvider : PaymentProvider
deriving DecidableEq

namespace RefundsRepository

def findById (db : Store) (refundId : Id) : Option RefundDetailRecord := do
  let refund ← db.get (.refund, refundId)
  let payment ← db.get (.payment, refund.paymentId)
  return { id := refundId, refund, paymentProvider := payment.provider }

/-- The refund that was written last. -/
def findLatestByProviderReference (db : Store) (provider : PaymentProvider)
    (providerReference : String) : Option RefundDetailRecord :=
  ((db.list .refund (·.providerReference == some providerReference)).filterMap fun row =>
    (findById db row.1).filter (·.paymentProvider == provider)).head?

/-- The status is written whatever it was before. -/
def transitionRefundStatus (refundId : Id) (payload : RefundTransitionInput) :
    StoreTx RefundDetailRecord := do
  .updateExisting (.refund, refundId) (fun refund => refund.transition payload) .recordNotFound
  let refund ← .read fun db => findById db refundId
  .orFail refund .recordNotFound

end RefundsRepository

namespace PaymentsRepository

/-- The column takes numbers only. -/
def updateRefundState (decimals : DecimalRuntime) (paymentId : Id) (refundedAmount : Decimal)
    (status : PaymentStatus) : StoreTx Unit := do
  let stored ← .orFail ((decimals.column refundedAmount).bind Decimal.number)
    (.invalidArgument "refundedAmount")
  .updateExisting (.payment, paymentId)
    (fun payment => { payment with refundedAmount := stored, status := status }) .recordNotFound

end PaymentsRepository

/-! ## `refund-operations.service.ts` -/

namespace RefundOperations

open RefundsRepository PaymentsRepository

/-- `FinalizeRefundInput`, and whether the caller vouches for the actor. What only goes into the
message and the metadata is left out. -/
structure FinalizeRefundInput where
  refundId : Id
  providerReference : Option String := none
  failureCode : Option String := none
  failureMessage : Option String := none
  skipAdminFinanceAccess : Bool := false
deriving DecidableEq, Repr

/-- How a refund ends, and what is said when it cannot. -/
structure FinalizeRefundConfig where
  targetStatus : RefundStatus
  conflictMessage : String
deriving DecidableEq, Repr

def finalizableRefundStatuses : List RefundStatus := [.pending, .processing]

def computeSucceededRefundAmount (decimals : DecimalRuntime) (payment : PaymentRefundsRecord) :
    Decimal :=
  payment.refunds.foldl (fun total record =>
    if record.refund.status = .succeeded then total.add decimals.round record.refund.amount
    else total) (.finite 0)

/-- What a refund that has succeeded does to its payment. -/
def recordSucceededRefund (decimals : DecimalRuntime) (paymentId : Id) : StoreTx Unit := do
  let found ← .read fun db => findByIdWithRefunds db paymentId
  let payment ← .orFail found .typeError
  let refundedAmount := computeSucceededRefundAmount decimals payment
  updateRefundState decimals paymentId refundedAmount
    (if refundedAmount.greaterThanOrEqualTo (.finite payment.payment.amount) then .refunded
      else .partiallyRefunded)

def finalizeRefund (decimals : DecimalRuntime) (input : FinalizeRefundInput)
    (config : FinalizeRefundConfig) : StoreService Unit := do
  let found ← .get fun db => RefundsRepository.findById db input.refundId
  let currentRefund ← .orFail found (fail "Refund was not found." .notFound)
  if currentRefund.refund.status = config.targetStatus then pure ()
  else do
    .require (finalizableRefundStatuses.contains currentRefund.refund.status = true)
      (fail config.conflictMessage .conflict)
    .transaction (do
      let transitionedRefund ← transitionRefundStatus input.refundId {
        provider := currentRefund.paymentProvider
        status := config.targetStatus
        providerReference := input.providerReference <|> currentRefund.refund.providerReference
        failureCode := input.failureCode
        failureMessage := input.failureMessage }
      if config.targetStatus = .succeeded then
        recordSucceededRefund decimals transitionedRefund.refund.paymentId
      else pure ())

def succeedRefundConfig : FinalizeRefundConfig where
  targetStatus := .succeeded
  conflictMessage := "This refund can no longer be marked as succeeded."

def failRefundConfig : FinalizeRefundConfig where
  targetStatus := .failed
  conflictMessage := "This refund can no longer be marked as failed."

def cancelRefundConfig : FinalizeRefundConfig where
  targetStatus := .cancelled
  conflictMessage := "This refund can no longer be cancelled."

/-- `succeedCurrentAdminRefund`, `failCurrentAdminRefund` and `cancelCurrentAdminRefund`. -/
def finalizeCurrentAdminRefund (decimals : DecimalRuntime) (currentUser : AuthenticatedUser)
    (input : FinalizeRefundInput) (config : FinalizeRefundConfig) : StoreService Unit := do
  .require (input.skipAdminFinanceAccess = true ∨ hasAdminFinanceAccess currentUser = true)
    (fail "Only admins can manage refunds." .forbidden)
  finalizeRefund decimals input config

def succeedCurrentAdminRefund (decimals : DecimalRuntime) (currentUser : AuthenticatedUser)
    (input : FinalizeRefundInput) : StoreService Unit :=
  finalizeCurrentAdminRefund decimals currentUser input succeedRefundConfig

def failCurrentAdminRefund (decimals : DecimalRuntime) (currentUser : AuthenticatedUser)
    (input : FinalizeRefundInput) : StoreService Unit :=
  finalizeCurrentAdminRefund decimals currentUser input failRefundConfig

def cancelCurrentAdminRefund (decimals : DecimalRuntime) (currentUser : AuthenticatedUser)
    (input : FinalizeRefundInput) : StoreService Unit :=
  finalizeCurrentAdminRefund decimals currentUser input cancelRefundConfig

end RefundOperations

end WerTe
