import Mathlib.Data.Prod.Lex
import Mathlib.Data.Rat.Floor
import WerTe.RefundLifecycle

/-!
# Processing provider events

Stored webhook events of payments and of refunds are processed one by one
(`payment-provider-event-processor.service.ts`, `refund-provider-event-processor.service.ts`), and
a reconciliation job queues those that have not been processed, or not with success, once more
(`provider-webhook-reconciliation.job.ts`). The two processors say the same of different tables,
so what they do is defined once, over `ProviderEventProcessor`.

An event's metadata and the times at which it was processed are read by nothing here and are left
out.
-/

namespace WerTe

open ReadCommitted

/-! ## `provider-event-processing-policy.helper.ts` -/

def retryableTerminalProcessingStatuses : List ProviderEventProcessingStatus := [.failed, .ignored]

def terminalProcessingStatuses : List ProviderEventProcessingStatus :=
  .processed :: retryableTerminalProcessingStatuses

def processableVerificationStatuses : List ProviderEventVerificationStatus := [.verified, .skipped]

def isTerminalProviderEventProcessingStatus (status : ProviderEventProcessingStatus) : Bool :=
  terminalProcessingStatuses.contains status

def isProviderEventVerifiedForProcessing (status : ProviderEventVerificationStatus) : Bool :=
  processableVerificationStatuses.contains status

def shouldProcessProviderEvent (processingStatus : ProviderEventProcessingStatus)
    (retryTerminal : Bool) : Bool :=
  if !isTerminalProviderEventProcessingStatus processingStatus then true
  else retryTerminal && retryableTerminalProcessingStatuses.contains processingStatus

/-! ## What both repositories do -/

/-- What an update of an event's processing state writes; a link or a reference that is not given
stays. -/
structure ProcessingStateInput (Ids : Type) where
  processingStatus : ProviderEventProcessingStatus
  link : Ids → Ids := id
  providerReference : Option String := none
  failureCode : Option String := none
  failureMessage : Option String := none

section Repository

variable {Ids Status : Type}

/-- The event after the update. -/
def ProviderEvent.withProcessingState (event : ProviderEvent Ids Status)
    (payload : ProcessingStateInput Ids) : ProviderEvent Ids Status :=
  { event with
    ids := payload.link event.ids
    providerReference := payload.providerReference <|> event.providerReference
    processingStatus := payload.processingStatus
    failureCode := payload.failureCode
    failureMessage := payload.failureMessage }

/-- The filter of both lists of processable events. -/
def ProviderEvent.isProcessable (event : ProviderEvent Ids Status) : Bool :=
  [ProviderEventVerificationStatus.verified, .skipped].contains event.verificationStatus &&
    [ProviderEventProcessingStatus.received, .failed, .ignored].contains event.processingStatus

/-- The order of both lists: by `receivedAt` and id. -/
def eventKey (event : Id × ProviderEvent Ids Status) : ℤ ×ₗ ℕ := toLex (event.2.receivedAt, event.1)

/-- The first `limit` processable events. -/
def takeProcessable (limit : ℕ) (events : List (Id × ProviderEvent Ids Status)) :
    List (Id × ProviderEvent Ids Status) :=
  (events.insertionSort fun left right => eventKey left ≤ eventKey right).take limit

end Repository

namespace PaymentsRepository

/-- The payment that was written last. -/
def findLatestByProviderReference (db : Store) (provider : PaymentProvider)
    (providerReference : String) : Option PaymentSummaryRecord :=
  ((db.list .payment fun payment => payment.provider == provider &&
    payment.providerReference == some providerReference).filterMap fun row =>
      findById db row.1).head?

def findPaymentProviderEventById (db : Store) (id : Id) : Option PaymentProviderEvent :=
  db.get (.paymentProviderEvent, id)

def updatePaymentProviderEventProcessingState (id : Id)
    (payload : ProcessingStateInput PaymentEventIds) : StoreTx Unit :=
  .updateExisting (.paymentProviderEvent, id)
    (fun event => (event : PaymentProviderEvent).withProcessingState payload) .recordNotFound

def listProcessablePaymentProviderEvents (db : Store) (limit : ℕ) :
    List (Id × PaymentProviderEvent) :=
  takeProcessable limit (db.list .paymentProviderEvent fun event => event.isProcessable)

end PaymentsRepository

namespace RefundsRepository

def findRefundProviderEventById (db : Store) (id : Id) : Option RefundProviderEvent :=
  db.get (.refundProviderEvent, id)

def updateRefundProviderEventProcessingState (id : Id)
    (payload : ProcessingStateInput RefundEventIds) : StoreTx Unit :=
  .updateExisting (.refundProviderEvent, id)
    (fun event => (event : RefundProviderEvent).withProcessingState payload) .recordNotFound

def listProcessableRefundProviderEvents (db : Store) (limit : ℕ) :
    List (Id × RefundProviderEvent) :=
  takeProcessable limit (db.list .refundProviderEvent fun event => event.isProcessable)

end RefundsRepository

/-! ## Processing an event -/

/-- `mapHttpStatusToErrorCode`. -/
def mapHttpStatusToErrorCode : HttpStatus → String
  | .badRequest => "BAD_REQUEST"
  | .unauthorized => "UNAUTHORIZED"
  | .forbidden => "FORBIDDEN"
  | .notFound => "NOT_FOUND"
  | .conflict => "CONFLICT"
  | .unprocessableEntity => "UNPROCESSABLE_ENTITY"
  | .internalServerError => "INTERNAL_SERVER_ERROR"

/-- What the two processors differ in. `Target` is what an event is about: a payment, or a
refund. -/
structure ProviderEventProcessor (Ids Status Target Action : Type) where
  /-- the word for it in the texts -/
  noun : String
  /-- the same at the start of a text -/
  capitalNoun : String
  findEvent : Store → Id → Option (ProviderEvent Ids Status)
  updateEvent : Id → ProcessingStateInput Ids → StoreTx Unit
  resolveLifecycleAction : Option Status → Option Action
  resolveTarget : Store → ProviderEvent Ids Status → Option Target
  targetProvider : Target → PaymentProvider
  targetReference : Target → Option String
  /-- the ids of an event that is linked to the target -/
  linkTarget : Target → Ids → Ids
  applyLifecycleAction : ProviderEvent Ids Status → Target → Action → StoreService Unit
  /-- the target again, as it is after the action -/
  reload : Store → Target → Option Target

namespace ProviderEventProcessor

variable {Ids Status Target Action : Type}
  (processor : ProviderEventProcessor Ids Status Target Action) (databaseMessage : Failure → String)

/-- `readFailureCode`. -/
def readFailureCode : Failure → String
  | .app e => e.code.getD (mapHttpStatusToErrorCode e.status)
  | _ => processor.noun ++ "_webhook_processing_failed"

/-- `readFailureMessage`; `databaseMessage` is what an error of the database says. -/
def readFailureMessage (error : Failure) : String :=
  match error with
  | .app e => e.message
  | _ =>
    if trim (databaseMessage error) ≠ "" then databaseMessage error
    else processor.capitalNoun ++ " provider event could not be processed."

def markProcessed (eventId : Id) (event : ProviderEvent Ids Status) (summary : Target) :
    StoreService Unit :=
  .transaction (processor.updateEvent eventId {
    processingStatus := .processed
    link := processor.linkTarget summary
    providerReference := processor.targetReference summary <|> event.providerReference })

def markIgnored (eventId : Id) (failureCode failureMessage : String) : StoreService Unit :=
  .transaction (processor.updateEvent eventId {
    processingStatus := .ignored
    failureCode := some failureCode
    failureMessage := some failureMessage })

def markFailed (eventId : Id) (event : ProviderEvent Ids Status)
    (failureCode failureMessage : String) (target : Option Target) : StoreService Unit :=
  .transaction (processor.updateEvent eventId {
    processingStatus := .failed
    link := (target.map processor.linkTarget).getD id
    providerReference := target.bind processor.targetReference <|> event.providerReference
    failureCode := some failureCode
    failureMessage := some failureMessage })

/-- The action, and what the event is marked with after it. An error is passed on. -/
def applyAndMark (eventId : Id) (event : ProviderEvent Ids Status) (target : Target)
    (action : Action) : StoreService Unit := do
  let outcome ← (processor.applyLifecycleAction event target action).attempt
  match outcome with
  | .ok () => do
    let found ← .get fun db => processor.reload db target
    processor.markProcessed eventId event (found.getD target)
  | .error error => do
    processor.markFailed eventId event (processor.readFailureCode error)
      (processor.readFailureMessage databaseMessage error) (some target)
    .throw error

/-- `processPaymentProviderEvent` and `processRefundProviderEvent`. -/
def processProviderEvent (eventId : Id) (retryTerminal : Bool) : StoreService Unit := do
  let found ← .get fun db => processor.findEvent db eventId
  let event ← .orFail found
    (fail (processor.capitalNoun ++ " provider event was not found.") .notFound)
  if shouldProcessProviderEvent event.processingStatus retryTerminal = false then pure ()
  else if isProviderEventVerifiedForProcessing event.verificationStatus = false then
    processor.markFailed eventId event "provider_event_not_verified"
      (processor.capitalNoun ++ " provider event must be verified before lifecycle processing.")
      none
  else
    match processor.resolveLifecycleAction event.normalizedStatus with
    | none =>
      processor.markIgnored eventId ("non_terminal_" ++ processor.noun ++ "_status")
        (processor.capitalNoun ++ " provider event does not contain a terminal " ++
          processor.noun ++ " status.")
    | some action => do
      let found ← .get fun db => processor.resolveTarget db event
      match found with
      | none =>
        processor.markIgnored eventId (processor.noun ++ "_not_matched")
          (processor.capitalNoun ++ " provider event could not be matched to an existing " ++
            processor.noun ++ ".")
      | some target =>
        if processor.targetProvider target ≠ event.provider then
          processor.markFailed eventId event (processor.noun ++ "_provider_mismatch")
            (processor.capitalNoun ++
              " provider event provider does not match the linked payment provider.")
            (some target)
        else processor.applyAndMark databaseMessage eventId event target action

end ProviderEventProcessor

/-! ## Payment events -/

/-- `PAYMENT_WEBHOOK_SYSTEM_ACTOR` and `REFUND_WEBHOOK_SYSTEM_ACTOR`, as far as they are told
apart here. -/
def webhookSystemActor : AuthenticatedUser where
  userId := 0
  role := .support
  merchantId := none
  customerProfileId := none
  riderId := none
  isSystemActor := true

namespace PaymentProviderEventProcessor

open PaymentsRepository

inductive LifecycleAction
  | confirm | fail | cancel | expire
deriving DecidableEq, Repr

def resolveLifecycleAction : Option PaymentStatus → Option LifecycleAction
  | some .succeeded => some .confirm
  | some .failed => some .fail
  | some .cancelled => some .cancel
  | some .expired => some .expire
  | _ => none

def resolvePayment (db : Store) (event : PaymentProviderEvent) : Option PaymentSummaryRecord :=
  (event.ids.paymentId.bind (findById db)).or
    (event.providerReference.bind (findLatestByProviderReference db event.provider))

def buildReasonCode (event : PaymentProviderEvent) : String :=
  match event.normalizedStatus with
  | some .succeeded => "provider_payment_succeeded"
  | some .failed => event.failureCode.getD "provider_payment_failed"
  | some .cancelled => "provider_payment_cancelled"
  | some .expired => "provider_payment_expired"
  | _ => "provider_payment_event"

def buildLifecycleNote (event : PaymentProviderEvent) : Option String :=
  match event.normalizedStatus with
  | some .failed => some (event.failureMessage.getD "Provider reported payment failure.")
  | some .cancelled => some "Provider reported payment cancellation."
  | some .expired => some "Provider reported payment expiration."
  | _ => none

def lifecycleInput (event : PaymentProviderEvent) (payment : PaymentSummaryRecord)
    (action : LifecycleAction) : PaymentLifecycleInput where
  paymentId := payment.id
  providerReference := event.providerReference
  providerReceiptId := none
  reasonCode := some (buildReasonCode event)
  note := buildLifecycleNote event
  failureCode :=
    if action = .fail then some (event.failureCode.getD "provider_payment_failed") else none
  failureMessage :=
    if action = .fail then some (event.failureMessage.getD "Provider reported payment failure.")
    else none
  skipAdminFinanceAccess := true

def applyLifecycleAction (event : PaymentProviderEvent) (payment : PaymentSummaryRecord)
    (action : LifecycleAction) : StoreService Unit :=
  let input := lifecycleInput event payment action
  match action with
  | .confirm => confirmCurrentPayment webhookSystemActor input
  | .fail => failCurrentPayment webhookSystemActor input
  | .cancel => cancelCurrentPayment webhookSystemActor input
  | .expire => expireCurrentPayment webhookSystemActor input

end PaymentProviderEventProcessor

open PaymentProviderEventProcessor in
def paymentProviderEventProcessor : ProviderEventProcessor PaymentEventIds PaymentStatus
    PaymentSummaryRecord LifecycleAction where
  noun := "payment"
  capitalNoun := "Payment"
  findEvent := PaymentsRepository.findPaymentProviderEventById
  updateEvent := PaymentsRepository.updatePaymentProviderEventProcessingState
  resolveLifecycleAction := resolveLifecycleAction
  resolveTarget := resolvePayment
  targetProvider payment := payment.payment.provider
  targetReference payment := payment.payment.providerReference
  linkTarget payment _ := ⟨some payment.id, some payment.payment.orderId⟩
  applyLifecycleAction := applyLifecycleAction
  reload db payment := PaymentsRepository.findById db payment.id

/-! ## Refund events -/

namespace RefundProviderEventProcessor

open RefundsRepository RefundOperations

inductive RefundLifecycleAction
  | succeed | fail | cancel
deriving DecidableEq, Repr

def resolveLifecycleAction : Option RefundStatus → Option RefundLifecycleAction
  | some .succeeded => some .succeed
  | some .failed => some .fail
  | some .cancelled => some .cancel
  | _ => none

def resolveRefund (db : Store) (event : RefundProviderEvent) : Option RefundDetailRecord :=
  (event.ids.refundId.bind (findById db)).or
    (event.providerReference.bind (findLatestByProviderReference db event.provider))

def lifecycleInput (event : RefundProviderEvent) (refund : RefundDetailRecord)
    (action : RefundLifecycleAction) : FinalizeRefundInput where
  refundId := refund.id
  providerReference := event.providerReference
  failureCode :=
    if action = .fail then some (event.failureCode.getD "provider_refund_failed") else none
  failureMessage :=
    if action = .fail then some (event.failureMessage.getD "Provider reported refund failure.")
    else none
  skipAdminFinanceAccess := true

def applyLifecycleAction (decimals : DecimalRuntime) (event : RefundProviderEvent)
    (refund : RefundDetailRecord) (action : RefundLifecycleAction) : StoreService Unit :=
  let input := lifecycleInput event refund action
  match action with
  | .succeed => succeedCurrentAdminRefund decimals webhookSystemActor input
  | .fail => failCurrentAdminRefund decimals webhookSystemActor input
  | .cancel => cancelCurrentAdminRefund decimals webhookSystemActor input

end RefundProviderEventProcessor

open RefundProviderEventProcessor in
def refundProviderEventProcessor (decimals : DecimalRuntime) :
    ProviderEventProcessor RefundEventIds RefundStatus RefundDetailRecord
      RefundLifecycleAction where
  noun := "refund"
  capitalNoun := "Refund"
  findEvent := RefundsRepository.findRefundProviderEventById
  updateEvent := RefundsRepository.updateRefundProviderEventProcessingState
  resolveLifecycleAction := resolveLifecycleAction
  resolveTarget := resolveRefund
  targetProvider := RefundDetailRecord.paymentProvider
  targetReference refund := refund.refund.providerReference
  linkTarget refund _ := ⟨some refund.id, some refund.refund.paymentId, some refund.refund.orderId⟩
  applyLifecycleAction := applyLifecycleAction decimals
  reload db refund := RefundsRepository.findById db refund.id

/-! ## Reconciliation -/

namespace ProviderWebhookReconciliationJob

def defaultLimit : ℕ := 50

/-- `resolveLimit`; a limit that is no finite number is none. -/
def resolveLimit (limit : Option ℚ) : ℕ :=
  match limit with
  | none => defaultLimit
  | some limit => (max 1 (min ⌊limit⌋ 250)).toNat

/-- The events that one run of the job queues, with `retryTerminal`: those of payments, then those
of refunds. -/
def queuedEvents (limit : Option ℚ) (db : Store) : List Id × List Id :=
  ((PaymentsRepository.listProcessablePaymentProviderEvents db (resolveLimit limit)).map Prod.fst,
    (RefundsRepository.listProcessableRefundProviderEvents db (resolveLimit limit)).map Prod.fst)

end ProviderWebhookReconciliationJob

end WerTe
