import WerTe.ProviderEventSteps
import WerTe.ReadCommitted.Flags
import WerTe.WebhookStatuses

/-!
# Webhooks coming in

`provider-webhook-signature.service.ts`, `payment-provider-webhook.service.ts` and
`refund-provider-webhook.service.ts`: the signature of a delivery is checked, and an event that is
not stored yet is stored with what has come of the check. The two services do the same with
different tables, so it is defined once, over `ProviderWebhook`. The headers and the payload are
stored for the record only and left out.
-/

namespace WerTe

open ReadCommitted ProviderWebhookNormalizer

/-! ## `provider-webhook-signature.service.ts` -/

/-- What the services are run with. -/
structure WebhookRuntime where
  unicode : Unicode
  /-- `JSON.stringify` -/
  stringify : Json → String
  /-- `createHmac('sha256', secret).update(body).digest('hex')` -/
  hmacSha256 : String → String → String
  /-- `NODE_ENV` is `production` -/
  isProduction : Bool
  /-- the id that a text stands for in the tables -/
  idOf : String → Id

def PaymentProvider.text : PaymentProvider → String
  | .cod => "COD"
  | .manual => "MANUAL"
  | .stripe => "STRIPE"
  | .kbzPay => "KBZ_PAY"
  | .wavePay => "WAVE_PAY"
  | .ayaPay => "AYA_PAY"

structure ProviderWebhookSignatureVerificationResult where
  status : ProviderEventVerificationStatus
  failureCode : Option String := none
  failureMessage : Option String := none
deriving DecidableEq, Repr

namespace ProviderWebhookSignature

/-- The value of a digit of base 16. -/
def hexDigit (c : Char) : Option ℕ :=
  if '0' ≤ c ∧ c ≤ '9' then some (c.toNat - 48)
  else if 'a' ≤ c ∧ c ≤ 'f' then some (c.toNat - 87)
  else if 'A' ≤ c ∧ c ≤ 'F' then some (c.toNat - 55)
  else none

/-- `Buffer.from(text, 'hex')`, which ends before the first pair that is not one of digits. -/
def bytesOfHex : List Char → List ℕ
  | high :: low :: rest =>
    match hexDigit high, hexDigit low with
    | some high, some low => (16 * high + low) :: bytesOfHex rest
    | _, _ => []
  | _ => []

/-- One quotation mark at the start and one at the end are taken off. -/
def unquote (value : List Char) : List Char :=
  let value := if value.head? = some '"' then value.tail else value
  if value.getLast? = some '"' then value.dropLast else value

/-- What a part of the header has after its first equality sign, if there is one. -/
def signatureValue (part : String) : String :=
  let value := match part.toList.splitOn '=' with
    | _ :: value :: _ => .ofList value
    | _ => part
  .ofList (unquote (trim value).toList)

def isSha256Hex (value : String) : Bool :=
  value.toList.length == 64 && value.toList.all fun c => (hexDigit c).isSome

def extractSignatureCandidates : Option String → List String
  | none => []
  | some signatureHeader =>
    ((signatureHeader.toList.splitOn ',').map fun part =>
      signatureValue (trim (.ofList part))).filter isSha256Hex

def safeCompareHex (left right : String) : Bool :=
  bytesOfHex left.toList == bytesOfHex right.toList

def verifySignature (runtime : WebhookRuntime) (provider : PaymentProvider) (rawBody : String)
    (signatureHeader signingSecret : Option String) :
    ProviderWebhookSignatureVerificationResult :=
  match signingSecret with
  | none =>
    if runtime.isProduction then {
      status := .failed
      failureCode := some "signing_secret_not_configured"
      failureMessage := some (provider.text ++ " webhook signing secret is not configured.") }
    else { status := .skipped }
  | some signingSecret =>
    let signatures := extractSignatureCandidates signatureHeader
    if signatures = [] then {
      status := .failed
      failureCode := some "missing_signature"
      failureMessage := some (provider.text ++ " webhook signature header is missing.") }
    else if signatures.any fun signature =>
        safeCompareHex signature (runtime.hmacSha256 signingSecret rawBody) then
      { status := .verified }
    else {
      status := .failed
      failureCode := some "invalid_signature"
      failureMessage := some (provider.text ++ " webhook signature could not be verified.") }

end ProviderWebhookSignature

open ProviderWebhookSignature

/-! ## The two repositories -/

/-- What a nullable reference names is there. -/
def References (t : Tbl) (id : Option Id) (db : Store) : Prop := ∀ i ∈ id, (db.get (t, i)).isSome

instance (t : Tbl) (id : Option Id) (db : Store) : Decidable (References t id db) :=
  inferInstanceAs (Decidable (∀ i ∈ id, (db.get (t, i)).isSome))

namespace PaymentsRepository

def findPaymentProviderEventByProviderEventId (db : Store) (provider : PaymentProvider)
    (providerEventId : String) : Option (Id × PaymentProviderEvent) :=
  (db.list .paymentProviderEvent fun event =>
    event.uniqueKey == some (provider, providerEventId)).head?

/-- What the database has against a new event. -/
def eventViolation (id : Id) (event : PaymentProviderEvent) (db : Store) : Option Failure :=
  if (db.get (.paymentProviderEvent, id)).isSome then some (.uniqueConstraint "id")
  else if (db.list .paymentProviderEvent fun other =>
      sameUnique event.uniqueKey other.uniqueKey) ≠ [] then
    some (.uniqueConstraint "provider_providerEventId")
  else if ¬ References .payment event.ids.paymentId db then some (.foreignKeyConstraint "paymentId")
  else if ¬ References .order event.ids.orderId db then some (.foreignKeyConstraint "orderId")
  else none

def createPaymentProviderEvent (id : Id) (event : PaymentProviderEvent) : StoreTx Unit :=
  .insertRow (.paymentProviderEvent, id) event (eventViolation id event)

end PaymentsRepository

namespace RefundsRepository

def findRefundProviderEventByProviderEventId (db : Store) (provider : PaymentProvider)
    (providerEventId : String) : Option (Id × RefundProviderEvent) :=
  (db.list .refundProviderEvent fun event =>
    event.uniqueKey == some (provider, providerEventId)).head?

/-- What the database has against a new event. -/
def eventViolation (id : Id) (event : RefundProviderEvent) (db : Store) : Option Failure :=
  if (db.get (.refundProviderEvent, id)).isSome then some (.uniqueConstraint "id")
  else if (db.list .refundProviderEvent fun other =>
      sameUnique event.uniqueKey other.uniqueKey) ≠ [] then
    some (.uniqueConstraint "provider_providerEventId")
  else if ¬ References .refund event.ids.refundId db then some (.foreignKeyConstraint "refundId")
  else if ¬ References .payment event.ids.paymentId db then some (.foreignKeyConstraint "paymentId")
  else if ¬ References .order event.ids.orderId db then some (.foreignKeyConstraint "orderId")
  else none

def createRefundProviderEvent (id : Id) (event : RefundProviderEvent) : StoreTx Unit :=
  .insertRow (.refundProviderEvent, id) event (eventViolation id event)

end RefundsRepository

/-! ## The two services -/

/-- `IngestPaymentProviderWebhookInput` and `IngestRefundProviderWebhookInput`. -/
structure IngestProviderWebhookInput where
  provider : PaymentProvider
  payload : Json
  rawBody : Option String := none
  signatureHeader : Option String := none
  signingSecret : Option String := none
  receivedAt : Option Date := none

/-- What is taken from a payload. -/
structure NormalizedProviderEvent (Ids Status : Type) where
  providerEventId : Option String
  eventType : String
  ids : Ids
  providerReference : Option String
  normalizedStatus : Option Status

/-- What the two services differ in. -/
structure ProviderWebhook (Ids Status : Type) where
  /-- the word for it at the start of a text -/
  capitalNoun : String
  normalizeEvent : Json → NormalizedProviderEvent Ids Status
  findEventByProviderEventId :
    Store → PaymentProvider → String → Option (Id × ProviderEvent Ids Status)
  createEvent : Id → ProviderEvent Ids Status → StoreTx Unit

namespace ProviderWebhook

variable {Ids Status : Type} (webhook : ProviderWebhook Ids Status) (runtime : WebhookRuntime)

/-- What has come of the check of a delivery's signature. -/
def verification (input : IngestProviderWebhookInput) :
    ProviderWebhookSignatureVerificationResult :=
  verifySignature runtime input.provider (input.rawBody.getD (runtime.stringify input.payload))
    input.signatureHeader input.signingSecret

def findExistingEvent (db : Store) (provider : PaymentProvider) (providerEventId : Option String) :
    Option (Id × ProviderEvent Ids Status) :=
  providerEventId.bind (webhook.findEventByProviderEventId db provider)

/-- The event that is stored for a delivery. -/
def newEvent (now : Date) (input : IngestProviderWebhookInput) : ProviderEvent Ids Status :=
  let normalized := webhook.normalizeEvent input.payload
  let verification := verification runtime input
  { provider := input.provider
    providerEventId := normalized.providerEventId
    eventType := normalized.eventType
    ids := normalized.ids
    providerReference := normalized.providerReference
    normalizedStatus := normalized.normalizedStatus
    verificationStatus := verification.status
    processingStatus := if verification.status = .failed then .failed else .received
    failureCode := verification.failureCode
    failureMessage := verification.failureMessage
    receivedAt := input.receivedAt.getD now }

def invalidSignature (message : Option String) : Failure :=
  fail (message.getD (webhook.capitalNoun ++ " provider webhook signature is invalid."))
    .unauthorized

/-- `ingestPaymentWebhook` and `ingestRefundWebhook`; `newId` is the id of the row if one is
created. -/
def ingestWebhook (newId : Id) (now : Date) (input : IngestProviderWebhookInput) :
    StoreService (Id × ProviderEvent Ids Status) := do
  let verification := verification runtime input
  let existingEvent ← .get fun db => webhook.findExistingEvent db input.provider
    (webhook.normalizeEvent input.payload).providerEventId
  match existingEvent with
  | some existingEvent =>
    if verification.status = .failed then
      .throw (webhook.invalidSignature verification.failureMessage)
    else .ret existingEvent
  | none => do
    let event := webhook.newEvent runtime now input
    .transaction (webhook.createEvent newId event)
    if verification.status = .failed then
      .throw (webhook.invalidSignature verification.failureMessage)
    else .ret (newId, event)

end ProviderWebhook

open PaymentsRepository in
def paymentProviderWebhook (runtime : WebhookRuntime) :
    ProviderWebhook PaymentEventIds PaymentStatus where
  capitalNoun := "Payment"
  normalizeEvent payload :=
    let normalized := normalizePaymentEvent runtime.unicode payload
    { providerEventId := normalized.providerEventId
      eventType := normalized.eventType
      ids := ⟨normalized.paymentId.map runtime.idOf, normalized.orderId.map runtime.idOf⟩
      providerReference := normalized.providerReference
      normalizedStatus := normalized.normalizedStatus }
  findEventByProviderEventId := findPaymentProviderEventByProviderEventId
  createEvent := createPaymentProviderEvent

open RefundsRepository in
def refundProviderWebhook (runtime : WebhookRuntime) :
    ProviderWebhook RefundEventIds RefundStatus where
  capitalNoun := "Refund"
  normalizeEvent payload :=
    let normalized := normalizeRefundEvent runtime.unicode payload
    { providerEventId := normalized.providerEventId
      eventType := normalized.eventType
      ids := ⟨normalized.refundId.map runtime.idOf, normalized.paymentId.map runtime.idOf,
        normalized.orderId.map runtime.idOf⟩
      providerReference := normalized.providerReference
      normalizedStatus := normalized.normalizedStatus }
  findEventByProviderEventId := findRefundProviderEventByProviderEventId
  createEvent := createRefundProviderEvent

/-! ## Deliveries -/

inductive ProviderWebhookKind
  | payment | refund
deriving DecidableEq, Repr

/-- One call of one of the two routes. -/
structure WebhookDelivery where
  kind : ProviderWebhookKind
  newId : Id
  now : Date
  input : IngestProviderWebhookInput

namespace WebhookDelivery

variable (runtime : WebhookRuntime)

/-- The store after a delivery. -/
def run (delivery : WebhookDelivery) (db : Store) : Store :=
  match delivery.kind with
  | .payment => (((paymentProviderWebhook runtime).ingestWebhook runtime delivery.newId delivery.now
      delivery.input).run db).2
  | .refund => (((refundProviderWebhook runtime).ingestWebhook runtime delivery.newId delivery.now
      delivery.input).run db).2

def verificationStatus (delivery : WebhookDelivery) : ProviderEventVerificationStatus :=
  (ProviderWebhook.verification runtime delivery.input).status

end WebhookDelivery

/-- What happens to events: they come in, and they are processed. -/
inductive WebhookStep
  | deliver (delivery : WebhookDelivery)
  | process (call : ProviderEventCall)

def WebhookStep.run (runtime : WebhookRuntime) (decimals : DecimalRuntime)
    (databaseMessage : Failure → String) : WebhookStep → Store → Store
  | deliver delivery => delivery.run runtime
  | process call => call.run decimals databaseMessage

/-! ## What one delivery does -/

namespace ProviderWebhook

variable {Ids Status : Type} {webhook : ProviderWebhook Ids Status} {runtime : WebhookRuntime}
  {findEvent : Store → Id → Option (ProviderEvent Ids Status)} {named : Ids → Store → Prop}
  {table : Tbl} {db db' : Store} {newId : Id} {now : Date} {input : IngestProviderWebhookInput}

/-- No event has the key. -/
def Unused (findEvent : Store → Id → Option (ProviderEvent Ids Status)) (db : Store)
    (key : Option (PaymentProvider × String)) : Prop :=
  ∀ id event, findEvent db id = some event → key.isSome → event.uniqueKey ≠ key

/-- The service keeps its events in a table, under their keys and with references to rows that are
there. -/
structure Lawful (webhook : ProviderWebhook Ids Status)
    (findEvent : Store → Id → Option (ProviderEvent Ids Status)) (named : Ids → Store → Prop)
    (table : Tbl) : Prop where
  found : ∀ {db provider providerEventId id event},
    webhook.findEventByProviderEventId db provider providerEventId = some (id, event) →
      findEvent db id = some event ∧ event.uniqueKey = some (provider, providerEventId)
  missing : ∀ {db provider providerEventId},
    webhook.findEventByProviderEventId db provider providerEventId = none →
      Unused findEvent db (some (provider, providerEventId))
  created : ∀ {db db' id event u},
    (webhook.createEvent id event).run db = .ok (u, db') →
      findEvent db id = none ∧ named event.ids db ∧ findEvent db' id = some event ∧
        ∀ other, other ≠ id → findEvent db' other = findEvent db other
  creates : ∀ {db id event}, findEvent db id = none → Unused findEvent db event.uniqueKey →
    named event.ids db → ∃ db', (webhook.createEvent id event).run db = .ok ((), db')
  createEvent_writes : ∀ id event, (webhook.createEvent id event).Writes (·.table = table)

/-- What one delivery leaves. -/
inductive Ingested (webhook : ProviderWebhook Ids Status) (runtime : WebhookRuntime) (newId : Id)
    (now : Date) (input : IngestProviderWebhookInput) (db : Store) : Store → Prop
  /-- an event is stored under its id -/
  | existing (id : Id) (event : ProviderEvent Ids Status)
      (hexisting : webhook.findExistingEvent db input.provider
        (webhook.normalizeEvent input.payload).providerEventId = some (id, event)) :
      Ingested webhook runtime newId now input db db
  /-- the database does not take the event -/
  | refused (e : Failure)
      (hexisting : webhook.findExistingEvent db input.provider
        (webhook.normalizeEvent input.payload).providerEventId = none)
      (hcreate : (webhook.createEvent newId (webhook.newEvent runtime now input)).run db =
        .error e) :
      Ingested webhook runtime newId now input db db
  /-- the event is stored -/
  | created (db' : Store)
      (hexisting : webhook.findExistingEvent db input.provider
        (webhook.normalizeEvent input.payload).providerEventId = none)
      (hcreate : (webhook.createEvent newId (webhook.newEvent runtime now input)).run db =
        .ok ((), db')) :
      Ingested webhook runtime newId now input db db'

theorem ingestWebhook_ingested (webhook : ProviderWebhook Ids Status) (runtime : WebhookRuntime)
    (newId : Id) (now : Date) (input : IngestProviderWebhookInput) (db : Store) :
    (webhook.ingestWebhook runtime newId now input).Ends db fun _ db' =>
      webhook.Ingested runtime newId now input db db' := by
  refine .get_bind ?_
  cases hexisting : webhook.findExistingEvent db input.provider
      (webhook.normalizeEvent input.payload).providerEventId with
  | some existingEvent =>
    dsimp only
    split
    · exact .throw (.existing _ _ hexisting)
    · exact .ret (.existing _ _ hexisting)
  | none =>
    refine .transaction_bind (fun u db' hcreate => ?_) fun e hcreate => .refused e hexisting hcreate
    split
    · exact .throw (.created db' hexisting hcreate)
    · exact .ret (.created db' hexisting hcreate)

/-- A delivery writes to the table of its events only. -/
theorem ingestWebhook_writes (h : webhook.Lawful findEvent named table) :
    (webhook.ingestWebhook runtime newId now input).Writes (·.table = table) := by
  refine .bind (.get _) fun existingEvent => ?_
  cases existingEvent with
  | some existingEvent =>
    dsimp only
    split
    · exact .throw _
    · exact .ret _
  | none =>
    refine .bind (.transaction (h.createEvent_writes _ _)) fun u => ?_
    split
    · exact .throw _
    · exact .ret _

theorem ingestWebhook_sameOn (h : webhook.Lawful findEvent named table) :
    Db.SameOn (· ≠ table) db ((webhook.ingestWebhook runtime newId now input).run db).2 :=
  Service.Writes.sameOn ((ingestWebhook_writes h).mono fun _ hw hne => hne hw)

/-- The events of before are still there as they were. -/
theorem Ingested.kept (h : webhook.Lawful findEvent named table)
    (hingested : webhook.Ingested runtime newId now input db db') {id : Id}
    {event : ProviderEvent Ids Status} (hevent : findEvent db id = some event) :
    findEvent db' id = some event := by
  cases hingested with
  | existing => exact hevent
  | refused => exact hevent
  | created db' _ hcreate =>
    obtain ⟨hnone, -, -, hothers⟩ := h.created hcreate
    refine (hothers id fun hid => ?_).trans hevent
    rw [hid, hnone] at hevent
    cases hevent

end ProviderWebhook

/-! ## The two services are lawful -/

/-- What the payment and the order that an event names are. -/
def PaymentEventIds.Named (ids : PaymentEventIds) (db : Store) : Prop :=
  References .payment ids.paymentId db ∧ References .order ids.orderId db

/-- What the refund, the payment and the order that an event names are. -/
def RefundEventIds.Named (ids : RefundEventIds) (db : Store) : Prop :=
  References .refund ids.refundId db ∧ References .payment ids.paymentId db ∧
    References .order ids.orderId db

/-- No event of a table collides with the key. -/
theorem ProviderWebhook.unused_iff {Ids Status : Type}
    {findEvent : Store → Id → Option (ProviderEvent Ids Status)} {db : Store}
    {key : Option (PaymentProvider × String)} : Unused findEvent db key ↔
      ∀ id, ¬ ∃ event, findEvent db id = some event ∧ sameUnique key event.uniqueKey = true := by
  simp only [Unused, sameUnique, Bool.and_eq_true, beq_iff_eq, not_exists, not_and]
  exact forall₂_congr fun id event => forall₂_congr fun _ _ => ne_comm

/-- A list of checks goes through when each of them does. -/
theorem check_eq_none_iff {c : Prop} [Decidable c] {e : Failure} {rest : Option Failure} :
    (if c then some e else rest) = none ↔ ¬ c ∧ rest = none := by
  by_cases hc : c
  · simp [hc]
  · simp [hc]

theorem PaymentsRepository.eventViolation_eq_none_iff {id : Id} {event : PaymentProviderEvent}
    {db : Store} : eventViolation id event db = none ↔
      findPaymentProviderEventById db id = none ∧
        ProviderWebhook.Unused findPaymentProviderEventById db event.uniqueKey ∧
        event.ids.Named db := by
  simp only [eventViolation, check_eq_none_iff, not_not, ne_eq, Db.list_eq_nil_iff, and_true,
    Option.not_isSome_iff_eq_none, ProviderWebhook.unused_iff, PaymentEventIds.Named]
  rfl

theorem RefundsRepository.eventViolation_eq_none_iff {id : Id} {event : RefundProviderEvent}
    {db : Store} : eventViolation id event db = none ↔
      findRefundProviderEventById db id = none ∧
        ProviderWebhook.Unused findRefundProviderEventById db event.uniqueKey ∧
        event.ids.Named db := by
  simp only [eventViolation, check_eq_none_iff, not_not, ne_eq, Db.list_eq_nil_iff, and_true,
    Option.not_isSome_iff_eq_none, ProviderWebhook.unused_iff, RefundEventIds.Named]
  rfl

/-- An insert that nothing speaks against. -/
theorem run_insertRow_of_none {k : Key Tbl} {r : Row k.1} {violation : Store → Option Failure}
    {db : Store} (h : violation db = none) :
    (Tx.insertRow k r violation).run db = .ok ((), db.put ⟨k.1, k.2, some r⟩) := by
  simp only [Tx.insertRow, Tx.attempt, Tx.run, h]
  rfl

open PaymentsRepository in
theorem paymentProviderWebhook_lawful (runtime : WebhookRuntime) :
    (paymentProviderWebhook runtime).Lawful findPaymentProviderEventById PaymentEventIds.Named
      .paymentProviderEvent where
  found hfound := by
    obtain ⟨hevent, hkey⟩ := (Db.mem_list (t := Tbl.paymentProviderEvent)).mp
      (List.mem_of_mem_head? hfound)
    exact ⟨hevent, eq_of_beq hkey⟩
  missing hmissing id event hevent _ hkey :=
    Db.list_eq_nil_iff.mp (List.head?_eq_none_iff.mp hmissing) id
      ⟨event, hevent, beq_iff_eq.mpr hkey⟩
  created hcreate := by
    obtain ⟨hviolation, rfl⟩ := Tx.run_insertRow_ok hcreate
    obtain ⟨hnone, -, hnamed⟩ := eventViolation_eq_none_iff.mp hviolation
    exact ⟨hnone, hnamed, Db.get_put_self .., fun other hne =>
      Db.get_put_ne _ fun h => hne (congrArg Prod.snd h)⟩
  creates hnone hunused hnamed :=
    ⟨_, run_insertRow_of_none (eventViolation_eq_none_iff.mpr ⟨hnone, hunused, hnamed⟩)⟩
  createEvent_writes id event := .insertRow rfl

open RefundsRepository in
theorem refundProviderWebhook_lawful (runtime : WebhookRuntime) :
    (refundProviderWebhook runtime).Lawful findRefundProviderEventById RefundEventIds.Named
      .refundProviderEvent where
  found hfound := by
    obtain ⟨hevent, hkey⟩ := (Db.mem_list (t := Tbl.refundProviderEvent)).mp
      (List.mem_of_mem_head? hfound)
    exact ⟨hevent, eq_of_beq hkey⟩
  missing hmissing id event hevent _ hkey :=
    Db.list_eq_nil_iff.mp (List.head?_eq_none_iff.mp hmissing) id
      ⟨event, hevent, beq_iff_eq.mpr hkey⟩
  created hcreate := by
    obtain ⟨hviolation, rfl⟩ := Tx.run_insertRow_ok hcreate
    obtain ⟨hnone, -, hnamed⟩ := eventViolation_eq_none_iff.mp hviolation
    exact ⟨hnone, hnamed, Db.get_put_self .., fun other hne =>
      Db.get_put_ne _ fun h => hne (congrArg Prod.snd h)⟩
  creates hnone hunused hnamed :=
    ⟨_, run_insertRow_of_none (eventViolation_eq_none_iff.mpr ⟨hnone, hunused, hnamed⟩)⟩
  createEvent_writes id event := .insertRow rfl

/-! ## What one step keeps -/

section Steps

open PaymentsRepository (findPaymentProviderEventById)
open RefundsRepository (findRefundProviderEventById)

variable {runtime : WebhookRuntime} {decimals : DecimalRuntime}
  {databaseMessage : Failure → String} {db : Store} {id : Id}

/-- A step takes no event away, and does not change what one says. -/
theorem WebhookStep.run_sameReport_payment (step : WebhookStep) {event : PaymentProviderEvent}
    (hevent : findPaymentProviderEventById db id = some event) :
    ∃ event', findPaymentProviderEventById (step.run runtime decimals databaseMessage db) id =
      some event' ∧ event.SameReport event' := by
  -- what is done to refunds' events does not touch this one
  have hother : ∀ {db'}, Db.SameOn (· = Tbl.paymentProviderEvent) db db' →
      ∃ event', findPaymentProviderEventById db' id = some event' ∧ event.SameReport event' :=
    fun h => ⟨event, (h.get rfl).symm.trans hevent, .refl event⟩
  cases step with
  | deliver delivery =>
    obtain ⟨kind, newId, now, input⟩ := delivery
    cases kind with
    | payment =>
      exact ⟨event, ((paymentProviderWebhook runtime).ingestWebhook_ingested runtime newId now input
        db).run.kept (paymentProviderWebhook_lawful runtime) hevent, .refl event⟩
    | refund =>
      exact hother fun t ht => ProviderWebhook.ingestWebhook_sameOn
        (refundProviderWebhook_lawful runtime) t (ht ▸ by decide)
  | process call =>
    cases call with
    | payment eventId retryTerminal =>
      exact ProviderEventProcessor.processProviderEvent_kept paymentProviderEventProcessor_lawful
        hevent
    | refund eventId retryTerminal =>
      exact hother (ProviderEventProcessor.processProviderEvent_sameOn
        (refundProviderEventProcessor_lawful decimals) (.inl rfl) (by decide))

theorem WebhookStep.run_sameReport_refund (step : WebhookStep) {event : RefundProviderEvent}
    (hevent : findRefundProviderEventById db id = some event) :
    ∃ event', findRefundProviderEventById (step.run runtime decimals databaseMessage db) id =
      some event' ∧ event.SameReport event' := by
  have hother : ∀ {db'}, Db.SameOn (· = Tbl.refundProviderEvent) db db' →
      ∃ event', findRefundProviderEventById db' id = some event' ∧ event.SameReport event' :=
    fun h => ⟨event, (h.get rfl).symm.trans hevent, .refl event⟩
  cases step with
  | deliver delivery =>
    obtain ⟨kind, newId, now, input⟩ := delivery
    cases kind with
    | payment =>
      exact hother fun t ht => ProviderWebhook.ingestWebhook_sameOn
        (paymentProviderWebhook_lawful runtime) t (ht ▸ by decide)
    | refund =>
      exact ⟨event, ((refundProviderWebhook runtime).ingestWebhook_ingested runtime newId now input
        db).run.kept (refundProviderWebhook_lawful runtime) hevent, .refl event⟩
  | process call =>
    cases call with
    | payment eventId retryTerminal =>
      exact hother (ProviderEventProcessor.processProviderEvent_sameOn
        paymentProviderEventProcessor_lawful (.inr rfl) (by decide))
    | refund eventId retryTerminal =>
      exact ProviderEventProcessor.processProviderEvent_kept
        (refundProviderEventProcessor_lawful decimals) hevent

end Steps

end WerTe
