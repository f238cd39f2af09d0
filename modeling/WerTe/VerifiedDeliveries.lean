import WerTe.ReadCommitted.Lasting
import WerTe.WebhookIngest

/-!
# Verified deliveries are kept

A delivery whose signature verifies is to be stored as a verified event that reports what the
delivery has reported. Events are told apart by the id that their payload gives them, and this is
done before it is asked whether the payload is to be trusted: a forged delivery that comes first
takes the id of the real one. Besides, an event that names rows that are not there is not stored.
`verified_recorded_iff` says for which runs every verified delivery is kept.
-/

namespace WerTe

open ReadCommitted

/-! ## One delivery -/

namespace ProviderWebhook

variable {Ids Status : Type} {webhook : ProviderWebhook Ids Status} {runtime : WebhookRuntime}
  {findEvent : Store → Id → Option (ProviderEvent Ids Status)} {named : Ids → Store → Prop}
  {table : Tbl} {db db' : Store} {newId : Id} {now : Date} {input : IngestProviderWebhookInput}

/-- The event is the delivery's, is verified, reports what the delivery has reported, and has been
processed or may be. -/
structure Records (webhook : ProviderWebhook Ids Status) (input : IngestProviderWebhookInput)
    (event : ProviderEvent Ids Status) : Prop where
  provider : event.provider = input.provider
  providerEventId : event.providerEventId = (webhook.normalizeEvent input.payload).providerEventId
  verified : event.verificationStatus = .verified
  normalizedStatus :
    event.normalizedStatus = (webhook.normalizeEvent input.payload).normalizedStatus
  processable : event.isProcessable = true ∨ event.processingStatus = .processed

/-- There is such an event. -/
def Recorded (webhook : ProviderWebhook Ids Status)
    (findEvent : Store → Id → Option (ProviderEvent Ids Status))
    (input : IngestProviderWebhookInput) (db : Store) : Prop :=
  ∃ id event, findEvent db id = some event ∧ webhook.Records input event

/-- The key of a delivery's event. -/
def deliveryKey (webhook : ProviderWebhook Ids Status) (input : IngestProviderWebhookInput) :
    Option (PaymentProvider × String) :=
  (webhook.normalizeEvent input.payload).providerEventId.map fun id => (input.provider, id)

/-- The delivery has been recorded already; or no event is stored under its id, the row gets an id
of its own, and what the payload names is there. -/
def Storable (webhook : ProviderWebhook Ids Status)
    (findEvent : Store → Id → Option (ProviderEvent Ids Status)) (named : Ids → Store → Prop)
    (newId : Id) (input : IngestProviderWebhookInput) (db : Store) : Prop :=
  webhook.Recorded findEvent input db ∨
    Unused findEvent db (webhook.deliveryKey input) ∧ findEvent db newId = none ∧
      named (webhook.normalizeEvent input.payload).ids db

/-- A verified event may be processed unless it has been. -/
theorem processable_of_verified {event : ProviderEvent Ids Status}
    (h : event.verificationStatus = .verified) :
    event.isProcessable = true ∨ event.processingStatus = .processed := by
  rw [ProviderEvent.isProcessable, h]
  cases event.processingStatus <;> simp

theorem Records.sameReport {event event' : ProviderEvent Ids Status}
    (h : webhook.Records input event) (hsame : event.SameReport event') :
    webhook.Records input event' where
  provider := hsame.provider.trans h.provider
  providerEventId := hsame.providerEventId.trans h.providerEventId
  verified := hsame.verificationStatus.trans h.verified
  normalizedStatus := hsame.normalizedStatus.trans h.normalizedStatus
  processable := processable_of_verified (hsame.verificationStatus.trans h.verified)

theorem newEvent_records (hverified : (verification runtime input).status = .verified) :
    webhook.Records input (webhook.newEvent runtime now input) :=
  ⟨rfl, rfl, hverified, rfl, processable_of_verified hverified⟩

/-- Where no event is found under the delivery's id, there is none. -/
theorem Lawful.unused (h : webhook.Lawful findEvent named table)
    (hexisting : webhook.findExistingEvent db input.provider
      (webhook.normalizeEvent input.payload).providerEventId = none) :
    Unused findEvent db (webhook.deliveryKey input) := by
  rw [deliveryKey]
  cases hid : (webhook.normalizeEvent input.payload).providerEventId with
  | none => exact fun id event hevent hsome => absurd hsome Bool.false_ne_true
  | some providerEventId =>
    rw [hid] at hexisting
    exact h.missing hexisting

/-- After a verified delivery its event is recorded exactly when it could be stored before. -/
theorem Ingested.recorded_iff (h : webhook.Lawful findEvent named table)
    (hverified : (verification runtime input).status = .verified)
    (hingested : webhook.Ingested runtime newId now input db db') :
    webhook.Recorded findEvent input db' ↔ webhook.Storable findEvent named newId input db := by
  cases hingested with
  | existing id event hexisting =>
    refine ⟨.inl, ?_⟩
    rintro (hrecorded | ⟨hunused, -, -⟩)
    · exact hrecorded
    · -- the event that is there has the key
      obtain ⟨providerEventId, hid, hfound⟩ := Option.bind_eq_some_iff.mp hexisting
      obtain ⟨hevent, hkey⟩ := h.found hfound
      rw [deliveryKey, hid] at hunused
      exact absurd hkey (hunused id event hevent rfl)
  | refused e hexisting hcreate =>
    refine ⟨.inl, ?_⟩
    rintro (hrecorded | ⟨hunused, hnone, hnamed⟩)
    · exact hrecorded
    · have hcreates : ∃ db₁,
          (webhook.createEvent newId (webhook.newEvent runtime now input)).run db = .ok ((), db₁) :=
        h.creates hnone hunused hnamed
      obtain ⟨db₁, hok⟩ := hcreates
      rw [hcreate] at hok
      cases hok
  | created db' hexisting hcreate =>
    obtain ⟨hnone, hnamed, hevent, -⟩ := h.created hcreate
    exact iff_of_true ⟨newId, _, hevent, newEvent_records hverified⟩
      (.inr ⟨h.unused hexisting, hnone, hnamed⟩)

/-- What is recorded stays recorded. -/
theorem Recorded.mono (hrecorded : webhook.Recorded findEvent input db)
    (hkept : ∀ id event, findEvent db id = some event →
      ∃ event', findEvent db' id = some event' ∧ event.SameReport event') :
    webhook.Recorded findEvent input db' := by
  obtain ⟨id, event, hevent, hrecords⟩ := hrecorded
  obtain ⟨event', hevent', hsame⟩ := hkept id event hevent
  exact ⟨id, event', hevent', hrecords.sameReport hsame⟩

end ProviderWebhook

/-! ## Runs -/

section Runs

open PaymentsRepository (findPaymentProviderEventById)
open RefundsRepository (findRefundProviderEventById)

variable (runtime : WebhookRuntime) (decimals : DecimalRuntime) (databaseMessage : Failure → String)

namespace WebhookDelivery

/-- There is a verified event for the delivery that reports what it has reported, and that has been
processed or may be. -/
def Recorded (delivery : WebhookDelivery) (db : Store) : Prop :=
  match delivery.kind with
  | .payment =>
    (paymentProviderWebhook runtime).Recorded findPaymentProviderEventById delivery.input db
  | .refund =>
    (refundProviderWebhook runtime).Recorded findRefundProviderEventById delivery.input db

/-- The delivery has been recorded already; or no event is stored under its id, the row gets an id
of its own, and what the payload names is there. -/
def Storable (delivery : WebhookDelivery) (db : Store) : Prop :=
  match delivery.kind with
  | .payment => (paymentProviderWebhook runtime).Storable findPaymentProviderEventById
      PaymentEventIds.Named delivery.newId delivery.input db
  | .refund => (refundProviderWebhook runtime).Storable findRefundProviderEventById
      RefundEventIds.Named delivery.newId delivery.input db

variable {runtime}

theorem recorded_run_iff {delivery : WebhookDelivery}
    (hverified : delivery.verificationStatus runtime = .verified) (db : Store) :
    delivery.Recorded runtime (delivery.run runtime db) ↔ delivery.Storable runtime db := by
  obtain ⟨kind, newId, now, input⟩ := delivery
  cases kind with
  | payment =>
    exact ((paymentProviderWebhook runtime).ingestWebhook_ingested runtime newId now input
      db).run.recorded_iff (paymentProviderWebhook_lawful runtime) hverified
  | refund =>
    exact ((refundProviderWebhook runtime).ingestWebhook_ingested runtime newId now input
      db).run.recorded_iff (refundProviderWebhook_lawful runtime) hverified

theorem Recorded.step {delivery : WebhookDelivery} {db : Store}
    (h : delivery.Recorded runtime db) (step : WebhookStep) :
    delivery.Recorded runtime (step.run runtime decimals databaseMessage db) := by
  obtain ⟨kind, newId, now, input⟩ := delivery
  cases kind with
  | payment =>
    exact ProviderWebhook.Recorded.mono h fun _ _ hevent => step.run_sameReport_payment hevent
  | refund =>
    exact ProviderWebhook.Recorded.mono h fun _ _ hevent => step.run_sameReport_refund hevent

end WebhookDelivery

/-- If the step is a verified delivery, it meets the condition. -/
def WebhookStep.IfVerified (runtime : WebhookRuntime) (P : WebhookDelivery → Store → Prop)
    (step : WebhookStep) (db : Store) : Prop :=
  ∀ delivery, step = .deliver delivery → delivery.verificationStatus runtime = .verified →
    P delivery db

/-- At each point of a run of deliveries and of processing, every verified delivery so far is
recorded, exactly when each could be stored when it came. -/
theorem verified_recorded_iff (steps : List WebhookStep) (db : Store) :
    Lasting (WebhookStep.run runtime decimals databaseMessage)
        (WebhookStep.IfVerified runtime (WebhookDelivery.Recorded runtime)) steps db ↔
      MeetAll (WebhookStep.run runtime decimals databaseMessage)
        (WebhookStep.IfVerified runtime (WebhookDelivery.Storable runtime)) steps db := by
  refine lasting_iff_meetAll (fun step step' db h delivery hstep hverified => ?_)
    (fun step db => ?_) steps
  · exact (h delivery hstep hverified).step decimals databaseMessage step'
  · constructor
    · rintro h delivery rfl hverified
      exact (delivery.recorded_run_iff hverified db).mp (h delivery rfl hverified)
    · rintro h delivery rfl hverified
      exact (delivery.recorded_run_iff hverified db).mpr (h delivery rfl hverified)

end Runs

/-! ## A forged delivery -/

namespace ForgedDelivery

open ProviderWebhookNormalizer

def body : String := "\x7b\"id\":\"evt_1\",\"type\":\"payment.succeeded\"\x7d"

/-- The runtime outside production; the hash is that of the body under the secret below. -/
def runtime : WebhookRuntime where
  unicode := english
  stringify _ := body
  hmacSha256 _ _ := "5f47a7d4e6533f00e8062efd95751a331eedd42278cc6f32c7259f019883e9dc"
  isProduction := false
  idOf := String.length

def input (signatureHeader : String) : IngestProviderWebhookInput where
  provider := .stripe
  payload := .object [("id", .string "evt_1"), ("type", .string "payment.succeeded")]
  rawBody := some body
  signatureHeader := some signatureHeader
  signingSecret := some "secret_1"

/-- What the provider sends. -/
def genuine : WebhookDelivery where
  kind := .payment
  newId := 2
  now := 1
  input := input "v1=5f47a7d4e6533f00e8062efd95751a331eedd42278cc6f32c7259f019883e9dc"

/-- The same without a signature, sent by somebody else and before. -/
def forged : WebhookDelivery where
  kind := .payment
  newId := 1
  now := 0
  input := input "v1=0"

/-- The forged delivery takes the id of the real one, which is not recorded then. -/
theorem verified_not_recorded : ∃ steps : List WebhookStep,
    ¬ Lasting (WebhookStep.run runtime sampleDecimals fun _ => "")
      (WebhookStep.IfVerified runtime (WebhookDelivery.Recorded runtime)) steps Db.empty := by
  refine ⟨[.deliver forged, .deliver genuine], fun hlasting => ?_⟩
  have hverified : genuine.verificationStatus runtime = .verified := by decide +kernel
  obtain ⟨id, event, hevent, hrecords⟩ := hlasting _ [] (List.append_nil _).symm _
    (List.mem_cons_of_mem _ List.mem_cons_self) genuine rfl hverified
  -- the only event that is stored is the forged one
  have hnone : (runAll (WebhookStep.run runtime sampleDecimals fun _ => "")
      [.deliver forged, .deliver genuine] Db.empty).list .paymentProviderEvent
        (fun event => event.verificationStatus == .verified) = [] := by
    decide +kernel
  exact Db.list_eq_nil_iff.mp hnone id ⟨event, hevent, beq_iff_eq.mpr hrecords.verified⟩

end ForgedDelivery

end WerTe
