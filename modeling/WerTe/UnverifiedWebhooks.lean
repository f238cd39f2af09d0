import WerTe.ReadCommitted.SideBySide
import WerTe.VerifiedDeliveries

/-!
# Events that are not accepted

An event whose verification status processing does not accept changes no row but its own. Yet it is
not as if it had never come: it keeps its id, and the real event that has the same id is not stored
any more. `unaccepted_erased` says that a run is the same without such events, in all tables but
those of events, as long as no accepted delivery finds its id taken by one of them.
-/

namespace WerTe

open ReadCommitted

/-- The tables of payments, refunds, orders, stock and all else but events. -/
def IsBusinessTable (t : Tbl) : Prop := t ≠ .paymentProviderEvent ∧ t ≠ .refundProviderEvent

/-- Processing accepts the event. -/
def ProviderEvent.accepted {Ids Status : Type} (event : ProviderEvent Ids Status) : Bool :=
  isProviderEventVerifiedForProcessing event.verificationStatus

/-! ## What the lifecycle of payments and refunds depends on -/

section Respects

variable {E : Store → Store → Prop} (hE : Parallel E)
  (hsame : ∀ db db', E db db' → Db.SameOn IsBusinessTable db db')

include hsame in
theorem get_congr {k : Key Tbl} (hk : IsBusinessTable k.1) (db db' : Store) (h : E db db') :
    db.get k = db'.get k := (hsame db db' h).get hk

include hE hsame in
theorem restoreLots_respects (allocations : List MenuInventoryLotAllocation) :
    (restoreLots allocations).Respects E := by
  induction allocations with
  | nil => exact .ret ()
  | cons allocation rest ih =>
    exact .bind (.updateRow hE (get_congr hsame (by simp [IsBusinessTable]))) fun _ => ih

include hE hsame in
theorem restoreOptions_respects (quantity : ℤ) (itemOptionIds : List Id) :
    (restoreOptions quantity itemOptionIds).Respects E := by
  induction itemOptionIds with
  | nil => exact .ret ()
  | cons itemOptionId rest ih =>
    exact .bind (.updateRow hE (get_congr hsame (by simp [IsBusinessTable]))) fun _ => ih

include hE hsame in
theorem restoreTrackedInventoryForOrder_respects (lines : List MenuInventoryOrderLineInput) :
    (restoreTrackedInventoryForOrder lines).Respects E := by
  induction lines with
  | nil => exact .ret ()
  | cons line lines ih =>
    refine .bind ?_ fun _ => .bind ?_ fun _ => .bind
      (restoreOptions_respects hE hsame _ _) fun _ => ih
    · unfold restoreItem
      split
      · exact .bind (.updateRow hE (get_congr hsame (by simp [IsBusinessTable]))) fun _ =>
          restoreLots_respects hE hsame _
      · exact .ret ()
    · unfold restoreVariant
      cases line.reservedVariant with
      | none => exact .ret ()
      | some combinationId =>
        exact .bind (.updateRow hE (get_congr hsame (by simp [IsBusinessTable]))) fun _ => .ret ()

end Respects

section Reads

variable {db db' : Store} (h : Db.SameOn IsBusinessTable db db')

include h in
theorem findPaymentById_congr (paymentId : Id) :
    PaymentsRepository.findById db paymentId = PaymentsRepository.findById db' paymentId := by
  have hpayment : ∀ id, db.get (.payment, id) = db'.get (.payment, id) :=
    fun id => h.get (by simp [IsBusinessTable])
  have horder : ∀ id, db.get (.order, id) = db'.get (.order, id) :=
    fun id => h.get (by simp [IsBusinessTable])
  simp only [PaymentsRepository.findById, hpayment, horder]

include h in
theorem findOrderDetailById_congr (orderId : Id) :
    OrdersRepository.findOrderDetailById db orderId =
      OrdersRepository.findOrderDetailById db' orderId := by
  have hget : ∀ {k : Key Tbl}, IsBusinessTable k.1 → db.get k = db'.get k := h.get
  have horder : ∀ id, db.get (.order, id) = db'.get (.order, id) :=
    fun id => hget (by simp [IsBusinessTable])
  have hcustomer : ∀ id, db.get (.customerProfile, id) = db'.get (.customerProfile, id) :=
    fun id => hget (by simp [IsBusinessTable])
  have hbranch : ∀ id, db.get (.branch, id) = db'.get (.branch, id) :=
    fun id => hget (by simp [IsBusinessTable])
  have hmerchant : ∀ id, db.get (.merchant, id) = db'.get (.merchant, id) :=
    fun id => hget (by simp [IsBusinessTable])
  have hdelivery : DeliveriesRepository.findByOrderId db orderId =
      DeliveriesRepository.findByOrderId db' orderId := by
    rw [DeliveriesRepository.findByOrderId, h.list (by simp [IsBusinessTable]),
      DeliveriesRepository.findByOrderId]
  simp only [OrdersRepository.findOrderDetailById, horder, hcustomer, hbranch, hmerchant, hdelivery]

include h in
theorem findRefundById_congr (refundId : Id) :
    RefundsRepository.findById db refundId = RefundsRepository.findById db' refundId := by
  have hrefund : ∀ id, db.get (.refund, id) = db'.get (.refund, id) :=
    fun id => h.get (by simp [IsBusinessTable])
  have hpayment : ∀ id, db.get (.payment, id) = db'.get (.payment, id) :=
    fun id => h.get (by simp [IsBusinessTable])
  simp only [RefundsRepository.findById, hrefund, hpayment]

include h in
theorem findByIdWithRefunds_congr (paymentId : Id) :
    PaymentsRepository.findByIdWithRefunds db paymentId =
      PaymentsRepository.findByIdWithRefunds db' paymentId := by
  have hrefunds : RefundsRepository.findPaymentRefunds db paymentId =
      RefundsRepository.findPaymentRefunds db' paymentId := by
    unfold RefundsRepository.findPaymentRefunds
    rw [h.list (by simp [IsBusinessTable])]
  simp only [PaymentsRepository.findByIdWithRefunds, findPaymentById_congr h, hrefunds]

include h in
theorem resolvePayment_congr (event : PaymentProviderEvent) :
    PaymentProviderEventProcessor.resolvePayment db event =
      PaymentProviderEventProcessor.resolvePayment db' event := by
  have hlist : ∀ p, db.list .payment p = db'.list .payment p :=
    fun p => h.list (by simp [IsBusinessTable]) p
  have hfind : PaymentsRepository.findById db = PaymentsRepository.findById db' :=
    funext (findPaymentById_congr h)
  have hlatest : PaymentsRepository.findLatestByProviderReference db event.provider =
      PaymentsRepository.findLatestByProviderReference db' event.provider := by
    funext providerReference
    simp only [PaymentsRepository.findLatestByProviderReference, hlist, hfind]
  simp only [PaymentProviderEventProcessor.resolvePayment, hfind, hlatest]

include h in
theorem resolveRefund_congr (event : RefundProviderEvent) :
    RefundProviderEventProcessor.resolveRefund db event =
      RefundProviderEventProcessor.resolveRefund db' event := by
  have hlist : ∀ p, db.list .refund p = db'.list .refund p :=
    fun p => h.list (by simp [IsBusinessTable]) p
  have hfind : RefundsRepository.findById db = RefundsRepository.findById db' :=
    funext (findRefundById_congr h)
  have hlatest : RefundsRepository.findLatestByProviderReference db event.provider =
      RefundsRepository.findLatestByProviderReference db' event.provider := by
    funext providerReference
    simp only [RefundsRepository.findLatestByProviderReference, hlist, hfind]
  simp only [RefundProviderEventProcessor.resolveRefund, hfind, hlatest]

end Reads

section Transitions

variable {E : Store → Store → Prop} (hE : Parallel E)
  (hsame : ∀ db db', E db db' → Db.SameOn IsBusinessTable db db')

include hE hsame in
theorem autoCancelOrder_respects (payment : PaymentSummaryRecord)
    (reasonCode note : Option String) :
    (autoCancelOrder payment reasonCode note).Respects E := by
  refine .bind (.read hE fun db db' h => findOrderDetailById_congr (hsame db db' h) _)
    fun orderDetail => .bind
      (.updateExisting hE (get_congr hsame (by simp [IsBusinessTable]))) fun _ => ?_
  cases orderDetail with
  | none => exact .ret ()
  | some record =>
    dsimp only
    split
    · exact restoreTrackedInventoryForOrder_respects hE hsame _
    · exact .ret ()

include hE hsame in
theorem handlePaymentTransition_respects (currentUser : AuthenticatedUser)
    (input : PaymentLifecycleInput) (config : PaymentLifecycleConfig) :
    (handlePaymentTransition currentUser input config).Respects E := by
  refine .bind (.require _ _) fun _ => .bind
    (.get fun db db' h => findPaymentById_congr (hsame db db' h) _) fun found =>
      .bind (.orFail _ _) fun payment => ?_
  split
  · exact .ret ()
  · refine .bind (.require _ _) fun _ => .transaction (.bind (.bind
      (.updateExisting hE (get_congr hsame (by simp [IsBusinessTable]))) fun _ => .bind
        (.read hE fun db db' h => findPaymentById_congr (hsame db db' h) _) fun _ => .orFail _ _)
      fun transitioned => ?_)
    split
    · exact autoCancelOrder_respects hE hsame _ _ _
    · exact .ret ()

open RefundOperations in
include hE hsame in
theorem finalizeCurrentAdminRefund_respects (decimals : DecimalRuntime)
    (currentUser : AuthenticatedUser) (input : FinalizeRefundInput)
    (config : FinalizeRefundConfig) :
    (finalizeCurrentAdminRefund decimals currentUser input config).Respects E := by
  refine .bind (.require _ _) fun _ => .bind
    (.get fun db db' h => findRefundById_congr (hsame db db' h) _) fun found =>
      .bind (.orFail _ _) fun refund => ?_
  split
  · exact .ret ()
  · refine .bind (.require _ _) fun _ => .transaction (.bind (.bind
      (.updateExisting hE (get_congr hsame (by simp [IsBusinessTable]))) fun _ => .bind
        (.read hE fun db db' h => findRefundById_congr (hsame db db' h) _) fun _ => .orFail _ _)
      fun transitioned => ?_)
    split
    · exact .bind (.read hE fun db db' h => findByIdWithRefunds_congr (hsame db db' h) _)
        fun _ => .bind (.orFail _ _) fun _ => .bind (.orFail _ _) fun _ =>
          .updateExisting hE (get_congr hsame (by simp [IsBusinessTable]))
    · exact .ret ()

end Transitions

/-! ## Processing -/

section Accepted

variable {Ids Status : Type} {find : Store → Id → Option (ProviderEvent Ids Status)}
  {db db' : Store}

/-- The second store has the accepted events of the first, and no others. -/
def OnlyAccepted (find : Store → Id → Option (ProviderEvent Ids Status)) (db db' : Store) : Prop :=
  ∀ id, find db' id = (find db id).filter (·.accepted)

theorem OnlyAccepted.mem (h : OnlyAccepted find db db') {id : Id}
    {event : ProviderEvent Ids Status} (hevent : find db' id = some event) :
    find db id = some event ∧ event.accepted = true := by
  rw [h id, Option.filter_eq_some_iff] at hevent
  exact hevent

theorem OnlyAccepted.find_of_accepted (h : OnlyAccepted find db db') {id : Id}
    {event : ProviderEvent Ids Status} (hevent : find db id = some event)
    (haccepted : event.accepted = true) : find db' id = some event := by
  rw [h id, hevent, Option.filter_some, if_pos haccepted]

theorem OnlyAccepted.find_of_none (h : OnlyAccepted find db db') {id : Id}
    (hnone : find db id = none) : find db' id = none := by
  rw [h id, hnone, Option.filter_none]

theorem ProviderEvent.SameReport.accepted {event event' : ProviderEvent Ids Status}
    (h : event.SameReport event') : event'.accepted = event.accepted := by
  rw [ProviderEvent.accepted, ProviderEvent.accepted, h.verificationStatus]

end Accepted

namespace ProviderEventProcessor

variable {Ids Status Target Action : Type}
  {processor : ProviderEventProcessor Ids Status Target Action} {databaseMessage : Failure → String}
  {table : Tbl}

/-- What the processor does depends on its event and on the tables that are not of events. -/
structure Insulated (processor : ProviderEventProcessor Ids Status Target Action) : Prop where
  resolveTarget : ∀ {db db' : Store}, Db.SameOn IsBusinessTable db db' →
    processor.resolveTarget db = processor.resolveTarget db'
  reload : ∀ {db db' : Store}, Db.SameOn IsBusinessTable db db' →
    processor.reload db = processor.reload db'
  findEvent : ∀ eventId, Parallel fun db db' =>
    processor.findEvent db eventId = processor.findEvent db' eventId
  updateEvent : ∀ {E : Store → Store → Prop} {eventId : Id}, Parallel E →
    (∀ db db', E db db' → processor.findEvent db eventId = processor.findEvent db' eventId) →
    ∀ payload, (processor.updateEvent eventId payload).Respects E
  applyLifecycleAction : ∀ {E : Store → Store → Prop}, Parallel E →
    (∀ db db', E db db' → Db.SameOn IsBusinessTable db db') →
    ∀ event target action, (processor.applyLifecycleAction event target action).Respects E

/-- Two stores with the same event and the same tables that are not of events. -/
def SameEvent (processor : ProviderEventProcessor Ids Status Target Action) (eventId : Id)
    (db db' : Store) : Prop :=
  Db.SameOn IsBusinessTable db db' ∧
    processor.findEvent db eventId = processor.findEvent db' eventId

theorem processProviderEvent_respects (h : processor.Insulated) (eventId : Id)
    (retryTerminal : Bool) :
    (processor.processProviderEvent databaseMessage eventId retryTerminal).Respects
      (processor.SameEvent eventId) := by
  have hE : Parallel (processor.SameEvent eventId) :=
    (Parallel.sameOn IsBusinessTable).and (h.findEvent eventId)
  have hmark : ∀ payload, (Service.transaction (processor.updateEvent eventId payload)).Respects
      (processor.SameEvent eventId) := fun payload =>
    .transaction (h.updateEvent hE (fun _ _ hsame => hsame.2) payload)
  refine .bind (.get fun _ _ hsame => hsame.2) fun found => .bind (.orFail _ _) fun event => ?_
  split
  · exact .ret ()
  · split
    · exact hmark _
    · cases processor.resolveLifecycleAction event.normalizedStatus with
      | none => exact hmark _
      | some action =>
        refine .bind (.get fun _ _ hsame => congrFun (h.resolveTarget hsame.1) event)
          fun found => ?_
        cases found with
        | none => exact hmark _
        | some target =>
          dsimp only
          split
          · exact hmark _
          · refine .bind (h.applyLifecycleAction hE (fun _ _ hsame => hsame.1) event target
              action).attempt fun outcome => ?_
            cases outcome with
            | ok u =>
              exact .bind (.get fun _ _ hsame => congrFun (h.reload hsame.1) target)
                fun _ => hmark _
            | error e => exact .bind (hmark _) fun _ => .throw e

variable {db db' : Store} {eventId : Id} {retryTerminal : Bool}

/-- Processing an accepted event, or none, does the same with the other events and without. -/
theorem processProviderEvent_alike (h : processor.Lawful table) (hinsulated : processor.Insulated)
    (hsame : Db.SameOn IsBusinessTable db db') (honly : OnlyAccepted processor.findEvent db db')
    (haccepted : ∀ event, processor.findEvent db eventId = some event → event.accepted = true) :
    Db.SameOn IsBusinessTable
        ((processor.processProviderEvent databaseMessage eventId retryTerminal).run db).2
        ((processor.processProviderEvent databaseMessage eventId retryTerminal).run db').2 ∧
      OnlyAccepted processor.findEvent
        ((processor.processProviderEvent databaseMessage eventId retryTerminal).run db).2
        ((processor.processProviderEvent databaseMessage eventId retryTerminal).run db').2 := by
  have hfind : processor.findEvent db eventId = processor.findEvent db' eventId := by
    cases hevent : processor.findEvent db eventId with
    | none => exact (honly.find_of_none hevent).symm
    | some event => exact (honly.find_of_accepted hevent (haccepted event hevent)).symm
  have hrespects : (processor.processProviderEvent databaseMessage eventId retryTerminal).Respects
      (processor.SameEvent eventId) :=
    processProviderEvent_respects hinsulated eventId retryTerminal
  obtain ⟨-, hafter, hevents⟩ := hrespects.run ⟨hsame, hfind⟩
  have hprocessing : ∀ db : Store, processor.Processing eventId retryTerminal db
      ((processor.processProviderEvent databaseMessage eventId retryTerminal).run db).2 :=
    fun db => (processProviderEvent_processing h db eventId retryTerminal).run
  refine ⟨hafter, fun id => ?_⟩
  by_cases hid : id = eventId
  · -- the event is still accepted
    subst hid
    rw [← hevents]
    have hrel := (hprocessing db).sameReport h id
    generalize processor.findEvent ((processor.processProviderEvent databaseMessage id
      retryTerminal).run db).2 id = after at hrel ⊢
    generalize processor.findEvent db id = before at haccepted hrel
    cases hrel with
    | none => rfl
    | some hreport =>
      rw [Option.filter_some, if_pos (hreport.accepted.trans (haccepted _ rfl))]
  · rw [(hprocessing db).others h hid, (hprocessing db').others h hid]
    exact honly id

/-- Processing an event that is not accepted is not noticed. -/
theorem processProviderEvent_unaccepted (h : processor.Lawful table)
    {event : ProviderEvent Ids Status} (hevent : processor.findEvent db eventId = some event)
    (hunaccepted : event.accepted = false) :
    Db.SameOn (· ≠ table) db
        ((processor.processProviderEvent databaseMessage eventId retryTerminal).run db).2 ∧
      (OnlyAccepted processor.findEvent db db' → OnlyAccepted processor.findEvent
        ((processor.processProviderEvent databaseMessage eventId retryTerminal).run db).2 db') := by
  have hprocessing : processor.Processing eventId retryTerminal db
      ((processor.processProviderEvent databaseMessage eventId retryTerminal).run db).2 :=
    (processProviderEvent_processing h db eventId retryTerminal).run
  refine ⟨hprocessing.of_unverified h hevent hunaccepted, fun honly id => ?_⟩
  by_cases hid : id = eventId
  · subst hid
    have hrel := hprocessing.sameReport h id
    rw [honly id]
    rw [hevent] at hrel ⊢
    generalize processor.findEvent ((processor.processProviderEvent databaseMessage id
      retryTerminal).run db).2 id = after at hrel ⊢
    cases hrel with
    | some hreport =>
      rw [Option.filter_some, Option.filter_some, hreport.accepted]
      simp [hunaccepted]
  · rw [hprocessing.others h hid]
    exact honly id

end ProviderEventProcessor

theorem paymentProviderEventProcessor_insulated : paymentProviderEventProcessor.Insulated where
  resolveTarget h := funext (resolvePayment_congr h)
  reload h := funext fun payment => findPaymentById_congr h payment.id
  findEvent eventId := @Parallel.get Tbl _ Row (.paymentProviderEvent, eventId)
  updateEvent hE hfind payload := .updateExisting hE hfind
  applyLifecycleAction hE hsame event target action := by
    cases action <;> exact handlePaymentTransition_respects hE hsame _ _ _

theorem refundProviderEventProcessor_insulated (decimals : DecimalRuntime) :
    (refundProviderEventProcessor decimals).Insulated where
  resolveTarget h := funext (resolveRefund_congr h)
  reload h := funext fun refund => findRefundById_congr h refund.id
  findEvent eventId := @Parallel.get Tbl _ Row (.refundProviderEvent, eventId)
  updateEvent hE hfind payload := .updateExisting hE hfind
  applyLifecycleAction hE hsame event target action := by
    cases action <;> exact finalizeCurrentAdminRefund_respects hE hsame _ _ _ _

/-! ## Deliveries -/

namespace ProviderWebhook

variable {Ids Status : Type} {webhook : ProviderWebhook Ids Status} {runtime : WebhookRuntime}
  {findEvent : Store → Id → Option (ProviderEvent Ids Status)} {named : Ids → Store → Prop}
  {table : Tbl} {db db' db₁ db₁' : Store} {newId : Id} {now : Date}
  {input : IngestProviderWebhookInput}

/-- No event that is not accepted has the delivery's key, or the id of its row. -/
def Unhindered (webhook : ProviderWebhook Ids Status)
    (findEvent : Store → Id → Option (ProviderEvent Ids Status)) (newId : Id)
    (input : IngestProviderWebhookInput) (db : Store) : Prop :=
  ∀ id event, findEvent db id = some event → event.accepted = false →
    id ≠ newId ∧ ((webhook.deliveryKey input).isSome → event.uniqueKey ≠ webhook.deliveryKey input)

/-- The event that is found under the delivery's id has the delivery's key. -/
theorem Lawful.key_of_existing (h : webhook.Lawful findEvent named table) {id : Id}
    {event : ProviderEvent Ids Status} (hexisting : webhook.findExistingEvent db input.provider
      (webhook.normalizeEvent input.payload).providerEventId = some (id, event)) :
    findEvent db id = some event ∧ (webhook.deliveryKey input).isSome ∧
      event.uniqueKey = webhook.deliveryKey input := by
  obtain ⟨providerEventId, hid, hfound⟩ := Option.bind_eq_some_iff.mp hexisting
  obtain ⟨hevent, hkey⟩ := h.found hfound
  rw [deliveryKey, hid]
  exact ⟨hevent, rfl, hkey⟩

/-- A delivery that is not accepted is not noticed. -/
theorem Ingested.unaccepted (h : webhook.Lawful findEvent named table)
    (hunaccepted : isProviderEventVerifiedForProcessing (verification runtime input).status = false)
    (hingested : webhook.Ingested runtime newId now input db db₁)
    (honly : OnlyAccepted findEvent db db') : OnlyAccepted findEvent db₁ db' := by
  cases hingested with
  | existing => exact honly
  | refused => exact honly
  | created db₁ _ hcreate =>
    obtain ⟨hnone, -, hevent, hothers⟩ := h.created hcreate
    intro id
    by_cases hid : id = newId
    · subst hid
      have hnot : (webhook.newEvent runtime now input).accepted = false := hunaccepted
      rw [honly.find_of_none hnone, hevent, Option.filter_some, if_neg (by simp [hnot])]
    · rw [hothers id hid]
      exact honly id

/-- An accepted delivery that is not hindered does the same with the other events and without. -/
theorem Ingested.alike (h : webhook.Lawful findEvent named table)
    (haccepted : isProviderEventVerifiedForProcessing (verification runtime input).status = true)
    (hnamed : ∀ ids, named ids db ↔ named ids db')
    (hfree : webhook.Unhindered findEvent newId input db) (honly : OnlyAccepted findEvent db db')
    (hingested : webhook.Ingested runtime newId now input db db₁)
    (hingested' : webhook.Ingested runtime newId now input db' db₁') :
    OnlyAccepted findEvent db₁ db₁' := by
  have hfound : ∀ {id event}, findEvent db id = some event →
      id = newId ∨ (webhook.deliveryKey input).isSome ∧
        event.uniqueKey = webhook.deliveryKey input → findEvent db' id = some event := by
    intro id event hevent hheld
    refine honly.find_of_accepted hevent ?_
    by_contra hnot
    obtain ⟨hid, hkey⟩ := hfree id event hevent (Bool.eq_false_of_not_eq_true hnot)
    rcases hheld with hheld | ⟨hsome, hheld⟩
    · exact hid hheld
    · exact hkey hsome hheld
  -- the id is taken in both stores, or in neither
  have hexisting : ∀ {id event}, webhook.findExistingEvent db input.provider
      (webhook.normalizeEvent input.payload).providerEventId = some (id, event) →
      webhook.findExistingEvent db' input.provider
        (webhook.normalizeEvent input.payload).providerEventId ≠ none := by
    intro id event hsome hnone
    obtain ⟨hevent, hkey, hheld⟩ := h.key_of_existing hsome
    exact h.unused hnone id event (hfound hevent (.inr ⟨hkey, hheld⟩)) hkey hheld
  have hexisting' : ∀ {id event}, webhook.findExistingEvent db' input.provider
      (webhook.normalizeEvent input.payload).providerEventId = some (id, event) →
      webhook.findExistingEvent db input.provider
        (webhook.normalizeEvent input.payload).providerEventId ≠ none := by
    intro id event hsome hnone
    obtain ⟨hevent, hkey, hheld⟩ := h.key_of_existing hsome
    exact h.unused hnone id event (honly.mem hevent).1 hkey hheld
  have hnewId : findEvent db newId = none ↔ findEvent db' newId = none := by
    refine ⟨honly.find_of_none, fun hnone => ?_⟩
    cases hevent : findEvent db newId with
    | none => rfl
    | some event => cases (hfound hevent (.inl rfl)).symm.trans hnone
  cases hingested with
  | existing id event hsome =>
    cases hingested' with
    | existing => exact honly
    | refused _ hnone => exact absurd hnone (hexisting hsome)
    | created _ hnone => exact absurd hnone (hexisting hsome)
  | refused e hnone hrefused =>
    cases hingested' with
    | existing id event hsome => exact absurd hnone (hexisting' hsome)
    | refused => exact honly
    | created db₁' _ hcreate' =>
      obtain ⟨hnew', hnamed', -, -⟩ := h.created hcreate'
      have hcreates : ∃ db₁, (webhook.createEvent newId
          (webhook.newEvent runtime now input)).run db = .ok ((), db₁) :=
        h.creates (hnewId.mpr hnew') (h.unused hnone) ((hnamed _).mpr hnamed')
      obtain ⟨db₁, hcreate⟩ := hcreates
      cases hrefused.symm.trans hcreate
  | created db₁ hnone hcreate =>
    obtain ⟨hnew, hnames, hevent, hothers⟩ := h.created hcreate
    cases hingested' with
    | existing id event hsome => exact absurd hnone (hexisting' hsome)
    | refused e hnone' hrefused' =>
      have hcreates : ∃ db₁', (webhook.createEvent newId
          (webhook.newEvent runtime now input)).run db' = .ok ((), db₁') :=
        h.creates (hnewId.mp hnew) (h.unused hnone') ((hnamed _).mp hnames)
      obtain ⟨db₁', hcreate'⟩ := hcreates
      cases hrefused'.symm.trans hcreate'
    | created db₁' _ hcreate' =>
      obtain ⟨-, -, hevent', hothers'⟩ := h.created hcreate'
      intro id
      by_cases hid : id = newId
      · subst hid
        have haccepts : (webhook.newEvent runtime now input).accepted = true := haccepted
        rw [hevent, hevent', Option.filter_some, if_pos haccepts]
      · rw [hothers id hid, hothers' id hid]
        exact honly id

end ProviderWebhook

/-! ## Runs -/

section Runs

open PaymentsRepository (findPaymentProviderEventById)
open RefundsRepository (findRefundProviderEventById)

variable (runtime : WebhookRuntime) (decimals : DecimalRuntime) (databaseMessage : Failure → String)

/-- The second store is the first without the events that are not accepted. -/
structure Purged (db db' : Store) : Prop where
  tables : Db.SameOn IsBusinessTable db db'
  payments : OnlyAccepted findPaymentProviderEventById db db'
  refunds : OnlyAccepted findRefundProviderEventById db db'

/-- The step is about an event that is not accepted: it comes in, or it is processed. -/
def WebhookStep.unaccepted (step : WebhookStep) (db : Store) : Bool :=
  match step with
  | .deliver delivery =>
    !isProviderEventVerifiedForProcessing (delivery.verificationStatus runtime)
  | .process (.payment eventId _) =>
    (findPaymentProviderEventById db eventId).any fun event => !event.accepted
  | .process (.refund eventId _) =>
    (findRefundProviderEventById db eventId).any fun event => !event.accepted

/-- The steps of a run that are about other events. -/
def eraseUnaccepted : List WebhookStep → Store → List WebhookStep
  | [], _ => []
  | step :: steps, db =>
    if step.unaccepted runtime db then
      eraseUnaccepted steps (step.run runtime decimals databaseMessage db)
    else step :: eraseUnaccepted steps (step.run runtime decimals databaseMessage db)

/-- No event that is not accepted has the delivery's key, or the id of its row. -/
def WebhookDelivery.Unhindered (delivery : WebhookDelivery) (db : Store) : Prop :=
  match delivery.kind with
  | .payment => (paymentProviderWebhook runtime).Unhindered findPaymentProviderEventById
      delivery.newId delivery.input db
  | .refund => (refundProviderWebhook runtime).Unhindered findRefundProviderEventById
      delivery.newId delivery.input db

/-- If the step is an accepted delivery, it is not hindered. -/
def WebhookStep.Unhindered (step : WebhookStep) (db : Store) : Prop :=
  ∀ delivery, step = .deliver delivery →
    isProviderEventVerifiedForProcessing (delivery.verificationStatus runtime) = true →
    delivery.Unhindered runtime db

variable {runtime decimals databaseMessage} {db db' : Store}

theorem references_congr (h : Db.SameOn IsBusinessTable db db') {t : Tbl} (ht : IsBusinessTable t)
    (id : Option Id) : References t id db ↔ References t id db' := by
  have hget : ∀ i, db.get (t, i) = db'.get (t, i) := fun i => h.get ht
  simp only [References, hget]

theorem paymentNamed_congr (h : Db.SameOn IsBusinessTable db db') (ids : PaymentEventIds) :
    ids.Named db ↔ ids.Named db' :=
  and_congr (references_congr h (by simp [IsBusinessTable]) _)
    (references_congr h (by simp [IsBusinessTable]) _)

theorem refundNamed_congr (h : Db.SameOn IsBusinessTable db db') (ids : RefundEventIds) :
    ids.Named db ↔ ids.Named db' :=
  and_congr (references_congr h (by simp [IsBusinessTable]) _)
    (and_congr (references_congr h (by simp [IsBusinessTable]) _)
      (references_congr h (by simp [IsBusinessTable]) _))

/-- What is the same but for one table of events. -/
theorem sameOn_business {table : Tbl} (h : Db.SameOn (· ≠ table) db db')
    (htable : ¬ IsBusinessTable table) : Db.SameOn IsBusinessTable db db' :=
  fun t ht => h t fun heq => htable (heq ▸ ht)

theorem not_business_payment : ¬ IsBusinessTable .paymentProviderEvent := fun h => h.1 rfl

theorem not_business_refund : ¬ IsBusinessTable .refundProviderEvent := fun h => h.2 rfl

/-- The other events stay, where one table of events is written to. -/
theorem OnlyAccepted.of_sameOn {Ids Status : Type}
    {find : Store → Id → Option (ProviderEvent Ids Status)} {db₁ db₁' : Store}
    (h : OnlyAccepted find db db') (hleft : find db₁ = find db) (hright : find db₁' = find db') :
    OnlyAccepted find db₁ db₁' := fun id => by
  rw [hleft, hright]
  exact h id

theorem findPayment_of_sameOn (h : Db.SameOn (· = .paymentProviderEvent) db db') :
    findPaymentProviderEventById db' = findPaymentProviderEventById db :=
  funext fun _ => (h.get rfl).symm

theorem findRefund_of_sameOn (h : Db.SameOn (· = .refundProviderEvent) db db') :
    findRefundProviderEventById db' = findRefundProviderEventById db :=
  funext fun _ => (h.get rfl).symm

/-- Where only one table is written to, any other is as it was. -/
theorem sameOn_other {table other : Tbl} (h : Db.SameOn (· ≠ table) db db') (hne : other ≠ table) :
    Db.SameOn (· = other) db db' := fun t ht => h t (ht ▸ hne)

/-- What is done to an event of a payment that is not accepted. -/
theorem Purged.of_payments {db₁ : Store} (hsame : Db.SameOn (· ≠ .paymentProviderEvent) db db₁)
    (honly : OnlyAccepted findPaymentProviderEventById db db' →
      OnlyAccepted findPaymentProviderEventById db₁ db') :
    Db.SameOn IsBusinessTable db db₁ ∧ (Purged db db' → Purged db₁ db') := by
  have htables := sameOn_business hsame not_business_payment
  exact ⟨htables, fun h => ⟨htables.symm.trans h.tables, honly h.payments,
    h.refunds.of_sameOn (findRefund_of_sameOn (sameOn_other hsame (by decide))) rfl⟩⟩

theorem Purged.of_refunds {db₁ : Store} (hsame : Db.SameOn (· ≠ .refundProviderEvent) db db₁)
    (honly : OnlyAccepted findRefundProviderEventById db db' →
      OnlyAccepted findRefundProviderEventById db₁ db') :
    Db.SameOn IsBusinessTable db db₁ ∧ (Purged db db' → Purged db₁ db') := by
  have htables := sameOn_business hsame not_business_refund
  exact ⟨htables, fun h => ⟨htables.symm.trans h.tables,
    h.payments.of_sameOn (findPayment_of_sameOn (sameOn_other hsame (by decide))) rfl,
    honly h.refunds⟩⟩

/-- A step about an event that is not accepted changes no row but the event's, and is not noticed
where there are no such events. -/
theorem WebhookStep.run_unaccepted {step : WebhookStep}
    (hstep : step.unaccepted runtime db = true) :
    Db.SameOn IsBusinessTable db (step.run runtime decimals databaseMessage db) ∧
      (Purged db db' → Purged (step.run runtime decimals databaseMessage db) db') := by
  cases step with
  | deliver delivery =>
    obtain ⟨kind, newId, now, input⟩ := delivery
    have hnot : isProviderEventVerifiedForProcessing
        (ProviderWebhook.verification runtime input).status = false := by
      simpa only [WebhookStep.unaccepted, WebhookDelivery.verificationStatus, Bool.not_eq_true']
        using hstep
    cases kind with
    | payment =>
      exact Purged.of_payments (ProviderWebhook.ingestWebhook_sameOn
        (paymentProviderWebhook_lawful runtime)) fun honly =>
          ((paymentProviderWebhook runtime).ingestWebhook_ingested runtime newId now input
            db).run.unaccepted (paymentProviderWebhook_lawful runtime) hnot honly
    | refund =>
      exact Purged.of_refunds (ProviderWebhook.ingestWebhook_sameOn
        (refundProviderWebhook_lawful runtime)) fun honly =>
          ((refundProviderWebhook runtime).ingestWebhook_ingested runtime newId now input
            db).run.unaccepted (refundProviderWebhook_lawful runtime) hnot honly
  | process call =>
    cases call with
    | payment eventId retryTerminal =>
      obtain ⟨event, hevent, hnot⟩ := (Option.any_eq_true _ _).mp hstep
      have hunaccepted : event.accepted = false := by simpa using hnot
      obtain ⟨hsame, honly⟩ := ProviderEventProcessor.processProviderEvent_unaccepted
        paymentProviderEventProcessor_lawful hevent hunaccepted
      exact Purged.of_payments hsame honly
    | refund eventId retryTerminal =>
      obtain ⟨event, hevent, hnot⟩ := (Option.any_eq_true _ _).mp hstep
      have hunaccepted : event.accepted = false := by simpa using hnot
      obtain ⟨hsame, honly⟩ := ProviderEventProcessor.processProviderEvent_unaccepted
        (refundProviderEventProcessor_lawful decimals) hevent hunaccepted
      exact Purged.of_refunds hsame honly

/-- A step about an accepted event does the same with the other events and without. -/
theorem WebhookStep.run_accepted {step : WebhookStep} (hstep : step.unaccepted runtime db = false)
    (hfree : step.Unhindered runtime db) (h : Purged db db') :
    Purged (step.run runtime decimals databaseMessage db)
      (step.run runtime decimals databaseMessage db') := by
  cases step with
  | deliver delivery =>
    obtain ⟨kind, newId, now, input⟩ := delivery
    have haccepted : isProviderEventVerifiedForProcessing
        (ProviderWebhook.verification runtime input).status = true := by
      simpa only [WebhookStep.unaccepted, WebhookDelivery.verificationStatus, Bool.not_eq_false']
        using hstep
    have hunhindered := hfree _ rfl haccepted
    cases kind with
    | payment =>
      have hlawful := paymentProviderWebhook_lawful runtime
      have hsame : ∀ db : Store, Db.SameOn (· ≠ Tbl.paymentProviderEvent) db
          (((paymentProviderWebhook runtime).ingestWebhook runtime newId now input).run db).2 :=
        fun db => ProviderWebhook.ingestWebhook_sameOn hlawful
      have htables : ∀ db : Store, Db.SameOn IsBusinessTable db _ :=
        fun db => sameOn_business (hsame db) not_business_payment
      exact ⟨((htables db).symm.trans h.tables).trans (htables db'),
        (ProviderWebhook.ingestWebhook_ingested _ runtime newId now input db).run.alike hlawful
          haccepted (paymentNamed_congr h.tables) hunhindered h.payments
          (ProviderWebhook.ingestWebhook_ingested _ runtime newId now input db').run,
        h.refunds.of_sameOn (findRefund_of_sameOn (sameOn_other (hsame db) (by decide)))
          (findRefund_of_sameOn (sameOn_other (hsame db') (by decide)))⟩
    | refund =>
      have hlawful := refundProviderWebhook_lawful runtime
      have hsame : ∀ db : Store, Db.SameOn (· ≠ Tbl.refundProviderEvent) db
          (((refundProviderWebhook runtime).ingestWebhook runtime newId now input).run db).2 :=
        fun db => ProviderWebhook.ingestWebhook_sameOn hlawful
      have htables : ∀ db : Store, Db.SameOn IsBusinessTable db _ :=
        fun db => sameOn_business (hsame db) not_business_refund
      exact ⟨((htables db).symm.trans h.tables).trans (htables db'),
        h.payments.of_sameOn (findPayment_of_sameOn (sameOn_other (hsame db) (by decide)))
          (findPayment_of_sameOn (sameOn_other (hsame db') (by decide))),
        (ProviderWebhook.ingestWebhook_ingested _ runtime newId now input db).run.alike hlawful
          haccepted (refundNamed_congr h.tables) hunhindered h.refunds
          (ProviderWebhook.ingestWebhook_ingested _ runtime newId now input db').run⟩
  | process call =>
    cases call with
    | payment eventId retryTerminal =>
      have haccepted : ∀ event, findPaymentProviderEventById db eventId = some event →
          event.accepted = true := fun event hevent => by
        simpa [WebhookStep.unaccepted, hevent] using hstep
      have hlawful := paymentProviderEventProcessor_lawful
      have halike : Db.SameOn IsBusinessTable
            ((ProviderEventCall.payment eventId retryTerminal).run decimals databaseMessage db)
            ((ProviderEventCall.payment eventId retryTerminal).run decimals databaseMessage db') ∧
          OnlyAccepted findPaymentProviderEventById
            ((ProviderEventCall.payment eventId retryTerminal).run decimals databaseMessage db)
            ((ProviderEventCall.payment eventId retryTerminal).run decimals databaseMessage db') :=
        ProviderEventProcessor.processProviderEvent_alike hlawful
          paymentProviderEventProcessor_insulated h.tables h.payments haccepted
      obtain ⟨htables, honly⟩ := halike
      exact ⟨htables, honly, h.refunds.of_sameOn
        (findRefund_of_sameOn (ProviderEventProcessor.processProviderEvent_sameOn hlawful
          (.inr rfl) (by decide)))
        (findRefund_of_sameOn (ProviderEventProcessor.processProviderEvent_sameOn hlawful
          (.inr rfl) (by decide)))⟩
    | refund eventId retryTerminal =>
      have haccepted : ∀ event, findRefundProviderEventById db eventId = some event →
          event.accepted = true := fun event hevent => by
        simpa [WebhookStep.unaccepted, hevent] using hstep
      have hlawful := refundProviderEventProcessor_lawful decimals
      have halike : Db.SameOn IsBusinessTable
            ((ProviderEventCall.refund eventId retryTerminal).run decimals databaseMessage db)
            ((ProviderEventCall.refund eventId retryTerminal).run decimals databaseMessage db') ∧
          OnlyAccepted findRefundProviderEventById
            ((ProviderEventCall.refund eventId retryTerminal).run decimals databaseMessage db)
            ((ProviderEventCall.refund eventId retryTerminal).run decimals databaseMessage db') :=
        ProviderEventProcessor.processProviderEvent_alike hlawful
          (refundProviderEventProcessor_insulated decimals) h.tables h.refunds haccepted
      obtain ⟨htables, honly⟩ := halike
      exact ⟨htables, h.payments.of_sameOn
        (findPayment_of_sameOn (ProviderEventProcessor.processProviderEvent_sameOn hlawful
          (.inl rfl) (by decide)))
        (findPayment_of_sameOn (ProviderEventProcessor.processProviderEvent_sameOn hlawful
          (.inl rfl) (by decide))), honly⟩

theorem purged_runAll (steps : List WebhookStep) : ∀ {db db' : Store}, Purged db db' →
    MeetAll (WebhookStep.run runtime decimals databaseMessage)
      (WebhookStep.Unhindered runtime) steps db →
    Purged (runAll (WebhookStep.run runtime decimals databaseMessage) steps db)
      (runAll (WebhookStep.run runtime decimals databaseMessage)
        (eraseUnaccepted runtime decimals databaseMessage steps db) db') := by
  induction steps with
  | nil => exact fun h _ => h
  | cons step steps ih =>
    rintro db db' h ⟨hfree, hrest⟩
    rw [eraseUnaccepted]
    split
    case isTrue hstep => exact ih ((step.run_unaccepted hstep).2 h) hrest
    case isFalse hstep =>
      exact ih (step.run_accepted (Bool.eq_false_of_not_eq_true hstep) hfree h) hrest

theorem eraseUnaccepted_append (before after : List WebhookStep) : ∀ db : Store,
    eraseUnaccepted runtime decimals databaseMessage (before ++ after) db =
      eraseUnaccepted runtime decimals databaseMessage before db ++
        eraseUnaccepted runtime decimals databaseMessage after
          (runAll (WebhookStep.run runtime decimals databaseMessage) before db) := by
  induction before with
  | nil => exact fun _ => rfl
  | cons step before ih =>
    intro db
    rw [List.cons_append, eraseUnaccepted, eraseUnaccepted, ih]
    split
    · rfl
    · rfl

/-- An event that is not accepted never changes a row of another table; and such events can be left
out of a run in which no accepted delivery is hindered by one: at every point, all tables but those
of events are the same. -/
theorem unaccepted_erased (hpurged : Purged db db') :
    (∀ (before : List WebhookStep) (step : WebhookStep),
      step.unaccepted runtime
          (runAll (WebhookStep.run runtime decimals databaseMessage) before db) = true →
        Db.SameOn IsBusinessTable
          (runAll (WebhookStep.run runtime decimals databaseMessage) before db)
          (runAll (WebhookStep.run runtime decimals databaseMessage) (before ++ [step]) db)) ∧
      ∀ steps : List WebhookStep,
        MeetAll (WebhookStep.run runtime decimals databaseMessage)
            (WebhookStep.Unhindered runtime) steps db →
          ∀ before after : List WebhookStep, steps = before ++ after →
            eraseUnaccepted runtime decimals databaseMessage before db <+:
                eraseUnaccepted runtime decimals databaseMessage steps db ∧
              Db.SameOn IsBusinessTable
                (runAll (WebhookStep.run runtime decimals databaseMessage) before db)
                (runAll (WebhookStep.run runtime decimals databaseMessage)
                  (eraseUnaccepted runtime decimals databaseMessage before db) db') := by
  refine ⟨fun before step hstep => ?_, ?_⟩
  · obtain ⟨hsame, -⟩ := @WebhookStep.run_unaccepted runtime decimals databaseMessage _ db _ hstep
    rw [runAll_append]
    exact hsame
  · rintro _ hrun before after rfl
    refine ⟨⟨_, (eraseUnaccepted_append before after db).symm⟩, ?_⟩
    exact (purged_runAll before hpurged ((meetAll_append before after).mp hrun).1).tables

end Runs

/-! ## A forged delivery -/

namespace ForgedPayment

open ProviderWebhookNormalizer

def body : String :=
  "\x7b\"id\":\"evt_1\",\"type\":\"payment.succeeded\"," ++
    "\"data\":\x7b\"metadata\":\x7b\"paymentId\":\"1\"\x7d\x7d\x7d"

/-- The runtime outside production; the hash is that of the body under the secret below. -/
def runtime : WebhookRuntime where
  unicode := english
  stringify _ := body
  hmacSha256 _ _ := "fd79dc5d2246c0bcc7ace2a4c8a070b7db268917fa8737742d986fa075f66591"
  isProduction := false
  idOf := String.length

def input (eventId signatureHeader : String) : IngestProviderWebhookInput where
  provider := .stripe
  payload := .object [("id", .string eventId), ("type", .string "payment.succeeded"),
    ("data", .object [("metadata", .object [("paymentId", .string "1")])])]
  rawBody := some body
  signatureHeader := some signatureHeader
  signingSecret := some "secret_1"

/-- What the provider sends. -/
def genuine : WebhookDelivery where
  kind := .payment
  newId := 2
  now := 1
  input := input "evt_1" "v1=fd79dc5d2246c0bcc7ace2a4c8a070b7db268917fa8737742d986fa075f66591"

/-- Something without a signature, sent by somebody else and before. -/
def forged (eventId : String) : WebhookDelivery where
  kind := .payment
  newId := 1
  now := 0
  input := input eventId "v1=0"

/-- A shop with a payment that is under way. -/
def stripeShop : Store :=
  orderShop.put ⟨.payment, 1, some { teaPayment with provider := .stripe, status := .processing }⟩

/-- Both deliveries, and what they ask to be processed. -/
def steps (eventId : String) : List WebhookStep :=
  [.deliver (forged eventId), .deliver genuine, .process (.payment 1 false),
    .process (.payment 2 false)]

/-- No event has been stored yet. -/
theorem purged_stripeShop : Purged stripeShop stripeShop := by
  have hpayments : stripeShop.list .paymentProviderEvent (fun _ => true) = [] := by decide +kernel
  have hrefunds : stripeShop.list .refundProviderEvent (fun _ => true) = [] := by decide +kernel
  refine ⟨.refl stripeShop, fun id => ?_, fun id => ?_⟩
  · cases hevent : PaymentsRepository.findPaymentProviderEventById stripeShop id with
    | none => rfl
    | some event => exact absurd ⟨event, hevent, rfl⟩ (Db.list_eq_nil_iff.mp hpayments id)
  · cases hevent : RefundsRepository.findRefundProviderEventById stripeShop id with
    | none => rfl
    | some event => exact absurd ⟨event, hevent, rfl⟩ (Db.list_eq_nil_iff.mp hrefunds id)

/-- A forged event with an id of its own is not noticed. -/
theorem unaccepted_erased_stripeShop :
    Db.SameOn IsBusinessTable
      (runAll (WebhookStep.run runtime sampleDecimals fun _ => "") (steps "evt_2") stripeShop)
      (runAll (WebhookStep.run runtime sampleDecimals fun _ => "")
        (eraseUnaccepted runtime sampleDecimals (fun _ => "") (steps "evt_2") stripeShop)
        stripeShop) := by
  have hrun : MeetAll (WebhookStep.run runtime sampleDecimals fun _ => "")
      (WebhookStep.Unhindered runtime) (steps "evt_2") stripeShop := by
    refine ⟨?_, ?_, ?_, ?_, True.intro⟩
    · rintro delivery hdelivery haccepted
      cases hdelivery
      have hnot : isProviderEventVerifiedForProcessing
          ((forged "evt_2").verificationStatus runtime) = false := by decide +kernel
      cases haccepted.symm.trans hnot
    · rintro delivery hdelivery -
      cases hdelivery
      intro id event hevent _
      have hrow : PaymentsRepository.findPaymentProviderEventById
          ((WebhookStep.deliver (forged "evt_2")).run runtime sampleDecimals (fun _ => "")
            stripeShop) 2 = none := by decide +kernel
      have hkeys : ((WebhookStep.deliver (forged "evt_2")).run runtime sampleDecimals (fun _ => "")
          stripeShop).list .paymentProviderEvent
            (fun event => event.uniqueKey == some (.stripe, "evt_1")) = [] := by decide +kernel
      refine ⟨?_, fun _ hkey => Db.list_eq_nil_iff.mp hkeys id ⟨event, hevent, beq_iff_eq.mpr ?_⟩⟩
      · rintro rfl
        cases hrow.symm.trans hevent
      · exact hkey.trans (by decide +kernel)
    · rintro delivery hdelivery
      cases hdelivery
    · rintro delivery hdelivery
      cases hdelivery
  exact ((unaccepted_erased purged_stripeShop).2 (steps "evt_2") hrun (steps "evt_2") []
    (List.append_nil _).symm).2

/-- Without the forged event, which has the id of the real one, the payment would have
succeeded. -/
theorem forged_noticed :
    Purged stripeShop stripeShop ∧
      ¬ Db.SameOn IsBusinessTable
        (runAll (WebhookStep.run runtime sampleDecimals fun _ => "") (steps "evt_1") stripeShop)
        (runAll (WebhookStep.run runtime sampleDecimals fun _ => "")
          (eraseUnaccepted runtime sampleDecimals (fun _ => "") (steps "evt_1") stripeShop)
          stripeShop) := by
  refine ⟨purged_stripeShop, fun hsame => ?_⟩
  have hpayment := hsame.get (show IsBusinessTable (Tbl.payment, 1).1 by simp [IsBusinessTable])
  revert hpayment
  decide +kernel

end ForgedPayment

end WerTe
