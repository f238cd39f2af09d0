import WerTe.VerifiedDeliveries

/-!
# The first verdict on a payment

Providers report how a payment has ended, more than once and not always the same. The first of
these verdicts that is processed decides: `payment_firstVerdict` says what becomes of a payment
that is pending in a run of deliveries and of processing in any order. The reconciliation job only
asks for events to be processed once more, which the steps of a run do anyway.
-/

namespace WerTe

open ReadCommitted
open PaymentsRepository (findPaymentProviderEventById)

/-! ## Verdicts -/

section Verdicts

variable (runtime : WebhookRuntime) (decimals : DecimalRuntime) (databaseMessage : Failure → String)

/-- What the step decides of the payment: it processes an event that had not been processed, which
is verified, comes from the payment's own provider, and says how the payment has ended. -/
def WebhookStep.verdict (paymentId : Id) (step : WebhookStep) (db : Store) :
    Option PaymentStatus :=
  match step with
  | .process (.payment eventId retryTerminal) => do
    let event ← findPaymentProviderEventById db eventId
    let payment ← PaymentProviderEventProcessor.resolvePayment db event
    let after ← findPaymentProviderEventById
      ((WebhookStep.process (.payment eventId retryTerminal)).run runtime decimals databaseMessage
        db) eventId
    if payment.id = paymentId ∧ payment.payment.provider = event.provider ∧
        isProviderEventVerifiedForProcessing event.verificationStatus = true ∧
        (PaymentProviderEventProcessor.resolveLifecycleAction event.normalizedStatus).isSome ∧
        event.processingStatus ≠ .processed ∧ after.processingStatus = .processed then
      event.normalizedStatus
    else none
  | _ => none

/-- The first verdict of a run. -/
def firstVerdict (paymentId : Id) : List WebhookStep → Store → Option PaymentStatus
  | [], _ => none
  | step :: steps, db => (step.verdict runtime decimals databaseMessage paymentId db).or
      (firstVerdict paymentId steps (step.run runtime decimals databaseMessage db))

end Verdicts

/-- The step processes an event of another payment. -/
def WebhookStep.OfAnotherPayment (paymentId : Id) (step : WebhookStep) (db : Store) : Prop :=
  ∃ eventId retryTerminal event payment, step = .process (.payment eventId retryTerminal) ∧
    findPaymentProviderEventById db eventId = some event ∧
    PaymentProviderEventProcessor.resolvePayment db event = some payment ∧ payment.id ≠ paymentId

/-- There is no refund of the payment. -/
def Unrefunded (paymentId : Id) (db : Store) : Prop :=
  ∀ id refund, db.get (.refund, id) = some refund → refund.paymentId ≠ paymentId

/-- The tables of orders and of stock. -/
def IsGoodsTable (t : Tbl) : Prop := t = .order ∨ t ∈ stockTables

/-! ## What a transition of a payment does -/

section Transitions

variable {db db' : Store} {currentUser : AuthenticatedUser} {input : PaymentLifecycleInput}
  {config : PaymentLifecycleConfig}

theorem autoCancelOrder_writes (payment : PaymentSummaryRecord) (reasonCode note : Option String) :
    (autoCancelOrder payment reasonCode note).Writes fun w => IsGoodsTable w.table := by
  refine .bind .read fun orderDetail => .bind (.updateExisting fun _ => .inl rfl) fun _ => ?_
  cases orderDetail with
  | none => exact .ret ()
  | some record =>
    dsimp only
    split
    · exact (restoreTrackedInventoryForOrder_writes _).mono fun _ hw => .inr hw
    · exact .ret ()

/-- A transition writes to its payment, to orders and to stock. -/
theorem handlePaymentTransition_writes_goods (currentUser : AuthenticatedUser)
    (input : PaymentLifecycleInput) (config : PaymentLifecycleConfig) :
    (handlePaymentTransition currentUser input config).Writes fun w =>
      w.key = (.payment, input.paymentId) ∨ IsGoodsTable w.table := by
  have htransition : ∀ payload,
      (PaymentsRepository.transitionPaymentStatus input.paymentId payload).Writes
        fun w => w.key = (.payment, input.paymentId) ∨ IsGoodsTable w.table := fun payload =>
    .bind (.updateExisting fun _ => .inl rfl) fun _ => .bind .read fun found => by
      cases found <;> exact True.intro
  refine .bind (.require _ _) fun _ => .bind (.get _) fun _ => .bind (.orFail _ _) fun payment => ?_
  split
  · exact .ret ()
  · refine .bind (.require _ _) fun _ => .transaction (.bind (htransition _)
      fun transitioned => ?_)
    split
    · exact (autoCancelOrder_writes _ _ _).mono fun _ hw => .inr hw
    · exact .ret ()

theorem transitionPaymentStatus_status {paymentId : Id} {payload : PaymentTransitionInput}
    {record : PaymentSummaryRecord}
    (h : (PaymentsRepository.transitionPaymentStatus paymentId payload).run db =
      .ok (record, db')) :
    ∃ payment', db'.get (.payment, paymentId) = some payment' ∧
      payment'.status = payload.status := by
  obtain ⟨payment, -, rfl, -⟩ := transitionPaymentStatus_run h
  exact ⟨payment.transition payload, Db.get_put_self .., rfl⟩

/-- A call that returns leaves the payment with the status it is about. It changes something only
when the payment was in progress. -/
theorem handlePaymentTransition_ends (currentUser : AuthenticatedUser)
    (input : PaymentLifecycleInput) (config : PaymentLifecycleConfig) (db : Store) :
    (handlePaymentTransition currentUser input config).Ends db fun outcome db' =>
      (db' = db ∧ (outcome = .ok () → ∃ payment, db.get (.payment, input.paymentId) = some payment ∧
        payment.status = config.targetStatus)) ∨
      (outcome = .ok () ∧ ∃ payment payment', db.get (.payment, input.paymentId) = some payment ∧
        inProgressPaymentStatuses.contains payment.status = true ∧
        db'.get (.payment, input.paymentId) = some payment' ∧
        payment'.status = config.targetStatus) := by
  refine .require_bind (fun _ => .get_bind (.orFail_bind (fun record hrecord => ?_)
    fun _ => .inl ⟨rfl, fun h => by cases h⟩)) fun _ => .inl ⟨rfl, fun h => by cases h⟩
  obtain ⟨-, hpayment, -⟩ := PaymentsRepository.get_of_findById hrecord
  split
  case isTrue hstatus => exact .ret (.inl ⟨rfl, fun _ => ⟨_, hpayment, hstatus⟩⟩)
  case isFalse =>
    refine .require_bind (fun hopen => .transaction (fun u db' h => .inr ⟨rfl, ?_⟩)
      fun _ _ => .inl ⟨rfl, fun h => by cases h⟩) fun _ => .inl ⟨rfl, fun h => by cases h⟩
    obtain ⟨transitioned, db₁, htransition, hcancel⟩ := Tx.run_bind_ok h
    obtain ⟨payment', hpayment', hstatus'⟩ := transitionPaymentStatus_status htransition
    refine ⟨record.payment, payment', hpayment, hopen, ?_, hstatus'⟩
    split at hcancel
    · -- the cancellation of the order leaves payments alone
      have hsame : Db.SameOn (· = Tbl.payment) db₁ db' :=
        ((autoCancelOrder_writes _ _ _).mono fun w hw hpayment => by
          rw [hpayment] at hw
          revert hw
          simp [IsGoodsTable, stockTables]).sameOn hcancel
      exact (hsame.get rfl).symm.trans hpayment'
    · cases hcancel
      exact hpayment'

end Transitions

/-! ## What the end of a refund does -/

section Refunds

open RefundOperations

variable {db db' : Store} {paymentId : Id}

theorem RefundsRepository.get_of_findById {db : Store} {refundId : Id} {record : RefundDetailRecord}
    (h : findById db refundId = some record) : db.get (.refund, refundId) = some record.refund := by
  simp only [findById, Option.bind_eq_bind, Option.bind_eq_some_iff, Option.pure_def,
    Option.some.injEq] at h
  obtain ⟨refund, hrefund, payment, -, rfl⟩ := h
  exact hrefund

theorem recordSucceededRefund_writes (decimals : DecimalRuntime) (paymentId : Id) :
    (recordSucceededRefund decimals paymentId).Writes fun w => w.key = (.payment, paymentId) := by
  refine .bind .read fun found => .bind (by cases found <;> exact True.intro) fun payment => ?_
  refine .bind ?_ fun _ => .updateExisting fun _ => rfl
  generalize (decimals.column (computeSucceededRefundAmount decimals payment)).bind
    Numeral.Decimal.number = stored
  cases stored <;> exact True.intro

theorem finalizeCurrentAdminRefund_writes_tables (decimals : DecimalRuntime)
    (currentUser : AuthenticatedUser) (input : FinalizeRefundInput)
    (config : FinalizeRefundConfig) :
    (finalizeCurrentAdminRefund decimals currentUser input config).Writes fun w =>
      w.table = .refund ∨ w.table = .payment := by
  have htransition : ∀ payload,
      (RefundsRepository.transitionRefundStatus input.refundId payload).Writes
        fun w => w.table = .refund ∨ w.table = .payment := fun payload =>
    .bind (.updateExisting fun _ => .inl rfl) fun _ => .bind .read fun found => by
      cases found <;> exact True.intro
  refine .bind (.require _ _) fun _ => .bind (.get _) fun _ => .bind (.orFail _ _) fun refund => ?_
  split
  · exact .ret ()
  · refine .bind (.require _ _) fun _ => .transaction (.bind (htransition _)
      fun transitioned => ?_)
    split
    · exact (recordSucceededRefund_writes decimals _).mono fun w hw =>
        .inr (congrArg Prod.fst hw)
    · exact .ret ()

/-- A refund that has been written stays one of its payment. -/
theorem Unrefunded.put {refundId : Id} {refund : Refund} (h : Unrefunded paymentId db)
    (hrefund : refund.paymentId ≠ paymentId) :
    Unrefunded paymentId (db.put ⟨.refund, refundId, some refund⟩) := by
  intro id refund' hrefund'
  by_cases hid : id = refundId
  · subst hid
    have hself : (db.put ⟨.refund, id, some refund⟩).get (.refund, id) = some refund :=
      Db.get_put_self ..
    obtain rfl : refund = refund' := Option.some.inj (hself.symm.trans hrefund')
    exact hrefund
  · have hother : (db.put ⟨.refund, refundId, some refund⟩).get (.refund, id) =
        db.get (.refund, id) := Db.get_put_ne _ fun hkey => hid (congrArg Prod.snd hkey)
    exact h id refund' (hother.symm.trans hrefund')

theorem transitionRefundStatus_unrefunded {refundId : Id} {payload : RefundTransitionInput}
    {record : RefundDetailRecord} (h : Unrefunded paymentId db)
    (hrun : (RefundsRepository.transitionRefundStatus refundId payload).run db =
      .ok (record, db')) :
    Unrefunded paymentId db' ∧ record.refund.paymentId ≠ paymentId ∧
      db'.get (.payment, paymentId) = db.get (.payment, paymentId) := by
  obtain ⟨_, db₁, hupdate, hreload⟩ := Tx.run_bind_ok hrun
  obtain ⟨refund, hget, rfl⟩ := Tx.run_updateExisting_ok hupdate
  have hfound : (Tx.orFail _ _ : StoreTx RefundDetailRecord).run _ = .ok (record, db') := hreload
  obtain ⟨hfind, rfl⟩ := Tx.run_orFail_ok hfound
  have hof : (refund.transition payload).paymentId ≠ paymentId := h _ refund hget
  refine ⟨h.put hof, h.put hof _ _ (RefundsRepository.get_of_findById hfind), Db.get_put_ne _ ?_⟩
  simp [Write.key]

/-- What happens to the refunds of other payments does not concern a payment. -/
theorem finalizeCurrentAdminRefund_unrefunded (decimals : DecimalRuntime)
    (currentUser : AuthenticatedUser) (input : FinalizeRefundInput) (config : FinalizeRefundConfig)
    (h : Unrefunded paymentId db) :
    (finalizeCurrentAdminRefund decimals currentUser input config).Ends db fun _ db' =>
      Unrefunded paymentId db' ∧ db'.get (.payment, paymentId) = db.get (.payment, paymentId) := by
  refine .require_bind (fun _ => .get_bind (.orFail_bind (fun record hrecord => ?_)
    fun _ => ⟨h, rfl⟩)) fun _ => ⟨h, rfl⟩
  split
  · exact .ret ⟨h, rfl⟩
  · refine .require_bind (fun _ => .transaction (fun u db' hrun => ?_) fun _ _ => ⟨h, rfl⟩)
      fun _ => ⟨h, rfl⟩
    obtain ⟨transitioned, db₁, htransition, hrecords⟩ := Tx.run_bind_ok hrun
    obtain ⟨hkept, hother, hpayment⟩ := transitionRefundStatus_unrefunded h htransition
    split at hrecords
    · -- the sum is written to the refund's own payment
      have hwrites := recordSucceededRefund_writes decimals transitioned.refund.paymentId
      obtain ⟨ws, rfl, hws⟩ := hwrites.run hrecords
      refine ⟨fun id refund hrefund => hkept id refund (Eq.trans ?_ hrefund),
        Eq.trans (Db.get_apply_of_notMem fun hmem => ?_) hpayment⟩
      · refine (Db.get_apply_of_table fun w hw htable => ?_).symm
        cases htable.symm.trans (congrArg Prod.fst (hws w hw))
      · obtain ⟨w, hw, hkey⟩ := List.mem_map.mp hmem
        exact hother (congrArg Prod.snd ((hws w hw).symm.trans hkey))
    · cases hrecords
      exact ⟨hkept, hpayment⟩

end Refunds

/-! ## What one step does -/

namespace PaymentProviderEventProcessor

/-- The transition that an action makes. -/
def LifecycleAction.config : LifecycleAction → PaymentLifecycleConfig
  | confirm => confirmPaymentConfig
  | fail => failPaymentConfig
  | cancel => cancelPaymentConfig
  | expire => expirePaymentConfig

theorem applyLifecycleAction_eq (event : PaymentProviderEvent) (payment : PaymentSummaryRecord)
    (action : LifecycleAction) : applyLifecycleAction event payment action =
      handlePaymentTransition webhookSystemActor (lifecycleInput event payment action)
        action.config := by
  cases action <;> rfl

/-- An action is for the status that it leads to. -/
theorem resolveLifecycleAction_eq_some {status : Option PaymentStatus} {action : LifecycleAction}
    (h : resolveLifecycleAction status = some action) :
    status = some action.config.targetStatus := by
  revert h
  cases status with
  | none => exact fun h => by cases h
  | some status => cases status <;> cases action <;> simp [resolveLifecycleAction,
      LifecycleAction.config, confirmPaymentConfig, failPaymentConfig, cancelPaymentConfig,
      expirePaymentConfig]

/-- What an action leads to is not in progress. -/
theorem LifecycleAction.targetStatus_ended (action : LifecycleAction) :
    inProgressPaymentStatuses.contains action.config.targetStatus = false := by
  cases action <;> rfl

end PaymentProviderEventProcessor

open PaymentProviderEventProcessor

/-- The payment has the status of the verdict, or is pending when there has been none. -/
structure Stands (paymentId : Id) (verdict : Option PaymentStatus) (db : Store) : Prop where
  payment : ∃ payment, db.get (.payment, paymentId) = some payment ∧
    payment.status = verdict.getD .pending
  ended : ∀ status ∈ verdict, inProgressPaymentStatuses.contains status = false
  unrefunded : Unrefunded paymentId db

/-- Nothing that the payment is about is touched; the other goods may be if `free`. -/
def Untouched (paymentId : Id) (free : Prop) (db db' : Store) : Prop :=
  db'.get (.payment, paymentId) = db.get (.payment, paymentId) ∧
    (¬ free → Db.SameOn IsGoodsTable db db')

section Steps

variable {runtime : WebhookRuntime} {decimals : DecimalRuntime}
  {databaseMessage : Failure → String} {db db' : Store} {paymentId : Id}
  {verdict : Option PaymentStatus}

/-- An action on the payment that stands changes it only when there has been no verdict, and then
to what the action is for. -/
theorem Stands.apply (h : Stands paymentId verdict db) (event : PaymentProviderEvent)
    {target : PaymentSummaryRecord} (action : LifecycleAction) (htarget : target.id = paymentId) :
    (applyLifecycleAction event target action).Ends db fun outcome db₁ =>
      (db₁ = db ∧ (outcome = .ok () → verdict ≠ none)) ∨
        (outcome = .ok () ∧ verdict = none ∧ ∃ payment', db₁.get (.payment, paymentId) =
          some payment' ∧ payment'.status = action.config.targetStatus) := by
  subst htarget
  rw [applyLifecycleAction_eq]
  obtain ⟨payment, hpayment, hstatus⟩ := h.payment
  refine (handlePaymentTransition_ends _ _ _ db).mono fun outcome db₁ hends => ?_
  rcases hends with ⟨rfl, hsame⟩ | ⟨hok, payment₀, payment', hget, hopen, hget', hstatus'⟩
  · refine .inl ⟨rfl, fun hok hnone => ?_⟩
    obtain ⟨payment₀, hget, hstatus₀⟩ := hsame hok
    obtain rfl := Option.some.inj (hpayment.symm.trans hget)
    have hended := action.targetStatus_ended
    rw [← hstatus₀, hstatus, hnone] at hended
    cases hended
  · obtain rfl := Option.some.inj (hpayment.symm.trans hget)
    refine .inr ⟨hok, ?_, payment', hget', hstatus'⟩
    cases verdict with
    | none => rfl
    | some status =>
      rw [hstatus, Option.getD_some, h.ended status rfl] at hopen
      cases hopen

/-- What a step does to the payment: it is decided when there has been no verdict, and left as it
is otherwise. -/
structure StepEffect (paymentId : Id) (verdict stepVerdict : Option PaymentStatus) (free : Prop)
    (db db' : Store) : Prop where
  untouched : verdict ≠ none ∨ stepVerdict = none → Untouched paymentId free db db'
  decides : verdict = none → ∀ status ∈ stepVerdict,
    inProgressPaymentStatuses.contains status = false ∧
      ∃ payment', db'.get (.payment, paymentId) = some payment' ∧ payment'.status = status
  unrefunded : Unrefunded paymentId db'

/-- What has no verdict and does not touch payments, refunds or goods. -/
theorem StepEffect.of_sameOn (h : Unrefunded paymentId db) {tables : Tbl → Prop}
    (hsame : Db.SameOn tables db db') (hpayment : tables .payment) (hrefund : tables .refund)
    (hgoods : ∀ t, IsGoodsTable t → tables t) (free : Prop) :
    StepEffect paymentId verdict none free db db' where
  untouched _ := ⟨(hsame.get hpayment).symm, fun _ t ht => hsame t (hgoods t ht)⟩
  decides _ status hstatus := by cases hstatus
  unrefunded id refund hget := h id refund ((hsame.get hrefund).trans hget)

theorem StepEffect.refl (h : Unrefunded paymentId db) (free : Prop) :
    StepEffect paymentId verdict none free db db where
  untouched _ := ⟨rfl, fun _ _ _ => rfl⟩
  decides _ status hstatus := by cases hstatus
  unrefunded := h

/-- A verdict is read from an event that the step has processed. -/
theorem WebhookStep.verdict_eq_some {eventId : Id} {retryTerminal : Bool} {status : PaymentStatus}
    (h : (WebhookStep.process (.payment eventId retryTerminal)).verdict runtime decimals
      databaseMessage paymentId db = some status) :
    ∃ event payment after, findPaymentProviderEventById db eventId = some event ∧
      resolvePayment db event = some payment ∧ payment.id = paymentId ∧
      event.normalizedStatus = some status ∧ event.processingStatus ≠ .processed ∧
      findPaymentProviderEventById ((WebhookStep.process (.payment eventId retryTerminal)).run
        runtime decimals databaseMessage db) eventId = some after ∧
      after.processingStatus = .processed := by
  simp only [WebhookStep.verdict, Option.bind_eq_bind, Option.bind_eq_some_iff] at h
  obtain ⟨event, hevent, payment, hpayment, after, hafter, hif⟩ := h
  split at hif
  case isTrue hall =>
    exact ⟨event, payment, after, hevent, hpayment, hall.1, hif, hall.2.2.2.2.1, hafter,
      hall.2.2.2.2.2⟩
  case isFalse => cases hif

/-- An event of the payment that is applied and processed is a verdict. -/
theorem WebhookStep.verdict_of_applies {eventId : Id} {retryTerminal : Bool}
    {event after : PaymentProviderEvent} {target : PaymentSummaryRecord} {action : LifecycleAction}
    (hevent : findPaymentProviderEventById db eventId = some event)
    (happlies : paymentProviderEventProcessor.Applies retryTerminal db event target action)
    (htarget : target.id = paymentId)
    (hafter : findPaymentProviderEventById ((WebhookStep.process (.payment eventId
      retryTerminal)).run runtime decimals databaseMessage db) eventId = some after)
    (hprocessed : after.processingStatus = .processed) :
    (WebhookStep.process (.payment eventId retryTerminal)).verdict runtime decimals databaseMessage
      paymentId db = some action.config.targetStatus := by
  have hresolves : resolveLifecycleAction event.normalizedStatus = some action := happlies.resolves
  have hfinds : resolvePayment db event = some target := happlies.finds
  have hprovider : target.payment.provider = event.provider := happlies.provider
  have hnew : event.processingStatus ≠ .processed := by
    intro hold
    have hshould := happlies.should
    rw [hold] at hshould
    cases retryTerminal <;> cases hshould
  have hall : target.id = paymentId ∧ target.payment.provider = event.provider ∧
      isProviderEventVerifiedForProcessing event.verificationStatus = true ∧
      (resolveLifecycleAction event.normalizedStatus).isSome ∧
      event.processingStatus ≠ .processed ∧ after.processingStatus = .processed :=
    ⟨htarget, hprovider, happlies.verified, by rw [hresolves]; rfl, hnew, hprocessed⟩
  simp only [WebhookStep.verdict, hevent, hfinds, hafter, Option.bind_eq_bind, Option.bind_some,
    if_pos hall]
  exact resolveLifecycleAction_eq_some hresolves

/-- Marking an event touches no other table. -/
theorem mark_sameOn {eventId : Id} {payload : ProcessingStateInput PaymentEventIds} {db₁ : Store}
    (hmark : (paymentProviderEventProcessor.updateEvent eventId payload).run db₁ = .ok ((), db')) :
    Db.SameOn (· ≠ .paymentProviderEvent) db₁ db' :=
  (paymentProviderEventProcessor_lawful.updateEvent_writes eventId payload).sameOn_ne hmark

/-- The event that has been marked. -/
theorem find_of_mark {eventId : Id} {event : PaymentProviderEvent}
    {payload : ProcessingStateInput PaymentEventIds} {db₁ : Store}
    (hevent : findPaymentProviderEventById db₁ eventId = some event)
    (hmark : (paymentProviderEventProcessor.updateEvent eventId payload).run db₁ = .ok ((), db')) :
    findPaymentProviderEventById db' eventId = some (event.withProcessingState payload) := by
  obtain ⟨db₂, hrun, hself, -⟩ := paymentProviderEventProcessor_lawful.updateEvent payload hevent
  rw [hrun] at hmark
  cases hmark
  exact hself

/-- An action on another payment leaves the payment as it is. -/
theorem applyLifecycleAction_other (event : PaymentProviderEvent) {target : PaymentSummaryRecord}
    (action : LifecycleAction) (htarget : target.id ≠ paymentId) (db : Store) :
    ((applyLifecycleAction event target action).run db).2.get (.payment, paymentId) =
      db.get (.payment, paymentId) := by
  rw [applyLifecycleAction_eq]
  refine Service.Writes.run (I := fun db' => db'.get (.payment, paymentId) =
    db.get (.payment, paymentId)) (fun db' w hdb' hw => Eq.trans (Db.get_put_ne _ fun hkey => ?_)
      hdb') (handlePaymentTransition_writes_goods _ _ _) rfl
  rcases hw with hw | hw
  · exact htarget (congrArg Prod.snd (hkey.trans hw)).symm
  · have htable : w.table = .payment := (congrArg Prod.fst hkey).symm
    rw [htable] at hw
    revert hw
    simp [IsGoodsTable, stockTables]

/-- An action leaves refunds as they are. -/
theorem applyLifecycleAction_refunds (event : PaymentProviderEvent) (target : PaymentSummaryRecord)
    (action : LifecycleAction) (db : Store) :
    Db.SameOn (· = Tbl.refund) db ((applyLifecycleAction event target action).run db).2 := by
  rw [applyLifecycleAction_eq]
  refine Service.Writes.sameOn ((handlePaymentTransition_writes_goods _ _ _).mono
    fun w hw htable => ?_)
  rcases hw with hw | hw
  · cases htable.symm.trans (congrArg Prod.fst hw)
  · rw [htable] at hw
    revert hw
    simp [IsGoodsTable, stockTables]

theorem Stands.process_payment (h : Stands paymentId verdict db) (eventId : Id)
    (retryTerminal : Bool) :
    StepEffect paymentId verdict
      ((WebhookStep.process (.payment eventId retryTerminal)).verdict runtime decimals
        databaseMessage paymentId db)
      ((WebhookStep.process (.payment eventId retryTerminal)).OfAnotherPayment paymentId db) db
      ((WebhookStep.process (.payment eventId retryTerminal)).run runtime decimals databaseMessage
        db) := by
  have hlawful := paymentProviderEventProcessor_lawful
  have hprocessing : paymentProviderEventProcessor.Processing eventId retryTerminal db
      ((WebhookStep.process (.payment eventId retryTerminal)).run runtime decimals databaseMessage
        db) :=
    (ProviderEventProcessor.processProviderEvent_processing hlawful db eventId retryTerminal).run
  have hverdict := @WebhookStep.verdict_eq_some runtime decimals databaseMessage db paymentId
    eventId retryTerminal
  have happlied := @WebhookStep.verdict_of_applies runtime decimals databaseMessage db paymentId
    eventId retryTerminal
  have hanother : ∀ {event payment}, findPaymentProviderEventById db eventId = some event →
      resolvePayment db event = some payment → payment.id ≠ paymentId →
      (WebhookStep.process (.payment eventId retryTerminal)).OfAnotherPayment paymentId db :=
    fun hevent hpayment hne => ⟨eventId, retryTerminal, _, _, rfl, hevent, hpayment, hne⟩
  generalize (WebhookStep.process (.payment eventId retryTerminal)).verdict runtime decimals
    databaseMessage paymentId db = stepVerdict at hverdict happlied ⊢
  generalize (WebhookStep.process (.payment eventId retryTerminal)).run runtime decimals
    databaseMessage db = db' at hprocessing hverdict happlied ⊢
  generalize (WebhookStep.process (.payment eventId retryTerminal)).OfAnotherPayment paymentId db =
    another at hanother ⊢
  have hgoods : ∀ t, IsGoodsTable t → t ≠ .paymentProviderEvent := by
    rintro t (rfl | ht)
    · decide
    · exact (by decide : ∀ t ∈ stockTables, t ≠ .paymentProviderEvent) t ht
  -- without a verdict the step is of no effect when the tables are the same but for the events
  have hnone : (∀ after, findPaymentProviderEventById db' eventId = some after →
        ∀ event, findPaymentProviderEventById db eventId = some event →
          event.processingStatus ≠ .processed → after.processingStatus ≠ .processed) →
      stepVerdict = none := by
    intro hafter
    cases stepVerdict with
    | none => rfl
    | some status =>
      obtain ⟨event, payment, after, hevent, -, -, -, hnew, hfind, hprocessed⟩ := hverdict rfl
      exact absurd hprocessed (hafter after hfind event hevent hnew)
  cases hprocessing with
  | skipped =>
    have hskip : stepVerdict = none := hnone fun after hafter event hevent hnew => by
      cases hevent.symm.trans hafter
      exact hnew
    rw [hskip]
    exact .refl h.unrefunded another
  | marked event payload _ hevent _ hpayload hmark =>
    have hskip : stepVerdict = none := hnone fun after hafter _ _ _ => by
      cases (find_of_mark hevent hmark).symm.trans hafter
      rcases hpayload with hpayload | hpayload <;> exact fun hp => by cases hpayload.symm.trans hp
    rw [hskip]
    exact .of_sameOn h.unrefunded (mark_sameOn hmark) (by decide) (by decide) hgoods another
  | applied event target action payload _ hevent happlies hpayload hmark =>
    have hrefunds := applyLifecycleAction_refunds event target action db
    have hsame := mark_sameOn hmark
    have hrefund : Tbl.refund ≠ .paymentProviderEvent := by decide
    have hpayment : Tbl.payment ≠ .paymentProviderEvent := by decide
    have hafter : findPaymentProviderEventById db' eventId =
        some (event.withProcessingState payload) :=
      find_of_mark ((congrFun (hlawful.sameOn event target action db) eventId).symm.trans hevent)
        hmark
    have hunrefunded : Unrefunded paymentId db' := fun id refund hget => h.unrefunded id refund
      (((hrefunds.get rfl).trans (hsame.get hrefund)).trans hget)
    by_cases htarget : target.id = paymentId
    case neg =>
      -- a verdict would be one on the other payment
      have hskip : stepVerdict = none := by
        cases stepVerdict with
        | none => rfl
        | some status =>
          obtain ⟨event', payment, -, hevent', hfinds, hid, -⟩ := hverdict rfl
          cases hevent.symm.trans hevent'
          cases happlies.finds.symm.trans hfinds
          exact absurd hid htarget
      have hfree : another := hanother hevent happlies.finds htarget
      refine ⟨fun _ => ⟨?_, fun hnot => absurd hfree hnot⟩, fun _ status hstatus => ?_, hunrefunded⟩
      · exact (hsame.get hpayment).symm.trans
          (applyLifecycleAction_other event action htarget db)
      · rw [hskip] at hstatus
        cases hstatus
    case pos =>
      have hends : _ ∨ _ := (h.apply event action htarget).run
      rcases hends with ⟨hunchanged, hagain⟩ | ⟨hok, hfirst, payment', hget', hstatus'⟩
      · -- the action has changed nothing, and was no first verdict
        have huntouched : Untouched paymentId another db db' := by
          have hsame' : Db.SameOn (· ≠ Tbl.paymentProviderEvent) db db' := by
            rwa [show ((paymentProviderEventProcessor.applyLifecycleAction event target
              action).run db).2 = db from hunchanged] at hsame
          exact ⟨(hsame'.get hpayment).symm, fun _ t ht => hsame' t (hgoods t ht)⟩
        refine ⟨fun _ => huntouched, fun hfirst status hstatus => ?_, hunrefunded⟩
        rcases hpayload with ⟨-, hok⟩ | ⟨hfailed, -⟩
        · exact absurd hfirst (hagain hok)
        · obtain ⟨_, _, after, _, _, _, _, _, hfind, hprocessed⟩ := hverdict hstatus
          cases hafter.symm.trans hfind
          cases hfailed.symm.trans hprocessed
      · -- the action was the first verdict
        have hprocessed : payload.processingStatus = .processed := by
          rcases hpayload with ⟨hprocessed, -⟩ | ⟨-, e, herror⟩
          · exact hprocessed
          · cases hok.symm.trans herror
        have hdecided := happlied hevent happlies htarget hafter hprocessed
        refine ⟨fun hnot => ?_, fun _ status hstatus => ?_, hunrefunded⟩
        · rcases hnot with hnot | hnot
          · exact absurd hfirst hnot
          · cases hdecided.symm.trans hnot
        · cases hdecided.symm.trans hstatus
          exact ⟨action.targetStatus_ended, payment',
            (hsame.get hpayment).symm.trans hget', hstatus'⟩

theorem RefundProviderEventProcessor.applyLifecycleAction_eq (decimals : DecimalRuntime)
    (event : RefundProviderEvent) (refund : RefundDetailRecord) (action : RefundLifecycleAction) :
    ∃ config, applyLifecycleAction decimals event refund action =
      RefundOperations.finalizeCurrentAdminRefund decimals webhookSystemActor
        (lifecycleInput event refund action) config := by
  cases action <;> exact ⟨_, rfl⟩

/-- An action on a refund of another payment leaves the payment and all goods as they are. -/
theorem Unrefunded.apply (h : Unrefunded paymentId db) (event : RefundProviderEvent)
    (refund : RefundDetailRecord) (action : RefundProviderEventProcessor.RefundLifecycleAction) :
    (RefundProviderEventProcessor.applyLifecycleAction decimals event refund action).Ends db
      fun _ db₁ => Unrefunded paymentId db₁ ∧
        db₁.get (.payment, paymentId) = db.get (.payment, paymentId) ∧
        Db.SameOn IsGoodsTable db db₁ := by
  obtain ⟨config, heq⟩ := RefundProviderEventProcessor.applyLifecycleAction_eq decimals event refund
    action
  rw [heq]
  generalize RefundProviderEventProcessor.lifecycleInput event refund action = input
  have hends := (finalizeCurrentAdminRefund_unrefunded decimals webhookSystemActor input config
    h).run
  have hsame : Db.SameOn IsGoodsTable db ((RefundOperations.finalizeCurrentAdminRefund decimals
      webhookSystemActor input config).run db).2 := by
    refine Service.Writes.sameOn ((finalizeCurrentAdminRefund_writes_tables decimals
      webhookSystemActor input config).mono fun w hw hgoods => ?_)
    rcases hw with hw | hw
    · rw [hw] at hgoods
      revert hgoods
      simp [IsGoodsTable, stockTables]
    · rw [hw] at hgoods
      revert hgoods
      simp [IsGoodsTable, stockTables]
  rcases hrun : (RefundOperations.finalizeCurrentAdminRefund decimals webhookSystemActor input
    config).run db with ⟨outcome, db₁⟩
  rw [hrun] at hends hsame
  exact .of_run hrun ⟨hends.1, hends.2, hsame⟩

theorem Stands.process_refund (h : Stands paymentId verdict db) (eventId : Id)
    (retryTerminal : Bool) (free : Prop) :
    StepEffect paymentId verdict none free db
      ((WebhookStep.process (.refund eventId retryTerminal)).run runtime decimals databaseMessage
        db) := by
  have hlawful := refundProviderEventProcessor_lawful decimals
  have hprocessing : (refundProviderEventProcessor decimals).Processing eventId retryTerminal db
      ((WebhookStep.process (.refund eventId retryTerminal)).run runtime decimals databaseMessage
        db) :=
    (ProviderEventProcessor.processProviderEvent_processing hlawful db eventId retryTerminal).run
  generalize (WebhookStep.process (.refund eventId retryTerminal)).run runtime decimals
    databaseMessage db = db' at hprocessing ⊢
  have hgoods : ∀ t, IsGoodsTable t → t ≠ .refundProviderEvent := by
    rintro t (rfl | ht)
    · decide
    · exact (by decide : ∀ t ∈ stockTables, t ≠ .refundProviderEvent) t ht
  cases hprocessing with
  | skipped =>
    exact .refl h.unrefunded free
  | marked event payload _ hevent _ _ hmark =>
    exact .of_sameOn h.unrefunded ((hlawful.updateEvent_writes eventId payload).sameOn_ne hmark)
      (by decide) (by decide) hgoods free
  | applied event target action payload _ hevent happlies hpayload hmark =>
    obtain ⟨hunrefunded, hpayment, hsame⟩ := (h.unrefunded.apply event target action).run
    have hmarked : Db.SameOn (· ≠ Tbl.refundProviderEvent) _ db' :=
      (hlawful.updateEvent_writes eventId payload).sameOn_ne hmark
    have hrefund : Tbl.refund ≠ .refundProviderEvent := by decide
    have hpaymentTable : Tbl.payment ≠ .refundProviderEvent := by decide
    refine ⟨fun _ => ⟨(hmarked.get hpaymentTable).symm.trans hpayment, fun _ t ht =>
      (hsame t ht).trans (hmarked t (hgoods t ht))⟩, fun _ status hstatus => (by cases hstatus), ?_⟩
    exact fun id refund hget => hunrefunded id refund ((hmarked.get hrefund).trans hget)

theorem Stands.deliver (h : Stands paymentId verdict db) (delivery : WebhookDelivery)
    (free : Prop) :
    StepEffect paymentId verdict none free db (delivery.run runtime db) := by
  obtain ⟨kind, newId, now, input⟩ := delivery
  cases kind with
  | payment =>
    refine .of_sameOn h.unrefunded (ProviderWebhook.ingestWebhook_sameOn
      (paymentProviderWebhook_lawful runtime)) (by decide) (by decide) ?_ free
    rintro t (rfl | ht)
    · decide
    · exact (by decide : ∀ t ∈ stockTables, t ≠ .paymentProviderEvent) t ht
  | refund =>
    refine .of_sameOn h.unrefunded (ProviderWebhook.ingestWebhook_sameOn
      (refundProviderWebhook_lawful runtime)) (by decide) (by decide) ?_ free
    rintro t (rfl | ht)
    · decide
    · exact (by decide : ∀ t ∈ stockTables, t ≠ .refundProviderEvent) t ht

/-- Whatever the step is. -/
theorem Stands.step (h : Stands paymentId verdict db) (step : WebhookStep) :
    StepEffect paymentId verdict
      (step.verdict runtime decimals databaseMessage paymentId db)
      (step.OfAnotherPayment paymentId db) db
      (step.run runtime decimals databaseMessage db) := by
  cases step with
  | deliver delivery => exact h.deliver delivery _
  | process call =>
    cases call with
    | payment eventId retryTerminal => exact h.process_payment eventId retryTerminal
    | refund eventId retryTerminal => exact h.process_refund eventId retryTerminal _

/-- The first of two verdicts stands. -/
theorem Stands.next (h : Stands paymentId verdict db) {stepVerdict : Option PaymentStatus}
    {free : Prop} (heffect : StepEffect paymentId verdict stepVerdict free db db') :
    Stands paymentId (verdict.or stepVerdict) db' := by
  have hkept : verdict ≠ none ∨ stepVerdict = none →
      ∃ payment, db'.get (.payment, paymentId) = some payment ∧
        payment.status = verdict.getD .pending := by
    intro hnot
    rw [(heffect.untouched hnot).1]
    exact h.payment
  cases verdict with
  | some status =>
    exact ⟨hkept (.inl (by simp)), h.ended, heffect.unrefunded⟩
  | none =>
    cases stepVerdict with
    | none => exact ⟨hkept (.inr rfl), h.ended, heffect.unrefunded⟩
    | some status =>
      obtain ⟨hended, hpayment⟩ := heffect.decides rfl status rfl
      refine ⟨hpayment, fun status' hstatus' => ?_, heffect.unrefunded⟩
      cases hstatus'
      exact hended

/-- At the end of a run the first verdict stands. -/
theorem Stands.runAll (steps : List WebhookStep) : ∀ {db : Store} {verdict : Option PaymentStatus},
    Stands paymentId verdict db →
    Stands paymentId
      (verdict.or (firstVerdict runtime decimals databaseMessage paymentId steps db))
      (runAll (WebhookStep.run runtime decimals databaseMessage) steps db) := by
  induction steps with
  | nil =>
    intro db verdict h
    rw [firstVerdict, Option.or_none]
    exact h
  | cons step steps ih =>
    intro db verdict h
    rw [firstVerdict, ← Option.or_assoc]
    exact ih (h.next (h.step step))

end Steps

/-! ## Runs -/

/-- In a run of deliveries and of processing, with any events in any order and any number of
retries, a payment that was pending has the status of the first verdict on it. A step that is not
this verdict leaves the payment as it is, and unless it processes an event of another payment, all
orders and all stock. -/
theorem payment_firstVerdict (runtime : WebhookRuntime) (decimals : DecimalRuntime)
    (databaseMessage : Failure → String) {db : Store} {paymentId : Id} {payment : Payment}
    (hpayment : db.get (.payment, paymentId) = some payment) (hpending : payment.status = .pending)
    (hunrefunded : Unrefunded paymentId db) (before : List WebhookStep) (step : WebhookStep) :
    (∃ payment', (runAll (WebhookStep.run runtime decimals databaseMessage) before db).get
        (.payment, paymentId) = some payment' ∧ payment'.status =
          (firstVerdict runtime decimals databaseMessage paymentId before db).getD .pending) ∧
    (firstVerdict runtime decimals databaseMessage paymentId before db ≠ none ∨
        step.verdict runtime decimals databaseMessage paymentId
          (runAll (WebhookStep.run runtime decimals databaseMessage) before db) = none →
      Untouched paymentId
        (step.OfAnotherPayment paymentId
          (runAll (WebhookStep.run runtime decimals databaseMessage) before db))
        (runAll (WebhookStep.run runtime decimals databaseMessage) before db)
        (runAll (WebhookStep.run runtime decimals databaseMessage) (before ++ [step]) db)) := by
  have hstart : Stands paymentId none db :=
    ⟨⟨payment, hpayment, hpending⟩, fun status hstatus => (by cases hstatus), hunrefunded⟩
  have hstands : Stands paymentId
      (none.or (firstVerdict runtime decimals databaseMessage paymentId before db))
      (runAll (WebhookStep.run runtime decimals databaseMessage) before db) := hstart.runAll before
  rw [Option.none_or] at hstands
  refine ⟨hstands.payment, ?_⟩
  rw [runAll_append]
  exact (hstands.step step).untouched

/-! ## Two verdicts -/

def pendingPayment : Payment := { teaPayment with provider := .wavePay, status := .pending }

/-- A shop with a payment that is pending and two events that contradict each other. -/
def pendingShop : Store :=
  (webhookShop paidEvent { paidEvent with normalizedStatus := some .cancelled }).put
    ⟨.payment, 1, some pendingPayment⟩

/-- The payment stays with the first verdict, also when the other is retried. -/
theorem payment_firstVerdict_pendingShop : ∃ payment',
    (runAll (WebhookStep.run ForgedDelivery.runtime sampleDecimals fun _ => "")
      [.process (.payment 1 false), .process (.payment 2 false), .process (.payment 2 true)]
      pendingShop).get (.payment, 1) = some payment' ∧ payment'.status = .succeeded := by
  have hrefunds : pendingShop.list .refund (fun _ => true) = [] := by decide +kernel
  have hunrefunded : Unrefunded 1 pendingShop := fun id refund hrefund =>
    absurd ⟨refund, hrefund, rfl⟩ (Db.list_eq_nil_iff.mp hrefunds id)
  have hpending : pendingShop.get (.payment, 1) = some pendingPayment := Db.get_put_self ..
  obtain ⟨⟨payment', hget, hstatus⟩, -⟩ := payment_firstVerdict ForgedDelivery.runtime
    sampleDecimals (fun _ => "") hpending rfl hunrefunded
    [.process (.payment 1 false), .process (.payment 2 false), .process (.payment 2 true)]
    (.process (.payment 1 false))
  exact ⟨payment', hget, hstatus.trans (by decide +kernel)⟩

end WerTe
