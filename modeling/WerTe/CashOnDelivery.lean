import WerTe.CartOrders
import WerTe.OrderCommits
import WerTe.ReadCommitted.Flags
import WerTe.StatusStock

/-!
# Cash on delivery

The payments that a customer makes in cash are settled by whichever operation marks the order as
delivered: the merchant's confirmation of a pickup and the rider's delivery do so in the same
transaction, the administrator's override does not. What settles them is a bulk update of the
payments' status, which is the one change of a payment that leaves no attempt behind.

* `delivered_cash_settled`: no delivered order waits for its cash, as long as overrides
  deliver only orders that do not
* `attempts_mirror_payments`: a payment's last attempt has its status, as long as no cash is
  settled
-/

namespace WerTe

open ReadCommitted OrdersRepository DeliveriesRepository DispatchRepository RidersRepository

/-! ## What is stored -/

/-- The order has a payment in cash that is still pending. -/
def PendingCash (db : Store) (orderId : Id) : Prop :=
  ∃ paymentId payment, db.get (.payment, paymentId) = some payment ∧ payment.orderId = orderId ∧
    payment.method = .cashOnDelivery ∧ payment.status = .pending

/-- No order that has been delivered has a payment in cash that is still pending. -/
def CashSettled (db : Store) : Prop :=
  ∀ orderId order, db.get (.order, orderId) = some order → order.status = .delivered →
    ¬ PendingCash db orderId

/-- The last attempt has the payment's status. -/
def Payment.Mirrored (payment : Payment) : Prop :=
  payment.attempts.getLast?.map (·.status) = some payment.status

instance (payment : Payment) : Decidable payment.Mirrored :=
  inferInstanceAs (Decidable (_ = _))

/-- The last attempt of every payment has the payment's status. -/
def AttemptsMirror (db : Store) : Prop :=
  ∀ paymentId payment, db.get (.payment, paymentId) = some payment → payment.Mirrored

theorem Payment.mirrored_transition (payment : Payment) (payload : PaymentTransitionInput) :
    (payment.transition payload).Mirrored := by
  simp [Mirrored, Payment.transition]

theorem CheckoutPaymentProfile.mirrored_payment (profile : CheckoutPaymentProfile)
    (orderId customerProfileId : Id) (amount : ℚ) (idempotencyKey : String) :
    (profile.payment orderId customerProfileId amount idempotencyKey).Mirrored := by
  simp [Payment.Mirrored, CheckoutPaymentProfile.payment]

/-! ## Operations that deliver nothing -/

/-- Nothing is delivered by the write, and a payment it writes is not pending and mirrored by
its last attempt. -/
def QuietWrite : Write Row → Prop
  | ⟨.order, _, row⟩ => ∃ order, row = some order ∧ order.status ≠ .delivered
  | ⟨.payment, _, row⟩ => ∃ payment, row = some payment ∧ payment.status ≠ .pending ∧
      payment.Mirrored
  | _ => True

/-- A payment that is written is mirrored by its last attempt. -/
def MirroredWrite : Write Row → Prop
  | ⟨.payment, _, row⟩ => ∃ payment, row = some payment ∧ payment.Mirrored
  | _ => True

theorem QuietWrite.mirrored {w : Write Row} (h : QuietWrite w) : MirroredWrite w := by
  obtain ⟨t, i, r⟩ := w
  cases t with
  | payment =>
    obtain ⟨payment, hrow, -, hmirrored⟩ := h
    exact ⟨payment, hrow, hmirrored⟩
  | _ => exact True.intro

theorem MirroredWrite.of_ne {w : Write Row} (h : w.table ≠ .payment) : MirroredWrite w := by
  obtain ⟨t, i, r⟩ := w
  cases t <;> first | exact True.intro | exact absurd rfl h

theorem QuietWrite.of_other {w : Write Row} (h : OtherWrite w) : QuietWrite w := by
  obtain ⟨t, i, r⟩ := w
  obtain ⟨horder, -, hpayment⟩ := h
  cases t <;> first | exact True.intro | exact absurd rfl horder | exact absurd rfl hpayment

/-- An order that is delivered after a quiet write was delivered before, and so was its cash
pending. -/
theorem CashSettled.put {db : Store} {w : Write Row} (h : CashSettled db) (hw : QuietWrite w) :
    CashSettled (db.put w) := by
  have hpending : ∀ orderId, PendingCash (db.put w) orderId → PendingCash db orderId := by
    rintro orderId ⟨paymentId, payment, hget, hof, hmethod, hstatus⟩
    rcases Db.get_apply_cases [w] .payment paymentId db with hkept | ⟨row, hrow, hget'⟩
    · exact ⟨paymentId, payment, hkept.symm.trans hget, hof, hmethod, hstatus⟩
    · obtain rfl := List.mem_singleton.mp hrow
      obtain ⟨payment', rfl, hnot, -⟩ := hw
      cases hget.symm.trans hget'
      exact absurd hstatus hnot
  intro orderId order hget hstatus hcash
  rcases Db.get_apply_cases [w] .order orderId db with hkept | ⟨row, hrow, hget'⟩
  · exact h orderId order (hkept.symm.trans hget) hstatus (hpending orderId hcash)
  · obtain rfl := List.mem_singleton.mp hrow
    obtain ⟨order', rfl, hnot⟩ := hw
    cases hget.symm.trans hget'
    exact absurd hstatus hnot

theorem AttemptsMirror.put {db : Store} {w : Write Row} (h : AttemptsMirror db)
    (hw : MirroredWrite w) : AttemptsMirror (db.put w) := by
  intro paymentId payment hget
  rcases Db.get_apply_cases [w] .payment paymentId db with hkept | ⟨row, hrow, hget'⟩
  · exact h paymentId payment (hkept.symm.trans hget)
  · obtain rfl := List.mem_singleton.mp hrow
    obtain ⟨payment', rfl, hmirrored⟩ := hw
    cases hget.symm.trans hget'
    exact hmirrored

section Quiet

theorem updateOrderStatus_quiet {orderId : Id} {payload : UpdateOrderStatusInput}
    (h : payload.status ≠ .delivered) : (updateOrderStatus orderId payload).Writes QuietWrite :=
  .updateExisting fun _ => ⟨_, rfl, h⟩

theorem changeOrderStatus_quiet {record : OrderDetailRecord} {payload : UpdateOrderStatusInput}
    (h : payload.status ≠ .delivered) : (changeOrderStatus record payload).Writes QuietWrite := by
  refine .bind (updateOrderStatus_quiet h) fun _ => ?_
  split
  · exact (restoreTrackedInventoryForOrder_writes _).mono fun _ h => .of_other h.other
  · exact .ret ()

theorem moveDelivery_quiet {record : DeliveryDetailRecord} {data : Delivery → Delivery}
    {payload : UpdateOrderStatusInput} (h : payload.status ≠ .delivered) :
    (moveDelivery record data payload).Writes QuietWrite :=
  .bind (.updateExisting fun _ => True.intro) fun _ => updateOrderStatus_quiet h

theorem assignDelivery_quiet {newDeliveryId orderId riderId : Id}
    {payload : UpdateOrderStatusInput} (h : payload.status ≠ .delivered) :
    (assignDelivery newDeliveryId orderId riderId payload).Writes QuietWrite := by
  refine .bind ⟨fun db b ws hws w hw => ?_, fun _ => True.intro⟩ fun _ => updateOrderStatus_quiet h
  have htable : w.table = .delivery := by
    beta_reduce at hws
    split at hws
    · cases hws
      rw [List.mem_singleton.mp hw]
    · split at hws <;> cases hws
      rw [List.mem_singleton.mp hw]
  obtain ⟨t, i, row⟩ := w
  cases htable
  exact True.intro

theorem resolveAttempt_quiet (attemptId : Id) (outcomeCode : DispatchOutcomeCode) :
    (resolveAttempt attemptId outcomeCode).Writes QuietWrite := .updateExisting fun _ => True.intro

theorem merchantTransition_quiet {currentUser : AuthenticatedUser} {orderId : Id}
    {reasonCode note : Option String} {config : MerchantActionConfig}
    (h : config.targetStatus ≠ .delivered) :
    (merchantTransition currentUser orderId reasonCode note config).Writes QuietWrite := by
  refine .bind (.orFail _ _) fun _ => .bind (.get _) fun _ => .bind (.orFail _ _) fun record => ?_
  split
  · exact .ret none
  · refine .bind (.require _ _) fun _ => .bind (.transaction (.bind (changeOrderStatus_quiet h)
      fun _ => ?_)) fun _ => .ret _
    exact .ret ()

theorem handleMerchantAction_quiet {currentUser : AuthenticatedUser} {orderId : Id}
    {reasonCode note : Option String} {config : MerchantActionConfig}
    (h : config.targetStatus ≠ .delivered) :
    (handleMerchantAction currentUser orderId reasonCode note config).Writes QuietWrite := by
  refine .bind (merchantTransition_quiet h) fun transitioned => ?_
  cases transitioned with
  | none => exact .ret ()
  | some record =>
    dsimp only
    split
    · exact .bind (merchantTransition_quiet (by simp)) fun _ =>
        .bind (merchantTransition_quiet (by simp)) fun _ => .ret ()
    · exact .ret ()

theorem riderReasonCode_readOnly (config : RiderDeliveryTransitionConfig)
    (reasonCode : Option String) : (riderReasonCode config reasonCode).ReadOnly := by
  unfold riderReasonCode
  split
  · split <;> exact True.intro
  · exact True.intro

theorem handleTransition_quiet {currentUser : AuthenticatedUser} {input : RiderDeliveryActionInput}
    {config : RiderDeliveryTransitionConfig} (h : config.targetOrderStatus ≠ .delivered) :
    (handleTransition currentUser input config).Writes QuietWrite := by
  refine .bind (.orFail _ _) fun _ => .bind (.get _) fun _ => .bind (.orFail _ _) fun record => ?_
  split
  · exact .ret _
  · refine .bind (.require _ _) fun _ => .bind ?_ fun reasonCode => .bind (.transaction (.bind
      (moveDelivery_quiet h) fun _ => ?_)) fun _ => .bind (.get _) fun _ => .orFail _ _
    · exact (riderReasonCode_readOnly _ _).writes
    · exact .ret ()

theorem resolveDispatchAttempt_quiet (orderId riderId : Id) (outcomeCode : DispatchOutcomeCode) :
    (resolveDispatchAttempt orderId riderId outcomeCode).Writes QuietWrite := by
  refine .bind (.get _) fun attempt => ?_
  cases attempt with
  | none => exact .ret ()
  | some attempt => exact .tx (resolveAttempt_quiet _ _) fun _ => .ret ()

theorem answerRequest_quiet {currentUser : AuthenticatedUser} {input : RiderDeliveryActionInput}
    {config : RiderDeliveryTransitionConfig} (h : config.targetOrderStatus ≠ .delivered)
    (outcomeCode : DispatchOutcomeCode) :
    (answerRequest currentUser input config outcomeCode).Writes QuietWrite := by
  refine .bind (.orFail _ _) fun _ => .bind (.get _) fun delivery =>
    .bind (handleTransition_quiet h) fun _ => ?_
  cases delivery with
  | none => exact .ret ()
  | some record => exact resolveDispatchAttempt_quiet _ _ _

theorem cancelOrderForSystem_quiet (orderId : Id) (reasonCode : String) :
    (cancelOrderForSystem orderId reasonCode).Writes QuietWrite := by
  refine .bind (.get _) fun found => ?_
  cases found with
  | none => exact .ret ()
  | some record =>
    dsimp only
    split
    · exact .ret ()
    · exact .transaction (changeOrderStatus_quiet (by simp))

theorem assignAndNotify_quiet (ids : AssignmentIds) (orderId riderId : Id) :
    (assignAndNotify ids orderId riderId).Writes QuietWrite := by
  refine .bind (.transaction (.insertRow True.intro)) fun _ => .tx ?_ fun outcome => ?_
  · exact .bind (.update fun _ w hw => by rw [List.mem_singleton.mp hw]; exact True.intro)
      fun _ => .bind .read fun _ => .bind (.require _ _) fun _ => assignDelivery_quiet (by simp)
  · cases outcome with
    | ok u => exact .ret ()
    | error e => exact .tx (resolveAttempt_quiet _ _) fun _ => .ret ()

theorem pickEligibleRider_readOnly (township : Option String) (excludeRiderIds : List Id) :
    (pickEligibleRider township excludeRiderIds).ReadOnly := by
  cases township with
  | none =>
    refine .bind (.ret []) fun matched => ?_
    cases matched with
    | nil => exact .bind (.get _) fun _ => .ret _
    | cons rider riders => exact .ret _
  | some township =>
    refine .bind (.get _) fun matched => ?_
    cases matched with
    | nil => exact .bind (.get _) fun _ => .ret _
    | cons rider riders => exact .ret _

theorem dispatchNext_quiet (ids : AssignmentIds) (orderId : Id) (township : Option String) :
    (dispatchNext ids orderId township).Writes QuietWrite := by
  refine .bind (.get _) fun failedCount => ?_
  split
  · exact cancelOrderForSystem_quiet _ _
  · refine .bind (.get _) fun _ => .bind (pickEligibleRider_readOnly _ _).writes fun rider => ?_
    cases rider with
    | none => exact .ret ()
    | some riderId => exact assignAndNotify_quiet _ _ _

theorem handlePaymentTransition_quiet (action : PaymentAction) (currentUser : AuthenticatedUser)
    (input : PaymentLifecycleInput) :
    (handlePaymentTransition currentUser input action.config).Writes QuietWrite := by
  have hstatus : action.config.targetStatus ≠ .pending := by
    cases action <;> simp [PaymentAction.config, confirmPaymentConfig, failPaymentConfig,
      cancelPaymentConfig, expirePaymentConfig]
  refine .bind (.require _ _) fun _ => .bind (.get _) fun _ => .bind (.orFail _ _) fun payment => ?_
  split
  · exact .ret ()
  · refine .bind (.require _ _) fun _ => .transaction (.bind (.bind (.updateExisting fun payment =>
      ⟨_, rfl, hstatus, payment.mirrored_transition _⟩) fun _ => .bind .read fun found => ?_)
        fun transitioned => ?_)
    · cases found <;> exact True.intro
    · split
      · refine .bind .read fun orderDetail => .bind (updateOrderStatus_quiet (by simp)) fun _ => ?_
        cases orderDetail with
        | none => exact .ret ()
        | some record =>
          dsimp only
          split
          · exact (restoreTrackedInventoryForOrder_writes _).mono fun _ h => .of_other h.other
          · exact .ret ()
      · exact .ret ()

theorem requireReasonCode_quiet (reasonCode : String) :
    (AdminOrderOperations.requireReasonCode reasonCode).Writes QuietWrite := by
  rw [AdminOrderOperations.requireReasonCode]
  generalize normalizeOptionalString (some reasonCode) = code
  exact .orFail code _

/-- The operations that can mark an order as delivered. -/
def OrderCall.delivers : OrderCall → Bool
  | merchant .confirmPickup _ _ _ _ => true
  | rider .delivered _ _ => true
  | adminOverride _ _ status _ _ => status == .delivered
  | _ => false

/-- Every other operation is quiet. -/
theorem OrderCall.writes_quiet {call : OrderCall} (h : call.delivers = false) :
    call.service.Writes QuietWrite := by
  cases call with
  | customerCancel currentUser orderId reasonCode note =>
    refine .bind (.orFail _ _) fun _ => .bind (.get _) fun _ => .bind (.orFail _ _) fun record => ?_
    split
    · exact .ret ()
    · exact .bind (.require _ _) fun _ => .transaction (changeOrderStatus_quiet (by simp))
  | merchant action currentUser orderId reasonCode note =>
    refine handleMerchantAction_quiet fun hdelivered => ?_
    cases action <;> first | cases hdelivered; done | cases h
  | adminCancel currentUser orderId reasonCode note =>
    refine .bind (.require _ _) fun _ => .bind (.get _) fun _ => .bind (.orFail _ _)
      fun record => ?_
    split
    · exact .ret ()
    · exact .bind (.require _ _) fun _ => .transaction (changeOrderStatus_quiet (by simp))
  | adminOverride currentUser orderId status reasonCode note =>
    have hstatus : status ≠ .delivered := by simpa [delivers] using h
    refine .bind (.require _ _) fun _ => .bind (requireReasonCode_quiet reasonCode) fun _ =>
      .bind (.get _) fun _ => .bind (.orFail _ _) fun record => ?_
    split
    · exact .ret ()
    · exact .bind (.require _ _) fun _ => .transaction (changeOrderStatus_quiet hstatus)
  | merchantTimeout orderId =>
    refine .bind (.get _) fun found => ?_
    cases found with
    | none => exact .ret ()
    | some record =>
      dsimp only
      split
      · exact .ret ()
      · exact .transaction (changeOrderStatus_quiet (by simp))
  | riderTimeout orderId =>
    refine .bind (.get _) fun found => ?_
    cases found with
    | none => exact .ret ()
    | some record =>
      dsimp only
      split
      · exact .ret ()
      · exact .transaction (changeOrderStatus_quiet (by simp))
  | rider action currentUser input =>
    cases action with
    | accept => exact answerRequest_quiet (by simp [acceptRequestConfig]) _
    | reject => exact answerRequest_quiet (by simp [rejectRequestConfig]) _
    | pickedUp => exact .bind (handleTransition_quiet (by simp [pickedUpConfig])) fun _ => .ret ()
    | onTheWay => exact .bind (handleTransition_quiet (by simp [onTheWayConfig])) fun _ => .ret ()
    | delivered => cases h
    | fail => exact .bind (handleTransition_quiet (by simp [failedConfig])) fun _ => .ret ()
    | cancel =>
      exact .bind (.orFail _ _) fun _ => .bind (.get _) fun _ => .bind (.orFail _ _) fun record =>
        .bind (.require _ _) fun _ => .transaction (moveDelivery_quiet (by simp))
  | assignRider newDeliveryId currentUser orderId riderId reasonCode note =>
    refine .bind (.require _ _) fun _ => .bind (.get _) fun _ => .bind (.orFail _ _)
      fun record => ?_
    split
    · exact .ret ()
    · exact .bind (.require _ _) fun _ => .bind (.get _) fun _ => .bind (.orFail _ _) fun _ =>
        .bind (.require _ _) fun _ => .transaction (assignDelivery_quiet (by simp))
  | autoDispatchOrder ids orderId =>
    refine .bind (.get _) fun order => ?_
    cases order with
    | none => exact .ret ()
    | some order => exact dispatchNext_quiet _ _ _
  | autoDispatchForRider ids riderId township =>
    refine .bind (.get _) fun eligible => ?_
    split
    · exact .ret ()
    · refine .bind (.get _) fun orders => ?_
      cases orders with
      | nil =>
        refine .bind (.get _) fun fallback => ?_
        cases fallback with
        | nil => exact .ret ()
        | cons order orders => exact assignAndNotify_quiet _ _ _
      | cons order orders => exact assignAndNotify_quiet _ _ _
  | dispatchTimeout ids orderId attemptId =>
    refine .bind (.get _) fun attempt => ?_
    split
    · exact .ret ()
    · refine .bind (.transaction (resolveAttempt_quiet _ _)) fun _ => .bind (.get _) fun order => ?_
      cases order with
      | none => exact .ret ()
      | some found =>
        exact .bind (.transaction (.bind (.updateExisting fun _ => True.intro) fun _ =>
          updateOrderStatus_quiet (by simp))) fun _ => dispatchNext_quiet _ _ _
  | payment action currentUser input => exact handlePaymentTransition_quiet action currentUser input

end Quiet

/-! ## Operations that deliver -/

/-- The payment once the order's cash is settled. -/
def settled (orderId : Id) (payment : Payment) : Payment :=
  if payment.orderId = orderId ∧ payment.method = .cashOnDelivery ∧ payment.status = .pending then
    { payment with status := .succeeded }
  else payment

/-- The order is delivered, every payment goes through `settle`, and the other orders are as
they were. -/
structure Delivered (settle : Payment → Payment) (orderId : Id) (db db' : Store) : Prop where
  order : statusIn orderId db' = some .delivered
  orders : ∀ id, id ≠ orderId → db'.get (.order, id) = db.get (.order, id)
  payments : ∀ id, db'.get (.payment, id) = (db.get (.payment, id)).map settle

/-- The order that the call delivers and whose cash it settles: the merchant's order or the
rider's delivery, if it is as far as that. -/
def OrderCall.settles (db : Store) : OrderCall → Option Id
  | merchant .confirmPickup currentUser orderId _ _ =>
    currentUser.merchantId.bind fun merchantId =>
      (findMerchantOrderDetail db orderId merchantId).bind fun record =>
        if canMerchantConfirmPickup currentUser record then some orderId else none
  | rider .delivered currentUser input =>
    currentUser.riderId.bind fun riderId =>
      (findRiderDeliveryById db input.deliveryId riderId).bind fun record =>
        if canRiderMarkDeliveryDelivered currentUser record then some record.delivery.orderId
        else none
  | _ => none

/-- The order that the call marks as delivered on the administrator's word. -/
def OrderCall.overrides (db : Store) : OrderCall → Option Id
  | adminOverride currentUser orderId .delivered reasonCode _ =>
    if canViewAdminOrders currentUser = true ∧
        (normalizeOptionalString (some reasonCode)).isSome = true then
      (findOrderDetailById db orderId).bind fun record =>
        if record.order.status = .delivered then none else some orderId
    else none
  | _ => none

section Delivering

variable {db : Store}

/-- Nothing is given back of an order that is delivered. -/
theorem changeOrderStatus_delivered {record : OrderDetailRecord} (payload : UpdateOrderStatusInput)
    (hstatus : payload.status = .delivered)
    (hrecord : db.get (.order, record.id) = some record.order) :
    (changeOrderStatus record payload).run db =
      .ok ((), db.put ⟨.order, record.id, some (record.order.changeStatus payload)⟩) := by
  have hnone :
      shouldReleaseInventoryForOrderTransition payload.fromStatus payload.status = false := by
    rw [hstatus]
    cases payload.fromStatus <;> rfl
  rw [changeOrderStatus, hnone, Tx.bind_eq, Tx.run_bind, updateOrderStatus,
    Tx.run_updateExisting hrecord]
  rfl

theorem delivered_put {orderId : Id} {order : Order} {payload : UpdateOrderStatusInput}
    (hstatus : payload.status = .delivered) :
    Delivered id orderId db (db.put ⟨.order, orderId, some (order.changeStatus payload)⟩) := by
  refine ⟨?_, fun other hne => ?_, fun paymentId => ?_⟩
  · have hself : (db.put ⟨.order, orderId, some (order.changeStatus payload)⟩).get
        (.order, orderId) = some (order.changeStatus payload) := Db.get_put_self ..
    rw [statusIn, hself, Option.map_some]
    exact congrArg some hstatus
  · exact Db.get_put_ne _ fun hkey => hne (congrArg Prod.snd hkey)
  · rw [Option.map_id, id]
    exact Db.get_put_ne _ (by simp [Write.key])

/-- The settlement that follows. -/
theorem Delivered.settle {db' : Store} {orderId : Id} (h : Delivered id orderId db db') :
    ∃ after, (settleCashOnDelivery orderId).run db' = .ok ((), after) ∧
      Delivered (settled orderId) orderId db after := by
  -- the bulk update, as the library has it
  have hrun : (settleCashOnDelivery orderId).run db' = .ok ((), db'.apply (db'.updates .payment
      (fun payment => payment.orderId == orderId && payment.method == .cashOnDelivery &&
        payment.status == .pending) fun payment => { payment with status := .succeeded })) := rfl
  have hother : ∀ id, (db'.apply (db'.updates .payment
      (fun payment => payment.orderId == orderId && payment.method == .cashOnDelivery &&
        payment.status == .pending) fun payment => { payment with status := .succeeded })).get
      (.order, id) = db'.get (.order, id) := fun _ => Db.get_apply_updates_ne (by simp)
  refine ⟨_, hrun, ?_, fun other hne => (hother other).trans (h.orders other hne),
    fun paymentId => ?_⟩
  · rw [statusIn, hother]
    exact h.order
  · rw [Db.get_apply_updates, h.payments paymentId, Option.map_id, id]
    refine congrArg (Option.map · _) (funext fun payment => ?_)
    simp only [settled, Bool.and_eq_true, beq_iff_eq, and_assoc]

theorem delivered_put_settle {record : OrderDetailRecord} (payload : UpdateOrderStatusInput)
    (hstatus : payload.status = .delivered)
    (hrecord : db.get (.order, record.id) = some record.order) :
    ∃ after, ((changeOrderStatus record payload).bind fun _ =>
        settleCashOnDelivery record.id).run db = .ok ((), after) ∧
      Delivered (settled record.id) record.id db after := by
  have hput : Delivered id record.id db
      (db.put ⟨.order, record.id, some (record.order.changeStatus payload)⟩) :=
    delivered_put hstatus
  obtain ⟨after, hrun, hdelivered⟩ := hput.settle
  refine ⟨after, ?_, hdelivered⟩
  rw [Tx.run_bind, changeOrderStatus_delivered payload hstatus hrecord]
  exact hrun

theorem confirmPickup_ends (currentUser : AuthenticatedUser) (orderId : Id)
    (reasonCode note : Option String) (db : Store) :
    (handleMerchantAction currentUser orderId reasonCode note confirmPickupConfig).Ends db
      fun _ db' =>
        match (OrderCall.merchant .confirmPickup currentUser orderId reasonCode note).settles
          db with
        | some orderId => Delivered (settled orderId) orderId db db'
        | none => db' = db := by
  refine .bind (.orFail_bind (fun merchantId hmerchant => .get_bind (.orFail_bind
    (fun record hrecord => ?_) fun hnone => ?_)) fun hnone => ?_)
  · obtain ⟨hget, hid⟩ := get_of_findOrderDetailById (find_of_findMerchantOrderDetail hrecord)
    simp only [OrderCall.settles, hmerchant, hrecord, Option.bind_some]
    by_cases hcan : canMerchantConfirmPickup currentUser record = true
    · have hready : record.order.status = .ready := by simp_all [canMerchantConfirmPickup]
      have hopen : record.order.status ≠ confirmPickupConfig.targetStatus := by
        rw [hready]
        decide
      rw [if_pos hcan, if_neg hopen]
      refine .require_bind (fun _ => ?_) fun hcannot => absurd hcan hcannot
      obtain ⟨after, hrun, hdelivered⟩ := delivered_put_settle {
        status := .delivered
        fromStatus := record.order.status
        reasonCode := some (reasonCode.getD confirmPickupConfig.defaultReasonCode)
        note := note } rfl (hid ▸ hget)
      rw [hid] at hrun hdelivered
      refine .transaction_bind (fun u db' h => ?_) fun e h => ?_
      · cases h.symm.trans hrun
        exact .ret (.ret hdelivered)
      · cases h.symm.trans hrun
    · rw [if_neg hcan]
      split
      · exact .ret (.ret rfl)
      · exact .require_bind (fun hcan' => absurd hcan' hcan) fun _ => rfl
  · simp only [OrderCall.settles, hmerchant, Option.bind_some, hnone, Option.bind_none]
  · simp only [OrderCall.settles, hnone, Option.bind_none]

theorem moved_put_settle {record : DeliveryDetailRecord} (data : Delivery → Delivery)
    (payload : UpdateOrderStatusInput) (hstatus : payload.status = .delivered)
    (hrecord : findById db record.id = some record) :
    ∃ after, ((moveDelivery record data payload).bind fun _ =>
        settleCashOnDelivery record.delivery.orderId).run db = .ok ((), after) ∧
      Delivered (settled record.delivery.orderId) record.delivery.orderId db after := by
  obtain ⟨-, hdelivery, order, horder, -⟩ := get_of_findById hrecord
  set db₁ := db.put ⟨.delivery, record.id, some (data record.delivery)⟩
  have hother : ∀ k : Key Tbl, k.1 ≠ .delivery → db₁.get k = db.get k := fun k hk =>
    Db.get_put_ne _ fun hkey => hk (congrArg Prod.fst hkey)
  have horder' : db₁.get (.order, record.delivery.orderId) = some order :=
    (hother _ (by simp)).trans horder
  have hput : Delivered id record.delivery.orderId db₁
      (db₁.put ⟨.order, record.delivery.orderId, some (order.changeStatus payload)⟩) :=
    delivered_put hstatus
  have hput' : Delivered id record.delivery.orderId db
      (db₁.put ⟨.order, record.delivery.orderId, some (order.changeStatus payload)⟩) :=
    ⟨hput.order, fun other hne => (hput.orders other hne).trans (hother _ (by simp)),
      fun paymentId => (hput.payments paymentId).trans (by rw [hother _ (by simp)])⟩
  obtain ⟨after, hrun, hdelivered⟩ := hput'.settle
  refine ⟨after, ?_, hdelivered⟩
  rw [Tx.run_bind, moveDelivery, Tx.bind_eq, Tx.run_bind, updateById,
    Tx.run_updateExisting hdelivery]
  simp only [Except.bind]
  rw [updateOrderStatus, Tx.run_updateExisting horder']
  exact hrun

theorem markDelivered_ends (currentUser : AuthenticatedUser) (input : RiderDeliveryActionInput)
    (db : Store) :
    (markCurrentRiderDelivered currentUser input).Ends db fun _ db' =>
      match (OrderCall.rider .delivered currentUser input).settles db with
      | some orderId => Delivered (settled orderId) orderId db db'
      | none => db' = db := by
  refine .bind (.orFail_bind (fun riderId hrider => .get_bind (.orFail_bind
    (fun record hrecord => ?_) fun hnone => ?_)) fun hnone => ?_)
  · have hfind := find_of_findRiderDeliveryById hrecord
    obtain ⟨hid, -⟩ := get_of_findById hfind
    rw [← hid] at hfind
    simp only [OrderCall.settles, hrider, hrecord, Option.bind_some]
    by_cases hcan : canRiderMarkDeliveryDelivered currentUser record = true
    · have hopen : ¬ (record.orderStatus = deliveredConfig.targetOrderStatus ∧
          record.delivery.status = deliveredConfig.targetDeliveryStatus) := by
        rintro ⟨hdelivered, -⟩
        simp_all [canRiderMarkDeliveryDelivered, deliveredConfig]
      rw [if_pos hcan, if_neg hopen]
      refine .require_bind (fun _ => ?_) fun hcannot => absurd hcan hcannot
      have hreason : ∃ code, riderReasonCode deliveredConfig input.reasonCode = .ret code :=
        ⟨_, if_neg (by decide)⟩
      obtain ⟨code, hcode⟩ := hreason
      rw [hcode]
      generalize normalizeOptionalString input.note = note
      obtain ⟨after, hrun, hdelivered⟩ := moved_put_settle deliveredConfig.buildDeliveryUpdate {
        status := .delivered
        fromStatus := record.orderStatus
        reasonCode := code
        note := note } rfl hfind
      refine .bind (.ret (.transaction_bind (fun u db' h => ?_) fun e h => ?_))
      · cases h.symm.trans hrun
        refine .get_bind (.orFail (fun _ _ => .ret hdelivered) fun _ => hdelivered)
      · cases h.symm.trans hrun
    · rw [if_neg hcan]
      split
      · exact .ret (.ret rfl)
      · exact .require_bind (fun hcan' => absurd hcan' hcan) fun _ => rfl
  · simp only [OrderCall.settles, hrider, Option.bind_some, hnone, Option.bind_none]
  · simp only [OrderCall.settles, hnone, Option.bind_none]

theorem overrideDelivered_ends (currentUser : AuthenticatedUser) (orderId : Id)
    (reasonCode : String) (note : Option String) (db : Store) :
    (overrideAdminOrderStatus currentUser orderId .delivered reasonCode note).Ends db fun _ db' =>
      match (OrderCall.adminOverride currentUser orderId .delivered reasonCode note).overrides
        db with
      | some orderId => Delivered id orderId db db'
      | none => db' = db := by
  simp only [OrderCall.overrides]
  generalize hcode : normalizeOptionalString (some reasonCode) = code
  refine .require_bind (fun hadmin => ?_) fun hnone => ?_
  · have hadmin' : canViewAdminOrders currentUser = true := hadmin
    refine .bind ?_
    rw [AdminOrderOperations.requireReasonCode, hcode]
    refine .orFail (fun reasonCode hsome => ?_) fun hnone => ?_
    · rw [if_pos ⟨hadmin', by rw [hsome]; rfl⟩]
      refine .get_bind (.orFail_bind (fun record hrecord => ?_) fun hnone => ?_)
      · obtain ⟨hget, hid⟩ := get_of_findOrderDetailById hrecord
        rw [hrecord]
        simp only [Option.bind_some]
        split
        · exact .ret rfl
        · refine .require_bind (fun _ => ?_) fun hcannot => absurd hadmin' hcannot
          generalize normalizeOptionalString note = note'
          have hrun := changeOrderStatus_delivered {
            status := .delivered
            fromStatus := record.order.status
            reasonCode := some reasonCode
            note := note' } rfl (hid ▸ hget)
          refine .transaction (fun u db' h => ?_) fun e h => ?_
          · cases h.symm.trans hrun
            exact hid ▸ delivered_put rfl
          · cases h.symm.trans hrun
      · rw [hnone]
        rfl
    · rw [if_neg (by simp [hnone])]
  · rw [if_neg fun h => hnone h.1]

/-- What a call does about deliveries. -/
inductive OrderCall.Delivering (call : OrderCall) (db : Store) : Prop
  /-- nothing, whatever it may write -/
  | quiet (hsettles : call.settles db = none) (hoverrides : call.overrides db = none)
      (hkeeps : ∀ {I : Store → Prop}, (∀ db w, I db → QuietWrite w → I (db.put w)) → I db →
        I (call.run db))
  /-- an order is delivered and its cash is settled -/
  | settles (orderId : Id) (hsettles : call.settles db = some orderId)
      (hoverrides : call.overrides db = none)
      (hrun : Delivered (settled orderId) orderId db (call.run db))
  /-- an order is delivered and its cash stays as it is -/
  | overrides (orderId : Id) (hsettles : call.settles db = none)
      (hoverrides : call.overrides db = some orderId)
      (hrun : Delivered id orderId db (call.run db))

theorem OrderCall.settles_of_delivers {call : OrderCall} (h : call.delivers = false) :
    call.settles db = none := by
  cases call with
  | merchant action currentUser orderId reasonCode note => cases action <;> first | rfl | cases h
  | rider action currentUser input => cases action <;> first | rfl | cases h
  | _ => rfl

theorem OrderCall.overrides_of_delivers {call : OrderCall} (h : call.delivers = false) :
    call.overrides db = none := by
  cases call with
  | adminOverride currentUser orderId status reasonCode note =>
    cases status <;> first | rfl | cases h
  | _ => rfl

theorem OrderCall.delivering (call : OrderCall) (db : Store) : call.Delivering db := by
  by_cases hdelivers : call.delivers = true
  · unfold OrderCall.delivers at hdelivers
    split at hdelivers
    · next currentUser orderId reasonCode note =>
      have hrun := (confirmPickup_ends currentUser orderId reasonCode note db).run
      split at hrun
      · next orderId' hsome => exact .settles orderId' hsome rfl hrun
      · next hnone => exact .quiet hnone rfl fun {I} _ h => (congrArg I hrun).mpr h
    · next currentUser input =>
      have hrun := (markDelivered_ends currentUser input db).run
      split at hrun
      · next orderId hsome => exact .settles orderId hsome rfl hrun
      · next hnone => exact .quiet hnone rfl fun {I} _ h => (congrArg I hrun).mpr h
    · next currentUser orderId status reasonCode note =>
      obtain rfl : status = .delivered := eq_of_beq hdelivers
      have hrun := (overrideDelivered_ends currentUser orderId reasonCode note db).run
      split at hrun
      · next orderId' hsome => exact .overrides orderId' rfl hsome hrun
      · next hnone => exact .quiet rfl hnone fun {I} _ h => (congrArg I hrun).mpr h
    · cases hdelivers
  · have hquiet : call.delivers = false := Bool.eq_false_iff.mpr hdelivers
    exact .quiet (OrderCall.settles_of_delivers hquiet) (OrderCall.overrides_of_delivers hquiet)
      fun {I} hput h => (OrderCall.writes_quiet hquiet).run hput h

end Delivering

/-! ## Delivered means settled -/

theorem settled_pending {orderId : Id} {payment : Payment}
    (hmethod : payment.method = .cashOnDelivery)
    (h : (settled orderId payment).status = .pending) :
    settled orderId payment = payment ∧ payment.orderId ≠ orderId := by
  rw [settled] at h ⊢
  split at h
  · cases h
  · next hnot => exact ⟨if_neg hnot, fun hof => hnot ⟨hof, hmethod, h⟩⟩

section CashSettled

variable {db db' : Store} {orderId : Id}

/-- The delivery that settles. -/
theorem Delivered.cashSettled (hdelivered : Delivered (settled orderId) orderId db db')
    (h : CashSettled db) : CashSettled db' := by
  rintro id order hget hstatus ⟨paymentId, payment, hpayment, rfl, hmethod, hpending⟩
  obtain ⟨payment', hpayment', rfl⟩ := Option.map_eq_some_iff.mp
    ((hdelivered.payments paymentId).symm.trans hpayment)
  have hmethod' : payment'.method = .cashOnDelivery := by
    rw [← hmethod, settled]
    split <;> rfl
  obtain ⟨hsame, hne⟩ := settled_pending hmethod' hpending
  rw [hsame] at hget hpending
  exact h payment'.orderId order ((hdelivered.orders _ hne).symm.trans hget) hstatus
    ⟨paymentId, payment', hpayment', rfl, hmethod', hpending⟩

/-- The delivery that does not. -/
theorem Delivered.cashSettled_iff (hdelivered : Delivered id orderId db db') (h : CashSettled db) :
    CashSettled db' ↔ ¬ PendingCash db orderId := by
  have hpending : ∀ id, PendingCash db' id ↔ PendingCash db id := fun id => by
    simp only [PendingCash, hdelivered.payments, Option.map_id, id_eq]
  obtain ⟨order, hget, hstatus⟩ := Option.map_eq_some_iff.mp hdelivered.order
  refine ⟨fun h' => (hpending orderId).not.mp (h' orderId order hget hstatus), ?_⟩
  intro hno id order' hget' hstatus'
  rw [hpending]
  by_cases hid : id = orderId
  · exact hid ▸ hno
  · exact h id order' ((hdelivered.orders id hid).symm.trans hget') hstatus'

theorem OrderCall.run_cashSettled (call : OrderCall) (h : CashSettled db) :
    CashSettled (call.run db) ↔
      ∀ orderId, call.overrides db = some orderId → ¬ PendingCash db orderId := by
  cases call.delivering db with
  | quiet hsettles hoverrides hkeeps =>
    refine iff_of_true (hkeeps (fun _ _ => CashSettled.put) h) fun _ hsome => ?_
    cases hoverrides.symm.trans hsome
  | settles orderId hsettles hoverrides hrun =>
    refine iff_of_true (hrun.cashSettled h) fun _ hsome => ?_
    cases hoverrides.symm.trans hsome
  | overrides orderId hsettles hoverrides hrun =>
    simp only [hoverrides, Option.some.injEq, forall_eq']
    exact hrun.cashSettled_iff h

end CashSettled

/-- No delivered order waits for its cash in any state of a run exactly when no override delivers
an order that does. -/
theorem delivered_cash_settled {db : Store} (h : CashSettled db) (calls : List OrderCall) :
    Always OrderCall.run CashSettled calls db ↔ MeetAll OrderCall.run
      (fun call db => ∀ orderId, call.overrides db = some orderId → ¬ PendingCash db orderId)
        calls db :=
  always_iff_of_step (fun call _ h => call.run_cashSettled h) calls h

def cashPayment : Payment :=
  CheckoutPaymentProfile.payment ⟨.cashOnDelivery, .cod, .pending⟩ 1 1 4900 "k"

/-- An order that is to be picked up and paid for in cash. -/
def cashShop : Store := orderShop.apply [
  ⟨.order, 1, some { teaOrder with deliveryType := .pickup }⟩,
  ⟨.payment, 1, some cashPayment⟩]

theorem cashSettled_cashShop : CashSettled cashShop := by
  intro orderId order hget hdelivered
  have hplaced : ∀ o ∈ cashShop.list .order fun _ => true, o.2.status ≠ .delivered := by decide
  exact absurd hdelivered (hplaced (orderId, order) (Db.mem_list.mpr ⟨hget, rfl⟩))

/-- The administrator delivers the order, and its cash is never settled. -/
theorem overridden_not_settled : ¬ Always OrderCall.run CashSettled
    [.adminOverride teaAdmin 1 .delivered "collected" none] cashShop := by
  rintro ⟨-, hsettled⟩
  have horder : ∃ order, ((OrderCall.adminOverride teaAdmin 1 .delivered "collected" none).run
      cashShop).get (.order, 1) = some order ∧ order.status = .delivered := ⟨_, rfl, rfl⟩
  have hpayment : ((OrderCall.adminOverride teaAdmin 1 .delivered "collected" none).run
      cashShop).get (.payment, 1) = some cashPayment := by decide
  obtain ⟨order, hget, hdelivered⟩ := horder
  exact hsettled 1 order hget hdelivered ⟨1, cashPayment, hpayment, rfl, rfl, rfl⟩

/-- The merchant sees to the order until it is picked up. -/
def pickedUp : List OrderCall := [
  .merchant .accept teaMerchant 1 none none,
  .merchant .preparing teaMerchant 1 none none,
  .merchant .ready teaMerchant 1 none none,
  .merchant .confirmPickup teaMerchant 1 none none]

theorem delivered_cash_settled_teaShop : Always OrderCall.run CashSettled pickedUp cashShop ∧
    statusIn 1 (runAll OrderCall.run pickedUp cashShop) = some .delivered := by
  have hnone : ∀ {o : Option Id} {P : Id → Prop}, o = none → ∀ id, o = some id → P id :=
    fun hnone _ hsome => by cases hnone.symm.trans hsome
  refine ⟨(delivered_cash_settled cashSettled_cashShop pickedUp).mpr ?_, by decide⟩
  exact ⟨hnone rfl, hnone rfl, hnone rfl, hnone rfl, True.intro⟩

/-! ## The last attempt has the payment's status -/

section Mirrored

variable {round : ℚ → ℚ}

theorem createCheckoutPaymentIntent_mirrored (paymentId orderId customerProfileId : Id)
    (amount : ℚ) (input : SubmitCheckoutInput) :
    (createCheckoutPaymentIntent paymentId orderId customerProfileId amount input).Writes
      MirroredWrite :=
  .bind (.ofExcept _) fun profile => .bind (.insertRow ⟨_, rfl, profile.mirrored_payment ..⟩)
    fun _ => .ret _

theorem placeOrder_mirrored (ids : CheckoutIds) (input : SubmitCheckoutInput)
    (context : CheckoutContext) (cartId : Id) (pricing : CheckoutPricingBreakdown) :
    (placeOrder round ids input context cartId pricing).Writes MirroredWrite := by
  refine .bind .check fun lines => .bind ((reserveLines_writes _ _).mono fun _ hw =>
    .of_ne hw.table_ne.2.2) fun reserved => .bind (.insertRow True.intro) fun _ =>
      .bind (createCheckoutPaymentIntent_mirrored ..) fun _ => .bind ?_ fun _ => .bind ?_ fun _ =>
        .ret _
  · exact (updateCart_writes _ _).mono fun _ hw => .of_ne (by simp [hw])
  · exact (createAppliedUsage_writes ..).mono fun _ hw => .of_ne (by simp [hw])

theorem submitOrder_mirrored (ids : CheckoutIds) (currentUser : AuthenticatedUser)
    (input : SubmitCheckoutInput) (context : CheckoutContext) (cartId : Id)
    (pricing : CheckoutPricingBreakdown) :
    (submitOrder round ids currentUser input context cartId pricing).Writes MirroredWrite := by
  refine .bind .read fun existing => ?_
  cases existing with
  | none => exact placeOrder_mirrored ..
  | some existing =>
    refine .bind (.ofExcept _) fun _ => .bind (.bind .read fun found => ?_) fun _ => .ret _
    cases found with
    | some payment => exact .ret _
    | none => exact createCheckoutPaymentIntent_mirrored ..

theorem tryResolveReplayAfterUniqueConstraint_mirrored (ids : CheckoutIds)
    (input : SubmitCheckoutInput) (context : CheckoutContext) (error : Failure) :
    (tryResolveReplayAfterUniqueConstraint ids input context error).Writes MirroredWrite := by
  rw [tryResolveReplayAfterUniqueConstraint]
  split
  · exact (show (Service.throw error : StoreService CheckoutSubmission).ReadOnly from
      True.intro).writes
  · refine .bind (.get _) fun _ => .bind (.orFail _ _) fun existing =>
      .bind (Service.ReadOnly.ofExcept _).writes fun _ => .bind (.get _) fun found => ?_
    cases found with
    | some payment => exact .ret _
    | none => exact .bind (.transaction (createCheckoutPaymentIntent_mirrored ..)) fun _ => .ret _

theorem SubmitCall.writes_mirrored (call : SubmitCall) :
    (call.service round).Writes MirroredWrite := by
  refine .bind (getValidatedCurrentCustomerCheckoutContext_readOnly _ _).writes fun _ =>
    .bind (buildPricingBreakdown_readOnly ..).writes fun _ => .tx (submitOrder_mirrored ..)
      fun outcome => ?_
  cases outcome with
  | ok submission => exact .ret _
  | error error => exact tryResolveReplayAfterUniqueConstraint_mirrored ..

end Mirrored

/-- The operations that make payments and change them. -/
inductive PaymentCall
  | checkout (call : SubmitCall)
  | order (call : OrderCall)

def PaymentCall.run (round : ℚ → ℚ) : PaymentCall → Store → Store
  | checkout call, db => ((call.service round).run db).2
  | order call, db => call.run db

/-- The order whose cash the call settles. -/
def PaymentCall.settles (db : Store) : PaymentCall → Option Id
  | checkout _ => none
  | order call => call.settles db

section AttemptsMirror

variable {db db' : Store} {orderId : Id}

theorem Delivered.attemptsMirror (hdelivered : Delivered id orderId db db')
    (h : AttemptsMirror db) : AttemptsMirror db' := fun paymentId payment hget =>
  h paymentId payment (by rw [← hget, hdelivered.payments, Option.map_id, id])

/-- The payment that is settled is still pending by its last attempt. -/
theorem Delivered.attemptsMirror_iff (hdelivered : Delivered (settled orderId) orderId db db')
    (h : AttemptsMirror db) : AttemptsMirror db' ↔ ¬ PendingCash db orderId := by
  constructor
  · rintro hmirror ⟨paymentId, payment, hget, hof, hmethod, hpending⟩
    have hsettled : settled orderId payment = { payment with status := .succeeded } :=
      if_pos ⟨hof, hmethod, hpending⟩
    have hafter : (settled orderId payment).Mirrored :=
      hmirror paymentId _ (by rw [hdelivered.payments, hget, Option.map_some])
    have hbefore : payment.attempts.getLast?.map (·.status) = some payment.status :=
      h paymentId payment hget
    rw [hsettled, Payment.Mirrored, hbefore, hpending] at hafter
    cases hafter
  · intro hno paymentId payment hget
    obtain ⟨payment', hget', rfl⟩ := Option.map_eq_some_iff.mp
      ((hdelivered.payments paymentId).symm.trans hget)
    have hsame : settled orderId payment' = payment' :=
      if_neg fun hcash => hno ⟨paymentId, payment', hget', hcash⟩
    exact hsame.symm ▸ h paymentId payment' hget'

theorem PaymentCall.run_attemptsMirror {round : ℚ → ℚ} (call : PaymentCall)
    (h : AttemptsMirror db) : AttemptsMirror (call.run round db) ↔
      ∀ orderId, call.settles db = some orderId → ¬ PendingCash db orderId := by
  cases call with
  | checkout call =>
    refine iff_of_true ?_ fun _ hsome => by cases hsome
    exact call.writes_mirrored.run (fun _ _ h hw => h.put hw) h
  | order call =>
    cases call.delivering db with
    | quiet hsettles hoverrides hkeeps =>
      refine iff_of_true (hkeeps (fun _ _ h hw => h.put hw.mirrored) h) fun _ hsome => ?_
      cases hsettles.symm.trans hsome
    | settles orderId hsettles hoverrides hrun =>
      simp only [PaymentCall.settles, hsettles, Option.some.injEq, forall_eq']
      exact hrun.attemptsMirror_iff h
    | overrides orderId hsettles hoverrides hrun =>
      refine iff_of_true (hrun.attemptsMirror h) fun _ hsome => ?_
      cases hsettles.symm.trans hsome

end AttemptsMirror

/-- The last attempt of every payment has its status in all the states of a run exactly when
no delivery settles cash. -/
theorem attempts_mirror_payments {db : Store} (round : ℚ → ℚ) (h : AttemptsMirror db)
    (calls : List PaymentCall) :
    Always (PaymentCall.run round) AttemptsMirror calls db ↔ MeetAll (PaymentCall.run round)
      (fun call db => ∀ orderId, call.settles db = some orderId → ¬ PendingCash db orderId)
        calls db :=
  always_iff_of_step (fun call _ h => call.run_attemptsMirror h) calls h

theorem attemptsMirror_cashShop : AttemptsMirror cashShop := by
  intro paymentId payment hget
  have hall : ∀ p ∈ cashShop.list .payment fun _ => true, p.2.Mirrored := by decide
  exact hall (paymentId, payment) (Db.mem_list.mpr ⟨hget, rfl⟩)

/-- Once the order is picked up, its payment has succeeded and its one attempt is pending. -/
theorem settled_without_attempt :
    ¬ Always (PaymentCall.run id) AttemptsMirror (pickedUp.map .order) cashShop := by
  rintro ⟨-, -, -, -, hmirror⟩
  have hpayment : (runAll OrderCall.run pickedUp cashShop).get (.payment, 1) =
      some { cashPayment with status := .succeeded } := by decide
  exact absurd (hmirror 1 _ hpayment) (by decide)

/-- The customer cancels instead, and the payment fails. -/
theorem attempts_mirror_payments_teaShop : Always (PaymentCall.run id) AttemptsMirror [
    .order (.payment .fail teaAdmin ⟨1, none, none, none, none, none, none, false⟩),
    .order (.customerCancel teaCustomer 1 none none)] cashShop := by
  have hnone : ∀ {o : Option Id} {P : Id → Prop}, o = none → ∀ id, o = some id → P id :=
    fun hnone _ hsome => by cases hnone.symm.trans hsome
  exact (attempts_mirror_payments id attemptsMirror_cashShop _).mpr
    ⟨hnone rfl, hnone rfl, True.intro⟩

end WerTe
