import Mathlib.Logic.Relation
import WerTe.PaymentLifecycle
import WerTe.ReadCommitted.Sequential
import WerTe.RiderOperations
import WerTe.StockRelease

/-!
# What the operations on orders do, step by step

`OrderCall` is any of the operations that change an order's status or its delivery.
`OrderStep call` says once what one transaction of such an operation can do to the store,
with everything it has checked, and `OrderCall.run_steps` that an operation run alone does
nothing else. The invariants of sequential runs are then read off the steps.
-/

namespace WerTe

open ReadCommitted OrdersRepository DeliveriesRepository DispatchRepository Tx

/-! ## The operations -/

inductive MerchantAction
  | accept | reject | preparing | ready | confirmPickup
deriving DecidableEq, Repr

def MerchantAction.config : MerchantAction → MerchantActionConfig
  | accept => acceptConfig
  | reject => rejectConfig
  | preparing => preparingConfig
  | ready => readyConfig
  | confirmPickup => confirmPickupConfig

inductive RiderAction
  | accept | reject | pickedUp | onTheWay | delivered | fail | cancel
deriving DecidableEq, Repr

namespace RiderAction

def service (currentUser : AuthenticatedUser) (input : RiderDeliveryActionInput) :
    RiderAction → StoreService Unit
  | accept => acceptCurrentRiderDeliveryRequest currentUser input
  | reject => rejectCurrentRiderDeliveryRequest currentUser input
  | pickedUp => markCurrentRiderPickedUp currentUser input
  | onTheWay => markCurrentRiderOnTheWay currentUser input
  | delivered => markCurrentRiderDelivered currentUser input
  | fail => failCurrentRiderDelivery currentUser input
  | cancel => cancelCurrentRiderDelivery currentUser input

/-- What the action requires of the delivery and its order. -/
def can : RiderAction → AuthenticatedUser → DeliveryDetailRecord → Bool
  | accept => canRiderAcceptDeliveryRequest
  | reject => canRiderRejectDeliveryRequest
  | pickedUp => canRiderMarkDeliveryPickedUp
  | onTheWay => canRiderMarkDeliveryOnTheWay
  | delivered => canRiderMarkDeliveryDelivered
  | fail => canRiderMarkDeliveryFailed
  | cancel => canRiderCancelPrePickup

/-- The status the action gives the order. -/
def orderStatus : RiderAction → OrderStatus
  | accept => .riderAccepted
  | reject => .merchantAccepted
  | pickedUp => .pickedUp
  | onTheWay => .onTheWay
  | delivered => .delivered
  | fail => .failedDelivery
  | cancel => .merchantAccepted

/-- What the action does to the delivery. -/
def update (delivery : Delivery) : RiderAction → Delivery
  | accept => { delivery with status := .accepted }
  | reject => { delivery with riderId := none, status := .pendingAssignment }
  | pickedUp => { delivery with status := .pickedUp }
  | onTheWay => { delivery with status := .onTheWay }
  | delivered => { delivery with status := .delivered }
  | fail => { delivery with status := .failed }
  | cancel => { delivery with riderId := none, status := .pendingAssignment }

end RiderAction

inductive PaymentAction
  | confirm | fail | cancel | expire
deriving DecidableEq, Repr

def PaymentAction.config : PaymentAction → PaymentLifecycleConfig
  | confirm => confirmPaymentConfig
  | fail => failPaymentConfig
  | cancel => cancelPaymentConfig
  | expire => expirePaymentConfig

/-- The operations that change an order's status or its delivery. -/
inductive OrderCall
  | customerCancel (currentUser : AuthenticatedUser) (orderId : Id) (reasonCode note : Option String)
  | merchant (action : MerchantAction) (currentUser : AuthenticatedUser) (orderId : Id)
      (reasonCode note : Option String)
  | adminCancel (currentUser : AuthenticatedUser) (orderId : Id) (reasonCode note : Option String)
  | adminOverride (currentUser : AuthenticatedUser) (orderId : Id) (status : OrderStatus)
      (reasonCode : String) (note : Option String)
  | merchantTimeout (orderId : Id)
  | riderTimeout (orderId : Id)
  | rider (action : RiderAction) (currentUser : AuthenticatedUser)
      (input : RiderDeliveryActionInput)
  | assignRider (newDeliveryId : Id) (currentUser : AuthenticatedUser) (orderId riderId : Id)
      (reasonCode note : Option String)
  | autoDispatchOrder (ids : AssignmentIds) (orderId : Id)
  | autoDispatchForRider (ids : AssignmentIds) (riderId : Id) (township : Option String)
  | dispatchTimeout (ids : AssignmentIds) (orderId attemptId : Id)
  | payment (action : PaymentAction) (currentUser : AuthenticatedUser)
      (input : PaymentLifecycleInput)

namespace OrderCall

def service : OrderCall → StoreService Unit
  | customerCancel currentUser orderId reasonCode note =>
    cancelCurrentCustomerOrder currentUser orderId reasonCode note
  | merchant action currentUser orderId reasonCode note =>
    handleMerchantAction currentUser orderId reasonCode note action.config
  | adminCancel currentUser orderId reasonCode note =>
    cancelAdminOrder currentUser orderId reasonCode note
  | adminOverride currentUser orderId status reasonCode note =>
    overrideAdminOrderStatus currentUser orderId status reasonCode note
  | merchantTimeout orderId => handleMerchantTimeout orderId
  | riderTimeout orderId => handleRiderTimeout orderId
  | rider action currentUser input => action.service currentUser input
  | assignRider newDeliveryId currentUser orderId riderId reasonCode note =>
    assignRiderToOrder newDeliveryId currentUser orderId riderId reasonCode note
  | autoDispatchOrder ids orderId => handleAutoDispatchOrder ids orderId
  | autoDispatchForRider ids riderId township => handleAutoDispatchForRider ids riderId township
  | dispatchTimeout ids orderId attemptId => handleRiderDispatchTimeout ids orderId attemptId
  | payment action currentUser input => handlePaymentTransition currentUser input action.config

/-- The store after the operation has run alone. -/
def run (call : OrderCall) (db : Store) : Store := (call.service.run db).2

end OrderCall

/-! ## The changes of status -/

/-- An order is prepared once it is accepted, by a rider too if it is to be delivered. -/
def Prepares (order : Order) (target : OrderStatus) : Prop :=
  target = .preparing ∧
    (order.deliveryType = .pickup ∧ order.status = .merchantAccepted ∨
      order.deliveryType ≠ .pickup ∧ order.status = .riderAccepted)

/-- The changes of status that an action of the merchant makes. Accepting may go on to
prepare the order and to mark it as ready. -/
def MerchantAction.Moves (order : Order) (target : OrderStatus) : MerchantAction → Prop
  | accept => order.status = .placed ∧ target = .merchantAccepted ∨ Prepares order target ∨
      order.status = .preparing ∧ target = .ready
  | reject => order.status = .placed ∧ target = .merchantRejected
  | preparing => Prepares order target
  | ready => order.status = .preparing ∧ target = .ready
  | confirmPickup => order.deliveryType = .pickup ∧ order.status = .ready ∧ target = .delivered

/-- The store with an attempt's outcome written. -/
def resolved (db : Store) (attemptId : Id) (outcomeCode : DispatchOutcomeCode) : Store :=
  match db.get (.orderDispatchAttempt, attemptId) with
  | some attempt =>
    db.put ⟨.orderDispatchAttempt, attemptId, some { attempt with outcomeCode := outcomeCode }⟩
  | none => db

/-- The attempt is pending, and the order with a rider who has not answered. -/
def TimesOut (db : Store) (orderId attemptId : Id) : Prop :=
  (∃ attempt, db.get (.orderDispatchAttempt, attemptId) = some attempt ∧
    attempt.outcomeCode = .pending) ∧ (findAssignedOrder db orderId).isSome

/-- The changes of status that an operation, begun in `start`, makes to an order of its own
accord, with what it has checked. Those that go with a delivery's are not among them. -/
def OrderCall.Moves (start db : Store) (orderId : Id) (order : Order) (target : OrderStatus) :
    OrderCall → Prop
  | customerCancel currentUser orderId' _ _ => orderId = orderId' ∧
      order.status ∈ customerCancellableStatuses ∧ target = .cancelled ∧
        (findOrderDetailById start orderId').any (canCancelCustomerOrder currentUser) = true
  | merchant action _ orderId' _ _ => orderId = orderId' ∧ action.Moves order target
  | adminCancel currentUser orderId' _ _ => orderId = orderId' ∧
      order.status ∈ adminCancellableStatuses ∧ target = .cancelled ∧ currentUser.role = .admin
  | adminOverride currentUser orderId' status reasonCode _ => orderId = orderId' ∧
      target = status ∧ order.status ≠ status ∧ currentUser.role = .admin ∧
        (normalizeOptionalString (some reasonCode)).isSome
  | merchantTimeout orderId' => orderId = orderId' ∧ order.status = .placed ∧ target = .cancelled
  | riderTimeout orderId' => orderId = orderId' ∧ order.status = .merchantAccepted ∧
      target = .cancelled
  | autoDispatchOrder _ orderId' => orderId = orderId' ∧ order.status = .merchantAccepted ∧
      target = .cancelled ∧ maxFailedAttempts ≤ countFailedAttempts start orderId
  | dispatchTimeout _ orderId' attemptId => orderId = orderId' ∧ order.status = .merchantAccepted ∧
      target = .cancelled ∧ TimesOut start orderId' attemptId ∧
        maxFailedAttempts ≤ countFailedAttempts (resolved start attemptId .timeout) orderId
  | payment action _ input => (∃ payment, db.get (.payment, input.paymentId) = some payment ∧
      orderId = payment.orderId) ∧ action ≠ .confirm ∧ order.status = .placed ∧ target = .cancelled
  | rider .. | assignRider .. | autoDispatchForRider .. => False

/-- The assignments that an operation, begun in `start`, makes, with what it has checked. -/
def OrderCall.Assigns (start db : Store) (orderId riderId : Id) (order : Order) : OrderCall → Prop
  | assignRider _ currentUser orderId' riderId' _ _ => orderId = orderId' ∧ riderId = riderId' ∧
      (order.status = .merchantAccepted ∨ order.status = .riderAssigned) ∧
        currentUser.role = .admin
  | autoDispatchOrder _ orderId' => orderId = orderId' ∧ order.status = .merchantAccepted ∧
      countActiveDeliveries db riderId = 0
  | dispatchTimeout _ orderId' attemptId => orderId = orderId' ∧
      order.status = .merchantAccepted ∧ countActiveDeliveries db riderId = 0 ∧
        TimesOut start orderId' attemptId
  | autoDispatchForRider _ riderId' _ => riderId = riderId' ∧
      order.status = .merchantAccepted ∧ order.deliveryType = .delivery ∧
        countActiveDeliveries db riderId = 0
  | _ => False

/-! ## The steps -/

/-- The stock that a change of status gives back: the order's, if the change releases it and
the order can be read with its relations. -/
def givenBackBy (db : Store) (orderId : Id) (order : Order) (target : OrderStatus) : Amounts :=
  if shouldReleaseInventoryForOrderTransition order.status target = true ∧
      (findOrderDetailById db orderId).isSome then order.reserved
  else 0

/-- What one transaction of an operation does to the store. -/
inductive OrderStep (call : OrderCall) (start db : Store) : Store → Prop
  /-- the order's status changes, and its stock is given back if the change says so -/
  | status {db' : Store} {orderId : Id} {order : Order} {payload : UpdateOrderStatusInput}
      (horder : db.get (.order, orderId) = some order)
      (hfrom : payload.fromStatus = order.status)
      (hmoves : call.Moves start db orderId order payload.status)
      (hchanged : OrderChanged (fun k => (db.get k).isSome) orderId payload
        (givenBackBy db orderId order payload.status) db db') : OrderStep call start db db'
  /-- a rider moves a delivery and its order -/
  | rider {action : RiderAction} {currentUser : AuthenticatedUser}
      {input : RiderDeliveryActionInput} {delivery : Delivery} {order : Order}
      {payload : UpdateOrderStatusInput}
      (hcall : call = .rider action currentUser input)
      (hdelivery : db.get (.delivery, input.deliveryId) = some delivery)
      (horder : db.get (.order, delivery.orderId) = some order)
      (hcan : action.can currentUser ⟨input.deliveryId, delivery, order.status⟩ = true)
      (hfrom : payload.fromStatus = order.status) (hto : payload.status = action.orderStatus) :
      OrderStep call start db ((db.put ⟨.delivery, input.deliveryId, some (action.update delivery)⟩).put
        ⟨.order, delivery.orderId, some (order.changeStatus payload)⟩)
  /-- an order is taken back from its rider -/
  | reset {ids : AssignmentIds} {orderId attemptId deliveryId : Id} {delivery : Delivery}
      {order : Order} {payload : UpdateOrderStatusInput}
      (hcall : call = .dispatchTimeout ids orderId attemptId)
      (htimeout : TimesOut start orderId attemptId)
      (hdelivery : db.get (.delivery, deliveryId) = some delivery)
      (hof : delivery.orderId = orderId) (hassigned : delivery.status = .assigned)
      (horder : db.get (.order, orderId) = some order) (hstatus : order.status = .riderAssigned)
      (hfrom : payload.fromStatus = order.status) (hto : payload.status = .merchantAccepted) :
      OrderStep call start db ((db.put ⟨.delivery, deliveryId,
          some { delivery with riderId := none, status := .pendingAssignment }⟩).put
        ⟨.order, orderId, some (order.changeStatus payload)⟩)
  /-- an order is given to a rider -/
  | assign {deliveryId orderId riderId : Id} {order : Order} {payload : UpdateOrderStatusInput}
      (hdelivery : (∃ delivery, findByOrderId db orderId = some (deliveryId, delivery)) ∨
        findByOrderId db orderId = none ∧ db.get (.delivery, deliveryId) = none)
      (horder : db.get (.order, orderId) = some order)
      (hassigns : call.Assigns start db orderId riderId order)
      (hfrom : payload.fromStatus = order.status) (hto : payload.status = .riderAssigned) :
      OrderStep call start db
        ((db.put ⟨.delivery, deliveryId, some ⟨orderId, some riderId, .assigned⟩⟩).put
          ⟨.order, orderId, some (order.changeStatus payload)⟩)
  /-- an attempt at dispatch is recorded, or its outcome is -/
  | attempt (attemptId : Id) (attempt : OrderDispatchAttempt) :
      OrderStep call start db (db.put ⟨.orderDispatchAttempt, attemptId, some attempt⟩)
  /-- payments are written, which stay with their orders; so are the locks -/
  | rest {db' : Store}
      (hrest : ∀ k, k.1 ≠ .payment → k.1 ≠ .advisoryLock → db'.get k = db.get k)
      (hpayment : ∀ id, (db'.get (.payment, id)).map Payment.orderId =
        (db.get (.payment, id)).map Payment.orderId) : OrderStep call start db db'

/-- An operation's steps, one after the other. -/
abbrev OrderSteps (call : OrderCall) (start : Store) : Store → Store → Prop :=
  Relation.ReflTransGen (OrderStep call start)

/-! ## Transactions run alone -/

section Transactions

variable {db db' : Store}

theorem changeOrderStatus_run {record : OrderDetailRecord} {payload : UpdateOrderStatusInput}
    {u : Unit} (hrecord : findOrderDetailById db record.id = some record)
    (hfrom : payload.fromStatus = record.order.status)
    (h : (changeOrderStatus record payload).run db = .ok (u, db')) :
    OrderChanged (fun k => (db.get k).isSome) record.id payload
      (givenBackBy db record.id record.order payload.status) db db' := by
  have hcommits : Triple (fun d : Store => ∀ k, (db.get k).isSome → (d.get k).isSome) .fresh
      (changeOrderStatus record payload) fun _ => .commits fun _ d d' =>
        OrderChanged (fun k => (db.get k).isSome) record.id payload (givenBack record payload) d d' :=
    (changeOrderStatus_commits (S := fun _ => True) fun _ hd => hd).conseq
      (fun _ _ _ _ hfresh => ⟨hfresh, True.intro⟩)
      fun _ _ _ _ _ hc d hd hag => (hc d hd hag).2
  obtain ⟨_, ws, rfl, hc⟩ := hcommits.run (fun _ hk => hk) h
  have hchanged := hc db (fun _ hk => hk) (.refl ws db)
  have hamount : givenBack record payload = givenBackBy db record.id record.order payload.status := by
    simp [givenBack, givenBackBy, hrecord, hfrom]
  rwa [hamount] at hchanged

theorem updateOrderStatus_run {orderId : Id} {payload : UpdateOrderStatusInput} {u : Unit}
    (h : (updateOrderStatus orderId payload).run db = .ok (u, db')) :
    ∃ order, db.get (.order, orderId) = some order ∧
      db' = db.put ⟨.order, orderId, some (order.changeStatus payload)⟩ := run_updateExisting_ok h

/-- A delivery and its order, each written whatever it was. -/
theorem moveDelivery_run {record : DeliveryDetailRecord} {data : Delivery → Delivery}
    {payload : UpdateOrderStatusInput} {u : Unit}
    (hrecord : findById db record.id = some record)
    (h : (moveDelivery record data payload).run db = .ok (u, db')) :
    ∃ order, db.get (.delivery, record.id) = some record.delivery ∧
      db.get (.order, record.delivery.orderId) = some order ∧ order.status = record.orderStatus ∧
      db' = (db.put ⟨.delivery, record.id, some (data record.delivery)⟩).put
        ⟨.order, record.delivery.orderId, some (order.changeStatus payload)⟩ := by
  obtain ⟨u', db₁, hdelivery, horder⟩ := run_bind_ok h
  obtain ⟨delivery, hget, rfl⟩ := run_updateExisting_ok hdelivery
  obtain ⟨order, hget', rfl⟩ := updateOrderStatus_run horder
  obtain ⟨-, hdelivery', order', horder', hstatus⟩ := get_of_findById hrecord
  obtain rfl : record.delivery = delivery := Option.some.inj (hdelivery'.symm.trans hget)
  have hother : (db.put ⟨.delivery, record.id, some (data record.delivery)⟩).get
      (.order, record.delivery.orderId) = db.get (.order, record.delivery.orderId) :=
    Db.get_put_ne _ fun hk => by cases hk
  obtain rfl : order' = order := Option.some.inj (horder'.symm.trans (hother.symm.trans hget'))
  exact ⟨order', hget, horder', hstatus.symm, rfl⟩

theorem orderChanged_put {orderId : Id} {order : Order} {payload : UpdateOrderStatusInput}
    (horder : db.get (.order, orderId) = some order) :
    OrderChanged (fun k => (db.get k).isSome) orderId payload 0 db
      (db.put ⟨.order, orderId, some (order.changeStatus payload)⟩) := by
  have hself : (db.put ⟨.order, orderId, some (order.changeStatus payload)⟩).get (.order, orderId) =
      some (order.changeStatus payload) := Db.get_put_self ..
  have hother : ∀ k, k ≠ (.order, orderId) →
      (db.put ⟨.order, orderId, some (order.changeStatus payload)⟩).get k = db.get k :=
    fun k hk => Db.get_put_ne _ hk
  refine ⟨⟨order, horder, hself⟩, fun k hk _ => ?_, fun k => ?_⟩
  · rw [hother k hk]
    exact (Accumulates.map_amend_zero (db.get k)).symm
  · by_cases hk : k = (.order, orderId)
    · rw [hk, hself, horder]
      rfl
    · rw [hother k hk]

theorem assignDelivery_run {newDeliveryId orderId riderId : Id} {payload : UpdateOrderStatusInput}
    {u : Unit} (h : (assignDelivery newDeliveryId orderId riderId payload).run db = .ok (u, db')) :
    ∃ deliveryId order, ((∃ delivery, findByOrderId db orderId = some (deliveryId, delivery)) ∨
        findByOrderId db orderId = none ∧ db.get (.delivery, deliveryId) = none) ∧
      db.get (.order, orderId) = some order ∧
      db' = (db.put ⟨.delivery, deliveryId, some ⟨orderId, some riderId, .assigned⟩⟩).put
        ⟨.order, orderId, some (order.changeStatus payload)⟩ := by
  obtain ⟨u', db₁, hupsert, hupdate⟩ := run_bind_ok h
  obtain ⟨order, horder, rfl⟩ := updateOrderStatus_run hupdate
  rw [upsertAssignedDelivery, attempt, Tx.run] at hupsert
  have hother : ∀ w : Write Row, w.table = .delivery →
      (db.put w).get (.order, orderId) = db.get (.order, orderId) := fun w hw =>
    Db.get_put_ne _ fun hk => by
      have htable : Tbl.order = w.table := congrArg Prod.fst hk
      rw [hw] at htable
      cases htable
  cases hfind : findByOrderId db orderId with
  | some found =>
    obtain ⟨deliveryId, delivery⟩ := found
    obtain ⟨-, rfl⟩ := get_of_findByOrderId hfind
    rw [hfind] at hupsert
    cases hupsert
    rw [Db.apply_cons, Db.apply_nil, hother _ rfl] at horder
    exact ⟨deliveryId, order, .inl ⟨delivery, rfl⟩, horder, rfl⟩
  | none =>
    rw [hfind] at hupsert
    by_cases hnew : (db.get (.delivery, newDeliveryId)).isSome
    · simp [hnew] at hupsert
    · simp only [hnew] at hupsert
      cases hupsert
      rw [Db.apply_cons, Db.apply_nil, hother _ rfl] at horder
      exact ⟨newDeliveryId, order, .inr ⟨rfl, Option.not_isSome_iff_eq_none.mp hnew⟩, horder, rfl⟩

theorem settleCashOnDelivery_step {call : OrderCall} {start : Store} {orderId : Id} {u : Unit}
    (h : (settleCashOnDelivery orderId).run db = .ok (u, db')) : OrderStep call start db db' := by
  cases h
  have hwrites : ∀ ws : List (Id × Payment),
      (∀ p ∈ ws, (db.get (.payment, p.1)).map Payment.orderId = some p.2.orderId) →
      ∀ d : Store, (∀ k, k.1 ≠ .payment → k.1 ≠ .advisoryLock → d.get k = db.get k) →
        (∀ id, (d.get (.payment, id)).map Payment.orderId =
          (db.get (.payment, id)).map Payment.orderId) →
        OrderStep call start db (d.apply (ws.map fun p =>
          ⟨.payment, p.1, some { p.2 with status := .succeeded }⟩)) := by
    intro ws
    induction ws with
    | nil => exact fun _ d hrest hpayment => .rest hrest hpayment
    | cons p ws ih =>
      intro hmem d hrest hpayment
      refine ih (fun q hq => hmem q (List.mem_cons_of_mem _ hq)) _ (fun k hk hlock => ?_)
        fun id => ?_
      · rw [Db.get_put_ne d fun hkey => hk (congrArg Prod.fst hkey)]
        exact hrest k hk hlock
      · by_cases hid : id = p.1
        · subst hid
          have hself : (d.put ⟨.payment, p.1, some { p.2 with status := .succeeded }⟩).get
              (.payment, p.1) = some { p.2 with status := .succeeded } := Db.get_put_self ..
          rw [hself, hmem p List.mem_cons_self]
          rfl
        · have hne : (d.put ⟨.payment, p.1, some { p.2 with status := .succeeded }⟩).get
              (.payment, id) = d.get (.payment, id) :=
            Db.get_put_ne _ fun hkey => hid (congrArg Prod.snd hkey)
          rw [hne]
          exact hpayment id
  refine hwrites _ (fun p hp => ?_) db (fun _ _ _ => rfl) fun _ => rfl
  rw [(Db.mem_list.mp hp).1]
  rfl

end Transactions

/-! ## Operations run alone -/

section Operations

variable {call : OrderCall} {start db : Store}

theorem status_step {orderId : Id} {record : OrderDetailRecord} {payload : UpdateOrderStatusInput}
    {db' : Store} {u : Unit} (hrecord : findOrderDetailById db orderId = some record)
    (hfrom : payload.fromStatus = record.order.status)
    (hmoves : call.Moves start db orderId record.order payload.status)
    (h : (changeOrderStatus record payload).run db = .ok (u, db')) : OrderStep call start db db' := by
  obtain ⟨horder, rfl⟩ := get_of_findOrderDetailById hrecord
  exact .status horder hfrom hmoves (changeOrderStatus_run hrecord hfrom h)

theorem status_steps {orderId : Id} {record : OrderDetailRecord} {payload : UpdateOrderStatusInput}
    (hrecord : findOrderDetailById db orderId = some record)
    (hfrom : payload.fromStatus = record.order.status)
    (hmoves : call.Moves start db orderId record.order payload.status) :
    (Service.transaction (changeOrderStatus record payload)).Ends db fun _ db' =>
      OrderSteps call start db db' :=
  .transaction (fun _ _ h => .single (status_step hrecord hfrom hmoves h)) fun _ _ => .refl

theorem merchantTransition_steps {currentUser : AuthenticatedUser} {orderId : Id}
    {reasonCode note : Option String} {config : MerchantActionConfig}
    (hmoves : ∀ record, findOrderDetailById db orderId = some record →
      config.canTransition currentUser record = true →
        call.Moves start db orderId record.order config.targetStatus) :
    (merchantTransition currentUser orderId reasonCode note config).Ends db fun _ db' =>
      OrderSteps call start db db' := by
  refine .orFail_bind (fun merchantId _ => .get_bind (.orFail_bind (fun record hrecord => ?_)
    fun _ => .refl)) fun _ => .refl
  have hfind := find_of_findMerchantOrderDetail hrecord
  split
  · exact .ret .refl
  · refine .require_bind (fun hcan => ?_) fun _ => .refl
    refine .transaction_bind (fun u db' h => .ret ?_) fun _ _ => .refl
    obtain ⟨u', db₁, hchange, hsettle⟩ := run_bind_ok h
    have hstatus : OrderStep call start db db₁ :=
      status_step hfind rfl (hmoves record hfind hcan) hchange
    split at hsettle
    · exact .tail (.single hstatus) (settleCashOnDelivery_step hsettle)
    · cases hsettle
      exact .single hstatus

/-- What the merchant's policies say of the status. -/
theorem MerchantAction.moves_of_can (action : MerchantAction) {currentUser : AuthenticatedUser}
    {record : OrderDetailRecord} (h : action.config.canTransition currentUser record = true) :
    action.Moves record.order action.config.targetStatus := by
  cases action with
  | accept => simp_all [config, acceptConfig, canMerchantAccept, Moves]
  | reject => simp_all [config, rejectConfig, canMerchantReject, Moves]
  | preparing =>
    refine ⟨rfl, ?_⟩
    by_cases hpickup : record.order.deliveryType = .pickup
    · simp_all [config, preparingConfig, canMarkPreparing]
    · simp_all [config, preparingConfig, canMarkPreparing]
  | ready => simp_all [config, readyConfig, canMarkReady, Moves]
  | confirmPickup => simp_all [config, confirmPickupConfig, canMerchantConfirmPickup, Moves]

theorem handleMerchantAction_steps (action : MerchantAction) (currentUser : AuthenticatedUser)
    (orderId : Id) (reasonCode note : Option String) (db : Store) :
    (handleMerchantAction currentUser orderId reasonCode note action.config).Ends db fun _ db' =>
      OrderSteps (.merchant action currentUser orderId reasonCode note) db db db' := by
  have htransition : ∀ (db₁ : Store) (reasonCode' note' : Option String)
      (config : MerchantActionConfig), (∀ record : OrderDetailRecord,
        config.canTransition currentUser record = true →
          action.Moves record.order config.targetStatus) →
      (merchantTransition currentUser orderId reasonCode' note' config).Ends db₁ fun _ db' =>
        OrderSteps (.merchant action currentUser orderId reasonCode note) db db₁ db' :=
    fun _ _ _ _ hmoves => merchantTransition_steps fun record _ hcan => ⟨rfl, hmoves record hcan⟩
  have hadvance : action = .accept → ∀ db₁ : Store,
      (autoAdvancePickupToReady currentUser orderId).Ends db₁ fun _ db' =>
        OrderSteps (.merchant action currentUser orderId reasonCode note) db db₁ db' := by
    rintro rfl db₁
    refine .bind_steps ((htransition db₁ _ _ _ fun record hcan => .inr (.inl ?_)).mono
      fun _ db₂ hprepared => ⟨hprepared, fun _ _ => ?_⟩)
    · exact MerchantAction.preparing.moves_of_can hcan
    · refine .bind_steps ((htransition db₂ _ _ _ fun record hcan => .inr (.inr ?_)).mono
        fun _ _ hready => ⟨hready, fun _ _ => .ret .refl⟩)
      exact MerchantAction.ready.moves_of_can hcan
  refine .bind_steps ((htransition db _ _ _ fun _ hcan => action.moves_of_can hcan).mono
    fun _ db₁ hsteps => ⟨hsteps, fun transitioned _ => ?_⟩)
  cases transitioned with
  | none => exact .ret .refl
  | some record =>
    dsimp only
    split
    · next haccepted =>
      refine hadvance ?_ db₁
      cases action <;> simp_all [MerchantAction.config, acceptConfig, rejectConfig,
        preparingConfig, readyConfig, confirmPickupConfig]
    · exact .ret .refl

theorem resolveDispatchAttempt_steps (orderId riderId : Id) (outcomeCode : DispatchOutcomeCode) :
    (resolveDispatchAttempt orderId riderId outcomeCode).Ends db fun _ db' =>
      OrderSteps call start db db' := by
  refine .get_bind ?_
  cases findPendingAttempt db orderId riderId with
  | none => exact .ret .refl
  | some attempt =>
    refine .tx (fun _ db' h => .ret ?_) fun _ _ => .ret .refl
    obtain ⟨r, -, rfl⟩ := run_updateExisting_ok h
    exact .single (.attempt ..)

theorem handleTransition_steps {action : RiderAction} {currentUser : AuthenticatedUser}
    {input : RiderDeliveryActionInput} {config : RiderDeliveryTransitionConfig}
    (hcall : call = .rider action currentUser input) (hcan : config.canTransition = action.can)
    (hto : config.targetOrderStatus = action.orderStatus)
    (hupdate : ∀ delivery, config.buildDeliveryUpdate delivery = action.update delivery) :
    (handleTransition currentUser input config).Ends db fun _ db' => OrderSteps call start db db' := by
  refine .orFail_bind (fun riderId _ => .get_bind (.orFail_bind (fun record hrecord => ?_)
    fun _ => .refl)) fun _ => .refl
  have hfind := find_of_findRiderDeliveryById hrecord
  obtain ⟨hid, -⟩ := get_of_findById hfind
  split
  · exact .ret .refl
  · refine .require_bind (fun hallowed => ?_) fun _ => .refl
    refine .bind (.mono (Q := fun _ db' => db' = db) ?_ ?_)
    · unfold riderReasonCode
      split
      · split
        · exact .ret rfl
        · exact .throw rfl
      · exact .ret rfl
    rintro (e | reasonCode) db' rfl
    · exact .refl
    refine .transaction_bind (fun u db₁ h => .get_bind ?_) fun _ _ => .refl
    have hsteps : OrderSteps call start db' db₁ := by
      obtain ⟨u', db₂, hmove, hsettle⟩ := run_bind_ok h
      rw [← hid] at hfind
      obtain ⟨order, hdelivery, horder, hstatus, rfl⟩ := moveDelivery_run hfind hmove
      rw [hid] at hdelivery
      have hpermitted : action.can currentUser
          ⟨input.deliveryId, record.delivery, order.status⟩ = true := by
        rw [hstatus, ← hcan, ← hid]
        exact hallowed
      have hmoved : ∀ payload : UpdateOrderStatusInput, payload.fromStatus = order.status →
          payload.status = action.orderStatus → OrderStep call start db'
            ((db'.put ⟨.delivery, record.id, some (config.buildDeliveryUpdate record.delivery)⟩).put
              ⟨.order, record.delivery.orderId, some (order.changeStatus payload)⟩) := by
        rw [hupdate, hid]
        exact fun _ => .rider hcall hdelivery horder hpermitted
      split at hsettle
      · exact .tail (.single (hmoved _ hstatus.symm hto)) (settleCashOnDelivery_step hsettle)
      · cases hsettle
        exact .single (hmoved _ hstatus.symm hto)
    exact .orFail (fun _ _ => hsteps) fun _ => hsteps

theorem answerRequest_steps {action : RiderAction} {currentUser : AuthenticatedUser}
    {input : RiderDeliveryActionInput} {config : RiderDeliveryTransitionConfig}
    {outcomeCode : DispatchOutcomeCode} (hcall : call = .rider action currentUser input)
    (hcan : config.canTransition = action.can)
    (hto : config.targetOrderStatus = action.orderStatus)
    (hupdate : ∀ delivery, config.buildDeliveryUpdate delivery = action.update delivery) :
    (answerRequest currentUser input config outcomeCode).Ends db fun _ db' =>
      OrderSteps call start db db' := by
  refine .orFail_bind (fun riderId _ => .get_bind (.bind_steps
    ((handleTransition_steps hcall hcan hto hupdate).mono fun _ db₁ hsteps =>
      ⟨hsteps, fun _ _ => ?_⟩))) fun _ => .refl
  cases findRiderDeliveryById db input.deliveryId riderId with
  | none => exact .ret .refl
  | some record => exact resolveDispatchAttempt_steps _ _ _

theorem cancelCurrentRiderDelivery_steps {currentUser : AuthenticatedUser}
    {input : RiderDeliveryActionInput} (hcall : call = .rider .cancel currentUser input) :
    (cancelCurrentRiderDelivery currentUser input).Ends db fun _ db' => OrderSteps call start db db' := by
  refine .orFail_bind (fun riderId _ => .get_bind (.orFail_bind (fun record hrecord => ?_)
    fun _ => .refl)) fun _ => .refl
  have hfind := find_of_findRiderDeliveryById hrecord
  obtain ⟨hid, -⟩ := get_of_findById hfind
  refine .require_bind (fun hallowed => .transaction (fun u db' h => .single ?_) fun _ _ => .refl)
    fun _ => .refl
  rw [← hid] at hfind
  obtain ⟨order, hdelivery, horder, hstatus, rfl⟩ := moveDelivery_run hfind h
  rw [hid] at hdelivery
  have hpermitted : RiderAction.cancel.can currentUser
      ⟨input.deliveryId, record.delivery, order.status⟩ = true := by
    rw [hstatus, ← hid]
    exact hallowed
  rw [hid]
  exact .rider hcall hdelivery horder hpermitted hstatus.symm rfl

/-- Every action of a rider. -/
theorem riderAction_steps (action : RiderAction) (currentUser : AuthenticatedUser)
    (input : RiderDeliveryActionInput) (db : Store) :
    (action.service currentUser input).Ends db fun _ db' =>
      OrderSteps (.rider action currentUser input) db db db' := by
  have hmark : ∀ {config : RiderDeliveryTransitionConfig},
      config.canTransition = action.can → config.targetOrderStatus = action.orderStatus →
      (∀ delivery, config.buildDeliveryUpdate delivery = action.update delivery) →
      ((handleTransition currentUser input config).bind fun _ => Service.ret ()).Ends db
        fun _ db' => OrderSteps (.rider action currentUser input) db db db' :=
    fun hcan hto hupdate => .bind_steps ((handleTransition_steps rfl hcan hto hupdate).mono
      fun _ _ hsteps => ⟨hsteps, fun _ _ => .ret .refl⟩)
  cases action with
  | accept => exact answerRequest_steps rfl rfl rfl fun _ => rfl
  | reject => exact answerRequest_steps rfl rfl rfl fun _ => rfl
  | pickedUp => exact hmark rfl rfl fun _ => rfl
  | onTheWay => exact hmark rfl rfl fun _ => rfl
  | delivered => exact hmark rfl rfl fun _ => rfl
  | fail => exact hmark rfl rfl fun _ => rfl
  | cancel => exact cancelCurrentRiderDelivery_steps rfl

/-! ### Dispatch -/

theorem autoAssign_steps {newDeliveryId orderId riderId : Id} {order : Order} {db' : Store}
    {u : Unit} (horder : db.get (.order, orderId) = some order)
    (hstatus : order.status = .merchantAccepted)
    (hassigns : ∀ db₁ : Store, countActiveDeliveries db₁ riderId = 0 →
      call.Assigns start db₁ orderId riderId order)
    (h : (autoAssign newDeliveryId orderId riderId).run db = .ok (u, db')) :
    OrderSteps call start db db' := by
  obtain ⟨_, db₁, hlock, hrest⟩ := run_bind_ok h
  cases hlock
  obtain ⟨hfree, hassign⟩ := run_require_bind_ok (run_read_bind_ok hrest)
  obtain ⟨deliveryId, order', hdelivery, horder', rfl⟩ := assignDelivery_run hassign
  have hlocked : ∀ k : Key Tbl, k.1 ≠ .advisoryLock →
      (db.apply [⟨.advisoryLock, riderId, some ()⟩]).get k = db.get k :=
    fun k hk => Db.get_put_ne _ fun hkey => hk (congrArg Prod.fst hkey)
  rw [hlocked (.order, orderId) (by simp), horder] at horder'
  cases horder'
  have hlock : OrderStep call start db (db.apply [⟨.advisoryLock, riderId, some ()⟩]) :=
    .rest (fun k _ hk => hlocked k hk) fun id => by rw [hlocked (.payment, id) (by simp)]
  have horder' := (hlocked (.order, orderId) (by simp)).trans horder
  exact .tail (.single hlock) (.assign hdelivery horder' (hassigns _ hfree) hstatus.symm rfl)

theorem assignAndNotify_steps {ids : AssignmentIds} {orderId riderId : Id} {order : Order}
    (horder : db.get (.order, orderId) = some order) (hstatus : order.status = .merchantAccepted)
    (hassigns : ∀ db₁ : Store, countActiveDeliveries db₁ riderId = 0 →
      call.Assigns start db₁ orderId riderId order) :
    (assignAndNotify ids orderId riderId).Ends db fun _ db' => OrderSteps call start db db' := by
  refine .transaction_bind (fun _ db₁ hcreate => ?_) fun _ _ => .refl
  obtain ⟨-, rfl⟩ := run_insertRow_ok hcreate
  have hattempt : OrderStep call start db _ := .attempt ids.attemptId
    ⟨orderId, riderId, .pending, ids.assignedAt⟩
  have hother : (db.put ⟨.orderDispatchAttempt, ids.attemptId,
      some ⟨orderId, riderId, .pending, ids.assignedAt⟩⟩).get (.order, orderId) =
        db.get (.order, orderId) := Db.get_put_ne _ fun hk => by cases hk
  refine .steps_trans (.single hattempt) (.tx (fun _ db₂ hassign => .ret ?_) fun _ _ => .tx
    (fun _ db₂ hresolve => .ret ?_) fun _ _ => .ret .refl)
  · exact autoAssign_steps (hother.trans horder) hstatus hassigns hassign
  · obtain ⟨r, -, rfl⟩ := run_updateExisting_ok hresolve
    exact .single (.attempt ..)

theorem pickEligibleRider_ends (township : Option String) (excludeRiderIds : List Id) :
    (pickEligibleRider township excludeRiderIds).Ends db fun _ db' => db' = db := by
  cases township with
  | some t =>
    refine .get_bind ?_
    dsimp only
    split
    · exact .ret rfl
    · exact .get_bind (.ret rfl)
  | none => exact .bind (.ret (.get_bind (.ret rfl)))

theorem dispatchNext_steps {ids : AssignmentIds} {orderId : Id} {order : Order}
    {township : Option String} (horder : db.get (.order, orderId) = some order)
    (hstatus : order.status = .merchantAccepted)
    (hmoves : maxFailedAttempts ≤ countFailedAttempts db orderId →
      call.Moves start db orderId order .cancelled)
    (hassigns : ∀ (db₁ : Store) (riderId : Id), countActiveDeliveries db₁ riderId = 0 →
      call.Assigns start db₁ orderId riderId order) :
    (dispatchNext ids orderId township).Ends db fun _ db' => OrderSteps call start db db' := by
  refine .get_bind ?_
  split
  · next hfailed =>
    refine .get_bind ?_
    cases hrecord : findOrderDetailById db orderId with
    | none => exact .ret .refl
    | some record =>
      obtain ⟨hget, -⟩ := get_of_findOrderDetailById hrecord
      obtain rfl : record.order = order := Option.some.inj (hget.symm.trans horder)
      dsimp only
      split
      · exact .ret .refl
      · exact status_steps hrecord rfl (hmoves hfailed)
  · refine .get_bind (.bind ((pickEligibleRider_ends _ _).mono ?_))
    rintro (e | rider) db' rfl
    · exact .refl
    · cases rider with
      | none => exact .ret .refl
      | some riderId => exact assignAndNotify_steps horder hstatus (hassigns · riderId)

theorem handleAutoDispatchOrder_steps (ids : AssignmentIds) (orderId : Id) (db : Store) :
    (handleAutoDispatchOrder ids orderId).Ends db fun _ db' =>
      OrderSteps (.autoDispatchOrder ids orderId) db db db' := by
  refine .get_bind ?_
  cases hfind : findOrderToDispatch db orderId with
  | none => exact .ret .refl
  | some order =>
    obtain ⟨horder, hready⟩ := Option.filter_eq_some_iff.mp hfind
    simp only [Bool.and_eq_true, beq_iff_eq] at hready
    exact dispatchNext_steps horder hready.1.1 (fun hfailed => ⟨rfl, hready.1.1, rfl, hfailed⟩)
      fun _ _ hfree => ⟨rfl, hready.1.1, hfree⟩

theorem mem_findReadyOrdersWithoutRider {township : Option String} {limit : ℕ} {o : Id × Order}
    (h : o ∈ findReadyOrdersWithoutRider db township limit) :
    db.get (.order, o.1) = some o.2 ∧ o.2.status = .merchantAccepted ∧
      o.2.deliveryType = .delivery ∧ findByOrderId db o.1 = none := by
  have hmem := (List.mem_insertionSort _).mp (List.mem_of_mem_take h)
  obtain ⟨hlisted, hfree⟩ := List.mem_filter.mp hmem
  obtain ⟨hget, hready⟩ := Db.mem_list.mp (show (o.1, o.2) ∈ _ from hlisted)
  simp only [Bool.and_eq_true, beq_iff_eq] at hready
  exact ⟨hget, hready.1.1, hready.1.2, Option.isNone_iff_eq_none.mp hfree⟩

theorem handleAutoDispatchForRider_steps (ids : AssignmentIds) (riderId : Id)
    (township : Option String) (db : Store) :
    (handleAutoDispatchForRider ids riderId township).Ends db fun _ db' =>
      OrderSteps (.autoDispatchForRider ids riderId township) db db db' := by
  have hassign : ∀ (township' : Option String) (order : Id × Order) (orders : List (Id × Order)),
      findReadyOrdersWithoutRider db township' 1 = order :: orders →
      (assignAndNotify ids order.1 riderId).Ends db fun _ db' =>
        OrderSteps (.autoDispatchForRider ids riderId township) db db db' := by
    intro township' order orders hfind
    obtain ⟨horder, hstatus, htype, -⟩ :=
      mem_findReadyOrdersWithoutRider (hfind ▸ List.mem_cons_self : order ∈ _)
    exact assignAndNotify_steps horder hstatus fun _ hfree => ⟨rfl, hstatus, htype, hfree⟩
  refine .get_bind ?_
  split
  · exact .ret .refl
  · refine .get_bind ?_
    cases hfind : findReadyOrdersWithoutRider db township 1 with
    | cons order orders => exact hassign township order orders hfind
    | nil =>
      refine .get_bind ?_
      cases hfallback : findReadyOrdersWithoutRider db none 1 with
      | cons order orders => exact hassign none order orders hfallback
      | nil => exact .ret .refl

theorem findAssignedOrder_some {orderId deliveryId : Id} {order : Order}
    (h : findAssignedOrder db orderId = some (order, deliveryId)) :
    db.get (.order, orderId) = some order ∧ order.status = .riderAssigned ∧
      ∃ delivery, db.get (.delivery, deliveryId) = some delivery ∧ delivery.orderId = orderId ∧
        delivery.status = .assigned := by
  unfold findAssignedOrder at h
  split at h
  · next order' deliveryId' delivery horder hdelivery =>
    obtain ⟨hget, hof⟩ := get_of_findByOrderId hdelivery
    split at h
    · next hassigned =>
      cases h
      exact ⟨horder, hassigned.1, delivery, hget, hof, hassigned.2⟩
    · cases h
  · cases h

theorem findAssignedOrder_resolved (orderId attemptId : Id) (outcomeCode : DispatchOutcomeCode) :
    findAssignedOrder (resolved db attemptId outcomeCode) orderId =
      findAssignedOrder db orderId := by
  unfold resolved
  split
  · have horder : ∀ r : Row .orderDispatchAttempt,
        (db.put ⟨.orderDispatchAttempt, attemptId, some r⟩).get (.order, orderId) =
          db.get (.order, orderId) := fun r => Db.get_put_ne _ fun hk => by cases hk
    have hdelivery : ∀ r : Row .orderDispatchAttempt,
        findByOrderId (db.put ⟨.orderDispatchAttempt, attemptId, some r⟩) orderId =
          findByOrderId db orderId := fun r =>
      congrArg List.head? (Db.list_put_ne db (by simp) _)
    rw [findAssignedOrder, findAssignedOrder, horder, hdelivery]
  · rfl

theorem countFailedAttempts_put {w : Write Row} (hw : Tbl.orderDispatchAttempt ≠ w.table)
    (orderId : Id) : countFailedAttempts (db.put w) orderId = countFailedAttempts db orderId := by
  rw [countFailedAttempts, countFailedAttempts, findAttempts, findAttempts, Db.list_put_ne db hw]

theorem resolveAttempt_run {attemptId : Id} {outcomeCode : DispatchOutcomeCode} {db' : Store}
    {u : Unit} (h : (resolveAttempt attemptId outcomeCode).run db = .ok (u, db')) :
    db' = resolved db attemptId outcomeCode := by
  obtain ⟨attempt, hget, rfl⟩ := run_updateExisting_ok h
  rw [resolved, hget]

theorem resetAssignment_run {orderId deliveryId : Id} {order : Order} {delivery : Delivery}
    {db' : Store} {u : Unit} (horder : db.get (.order, orderId) = some order)
    (hdelivery : db.get (.delivery, deliveryId) = some delivery)
    (h : (resetAssignment orderId deliveryId).run db = .ok (u, db')) :
    db' = (db.put ⟨.delivery, deliveryId,
        some { delivery with riderId := none, status := .pendingAssignment }⟩).put
      ⟨.order, orderId, some (order.changeStatus
        ⟨.merchantAccepted, .riderAssigned, some "rider_dispatch_timeout", none⟩)⟩ := by
  obtain ⟨_, db₁, hfirst, hsecond⟩ := run_bind_ok h
  obtain ⟨delivery', hget, rfl⟩ := run_updateExisting_ok hfirst
  obtain ⟨order', hget', rfl⟩ := updateOrderStatus_run hsecond
  obtain rfl : delivery' = delivery := Option.some.inj (hget.symm.trans hdelivery)
  have hother : ∀ r : Row .delivery, (db.put ⟨.delivery, deliveryId, some r⟩).get
      (.order, orderId) = db.get (.order, orderId) := fun r =>
    Db.get_put_ne _ fun hk => by cases hk
  obtain rfl : order' = order := Option.some.inj (hget'.symm.trans ((hother _).trans horder))
  rfl

theorem handleRiderDispatchTimeout_steps (ids : AssignmentIds) (orderId attemptId : Id)
    (db : Store) : (handleRiderDispatchTimeout ids orderId attemptId).Ends db fun _ db' =>
      OrderSteps (.dispatchTimeout ids orderId attemptId) db db db' := by
  refine .get_bind ?_
  split
  · exact .ret .refl
  next hpending =>
  refine .transaction_bind (fun _ db₁ hresolve => .steps_trans (.single ?_) (.get_bind ?_))
    fun _ _ => .refl
  · obtain ⟨r, -, rfl⟩ := run_updateExisting_ok hresolve
    exact .attempt ..
  obtain rfl := resolveAttempt_run hresolve
  rw [findAssignedOrder_resolved]
  cases hfind : findAssignedOrder db orderId with
  | none => exact .ret .refl
  | some found =>
    obtain ⟨order, deliveryId⟩ := found
    have htimeout : TimesOut db orderId attemptId := by
      refine ⟨?_, by rw [hfind]; rfl⟩
      rw [Option.all_eq_true, not_forall] at hpending
      obtain ⟨attempt, hattempt⟩ := hpending
      simp only [bne_iff_ne, ne_eq, Classical.not_imp, not_not] at hattempt
      exact ⟨attempt, hattempt.1, hattempt.2⟩
    obtain ⟨horder, hstatus, delivery, hdelivery, hof, hassigned⟩ :=
      findAssignedOrder_some ((findAssignedOrder_resolved orderId attemptId .timeout).trans hfind)
    refine .transaction_bind (fun _ db₂ hreset => ?_) fun _ _ => .refl
    obtain rfl := resetAssignment_run horder hdelivery hreset
    refine .steps_trans (.single (.reset rfl htimeout hdelivery hof hassigned horder hstatus
      hstatus.symm rfl)) (dispatchNext_steps (Db.get_put_self ..) rfl (fun hfailed => ?_)
        fun _ _ hfree => ?_)
    · rw [countFailedAttempts_put (by simp), countFailedAttempts_put (by simp)] at hfailed
      exact ⟨rfl, rfl, rfl, htimeout, hfailed⟩
    · exact ⟨rfl, rfl, hfree, htimeout⟩

/-! ### Payments -/

theorem shouldAutoCancelOrder_placed {payment : PaymentSummaryRecord} {targetStatus : PaymentStatus}
    (h : shouldAutoCancelOrder payment targetStatus = true) :
    payment.orderStatus = .placed ∧ targetStatus ≠ .succeeded := by
  unfold shouldAutoCancelOrder at h
  split at h
  · cases h
  · split at h
    · cases h
    · next htarget hplaced => exact ⟨not_not.mp hplaced, by rintro rfl; simp at htarget⟩

theorem autoCancelOrder_step {payment : PaymentSummaryRecord} {reasonCode note : Option String}
    {order : Order} {db' : Store} {u : Unit}
    (horder : db.get (.order, payment.payment.orderId) = some order)
    (hstatus : payment.orderStatus = order.status)
    (hmoves : call.Moves start db payment.payment.orderId order .cancelled)
    (h : (autoCancelOrder payment reasonCode note).run db = .ok (u, db')) :
    OrderStep call start db db' := by
  have hcancel := run_read_bind_ok h
  cases hrecord : findOrderDetailById db payment.payment.orderId with
  | some record =>
    obtain ⟨hget, hid⟩ := get_of_findOrderDetailById hrecord
    obtain rfl : record.order = order := Option.some.inj (hget.symm.trans horder)
    rw [hrecord, ← hid, hstatus] at hcancel
    exact status_step hrecord rfl hmoves hcancel
  | none =>
    rw [hrecord] at hcancel
    obtain ⟨_, db₁, hupdate, hnothing⟩ := run_bind_ok hcancel
    cases hnothing
    obtain ⟨order', hget, rfl⟩ := updateOrderStatus_run hupdate
    obtain rfl : order' = order := Option.some.inj (hget.symm.trans horder)
    have hchanged : OrderChanged (fun k => (db.get k).isSome) payment.payment.orderId
        ⟨.cancelled, payment.orderStatus, reasonCode, note⟩ 0 db _ := orderChanged_put horder
    have hnothing : givenBackBy db payment.payment.orderId order' .cancelled = 0 := by
      rw [givenBackBy, hrecord, if_neg (by simp)]
    exact .status horder hstatus hmoves (hnothing ▸ hchanged)

theorem transitionPaymentStatus_run {paymentId : Id} {payload : PaymentTransitionInput}
    {record : PaymentSummaryRecord} {db' : Store}
    (h : (PaymentsRepository.transitionPaymentStatus paymentId payload).run db = .ok (record, db')) :
    ∃ payment, db.get (.payment, paymentId) = some payment ∧
      db' = db.put ⟨.payment, paymentId, some (payment.transition payload)⟩ ∧
        PaymentsRepository.findById db' paymentId = some record := by
  obtain ⟨_, db₁, hupdate, hreload⟩ := run_bind_ok h
  obtain ⟨payment, hpayment, rfl⟩ := run_updateExisting_ok hupdate
  have hfound : (Tx.orFail _ _ : StoreTx PaymentSummaryRecord).run _ = .ok (record, db') := hreload
  obtain ⟨hfind, rfl⟩ := run_orFail_ok hfound
  exact ⟨payment, hpayment, rfl, hfind⟩

theorem payment_step {paymentId : Id} {payment payment' : Payment}
    (hpayment : db.get (.payment, paymentId) = some payment)
    (hof : payment'.orderId = payment.orderId) :
    OrderStep call start db (db.put ⟨.payment, paymentId, some payment'⟩) := by
  refine .rest (fun k hk _ => Db.get_put_ne _ fun hkey => hk (congrArg Prod.fst hkey)) fun id => ?_
  by_cases hid : id = paymentId
  · subst hid
    have hself : (db.put ⟨.payment, id, some payment'⟩).get (.payment, id) = some payment' :=
      Db.get_put_self ..
    rw [hself, hpayment, Option.map_some, Option.map_some, hof]
  · have hother : (db.put ⟨.payment, paymentId, some payment'⟩).get (.payment, id) =
        db.get (.payment, id) := Db.get_put_ne _ fun hkey => hid (congrArg Prod.snd hkey)
    rw [hother]

theorem handlePaymentTransition_steps (action : PaymentAction) (currentUser : AuthenticatedUser)
    (input : PaymentLifecycleInput) (db : Store) :
    (handlePaymentTransition currentUser input action.config).Ends db fun _ db' =>
      OrderSteps (.payment action currentUser input) db db db' := by
  refine .require_bind (fun _ => .get_bind (.orFail_bind (fun payment hpayment => ?_)
    fun _ => .refl)) fun _ => .refl
  split
  · exact .ret .refl
  refine .require_bind (fun _ => .transaction (fun _ db' h => ?_) fun _ _ => .refl) fun _ => .refl
  obtain ⟨record, db₁, htransition, hcancel⟩ := run_bind_ok h
  obtain ⟨row, hrow, hpaid, hrecord⟩ := transitionPaymentStatus_run htransition
  have hpayment : OrderStep (.payment action currentUser input) db db db₁ :=
    hpaid ▸ payment_step hrow rfl
  refine .trans (.single hpayment) ?_
  split at hcancel
  · next hauto =>
    obtain ⟨-, hget, order, horder, hstatus⟩ := PaymentsRepository.get_of_findById hrecord
    obtain ⟨hplaced, htarget⟩ := shouldAutoCancelOrder_placed hauto
    refine .single (autoCancelOrder_step horder hstatus
      ⟨⟨_, hget, rfl⟩, ?_, hstatus.symm.trans hplaced, rfl⟩ hcancel)
    rintro rfl
    exact htarget rfl
  · cases hcancel
    exact .refl

/-! ### Every operation -/

/-- An operation run alone does nothing but its steps. -/
theorem OrderCall.run_steps (call : OrderCall) (db : Store) :
    OrderSteps call db db (call.run db) := by
  refine Service.Ends.run (Q := fun _ db' => OrderSteps call db db db') ?_
  cases call with
  | customerCancel currentUser orderId reasonCode note =>
    refine .orFail_bind (fun _ _ => .get_bind (.orFail_bind (fun record hrecord => ?_)
      fun _ => .refl)) fun _ => .refl
    split
    · exact .ret .refl
    · refine .require_bind (fun hcan => status_steps (find_of_findCustomerOrderDetail hrecord) rfl
        ⟨rfl, ?_, rfl, ?_⟩) fun _ => .refl
      · simp_all [canCancelCustomerOrder]
      · rw [find_of_findCustomerOrderDetail hrecord]
        exact hcan
  | merchant action currentUser orderId reasonCode note =>
    exact handleMerchantAction_steps action currentUser orderId reasonCode note db
  | adminCancel currentUser orderId reasonCode note =>
    refine .require_bind (fun _ => .get_bind (.orFail_bind (fun record hrecord => ?_)
      fun _ => .refl)) fun _ => .refl
    split
    · exact .ret .refl
    · refine .require_bind (fun hcan => status_steps hrecord rfl ?_) fun _ => .refl
      simp_all [Moves, canAdminCancelOrder, canViewAdminOrders]
  | adminOverride currentUser orderId status reasonCode note =>
    refine .require_bind (fun hadmin => .orFail_bind (fun code hcode => .get_bind
      (.orFail_bind (fun record hrecord => ?_) fun _ => .refl)) fun _ => .refl) fun _ => .refl
    split
    · exact .ret .refl
    · refine .require_bind (fun _ => status_steps hrecord rfl ?_) fun _ => .refl
      simp_all [Moves, canViewAdminOrders]
  | merchantTimeout orderId =>
    refine .get_bind ?_
    cases hrecord : findOrderDetailById db orderId with
    | none => exact .ret .refl
    | some record =>
      dsimp only
      split
      · exact .ret .refl
      · next hplaced => exact status_steps hrecord rfl ⟨rfl, not_not.mp hplaced, rfl⟩
  | riderTimeout orderId =>
    refine .get_bind ?_
    cases hrecord : findOrderDetailById db orderId with
    | none => exact .ret .refl
    | some record =>
      dsimp only
      split
      · exact .ret .refl
      · next hwaiting =>
        exact status_steps hrecord rfl ⟨rfl, not_not.mp (not_or.mp hwaiting).1, rfl⟩
  | rider action currentUser input => exact riderAction_steps action currentUser input db
  | assignRider newDeliveryId currentUser orderId riderId reasonCode note =>
    refine .require_bind (fun hadmin => .get_bind (.orFail_bind (fun record hrecord => ?_)
      fun _ => .refl)) fun _ => .refl
    obtain ⟨horder, -⟩ := get_of_findOrderDetailById hrecord
    split
    · exact .ret .refl
    · refine .require_bind (fun hcan => .get_bind (.orFail_bind (fun _ _ => .require_bind
        (fun _ => .transaction (fun _ db' h => ?_) fun _ _ => .refl) fun _ => .refl)
          fun _ => .refl)) fun _ => .refl
      obtain ⟨deliveryId, order, hdelivery, horder', rfl⟩ := assignDelivery_run h
      obtain rfl : order = record.order := Option.some.inj (horder'.symm.trans horder)
      refine .single (.assign hdelivery horder ⟨rfl, rfl, ?_, ?_⟩ rfl rfl)
      · simp_all [canAdminAssignRider]
      · simp_all [canViewAdminOrders]
  | autoDispatchOrder ids orderId => exact handleAutoDispatchOrder_steps ids orderId db
  | autoDispatchForRider ids riderId township =>
    exact handleAutoDispatchForRider_steps ids riderId township db
  | dispatchTimeout ids orderId attemptId =>
    exact handleRiderDispatchTimeout_steps ids orderId attemptId db
  | payment action currentUser input =>
    exact handlePaymentTransition_steps action currentUser input db

end Operations

/-! ## What the policies say -/

/-- The statuses of an order that the action is allowed for. -/
def RiderAction.fromStatuses : RiderAction → List OrderStatus
  | accept | reject => [.riderAssigned]
  | pickedUp => [.ready]
  | onTheWay => [.pickedUp]
  | delivered => [.onTheWay]
  | fail => [.pickedUp, .onTheWay]
  | cancel => [.riderAssigned, .riderAccepted, .preparing, .ready]

/-- The statuses of a delivery that the action is allowed for. -/
def RiderAction.fromDeliveryStatuses : RiderAction → List DeliveryStatus
  | accept | reject => [.assigned]
  | pickedUp => [.accepted, .assigned]
  | onTheWay => [.pickedUp]
  | delivered => [.onTheWay]
  | fail => [.pickedUp, .onTheWay]
  | cancel => [.assigned, .accepted]

theorem RiderAction.of_can {action : RiderAction} {currentUser : AuthenticatedUser}
    {record : DeliveryDetailRecord} (h : action.can currentUser record = true) :
    record.orderStatus ∈ action.fromStatuses ∧
      record.delivery.status ∈ action.fromDeliveryStatuses ∧
      ∃ riderId, currentUser.riderId = some riderId ∧ record.delivery.riderId = some riderId := by
  have hscope : hasRiderScope currentUser record = true →
      ∃ riderId, currentUser.riderId = some riderId ∧ record.delivery.riderId = some riderId := by
    intro h
    simp only [hasRiderScope, Bool.and_eq_true, beq_iff_eq, Option.isSome_iff_exists] at h
    obtain ⟨⟨riderId, hrider⟩, hsame⟩ := h
    exact ⟨riderId, hrider, hsame.trans hrider⟩
  cases action <;>
    simp only [can, canRiderAcceptDeliveryRequest, canRiderRejectDeliveryRequest,
      canRiderMarkDeliveryPickedUp, canRiderMarkDeliveryOnTheWay, canRiderMarkDeliveryDelivered,
      canRiderMarkDeliveryFailed, canRiderCancelPrePickup, Bool.and_eq_true, Bool.or_eq_true,
      beq_iff_eq, List.contains_eq_mem, decide_eq_true_eq, and_assoc] at h <;>
    exact ⟨by simp_all [fromStatuses], by simp_all [fromDeliveryStatuses], hscope h.1⟩

/-- The statuses that end an order. -/
def terminalOrderStatuses : List OrderStatus :=
  [.cancelled, .merchantRejected, .delivered, .failedDelivery]

/-- Only an override changes the status of an order that has ended. -/
theorem OrderCall.Moves.active {call : OrderCall} {start db : Store} {orderId : Id} {order : Order}
    {target : OrderStatus} (h : call.Moves start db orderId order target) :
    order.status ∉ terminalOrderStatuses ∨ ∃ currentUser reasonCode note,
      call = .adminOverride currentUser orderId target reasonCode note ∧
        currentUser.role = .admin ∧ (normalizeOptionalString (some reasonCode)).isSome := by
  have hof : ∀ status, order.status = status → status ∉ terminalOrderStatuses →
      order.status ∉ terminalOrderStatuses := fun status hstatus h => hstatus ▸ h
  have hmem : ∀ statuses : List OrderStatus, order.status ∈ statuses →
      (∀ status ∈ statuses, status ∉ terminalOrderStatuses) →
      order.status ∉ terminalOrderStatuses := fun statuses h hall => hall _ h
  cases call with
  | customerCancel => exact .inl (hmem _ h.2.1 (by decide))
  | merchant action =>
    left
    obtain ⟨-, hmoves⟩ := h
    have hprepares : Prepares order target → order.status ∉ terminalOrderStatuses := by
      rintro ⟨-, ⟨-, h⟩ | ⟨-, h⟩⟩
      · exact hof _ h (by decide)
      · exact hof _ h (by decide)
    cases action with
    | accept =>
      rcases hmoves with ⟨h, -⟩ | h | ⟨h, -⟩
      · exact hof _ h (by decide)
      · exact hprepares h
      · exact hof _ h (by decide)
    | reject => exact hof _ hmoves.1 (by decide)
    | preparing => exact hprepares hmoves
    | ready => exact hof _ hmoves.1 (by decide)
    | confirmPickup => exact hof _ hmoves.2.1 (by decide)
  | adminCancel => exact .inl (hmem _ h.2.1 (by decide))
  | adminOverride currentUser orderId' status reasonCode note =>
    obtain ⟨rfl, rfl, -, hadmin, hcode⟩ := h
    exact .inr ⟨currentUser, reasonCode, note, rfl, hadmin, hcode⟩
  | merchantTimeout => exact .inl (hof _ h.2.1 (by decide))
  | riderTimeout => exact .inl (hof _ h.2.1 (by decide))
  | autoDispatchOrder => exact .inl (hof _ h.2.1 (by decide))
  | dispatchTimeout => exact .inl (hof _ h.2.1 (by decide))
  | payment => exact .inl (hof _ h.2.2.1 (by decide))
  | rider | assignRider | autoDispatchForRider => exact h.elim

theorem OrderCall.Assigns.status {call : OrderCall} {start db : Store} {orderId riderId : Id}
    {order : Order} (h : call.Assigns start db orderId riderId order) :
    order.status = .merchantAccepted ∨ order.status = .riderAssigned := by
  cases call with
  | assignRider => exact h.2.2.1
  | autoDispatchOrder => exact .inl h.2.1
  | dispatchTimeout => exact .inl h.2.1
  | autoDispatchForRider => exact .inl h.2.1
  | _ => exact h.elim

/-! ## What a step does to one order -/

/-- The changes of one order's status that a step of an operation makes. -/
inductive OrderMove (call : OrderCall) (start db : Store) (orderId : Id) (order : Order) :
    OrderStatus → Prop
  /-- of its own accord -/
  | own {target : OrderStatus} (hmoves : call.Moves start db orderId order target) :
      OrderMove call start db orderId order target
  /-- with its delivery, by a rider -/
  | rider {action : RiderAction} {currentUser : AuthenticatedUser}
      {input : RiderDeliveryActionInput} {delivery : Delivery}
      (hcall : call = .rider action currentUser input)
      (hdelivery : db.get (.delivery, input.deliveryId) = some delivery)
      (hof : delivery.orderId = orderId)
      (hcan : action.can currentUser ⟨input.deliveryId, delivery, order.status⟩ = true) :
      OrderMove call start db orderId order action.orderStatus
  /-- with its delivery, when a rider's time is up -/
  | reset {ids : AssignmentIds} {attemptId : Id}
      (hcall : call = .dispatchTimeout ids orderId attemptId)
      (htimeout : TimesOut start orderId attemptId) (hstatus : order.status = .riderAssigned) :
      OrderMove call start db orderId order .merchantAccepted
  /-- with its delivery, to a rider -/
  | assign {riderId : Id} (hassigns : call.Assigns start db orderId riderId order) :
      OrderMove call start db orderId order .riderAssigned

section Inversion

variable {call : OrderCall} {start db db' : Store} {orderId : Id} {order : Order}

theorem amend_restock_order (d : WithZero ℤ) (id : Id) (order : Order) :
    amend restock d (.order, id) order = order := by
  cases d <;> rfl

/-- A row of an order, after one row of another table and one of an order were written. -/
theorem get_order_put_put {w : Write Row} (hw : Tbl.order ≠ w.table) {orderId' : Id}
    {order' : Order} (horder : db.get (.order, orderId) = some order) :
    ((db.put w).put ⟨.order, orderId', some order'⟩).get (.order, orderId) =
      if orderId = orderId' then some order' else some order := by
  by_cases hid : orderId = orderId'
  · subst hid
    rw [if_pos rfl]
    exact Db.get_put_self (db.put w) ⟨.order, orderId, some order'⟩
  · rw [if_neg hid, Db.get_put_ne _ fun hkey => hid (congrArg Prod.snd hkey),
      Db.get_put_ne _ fun hkey => hw (congrArg Prod.fst hkey), horder]

/-- A step leaves an order as it is, or changes its status. -/
theorem OrderStep.order_cases (h : OrderStep call start db db')
    (horder : db.get (.order, orderId) = some order) :
    db'.get (.order, orderId) = some order ∨ ∃ payload : UpdateOrderStatusInput,
      payload.fromStatus = order.status ∧ OrderMove call start db orderId order payload.status ∧
        db'.get (.order, orderId) = some (order.changeStatus payload) := by
  cases h with
  | @status _ orderId' order' payload horder' hfrom hmoves hchanged =>
    by_cases hid : orderId = orderId'
    · subst hid
      obtain ⟨order₁, hget, hget'⟩ := hchanged.order
      rw [horder] at hget horder'
      cases hget
      cases horder'
      exact .inr ⟨payload, hfrom, .own hmoves, hget'⟩
    · have hrow := hchanged.rows (.order, orderId) (fun hkey => hid (congrArg Prod.snd hkey))
        (by rw [horder]; rfl)
      rw [horder, Option.map_some, amend_restock_order] at hrow
      exact .inl hrow
  | @rider action _ input delivery order' payload hcall hdelivery horder' hcan hfrom hto =>
    rw [get_order_put_put (by simp) horder]
    by_cases hid : orderId = delivery.orderId
    · subst hid
      rw [horder] at horder'
      cases horder'
      rw [if_pos rfl]
      exact .inr ⟨payload, hfrom, hto ▸ .rider hcall hdelivery rfl hcan, rfl⟩
    · exact .inl (if_neg hid)
  | @reset ids orderId' _ _ delivery order' payload hcall htimeout hdelivery hof hassigned horder'
      hstatus hfrom hto =>
    rw [get_order_put_put (by simp) horder]
    by_cases hid : orderId = orderId'
    · subst hid
      rw [horder] at horder'
      cases horder'
      rw [if_pos rfl]
      exact .inr ⟨payload, hfrom, hto ▸ .reset hcall htimeout hstatus, rfl⟩
    · exact .inl (if_neg hid)
  | @assign _ orderId' _ order' payload hdelivery horder' hassigns hfrom hto =>
    rw [get_order_put_put (by simp) horder]
    by_cases hid : orderId = orderId'
    · subst hid
      rw [horder] at horder'
      cases horder'
      rw [if_pos rfl]
      exact .inr ⟨payload, hfrom, hto ▸ .assign hassigns, rfl⟩
    · exact .inl (if_neg hid)
  | attempt attemptId attempt =>
    have hother : (db.put ⟨.orderDispatchAttempt, attemptId, some attempt⟩).get (.order, orderId) =
        db.get (.order, orderId) := Db.get_put_ne _ fun hkey => by cases hkey
    exact .inl (hother.trans horder)
  | rest hrest _ => exact .inl ((hrest (.order, orderId) (by simp) (by simp)).trans horder)

/-- Only an override changes the status of an order that has ended. -/
theorem OrderMove.active {target : OrderStatus}
    (h : OrderMove call start db orderId order target) :
    order.status ∉ terminalOrderStatuses ∨ ∃ currentUser reasonCode note,
      call = .adminOverride currentUser orderId target reasonCode note ∧
        currentUser.role = .admin ∧ (normalizeOptionalString (some reasonCode)).isSome := by
  cases h with
  | own hmoves => exact hmoves.active
  | @rider action _ _ _ _ _ _ hcan =>
    have hfrom : ∀ status ∈ action.fromStatuses, status ∉ terminalOrderStatuses := by
      cases action <;> decide
    exact .inl (hfrom _ (RiderAction.of_can hcan).1)
  | reset _ _ hstatus => exact .inl (by rw [hstatus]; decide)
  | assign hassigns =>
    left
    rcases hassigns.status with h | h
    · rw [h]; decide
    · rw [h]; decide

end Inversion

end WerTe
