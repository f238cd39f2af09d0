import WerTe.DeliveryAgreement
import WerTe.ReserveRestore

/-!
# What an order's page offers

`order-available-actions.helper.ts` and `order-query.service.ts`: a page of an order lists the
actions that whoever looks at it may take. It asks the order's policies. What a rider asks for is
decided by the delivery's policies instead, which go by another row: `offered_actions_work` says
that the two decide alike, so that along every run without overrides whatever is offered works and
nothing else changes the order.
-/

namespace WerTe

open ReadCommitted OrdersRepository DeliveriesRepository

/-! ## `order-policy.service.ts` -/

/-- The rider of an order's delivery, and the user it is. -/
structure OrderSummaryRiderEntity where
  riderId : Id
  userId : Id
deriving DecidableEq, Repr

/-- An order as its policies see it. -/
structure OrderSummaryEntity extends OrderDetailRecord where
  rider : Option OrderSummaryRiderEntity
deriving DecidableEq

def riderFailableStatuses : List OrderStatus := [.pickedUp, .onTheWay]

def hasRiderOrderAccess (currentUser : AuthenticatedUser) (order : OrderSummaryEntity) : Bool :=
  match order.rider with
  | none => false
  | some rider =>
    hasOwnedResourceAccess currentUser .rider rider.userId rider.riderId currentUser.riderId

def canRiderAcceptAssignment (currentUser : AuthenticatedUser) (order : OrderSummaryEntity) :
    Bool :=
  hasRiderOrderAccess currentUser order && order.order.status == .riderAssigned

def canRiderRejectAssignment (currentUser : AuthenticatedUser) (order : OrderSummaryEntity) :
    Bool :=
  hasRiderOrderAccess currentUser order && order.order.status == .riderAssigned

def canRiderMarkPickedUp (currentUser : AuthenticatedUser) (order : OrderSummaryEntity) : Bool :=
  hasRiderOrderAccess currentUser order && order.order.status == .ready

def canRiderMarkOnTheWay (currentUser : AuthenticatedUser) (order : OrderSummaryEntity) : Bool :=
  hasRiderOrderAccess currentUser order && order.order.status == .pickedUp

def canRiderMarkDelivered (currentUser : AuthenticatedUser) (order : OrderSummaryEntity) : Bool :=
  hasRiderOrderAccess currentUser order && order.order.status == .onTheWay

def canRiderMarkFailedDelivery (currentUser : AuthenticatedUser) (order : OrderSummaryEntity) :
    Bool :=
  hasRiderOrderAccess currentUser order && riderFailableStatuses.contains order.order.status

/-! ## `order-available-actions.helper.ts` -/

inductive OrderAvailableAction
  | cancel | merchantAccept | merchantReject | markPreparing | markReady | merchantConfirmPickup
  | riderAcceptAssignment | riderRejectAssignment | riderMarkPickedUp | riderMarkOnTheWay
  | riderMarkDelivered | riderMarkFailedDelivery
  | adminAssignRider | adminCancel | adminOverrideStatus
deriving DecidableEq, Repr

namespace OrderAvailableAction

/-- All of them, in the order in which they are tried. -/
def all : List OrderAvailableAction := [.cancel, .merchantAccept, .merchantReject, .markPreparing,
  .markReady, .merchantConfirmPickup, .riderAcceptAssignment, .riderRejectAssignment,
  .riderMarkPickedUp, .riderMarkOnTheWay, .riderMarkDelivered, .riderMarkFailedDelivery,
  .adminAssignRider, .adminCancel, .adminOverrideStatus]

/-- The policy that is asked. -/
def isAllowed (currentUser : AuthenticatedUser) (order : OrderSummaryEntity) :
    OrderAvailableAction → Bool
  | cancel => canCancelCustomerOrder currentUser order.toOrderDetailRecord
  | merchantAccept => canMerchantAccept currentUser order.toOrderDetailRecord
  | merchantReject => canMerchantReject currentUser order.toOrderDetailRecord
  | markPreparing => canMarkPreparing currentUser order.toOrderDetailRecord
  | markReady => canMarkReady currentUser order.toOrderDetailRecord
  | merchantConfirmPickup => canMerchantConfirmPickup currentUser order.toOrderDetailRecord
  | riderAcceptAssignment => canRiderAcceptAssignment currentUser order
  | riderRejectAssignment => canRiderRejectAssignment currentUser order
  | riderMarkPickedUp => canRiderMarkPickedUp currentUser order
  | riderMarkOnTheWay => canRiderMarkOnTheWay currentUser order
  | riderMarkDelivered => canRiderMarkDelivered currentUser order
  | riderMarkFailedDelivery => canRiderMarkFailedDelivery currentUser order
  | adminAssignRider => canAdminAssignRider currentUser order.toOrderDetailRecord
  | adminCancel => canAdminCancelOrder currentUser order.toOrderDetailRecord
  | adminOverrideStatus => canAdminOverrideStatus currentUser

end OrderAvailableAction

def computeOrderAvailableActions (currentUser : AuthenticatedUser) (order : OrderSummaryEntity) :
    List OrderAvailableAction := OrderAvailableAction.all.filter (·.isAllowed currentUser order)

@[simp] theorem mem_computeOrderAvailableActions {currentUser : AuthenticatedUser}
    {order : OrderSummaryEntity} {action : OrderAvailableAction} :
    action ∈ computeOrderAvailableActions currentUser order ↔
      action.isAllowed currentUser order = true := by
  have hall : action ∈ OrderAvailableAction.all := by cases action <;> decide
  rw [computeOrderAvailableActions, List.mem_filter, and_iff_right hall]

/-! ## `order-query.service.ts` -/

/-- An order with `availableActions`. -/
structure OrderDetailEntity where
  order : OrderSummaryEntity
  availableActions : List OrderAvailableAction
deriving DecidableEq

namespace OrderQueryService

/-- The rider that `orderDetailInclude` loads with an order's delivery. -/
def riderOf (db : Store) (record : OrderDetailRecord) : Option OrderSummaryRiderEntity := do
  let delivery ← record.delivery
  let riderId ← delivery.2.riderId
  let rider ← db.get (.rider, riderId)
  return ⟨riderId, rider.userId⟩

def withRider (db : Store) (record : OrderDetailRecord) : OrderSummaryEntity :=
  { record with rider := riderOf db record }

def findRiderOrderDetail (db : Store) (orderId riderId : Id) : Option OrderDetailRecord :=
  (findOrderDetailById db orderId).filter fun record =>
    record.delivery.any fun delivery => delivery.2.riderId == some riderId

def attachAvailableActions (currentUser : AuthenticatedUser) (order : OrderSummaryEntity) :
    OrderDetailEntity := ⟨order, computeOrderAvailableActions currentUser order⟩

/-- `find` is one of the repository's queries for an order. -/
def mapRequiredOrderDetail (currentUser : AuthenticatedUser)
    (find : Store → Option OrderDetailRecord) : StoreService OrderDetailEntity := do
  let found ← .get fun db => (find db).map (withRider db)
  let order ← .orFail found (fail "Order was not found." .notFound)
  pure (attachAvailableActions currentUser order)

def getCustomerOrderDetail (currentUser : AuthenticatedUser) (orderId : Id) :
    StoreService OrderDetailEntity := do
  let customerProfileId ← .orFail currentUser.customerProfileId
    (fail "The authenticated actor does not have a customer profile scope." .forbidden)
  mapRequiredOrderDetail currentUser fun db => findCustomerOrderDetail db orderId customerProfileId

def getMerchantOrderDetail (currentUser : AuthenticatedUser) (orderId : Id) :
    StoreService OrderDetailEntity := do
  let merchantId ← .orFail currentUser.merchantId
    (fail "The authenticated actor does not have a merchant scope." .forbidden)
  mapRequiredOrderDetail currentUser fun db => findMerchantOrderDetail db orderId merchantId

def getRiderOrderDetail (currentUser : AuthenticatedUser) (orderId : Id) :
    StoreService OrderDetailEntity := do
  let riderId ← requireRiderId currentUser
  mapRequiredOrderDetail currentUser fun db => findRiderOrderDetail db orderId riderId

def getAdminOrderDetail (currentUser : AuthenticatedUser) (orderId : Id) :
    StoreService OrderDetailEntity := do
  .require (canViewAdminOrders currentUser = true)
    (fail "You are not allowed to view admin order data." .forbidden)
  mapRequiredOrderDetail currentUser fun db => findOrderDetailById db orderId

end OrderQueryService

/-! ## Requests of what is offered -/

/-- The requests that an order's page offers without asking for a rider or a status. -/
inductive ActionRequest
  | customerCancel (currentUser : AuthenticatedUser) (orderId : Id)
      (reasonCode note : Option String)
  | merchant (action : MerchantAction) (currentUser : AuthenticatedUser) (orderId : Id)
      (reasonCode note : Option String)
  | rider (action : RiderAction) (currentUser : AuthenticatedUser) (orderId : Id)
      (input : RiderDeliveryActionInput)
  | adminCancel (currentUser : AuthenticatedUser) (orderId : Id) (reasonCode note : Option String)

namespace ActionRequest

def call : ActionRequest → OrderCall
  | customerCancel currentUser orderId reasonCode note =>
    .customerCancel currentUser orderId reasonCode note
  | merchant action currentUser orderId reasonCode note =>
    .merchant action currentUser orderId reasonCode note
  | rider action currentUser _ input => .rider action currentUser input
  | adminCancel currentUser orderId reasonCode note =>
    .adminCancel currentUser orderId reasonCode note

def orderId : ActionRequest → Id
  | customerCancel _ orderId .. | merchant _ _ orderId .. | rider _ _ orderId .. |
    adminCancel _ orderId .. => orderId

/-- The page that offers it. -/
def page : ActionRequest → StoreService OrderDetailEntity
  | customerCancel currentUser orderId .. =>
    OrderQueryService.getCustomerOrderDetail currentUser orderId
  | merchant _ currentUser orderId .. =>
    OrderQueryService.getMerchantOrderDetail currentUser orderId
  | rider _ currentUser orderId .. => OrderQueryService.getRiderOrderDetail currentUser orderId
  | adminCancel currentUser orderId .. => OrderQueryService.getAdminOrderDetail currentUser orderId

/-- What it is offered as. A rider's cancellation is never offered. -/
def action : ActionRequest → Option OrderAvailableAction
  | customerCancel .. => some .cancel
  | merchant .accept .. => some .merchantAccept
  | merchant .reject .. => some .merchantReject
  | merchant .preparing .. => some .markPreparing
  | merchant .ready .. => some .markReady
  | merchant .confirmPickup .. => some .merchantConfirmPickup
  | rider .accept .. => some .riderAcceptAssignment
  | rider .reject .. => some .riderRejectAssignment
  | rider .pickedUp .. => some .riderMarkPickedUp
  | rider .onTheWay .. => some .riderMarkOnTheWay
  | rider .delivered .. => some .riderMarkDelivered
  | rider .fail .. => some .riderMarkFailedDelivery
  | rider .cancel .. => none
  | adminCancel .. => some .adminCancel

/-- The actions that the page offers; none if there is no page. -/
def offers (db : Store) (request : ActionRequest) : List OrderAvailableAction :=
  match (request.page.run db).1 with
  | .ok detail => detail.availableActions
  | .error _ => []

/-- The status that the request is to give the order. One that is picked up by its customer goes
on to be ready when the merchant accepts it. -/
def target (order : Order) : ActionRequest → OrderStatus
  | customerCancel .. | adminCancel .. => .cancelled
  | merchant .accept .. => if order.deliveryType = .pickup then .ready else .merchantAccepted
  | merchant action .. => action.config.targetStatus
  | rider action .. => action.orderStatus

/-- A rider asks for the delivery of the order with the rider's own token, and says why a delivery
has failed. -/
structure FromRider (db : Store) (action : RiderAction) (currentUser : AuthenticatedUser)
    (orderId : Id) (input : RiderDeliveryActionInput) : Prop where
  role : currentUser.role = .rider
  scope : ∃ riderId rider, currentUser.riderId = some riderId ∧
    db.get (.rider, riderId) = some rider ∧ rider.userId = currentUser.userId
  delivery : ∃ delivery, db.get (.delivery, input.deliveryId) = some delivery ∧
    delivery.orderId = orderId
  record : ∃ record, findOrderDetailById db orderId = some record ∧
    record.order.deliveryType = .delivery
  reason : action = .fail → (normalizeOptionalString input.reasonCode).isSome

def WellFormed (db : Store) : ActionRequest → Prop
  | rider action currentUser orderId input => FromRider db action currentUser orderId input
  | _ => True

/-- The request is answered with success, and its order has moved on. -/
structure CarriedOut (request : ActionRequest) (db : Store) (order : Order) : Prop where
  answered : (request.call.service.run db).1 = .ok ()
  moved : ∃ order', (request.call.run db).get (.order, request.orderId) = some order' ∧
    order'.status = request.target order ∧ order'.status ≠ order.status

/-! ### What is offered -/

def currentUser : ActionRequest → AuthenticatedUser
  | customerCancel currentUser .. | merchant _ currentUser .. | rider _ currentUser .. |
    adminCancel currentUser .. => currentUser

/-- The order that the page finds. -/
def found (db : Store) : ActionRequest → Option OrderDetailRecord
  | customerCancel currentUser orderId .. =>
    currentUser.customerProfileId.bind (findCustomerOrderDetail db orderId)
  | merchant _ currentUser orderId .. =>
    currentUser.merchantId.bind (findMerchantOrderDetail db orderId)
  | rider _ currentUser orderId .. =>
    currentUser.riderId.bind (OrderQueryService.findRiderOrderDetail db orderId)
  | adminCancel currentUser orderId .. =>
    if canViewAdminOrders currentUser = true then findOrderDetailById db orderId else none

open OrderQueryService

variable {db : Store} {request : ActionRequest}

theorem mapRequiredOrderDetail_ends {currentUser : AuthenticatedUser}
    {find : Store → Option OrderDetailRecord} {Q : Except Failure OrderDetailEntity → Store → Prop}
    (hsome : ∀ record, find db = some record →
      Q (.ok (attachAvailableActions currentUser (withRider db record))) db)
    (hnone : find db = none → ∀ e, Q (.error e) db) :
    (mapRequiredOrderDetail currentUser find).Ends db Q := by
  refine .get_bind (.orFail_bind (fun order horder => ?_) fun hmissing => ?_)
  · obtain ⟨record, hrecord, rfl⟩ := Option.map_eq_some_iff.mp horder
    exact .ret (hsome record hrecord)
  · exact hnone (Option.map_eq_none_iff.mp hmissing) _

/-- A page is that of the order that has been found. -/
theorem page_ends (request : ActionRequest) (db : Store) :
    request.page.Ends db fun detail _ => match request.found db with
      | some record =>
        detail = .ok (attachAvailableActions request.currentUser (withRider db record))
      | none => ∃ e, detail = .error e := by
  have hpage : ∀ {currentUser : AuthenticatedUser} {find : Store → Option OrderDetailRecord},
      (mapRequiredOrderDetail currentUser find).Ends db fun detail _ =>
        match find db with
        | some record => detail = .ok (attachAvailableActions currentUser (withRider db record))
        | none => ∃ e, detail = .error e := fun {_ find} =>
    mapRequiredOrderDetail_ends (fun record hrecord => by rw [hrecord])
      fun hnone e => by rw [hnone]; exact ⟨e, rfl⟩
  cases request with
  | customerCancel user orderId =>
    refine .orFail_bind (fun customerProfileId hscope => ?_) fun hnone => ?_
    · simpa only [found, currentUser, hscope, Option.bind_some] using hpage
    · simp [found, hnone]
  | merchant action user orderId =>
    refine .orFail_bind (fun merchantId hscope => ?_) fun hnone => ?_
    · simpa only [found, currentUser, hscope, Option.bind_some] using hpage
    · simp [found, hnone]
  | rider action user orderId =>
    refine .orFail_bind (fun riderId hscope => ?_) fun hnone => ?_
    · simpa only [found, currentUser, hscope, Option.bind_some] using hpage
    · simp [found, hnone]
  | adminCancel user orderId =>
    refine .require_bind (fun hadmin => ?_) fun hother => ?_
    · simpa only [found, currentUser, if_pos hadmin] using hpage
    · simp [found, hother]

theorem mem_offers {a : OrderAvailableAction} : a ∈ request.offers db ↔
    ∃ record, request.found db = some record ∧
      a.isAllowed request.currentUser (withRider db record) = true := by
  have hpage := (request.page_ends db).run
  cases hfound : request.found db with
  | none =>
    rw [hfound] at hpage
    obtain ⟨e, he⟩ := hpage
    simp [offers, he]
  | some record =>
    rw [hfound] at hpage
    simp [offers, hpage, attachAvailableActions]

end ActionRequest

open OrderQueryService

/-! ## Requests run alone -/

section Requests

variable {db : Store} {currentUser : AuthenticatedUser} {orderId : Id}
  {reasonCode note : Option String}

/-- A request that is allowed gives the order the status, and any other leaves the order alone. -/
def Decides (db : Store) (orderId : Id) (allowed : Bool) (target : OrderStatus) {α : Type}
    (r : Except Failure α) (db' : Store) : Prop :=
  if allowed = true then (∃ a, r = .ok a) ∧
    ∃ order', db'.get (.order, orderId) = some order' ∧ order'.status = target
  else db'.get (.order, orderId) = db.get (.order, orderId)

variable {α : Type} {allowed : Bool} {target : OrderStatus} {r : Except Failure α} {db' : Store}

theorem Decides.refused (h : allowed = false) (hkept : db'.get (.order, orderId) =
    db.get (.order, orderId)) : Decides db orderId allowed target r db' := by
  simpa [Decides, h] using hkept

theorem Decides.done {a : α} {order' : Order} (h : allowed = true)
    (hafter : db'.get (.order, orderId) = some order') (hstatus : order'.status = target) :
    Decides db orderId allowed target (.ok a) db' := by
  simpa [Decides, h] using ⟨order', hafter, hstatus⟩

/-- A change of status never fails, for giving back stock does not. -/
theorem changeOrderStatus_ok {record : OrderDetailRecord} {payload : UpdateOrderStatusInput}
    (hrecord : findOrderDetailById db orderId = some record)
    (hfrom : payload.fromStatus = record.order.status) :
    ∃ db', (changeOrderStatus record payload).run db = .ok ((), db') ∧
      ∃ order', db'.get (.order, orderId) = some order' ∧ order'.status = payload.status := by
  obtain ⟨hget, rfl⟩ := get_of_findOrderDetailById hrecord
  have hok : ∃ db', (changeOrderStatus record payload).run db = .ok ((), db') := by
    rw [changeOrderStatus, Tx.bind_eq, Tx.run_bind, updateOrderStatus, Tx.run_updateExisting hget]
    dsimp only [Except.bind]
    split
    · obtain ⟨_, db', hrestore⟩ := restoreTrackedInventoryForOrder_total
        record.order.inventoryLines
          (db.put ⟨.order, record.id, some (record.order.changeStatus payload)⟩)
      exact ⟨db', hrestore⟩
    · exact ⟨_, rfl⟩
  obtain ⟨db', hrun⟩ := hok
  obtain ⟨order, -, hafter⟩ := (changeOrderStatus_run hrecord hfrom hrun).order
  exact ⟨db', hrun, _, hafter, rfl⟩

theorem changeOrderStatus_decides {record : OrderDetailRecord} {payload : UpdateOrderStatusInput}
    (hrecord : findOrderDetailById db orderId = some record)
    (hfrom : payload.fromStatus = record.order.status) (hallowed : allowed = true) :
    (Service.transaction (changeOrderStatus record payload)).Ends db
      (Decides db orderId allowed payload.status) := by
  obtain ⟨db', hrun, order', hafter, hstatus⟩ := changeOrderStatus_ok hrecord hfrom
  exact .committed hrun (.done hallowed hafter hstatus)

/-- Settling the cash leaves everything but payments as it is. -/
theorem settleCashOnDelivery_ok (orderId : Id) (db : Store) :
    ∃ db', (settleCashOnDelivery orderId).run db = .ok ((), db') ∧
      ∀ k : Key Tbl, k.1 ≠ .payment → db'.get k = db.get k := by
  refine ⟨_, rfl, fun k hk => Db.get_apply_of_table fun w hw => ?_⟩
  obtain ⟨p, -, rfl⟩ := List.mem_map.mp hw
  exact hk.symm

theorem cancelCurrentCustomerOrder_decides (currentUser : AuthenticatedUser) (orderId : Id)
    (reasonCode note : Option String) (db : Store) :
    (cancelCurrentCustomerOrder currentUser orderId reasonCode note).Ends db
      (Decides db orderId ((currentUser.customerProfileId.bind
        (findCustomerOrderDetail db orderId)).any (canCancelCustomerOrder currentUser))
          .cancelled) := by
  refine .orFail_bind (fun customerProfileId hscope => .get_bind (.orFail_bind
    (fun record hrecord => ?_) fun hnone => ?_)) fun hnone => ?_
  · rw [hscope, Option.bind_some, hrecord, Option.any_some]
    split
    next hcancelled =>
      refine .ret (.refused ?_ rfl)
      simp [canCancelCustomerOrder, hcancelled, customerCancellableStatuses]
    next =>
      refine .require_bind (fun hcan => ?_) fun hcannot =>
        .refused (Bool.not_eq_true _ ▸ hcannot) rfl
      exact changeOrderStatus_decides (find_of_findCustomerOrderDetail hrecord) rfl hcan
  · exact .refused (by rw [hscope, Option.bind_some, hnone, Option.any_none]) rfl
  · exact .refused (by rw [hnone, Option.bind_none, Option.any_none]) rfl

theorem cancelAdminOrder_decides (currentUser : AuthenticatedUser) (orderId : Id)
    (reasonCode note : Option String) (db : Store) :
    (cancelAdminOrder currentUser orderId reasonCode note).Ends db
      (Decides db orderId ((findOrderDetailById db orderId).any (canAdminCancelOrder currentUser))
        .cancelled) := by
  refine .bind (.require (fun hadmin => .get_bind (.orFail_bind (fun record hrecord => ?_)
    fun hnone => ?_)) fun hother => ?_)
  · rw [hrecord, Option.any_some]
    split
    next hcancelled =>
      refine .ret (.refused ?_ rfl)
      simp [canAdminCancelOrder, hcancelled, adminCancellableStatuses]
    next =>
      refine .require_bind (fun hcan => ?_) fun hcannot =>
        .refused (Bool.not_eq_true _ ▸ hcannot) rfl
      exact changeOrderStatus_decides hrecord rfl hcan
  · exact .refused (by rw [hnone, Option.any_none]) rfl
  · refine .refused ?_ rfl
    cases findOrderDetailById db orderId with
    | none => rfl
    | some record => simp [canAdminCancelOrder, hother]

/-! ### The merchant -/

section Merchants

variable {config : MerchantActionConfig}

/-- The merchant's next transition reads the order as the last one has left it. -/
theorem findMerchantOrderDetail_put {merchantId : Id} {record : OrderDetailRecord}
    (h : findMerchantOrderDetail db orderId merchantId = some record)
    (payload : UpdateOrderStatusInput) :
    findMerchantOrderDetail (db.put ⟨.order, orderId, some (record.order.changeStatus payload)⟩)
      orderId merchantId = some { record with order := record.order.changeStatus payload } := by
  obtain ⟨hfind, hmerchant⟩ := Option.filter_eq_some_iff.mp h
  refine Option.filter_eq_some_iff.mpr ⟨?_, hmerchant⟩
  simp only [findOrderDetailById, Option.bind_eq_bind, Option.bind_eq_some_iff, Option.pure_def,
    Option.some.injEq] at hfind ⊢
  obtain ⟨order, horder, profile, hprofile, branch, hbranch, merchant, hget, rfl⟩ := hfind
  have hother : ∀ k : Key Tbl, k.1 ≠ .order →
      (db.put ⟨.order, orderId, some (order.changeStatus payload)⟩).get k = db.get k :=
    fun k hk => Db.get_put_ne _ fun hkey => hk (congrArg Prod.fst hkey)
  refine ⟨_, Db.get_put_self db ⟨.order, orderId, some (order.changeStatus payload)⟩, profile,
    (hother _ (by simp)).trans hprofile, branch, (hother _ (by simp)).trans hbranch, merchant,
      (hother _ (by simp)).trans hget, ?_⟩
  rw [findByOrderId, Db.list_put_ne _ (by simp)]
  rfl

/-- The transaction of a merchant's transition. -/
def merchantChange (orderId : Id) (record : OrderDetailRecord) (payload : UpdateOrderStatusInput) :
    StoreTx Unit := do
  changeOrderStatus record payload
  if payload.status = .delivered then settleCashOnDelivery orderId else pure ()

theorem merchantChange_ok (orderId : Id) {record : OrderDetailRecord}
    (payload : UpdateOrderStatusInput)
    (hrecord : findOrderDetailById db orderId = some record)
    (hfrom : payload.fromStatus = record.order.status) :
    ∃ db', (merchantChange orderId record payload).run db = .ok ((), db') ∧
      ∃ order', db'.get (.order, orderId) = some order' ∧ order'.status = payload.status := by
  obtain ⟨db₁, hchange, order', hafter, hstatus⟩ := changeOrderStatus_ok hrecord hfrom
  rw [merchantChange, Tx.bind_eq, Tx.run_bind, hchange]
  dsimp only [Except.bind]
  split
  · obtain ⟨db₂, hsettle, hkept⟩ := settleCashOnDelivery_ok orderId db₁
    exact ⟨db₂, hsettle, order', (hkept (.order, orderId) (by simp)).trans hafter, hstatus⟩
  · exact ⟨db₁, rfl, order', hafter, hstatus⟩

/-- A transition that gives nothing back and settles nothing writes the order alone. -/
theorem merchantChange_put {record : OrderDetailRecord} {payload : UpdateOrderStatusInput}
    (hget : db.get (.order, record.id) = some record.order)
    (hkeeps : shouldReleaseInventoryForOrderTransition payload.fromStatus payload.status = false)
    (hopen : payload.status ≠ .delivered) : (merchantChange orderId record payload).run db =
      .ok ((), db.put ⟨.order, record.id, some (record.order.changeStatus payload)⟩) := by
  rw [merchantChange, if_neg hopen, changeOrderStatus, hkeeps, Tx.bind_eq, Tx.bind_eq, Tx.run_bind,
    Tx.run_bind, updateOrderStatus, Tx.run_updateExisting hget]
  rfl

/-- The order that a transition is made of, if it is allowed. -/
def transitioned (db : Store) (currentUser : AuthenticatedUser) (orderId : Id)
    (config : MerchantActionConfig) : Option OrderDetailRecord :=
  (currentUser.merchantId.bind (findMerchantOrderDetail db orderId)).filter
    (config.canTransition currentUser)

theorem merchantTransition_ends (hself : ∀ record : OrderDetailRecord,
      record.order.status = config.targetStatus → config.canTransition currentUser record = false)
    (orderId : Id) (reasonCode note : Option String) (db : Store) :
    (merchantTransition currentUser orderId reasonCode note config).Ends db fun r db' =>
      match transitioned db currentUser orderId config with
      | some record => r = .ok (some record) ∧ ∃ payload : UpdateOrderStatusInput,
          payload.status = config.targetStatus ∧ payload.fromStatus = record.order.status ∧
            (merchantChange orderId record payload).run db = .ok ((), db')
      | none => db' = db ∧ ∀ record, r ≠ .ok (some record) := by
  refine .orFail_bind (fun merchantId hscope => .get_bind (.orFail_bind
    (fun record hrecord => ?_) fun hnone => ?_)) fun hnone => ?_
  · rw [transitioned, hscope, Option.bind_some, hrecord]
    split
    next hstatus =>
      rw [Option.filter_some_neg (hself record hstatus)]
      exact .ret ⟨rfl, fun _ h => by cases h⟩
    next =>
      refine .require_bind (fun hcan => ?_) fun hcannot => ?_
      · obtain ⟨db', hrun, -⟩ := merchantChange_ok orderId ⟨_, _, _, _⟩
          (find_of_findMerchantOrderDetail hrecord) rfl
        rw [Option.filter_some_pos hcan]
        exact .bind (.committed hrun (.ret ⟨rfl, _, rfl, rfl, hrun⟩))
      · rw [Option.filter_some_neg (eq_false_of_ne_true hcannot)]
        exact ⟨rfl, fun _ h => by cases h⟩
  · simp [transitioned, hscope, hnone]
  · simp [transitioned, hnone]

theorem MerchantAction.config_self (action : MerchantAction) {record : OrderDetailRecord}
    (h : record.order.status = action.config.targetStatus) :
    action.config.canTransition currentUser record = false := by
  cases action <;>
    simp_all [config, acceptConfig, rejectConfig, preparingConfig, readyConfig,
      confirmPickupConfig, canMerchantAccept, canMerchantReject, canMarkPreparing, canMarkReady,
      canMerchantConfirmPickup]

/-- A transition that is allowed, and gives nothing back and settles nothing. -/
theorem merchantTransition_put {merchantId : Id} {record : OrderDetailRecord}
    (hself : ∀ record : OrderDetailRecord, record.order.status = config.targetStatus →
      config.canTransition currentUser record = false)
    (hscope : currentUser.merchantId = some merchantId)
    (hrecord : findMerchantOrderDetail db orderId merchantId = some record)
    (hcan : config.canTransition currentUser record = true)
    (hkeeps : shouldReleaseInventoryForOrderTransition record.order.status config.targetStatus =
      false) (hopen : config.targetStatus ≠ .delivered) :
    (merchantTransition currentUser orderId reasonCode note config).Ends db fun r db' =>
      r = .ok (some record) ∧ ∃ payload : UpdateOrderStatusInput,
        payload.status = config.targetStatus ∧
          db' = db.put ⟨.order, orderId, some (record.order.changeStatus payload)⟩ := by
  have htransitioned : transitioned db currentUser orderId config = some record := by
    rw [transitioned, hscope, Option.bind_some, hrecord, Option.filter_some_pos hcan]
  obtain ⟨hget, rfl⟩ := get_of_findOrderDetailById (find_of_findMerchantOrderDetail hrecord)
  refine (merchantTransition_ends hself ..).mono fun r db' h => ?_
  rw [htransitioned] at h
  obtain ⟨rfl, payload, hstatus, hfrom, hrun⟩ := h
  refine ⟨rfl, payload, hstatus, ?_⟩
  rw [merchantChange_put hget (by rw [hstatus, hfrom, hkeeps]) (by rw [hstatus]; exact hopen)]
    at hrun
  cases hrun
  rfl

/-- An accepted order that is picked up goes on to be ready. -/
theorem autoAdvancePickupToReady_ends {merchantId : Id} {record : OrderDetailRecord}
    (hscope : currentUser.merchantId = some merchantId)
    (hrecord : findMerchantOrderDetail db orderId merchantId = some record)
    (haccess : hasMerchantOrderAccess currentUser record = true)
    (htype : record.order.deliveryType = .pickup)
    (hstatus : record.order.status = .merchantAccepted) :
    (autoAdvancePickupToReady currentUser orderId).Ends db fun r db' => r = .ok () ∧
      ∃ order', db'.get (.order, orderId) = some order' ∧ order'.status = .ready := by
  refine .bind ((merchantTransition_put ?_ hscope hrecord ?_ ?_ (by decide)).mono fun r db₁ h => ?_)
  · exact fun _ h => MerchantAction.preparing.config_self h
  · simp [canMarkPreparing, haccess, htype, hstatus]
  · rw [hstatus]
    rfl
  obtain ⟨rfl, payload, hpreparing, rfl⟩ := h
  have hprepared := findMerchantOrderDetail_put hrecord payload
  refine .bind ((merchantTransition_put ?_ hscope hprepared ?_ ?_ (by decide)).mono
    fun r db₂ h => ?_)
  · exact fun _ h => MerchantAction.ready.config_self h
  · change (hasMerchantOrderAccess currentUser record && payload.status == .preparing) = true
    rw [haccess, hpreparing]
    rfl
  · change shouldReleaseInventoryForOrderTransition payload.status _ = false
    rw [hpreparing]
    rfl
  obtain ⟨rfl, payload', hready, rfl⟩ := h
  refine .ret ⟨rfl, (record.order.changeStatus payload).changeStatus payload', ?_, hready⟩
  exact Db.get_put_self _ ⟨Tbl.order, orderId, some _⟩

theorem handleMerchantAction_decides (action : MerchantAction) (currentUser : AuthenticatedUser)
    (orderId : Id) (reasonCode note : Option String) {order : Order}
    (horder : db.get (.order, orderId) = some order) :
    (handleMerchantAction currentUser orderId reasonCode note action.config).Ends db
      (Decides db orderId ((currentUser.merchantId.bind (findMerchantOrderDetail db orderId)).any
        (action.config.canTransition currentUser))
          ((ActionRequest.merchant action currentUser orderId reasonCode note).target order)) := by
  refine .bind ((merchantTransition_ends (fun _ h => action.config_self h) ..).mono
    fun r db' h => ?_)
  cases htransitioned : transitioned db currentUser orderId action.config with
  | none =>
    rw [htransitioned] at h
    obtain ⟨rfl, hnone⟩ := h
    have hrefused : (currentUser.merchantId.bind (findMerchantOrderDetail db' orderId)).any
        (action.config.canTransition currentUser) = false := by
      cases hfound : currentUser.merchantId.bind (findMerchantOrderDetail db' orderId) with
      | none => rfl
      | some record =>
        rw [transitioned, hfound] at htransitioned
        simpa using htransitioned
    match r with
    | .error e => exact .refused hrefused rfl
    | .ok none => exact .ret (.refused hrefused rfl)
    | .ok (some record) => exact absurd rfl (hnone record)
  | some record =>
    rw [htransitioned] at h
    obtain ⟨rfl, payload, hstatus, hfrom, hrun⟩ := h
    obtain ⟨hfound, hcan⟩ := Option.filter_eq_some_iff.mp htransitioned
    obtain ⟨merchantId, hscope, hrecord⟩ := Option.bind_eq_some_iff.mp hfound
    obtain ⟨hget, hid⟩ := get_of_findOrderDetailById (find_of_findMerchantOrderDetail hrecord)
    rw [hfound, Option.any_some]
    obtain rfl : record.order = order := Option.some.inj (hget.symm.trans horder)
    dsimp only
    split
    next hadvance =>
      obtain rfl : action = .accept := by
        cases action <;> first | rfl | exact absurd hadvance.1 (by decide)
      obtain ⟨haccess, hplaced⟩ := Bool.and_eq_true_iff.mp hcan
      rw [merchantChange_put (hid ▸ hget) (by rw [hstatus, hfrom, eq_of_beq hplaced]; rfl)
        (by rw [hstatus]; decide)] at hrun
      cases hrun
      rw [hid]
      refine (autoAdvancePickupToReady_ends hscope (findMerchantOrderDetail_put hrecord payload)
        haccess hadvance.2 hstatus).mono fun r db' h => ?_
      obtain ⟨rfl, order', hafter, hready⟩ := h
      exact .done hcan hafter (by rw [hready, ActionRequest.target, if_pos hadvance.2])
    next hdone =>
      obtain ⟨db'', hrun', order', hafter, hto⟩ := merchantChange_ok orderId payload
        (find_of_findMerchantOrderDetail hrecord) hfrom
      cases hrun.symm.trans hrun'
      refine .ret (.done hcan hafter ?_)
      rw [hto, hstatus]
      cases action with
      | accept => exact (if_neg fun hpickup => hdone ⟨rfl, hpickup⟩).symm
      | reject | preparing | ready | confirmPickup => rfl

end Merchants

/-! ### The rider -/

section Riders

variable {action : RiderAction} {config : RiderDeliveryTransitionConfig} {riderId : Id}
  {input : RiderDeliveryActionInput}

/-- The configuration is the action's. -/
structure TransitionOf (action : RiderAction) (config : RiderDeliveryTransitionConfig) : Prop where
  can : config.canTransition = action.can
  target : config.targetOrderStatus = action.orderStatus
  update : ∀ delivery, config.buildDeliveryUpdate delivery = action.update delivery
  rider : config.reloadUnscoped = false → ∀ delivery, (action.update delivery).riderId =
    delivery.riderId
  reason : config.requireReasonCode = true → action = .fail
  moves : action.orderStatus ∉ action.fromStatuses

theorem riderReasonCode_ends {reasonCode : Option String} (h : config.requireReasonCode = true →
      (normalizeOptionalString reasonCode).isSome) :
    (riderReasonCode config reasonCode).Ends db fun r db' => (∃ code, r = .ok code) ∧ db' = db := by
  unfold riderReasonCode
  split
  next hrequired =>
    obtain ⟨code, hcode⟩ := Option.isSome_iff_exists.mp (h hrequired)
    rw [hcode]
    exact .ret ⟨⟨_, rfl⟩, rfl⟩
  next => exact .ret ⟨⟨_, rfl⟩, rfl⟩

variable (config) in
/-- What the transaction of a rider's transition leaves. -/
theorem riderChange_ok {record : DeliveryDetailRecord} (payload : UpdateOrderStatusInput)
    (hrecord : findById db record.id = some record) :
    ∃ db', ((moveDelivery record config.buildDeliveryUpdate payload).bind fun _ =>
        if config.targetOrderStatus = .delivered then settleCashOnDelivery record.delivery.orderId
        else pure ()).run db = .ok ((), db') ∧
      db'.get (.delivery, record.id) = some (config.buildDeliveryUpdate record.delivery) ∧
      ∃ order', db'.get (.order, record.delivery.orderId) = some order' ∧
        order'.status = payload.status := by
  obtain ⟨-, hdelivery, order, horder, -⟩ := get_of_findById hrecord
  have hmove : (moveDelivery record config.buildDeliveryUpdate payload).run db = .ok ((),
      (db.put ⟨.delivery, record.id, some (config.buildDeliveryUpdate record.delivery)⟩).put
        ⟨.order, record.delivery.orderId, some (order.changeStatus payload)⟩) := by
    rw [moveDelivery, Tx.bind_eq, Tx.run_bind, updateById, Tx.run_updateExisting hdelivery]
    refine Tx.run_updateExisting ?_
    rw [Db.get_put_ne _ fun hkey => by cases hkey]
    exact horder
  obtain ⟨hdelivery₂, horder₂⟩ := get_put_put db record.id
    (config.buildDeliveryUpdate record.delivery) record.delivery.orderId
      (order.changeStatus payload)
  generalize (db.put ⟨.delivery, record.id, some (config.buildDeliveryUpdate record.delivery)⟩).put
    ⟨.order, record.delivery.orderId, some (order.changeStatus payload)⟩ = db₂
      at hmove hdelivery₂ horder₂
  have hdelivery' := (hdelivery₂ record.id).trans (if_pos rfl)
  have horder' := (horder₂ record.delivery.orderId).trans (if_pos rfl)
  rw [Tx.run_bind, hmove]
  dsimp only [Except.bind]
  split
  · obtain ⟨db₃, hsettle, hkept⟩ := settleCashOnDelivery_ok record.delivery.orderId db₂
    exact ⟨db₃, hsettle, (hkept (.delivery, record.id) (by simp)).trans hdelivery', _,
      (hkept (.order, record.delivery.orderId) (by simp)).trans horder', rfl⟩
  · exact ⟨db₂, rfl, hdelivery', _, horder', rfl⟩

theorem resolveDispatchAttempt_keeps (orderId riderId : Id) (outcomeCode : DispatchOutcomeCode)
    (db : Store) : (resolveDispatchAttempt orderId riderId outcomeCode).Ends db fun r db' =>
      r = .ok () ∧ ∀ i, db'.get (.order, i) = db.get (.order, i) := by
  refine .get_bind ?_
  cases findPendingAttempt db orderId riderId with
  | none => exact .ret ⟨rfl, fun _ => rfl⟩
  | some attempt =>
    refine .tx (fun u db' h => .ret ⟨rfl, fun i => ?_⟩) fun _ _ => .ret ⟨rfl, fun _ => rfl⟩
    obtain ⟨r, -, rfl⟩ := Tx.run_updateExisting_ok h
    exact Db.get_put_ne _ fun hkey => by cases hkey

/-- What is answered after the transition does not matter to the order. -/
theorem Decides.congr {α β : Type} {r : Except Failure α} {r' : Except Failure β} {db' db'' : Store}
    (h : Decides db orderId allowed target r db') (hr : (∃ a, r = .ok a) → ∃ b, r' = .ok b)
    (hget : db''.get (.order, orderId) = db'.get (.order, orderId)) :
    Decides db orderId allowed target r' db'' := by
  unfold Decides at h ⊢
  split
  next hallowed =>
    rw [if_pos hallowed, ← hget] at h
    exact ⟨hr h.1, h.2⟩
  next hrefused =>
    rw [if_neg hrefused, ← hget] at h
    exact h

section Transitions

variable (hscope : currentUser.riderId = some riderId)
  (hreason : action = .fail → (normalizeOptionalString input.reasonCode).isSome)
  {delivery : Delivery} (hdelivery : db.get (.delivery, input.deliveryId) = some delivery)
  (hof : delivery.orderId = orderId)
include hscope hreason hdelivery hof

theorem handleTransition_decides (h : TransitionOf action config) :
    (handleTransition currentUser input config).Ends db (Decides db orderId
      ((findRiderDeliveryById db input.deliveryId riderId).any (action.can currentUser))
        action.orderStatus) := by
  refine .orFail_bind (fun riderId' hscope' => .get_bind ?_) fun hnone => ?_
  · obtain rfl : riderId = riderId' := Option.some.inj (hscope.symm.trans hscope')
    refine .orFail_bind (fun record hrecord => ?_) fun hnone => ?_
    · have hfind := find_of_findRiderDeliveryById hrecord
      obtain ⟨hid, hget, order, horder, hstatus⟩ := get_of_findById hfind
      cases hdelivery.symm.trans hget
      rw [hrecord, Option.any_some]
      split
      next hreplay =>
        refine .ret (.refused (eq_false_of_ne_true fun hcan => ?_) rfl)
        have hfrom := (RiderAction.of_can hcan).1
        rw [hreplay.1, h.target] at hfrom
        exact h.moves hfrom
      next =>
        refine .require_bind (fun hcan => ?_) fun hcannot => .refused ?_ rfl
        · rw [h.can] at hcan
          refine .bind ((riderReasonCode_ends fun hrequired => hreason (h.reason hrequired)).mono
            fun r db' hr => ?_)
          obtain ⟨⟨code, rfl⟩, rfl⟩ := hr
          obtain ⟨db', hrun, hafter, order', horder', hto⟩ := riderChange_ok config
            ⟨config.targetOrderStatus, _, _, _⟩ (hid ▸ hfind)
          rw [hid] at hafter
          have hreload : findById db' input.deliveryId = some
              ⟨input.deliveryId, config.buildDeliveryUpdate record.delivery, order'.status⟩ := by
            have hsame : (config.buildDeliveryUpdate record.delivery).orderId =
                record.delivery.orderId := by
              rw [h.update]
              cases action <;> rfl
            rw [← hsame] at horder'
            simp [findById, hafter, horder']
          have hfound : (if config.reloadUnscoped then findById db' input.deliveryId
              else findRiderDeliveryById db' input.deliveryId riderId).isSome := by
            split
            · rw [hreload]
              rfl
            next hscoped =>
              have hmine := (Option.filter_eq_some_iff.mp hrecord).2
              rw [findRiderDeliveryById, hreload, Option.filter_some_pos, Option.isSome_some]
              dsimp only
              rw [h.update, h.rider (eq_false_of_ne_true hscoped)]
              exact hmine
          refine .bind (.committed hrun (.get_bind (.orFail (fun found _ => ?_) fun hnone => ?_)))
          · exact .done hcan (hof ▸ horder') (hto.trans h.target)
          · rw [hnone] at hfound
            cases hfound
        · rw [h.can] at hcannot
          exact eq_false_of_ne_true hcannot
    · exact .refused (by rw [hnone, Option.any_none]) rfl
  · rw [hscope] at hnone
    cases hnone

theorem answerRequest_decides (h : TransitionOf action config)
    {outcomeCode : DispatchOutcomeCode} :
    (answerRequest currentUser input config outcomeCode).Ends db (Decides db orderId
      ((findRiderDeliveryById db input.deliveryId riderId).any (action.can currentUser))
        action.orderStatus) := by
  refine .orFail_bind (fun riderId' hscope' => .get_bind (.bind
    ((handleTransition_decides hscope hreason hdelivery hof h).mono fun r db₁ hdecides => ?_)))
      fun hnone => ?_
  · match r with
    | .error e => exact hdecides.congr (fun ⟨_, h⟩ => by cases h) rfl
    | .ok record =>
      cases findRiderDeliveryById db input.deliveryId riderId' with
      | none => exact .ret (hdecides.congr (fun _ => ⟨(), rfl⟩) rfl)
      | some found =>
        refine (resolveDispatchAttempt_keeps ..).mono fun r db' hresolved => ?_
        exact hdecides.congr (fun _ => ⟨(), hresolved.1⟩) (hresolved.2 orderId)
  · rw [hscope] at hnone
    cases hnone

/-- What a rider asks for. -/
theorem riderAction_decides (hoffered : action ≠ .cancel) :
    (action.service currentUser input).Ends db (Decides db orderId
      ((findRiderDeliveryById db input.deliveryId riderId).any (action.can currentUser))
        action.orderStatus) := by
  have hmark : ∀ {config : RiderDeliveryTransitionConfig}, TransitionOf action config →
      ((handleTransition currentUser input config).bind fun _ => Service.ret ()).Ends db
        (Decides db orderId ((findRiderDeliveryById db input.deliveryId riderId).any
          (action.can currentUser)) action.orderStatus) := fun h =>
    .bind ((handleTransition_decides hscope hreason hdelivery hof h).mono fun r db₁ hdecides => by
      cases r with
      | error e => exact hdecides.congr (fun ⟨_, h⟩ => by cases h) rfl
      | ok record => exact .ret (hdecides.congr (fun _ => ⟨(), rfl⟩) rfl))
  cases action with
  | accept =>
    exact answerRequest_decides hscope hreason hdelivery hof ⟨rfl, rfl, fun _ => rfl,
      fun _ _ => rfl, (fun hrequired => by cases hrequired), by decide⟩
  | reject =>
    exact answerRequest_decides hscope hreason hdelivery hof ⟨rfl, rfl, fun _ => rfl,
      (fun hscoped => by cases hscoped), (fun hrequired => by cases hrequired), by decide⟩
  | pickedUp | onTheWay | delivered =>
    exact hmark ⟨rfl, rfl, fun _ => rfl, fun _ _ => rfl, (fun hrequired => by cases hrequired),
      by decide⟩
  | fail => exact hmark ⟨rfl, rfl, fun _ => rfl, fun _ _ => rfl, fun _ => rfl, by decide⟩
  | cancel => exact absurd rfl hoffered

end Transitions

theorem delivery_of_findOrderDetailById {record : OrderDetailRecord}
    (h : findOrderDetailById db orderId = some record) :
    record.delivery = findByOrderId db orderId := by
  simp only [findOrderDetailById, Option.bind_eq_bind, Option.bind_eq_some_iff, Option.pure_def,
    Option.some.injEq] at h
  obtain ⟨order, -, _, -, _, -, _, -, rfl⟩ := h
  rfl

/-- An order's policies and its delivery's allow a rider the same. -/
theorem isAllowed_eq_can {a : OrderAvailableAction}
    (haction : (ActionRequest.rider action currentUser orderId input).action = some a)
    {order : OrderSummaryEntity} {delivery : Delivery}
    (haccess : hasRiderOrderAccess currentUser order = true)
    (hscope : hasRiderScope currentUser ⟨input.deliveryId, delivery, order.order.status⟩ = true)
    (hstatus : delivery.status ∈ order.order.status.deliveryStatuses) :
    a.isAllowed currentUser order =
      action.can currentUser ⟨input.deliveryId, delivery, order.order.status⟩ := by
  cases action <;> cases haction <;>
    simp only [OrderAvailableAction.isAllowed, canRiderAcceptAssignment, canRiderRejectAssignment,
      canRiderMarkPickedUp, canRiderMarkOnTheWay, canRiderMarkDelivered,
      canRiderMarkFailedDelivery, RiderAction.can, canRiderAcceptDeliveryRequest,
      canRiderRejectDeliveryRequest, canRiderMarkDeliveryPickedUp, canRiderMarkDeliveryOnTheWay,
      canRiderMarkDeliveryDelivered, canRiderMarkDeliveryFailed, haccess, hscope, Bool.true_and] <;>
    generalize order.order.status = status at hstatus <;>
    cases status <;> simp_all [OrderStatus.deliveryStatuses, riderFailableStatuses]

theorem found_any_isAllowed (hagree : DeliveriesAgree db) {a : OrderAvailableAction}
    (haction : (ActionRequest.rider action currentUser orderId input).action = some a)
    (hform : ActionRequest.FromRider db action currentUser orderId input)
    (hscope : currentUser.riderId = some riderId) :
    ((ActionRequest.rider action currentUser orderId input).found db).any
      (fun record => a.isAllowed currentUser (withRider db record)) =
        (findRiderDeliveryById db input.deliveryId riderId).any (action.can currentUser) := by
  obtain ⟨record, hrecord, htype⟩ := hform.record
  obtain ⟨delivery, hdelivery, hof⟩ := hform.delivery
  obtain ⟨hget, hid⟩ := get_of_findOrderDetailById hrecord
  have hmine : record.delivery = some (input.deliveryId, delivery) := by
    rw [delivery_of_findOrderDetailById hrecord]
    exact (findByOrderId_iff hagree.unique).mpr ⟨hdelivery, hof⟩
  have hfind : findById db input.deliveryId =
      some ⟨input.deliveryId, delivery, record.order.status⟩ := by
    rw [← hof] at hget
    simp [findById, hdelivery, hget]
  rw [ActionRequest.found, hscope, Option.bind_some, findRiderOrderDetail, hrecord,
    findRiderDeliveryById, hfind]
  by_cases hrider : delivery.riderId = some riderId
  · rw [Option.filter_some_pos (by simp [hmine, hrider]), Option.filter_some_pos (by simp [hrider]),
      Option.any_some, Option.any_some]
    obtain ⟨riderId', rider, hscope', hriderRow, huser⟩ := hform.scope
    obtain rfl : riderId = riderId' := Option.some.inj (hscope.symm.trans hscope')
    refine isAllowed_eq_can haction ?_ ?_ ?_
    · simp [hasRiderOrderAccess, withRider, riderOf, hmine, hrider, hriderRow,
        hasOwnedResourceAccess, hform.role, hscope, huser]
    · simp [hasRiderScope, hscope, hrider]
    · exact hagree.status _ delivery record.order hdelivery (hof ▸ hget) htype
  · rw [Option.filter_some_neg (by simp [hmine, hrider]), Option.filter_some_neg (by simp [hrider])]
    rfl

end Riders

/-! ### Every request -/

variable {request : ActionRequest} {a : OrderAvailableAction} {order : Order}

theorem ActionRequest.get_of_found {record : OrderDetailRecord}
    (h : request.found db = some record) :
    db.get (.order, request.orderId) = some record.order := by
  have hfind : findOrderDetailById db request.orderId = some record := by
    cases request with
    | customerCancel user =>
      obtain ⟨_, -, hrecord⟩ := Option.bind_eq_some_iff.mp h
      exact find_of_findCustomerOrderDetail hrecord
    | merchant action user =>
      obtain ⟨_, -, hrecord⟩ := Option.bind_eq_some_iff.mp h
      exact find_of_findMerchantOrderDetail hrecord
    | rider action user =>
      obtain ⟨_, -, hrecord⟩ := Option.bind_eq_some_iff.mp h
      exact (Option.filter_eq_some_iff.mp hrecord).1
    | adminCancel user =>
      rw [found] at h
      split at h
      · exact h
      · cases h
  exact (get_of_findOrderDetailById hfind).1

/-- What is allowed changes the status. -/
theorem ActionRequest.target_ne (record : OrderSummaryEntity) (haction : request.action = some a)
    (h : a.isAllowed request.currentUser record = true) :
    request.target record.order ≠ record.order.status := by
  intro hsame
  cases request with
  | customerCancel =>
    cases haction
    simp [OrderAvailableAction.isAllowed, canCancelCustomerOrder, ← hsame, target,
      customerCancellableStatuses] at h
  | merchant action =>
    cases action with
    | accept =>
      cases haction
      have hplaced := eq_of_beq (Bool.and_eq_true_iff.mp h).2
      rw [hplaced, target] at hsame
      split at hsame <;> cases hsame
    | reject | preparing | ready | confirmPickup =>
      cases haction
      simp [OrderAvailableAction.isAllowed, canMerchantReject, canMarkPreparing, canMarkReady,
        canMerchantConfirmPickup, ← hsame, target, MerchantAction.config, rejectConfig,
        preparingConfig, readyConfig, confirmPickupConfig] at h
  | rider action =>
    cases action <;> cases haction <;>
      simp [OrderAvailableAction.isAllowed, canRiderAcceptAssignment, canRiderRejectAssignment,
        canRiderMarkPickedUp, canRiderMarkOnTheWay, canRiderMarkDelivered,
        canRiderMarkFailedDelivery, riderFailableStatuses, ← hsame, target,
        RiderAction.orderStatus] at h
  | adminCancel =>
    cases haction
    simp [OrderAvailableAction.isAllowed, canAdminCancelOrder, ← hsame, target,
      adminCancellableStatuses] at h

/-- A request goes by what its page offers. -/
theorem ActionRequest.decides (hagree : DeliveriesAgree db) (haction : request.action = some a)
    (hform : request.WellFormed db) (horder : db.get (.order, request.orderId) = some order) :
    request.call.service.Ends db (Decides db request.orderId ((request.found db).any fun record =>
      a.isAllowed request.currentUser (withRider db record)) (request.target order)) := by
  cases request with
  | customerCancel user orderId reasonCode note =>
    cases haction
    exact cancelCurrentCustomerOrder_decides ..
  | merchant action user orderId reasonCode note =>
    have hmerchant := handleMerchantAction_decides action user orderId reasonCode note horder
    cases action <;> cases haction <;> exact hmerchant
  | rider action user orderId input =>
    obtain ⟨riderId, -, hscope, -⟩ := hform.scope
    obtain ⟨delivery, hdelivery, hof⟩ := hform.delivery
    have hoffered : action ≠ .cancel := by
      rintro rfl
      cases haction
    have hallowed := found_any_isAllowed hagree haction hform hscope
    have hrider := riderAction_decides hscope hform.reason hdelivery hof hoffered
    rw [← hallowed] at hrider
    exact hrider
  | adminCancel user orderId reasonCode note =>
    cases haction
    have hadmin := cancelAdminOrder_decides user orderId reasonCode note db
    rw [found]
    split
    next => exact hadmin
    next hother =>
      have hrefused : (findOrderDetailById db orderId).any (canAdminCancelOrder user) = false := by
        cases findOrderDetailById db orderId <;> simp [canAdminCancelOrder, hother]
      rw [hrefused] at hadmin
      exact hadmin

end Requests

/-! ## Runs -/

/-- What is offered works, and what is not leaves the order as it is. -/
def OffersWork (db : Store) : Prop :=
  ∀ (request : ActionRequest) (a : OrderAvailableAction) (order : Order),
    request.action = some a → request.WellFormed db →
      db.get (.order, request.orderId) = some order →
        (a ∈ request.offers db → request.CarriedOut db order) ∧
          (a ∉ request.offers db →
            (request.call.run db).get (.order, request.orderId) = some order)

theorem DeliveriesAgree.offersWork {db : Store} (h : DeliveriesAgree db) : OffersWork db := by
  intro request a order haction hform horder
  have hdecides := (request.decides h haction hform horder).run
  rw [ActionRequest.mem_offers]
  constructor
  · rintro ⟨record, hfound, hallowed⟩
    obtain rfl : record.order = order :=
      Option.some.inj ((ActionRequest.get_of_found hfound).symm.trans horder)
    rw [Decides, hfound, Option.any_some, if_pos hallowed] at hdecides
    obtain ⟨⟨u, hanswer⟩, order', hafter, hstatus⟩ := hdecides
    refine ⟨hanswer, order', hafter, hstatus, ?_⟩
    rw [hstatus]
    exact ActionRequest.target_ne (withRider db record) haction hallowed
  · intro hnone
    have hrefused : ((request.found db).any fun record => a.isAllowed request.currentUser
        (withRider db record)) = false := by
      cases hfound : request.found db with
      | none => rfl
      | some record => exact eq_false_of_ne_true fun hallowed => hnone ⟨record, hfound, hallowed⟩
    rw [Decides, hrefused, if_neg Bool.false_ne_true] at hdecides
    exact hdecides.trans horder

/-- **What an order's page offers works**, in every state of every run without overrides, and a
request that the page does not offer leaves the order as it is. -/
theorem offered_actions_work {round : ℚ → ℚ} {db : Store} (h : DeliveriesAgree db)
    (calls : List PaymentCall) (hcalls : ∀ call ∈ calls, call.isStatusOverride = false) :
    Always (PaymentCall.run round) OffersWork calls db :=
  (always_of_meetAll (J := DeliveriesAgree)
    (fun (call : PaymentCall) _ hagree (hcall : call.isStatusOverride = false) =>
      call.run_deliveriesAgree hcall hagree)
    (fun call _ _ hcall hagree (_ : True) => call.run_deliveriesAgree hcall hagree) calls h h
    (.of_mem calls db fun call hcall _ => hcalls call hcall)
    (.of_mem calls db fun _ _ _ => True.intro)).mono (fun _ hagree => hagree.offersWork) calls

/-- Along the run, a rider is offered to pick the order up once it is ready. -/
theorem offered_actions_work_delivered :
    Always (PaymentCall.run id) OffersWork deliverOrder twoRiderShop ∧
      (ActionRequest.rider .pickedUp teaRider 1 ⟨1, none, none⟩).offers
        (runAll (PaymentCall.run id) (deliverOrder.take 4) twoRiderShop) = [.riderMarkPickedUp] :=
  ⟨offered_actions_work twoRiderShop_agrees deliverOrder (by decide), by decide +kernel⟩

end WerTe
