import WerTe.OrderOperations

/-!
# Riders, dispatch and deliveries

* `rider-delivery-actions.service.ts`: what a rider does with an assigned delivery.
* `dispatch-assignment.service.ts`: the administrator assigns a rider to an order.
* `auto-dispatch.service.ts`: riders are offered orders one after the other, each for a
  limited time.

Each of these moves two rows, the order and its delivery, in one transaction. The attempts
that auto-dispatch counts are rows of their own, written outside of it. Jobs are calls like
the others, so what is put on the queue is left out, and so are the notifications.
-/

namespace WerTe

open ReadCommitted OrdersRepository DeliveriesRepository RidersRepository DispatchRepository

/-! ## `rider-delivery-policy.ts` -/

def hasRiderScope (currentUser : AuthenticatedUser) (record : DeliveryDetailRecord) : Bool :=
  currentUser.riderId.isSome && record.delivery.riderId == currentUser.riderId

def canRiderAcceptDeliveryRequest (currentUser : AuthenticatedUser)
    (record : DeliveryDetailRecord) : Bool :=
  hasRiderScope currentUser record && record.orderStatus == .riderAssigned &&
    record.delivery.status == .assigned

def canRiderRejectDeliveryRequest (currentUser : AuthenticatedUser)
    (record : DeliveryDetailRecord) : Bool := canRiderAcceptDeliveryRequest currentUser record

def canRiderMarkDeliveryPickedUp (currentUser : AuthenticatedUser)
    (record : DeliveryDetailRecord) : Bool :=
  hasRiderScope currentUser record && record.orderStatus == .ready &&
    (record.delivery.status == .accepted || record.delivery.status == .assigned)

def canRiderMarkDeliveryOnTheWay (currentUser : AuthenticatedUser)
    (record : DeliveryDetailRecord) : Bool :=
  hasRiderScope currentUser record && record.orderStatus == .pickedUp &&
    record.delivery.status == .pickedUp

def canRiderMarkDeliveryDelivered (currentUser : AuthenticatedUser)
    (record : DeliveryDetailRecord) : Bool :=
  hasRiderScope currentUser record && record.orderStatus == .onTheWay &&
    record.delivery.status == .onTheWay

def canRiderMarkDeliveryFailed (currentUser : AuthenticatedUser)
    (record : DeliveryDetailRecord) : Bool :=
  let canFailOrder := record.orderStatus == .pickedUp || record.orderStatus == .onTheWay
  let canFailDelivery :=
    record.delivery.status == .pickedUp || record.delivery.status == .onTheWay
  hasRiderScope currentUser record && canFailOrder && canFailDelivery

/-- Until the order is picked up. -/
def canRiderCancelPrePickup (currentUser : AuthenticatedUser) (record : DeliveryDetailRecord) :
    Bool :=
  let cancellableOrderStatuses : List OrderStatus :=
    [.riderAssigned, .riderAccepted, .preparing, .ready]
  let cancellableDeliveryStatuses : List DeliveryStatus := [.assigned, .accepted]
  hasRiderScope currentUser record && cancellableOrderStatuses.contains record.orderStatus &&
    cancellableDeliveryStatuses.contains record.delivery.status

/-! ## The rider's actions -/

structure RiderDeliveryActionInput where
  deliveryId : Id
  reasonCode : Option String
  note : Option String
deriving DecidableEq, Repr

/-- `RiderDeliveryTransitionConfig`. -/
structure RiderDeliveryTransitionConfig where
  targetOrderStatus : OrderStatus
  targetDeliveryStatus : DeliveryStatus
  defaultReasonCode : Option String
  conflictMessage : String
  requireReasonCode : Bool := false
  reloadUnscoped : Bool := false
  canTransition : AuthenticatedUser → DeliveryDetailRecord → Bool
  buildDeliveryUpdate : Delivery → Delivery

def requireRiderId (currentUser : AuthenticatedUser) : StoreService Id :=
  .orFail currentUser.riderId
    (fail "The authenticated actor does not have a rider scope." .forbidden)

/-- The reason written to the history: a failed delivery needs one of its own. -/
def riderReasonCode (config : RiderDeliveryTransitionConfig) (reasonCode : Option String) :
    StoreService (Option String) :=
  if config.requireReasonCode then
    match normalizeOptionalString reasonCode with
    | some code => .ret (some code)
    | none =>
      .throw (fail "A reason code is required for failed deliveries." .unprocessableEntity)
  else .ret (normalizeOptionalString reasonCode <|> config.defaultReasonCode)

/-- The delivery is written, then its order, whatever either was before. -/
def moveDelivery (record : DeliveryDetailRecord) (data : Delivery → Delivery)
    (payload : UpdateOrderStatusInput) : StoreTx Unit := do
  updateById record.id data
  updateOrderStatus record.delivery.orderId payload

def handleTransition (currentUser : AuthenticatedUser) (input : RiderDeliveryActionInput)
    (config : RiderDeliveryTransitionConfig) : StoreService DeliveryDetailRecord := do
  let riderId ← requireRiderId currentUser
  let found ← .get fun db => findRiderDeliveryById db input.deliveryId riderId
  let record ← .orFail found (fail "Delivery was not found." .notFound)
  if record.orderStatus = config.targetOrderStatus ∧
      record.delivery.status = config.targetDeliveryStatus then pure record
  else do
    .require (config.canTransition currentUser record = true)
      (fail config.conflictMessage .conflict)
    let reasonCode ← riderReasonCode config input.reasonCode
    .transaction (do
      moveDelivery record config.buildDeliveryUpdate {
        status := config.targetOrderStatus
        fromStatus := record.orderStatus
        reasonCode := reasonCode
        note := normalizeOptionalString input.note }
      if config.targetOrderStatus = .delivered then settleCashOnDelivery record.delivery.orderId
      else pure ())
    let reloaded ← .get fun db =>
      if config.reloadUnscoped then findById db input.deliveryId
      else findRiderDeliveryById db input.deliveryId riderId
    .orFail reloaded (fail "Delivery was not found." .notFound)

/-- The rider's latest pending attempt at the order. -/
def findPendingAttempt (db : Store) (orderId riderId : Id) : Option (Id × OrderDispatchAttempt) :=
  let attempts := db.list .orderDispatchAttempt fun attempt =>
    attempt.orderId == orderId && attempt.riderId == riderId && attempt.outcomeCode == .pending
  (attempts.insertionSort fun left right => right.2.attemptedAt ≤ left.2.attemptedAt).head?

/-- The failure of this write is swallowed. -/
def resolveDispatchAttempt (orderId riderId : Id) (outcomeCode : DispatchOutcomeCode) :
    StoreService Unit := do
  let attempt ← .get fun db => findPendingAttempt db orderId riderId
  match attempt with
  | none => pure ()
  | some attempt => .tx (resolveAttempt attempt.1 outcomeCode) fun _ => .ret ()

def acceptRequestConfig : RiderDeliveryTransitionConfig where
  targetOrderStatus := .riderAccepted
  targetDeliveryStatus := .accepted
  defaultReasonCode := some "rider_accepted_assignment"
  conflictMessage := "This delivery request can no longer be accepted."
  canTransition := canRiderAcceptDeliveryRequest
  buildDeliveryUpdate delivery := { delivery with status := .accepted }

def rejectRequestConfig : RiderDeliveryTransitionConfig where
  targetOrderStatus := .merchantAccepted
  targetDeliveryStatus := .pendingAssignment
  defaultReasonCode := some "rider_rejected_assignment"
  conflictMessage := "This delivery request can no longer be rejected."
  reloadUnscoped := true
  canTransition := canRiderRejectDeliveryRequest
  buildDeliveryUpdate delivery := { delivery with riderId := none, status := .pendingAssignment }

def pickedUpConfig : RiderDeliveryTransitionConfig where
  targetOrderStatus := .pickedUp
  targetDeliveryStatus := .pickedUp
  defaultReasonCode := some "rider_picked_up_order"
  conflictMessage := "This delivery can no longer be marked as picked up."
  canTransition := canRiderMarkDeliveryPickedUp
  buildDeliveryUpdate delivery := { delivery with status := .pickedUp }

def onTheWayConfig : RiderDeliveryTransitionConfig where
  targetOrderStatus := .onTheWay
  targetDeliveryStatus := .onTheWay
  defaultReasonCode := some "rider_on_the_way"
  conflictMessage := "This delivery can no longer be marked as on the way."
  canTransition := canRiderMarkDeliveryOnTheWay
  buildDeliveryUpdate delivery := { delivery with status := .onTheWay }

def deliveredConfig : RiderDeliveryTransitionConfig where
  targetOrderStatus := .delivered
  targetDeliveryStatus := .delivered
  defaultReasonCode := some "rider_delivered_order"
  conflictMessage := "This delivery can no longer be marked as delivered."
  canTransition := canRiderMarkDeliveryDelivered
  buildDeliveryUpdate delivery := { delivery with status := .delivered }

def failedConfig : RiderDeliveryTransitionConfig where
  targetOrderStatus := .failedDelivery
  targetDeliveryStatus := .failed
  defaultReasonCode := none
  conflictMessage := "This delivery can no longer be marked as failed."
  requireReasonCode := true
  canTransition := canRiderMarkDeliveryFailed
  buildDeliveryUpdate delivery := { delivery with status := .failed }

/-- A transition after which the rider's attempt at the order is resolved. -/
def answerRequest (currentUser : AuthenticatedUser) (input : RiderDeliveryActionInput)
    (config : RiderDeliveryTransitionConfig) (outcomeCode : DispatchOutcomeCode) :
    StoreService Unit := do
  let riderId ← requireRiderId currentUser
  let delivery ← .get fun db => findRiderDeliveryById db input.deliveryId riderId
  let _ ← handleTransition currentUser input config
  match delivery with
  | none => pure ()
  | some record => resolveDispatchAttempt record.delivery.orderId riderId outcomeCode

def acceptCurrentRiderDeliveryRequest (currentUser : AuthenticatedUser)
    (input : RiderDeliveryActionInput) : StoreService Unit :=
  answerRequest currentUser input acceptRequestConfig .accepted

def rejectCurrentRiderDeliveryRequest (currentUser : AuthenticatedUser)
    (input : RiderDeliveryActionInput) : StoreService Unit :=
  answerRequest currentUser input rejectRequestConfig .rejected

def markCurrentRiderPickedUp (currentUser : AuthenticatedUser)
    (input : RiderDeliveryActionInput) : StoreService Unit := do
  let _ ← handleTransition currentUser input pickedUpConfig
  pure ()

def markCurrentRiderOnTheWay (currentUser : AuthenticatedUser)
    (input : RiderDeliveryActionInput) : StoreService Unit := do
  let _ ← handleTransition currentUser input onTheWayConfig
  pure ()

def markCurrentRiderDelivered (currentUser : AuthenticatedUser)
    (input : RiderDeliveryActionInput) : StoreService Unit := do
  let _ ← handleTransition currentUser input deliveredConfig
  pure ()

def failCurrentRiderDelivery (currentUser : AuthenticatedUser)
    (input : RiderDeliveryActionInput) : StoreService Unit := do
  let _ ← handleTransition currentUser input failedConfig
  pure ()

/-- The order goes back to the riders; the rider's attempt is left as it is. -/
def cancelCurrentRiderDelivery (currentUser : AuthenticatedUser)
    (input : RiderDeliveryActionInput) : StoreService Unit := do
  let riderId ← requireRiderId currentUser
  let found ← .get fun db => findRiderDeliveryById db input.deliveryId riderId
  let record ← .orFail found (fail "Delivery was not found." .notFound)
  .require (canRiderCancelPrePickup currentUser record = true)
    (fail "This delivery can no longer be cancelled." .conflict)
  .transaction (moveDelivery record
    (fun delivery => { delivery with riderId := none, status := .pendingAssignment }) {
      status := .merchantAccepted
      fromStatus := record.orderStatus
      reasonCode :=
        some ((normalizeOptionalString input.reasonCode).getD "rider_cancelled_pre_pickup")
      note := normalizeOptionalString input.note })

/-! ## The administrator assigns a rider -/

def canAdminAssignRider (currentUser : AuthenticatedUser) (record : OrderDetailRecord) : Bool :=
  canViewAdminOrders currentUser &&
    (record.order.status == .merchantAccepted || record.order.status == .riderAssigned)

/-- The order's delivery is given to a rider, and the order marked as assigned. -/
def assignDelivery (newDeliveryId orderId riderId : Id) (payload : UpdateOrderStatusInput) :
    StoreTx Unit := do
  upsertAssignedDelivery newDeliveryId orderId riderId
  updateOrderStatus orderId payload

/-- `newDeliveryId` is the id of the order's delivery, if it has none yet. -/
def assignRiderToOrder (newDeliveryId : Id) (currentUser : AuthenticatedUser)
    (orderId riderId : Id) (reasonCode note : Option String) : StoreService Unit := do
  .require (canViewAdminOrders currentUser = true)
    (fail "You are not allowed to perform dispatch assignment actions." .forbidden)
  let found ← .get fun db => findOrderDetailById db orderId
  let record ← .orFail found (fail "Order was not found." .notFound)
  if record.order.status = .riderAssigned ∧
      (record.delivery.bind fun d => d.2.riderId) = some riderId then pure ()
  else do
    .require (canAdminAssignRider currentUser record = true)
      (fail "This order is not ready for rider assignment." .conflict)
    let rider ← .get fun db => (db.get (.rider, riderId)).map fun rider =>
      isDispatchEligibleRider db rider riderId
    let eligible ← .orFail rider (fail "Rider was not found." .notFound)
    .require (eligible = true)
      (fail "The selected rider is not currently available for assignment." .conflict)
    .transaction (assignDelivery newDeliveryId orderId riderId {
      status := .riderAssigned
      fromStatus := record.order.status
      reasonCode := some ((normalizeOptionalString reasonCode).getD "admin_assigned_rider")
      note := normalizeOptionalString note })

/-! ## Auto-dispatch -/

def maxFailedAttempts : ℕ := 3

/-- The ids and the time that one assignment makes up. -/
structure AssignmentIds where
  attemptId : Id
  deliveryId : Id
  assignedAt : Date
deriving DecidableEq, Repr

def activeDeliveryStatuses : List DeliveryStatus := [.assigned, .accepted, .pickedUp, .onTheWay]

/-- The deliveries a rider is busy with. -/
def countActiveDeliveries (db : Store) (riderId : Id) : ℕ :=
  (db.list .delivery fun delivery =>
    delivery.riderId == some riderId && activeDeliveryStatuses.contains delivery.status).length

/-- `pg_advisory_xact_lock`: wait for the rider's lock and hold it until the transaction ends. -/
def advisoryLock (riderId : Id) : StoreTx Unit :=
  .update fun _ => ((), [⟨.advisoryLock, riderId, some ()⟩])

/-- The transaction of `assignAndNotify`. The status it says the order comes from is a
literal. -/
def autoAssign (newDeliveryId orderId riderId : Id) : StoreTx Unit := do
  advisoryLock riderId
  let activeDeliveries ← .read fun db => countActiveDeliveries db riderId
  .require (activeDeliveries = 0)
    (fail "Rider already has an active delivery (concurrent assignment)." .internalServerError)
  assignDelivery newDeliveryId orderId riderId {
    status := .riderAssigned
    fromStatus := .merchantAccepted
    reasonCode := some "auto_dispatched"
    note := none }

/-- An attempt that comes to nothing is marked, and its failure goes no further. -/
def assignAndNotify (ids : AssignmentIds) (orderId riderId : Id) : StoreService Unit := do
  .transaction (createAttempt ids.attemptId ⟨orderId, riderId, .pending, ids.assignedAt⟩)
  .tx (autoAssign ids.deliveryId orderId riderId) fun outcome =>
    match outcome with
    | .ok _ => .ret ()
    | .error _ => .tx (resolveAttempt ids.attemptId .failed) fun _ => .ret ()

/-- The first eligible rider of the township, or else of any, who has not been tried. -/
def pickEligibleRider (township : Option String) (excludeRiderIds : List Id) :
    StoreService (Option Id) := do
  let untried := fun riders : List (Id × Rider) =>
    riders.filter fun r => !excludeRiderIds.contains r.1
  let matched ← match township with
    | some _ => .get fun db => untried (findEligibleRiders db township)
    | none => .ret []
  match matched with
  | rider :: _ => pure (some rider.1)
  | [] => do
    let any ← .get fun db => untried (findEligibleRiders db none)
    pure (any.head?.map Prod.fst)

def cancelOrderNoRider (orderId : Id) : StoreService Unit :=
  cancelOrderForSystem orderId "no_rider_available"

/-- Cancel the order if too many attempts have failed, or else offer it to a rider who has
not been tried. -/
def dispatchNext (ids : AssignmentIds) (orderId : Id) (township : Option String) :
    StoreService Unit := do
  let failedCount ← .get fun db => countFailedAttempts db orderId
  if maxFailedAttempts ≤ failedCount then cancelOrderNoRider orderId
  else do
    let triedRiderIds ← .get fun db => (findAttempts db orderId).map fun a => a.2.riderId
    let rider ← pickEligibleRider township triedRiderIds
    match rider with
    | none => pure ()
    | some riderId => assignAndNotify ids orderId riderId

/-- An accepted order for delivery that has no rider. -/
def findOrderToDispatch (db : Store) (orderId : Id) : Option Order :=
  (db.get (.order, orderId)).filter fun order =>
    order.status == .merchantAccepted && order.deliveryType == .delivery &&
      (findByOrderId db orderId).all fun d => d.2.riderId.isNone

def handleAutoDispatchOrder (ids : AssignmentIds) (orderId : Id) : StoreService Unit := do
  let order ← .get fun db => findOrderToDispatch db orderId
  match order with
  | none => pure ()
  | some order => dispatchNext ids orderId order.deliveryTownship

def handleAutoDispatchForRider (ids : AssignmentIds) (riderId : Id) (township : Option String) :
    StoreService Unit := do
  let eligible ← .get fun db => (db.get (.rider, riderId)).any fun rider =>
    isDispatchEligibleRider db rider riderId
  if eligible = false then pure ()
  else do
    let orders ← .get fun db => findReadyOrdersWithoutRider db township 1
    match orders with
    | order :: _ => assignAndNotify ids order.1 riderId
    | [] => do
      let fallback ← .get fun db => findReadyOrdersWithoutRider db none 1
      match fallback with
      | order :: _ => assignAndNotify ids order.1 riderId
      | [] => pure ()

/-- The order that a timeout takes back from its rider, with its delivery. -/
def findAssignedOrder (db : Store) (orderId : Id) : Option (Order × Id) :=
  match db.get (.order, orderId), findByOrderId db orderId with
  | some order, some (deliveryId, delivery) =>
    if order.status = .riderAssigned ∧ delivery.status = .assigned then some (order, deliveryId)
    else none
  | _, _ => none

/-- Take the order back from the rider it is assigned to, whoever that is. -/
def resetAssignment (orderId deliveryId : Id) : StoreTx Unit := do
  updateById deliveryId fun delivery =>
    { delivery with riderId := none, status := .pendingAssignment }
  updateOrderStatus orderId {
    status := .merchantAccepted
    fromStatus := .riderAssigned
    reasonCode := some "rider_dispatch_timeout"
    note := none }

def handleRiderDispatchTimeout (ids : AssignmentIds) (orderId attemptId : Id) :
    StoreService Unit := do
  let attempt ← .get fun db => db.get (.orderDispatchAttempt, attemptId)
  if attempt.all (fun a => a.outcomeCode != .pending) = true then pure ()
  else do
    .transaction (resolveAttempt attemptId .timeout)
    let order ← .get fun db => findAssignedOrder db orderId
    match order with
    | none => pure ()
    | some (order, deliveryId) => do
      .transaction (resetAssignment orderId deliveryId)
      dispatchNext ids orderId order.deliveryTownship

end WerTe
