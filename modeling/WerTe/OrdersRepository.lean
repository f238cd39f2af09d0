import Mathlib.Data.List.Sort
import WerTe.InventoryLifecycle

/-!
# Orders, deliveries, dispatch attempts and riders

The statements that the order services issue: `orders.repository.ts`,
`deliveries.repository.ts`, `riders.repository.ts`, and the dispatch attempts that
`auto-dispatch.service.ts` reads and writes directly.
-/

namespace WerTe

open ReadCommitted MenusRepository

/-! ## Orders -/

/-- An order with the relations that `orderDetailInclude` loads with it. -/
structure OrderDetailRecord where
  id : Id
  order : Order
  customerUserId : Id
  merchantId : Id
  merchantUserId : Id
  delivery : Option (Id × Delivery)
deriving DecidableEq

/-- The order's lines, as they are passed on to the inventory service. -/
def Order.inventoryLines (order : Order) : List MenuInventoryOrderLineInput :=
  order.items.map fun item => {
    lineKey := none
    menuItemId := item.menuItemId
    quantity := item.quantity
    menuItemStockTrackedSnapshot := item.menuItemStockTrackedSnapshot
    selectedVariantCombinationId := item.selectedVariantCombinationId
    variantCombinationStockTrackedSnapshot := item.variantCombinationStockTrackedSnapshot
    inventoryLotAllocations := item.inventoryLotAllocations
    selectedOptions := item.selectedOptions }

/-- `UpdateOrderStatusInput`. -/
structure UpdateOrderStatusInput where
  status : OrderStatus
  fromStatus : OrderStatus
  reasonCode : Option String
  note : Option String
deriving DecidableEq, Repr

/-- The order after a change of its status. -/
def Order.changeStatus (order : Order) (payload : UpdateOrderStatusInput) : Order :=
  { order with
    status := payload.status
    statusHistory := order.statusHistory ++
      [⟨some payload.fromStatus, payload.status, payload.reasonCode, payload.note⟩] }

namespace DeliveriesRepository

/-- The delivery of an order. -/
def findByOrderId (db : Store) (orderId : Id) : Option (Id × Delivery) :=
  (db.list .delivery fun delivery => delivery.orderId == orderId).head?

theorem get_of_findByOrderId {db : Store} {orderId deliveryId : Id} {delivery : Delivery}
    (h : findByOrderId db orderId = some (deliveryId, delivery)) :
    db.get (.delivery, deliveryId) = some delivery ∧ delivery.orderId = orderId := by
  obtain ⟨hget, horder⟩ := Db.mem_list.mp (List.mem_of_mem_head? h)
  exact ⟨hget, eq_of_beq horder⟩

theorem findByOrderId_eq_none {db : Store} {orderId deliveryId : Id} {delivery : Delivery}
    (h : findByOrderId db orderId = none)
    (hget : db.get (.delivery, deliveryId) = some delivery) : delivery.orderId ≠ orderId := by
  rintro rfl
  have hmem : (deliveryId, delivery) ∈
      db.list .delivery fun d => d.orderId == delivery.orderId :=
    Db.mem_list.mpr ⟨hget, beq_self_eq_true _⟩
  rw [List.head?_eq_none_iff.mp h] at hmem
  cases hmem

end DeliveriesRepository

namespace OrdersRepository

def findOrderDetailById (db : Store) (orderId : Id) : Option OrderDetailRecord := do
  let order ← db.get (.order, orderId)
  let customerProfile ← db.get (.customerProfile, order.customerProfileId)
  let branch ← db.get (.branch, order.branchId)
  let merchant ← db.get (.merchant, branch.merchantId)
  return ⟨orderId, order, customerProfile.userId, branch.merchantId, merchant.userId,
    DeliveriesRepository.findByOrderId db orderId⟩

def findCustomerOrderDetail (db : Store) (orderId customerProfileId : Id) :
    Option OrderDetailRecord :=
  (findOrderDetailById db orderId).filter (·.order.customerProfileId == customerProfileId)

def findMerchantOrderDetail (db : Store) (orderId merchantId : Id) : Option OrderDetailRecord :=
  (findOrderDetailById db orderId).filter (·.merchantId == merchantId)

/-- The status is written whatever it was before. -/
def updateOrderStatus (orderId : Id) (payload : UpdateOrderStatusInput) : StoreTx Unit :=
  .updateExisting (.order, orderId) (fun order => order.changeStatus payload) .recordNotFound

theorem get_of_findOrderDetailById {db : Store} {orderId : Id} {record : OrderDetailRecord}
    (h : findOrderDetailById db orderId = some record) :
    db.get (.order, orderId) = some record.order ∧ record.id = orderId := by
  simp only [findOrderDetailById, Option.bind_eq_bind, Option.bind_eq_some_iff, Option.pure_def,
    Option.some.injEq] at h
  obtain ⟨order, horder, _, _, _, _, _, _, rfl⟩ := h
  exact ⟨horder, rfl⟩

theorem find_of_findCustomerOrderDetail {db : Store} {orderId customerProfileId : Id}
    {record : OrderDetailRecord}
    (h : findCustomerOrderDetail db orderId customerProfileId = some record) :
    findOrderDetailById db orderId = some record := (Option.filter_eq_some_iff.mp h).1

theorem find_of_findMerchantOrderDetail {db : Store} {orderId merchantId : Id}
    {record : OrderDetailRecord} (h : findMerchantOrderDetail db orderId merchantId = some record) :
    findOrderDetailById db orderId = some record := (Option.filter_eq_some_iff.mp h).1

end OrdersRepository

/-! ## Deliveries -/

namespace DeliveriesRepository

/-- A delivery with the status of its order. -/
structure DeliveryDetailRecord where
  id : Id
  delivery : Delivery
  orderStatus : OrderStatus
deriving DecidableEq, Repr

def findById (db : Store) (deliveryId : Id) : Option DeliveryDetailRecord := do
  let delivery ← db.get (.delivery, deliveryId)
  let order ← db.get (.order, delivery.orderId)
  return ⟨deliveryId, delivery, order.status⟩

def findRiderDeliveryById (db : Store) (deliveryId riderId : Id) : Option DeliveryDetailRecord :=
  (findById db deliveryId).filter (·.delivery.riderId == some riderId)

theorem get_of_findById {db : Store} {deliveryId : Id} {record : DeliveryDetailRecord}
    (h : findById db deliveryId = some record) :
    record.id = deliveryId ∧ db.get (.delivery, deliveryId) = some record.delivery ∧
      ∃ order, db.get (.order, record.delivery.orderId) = some order ∧
        record.orderStatus = order.status := by
  simp only [findById, Option.bind_eq_bind, Option.bind_eq_some_iff, Option.pure_def,
    Option.some.injEq] at h
  obtain ⟨delivery, hdelivery, order, horder, rfl⟩ := h
  exact ⟨rfl, hdelivery, order, horder, rfl⟩

theorem find_of_findRiderDeliveryById {db : Store} {deliveryId riderId : Id}
    {record : DeliveryDetailRecord} (h : findRiderDeliveryById db deliveryId riderId = some record) :
    findById db deliveryId = some record := (Option.filter_eq_some_iff.mp h).1

def updateById (deliveryId : Id) (data : Delivery → Delivery) : StoreTx Unit :=
  .updateExisting (.delivery, deliveryId) data .recordNotFound

/-- `upsertAssignedDelivery`; `newId` is the id of the row if one is created. -/
def upsertAssignedDelivery (newId orderId riderId : Id) : StoreTx Unit :=
  .attempt fun db =>
    match findByOrderId db orderId with
    | some (deliveryId, delivery) =>
      .ok ((), [⟨.delivery, deliveryId, some { delivery with riderId := some riderId, status := .assigned }⟩])
    | none =>
      if (db.get (.delivery, newId)).isSome then .error (.uniqueConstraint "id")
      else .ok ((), [⟨.delivery, newId, some ⟨orderId, some riderId, .assigned⟩⟩])

end DeliveriesRepository

/-! ## Riders -/

namespace RidersRepository

/-- `isDispatchEligibleRider`, from the rider, its user and its availability. -/
def isDispatchEligibleRider (db : Store) (rider : Rider) (riderId : Id) : Bool :=
  rider.status == .active &&
    (db.get (.user, rider.userId)).any (fun user => user.status == .active) &&
    (db.get (.riderAvailability, riderId)).any fun availability =>
      availability.isOnline && availability.isAvailable

/-- The order of `findEligibleRiders`: who came online first, then the id. -/
def riderBefore (db : Store) (left right : Id × Rider) : Bool :=
  let since := fun r : Id × Rider =>
    ((db.get (.riderAvailability, r.1)).map (·.lastStatusChangedAt)).getD 0
  ((compare (since left) (since right)).then (compare left.1 right.1)) != .gt

/-- The riders who may be offered an order; an empty township is no township. -/
def findEligibleRiders (db : Store) (township : Option String) : List (Id × Rider) :=
  let riders := db.list .rider fun rider => township.all fun t => t == "" || rider.currentTownship == some t
  let free := fun riderId => (db.list .delivery fun delivery => delivery.riderId == some riderId &&
    (delivery.status == .assigned || delivery.status == .pickedUp ||
      delivery.status == .onTheWay)).isEmpty
  (riders.filter fun r => isDispatchEligibleRider db r.2 r.1 && free r.1).insertionSort
    fun l r => riderBefore db l r

end RidersRepository

/-! ## Dispatch -/

namespace DispatchRepository

def findAttempts (db : Store) (orderId : Id) : List (Id × OrderDispatchAttempt) :=
  db.list .orderDispatchAttempt fun attempt => attempt.orderId == orderId

/-- The attempts that count against the order. -/
def countFailedAttempts (db : Store) (orderId : Id) : ℕ :=
  ((findAttempts db orderId).filter fun a =>
    a.2.outcomeCode == .timeout || a.2.outcomeCode == .rejected).length

def createAttempt (attemptId : Id) (attempt : OrderDispatchAttempt) : StoreTx Unit :=
  .insertRow (.orderDispatchAttempt, attemptId) attempt fun db =>
    if (db.get (.orderDispatchAttempt, attemptId)).isSome then some (.uniqueConstraint "id") else none

def resolveAttempt (attemptId : Id) (outcomeCode : DispatchOutcomeCode) : StoreTx Unit :=
  .updateExisting (.orderDispatchAttempt, attemptId)
    (fun attempt => { attempt with outcomeCode := outcomeCode }) .recordNotFound

/-- `findReadyOrdersWithoutRider`: accepted orders for delivery that have no delivery record,
oldest first. -/
def findReadyOrdersWithoutRider (db : Store) (township : Option String) (limit : ℕ) :
    List (Id × Order) :=
  let orders := db.list .order fun order =>
    order.status == .merchantAccepted && order.deliveryType == .delivery &&
      township.all fun t => t == "" || order.deliveryTownship == some t
  let before := fun left right : Id × Order =>
    ((compare left.2.placedAt right.2.placedAt).then (compare left.1 right.1)) != .gt
  ((orders.filter fun o => (DeliveriesRepository.findByOrderId db o.1).isNone).insertionSort
    fun l r => before l r).take limit

end DispatchRepository

end WerTe
