import WerTe.ReadCommitted.Alone
import WerTe.ReadCommitted.Faults
import WerTe.RiderAssignments
import WerTe.RiderlessOrders

/-!
# An order and its delivery

Two status machines in two rows say how far an order that is to be delivered has come, and a dozen
operations move one or both of them. `deliveries_agree` says that along every run without overrides
the two tell the same, except that a cancellation leaves the delivery as it is. The rider of such a
delivery stays busy with it for good (`stranded_rider_stays_busy`).
-/

namespace WerTe

open ReadCommitted OrdersRepository DeliveriesRepository Tx

/-! ## What the two rows say -/

/-- The statuses that the delivery of an order may have while the order has this one. -/
def OrderStatus.deliveryStatuses : OrderStatus → List DeliveryStatus
  | .placed | .merchantAccepted | .merchantRejected => [.pendingAssignment]
  | .riderAssigned => [.assigned]
  | .riderAccepted | .preparing | .ready => [.accepted]
  | .pickedUp => [.pickedUp]
  | .onTheWay => [.onTheWay]
  | .delivered => [.delivered]
  | .failedDelivery => [.failed]
  -- a cancellation leaves the delivery alone
  | .cancelled => [.pendingAssignment, .assigned, .accepted, .pickedUp, .onTheWay]

/-- The statuses of an order that no rider has been found for, or may not have been. -/
def riderlessStatuses : List OrderStatus :=
  [.placed, .merchantAccepted, .merchantRejected, .cancelled]

/-- Deliveries belong to orders, one to each, and tell of those that are to be delivered what the
orders themselves tell. -/
structure DeliveriesAgree (db : Store) : Prop where
  ordered : ∀ i delivery, db.get (.delivery, i) = some delivery →
    (db.get (.order, delivery.orderId)).isSome
  unique : DeliveriesUnique db
  rider : ∀ i delivery, db.get (.delivery, i) = some delivery →
    (delivery.riderId = none ↔ delivery.status = .pendingAssignment)
  status : ∀ i delivery order, db.get (.delivery, i) = some delivery →
    db.get (.order, delivery.orderId) = some order → order.deliveryType = .delivery →
      delivery.status ∈ order.status.deliveryStatuses
  assigned : ∀ orderId order, db.get (.order, orderId) = some order →
    order.deliveryType = .delivery → order.status ∉ riderlessStatuses →
      ∃ i delivery, db.get (.delivery, i) = some delivery ∧ delivery.orderId = orderId

/-! ## One step -/

section Steps

variable {call : OrderCall} {start db db' : Store} {orderId : Id} {order : Order}

/-- The delivery need not follow. -/
abbrev OrderStatus.KeepsDelivery (status target : OrderStatus) : Prop :=
  status.deliveryStatuses ⊆ target.deliveryStatuses ∧
    (target ∉ riderlessStatuses → status ∉ riderlessStatuses)

/-- A change of the order's status alone is one that the delivery need not follow. -/
theorem OrderCall.Moves.keeps_delivery {target : OrderStatus}
    (h : call.Moves start db orderId order target) (hcall : call.isStatusOverride = false)
    (htype : order.deliveryType = .delivery) : order.status.KeepsDelivery target := by
  have hto : ∀ statuses : List OrderStatus, order.status ∈ statuses →
      (∀ status ∈ statuses, status.KeepsDelivery target) → order.status.KeepsDelivery target :=
    fun statuses hmem hall => hall _ hmem
  have hone : ∀ status, order.status = status → order.status ∈ [status] :=
    fun status hstatus => List.mem_singleton.mpr hstatus
  cases call with
  | customerCancel =>
    obtain ⟨-, hmem, rfl, -⟩ := h
    exact hto _ hmem (by decide)
  | merchant action =>
    obtain ⟨-, hmoves⟩ := h
    -- a rider has accepted what the merchant prepares
    have hprepares : Prepares order target → order.status.KeepsDelivery target := by
      rintro ⟨rfl, ⟨hpickup, -⟩ | ⟨-, hstatus⟩⟩
      · rw [htype] at hpickup
        cases hpickup
      · exact hto _ (hone _ hstatus) (by decide)
    cases action with
    | accept =>
      rcases hmoves with ⟨hstatus, rfl⟩ | hmoves | ⟨hstatus, rfl⟩
      · exact hto _ (hone _ hstatus) (by decide)
      · exact hprepares hmoves
      · exact hto _ (hone _ hstatus) (by decide)
    | reject =>
      obtain ⟨hstatus, rfl⟩ := hmoves
      exact hto _ (hone _ hstatus) (by decide)
    | preparing => exact hprepares hmoves
    | ready =>
      obtain ⟨hstatus, rfl⟩ := hmoves
      exact hto _ (hone _ hstatus) (by decide)
    | confirmPickup =>
      have hpickup := hmoves.1
      rw [htype] at hpickup
      cases hpickup
  | adminCancel =>
    obtain ⟨-, hmem, rfl, -⟩ := h
    exact hto _ hmem (by decide)
  | adminOverride => cases hcall
  | merchantTimeout =>
    obtain ⟨-, hstatus, rfl⟩ := h
    exact hto _ (hone _ hstatus) (by decide)
  | riderTimeout =>
    obtain ⟨-, hstatus, rfl⟩ := h
    exact hto _ (hone _ hstatus) (by decide)
  | autoDispatchOrder =>
    obtain ⟨-, hstatus, rfl, -⟩ := h
    exact hto _ (hone _ hstatus) (by decide)
  | dispatchTimeout =>
    obtain ⟨-, hstatus, rfl, -⟩ := h
    exact hto _ (hone _ hstatus) (by decide)
  | payment =>
    obtain ⟨-, -, hstatus, rfl⟩ := h
    exact hto _ (hone _ hstatus) (by decide)
  | rider | assignRider | autoDispatchForRider => exact h.elim

theorem DeliveriesAgree.congr (h : DeliveriesAgree db)
    (horder : ∀ i, db'.get (.order, i) = db.get (.order, i))
    (hdelivery : ∀ i, db'.get (.delivery, i) = db.get (.delivery, i)) : DeliveriesAgree db' := by
  constructor
  · intro i delivery hget
    rw [horder]
    exact h.ordered i delivery ((hdelivery i).symm.trans hget)
  · intro i j delivery delivery' hget hget'
    exact h.unique i j delivery delivery' ((hdelivery i).symm.trans hget)
      ((hdelivery j).symm.trans hget')
  · intro i delivery hget
    exact h.rider i delivery ((hdelivery i).symm.trans hget)
  · intro i delivery order hget hof
    exact h.status i delivery order ((hdelivery i).symm.trans hget) ((horder _).symm.trans hof)
  · intro orderId order hget htype hneeds
    obtain ⟨i, delivery, hof⟩ := h.assigned orderId order ((horder _).symm.trans hget) htype hneeds
    exact ⟨i, delivery, (hdelivery i).trans hof.1, hof.2⟩

/-- What is found where a delivery and its order have been written. -/
theorem get_put_put (db : Store) (i : Id) (delivery : Delivery) (orderId : Id) (order' : Order) :
    (∀ j, ((db.put ⟨.delivery, i, some delivery⟩).put ⟨.order, orderId, some order'⟩).get
        (Tbl.delivery, j) = if j = i then some delivery else db.get (.delivery, j)) ∧
      ∀ j, ((db.put ⟨.delivery, i, some delivery⟩).put ⟨.order, orderId, some order'⟩).get
        (Tbl.order, j) = if j = orderId then some order' else db.get (.order, j) := by
  refine ⟨fun j => ?_, fun j => ?_⟩
  · rw [Db.get_put_ne _ fun hkey => by cases hkey]
    split
    next hj =>
      subst hj
      exact Db.get_put_self db ⟨.delivery, j, some delivery⟩
    next hj => exact Db.get_put_ne _ fun hkey => hj (Prod.mk.inj hkey).2
  · split
    next hj =>
      subst hj
      exact Db.get_put_self (db.put ⟨.delivery, i, some delivery⟩) ⟨.order, j, some order'⟩
    next hj =>
      rw [Db.get_put_ne _ fun hkey => hj (Prod.mk.inj hkey).2]
      exact Db.get_put_ne _ fun hkey => by cases hkey

/-- A delivery is written together with its order, and both tell the same. -/
theorem DeliveriesAgree.moved (h : DeliveriesAgree db) (i : Id) (delivery : Delivery)
    {order' : Order}
    (hmine : ∀ old, db.get (.delivery, i) = some old → old.orderId = delivery.orderId)
    (hown : ∀ j other, db.get (.delivery, j) = some other → other.orderId = delivery.orderId →
      j = i)
    (hrider : delivery.riderId = none ↔ delivery.status = .pendingAssignment)
    (hstatus : delivery.status ∈ order'.status.deliveryStatuses) :
    DeliveriesAgree ((db.put ⟨.delivery, i, some delivery⟩).put
      ⟨.order, delivery.orderId, some order'⟩) := by
  obtain ⟨hdelivery, hget⟩ := get_put_put db i delivery delivery.orderId order'
  generalize (db.put ⟨.delivery, i, some delivery⟩).put ⟨.order, delivery.orderId, some order'⟩ =
    db' at hdelivery hget ⊢
  constructor
  · intro j other hother
    rw [hget]
    split
    next => rfl
    next hne =>
      rw [hdelivery] at hother
      split at hother
      next =>
        cases hother
        exact absurd rfl hne
      next => exact h.ordered j other hother
  · intro j k other other' hother hother' hsame
    rw [hdelivery] at hother hother'
    by_cases hj : j = i
    · rw [if_pos hj] at hother
      cases hother
      by_cases hk : k = i
      · rw [hj, hk]
      · rw [if_neg hk] at hother'
        rw [hj, hown k other' hother' hsame.symm]
    · rw [if_neg hj] at hother
      by_cases hk : k = i
      · rw [if_pos hk] at hother'
        cases hother'
        rw [hk, hown j other hother hsame]
      · rw [if_neg hk] at hother'
        exact h.unique j k other other' hother hother' hsame
  · intro j other hother
    rw [hdelivery] at hother
    split at hother
    next =>
      cases hother
      exact hrider
    next => exact h.rider j other hother
  · intro j other order₁ hother horder₁ htype₁
    rw [hdelivery] at hother
    split at hother
    next =>
      cases hother
      rw [hget, if_pos rfl] at horder₁
      cases horder₁
      exact hstatus
    next hj =>
      rw [hget, if_neg fun hof => hj (hown j other hother hof)] at horder₁
      exact h.status j other order₁ hother horder₁ htype₁
  · intro orderId₁ order₁ horder₁ htype₁ hneeds
    rw [hget] at horder₁
    split at horder₁
    next hof => exact ⟨i, delivery, by rw [hdelivery, if_pos rfl], hof.symm⟩
    next hne =>
      obtain ⟨j, other, hother, hof⟩ := h.assigned orderId₁ order₁ horder₁ htype₁ hneeds
      refine ⟨j, other, ?_, hof⟩
      rw [hdelivery, if_neg, hother]
      rintro rfl
      exact hne (hof.symm.trans (hmine other hother))

/-- A row that stock is not given back to is as it was. -/
theorem OrderChanged.get_eq {payload : UpdateOrderStatusInput} {d : Amounts}
    (h : OrderChanged (fun k => (db.get k).isSome) orderId payload d db db') {k : Key Tbl}
    (hk : k ≠ (.order, orderId)) (hsame : ∀ r, amend restock (d k) k r = r) :
    db'.get k = db.get k := by
  cases hget : db.get k with
  | none =>
    have hnone := h.isSome k
    rw [hget, Option.isSome_none] at hnone
    exact Option.not_isSome_iff_eq_none.mp (by rw [hnone]; simp)
  | some r =>
    rw [h.rows k hk (by rw [hget]; rfl), hget, Option.map_some, hsame]

theorem amend_restock_delivery (d : WithZero ℤ) (id : Id) (delivery : Delivery) :
    amend restock d (.delivery, id) delivery = delivery := by
  cases d <;> rfl

/-- The delivery that a rider's action leaves has a rider as its status says. -/
theorem RiderAction.update_rider (action : RiderAction) {delivery : Delivery}
    (hrider : delivery.riderId.isSome) :
    (action.update delivery).riderId = none ↔
      (action.update delivery).status = .pendingAssignment := by
  have hsome : delivery.riderId ≠ none := Option.isSome_iff_ne_none.mp hrider
  cases action <;> simp [RiderAction.update, hsome]

/-- One step keeps an order and its delivery at one. -/
theorem OrderStep.deliveriesAgree (h : OrderStep call start db db')
    (hcall : call.isStatusOverride = false) (hagree : DeliveriesAgree db) :
    DeliveriesAgree db' := by
  cases h with
  | @status _ orderId order payload horder _ hmoves hchanged =>
    have hdelivery : ∀ i, db'.get (.delivery, i) = db.get (.delivery, i) := fun i =>
      hchanged.get_eq (fun hkey => by cases hkey) (amend_restock_delivery _ i)
    have hother : ∀ i, i ≠ orderId → db'.get (.order, i) = db.get (.order, i) := fun i hi =>
      hchanged.get_eq (fun hkey => hi (Prod.mk.inj hkey).2) (amend_restock_order _ i)
    obtain ⟨order₁, horder₁, hafter⟩ := hchanged.order
    cases horder.symm.trans horder₁
    constructor
    · intro i delivery hget
      rw [hdelivery] at hget
      rw [hchanged.isSome]
      exact hagree.ordered i delivery hget
    · intro i j delivery delivery' hget hget'
      rw [hdelivery] at hget hget'
      exact hagree.unique i j delivery delivery' hget hget'
    · intro i delivery hget
      rw [hdelivery] at hget
      exact hagree.rider i delivery hget
    · intro i delivery order' hget hof htype
      rw [hdelivery] at hget
      by_cases hi : delivery.orderId = orderId
      · rw [hi, hafter] at hof
        cases hof
        exact (hmoves.keeps_delivery hcall htype).1
          (hagree.status i delivery order hget (hi ▸ horder) htype)
      · rw [hother _ hi] at hof
        exact hagree.status i delivery order' hget hof htype
    · intro orderId' order' hget htype hneeds
      by_cases hi : orderId' = orderId
      · rw [hi, hafter] at hget
        cases hget
        obtain ⟨i, delivery, hdel, hof⟩ := hagree.assigned orderId order horder htype
          ((hmoves.keeps_delivery hcall htype).2 hneeds)
        exact ⟨i, delivery, (hdelivery i).trans hdel, hof.trans hi.symm⟩
      · rw [hother _ hi] at hget
        obtain ⟨i, delivery, hdel, hof⟩ := hagree.assigned orderId' order' hget htype hneeds
        exact ⟨i, delivery, (hdelivery i).trans hdel, hof⟩
  | @rider action currentUser input delivery order payload _ hdelivery horder hcan hfrom hto =>
    obtain ⟨-, -, riderId, -, hrider⟩ := RiderAction.of_can hcan
    have hof : (action.update delivery).orderId = delivery.orderId := by cases action <;> rfl
    rw [← hof]
    refine hagree.moved _ (action.update delivery) (fun old hold => ?_)
      (fun j other hother hsame => ?_) (action.update_rider (by rw [hrider]; rfl)) ?_
    · cases hdelivery.symm.trans hold
      exact hof.symm
    · exact hagree.unique j _ other delivery hother hdelivery (hsame.trans hof)
    · change _ ∈ payload.status.deliveryStatuses
      rw [hto]
      cases action <;> exact List.mem_singleton_self _
  | @reset _ orderId _ deliveryId delivery order payload _ _ hdelivery hof _ horder _ _ hto =>
    subst hof
    refine hagree.moved deliveryId
      { delivery with riderId := none, status := .pendingAssignment }
      (fun old hold => ?_) (fun j other hother hsame => ?_) (by simp) ?_
    · cases hdelivery.symm.trans hold
      rfl
    · exact hagree.unique j _ other delivery hother hdelivery hsame
    · change _ ∈ payload.status.deliveryStatuses
      rw [hto]
      exact List.mem_singleton_self _
  | @assign deliveryId orderId riderId order payload hdelivery horder _ _ hto =>
    refine hagree.moved deliveryId ⟨orderId, some riderId, .assigned⟩ (fun old hold => ?_)
      (fun j other hother hsame => ?_) (by simp) ?_
    · rcases hdelivery with ⟨delivery, hfind⟩ | ⟨-, hnew⟩
      · obtain ⟨hget, hof⟩ := get_of_findByOrderId hfind
        cases hget.symm.trans hold
        exact hof
      · cases hnew.symm.trans hold
    · rcases hdelivery with ⟨delivery, hfind⟩ | ⟨hnone, -⟩
      · obtain ⟨hget, hof⟩ := get_of_findByOrderId hfind
        exact hagree.unique j _ other delivery hother hget (hsame.trans hof.symm)
      · exact absurd hsame (findByOrderId_eq_none hnone hother)
    · change _ ∈ payload.status.deliveryStatuses
      rw [hto]
      exact List.mem_singleton_self _
  | attempt attemptId attempt =>
    exact hagree.congr (fun _ => Db.get_put_ne _ fun hkey => by cases hkey)
      fun _ => Db.get_put_ne _ fun hkey => by cases hkey
  | rest hrest _ =>
    exact hagree.congr (fun i => hrest (.order, i) (by simp) (by simp))
      fun i => hrest (.delivery, i) (by simp) (by simp)

end Steps

/-! ## Checkouts -/

section Checkouts

variable {round : ℚ → ℚ} {db : Store} {ws : List (Write Row)}

/-- An order that is written has just been placed. -/
def PlacedIfOrder : Write Row → Prop
  | ⟨.order, _, some order⟩ => (order : Order).status = .placed
  | ⟨.order, _, none⟩ => False
  | _ => True

theorem placedIfOrder_of_ne {w : Write Row} (h : w.table ≠ .order) : PlacedIfOrder w := by
  obtain ⟨t, i, row⟩ := w
  cases t with
  | order => exact absurd rfl h
  | _ => exact True.intro

theorem submitOrder_placed {ids : CheckoutIds} {input : SubmitCheckoutInput}
    {currentUser : AuthenticatedUser} {context : CheckoutContext} {cartId : Id}
    {pricing : CheckoutPricingBreakdown} :
    (submitOrder round ids currentUser input context cartId pricing).Writes PlacedIfOrder := by
  have hpayment : ∀ w : Write Row, w.table = .payment → PlacedIfOrder w := fun w hw =>
    placedIfOrder_of_ne (by simp [hw])
  refine .bind .read fun existing => ?_
  cases existing with
  | none =>
    refine .bind .check fun lines => .bind ((reserveLines_writes _ _).mono fun _ hw =>
      placedIfOrder_of_ne hw.table_ne.1) fun reserved => .bind (.insertRow rfl) fun _ =>
        .bind ((createCheckoutPaymentIntent_writes ..).mono hpayment) fun _ =>
          .bind ((updateCart_writes _ _).mono fun _ hw => placedIfOrder_of_ne (by simp [hw]))
            fun _ => .bind ((createAppliedUsage_writes ..).mono fun _ hw =>
              placedIfOrder_of_ne (by simp [hw])) fun _ => .ret _
  | some existing =>
    exact .bind (.ofExcept _) fun _ =>
      .bind ((resolveExistingOrCreatePaymentIntent_writes ..).mono hpayment) fun _ => .ret _

theorem SubmitCall.writes_placed (call : SubmitCall) :
    (call.service round).Writes PlacedIfOrder := by
  refine .bind (getValidatedCurrentCustomerCheckoutContext_readOnly _ _).writes fun _ =>
    .bind (buildPricingBreakdown_readOnly ..).writes fun _ => .tx submitOrder_placed
      fun outcome => ?_
  cases outcome with
  | ok submission => exact .ret _
  | error error =>
    dsimp only
    rw [tryResolveReplayAfterUniqueConstraint]
    split
    · exact (show (Service.throw error : StoreService CheckoutSubmission).ReadOnly from
        True.intro).writes
    · refine .bind (.get _) fun _ => .bind (.orFail _ _) fun existing =>
        .bind (Service.ReadOnly.ofExcept _).writes fun _ => .bind (.get _) fun found => ?_
      cases found with
      | some payment => exact .ret _
      | none =>
        exact .bind (.transaction ((createCheckoutPaymentIntent_writes ..).mono fun _ hw =>
          placedIfOrder_of_ne (by simp [hw]))) fun _ => .ret _

/-- A new order has no delivery, and needs none yet. -/
theorem DeliveriesAgree.checkout (h : DeliveriesAgree db) (hmakes : MakesOrders ws db)
    (hplaced : ∀ w ∈ ws, PlacedIfOrder w) : DeliveriesAgree (db.apply ws) := by
  have hdelivery : ∀ i, (db.apply ws).get (.delivery, i) = db.get (.delivery, i) := fun i =>
    Db.get_apply_of_table fun w hw => (hmakes w hw).1
  have horder : ∀ i order, (db.apply ws).get (.order, i) = some order →
      db.get (.order, i) = some order ∨
        db.get (.order, i) = none ∧ order.status = .placed := by
    intro i order hget
    rcases Db.get_apply_cases ws .order i db with hkept | ⟨row, hrow, hafter⟩
    · exact .inl (hkept.symm.trans hget)
    · cases hafter.symm.trans hget
      exact .inr ⟨(hmakes _ hrow).2 rfl, hplaced _ hrow⟩
  -- an order that was there before is there still
  have hkept : ∀ i order, db.get (.order, i) = some order →
      (db.apply ws).get (.order, i) = some order := by
    intro i order hget
    rcases Db.get_apply_cases ws .order i db with hkept | ⟨row, hrow, -⟩
    · exact hkept.trans hget
    · cases ((hmakes _ hrow).2 rfl).symm.trans hget
  constructor
  · intro i delivery hget
    rw [hdelivery] at hget
    obtain ⟨order, hof⟩ := Option.isSome_iff_exists.mp (h.ordered i delivery hget)
    rw [hkept _ _ hof]
    rfl
  · intro i j delivery delivery' hget hget'
    rw [hdelivery] at hget hget'
    exact h.unique i j delivery delivery' hget hget'
  · intro i delivery hget
    rw [hdelivery] at hget
    exact h.rider i delivery hget
  · intro i delivery order hget hof htype
    rw [hdelivery] at hget
    rcases horder _ _ hof with hof | ⟨hnone, -⟩
    · exact h.status i delivery order hget hof htype
    · have hsome := h.ordered i delivery hget
      rw [hnone] at hsome
      cases hsome
  · intro orderId order hget htype hneeds
    rcases horder _ _ hget with hget | ⟨-, hstatus⟩
    · obtain ⟨i, delivery, hdel, hof⟩ := h.assigned orderId order hget htype hneeds
      exact ⟨i, delivery, (hdelivery i).trans hdel, hof⟩
    · rw [hstatus] at hneeds
      exact absurd (by decide) hneeds

end Checkouts

/-! ## Runs -/

/-- The operation is an administrator's override. -/
def PaymentCall.isStatusOverride : PaymentCall → Bool
  | checkout _ => false
  | order call => call.isStatusOverride

section Runs

variable {round : ℚ → ℚ} {db : Store}

theorem OrderCall.run_deliveriesAgree (call : OrderCall) (hcall : call.isStatusOverride = false)
    (h : DeliveriesAgree db) : DeliveriesAgree (call.run db) := by
  have hsteps : ∀ db', OrderSteps call db db db' → DeliveriesAgree db' := by
    intro db' hsteps
    induction hsteps with
    | refl => exact h
    | tail _ hstep ih => exact hstep.deliveriesAgree hcall ih
  exact hsteps _ (call.run_steps db)

theorem PaymentCall.run_deliveriesAgree (call : PaymentCall) (hcall : call.isStatusOverride = false)
    (h : DeliveriesAgree db) : DeliveriesAgree (call.run round db) := by
  cases call with
  | checkout call =>
    have hguarantees : (call.service round).Guarantees (.rows fun _ => True)
        (fun _ _ ws db => MakesOrders ws db ∧ ∀ w ∈ ws, PlacedIfOrder w) [] :=
      .and _ call.makesOrders call.writes_placed.guarantees
    exact Service.Guarantees.run_keeps (J := DeliveriesAgree) (fun _ _ => True.intro)
      (fun _ _ ws db hagree hcommit => hagree.checkout hcommit.1 hcommit.2) _ hguarantees h
  | order call => exact call.run_deliveriesAgree hcall h

/-- **An order and its delivery agree** in every state of every run of checkouts and of operations
on orders, overrides apart. -/
theorem deliveries_agree (h : DeliveriesAgree db) (calls : List PaymentCall)
    (hcalls : ∀ call ∈ calls, call.isStatusOverride = false) :
    Always (PaymentCall.run round) DeliveriesAgree calls db :=
  always_of_meetAll (J := DeliveriesAgree)
    (fun (call : PaymentCall) _ hagree (hcall : call.isStatusOverride = false) =>
      call.run_deliveriesAgree hcall hagree)
    (fun call _ _ hcall hagree (_ : True) => call.run_deliveriesAgree hcall hagree) calls h h
    (.of_mem calls db fun call hcall _ => hcalls call hcall)
    (.of_mem calls db fun _ _ _ => True.intro)

/-- Where no order has been given to a rider yet. -/
theorem deliveriesAgree_of_none (hnone : ∀ i, db.get (.delivery, i) = none)
    (hriderless : ∀ i order, db.get (.order, i) = some order → order.status ∈ riderlessStatuses) :
    DeliveriesAgree db := by
  have habsurd : ∀ (i : Id) (delivery : Delivery) {P : Prop},
      db.get (.delivery, i) = some delivery → P := by
    intro i delivery P hget
    cases (hnone i).symm.trans hget
  refine ⟨fun i d h => habsurd i d h, fun i _ d _ h => habsurd i d h, fun i d h => habsurd i d h,
    fun i d _ h => habsurd i d h, fun orderId order hget _ hneeds => ?_⟩
  exact absurd (hriderless orderId order hget) hneeds

theorem twoRiderShop_agrees : DeliveriesAgree twoRiderShop := by
  have hdeliveries : twoRiderShop.list .delivery (fun _ => true) = [] := by decide
  have horders : ∀ o ∈ twoRiderShop.list .order (fun _ => true),
      o.2.status ∈ riderlessStatuses := by decide
  refine deliveriesAgree_of_none (fun i => ?_) fun i order hget =>
    horders (i, order) (Db.mem_list.mpr ⟨hget, rfl⟩)
  by_contra hsome
  obtain ⟨delivery, hget⟩ := Option.ne_none_iff_exists'.mp hsome
  have hmem := Db.mem_list (p := fun _ => true) |>.mpr ⟨hget, rfl⟩
  rw [hdeliveries] at hmem
  cases hmem

/-- The order is offered to a rider, who accepts it, prepared, and brought to the customer. -/
def deliverOrder : List PaymentCall := [
  .order (.autoDispatchOrder ⟨1, 1, 0⟩ 1),
  .order (.rider .accept teaRider ⟨1, none, none⟩),
  .order (.merchant .preparing teaMerchant 1 none none),
  .order (.merchant .ready teaMerchant 1 none none),
  .order (.rider .pickedUp teaRider ⟨1, none, none⟩),
  .order (.rider .onTheWay teaRider ⟨1, none, none⟩),
  .order (.rider .delivered teaRider ⟨1, none, none⟩)]

theorem deliveries_agree_delivered :
    Always (PaymentCall.run id) DeliveriesAgree deliverOrder twoRiderShop ∧
      ((runAll (PaymentCall.run id) deliverOrder twoRiderShop).get (.order, 1)).map (·.status) =
        some .delivered :=
  ⟨deliveries_agree twoRiderShop_agrees deliverOrder (by decide), by decide +kernel⟩

end Runs

/-! ## Riders whose order was cancelled -/

/-- The rider has a delivery to make, of an order that has ended. -/
def Stranded (riderId i : Id) (db : Store) : Prop :=
  ∃ delivery order, db.get (.delivery, i) = some delivery ∧ delivery.riderId = some riderId ∧
    delivery.status ∈ activeDeliveryStatuses ∧ db.get (.order, delivery.orderId) = some order ∧
      order.status ∈ terminalOrderStatuses

/-- Every delivery that the rider has, the rider had before. -/
def GivesNothing (riderId : Id) (db db' : Store) : Prop :=
  ∀ j delivery, db'.get (.delivery, j) = some delivery → delivery.riderId = some riderId →
    ∃ delivery₀, db.get (.delivery, j) = some delivery₀ ∧ delivery₀.riderId = some riderId

/-- The operation looks for a rider itself. -/
def OrderCall.findsRider : OrderCall → Bool
  | autoDispatchOrder .. | autoDispatchForRider .. | dispatchTimeout .. => true
  | _ => false

def PaymentCall.findsRider : PaymentCall → Bool
  | checkout _ => false
  | order call => call.findsRider

/-- The operation is a customer's or an administrator's cancellation. -/
def OrderCall.isCancellation : OrderCall → Bool
  | customerCancel .. | adminCancel .. => true
  | _ => false

section Stranded

variable {call : OrderCall} {start db db' : Store} {riderId i : Id}

theorem Stranded.busy (h : Stranded riderId i db) : Busy db riderId i := by
  obtain ⟨delivery, -, hget, hrider, hactive, -⟩ := h
  exact ⟨delivery, hget, hrider, hactive⟩

/-- What a step does to the deliveries: it writes none, or one whose order has not ended. -/
theorem OrderStep.delivery_cases (h : OrderStep call start db db') :
    (∀ j, db'.get (.delivery, j) = db.get (.delivery, j)) ∨
      ∃ j delivery' order, db.get (.order, delivery'.orderId) = some order ∧
        order.status ∉ terminalOrderStatuses ∧
        (∀ delivery, db.get (.delivery, j) = some delivery →
          delivery.orderId = delivery'.orderId) ∧
        (call.findsRider = true → delivery'.riderId = none ∨
          ∃ riderId, delivery'.riderId = some riderId ∧ countActiveDeliveries db riderId = 0) ∧
        call.isCancellation = false ∧
        ∀ k, db'.get (.delivery, k) = if k = j then some delivery' else db.get (.delivery, k) := by
  have hwritten : ∀ (j : Id) (delivery' : Delivery) (order' : Order) (k : Id),
      ((db.put ⟨.delivery, j, some delivery'⟩).put ⟨.order, delivery'.orderId, some order'⟩).get
        (.delivery, k) = if k = j then some delivery' else db.get (.delivery, k) := by
    intro j delivery' order' k
    rw [Db.get_put_ne _ fun hkey => by cases hkey]
    split
    next hk =>
      subst hk
      exact Db.get_put_self db ⟨.delivery, k, some delivery'⟩
    next hk => exact Db.get_put_ne _ fun hkey => hk (Prod.mk.inj hkey).2
  cases h with
  | status _ _ _ hchanged =>
    exact .inl fun j => hchanged.get_eq (fun hkey => by cases hkey) (amend_restock_delivery _ j)
  | @rider action _ input delivery order payload hcall hdelivery horder hcan =>
    right
    have hof : (action.update delivery).orderId = delivery.orderId := by cases action <;> rfl
    have hopen : ∀ status ∈ action.fromStatuses, status ∉ terminalOrderStatuses := by
      cases action <;> decide
    subst hcall
    rw [← hof] at horder ⊢
    refine ⟨input.deliveryId, action.update delivery, order, horder,
      hopen _ (RiderAction.of_can hcan).1, fun old hold => ?_, by simp [OrderCall.findsRider], rfl,
      hwritten _ _ _⟩
    cases hdelivery.symm.trans hold
    exact hof.symm
  | @reset _ orderId _ deliveryId delivery order _ hcall _ hdelivery hof _ horder hstatus =>
    right
    subst hcall hof
    refine ⟨deliveryId, { delivery with riderId := none, status := .pendingAssignment }, order,
      horder, by rw [hstatus]; decide, fun old hold => ?_, fun _ => .inl rfl, rfl, hwritten _ _ _⟩
    cases hdelivery.symm.trans hold
    rfl
  | @assign deliveryId orderId riderId order _ hdelivery horder hassigns =>
    right
    refine ⟨deliveryId, ⟨orderId, some riderId, .assigned⟩, order, horder, ?_, fun old hold => ?_,
      fun hfinds => .inr ⟨riderId, rfl, ?_⟩, ?_, hwritten _ _ _⟩
    · rcases hassigns.status with hstatus | hstatus
      · rw [hstatus]
        decide
      · rw [hstatus]
        decide
    · rcases hdelivery with ⟨delivery, hfind⟩ | ⟨-, hnew⟩
      · obtain ⟨hget, hof⟩ := get_of_findByOrderId hfind
        cases hget.symm.trans hold
        exact hof
      · cases hnew.symm.trans hold
    · cases call with
      | autoDispatchOrder => exact hassigns.2.2
      | autoDispatchForRider => exact hassigns.2.2.2
      | dispatchTimeout => exact hassigns.2.2.1
      | _ => cases hfinds
    · cases call with
      | customerCancel => exact hassigns.elim
      | adminCancel => exact hassigns.elim
      | _ => rfl
  | attempt attemptId attempt =>
    exact .inl fun j => Db.get_put_ne _ fun hkey => by cases hkey
  | rest hrest _ => exact .inl fun j => hrest (.delivery, j) (by simp) (by simp)

/-- An order that has ended stays as it is, unless it is overridden. -/
theorem OrderStep.ended_kept (h : OrderStep call start db db')
    (hcall : call.isStatusOverride = false) {orderId : Id} {order : Order}
    (horder : db.get (.order, orderId) = some order)
    (hended : order.status ∈ terminalOrderStatuses) :
    db'.get (.order, orderId) = some order := by
  rcases h.order_cases horder with hkept | ⟨_, -, hmove, -⟩
  · exact hkept
  · rcases hmove.active with hactive | ⟨_, _, _, rfl, -⟩
    · exact absurd hended hactive
    · cases hcall

theorem Stranded.step (h : Stranded riderId i db) (hstep : OrderStep call start db db')
    (hcall : call.isStatusOverride = false) : Stranded riderId i db' := by
  obtain ⟨delivery, order, hget, hrider, hactive, horder, hended⟩ := h
  refine ⟨delivery, order, ?_, hrider, hactive, hstep.ended_kept hcall horder hended, hended⟩
  rcases hstep.delivery_cases with hsame | ⟨j, delivery', order', horder', hopen, hmine, -, -, hall⟩
  · exact (hsame i).trans hget
  · rw [hall, if_neg, hget]
    rintro rfl
    rw [hmine delivery hget, horder'] at horder
    cases horder
    exact hopen hended

/-- No one looks for a rider who is busy. -/
theorem Stranded.gives_nothing (h : Stranded riderId i db) (hstep : OrderStep call start db db')
    (hfinds : call.findsRider = true) : GivesNothing riderId db db' := by
  intro j delivery hget hrider
  rcases hstep.delivery_cases with hsame | ⟨k, delivery', -, -, -, -, hgiven, -, hall⟩
  · exact ⟨delivery, (hsame j).symm.trans hget, hrider⟩
  · rw [hall] at hget
    split at hget
    next =>
      cases hget
      rcases hgiven hfinds with hnone | ⟨riderId', hsome, hfree⟩
      · cases hnone.symm.trans hrider
      · cases hsome.symm.trans hrider
        exact absurd h.busy (free_of_count hfree i)
    next => exact ⟨delivery, hget, hrider⟩

theorem GivesNothing.trans {db₁ : Store} (h : GivesNothing riderId db db')
    (h' : GivesNothing riderId db' db₁) : GivesNothing riderId db db₁ := by
  intro j delivery hget hrider
  obtain ⟨delivery', hget', hrider'⟩ := h' j delivery hget hrider
  exact h j delivery' hget' hrider'

theorem Stranded.steps (h : Stranded riderId i db) (hsteps : OrderSteps call db db db')
    (hcall : call.isStatusOverride = false) :
    Stranded riderId i db' ∧ (call.findsRider = true → GivesNothing riderId db db') := by
  induction hsteps with
  | refl => exact ⟨h, fun _ j delivery hget hrider => ⟨delivery, hget, hrider⟩⟩
  | tail _ hstep ih =>
    exact ⟨ih.1.step hstep hcall, fun hfinds =>
      (ih.2 hfinds).trans (ih.1.gives_nothing hstep hfinds)⟩

theorem Stranded.checkout {ws : List (Write Row)} (h : Stranded riderId i db)
    (hmakes : MakesOrders ws db) : Stranded riderId i (db.apply ws) := by
  obtain ⟨delivery, order, hget, hrider, hactive, horder, hended⟩ := h
  refine ⟨delivery, order, (Db.get_apply_of_table fun w hw => (hmakes w hw).1).trans hget, hrider,
    hactive, ?_, hended⟩
  rcases Db.get_apply_cases ws .order delivery.orderId db with hkept | ⟨row, hrow, -⟩
  · exact hkept.trans horder
  · cases ((hmakes _ hrow).2 rfl).symm.trans horder

theorem Stranded.run {round : ℚ → ℚ} (h : Stranded riderId i db) (call : PaymentCall)
    (hcall : call.isStatusOverride = false) : Stranded riderId i (call.run round db) ∧
      (call.findsRider = true → GivesNothing riderId db (call.run round db)) := by
  cases call with
  | checkout call =>
    have hguarantees : (call.service round).Guarantees (.rows fun _ => True)
        (fun _ _ ws db => MakesOrders ws db) [] := call.makesOrders
    exact ⟨hguarantees.run_keeps (fun _ _ => True.intro)
      (fun _ _ ws db hstranded hmakes => hstranded.checkout hmakes) _ h,
      fun hfinds => by cases hfinds⟩
  | order call => exact h.steps (call.run_steps db) hcall

/-- A cancellation leaves the deliveries alone. -/
theorem OrderSteps.deliveries_kept (h : OrderSteps call start db db')
    (hcall : call.isCancellation = true) (j : Id) :
    db'.get (.delivery, j) = db.get (.delivery, j) := by
  induction h with
  | refl => rfl
  | tail _ hstep ih =>
    rcases hstep.delivery_cases with hsame | ⟨_, _, _, -, -, -, -, hnone, -⟩
    · exact (hsame j).trans ih
    · rw [hcall] at hnone
      cases hnone

/-- **A cancellation strands the rider.** When an order is cancelled under way, its rider stays busy
with it in every state of every later run without overrides, and none of the operations that look
for a rider gives this one anything again. -/
theorem stranded_rider_stays_busy {round : ℚ → ℚ} (h : DeliveriesAgree db)
    (hcall : call.isCancellation = true) {orderId : Id} {order order' : Order}
    (horder : db.get (.order, orderId) = some order) (htype : order.deliveryType = .delivery)
    (hunder : order.status ∉ riderlessStatuses ∧ order.status ∉ terminalOrderStatuses)
    (hafter : (call.run db).get (.order, orderId) = some order')
    (hcancelled : order'.status = .cancelled) :
    ∃ riderId i, ∀ calls : List PaymentCall, (∀ call ∈ calls, call.isStatusOverride = false) →
      Always (PaymentCall.run round) (Busy · riderId i) calls (call.run db) ∧
        MeetAll (PaymentCall.run round) (fun call db => call.findsRider = true →
          GivesNothing riderId db (call.run round db)) calls (call.run db) := by
  have hactive : ∀ status : OrderStatus, status ∉ riderlessStatuses →
      status ∉ terminalOrderStatuses → ∀ s ∈ status.deliveryStatuses,
        s ∈ activeDeliveryStatuses := by
    intro status
    cases status <;> decide
  obtain ⟨i, delivery, hget, hof⟩ := h.assigned orderId order horder htype hunder.1
  have hstatus := hactive _ hunder.1 hunder.2 _
    (h.status i delivery order hget (hof ▸ horder) htype)
  have hrider : delivery.riderId ≠ none := fun hnone => by
    rw [(h.rider i delivery hget).mp hnone] at hstatus
    exact absurd hstatus (by decide)
  obtain ⟨riderId, hriderId⟩ := Option.ne_none_iff_exists'.mp hrider
  have hstranded : Stranded riderId i (call.run db) :=
    ⟨delivery, order', (OrderSteps.deliveries_kept (call.run_steps db) hcall i).trans hget,
      hriderId, hstatus, hof ▸ hafter, by rw [hcancelled]; decide⟩
  refine ⟨riderId, i, fun calls hcalls => ?_⟩
  have hdom : MeetAll (PaymentCall.run round) (fun call _ => call.isStatusOverride = false) calls
      (call.run db) := .of_mem calls _ fun call hmem _ => hcalls call hmem
  constructor
  · exact (always_of_meetAll (J := Stranded riderId i)
      (fun (call : PaymentCall) _ hs (hcall : call.isStatusOverride = false) =>
        (hs.run call hcall).1)
      (fun call _ _ hcall hs (_ : True) => (hs.run call hcall).1) calls hstranded hstranded hdom
      (.of_mem calls _ fun _ _ _ => True.intro)).mono (fun _ hs => hs.busy) calls
  · exact .of_inv (J := Stranded riderId i)
      (fun call _ hs hcall (_ : True) => (hs.run call hcall).1)
      (fun call _ hs hcall => (hs.run call hcall).2)
      calls hstranded hdom (.of_mem calls _ fun _ _ _ => True.intro)

/-- The order after a rider has accepted it and its preparation has begun. -/
def preparedShop : Store := runAll (PaymentCall.run id) (deliverOrder.take 3) twoRiderShop

/-- The customer cancels it then. -/
theorem stranded_rider_stays_busy_prepared : ∃ riderId i, ∀ calls : List PaymentCall,
    (∀ call ∈ calls, call.isStatusOverride = false) →
      Always (PaymentCall.run id) (Busy · riderId i) calls
          ((OrderCall.customerCancel teaCustomer 1 none none).run preparedShop) ∧
        MeetAll (PaymentCall.run id) (fun call db => call.findsRider = true →
          GivesNothing riderId db (call.run id db)) calls
            ((OrderCall.customerCancel teaCustomer 1 none none).run preparedShop) := by
  have hbefore : (preparedShop.get (.order, 1)).any (fun order =>
      order.deliveryType == .delivery && order.status == .preparing) = true := by decide +kernel
  have hafter : (((OrderCall.customerCancel teaCustomer 1 none none).run preparedShop).get
      (.order, 1)).any (fun order => order.status == .cancelled) = true := by decide +kernel
  have hagree : DeliveriesAgree preparedShop :=
    OrderCall.run_deliveriesAgree (.merchant .preparing teaMerchant 1 none none) rfl
      (OrderCall.run_deliveriesAgree (.rider .accept teaRider ⟨1, none, none⟩) rfl
        (OrderCall.run_deliveriesAgree (.autoDispatchOrder ⟨1, 1, 0⟩ 1) rfl twoRiderShop_agrees))
  obtain ⟨order, horder, hprepared⟩ := (Option.any_eq_true _ _).mp hbefore
  obtain ⟨order', horder', hcancelled⟩ := (Option.any_eq_true _ _).mp hafter
  simp only [Bool.and_eq_true, beq_iff_eq] at hprepared hcancelled
  refine stranded_rider_stays_busy hagree rfl horder hprepared.1 ?_ horder' hcancelled
  rw [hprepared.2]
  decide

end Stranded

end WerTe
