import Mathlib.Data.Fin.VecNotation
import WerTe.PaymentLifecycle
import WerTe.StockTotals

/-!
# Giving an order's stock back

What the transactions that cancel an order do to it and to the stock (`OrderChanged`), and
what follows when any number of them run at once on one order: they may give the order's
stock back twice, since each decides on a status it has read before its transaction.
`released_at_most_once` says when they do not.
-/

namespace WerTe

open ReadCommitted OrdersRepository Tx

/-! ## What one transaction does -/

/-- The stock an order holds: what its lines took, from items, lots, options and variants. -/
def Order.reserved (order : Order) : Amounts :=
  demand (order.inventoryLines.map fun line => (line, line.inventoryLotAllocations))

/-- The order's status has changed, and `d` has been added to the stock that is `present`. -/
structure OrderChanged (present : Key Tbl → Prop) (orderId : Id)
    (payload : UpdateOrderStatusInput) (d : Amounts) (db db' : Store) : Prop where
  /-- the order -/
  order : ∃ order, db.get (.order, orderId) = some order ∧
    db'.get (.order, orderId) = some (order.changeStatus payload)
  /-- every other row that is present -/
  rows : ∀ k, k ≠ (.order, orderId) → present k → db'.get k = (db.get k).map (amend restock (d k) k)
  /-- no row comes or goes -/
  isSome : ∀ k, (db'.get k).isSome = (db.get k).isSome

theorem restoreLots_silent (allocations : List MenuInventoryLotAllocation) :
    (restoreLots allocations).Silent := by
  induction allocations with
  | nil => exact .ret ()
  | cons a allocations ih => exact .bind (Tx.silent_updateRow ..) fun _ => ih

theorem restoreOptions_silent (quantity : ℤ) (optionIds : List Id) :
    (restoreOptions quantity optionIds).Silent := by
  induction optionIds with
  | nil => exact .ret ()
  | cons optionId optionIds ih => exact .bind (Tx.silent_updateRow ..) fun _ => ih

theorem restoreItem_silent (line : MenuInventoryOrderLineInput) : (restoreItem line).Silent := by
  unfold restoreItem
  split
  · exact .bind (Tx.silent_updateRow ..) fun _ => restoreLots_silent _
  · exact .ret ()

theorem restoreVariant_silent (line : MenuInventoryOrderLineInput) :
    (restoreVariant line).Silent := by
  unfold restoreVariant
  split
  · exact .ret ()
  · exact .bind (Tx.silent_updateRow ..) fun _ => .ret ()

theorem restoreTrackedInventoryForOrder_silent (lines : List MenuInventoryOrderLineInput) :
    (restoreTrackedInventoryForOrder lines).Silent := by
  induction lines with
  | nil => exact .ret ()
  | cons line lines ih =>
    exact .bind (restoreItem_silent line) fun _ => .bind (restoreVariant_silent line) fun _ =>
      .bind (restoreOptions_silent _ _) fun _ => ih

section Transactions

variable {I S : Store → Prop} {present : Key Tbl → Prop} {orderId : Id}
  {payload : UpdateOrderStatusInput} {d : Amounts}

/-- Stock given back after the order's row has been written. -/
theorem OrderChanged.of_restocked {order : Order} {db : Store} {ws : List (Write Row)}
    {d' : Amounts} (horder : db.get (.order, orderId) = some order)
    (hd' : ∀ k, present k → d' k = d k)
    (h : Accumulates restock d' ws (db.apply [⟨.order, orderId, some (order.changeStatus payload)⟩])) :
    OrderChanged present orderId payload d db
      (db.apply ([⟨.order, orderId, some (order.changeStatus payload)⟩] ++ ws)) := by
  have hself : (db.apply [⟨.order, orderId, some (order.changeStatus payload)⟩]).get
      (.order, orderId) = some (order.changeStatus payload) := Db.get_put_self ..
  have hother : ∀ k, k ≠ (.order, orderId) →
      (db.apply [⟨.order, orderId, some (order.changeStatus payload)⟩]).get k = db.get k :=
    fun k hk => Db.get_put_ne _ hk
  rw [Db.apply_append]
  refine ⟨⟨order, horder, ?_⟩, fun k hk hpresent => ?_, fun k => ?_⟩
  · rw [h.rows, hself]
    -- the amount for an order's row is irrelevant: restocking leaves such rows alone
    cases d' (.order, orderId) <;> rfl
  · rw [h.rows, hother k hk, hd' k hpresent]
  · rw [h.isSome]
    by_cases hk : k = (.order, orderId)
    · rw [hk, hself, horder]
      rfl
    · rw [hother k hk]

/-- An order's status is written, and then stock is given back. -/
theorem updateOrderStatus_then_commits {rest : StoreTx Unit} (hsilent : rest.Silent)
    (hrest : ∀ {J : Store → Prop}, (∀ db, J db → ∀ k, present k → (db.get k).isSome) →
      Triple J .fresh rest fun _ => restocked present d)
    (hpresent : ∀ db, I db → ∀ k, present k → (db.get k).isSome) :
    Triple I (.and .fresh (.sees S)) ((updateOrderStatus orderId payload).bind fun _ => rest)
      fun _ => .commits fun seen db db' =>
        S seen ∧ OrderChanged present orderId payload d db db' := by
  refine Triple.bind Triple.updateExisting_fresh fun _ => Triple.ex fun base =>
    Triple.ex fun order => Triple.given fun horder => ?_
  have hpresent' : ∀ db, Written I [⟨.order, orderId, some (order.changeStatus payload)⟩] db →
      ∀ k, present k → (db.get k).isSome := by
    rintro _ ⟨db, hdb, rfl⟩ k hk
    exact db.isSome_put (hpresent db hdb k hk)
  refine (Triple.after hsilent (.sees hsilent (hrest hpresent'))).conseq (fun _ _ _ _ h => h) ?_
  rintro _ seen _ db _ ⟨ws, rfl, hbase, ⟨d', hd', hacc⟩, hS⟩ db' hI' hag
  have horder' : db'.get (.order, orderId) = some order :=
    ((hbase.trans hag.left) (.order, orderId) (List.mem_singleton_self _)).symm.trans horder
  exact ⟨hS, .of_restocked horder' hd' (hacc.congr hag.apply)⟩

omit S in
/-- Nothing has been given back. -/
theorem restocked_nothing :
    Triple I .fresh (.ret () : StoreTx Unit) fun _ => restocked present 0 := by
  refine Triple.ret fun _ _ db _ h => ?_
  cases h
  exact ⟨0, fun _ _ => rfl, .nil db⟩

theorem updateOrderStatus_silent {rest : StoreTx Unit} (hrest : rest.Silent) :
    ((updateOrderStatus orderId payload).bind fun _ => rest).Silent :=
  .bind (Tx.silent_updateExisting ..) fun _ => hrest

/-- What is given back with a change of status. -/
def givenBack (record : OrderDetailRecord) (payload : UpdateOrderStatusInput) : Amounts :=
  if shouldReleaseInventoryForOrderTransition payload.fromStatus payload.status then
    record.order.reserved
  else 0

theorem changeOrderStatus_commits {record : OrderDetailRecord}
    (hpresent : ∀ db, I db → ∀ k, present k → (db.get k).isSome) :
    Triple I (.and .fresh (.sees S)) (changeOrderStatus record payload) fun _ =>
      .commits fun seen db db' =>
        S seen ∧ OrderChanged present record.id payload (givenBack record payload) db db' := by
  refine updateOrderStatus_then_commits ?_ (fun {J} hJ => ?_) hpresent
  · split
    · exact restoreTrackedInventoryForOrder_silent _
    · exact .ret ()
  · unfold givenBack
    split
    · exact restoreTrackedInventoryForOrder_restocked hJ _
    · exact restocked_nothing

end Transactions

/-! ## The calls -/

/-- The paths that cancel an order. -/
inductive ReleaseCall
  | customerCancel (currentUser : AuthenticatedUser) (reasonCode note : Option String)
  | merchantReject (currentUser : AuthenticatedUser) (reasonCode note : Option String)
  | adminCancel (currentUser : AuthenticatedUser) (reasonCode note : Option String)
  | merchantTimeout
  | riderTimeout
  | failPayment (currentUser : AuthenticatedUser) (input : PaymentLifecycleInput)
  | cancelPayment (currentUser : AuthenticatedUser) (input : PaymentLifecycleInput)
  | expirePayment (currentUser : AuthenticatedUser) (input : PaymentLifecycleInput)
  | noRider

namespace ReleaseCall

/-- The call, for one order. -/
def service (orderId : Id) : ReleaseCall → StoreService Unit
  | customerCancel currentUser reasonCode note =>
    cancelCurrentCustomerOrder currentUser orderId reasonCode note
  | merchantReject currentUser reasonCode note =>
    rejectCurrentMerchantOrder currentUser orderId reasonCode note
  | adminCancel currentUser reasonCode note => cancelAdminOrder currentUser orderId reasonCode note
  | merchantTimeout => handleMerchantTimeout orderId
  | riderTimeout => handleRiderTimeout orderId
  | failPayment currentUser input => failCurrentPayment currentUser input
  | cancelPayment currentUser input => cancelCurrentPayment currentUser input
  | expirePayment currentUser input => expireCurrentPayment currentUser input
  | noRider => cancelOrderForSystem orderId "no_rider_available"

/-- The status the call gives the order. -/
def targetStatus : ReleaseCall → OrderStatus
  | merchantReject .. => .merchantRejected
  | _ => .cancelled

/-- The payment whose failure cancels the order, and the status it takes. -/
def failing : ReleaseCall → Option (Id × PaymentStatus)
  | failPayment _ input => some (input.paymentId, .failed)
  | cancelPayment _ input => some (input.paymentId, .cancelled)
  | expirePayment _ input => some (input.paymentId, .expired)
  | _ => none

/-- The call decides, on what it reads in this database, to give the order's stock back. -/
def Releases (orderId : Id) (call : ReleaseCall) (seen : Store) : Bool :=
  (findOrderDetailById seen orderId).any (fun record =>
    shouldReleaseInventoryForOrderTransition record.order.status call.targetStatus) &&
  call.failing.all fun p =>
    (PaymentsRepository.findById seen p.1).any fun payment => shouldAutoCancelOrder payment p.2

/-- The call is about this order. -/
def On (db : Store) (orderId : Id) (call : ReleaseCall) : Prop :=
  ∀ p ∈ call.failing, ∀ payment, db.get (.payment, p.1) = some payment → payment.orderId = orderId

end ReleaseCall

/-! ## The invariant -/

/-- The order has been cancelled or rejected. -/
def Order.Released (order : Order) : Prop := order.status ∈ inventoryReleaseToStatuses

instance (order : Order) : Decidable order.Released :=
  inferInstanceAs (Decidable (_ ∈ inventoryReleaseToStatuses))

/-- The order's status in a database is one that follows a cancellation or a rejection. -/
def ReleasedIn (db : Store) (orderId : Id) : Prop :=
  ∃ order, db.get (.order, orderId) = some order ∧ order.Released

instance (db : Store) (orderId : Id) : Decidable (ReleasedIn db orderId) :=
  match h : db.get (.order, orderId) with
  | none => .isFalse fun ⟨_, horder, _⟩ => by rw [h] at horder; cases horder
  | some order => decidable_of_iff order.Released
      ⟨fun hr => ⟨order, h, hr⟩, fun ⟨_, horder, hr⟩ => by rw [h] at horder; cases horder; exact hr⟩

/-- What every commit keeps of the order, its payments and the rows there are. -/
structure Held (db₀ : Store) (orderId : Id) (order₀ : Order) (db : Store) : Prop where
  /-- the order keeps its lines, and its status unless it is cancelled or rejected -/
  order : ∃ order, db.get (.order, orderId) = some order ∧ order.items = order₀.items ∧
    (order.status = order₀.status ∨ order.Released)
  /-- payments keep their order and their method -/
  payment : ∀ id payment, db.get (.payment, id) = some payment →
    ∃ payment₀, db₀.get (.payment, id) = some payment₀ ∧ payment.orderId = payment₀.orderId ∧
      payment.method = payment₀.method
  /-- no row comes or goes -/
  isSome : ∀ k, (db.get k).isSome = (db₀.get k).isSome

/-- What one commit does. -/
structure ReleaseEffect (orderId : Id) (order₀ : Order) (present : Key Tbl → Prop)
    (call : ReleaseCall) (seen db db' : Store) : Prop where
  /-- the order is cancelled or rejected, or left as it is by a call that gives nothing back -/
  order : ∃ order order', db.get (.order, orderId) = some order ∧
    db'.get (.order, orderId) = some order' ∧ order'.items = order.items ∧
    (order'.Released ∨ order' = order ∧ call.Releases orderId seen = false)
  /-- payments keep their order and their method -/
  payment : ∀ id payment', db'.get (.payment, id) = some payment' → ∃ payment,
    db.get (.payment, id) = some payment ∧ payment'.orderId = payment.orderId ∧
      payment'.method = payment.method
  /-- the order's stock is given back if the call so decides, and no other -/
  rows : ∀ k, k.1 ≠ .order → k.1 ≠ .payment → present k → db'.get k =
    (db.get k).map (amend restock (if call.Releases orderId seen then order₀.reserved k else 0) k)
  /-- no row comes or goes -/
  isSome : ∀ k, (db'.get k).isSome = (db.get k).isSome

section Commits

variable {db₀ : Store} {orderId : Id} {order₀ : Order}

theorem Held.present {db : Store} (h : Held db₀ orderId order₀ db) (k : Key Tbl)
    (hk : (db₀.get k).isSome) : (db.get k).isSome := (h.isSome k).trans hk

/-- Restocking leaves tables without stock alone. -/
theorem amend_restock_payment (d : WithZero ℤ) (id : Id) (payment : Payment) :
    amend restock d (.payment, id) payment = payment := by
  cases d <;> rfl

theorem ReleaseEffect.held {call : ReleaseCall} {seen db db' : Store}
    (h : ReleaseEffect orderId order₀ (fun k => (db₀.get k).isSome) call seen db db')
    (hdb : Held db₀ orderId order₀ db) : Held db₀ orderId order₀ db' := by
  obtain ⟨order, order', horder, horder', hitems, hstatus⟩ := h.order
  obtain ⟨_, hget, hitems₀, hstatus₀⟩ := hdb.order
  rw [horder] at hget
  cases hget
  refine ⟨⟨order', horder', hitems.trans hitems₀, ?_⟩, fun id payment' hpayment' => ?_,
    fun k => (h.isSome k).trans (hdb.isSome k)⟩
  · rcases hstatus with hreleased | ⟨rfl, -⟩
    · exact .inr hreleased
    · exact hstatus₀
  · obtain ⟨payment, hpayment, ho, hm⟩ := h.payment id payment' hpayment'
    obtain ⟨payment₀, hpayment₀, ho₀, hm₀⟩ := hdb.payment id payment hpayment
    exact ⟨payment₀, hpayment₀, ho.trans ho₀, hm.trans hm₀⟩

/-- An order's change of status, as an effect of a call that releases accordingly. -/
theorem OrderChanged.effect {call : ReleaseCall} {payload : UpdateOrderStatusInput} {d : Amounts}
    {present : Key Tbl → Prop} {seen db db' : Store}
    (h : OrderChanged present orderId payload d db db')
    (hpresent : ∀ k, (db.get k).isSome → present k)
    (hstatus : payload.status ∈ inventoryReleaseToStatuses)
    (hd : d = if call.Releases orderId seen then order₀.reserved else 0) :
    ReleaseEffect orderId order₀ present call seen db db' := by
  obtain ⟨order, horder, horder'⟩ := h.order
  refine ⟨⟨order, _, horder, horder', rfl, .inl hstatus⟩, fun id payment' hpayment' => ?_,
    fun k hk _ hk' => ?_, h.isSome⟩
  · have hsome : (db.get (.payment, id)).isSome := by
      rw [← h.isSome, hpayment']
      rfl
    obtain ⟨payment, hpayment⟩ := Option.isSome_iff_exists.mp hsome
    have hrow := h.rows (.payment, id) (fun hkey => by cases hkey) (hpresent _ hsome)
    rw [hpayment, hpayment', Option.map_some, amend_restock_payment] at hrow
    cases hrow
    exact ⟨_, hpayment, rfl, rfl⟩
  · rw [h.rows k (fun hkey => hk (congrArg Prod.fst hkey)) hk', hd]
    split <;> rfl

/-- A transaction that writes one of the two statuses to the order that the call has read. -/
theorem changeOrderStatus_effect {call : ReleaseCall} {record : OrderDetailRecord}
    {payload : UpdateOrderStatusInput} {seen : Store} (hseen : Held db₀ orderId order₀ seen)
    (hrecord : findOrderDetailById seen orderId = some record)
    (hfrom : payload.fromStatus = record.order.status) (hto : payload.status = call.targetStatus)
    (hcall : call.failing = none) :
    Triple (Held db₀ orderId order₀) (.and .fresh (.sees (· = seen)))
      (changeOrderStatus record payload) fun _ =>
        .commits (ReleaseEffect orderId order₀ (fun k => (db₀.get k).isSome) call) := by
  obtain ⟨horder, hid⟩ := get_of_findOrderDetailById hrecord
  obtain ⟨_, hget, hitems, -⟩ := hseen.order
  rw [horder] at hget
  cases hget
  have hreserved : record.order.reserved = order₀.reserved := by
    rw [Order.reserved, Order.inventoryLines, hitems, ← Order.inventoryLines, ← Order.reserved]
  refine (changeOrderStatus_commits fun _ hdb k hk => hdb.present k hk).commits_imp ?_
  rintro _ db db' hdb ⟨rfl, h⟩
  rw [hid] at h
  refine h.effect (fun k hk => (hdb.isSome k).symm.trans hk) ?_ ?_
  · rw [hto]
    cases call <;> simp [ReleaseCall.targetStatus, inventoryReleaseToStatuses]
  · rw [givenBack, ReleaseCall.Releases, hrecord, hcall, hfrom, hto, hreserved]
    simp

/-! ### A failing payment -/

theorem transitionPaymentStatus_triple {I S : Store → Prop} {paymentId : Id}
    {payload : PaymentTransitionInput} :
    Triple I (.and .fresh (.sees S)) (PaymentsRepository.transitionPaymentStatus paymentId payload)
      fun record => .ex fun base : Store => .ex fun payment : Payment => .given
        (base.get (.payment, paymentId) = some payment ∧
          record.payment = payment.transition payload)
        (.and (.after base [⟨.payment, paymentId, some (payment.transition payload)⟩] .fresh)
          (.sees fun seen => I seen ∧ PaymentsRepository.findById seen paymentId =
            some { record with id := paymentId, payment := payment })) := by
  refine Triple.bind Triple.updateExisting_fresh fun _ => Triple.ex fun base =>
    Triple.ex fun payment => Triple.given fun hpayment => ?_
  refine Triple.seq (fun found =>
      .and (.after base [⟨.payment, paymentId, some (Payment.transition payment payload)⟩] .fresh)
        (.sees fun seen => I seen ∧ seen.get (.payment, paymentId) = some payment ∧
          found = PaymentsRepository.findById
            (seen.put ⟨.payment, paymentId, some (Payment.transition payment payload)⟩) paymentId))
    (Triple.read ?_) fun found => Triple.orFail ?_
  · rintro _ _ db hdb ⟨_, rfl, hbase, rfl, -⟩
    have hget : db.get (.payment, paymentId) = some payment :=
      (hbase (.payment, paymentId) (List.mem_singleton_self _)).symm.trans hpayment
    exact ⟨⟨[], rfl, hbase, rfl⟩, hdb, hget, rfl⟩
  · rintro record hrecord seen _ db _ ⟨⟨_, rfl, hbase, rfl⟩, hseen, hget, rfl⟩
    have hself : (seen.put ⟨.payment, paymentId, some (Payment.transition payment payload)⟩).get
        (.payment, paymentId) = some (Payment.transition payment payload) := Db.get_put_self ..
    obtain ⟨hid, hrow, order, horder, hstatus⟩ := PaymentsRepository.get_of_findById hrecord
    rw [hself] at hrow
    have hpay : record.payment = Payment.transition payment payload := (Option.some.inj hrow).symm
    rw [hpay, Db.get_put_ne _ fun hk => by cases hk] at horder
    refine ⟨base, payment, ⟨hpayment, hpay⟩, ⟨[], rfl, hbase, rfl⟩, hseen, ?_⟩
    rw [PaymentsRepository.findById_eq_some hget horder, hstatus]

/-- Whether a payment's end cancels its order depends on its method and its order only. -/
theorem shouldAutoCancelOrder_transition (record : PaymentSummaryRecord) (payment : Payment)
    (payload : PaymentTransitionInput) (targetStatus : PaymentStatus) (id : Id)
    (h : record.payment = payment.transition payload) :
    shouldAutoCancelOrder { record with id := id, payment := payment } targetStatus =
      shouldAutoCancelOrder record targetStatus := by
  simp [shouldAutoCancelOrder, h, Payment.transition]

/-- Writing a payment does not change what is found of an order. -/
theorem findOrderDetailById_put_payment (db : Store) (orderId paymentId : Id)
    (payment : Option Payment) :
    findOrderDetailById (db.put ⟨.payment, paymentId, payment⟩) orderId =
      findOrderDetailById db orderId := by
  have hget : ∀ k : Key Tbl, k.1 ≠ .payment →
      (db.put ⟨.payment, paymentId, payment⟩).get k = db.get k :=
    fun k hk => Db.get_put_ne _ fun hkey => hk (congrArg Prod.fst hkey)
  have hlist := Db.list_put_ne db (w := ⟨.payment, paymentId, payment⟩) (t := .delivery)
    (fun h => by cases h) (fun delivery => delivery.orderId == orderId)
  simp [findOrderDetailById, DeliveriesRepository.findByOrderId, hget, hlist]

/-- An effect that follows the transition of a payment. -/
theorem ReleaseEffect.after_payment {call : ReleaseCall} {present : Key Tbl → Prop} {paymentId : Id}
    {payment : Payment} {payload : PaymentTransitionInput} {seen db db' : Store}
    (hpayment : db.get (.payment, paymentId) = some payment)
    (h : ReleaseEffect orderId order₀ present call seen
      (db.put ⟨.payment, paymentId, some (payment.transition payload)⟩) db') :
    ReleaseEffect orderId order₀ present call seen db db' := by
  have hself : (db.put ⟨.payment, paymentId, some (payment.transition payload)⟩).get
      (.payment, paymentId) = some (payment.transition payload) := Db.get_put_self ..
  have hother : ∀ k, k ≠ (.payment, paymentId) →
      (db.put ⟨.payment, paymentId, some (payment.transition payload)⟩).get k = db.get k :=
    fun k hk => Db.get_put_ne _ hk
  obtain ⟨order, order', horder, hrest⟩ := h.order
  rw [hother _ fun hk => by cases hk] at horder
  refine ⟨⟨order, order', horder, hrest⟩, fun id payment' hpayment' => ?_,
    fun k hk hkp hpresent => ?_, fun k => ?_⟩
  · obtain ⟨payment₁, hpayment₁, ho, hm⟩ := h.payment id payment' hpayment'
    by_cases hid : id = paymentId
    · subst hid
      rw [hself] at hpayment₁
      cases hpayment₁
      exact ⟨payment, hpayment, ho, hm⟩
    · rw [hother _ fun hk => hid (Prod.mk.inj hk).2] at hpayment₁
      exact ⟨payment₁, hpayment₁, ho, hm⟩
  · rw [h.rows k hk hkp hpresent, hother k fun hkey => hkp (congrArg Prod.fst hkey)]
  · rw [h.isSome]
    by_cases hk : k = (.payment, paymentId)
    · rw [hk, hself, hpayment]
      rfl
    · rw [hother k hk]

/-- The statuses that a commit of these calls may find the order in. -/
theorem Held.status {db : Store} (h : Held db₀ orderId order₀ db) {order : Order}
    (horder : db.get (.order, orderId) = some order) :
    order.items = order₀.items ∧ (order.status = order₀.status ∨ order.Released) := by
  obtain ⟨_, hget, hheld⟩ := h.order
  rw [horder] at hget
  cases hget
  exact hheld

/-- The stock an order holds depends on its lines alone. -/
theorem Order.reserved_congr {order order' : Order} (h : order.items = order'.items) :
    order.reserved = order'.reserved := by
  rw [Order.reserved, Order.inventoryLines, h, ← Order.inventoryLines, ← Order.reserved]

theorem not_released_of_placed {order : Order} (h : order.status = .placed) : ¬ order.Released := by
  simp [Order.Released, inventoryReleaseToStatuses, h]

theorem not_releasable_of_released {order : Order} (h : order.Released) (status : OrderStatus) :
    shouldReleaseInventoryForOrderTransition order.status status = false := by
  have hstatus : order.status = .cancelled ∨ order.status = .merchantRejected := by
    simpa [Order.Released, inventoryReleaseToStatuses] using h
  rcases hstatus with h | h <;>
    simp [shouldReleaseInventoryForOrderTransition, inventoryReleasableFromStatuses, h]

/-- The payment's writes, and the database that was last queried. -/
def paymentWritten {I : Store → Prop} (base : Store) (paymentId : Id) (payment : Payment)
    (payload : PaymentTransitionInput) (S : Store → Prop) : Assertion I :=
  .and (.after base [⟨.payment, paymentId, some (payment.transition payload)⟩] .fresh) (.sees S)

/-- A payment's transition that leaves the order alone. -/
theorem paymentWritten_effect {call : ReleaseCall} {base : Store} {paymentId : Id}
    {payment : Payment} {payload : PaymentTransitionInput}
    (hpayment : base.get (.payment, paymentId) = some payment) :
    Triple (Held db₀ orderId order₀)
      (paymentWritten base paymentId payment payload fun seen =>
        call.Releases orderId seen = false)
      (.ret () : StoreTx Unit) fun _ =>
        .commits (ReleaseEffect orderId order₀ (fun k => (db₀.get k).isSome) call) := by
  refine Triple.ret ?_
  rintro seen _ db hdb ⟨⟨_, rfl, hbase, rfl⟩, hreleases⟩ db' hdb' hag
  have hget : db'.get (.payment, paymentId) = some payment :=
    ((hbase.trans hag) (.payment, paymentId) (List.mem_singleton_self _)).symm.trans hpayment
  obtain ⟨order, horder, -⟩ := hdb'.order
  have horder' : (db'.put ⟨.payment, paymentId, some (payment.transition payload)⟩).get
      (.order, orderId) = some order := (Db.get_put_ne _ fun hk => by cases hk).trans horder
  refine .after_payment hget ⟨⟨order, order, horder', horder', rfl, .inr ⟨rfl, hreleases⟩⟩,
    fun id payment' hpayment' => ⟨payment', hpayment', rfl, rfl⟩, fun k _ _ _ => ?_, fun _ => rfl⟩
  rw [hreleases, if_neg Bool.false_ne_true, Accumulates.map_amend_zero]
  rfl

/-- What the database held in which `autoCancelOrder` found `detail`. -/
structure AutoCancelSeen (db₀ : Store) (orderId : Id) (order₀ : Order) (paymentId : Id)
    (payment : Payment) (detail : Option OrderDetailRecord) (seen : Store) : Prop where
  held : Held db₀ orderId order₀ seen
  payment : seen.get (.payment, paymentId) = some payment
  detail : detail = findOrderDetailById seen orderId

/-- The end of `autoCancelOrder`: what it gives back of the order it has read. -/
def autoCancelRelease (detail : Option OrderDetailRecord) : StoreTx Unit :=
  match detail with
  | none => pure ()
  | some record =>
    if shouldReleaseInventoryForOrderTransition record.order.status .cancelled then
      restoreTrackedInventoryForOrder record.order.inventoryLines
    else pure ()

/-- The amounts of that. -/
def autoCancelAmounts (detail : Option OrderDetailRecord) : Amounts :=
  match detail with
  | none => 0
  | some record =>
    if shouldReleaseInventoryForOrderTransition record.order.status .cancelled then
      record.order.reserved
    else 0

/-- They are the order's stock if the call releases it. -/
theorem AutoCancelSeen.amounts {call : ReleaseCall} {paymentId : Id} {payment : Payment}
    {payload : PaymentTransitionInput} {record : PaymentSummaryRecord}
    {detail : Option OrderDetailRecord} {targetStatus : PaymentStatus} {seen : Store}
    (h : AutoCancelSeen db₀ orderId order₀ paymentId payment detail seen)
    (hcall : call.failing = some (paymentId, targetStatus)) (htarget : call.targetStatus = .cancelled)
    (horderId : payment.orderId = orderId) (hrecord : record.payment = payment.transition payload)
    (hcancel : shouldAutoCancelOrder record targetStatus = true)
    (hplaced : order₀.status = .placed) :
    autoCancelAmounts detail = if call.Releases orderId seen then order₀.reserved else 0 := by
  obtain ⟨hheld, hpayment, rfl⟩ := h
  rw [ReleaseCall.Releases, hcall, htarget]
  cases hdetail : findOrderDetailById seen orderId with
  | none => rfl
  | some detail =>
    obtain ⟨horder, -⟩ := get_of_findOrderDetailById hdetail
    obtain ⟨hitems, hstatus⟩ := hheld.status horder
    simp only [autoCancelAmounts, Option.any_some, Order.reserved_congr hitems]
    rcases hstatus with hstatus | hreleased
    · -- still placed: the payment's end cancels it, and its stock is given back
      have hfind := PaymentsRepository.findById_eq_some hpayment (horderId.symm ▸ horder)
      rw [hstatus, hplaced] at hfind
      have hsame : shouldAutoCancelOrder ⟨paymentId, payment, .placed⟩ targetStatus = true := by
        rw [← hcancel, ← shouldAutoCancelOrder_transition record payment payload targetStatus
          paymentId hrecord]
        have hplaced' : record.orderStatus = .placed := by
          by_contra hne
          simp [shouldAutoCancelOrder, hne] at hcancel
        rw [hplaced']
      simp [hfind, hsame]
    · simp [not_releasable_of_released hreleased]

/-- The cancellation that a payment's end brings about. -/
theorem autoCancelOrder_effect {call : ReleaseCall} {base : Store} {paymentId : Id}
    {payment : Payment} {payload : PaymentTransitionInput} {record : PaymentSummaryRecord}
    {reasonCode note : Option String} {targetStatus : PaymentStatus}
    (hcall : call.failing = some (paymentId, targetStatus)) (horderId : payment.orderId = orderId)
    (hpayment : base.get (.payment, paymentId) = some payment)
    (hrecord : record.payment = payment.transition payload)
    (hcancel : shouldAutoCancelOrder record targetStatus = true)
    (hplaced : order₀.status = .placed) :
    Triple (Held db₀ orderId order₀) (paymentWritten base paymentId payment payload fun _ => True)
      (autoCancelOrder record reasonCode note) fun _ =>
        .commits (ReleaseEffect orderId order₀ (fun k => (db₀.get k).isSome) call) := by
  have horderId' : record.payment.orderId = orderId := by rw [hrecord]; exact horderId
  have htarget : call.targetStatus = .cancelled := by
    cases call <;> first | rfl | cases hcall
  unfold autoCancelOrder
  rw [horderId']
  refine Triple.seq (fun detail => paymentWritten base paymentId payment payload
    (AutoCancelSeen db₀ orderId order₀ paymentId payment detail)) (Triple.read ?_) fun detail => ?_
  · rintro _ _ db hdb ⟨⟨_, rfl, hbase, rfl⟩, -⟩
    have hget : db.get (.payment, paymentId) = some payment :=
      (hbase (.payment, paymentId) (List.mem_singleton_self _)).symm.trans hpayment
    exact ⟨⟨[], rfl, hbase, rfl⟩, hdb, hget, findOrderDetailById_put_payment db orderId paymentId _⟩
  · have hrest : ∀ {J : Store → Prop},
        (∀ db, J db → ∀ k, (db₀.get k).isSome → (db.get k).isSome) →
        Triple J .fresh (autoCancelRelease detail) fun _ =>
          restocked (fun k => (db₀.get k).isSome) (autoCancelAmounts detail) := by
      intro J hJ
      cases detail with
      | none => exact restocked_nothing
      | some detail =>
        simp only [autoCancelRelease, autoCancelAmounts]
        split
        · exact restoreTrackedInventoryForOrder_restocked hJ _
        · exact restocked_nothing
    have hsilent : (autoCancelRelease detail).Silent := by
      unfold autoCancelRelease
      split
      · exact .ret ()
      · split
        · exact restoreTrackedInventoryForOrder_silent _
        · exact .ret ()
    have hpresent : ∀ db, Written (Held db₀ orderId order₀)
        [⟨.payment, paymentId, some (payment.transition payload)⟩] db →
        ∀ k, (db₀.get k).isSome → (db.get k).isSome := by
      rintro _ ⟨db, hdb, rfl⟩ k hk
      exact db.isSome_put (hdb.present k hk)
    have hbody : Triple (Held db₀ orderId order₀)
        (.after base [⟨.payment, paymentId, some (payment.transition payload)⟩]
          (.and .fresh (.sees (AutoCancelSeen db₀ orderId order₀ paymentId payment detail))))
        ((updateOrderStatus orderId ⟨.cancelled, record.orderStatus, reasonCode, note⟩).bind
          fun _ => autoCancelRelease detail)
        fun _ => .after base [⟨.payment, paymentId, some (payment.transition payload)⟩]
          (.commits fun seen db db' =>
            AutoCancelSeen db₀ orderId order₀ paymentId payment detail seen ∧
              OrderChanged (fun k => (db₀.get k).isSome) orderId
                ⟨.cancelled, record.orderStatus, reasonCode, note⟩ (autoCancelAmounts detail) db db') :=
      Triple.after (updateOrderStatus_silent hsilent)
        (updateOrderStatus_then_commits hsilent hrest hpresent)
    refine hbody.conseq ?_ ?_
    · rintro _ _ _ _ ⟨⟨ws, rfl, hbase, hfresh⟩, hseen⟩
      exact ⟨ws, rfl, hbase, hfresh, hseen⟩
    · intro _ seen ws db _ h db' hdb' hag
      obtain ⟨hbase, hseen, hchanged⟩ := Assertion.commits_of_after h db' hdb' hag
      have hget : db'.get (.payment, paymentId) = some payment :=
        (hbase (.payment, paymentId) (List.mem_singleton_self _)).symm.trans hpayment
      have hpresent' : ∀ k, ((db'.put ⟨.payment, paymentId,
          some (payment.transition payload)⟩).get k).isSome → (db₀.get k).isSome := by
        intro k hk
        rw [← hdb'.isSome]
        by_cases hkey : k = (.payment, paymentId)
        · rw [hkey, hget]
          rfl
        · have hother : (db'.put ⟨.payment, paymentId, some (payment.transition payload)⟩).get k =
              db'.get k := Db.get_put_ne _ hkey
          rwa [hother] at hk
      refine .after_payment hget (hchanged.effect hpresent' ?_ ?_)
      · exact List.mem_cons_self
      · exact hseen.amounts hcall htarget horderId hrecord hcancel hplaced

/-- The transaction of a payment that fails, is cancelled or expires. -/
theorem paymentTransition_effect {call : ReleaseCall} {S : Store → Prop} {paymentId : Id}
    {payload : PaymentTransitionInput} {reasonCode note : Option String}
    {targetStatus : PaymentStatus} (hcall : call.failing = some (paymentId, targetStatus))
    (hon : call.On db₀ orderId) :
    Triple (Held db₀ orderId order₀) (.and .fresh (.sees S))
      ((PaymentsRepository.transitionPaymentStatus paymentId payload).bind fun record =>
        if shouldAutoCancelOrder record targetStatus then autoCancelOrder record reasonCode note
        else .ret ())
      fun _ => .commits (ReleaseEffect orderId order₀ (fun k => (db₀.get k).isSome) call) := by
  refine Triple.bind transitionPaymentStatus_triple fun record => Triple.ex fun base =>
    Triple.ex fun payment => Triple.given fun ⟨hpayment, hrecord⟩ => ?_
  -- the order's status when the payment was read back, and the payment's order
  refine fun seen ws db hdb hpre => ?_
  obtain ⟨hheld, hfind⟩ := hpre.2
  obtain ⟨-, hget, order, horder, hstatus⟩ := PaymentsRepository.get_of_findById hfind
  obtain ⟨payment₀, hpayment₀, ho, -⟩ := hheld.payment paymentId payment hget
  have horderId : payment.orderId = orderId := ho.trans (hon _ hcall payment₀ hpayment₀)
  by_cases hcancel : shouldAutoCancelOrder record targetStatus = true
  · have hplaced : record.orderStatus = .placed := by
      by_contra hne
      simp [shouldAutoCancelOrder, hne] at hcancel
    rw [if_pos hcancel]
    refine autoCancelOrder_effect hcall horderId hpayment hrecord hcancel ?_ seen ws db hdb
      ⟨hpre.1, True.intro⟩
    rw [horderId] at horder
    have hplaced' : order.status = .placed := hstatus.symm.trans hplaced
    rcases (hheld.status horder).2 with h | h
    · exact h.symm.trans hplaced'
    · exact absurd h (not_released_of_placed hplaced')
  · rw [if_neg hcancel]
    refine paymentWritten_effect hpayment seen ws db hdb ⟨hpre.1, ?_⟩
    have hsame := shouldAutoCancelOrder_transition record payment payload targetStatus paymentId
      hrecord
    change call.Releases orderId seen = false
    rw [ReleaseCall.Releases, hcall]
    simp [hfind, hsame, hcancel]

theorem handlePaymentTransition_spec {call : ReleaseCall} {currentUser : AuthenticatedUser}
    {input : PaymentLifecycleInput} {config : PaymentLifecycleConfig}
    (hcall : call.failing = some (input.paymentId, config.targetStatus))
    (hon : call.On db₀ orderId) (seen : Store) :
    (handlePaymentTransition currentUser input config).Spec (Held db₀ orderId order₀)
      (ReleaseEffect orderId order₀ (fun k => (db₀.get k).isSome) call) seen := by
  refine Service.Spec.require_bind fun _ => Service.Spec.get_bind fun db _ =>
    Service.Spec.orFail_bind fun payment _ => ?_
  split
  · exact True.intro
  · exact Service.Spec.require_bind fun _ =>
      .transaction_seen (paymentTransition_effect hcall hon)

/-- Every call does to the order what it decides to, whatever commits beside it. -/
theorem ReleaseCall.service_spec {call : ReleaseCall} (hon : call.On db₀ orderId) (seen : Store) :
    (call.service orderId).Spec (Held db₀ orderId order₀)
      (ReleaseEffect orderId order₀ (fun k => (db₀.get k).isSome) call) seen := by
  cases call with
  | customerCancel currentUser reasonCode note =>
    refine Service.Spec.orFail_bind fun _ _ => Service.Spec.get_bind fun db hdb =>
      Service.Spec.orFail_bind fun record hrecord => ?_
    split
    · exact True.intro
    · exact Service.Spec.require_bind fun _ => .transaction_seen
        (changeOrderStatus_effect hdb (find_of_findCustomerOrderDetail hrecord) rfl rfl rfl)
  | merchantReject currentUser reasonCode note =>
    refine Service.Spec.bind (fun transitioned _ => ?_) _ ?_
    · cases transitioned with
      | none => exact True.intro
      | some record => exact True.intro
    · refine Service.Spec.orFail_bind fun _ _ => Service.Spec.get_bind fun db hdb =>
        Service.Spec.orFail_bind fun record hrecord => ?_
      split
      · exact True.intro
      · refine Service.Spec.require_bind fun _ => Service.Spec.bind (fun _ _ => ?_) _ ?_
        · exact True.intro
        · have heffect : Triple (Held db₀ orderId order₀) (.and .fresh (.sees (· = db)))
              (changeOrderStatus record ⟨.merchantRejected, record.order.status,
                some (reasonCode.getD "merchant_rejected"), note⟩) fun _ =>
              .commits (ReleaseEffect orderId order₀ (fun k => (db₀.get k).isSome)
                (.merchantReject currentUser reasonCode note)) :=
            changeOrderStatus_effect hdb (find_of_findMerchantOrderDetail hrecord) rfl rfl rfl
          exact .transaction_seen (Triple.bind heffect fun _ => Triple.ret fun _ _ _ _ h => h)
  | adminCancel currentUser reasonCode note =>
    refine Service.Spec.require_bind fun _ => Service.Spec.get_bind fun db hdb =>
      Service.Spec.orFail_bind fun record hrecord => ?_
    split
    · exact True.intro
    · exact Service.Spec.require_bind fun _ => .transaction_seen
        (changeOrderStatus_effect hdb hrecord rfl rfl rfl)
  | merchantTimeout =>
    refine Service.Spec.get_bind fun db hdb => ?_
    cases hrecord : findOrderDetailById db orderId with
    | none => exact True.intro
    | some record =>
      dsimp only
      split
      · exact True.intro
      · exact .transaction_seen (changeOrderStatus_effect hdb hrecord rfl rfl rfl)
  | riderTimeout =>
    refine Service.Spec.get_bind fun db hdb => ?_
    cases hrecord : findOrderDetailById db orderId with
    | none => exact True.intro
    | some record =>
      dsimp only
      split
      · exact True.intro
      · exact .transaction_seen (changeOrderStatus_effect hdb hrecord rfl rfl rfl)
  | failPayment => exact handlePaymentTransition_spec rfl hon seen
  | cancelPayment => exact handlePaymentTransition_spec rfl hon seen
  | expirePayment => exact handlePaymentTransition_spec rfl hon seen
  | noRider =>
    refine Service.Spec.get_bind fun db hdb => ?_
    cases hrecord : findOrderDetailById db orderId with
    | none => exact True.intro
    | some record =>
      dsimp only
      split
      · exact True.intro
      · exact .transaction_seen (changeOrderStatus_effect hdb hrecord rfl rfl rfl)

end Commits

/-! ## Runs -/

section Runs

variable {ι : Type} {db₀ : Store} {orderId : Id} {order₀ : Order} {calls : ι → ReleaseCall}

/-- How many of these commits gave the order's stock back. -/
def releases (orderId : Id) (calls : ι → ReleaseCall) (log : List (Commit ι Row)) : ℕ :=
  log.countP fun c => (calls c.call).Releases orderId c.seen

theorem releases_snoc (log : List (Commit ι Row)) (c : Commit ι Row) :
    releases orderId calls (log ++ [c]) =
      releases orderId calls log + if (calls c.call).Releases orderId c.seen then 1 else 0 := by
  rw [releases, List.countP_append, List.countP_singleton, releases]

theorem amend_amend_restock (a b : WithZero ℤ) (k : Key Tbl) (r : Row k.1) :
    amend restock b k (amend restock a k r) = amend restock (a + b) k r := by
  cases b with
  | zero => rw [amend_zero, add_zero]
  | coe b => rw [amend_coe, amend_add restock_restock]

/-- What holds of the commits so far: the order's stock has been given back once for each
commit that did so, which is at most once, and never if the order is still open. -/
structure ReleaseLedger (db₀ : Store) (orderId : Id) (order₀ : Order) (calls : ι → ReleaseCall)
    (log : List (Commit ι Row)) (db : Store) : Prop where
  /-- the rows -/
  rows : ∀ k, k.1 ≠ .order → k.1 ≠ .payment → db.get k =
    (db₀.get k).map (amend restock ((releases orderId calls log • order₀.reserved) k) k)
  /-- the number of times -/
  once : releases orderId calls log = 0 ∨
    (releases orderId calls log = 1 ∧ ReleasedIn db orderId)

theorem ReleaseLedger.step {log : List (Commit ι Row)} {c : Commit ι Row} {db' : Store}
    (h : ReleaseLedger db₀ orderId order₀ calls log c.db)
    (heffect : ReleaseEffect orderId order₀ (fun k => (db₀.get k).isSome) (calls c.call) c.seen
      c.db db')
    (hok : (calls c.call).Releases orderId c.seen = true → ¬ ReleasedIn c.db orderId) :
    ReleaseLedger db₀ orderId order₀ calls (log ++ [c]) db' := by
  obtain ⟨order, order', horder, horder', -, hstatus⟩ := heffect.order
  refine ⟨fun k hk hkp => ?_, ?_⟩
  · by_cases hpresent : (db₀.get k).isSome
    · rw [heffect.rows k hk hkp hpresent, h.rows k hk hkp, Option.map_map]
      refine congrArg (fun f => (db₀.get k).map f) (funext fun r => ?_)
      rw [Function.comp_apply, amend_amend_restock, releases_snoc, add_nsmul]
      by_cases hreleases : (calls c.call).Releases orderId c.seen = true
      · rw [if_pos hreleases, if_pos hreleases, one_nsmul]
        rfl
      · rw [if_neg hreleases, if_neg hreleases, zero_nsmul]
        rfl
    · have hnone : db₀.get k = none := Option.not_isSome_iff_eq_none.mp hpresent
      have hgone : (db'.get k).isSome = false := by
        rw [heffect.isSome, h.rows k hk hkp, hnone]
        rfl
      rw [hnone, Option.map_none]
      exact Option.not_isSome_iff_eq_none.mp (by rw [hgone]; exact Bool.false_ne_true)
  · rw [releases_snoc]
    by_cases hreleases : (calls c.call).Releases orderId c.seen = true
    · rw [if_pos hreleases]
      have hzero : releases orderId calls log = 0 :=
        h.once.resolve_right fun hone => hok hreleases hone.2
      have hreleased : order'.Released := hstatus.resolve_right fun hsame => by
        rw [hreleases] at hsame
        cases hsame.2
      exact .inr ⟨by rw [hzero], order', horder', hreleased⟩
    · rw [if_neg hreleases, add_zero]
      refine h.once.imp_right fun ⟨hone, order₁, horder₁, hreleased⟩ => ⟨hone, order', horder', ?_⟩
      rw [horder] at horder₁
      cases horder₁
      rcases hstatus with h | ⟨rfl, -⟩
      · exact h
      · exact hreleased

variable [Fintype ι] [DecidableEq ι]

/-- However the paths that cancel an order interleave: if no commit gives the stock back of
an order that is cancelled or rejected already, then the order's stock is given back at most
once, and each level has gained what the order reserved for each time it was. -/
theorem released_at_most_once (horder₀ : db₀.get (.order, orderId) = some order₀)
    (hon : ∀ i, (calls i).On db₀ orderId) {log : List (Commit ι Row)}
    {m : Machine ι Row Failure Unit}
    (hrun : Machine.Run (.start db₀ fun i => (calls i).service orderId) log m)
    (hok : ∀ c ∈ log, (calls c.call).Releases orderId c.seen = true → ¬ ReleasedIn c.db orderId) :
    releases orderId calls log ≤ 1 ∧
      (∀ k, k.1 ≠ .order → k.1 ≠ .payment → m.db.get k =
        (db₀.get k).map (amend restock ((releases orderId calls log • order₀.reserved) k) k)) ∧
      ∀ k level, levelAt db₀ k = some level →
        levelAt m.db k = some (level + releases orderId calls log * amountAt k order₀.reserved) := by
  have hstart : Held db₀ orderId order₀ db₀ :=
    ⟨⟨order₀, horder₀, rfl, .inl rfl⟩, fun _ payment h => ⟨payment, h, rfl, rfl⟩, fun _ => rfl⟩
  have hnone : ReleaseLedger db₀ orderId order₀ calls [] db₀ := by
    refine ⟨fun k _ _ => ?_, .inl rfl⟩
    rw [releases, List.countP_nil, zero_nsmul]
    exact (Accumulates.map_amend_zero (db₀.get k)).symm
  have hsound : Machine.Sound (Held db₀ orderId order₀)
      (fun i => ReleaseEffect orderId order₀ (fun k => (db₀.get k).isSome) (calls i))
      (Machine.start db₀ fun i => (calls i).service orderId) :=
    .start hstart fun i => ReleaseCall.service_spec (hon i) db₀
  have hkeep : ∀ (log : List (Commit ι Row)) (c : Commit ι Row) (db' : Store),
      Held db₀ orderId order₀ c.db → ReleaseLedger db₀ orderId order₀ calls log c.db →
      ((calls c.call).Releases orderId c.seen = true → ¬ ReleasedIn c.db orderId) →
      ReleaseEffect orderId order₀ (fun k => (db₀.get k).isSome) (calls c.call) c.seen c.db db' →
      Held db₀ orderId order₀ db' ∧ ReleaseLedger db₀ orderId order₀ calls (log ++ [c]) db' :=
    fun _ _ _ hheld hledger hok heffect => ⟨heffect.held hheld, hledger.step heffect hok⟩
  obtain ⟨-, hrows, honce⟩ := hrun.sound hkeep hsound hnone hok
  refine ⟨by omega, hrows, fun k level hlevel => ?_⟩
  obtain ⟨r, hr, hrlevel⟩ := Option.bind_eq_some_iff.mp hlevel
  have hk : k.1 ≠ .order ∧ k.1 ≠ .payment := by
    obtain ⟨t, i⟩ := k
    constructor <;> (rintro rfl; cases hrlevel)
  rw [levelAt, hrows k hk.1 hk.2, hr]
  change stockLevel k.1 (amend restock _ k r) = _
  rw [stockLevel_amend_restock hrlevel, ← amountAt_apply, map_nsmul, nsmul_eq_mul]

end Runs

/-! ## A customer and a merchant -/

/-- An order for two cups of tea, in the shop that has reserved them. -/
def teaOrder : Order where
  orderCode := "ORD-00000001"
  customerProfileId := 1
  branchId := 1
  cartId := some 1
  idempotencyKey := some "k"
  promotionId := none
  status := .placed
  deliveryType := .delivery
  subtotalAmount := 3400
  discountAmount := 0
  deliveryFee := 1500
  totalAmount := 4900
  deliveryTownship := none
  placedAt := 0
  items := [{
    menuItemId := 1
    quantity := 2
    menuItemStockTrackedSnapshot := true
    selectedVariantCombinationId := none
    variantCombinationStockTrackedSnapshot := false
    inventoryLotAllocations := [⟨2, "B", some 100, 2⟩]
    selectedOptions := [⟨1, true⟩]
    unitPriceSnapshot := 1700
    lineTotal := 3400 }]
  statusHistory := [⟨none, .placed, none, none⟩]

/-- The sample shop with that order. -/
def orderShop : Store := teaShop.apply [
  ⟨.user, 20, some { status := .active, role := .customer }⟩,
  ⟨.customerProfile, 1, some { userId := 20 }⟩,
  ⟨.order, 1, some teaOrder⟩]

def teaCustomer : AuthenticatedUser where
  userId := 20
  role := .customer
  merchantId := none
  customerProfileId := some 1
  riderId := none

def teaMerchant : AuthenticatedUser where
  userId := 10
  role := .merchant
  merchantId := some 1
  customerProfileId := none
  riderId := none

/-- The customer cancels and the merchant rejects. -/
def cancelAndReject : Fin 2 → ReleaseCall :=
  ![.customerCancel teaCustomer none none, .merchantReject teaMerchant none none]

/-- When the merchant has read the order before the customer's cancellation commits, four cups
come back for the two that were ordered. -/
theorem released_twice : ∃ log m,
    Machine.Run (.start orderShop fun i => (cancelAndReject i).service 1) log m ∧
      releases 1 cancelAndReject log = 2 ∧ amountAt (.menuItem, 1) teaOrder.reserved = 2 ∧
      levelAt orderShop (.menuItem, 1) = some 5 ∧ levelAt m.db (.menuItem, 1) = some 9 := by
  have hexec : ((Machine.start orderShop fun i => (cancelAndReject i).service 1).exec
      (List.map .run ([0, 1] ++ List.replicate 6 0 ++ List.replicate 6 1))).any (fun m =>
        levelAt m.db (.menuItem, 1) == some 9) = true := by decide
  obtain ⟨m, hm, hlevel⟩ := (Option.any_eq_true _ _).mp hexec
  exact ⟨_, m, Machine.Run.start.exec hm, by decide, by decide, by decide, eq_of_beq hlevel⟩

/-- When the merchant reads the order afterwards, the two cups come back once. -/
theorem released_at_most_once_teaShop : ∃ log m,
    Machine.Run (.start orderShop fun i => (cancelAndReject i).service 1) log m ∧
      releases 1 cancelAndReject log = 1 ∧ levelAt m.db (.menuItem, 1) = some 7 := by
  have hexec : ((Machine.start orderShop fun i => (cancelAndReject i).service 1).exec
      (List.map .run (List.replicate 7 0 ++ [1]))).isSome = true := by decide
  obtain ⟨m, hm⟩ := Option.isSome_iff_exists.mp hexec
  have hrun := Machine.Run.start.exec hm
  have hon : ∀ i, (cancelAndReject i).On orderShop 1 :=
    Fin.forall_fin_two.mpr ⟨fun _ h => (nomatch h), fun _ h => (nomatch h)⟩
  have horder : orderShop.get (.order, 1) = some teaOrder := rfl
  obtain ⟨-, -, hlevels⟩ := released_at_most_once horder hon hrun (by decide)
  refine ⟨_, m, hrun, by decide, ?_⟩
  exact hlevels (.menuItem, 1) 5 (by decide)

end WerTe
