import WerTe.OrderSteps
import WerTe.ReadCommitted.RelyGuarantee

/-!
# What the operations on orders commit

`OrderSteps` says what an operation does that is run alone. Here the operations overlap:
`OrderWrite call reads ws db` says of each row write of a commit what it can be, whatever
committed since the operation began, and `OrderCall.guarantees` that every operation commits
nothing else. The status an entry of the history says the order comes from is the one the
operation believed it to have (`OrderCall.believes`), not the one it has.
-/

namespace WerTe

open ReadCommitted OrdersRepository DeliveriesRepository DispatchRepository Tx

/-! ## The writes -/

/-- The order's status in a database. -/
def statusIn (orderId : Id) (db : Store) : Option OrderStatus :=
  (db.get (.order, orderId)).map (·.status)

namespace OrderCall

/-- The status that an operation takes the order to have when it gives it `target`: the one it
has read, or else the one that only orders it selects or takes back can have. -/
def believes (reads : List Store) (orderId : Id) (target : OrderStatus) :
    OrderCall → Option OrderStatus
  -- the rider is read after the order
  | assignRider .. => reads.tail.head?.bind (statusIn orderId)
  | autoDispatchOrder .. | autoDispatchForRider .. | dispatchTimeout .. =>
    if target = .riderAssigned then some .merchantAccepted
    else if target = .merchantAccepted then some .riderAssigned
    else reads.head?.bind (statusIn orderId)
  | payment .. => some .placed
  | _ => reads.head?.bind (statusIn orderId)

/-- An order that too many riders were offered is cancelled whatever its status, unless it is
cancelled already. -/
def cancelsUnchecked : OrderCall → Bool
  | autoDispatchOrder .. | dispatchTimeout .. => true
  | _ => false

/-- The operation is the administrator's override. -/
def isStatusOverride : OrderCall → Bool
  | adminOverride .. => true
  | _ => false

end OrderCall

/-- What a row write is that an operation commits among the writes `ws` to the database `db`.
`free` says that a rider had no delivery when the operation held the rider's lock. -/
inductive OrderWrite (free : Id → Store → Prop) (call : OrderCall) (reads : List Store)
    (ws : List (Write Row)) (db : Store) : Write Row → Prop
  /-- an order's status changes -/
  | order {orderId : Id} {order : Order} {payload : UpdateOrderStatusInput}
      (horder : db.get (.order, orderId) = some order)
      (hbelief : call.believes reads orderId payload.status = some payload.fromStatus)
      (hpolicy : payload.fromStatus ∈ terminalOrderStatuses →
        call.isStatusOverride = true ∨ call.cancelsUnchecked = true) :
      OrderWrite free call reads ws db ⟨.order, orderId, some (order.changeStatus payload)⟩
  /-- a rider moves a delivery -/
  | rider {action : RiderAction} {currentUser : AuthenticatedUser}
      {input : RiderDeliveryActionInput} {delivery : Delivery}
      (hcall : call = .rider action currentUser input)
      (hdelivery : db.get (.delivery, input.deliveryId) = some delivery) :
      OrderWrite free call reads ws db ⟨.delivery, input.deliveryId, some (action.update delivery)⟩
  /-- a delivery is taken back -/
  | reset {deliveryId : Id} {delivery : Delivery}
      (hdelivery : db.get (.delivery, deliveryId) = some delivery) :
      OrderWrite free call reads ws db
        ⟨.delivery, deliveryId, some { delivery with riderId := none, status := .pendingAssignment }⟩
  /-- a rider is given a delivery, by the administrator or under the rider's lock -/
  | assign {deliveryId orderId riderId : Id}
      (hassigns : (∃ newDeliveryId currentUser reasonCode note,
          call = .assignRider newDeliveryId currentUser orderId riderId reasonCode note) ∨
        (.advisoryLock, riderId) ∈ ws.map Write.key ∧ free riderId db) :
      OrderWrite free call reads ws db ⟨.delivery, deliveryId, some ⟨orderId, some riderId, .assigned⟩⟩
  /-- cash on delivery is settled -/
  | settle {paymentId : Id} {payment : Payment}
      (hpayment : db.get (.payment, paymentId) = some payment)
      (hpending : payment.status = .pending) :
      OrderWrite free call reads ws db
        ⟨.payment, paymentId, some { payment with status := .succeeded }⟩
  /-- a payment makes its transition -/
  | payment {action : PaymentAction} {currentUser : AuthenticatedUser}
      {input : PaymentLifecycleInput} {payment : Payment} {payload : PaymentTransitionInput}
      (hcall : call = .payment action currentUser input)
      (hpayment : db.get (.payment, input.paymentId) = some payment)
      (hstatus : payload.status = action.config.targetStatus) :
      OrderWrite free call reads ws db
        ⟨.payment, input.paymentId, some (payment.transition payload)⟩
  /-- a row of another table -/
  | other {w : Write Row} (horder : w.table ≠ .order) (hdelivery : w.table ≠ .delivery)
      (hpayment : w.table ≠ .payment) : OrderWrite free call reads ws db w

/-- What an operation commits: nothing but such writes, and at most one delivery. -/
structure OrderCommit (free : Id → Store → Prop) (call : OrderCall) (reads : List Store)
    (ws : List (Write Row)) (db : Store) : Prop where
  writes : ∀ w ∈ ws, OrderWrite free call reads ws db w
  delivery : ∀ w ∈ ws, ∀ w' ∈ ws, w.table = .delivery → w'.table = .delivery → w = w'

/-- A rider found without a delivery stays without one as long as the rider's lock is held. -/
structure Locks (R : Rely Row) (free : Id → Store → Prop) : Prop where
  count : ∀ riderId db, countActiveDeliveries db riderId = 0 → free riderId db
  rely : ∀ ws a b riderId, R.rel ws a b → (.advisoryLock, riderId) ∈ ws.map Write.key →
    free riderId a → free riderId b

section Commits

variable {free : Id → Store → Prop} {call : OrderCall} {reads : List Store}
  {ws ws' : List (Write Row)} {db db' : Store} {w : Write Row}

theorem OrderWrite.append (h : OrderWrite free call reads ws db w) :
    OrderWrite free call reads (ws ++ ws') db w := by
  cases h with
  | order horder hbelief hpolicy => exact .order horder hbelief hpolicy
  | rider hcall hdelivery => exact .rider hcall hdelivery
  | reset hdelivery => exact .reset hdelivery
  | assign hassigns =>
    refine .assign (hassigns.imp_right fun h => ⟨?_, h.2⟩)
    rw [List.map_append]
    exact List.mem_append_left _ h.1
  | settle hpayment hpending => exact .settle hpayment hpending
  | payment hcall hpayment hstatus => exact .payment hcall hpayment hstatus
  | other horder hdelivery hpayment => exact .other horder hdelivery hpayment

/-- The rows of the writes are as they were. -/
theorem OrderCommit.rely {R : Rely Row} (hlocks : Locks R free)
    (h : OrderCommit free call reads ws db) (hrel : R.rel ws db db') :
    OrderCommit free call reads ws db' := by
  refine ⟨fun w hw => ?_, h.delivery⟩
  have hrow := R.agree hrel w.key (List.mem_map_of_mem hw)
  cases h.writes w hw with
  | order horder hbelief hpolicy => exact .order (hrow.symm.trans horder) hbelief hpolicy
  | rider hcall hdelivery => exact .rider hcall (hrow.symm.trans hdelivery)
  | reset hdelivery => exact .reset (hrow.symm.trans hdelivery)
  | assign hassigns =>
    exact .assign (hassigns.imp_right fun h => ⟨h.1, hlocks.rely _ _ _ _ hrel h.1 h.2⟩)
  | settle hpayment hpending => exact .settle (hrow.symm.trans hpayment) hpending
  | payment hcall hpayment hstatus => exact .payment hcall (hrow.symm.trans hpayment) hstatus
  | other horder hdelivery hpayment => exact .other horder hdelivery hpayment

/-- More writes, of no delivery. -/
theorem OrderCommit.append (h : OrderCommit free call reads ws db)
    (hws : ∀ w ∈ ws', OrderWrite free call reads (ws ++ ws') db w)
    (hdelivery : ∀ w ∈ ws', w.table ≠ .delivery) : OrderCommit free call reads (ws ++ ws') db := by
  refine ⟨fun w hw => ?_, fun w hw w' hw' ht ht' => ?_⟩
  · rcases List.mem_append.mp hw with hw | hw
    · exact (h.writes w hw).append
    · exact hws w hw
  · rcases List.mem_append.mp hw with hw | hw
    · rcases List.mem_append.mp hw' with hw' | hw'
      · exact h.delivery w hw w' hw' ht ht'
      · exact absurd ht' (hdelivery w' hw')
    · exact absurd ht (hdelivery w hw)

theorem OrderCommit.nil : OrderCommit free call reads [] db := ⟨by simp, by simp⟩

/-- A first write. -/
theorem OrderCommit.single (h : OrderWrite free call reads [w] db w) :
    OrderCommit free call reads [w] db := by
  refine ⟨fun w' hw' => ?_, fun w₁ hw₁ w₂ hw₂ _ _ => ?_⟩
  · rw [List.mem_singleton.mp hw']
    exact h
  · rw [List.mem_singleton.mp hw₁, List.mem_singleton.mp hw₂]

end Commits

/-! ## Transactions -/

/-- The row is of none of the tables that `OrderWrite` tells of. -/
def OtherWrite (w : Write Row) : Prop :=
  w.table ≠ .order ∧ w.table ≠ .delivery ∧ w.table ≠ .payment

theorem restoreLots_writes (allocations : List MenuInventoryLotAllocation) :
    (restoreLots allocations).Writes StockWrite := by
  induction allocations with
  | nil => exact .ret ()
  | cons a allocations ih => exact .bind (.updateRow fun _ => by simp [StockWrite, stockTables]) fun _ => ih

theorem restoreOptions_writes (quantity : ℤ) (optionIds : List Id) :
    (restoreOptions quantity optionIds).Writes StockWrite := by
  induction optionIds with
  | nil => exact .ret ()
  | cons optionId optionIds ih =>
    exact .bind (.updateRow fun _ => by simp [StockWrite, stockTables]) fun _ => ih

theorem restoreItem_writes (line : MenuInventoryOrderLineInput) :
    (restoreItem line).Writes StockWrite := by
  unfold restoreItem
  split
  · exact .bind (.updateRow fun _ => by simp [StockWrite, stockTables]) fun _ => restoreLots_writes _
  · exact .ret ()

theorem restoreVariant_writes (line : MenuInventoryOrderLineInput) :
    (restoreVariant line).Writes StockWrite := by
  unfold restoreVariant
  split
  · exact .ret ()
  · exact .bind (.updateRow fun _ => by simp [StockWrite, stockTables]) fun _ => .ret ()

/-- Giving stock back writes stock. -/
theorem restoreTrackedInventoryForOrder_writes (lines : List MenuInventoryOrderLineInput) :
    (restoreTrackedInventoryForOrder lines).Writes StockWrite := by
  induction lines with
  | nil => exact .ret ()
  | cons line lines ih =>
    exact .bind (restoreItem_writes line) fun _ => .bind (restoreVariant_writes line) fun _ =>
      .bind (restoreOptions_writes _ _) fun _ => ih

theorem StockWrite.other {w : Write Row} (h : StockWrite w) : OtherWrite w :=
  (by decide : ∀ t ∈ stockTables, t ≠ .order ∧ t ≠ .delivery ∧ t ≠ .payment) _ h

section Transactions

variable {R : Rely Row} {free : Id → Store → Prop} {call : OrderCall} {reads : List Store}
  {seen db : Store} {ws : List (Write Row)}

/-- Other rows are written after the ones so far. -/
theorem OrderCommit.relies_of_writes {α : Type} (hlocks : Locks R free) {p : StoreTx α}
    (hp : p.Writes OtherWrite) (h : OrderCommit free call reads ws db) (hinv : R.inv db) :
    p.Relies R (fun _ _ ws' db' => OrderCommit free call reads ws' db' ∧
      ∃ others, ws' = ws ++ others ∧ ∀ w ∈ others, OtherWrite w) seen ws db := by
  have hstep : ∀ (p : StoreTx α) (seen : Store) (others : List (Write Row)) (db : Store),
      p.Writes OtherWrite → R.inv db → OrderCommit free call reads (ws ++ others) db →
      (∀ w ∈ others, OtherWrite w) → p.Relies R (fun _ _ ws' db' =>
        OrderCommit free call reads ws' db' ∧
          ∃ others, ws' = ws ++ others ∧ ∀ w ∈ others, OtherWrite w) seen (ws ++ others) db := by
    intro p
    induction p with
    | ret a =>
      exact fun _ others _ _ _ h hothers db' hrel => ⟨h.rely hlocks hrel, others, rfl, hothers⟩
    | throw e => exact fun _ _ _ _ _ _ _ => True.intro
    | stmt query q k ih =>
      intro seen others db hp hinv h hothers db' hrel b ws' hq
      have hws' := hp.1 _ b ws' hq
      rw [List.append_assoc]
      refine ih b _ _ db' (hp.2 b) (R.inv_right hrel) ?_ fun w hw => ?_
      · rw [← List.append_assoc]
        exact (h.rely hlocks hrel).append (fun w hw => .other (hws' w hw).1 (hws' w hw).2.1
          (hws' w hw).2.2) fun w hw => (hws' w hw).2.1
      · rcases List.mem_append.mp hw with hw | hw
        · exact hothers w hw
        · exact hws' w hw
  have := hstep p seen [] db hp hinv (by rwa [List.append_nil]) (by simp)
  rwa [List.append_nil] at this

/-- An order's status is written, which no write so far is about. -/
theorem updateOrderStatus_relies {α : Type} (hlocks : Locks R free) {orderId : Id}
    {payload : UpdateOrderStatusInput} {next : Unit → StoreTx α}
    {Post : α → Store → List (Write Row) → Store → Prop}
    (hbelief : call.believes reads orderId payload.status = some payload.fromStatus)
    (hpolicy : payload.fromStatus ∈ terminalOrderStatuses →
      call.isStatusOverride = true ∨ call.cancelsUnchecked = true)
    (h : OrderCommit free call reads ws db) (hinv : R.inv db)
    (hnone : ∀ w ∈ ws, w.table ≠ .order)
    (hnext : ∀ (db' : Store) (order : Order), R.inv db' →
      OrderCommit free call reads
        (ws ++ [⟨.order, orderId, some (order.changeStatus payload)⟩]) db' →
      (next ()).Relies R Post seen
        (ws ++ [⟨.order, orderId, some (order.changeStatus payload)⟩]) db') :
    ((updateOrderStatus orderId payload).bind next).Relies R Post seen ws db := by
  refine .updateExisting_bind hinv fun db' order hrel hget => hnext db' order (R.inv_right hrel) ?_
  rw [Db.get_apply_of_table hnone] at hget
  refine (h.rely hlocks hrel).append (fun w hw => ?_) fun w hw => ?_
  · rw [List.mem_singleton.mp hw]
    exact .order hget hbelief hpolicy
  · rw [List.mem_singleton.mp hw]
    simp

theorem changeOrderStatus_relies (hlocks : Locks R free) {record : OrderDetailRecord}
    {payload : UpdateOrderStatusInput}
    (hbelief : call.believes reads record.id payload.status = some payload.fromStatus)
    (hpolicy : payload.fromStatus ∈ terminalOrderStatuses →
      call.isStatusOverride = true ∨ call.cancelsUnchecked = true) (hinv : R.inv db) :
    (changeOrderStatus record payload).Relies R (fun _ _ ws db =>
      OrderCommit free call reads ws db ∧ ∀ w ∈ ws, w.table ≠ .payment) seen [] db := by
  refine updateOrderStatus_relies hlocks hbelief hpolicy .nil hinv (by simp) fun db' order hinv' h => ?_
  refine .mono (fun _ _ ws _ _ hpost => ⟨hpost.1, ?_⟩) _ (h.relies_of_writes hlocks ?_ hinv')
  · split
    · exact (restoreTrackedInventoryForOrder_writes _).mono fun _ => StockWrite.other
    · exact .ret ()
  · obtain ⟨others, rfl, hothers⟩ := hpost.2
    intro w hw
    rcases List.mem_append.mp hw with hw | hw
    · rw [List.mem_singleton.mp hw]
      simp
    · exact (hothers w hw).2.2

/-- The payments settled are as they were read. -/
theorem settleCashOnDelivery_relies (hlocks : Locks R free) {orderId : Id}
    (h : OrderCommit free call reads ws db) (hnone : ∀ w ∈ ws, w.table ≠ .payment) :
    (settleCashOnDelivery orderId).Relies R (fun _ _ ws db => OrderCommit free call reads ws db)
      seen ws db := by
  refine .of_bind_ret (f := fun u => u) _ (.update_bind fun db' hrel db₂ hrel₂ => ?_)
  refine OrderCommit.rely hlocks ((h.rely hlocks hrel).append (fun w hw => ?_) fun w hw => ?_) hrel₂
  · obtain ⟨p, hp, rfl⟩ := List.mem_map.mp hw
    obtain ⟨hget, hpending⟩ := Db.mem_list.mp (show (p.1, p.2) ∈ _ from hp)
    simp only [Bool.and_eq_true, beq_iff_eq] at hpending
    rw [Db.get_apply_of_table hnone] at hget
    exact .settle hget hpending.2
  · obtain ⟨p, -, rfl⟩ := List.mem_map.mp hw
    simp

/-- A delivery and its order are written. -/
theorem updateBoth_relies (hlocks : Locks R free) {deliveryId orderId : Id}
    {data : Delivery → Delivery} {payload : UpdateOrderStatusInput}
    (hdelivery : ∀ (ws : List (Write Row)) (db : Store) delivery,
      db.get (.delivery, deliveryId) = some delivery →
        OrderWrite free call reads ws db ⟨.delivery, deliveryId, some (data delivery)⟩)
    (hbelief : call.believes reads orderId payload.status = some payload.fromStatus)
    (hpolicy : payload.fromStatus ∉ terminalOrderStatuses) (hinv : R.inv db) :
    ((updateById deliveryId data).bind fun _ => updateOrderStatus orderId payload).Relies R
      (fun _ _ ws db => OrderCommit free call reads ws db ∧ ∀ w ∈ ws, w.table ≠ .payment)
      seen [] db := by
  refine .updateExisting_bind hinv fun db' delivery hrel hget => ?_
  rw [Db.apply_nil] at hget
  refine .of_bind_ret (f := fun u => u) _ (updateOrderStatus_relies hlocks hbelief
    (fun h => absurd h hpolicy) (.single (hdelivery _ db' delivery hget)) (R.inv_right hrel)
    (by simp) fun db₂ order _ h db₃ hrel₃ => ⟨h.rely hlocks hrel₃, by simp⟩)

/-- An order is given to a rider. -/
theorem assignDelivery_relies (hlocks : Locks R free) {newDeliveryId orderId riderId : Id}
    {payload : UpdateOrderStatusInput}
    (hassigns : (∃ newDeliveryId currentUser reasonCode note,
        call = .assignRider newDeliveryId currentUser orderId riderId reasonCode note) ∨
      (.advisoryLock, riderId) ∈ ws.map Write.key ∧ free riderId db)
    (hbelief : call.believes reads orderId payload.status = some payload.fromStatus)
    (hpolicy : payload.fromStatus ∉ terminalOrderStatuses)
    (h : OrderCommit free call reads ws db) (hws : ∀ w ∈ ws, OtherWrite w) :
    (assignDelivery newDeliveryId orderId riderId payload).Relies R
      (fun _ _ ws db => OrderCommit free call reads ws db) seen ws db := by
  refine .attempt_bind fun db' _ ws' hrel hupsert => ?_
  have hwrites : ∃ deliveryId, ws' = [⟨.delivery, deliveryId, some ⟨orderId, some riderId, .assigned⟩⟩] := by
    cases hfind : findByOrderId (db'.apply ws) orderId with
    | some found =>
      obtain ⟨deliveryId, delivery⟩ := found
      obtain ⟨-, rfl⟩ := get_of_findByOrderId hfind
      rw [hfind] at hupsert
      cases hupsert
      exact ⟨deliveryId, rfl⟩
    | none =>
      rw [hfind] at hupsert
      dsimp only at hupsert
      split at hupsert
      · cases hupsert
      · cases hupsert
        exact ⟨newDeliveryId, rfl⟩
  obtain ⟨deliveryId, rfl⟩ := hwrites
  have hassigns' : OrderWrite free call reads
      (ws ++ [⟨.delivery, deliveryId, some ⟨orderId, some riderId, .assigned⟩⟩]) db'
      ⟨.delivery, deliveryId, some ⟨orderId, some riderId, .assigned⟩⟩ := by
    refine .assign (hassigns.imp_right fun hlock => ⟨?_, hlocks.rely _ _ _ _ hrel hlock.1 hlock.2⟩)
    rw [List.map_append]
    exact List.mem_append_left _ hlock.1
  have hcommit : OrderCommit free call reads
      (ws ++ [⟨.delivery, deliveryId, some ⟨orderId, some riderId, .assigned⟩⟩]) db' := by
    refine ⟨fun w hw => ?_, fun w hw w' hw' ht ht' => ?_⟩
    · rcases List.mem_append.mp hw with hw | hw
      · exact ((h.rely hlocks hrel).writes w hw).append
      · rw [List.mem_singleton.mp hw]
        exact hassigns'
    · rcases List.mem_append.mp hw with hw | hw
      · exact absurd ht (hws w hw).2.1
      · rcases List.mem_append.mp hw' with hw' | hw'
        · exact absurd ht' (hws w' hw').2.1
        · rw [List.mem_singleton.mp hw, List.mem_singleton.mp hw']
  refine .of_bind_ret (f := fun u => u) _ (updateOrderStatus_relies hlocks hbelief
    (fun h => absurd h hpolicy) hcommit (R.inv_right hrel) (fun w hw => ?_)
    fun db₂ order _ h db₃ hrel₃ => h.rely hlocks hrel₃)
  rcases List.mem_append.mp hw with hw | hw
  · exact (hws w hw).1
  · rw [List.mem_singleton.mp hw]
    simp

/-- Auto-dispatch takes the rider's lock first, and finds the rider free under it. -/
theorem autoAssign_relies (hlocks : Locks R free) {newDeliveryId orderId riderId : Id}
    (hbelief : call.believes reads orderId .riderAssigned = some .merchantAccepted) :
    (autoAssign newDeliveryId orderId riderId).Relies R
      (fun _ _ ws db => OrderCommit free call reads ws db) seen [] db := by
  refine .update_bind fun db₁ hrel₁ => .read_bind fun db₂ hrel₂ => .require_bind fun hcount => ?_
  have hfree : countActiveDeliveries db₂ riderId = 0 := by
    rw [← hcount, countActiveDeliveries, countActiveDeliveries]
    exact congrArg List.length (Db.list_put_ne db₂ (by simp) _).symm
  exact assignDelivery_relies hlocks (.inr ⟨by simp [Write.key], hlocks.count _ _ hfree⟩) hbelief
    (by decide) (.single (.other (by simp) (by simp) (by simp))) (by simp [OtherWrite])

/-- An attempt is written. -/
theorem OrderCommit.relies_attempt {α : Type} (hlocks : Locks R free) {p : StoreTx α}
    (hp : p.Writes OtherWrite) (hinv : R.inv db) :
    p.Relies R (fun _ _ ws db => OrderCommit free call reads ws db) seen [] db :=
  .mono (fun _ _ _ _ _ h => h.1) p (OrderCommit.nil.relies_of_writes hlocks hp hinv)

theorem autoCancelOrder_relies (hlocks : Locks R free) {payment : PaymentSummaryRecord}
    {reasonCode note : Option String}
    (hbelief : call.believes reads payment.payment.orderId .cancelled = some payment.orderStatus)
    (hpolicy : payment.orderStatus ∉ terminalOrderStatuses)
    (h : OrderCommit free call reads ws db) (hnone : ∀ w ∈ ws, w.table ≠ .order) :
    (autoCancelOrder payment reasonCode note).Relies R
      (fun _ _ ws db => OrderCommit free call reads ws db) seen ws db := by
  refine .read_bind fun db₁ hrel₁ => ?_
  refine updateOrderStatus_relies hlocks hbelief (fun h => absurd h hpolicy) (h.rely hlocks hrel₁)
    (R.inv_right hrel₁) hnone fun db₂ order hinv₂ h => ?_
  refine .mono (fun _ _ _ _ _ h => h.1) _ (h.relies_of_writes hlocks ?_ hinv₂)
  split
  · exact .ret ()
  · split
    · exact (restoreTrackedInventoryForOrder_writes _).mono fun _ => StockWrite.other
    · exact .ret ()

/-- A payment's transition, and the cancellation of an order that is still placed. -/
theorem paymentTransition_relies (hlocks : Locks R free) {action : PaymentAction}
    {currentUser : AuthenticatedUser} {input : PaymentLifecycleInput}
    (hcall : call = .payment action currentUser input) {payload : PaymentTransitionInput}
    (hstatus : payload.status = action.config.targetStatus) {reasonCode note : Option String}
    (hinv : R.inv db) :
    ((PaymentsRepository.transitionPaymentStatus input.paymentId payload).bind fun record =>
      if shouldAutoCancelOrder record action.config.targetStatus then
        autoCancelOrder record reasonCode note
      else .ret ()).Relies R (fun _ _ ws db => OrderCommit free call reads ws db) seen [] db := by
  refine .bind _ hinv (.updateExisting_bind hinv fun db₁ payment hrel₁ hget => .read_bind
    fun db₂ hrel₂ => .of_bind_ret (f := fun r => r) _ (.orFail_bind fun record _ db₃ hrel₃ => ?_))
  rw [Db.apply_nil] at hget
  have hcommit : OrderCommit free call reads
      [⟨.payment, input.paymentId, some (payment.transition payload)⟩] db₁ :=
    .single (.payment hcall hget hstatus)
  have hcommit' := (hcommit.rely hlocks hrel₂).rely hlocks hrel₃
  split
  · next hauto =>
    obtain ⟨hplaced, -⟩ := shouldAutoCancelOrder_placed hauto
    refine autoCancelOrder_relies hlocks ?_ (by rw [hplaced]; decide) hcommit' (by simp)
    rw [hplaced, hcall]
    rfl
  · exact fun db₄ hrel₄ => hcommit'.rely hlocks hrel₄

end Transactions

/-! ## Operations -/

section Operations

variable {R : Rely Row} {free : Id → Store → Prop}

/-- What an operation commits, in the form that `Service.Guarantees` takes. -/
abbrev Commits (free : Id → Store → Prop) (call : OrderCall) :
    List Store → Store → List (Write Row) → Store → Prop :=
  fun reads _ ws db => OrderCommit free call reads ws db

theorem statusIn_eq {db : Store} {orderId : Id} {order : Order}
    (h : db.get (.order, orderId) = some order) : statusIn orderId db = some order.status := by
  rw [statusIn, h, Option.map_some]

theorem statusIn_record {db : Store} {orderId : Id} {record : OrderDetailRecord}
    (h : findOrderDetailById db orderId = some record) :
    statusIn record.id db = some record.order.status := by
  obtain ⟨hget, rfl⟩ := get_of_findOrderDetailById h
  exact statusIn_eq hget

/-- A change of status from what was read last. -/
theorem changeOrderStatus_guarantees (hlocks : Locks R free) {call : OrderCall}
    {reads : List Store} {record : OrderDetailRecord} {payload : UpdateOrderStatusInput}
    (hbelief : call.believes reads record.id payload.status = some payload.fromStatus)
    (hpolicy : payload.fromStatus ∈ terminalOrderStatuses →
      call.isStatusOverride = true ∨ call.cancelsUnchecked = true) :
    (Service.transaction (changeOrderStatus record payload)).Guarantees R (Commits free call)
      reads :=
  .transaction fun _ _ hinv => .mono (fun _ _ _ _ _ h => h.1) _
    (changeOrderStatus_relies hlocks hbelief hpolicy hinv)

theorem merchantTransition_guarantees (hlocks : Locks R free) {call : OrderCall}
    (hcall : ∀ reads orderId target,
      call.believes reads orderId target = reads.head?.bind (statusIn orderId))
    {currentUser : AuthenticatedUser} {orderId : Id} {reasonCode note : Option String}
    {config : MerchantActionConfig} (hpolicy : ∀ record, config.canTransition currentUser record →
      record.order.status ∉ terminalOrderStatuses) (reads : List Store) :
    (merchantTransition currentUser orderId reasonCode note config).Guarantees R
      (Commits free call) reads := by
  refine .orFail_bind fun merchantId _ => .get_bind fun db _ => .orFail_bind fun record hrecord => ?_
  split
  · exact True.intro
  · refine .require_bind fun hcan => .transaction_bind (fun seen db' hinv => ?_) fun _ => True.intro
    have hbelief : ∀ target, call.believes (db :: reads) record.id target =
        some record.order.status := fun target => by
      rw [hcall]
      exact statusIn_record (find_of_findMerchantOrderDetail hrecord)
    refine .bind _ hinv (.mono (fun _ seen ws db₁ hinv₁ h => ?_) _
      (changeOrderStatus_relies hlocks (hbelief _) (fun h => absurd h (hpolicy record hcan)) hinv))
    split
    · exact settleCashOnDelivery_relies hlocks h.1 h.2
    · exact fun db₂ hrel₂ => h.1.rely hlocks hrel₂

/-- What the merchant's policies say of the status. -/
theorem active_of_moves {action : MerchantAction} {order : Order} {target : OrderStatus}
    (h : action.Moves order target) : order.status ∉ terminalOrderStatuses := by
  have hmoves : (OrderCall.merchant action ⟨0, .merchant, none, none, none, false⟩ 0 none none).Moves
      Db.empty Db.empty 0 order target := ⟨rfl, h⟩
  rcases hmoves.active with h | ⟨_, _, _, h, -⟩
  · exact h
  · cases h

theorem handleMerchantAction_guarantees (hlocks : Locks R free) (action : MerchantAction)
    (currentUser : AuthenticatedUser) (orderId : Id) (reasonCode note : Option String)
    (reads : List Store) :
    (handleMerchantAction currentUser orderId reasonCode note action.config).Guarantees R
      (Commits free (.merchant action currentUser orderId reasonCode note)) reads := by
  have hpolicy : ∀ (action : MerchantAction) (record : OrderDetailRecord),
      action.config.canTransition currentUser record = true →
        record.order.status ∉ terminalOrderStatuses :=
    fun action record hcan => active_of_moves (action.moves_of_can hcan)
  have htransition : ∀ (config : MerchantActionConfig) (action' : MerchantAction),
      config.canTransition = action'.config.canTransition →
      ∀ (reasonCode' note' : Option String) (reads : List Store),
        (merchantTransition currentUser orderId reasonCode' note' config).Guarantees R
          (Commits free (.merchant action currentUser orderId reasonCode note)) reads :=
    fun config action' hcan _ _ => merchantTransition_guarantees hlocks (fun _ _ _ => rfl)
      fun record h => hpolicy action' record (hcan ▸ h)
  refine .bind (fun transitioned reads' => ?_) (htransition _ action rfl _ _ reads)
  cases transitioned with
  | none => exact True.intro
  | some record =>
    dsimp only
    split
    · refine .bind (fun _ reads₁ => .bind_ret (htransition _ .ready ?_ _ _ reads₁))
        (htransition _ .preparing ?_ _ _ reads')
      · rfl
      · rfl
    · exact True.intro

theorem resolveDispatchAttempt_guarantees (hlocks : Locks R free) {call : OrderCall}
    (orderId riderId : Id) (outcomeCode : DispatchOutcomeCode) (reads : List Store) :
    (resolveDispatchAttempt orderId riderId outcomeCode).Guarantees R (Commits free call) reads := by
  refine .get_bind fun db _ => ?_
  cases findPendingAttempt db orderId riderId with
  | none => exact True.intro
  | some attempt =>
    exact .tx (fun _ _ hinv => OrderCommit.relies_attempt hlocks
      (.updateExisting fun _ => by simp [OtherWrite]) hinv) fun _ => True.intro

/-- What the riders' policies say of the status. -/
theorem RiderAction.active_of_can {action : RiderAction} {currentUser : AuthenticatedUser}
    {record : DeliveryDetailRecord} (h : action.can currentUser record = true) :
    record.orderStatus ∉ terminalOrderStatuses := by
  have hfrom : ∀ status ∈ action.fromStatuses, status ∉ terminalOrderStatuses := by
    cases action <;> decide
  exact hfrom _ (RiderAction.of_can h).1

/-- The transaction in which a rider moves the delivery that was read last, and its order. -/
theorem moveDelivery_relies (hlocks : Locks R free) (action : RiderAction)
    {currentUser : AuthenticatedUser} {input : RiderDeliveryActionInput} (reads : List Store)
    {record : DeliveryDetailRecord} {data : Delivery → Delivery}
    (payload : UpdateOrderStatusInput) {db seen db' : Store}
    (hfind : findById db input.deliveryId = some record)
    (hcan : action.can currentUser record = true)
    (hupdate : ∀ delivery, data delivery = action.update delivery)
    (hfrom : payload.fromStatus = record.orderStatus) (hinv : R.inv db') :
    (moveDelivery record data payload).Relies R (fun _ _ ws db' =>
      OrderCommit free (.rider action currentUser input) (db :: reads) ws db' ∧
        ∀ w ∈ ws, w.table ≠ .payment) seen [] db' := by
  obtain ⟨hid, -, order, horder, hstatus⟩ := get_of_findById hfind
  refine updateBoth_relies hlocks (fun ws db₁ delivery hget => ?_) ?_ ?_ hinv
  · rw [hid] at hget ⊢
    rw [hupdate]
    exact .rider rfl hget
  · change statusIn record.delivery.orderId db = _
    rw [statusIn_eq horder, hfrom, hstatus]
  · rw [hfrom]
    exact RiderAction.active_of_can hcan

theorem riderReasonCode_cases (config : RiderDeliveryTransitionConfig) (reasonCode : Option String) :
    (∃ code, riderReasonCode config reasonCode = .ret code) ∨
      ∃ e, riderReasonCode config reasonCode = .throw e := by
  unfold riderReasonCode
  split
  · split
    · exact .inl ⟨_, rfl⟩
    · exact .inr ⟨_, rfl⟩
  · exact .inl ⟨_, rfl⟩

theorem handleTransition_guarantees (hlocks : Locks R free) {action : RiderAction}
    {currentUser : AuthenticatedUser} {input : RiderDeliveryActionInput}
    {config : RiderDeliveryTransitionConfig} (hcan : config.canTransition = action.can)
    (hupdate : ∀ delivery, config.buildDeliveryUpdate delivery = action.update delivery)
    (reads : List Store) : (handleTransition currentUser input config).Guarantees R
      (Commits free (.rider action currentUser input)) reads := by
  refine .orFail_bind fun riderId _ => .get_bind fun db _ => .orFail_bind fun record hrecord => ?_
  split
  · exact True.intro
  refine .require_bind fun hallowed => ?_
  rcases riderReasonCode_cases config input.reasonCode with ⟨reasonCode, hcode⟩ | ⟨e, hcode⟩
  · rw [hcode]
    refine .transaction_bind (fun seen db' hinv => ?_) fun _ => .get_bind fun _ _ => .orFail _ _
    refine .bind _ hinv (.mono (fun _ seen ws db₁ _ h => ?_) _ (moveDelivery_relies hlocks action reads _
      (find_of_findRiderDeliveryById hrecord) (hcan ▸ hallowed) hupdate rfl hinv))
    split
    · exact settleCashOnDelivery_relies hlocks h.1 h.2
    · exact fun db₂ hrel₂ => h.1.rely hlocks hrel₂
  · rw [hcode]
    exact True.intro

theorem answerRequest_guarantees (hlocks : Locks R free) {action : RiderAction}
    {currentUser : AuthenticatedUser} {input : RiderDeliveryActionInput}
    {config : RiderDeliveryTransitionConfig} {outcomeCode : DispatchOutcomeCode}
    (hcan : config.canTransition = action.can)
    (hupdate : ∀ delivery, config.buildDeliveryUpdate delivery = action.update delivery)
    (reads : List Store) : (answerRequest currentUser input config outcomeCode).Guarantees R
      (Commits free (.rider action currentUser input)) reads := by
  refine .orFail_bind fun riderId _ => .get_bind fun db _ => .bind (fun _ reads' => ?_)
    (handleTransition_guarantees hlocks hcan hupdate _)
  cases findRiderDeliveryById db input.deliveryId riderId with
  | none => exact True.intro
  | some record => exact resolveDispatchAttempt_guarantees hlocks _ _ _ _

theorem riderAction_guarantees (hlocks : Locks R free) (action : RiderAction)
    (currentUser : AuthenticatedUser) (input : RiderDeliveryActionInput) (reads : List Store) :
    (action.service currentUser input).Guarantees R
      (Commits free (.rider action currentUser input)) reads := by
  have hmark : ∀ {config : RiderDeliveryTransitionConfig}, config.canTransition = action.can →
      (∀ delivery, config.buildDeliveryUpdate delivery = action.update delivery) →
      ((handleTransition currentUser input config).bind fun _ => Service.ret ()).Guarantees R
        (Commits free (.rider action currentUser input)) reads :=
    fun hcan hupdate => .bind_ret (handleTransition_guarantees hlocks hcan hupdate reads)
  cases action with
  | accept => exact answerRequest_guarantees hlocks rfl (fun _ => rfl) reads
  | reject => exact answerRequest_guarantees hlocks rfl (fun _ => rfl) reads
  | pickedUp => exact hmark rfl fun _ => rfl
  | onTheWay => exact hmark rfl fun _ => rfl
  | delivered => exact hmark rfl fun _ => rfl
  | fail => exact hmark rfl fun _ => rfl
  | cancel =>
    refine .orFail_bind fun riderId _ => .get_bind fun db _ => .orFail_bind fun record hrecord =>
      .require_bind fun hallowed => .transaction fun seen db' hinv => ?_
    exact .mono (fun _ _ _ _ _ h => h.1) _ (moveDelivery_relies hlocks .cancel reads _
      (find_of_findRiderDeliveryById hrecord) hallowed (fun _ => rfl) rfl hinv)

/-! ### Dispatch -/

/-- The operation offers orders to riders. -/
def OrderCall.Offers (call : OrderCall) : Prop :=
  ∀ reads orderId, call.believes reads orderId .riderAssigned = some .merchantAccepted

theorem assignAndNotify_guarantees (hlocks : Locks R free) {call : OrderCall} (hcall : call.Offers)
    (ids : AssignmentIds) (orderId riderId : Id) (reads : List Store) :
    (assignAndNotify ids orderId riderId).Guarantees R (Commits free call) reads := by
  refine .transaction_bind (fun _ _ hinv => OrderCommit.relies_attempt hlocks
    (.insertRow (by simp [OtherWrite])) hinv) fun _ => .tx (fun _ _ _ =>
      autoAssign_relies hlocks (hcall reads orderId)) fun r => ?_
  cases r with
  | ok _ => exact True.intro
  | error _ => exact .tx (fun _ _ hinv => OrderCommit.relies_attempt hlocks
      (.updateExisting fun _ => by simp [OtherWrite]) hinv) fun _ => True.intro

theorem pickEligibleRider_guarantees {Q : List Store → Store → List (Write Row) → Store → Prop}
    (township : Option String) (excludeRiderIds : List Id) (reads : List Store) :
    (pickEligibleRider township excludeRiderIds).Guarantees R Q reads := by
  cases township with
  | some t =>
    refine .get_bind fun db _ => ?_
    dsimp only
    split
    · exact True.intro
    · exact .get_bind fun _ _ => True.intro
  | none => exact .get_bind fun _ _ => True.intro

theorem dispatchNext_guarantees (hlocks : Locks R free) {call : OrderCall} (hcall : call.Offers)
    (hunchecked : call.cancelsUnchecked = true) (hbelief : ∀ reads orderId,
      call.believes reads orderId .cancelled = reads.head?.bind (statusIn orderId))
    (ids : AssignmentIds) (orderId : Id) (township : Option String) (reads : List Store) :
    (dispatchNext ids orderId township).Guarantees R (Commits free call) reads := by
  refine .get_bind fun db _ => ?_
  split
  · refine .get_bind fun db' _ => ?_
    cases hrecord : findOrderDetailById db' orderId with
    | none => exact True.intro
    | some record =>
      dsimp only
      split
      · exact True.intro
      · refine changeOrderStatus_guarantees hlocks ?_ fun _ => .inr hunchecked
        obtain ⟨hget, hid⟩ := get_of_findOrderDetailById hrecord
        rw [hbelief]
        exact statusIn_record (hid ▸ hrecord)
  · refine .get_bind fun db' _ => .bind (fun rider reads' => ?_)
      (pickEligibleRider_guarantees _ _ _)
    cases rider with
    | none => exact True.intro
    | some riderId => exact assignAndNotify_guarantees hlocks hcall _ _ _ _

theorem handleAutoDispatchForRider_guarantees (hlocks : Locks R free) (ids : AssignmentIds)
    (riderId : Id) (township : Option String) (reads : List Store) :
    (handleAutoDispatchForRider ids riderId township).Guarantees R
      (Commits free (.autoDispatchForRider ids riderId township)) reads := by
  have hassign : ∀ (orderId : Id) (reads : List Store),
      (assignAndNotify ids orderId riderId).Guarantees R
        (Commits free (.autoDispatchForRider ids riderId township)) reads :=
    fun orderId => assignAndNotify_guarantees hlocks (fun _ _ => rfl) ids orderId riderId
  refine .get_bind fun db _ => ?_
  split
  · exact True.intro
  · refine .get_bind fun db' _ => ?_
    cases findReadyOrdersWithoutRider db' township 1 with
    | cons order orders => exact hassign _ _
    | nil =>
      refine .get_bind fun db₂ _ => ?_
      cases findReadyOrdersWithoutRider db₂ none 1 with
      | cons order orders => exact hassign _ _
      | nil => exact True.intro

theorem handleRiderDispatchTimeout_guarantees (hlocks : Locks R free) (ids : AssignmentIds)
    (orderId attemptId : Id) (reads : List Store) :
    (handleRiderDispatchTimeout ids orderId attemptId).Guarantees R
      (Commits free (.dispatchTimeout ids orderId attemptId)) reads := by
  refine .get_bind fun db _ => ?_
  split
  · exact True.intro
  refine .transaction_bind (fun _ _ hinv => OrderCommit.relies_attempt hlocks
    (.updateExisting fun _ => by simp [OtherWrite]) hinv) fun _ => .get_bind fun db' _ => ?_
  cases findAssignedOrder db' orderId with
  | none => exact True.intro
  | some found =>
    obtain ⟨order, deliveryId⟩ := found
    refine .transaction_bind (fun seen db₁ hinv => ?_) fun _ => dispatchNext_guarantees hlocks
      (fun _ _ => rfl) rfl (fun _ _ => rfl) _ _ _ _
    exact .mono (fun _ _ _ _ _ h => h.1) _ (updateBoth_relies hlocks
      (fun _ _ delivery hget => .reset hget) rfl (by decide) hinv)

/-! ### Every operation -/

theorem handlePaymentTransition_guarantees (hlocks : Locks R free) (action : PaymentAction)
    (currentUser : AuthenticatedUser) (input : PaymentLifecycleInput) (reads : List Store) :
    (handlePaymentTransition currentUser input action.config).Guarantees R
      (Commits free (.payment action currentUser input)) reads := by
  refine .require_bind fun _ => .get_bind fun db _ => .orFail_bind fun payment _ => ?_
  split
  · exact True.intro
  · exact .require_bind fun _ => .transaction fun _ _ hinv =>
      paymentTransition_relies hlocks rfl rfl hinv

/-- An operation commits nothing else, whatever commits beside it. -/
theorem OrderCall.guarantees (hlocks : Locks R free) (call : OrderCall) (reads : List Store) :
    call.service.Guarantees R (Commits free call) reads := by
  have hread : ∀ (db : Store) (record : OrderDetailRecord) (orderId : Id),
      findOrderDetailById db orderId = some record →
        statusIn record.id db = some record.order.status := fun db record orderId hrecord => by
    obtain ⟨-, rfl⟩ := get_of_findOrderDetailById hrecord
    exact statusIn_record hrecord
  cases call with
  | customerCancel currentUser orderId reasonCode note =>
    refine .orFail_bind fun _ _ => .get_bind fun db _ => .orFail_bind fun record hrecord => ?_
    split
    · exact True.intro
    · refine .require_bind fun hcan => changeOrderStatus_guarantees hlocks
        (hread db record orderId (find_of_findCustomerOrderDetail hrecord)) fun h => ?_
      simp only [canCancelCustomerOrder, Bool.and_eq_true, List.contains_eq_mem,
        decide_eq_true_eq] at hcan
      exact absurd h ((by decide : ∀ status ∈ customerCancellableStatuses,
        status ∉ terminalOrderStatuses) _ hcan.2)
  | merchant action currentUser orderId reasonCode note =>
    exact handleMerchantAction_guarantees hlocks action currentUser orderId reasonCode note reads
  | adminCancel currentUser orderId reasonCode note =>
    refine .require_bind fun _ => .get_bind fun db _ => .orFail_bind fun record hrecord => ?_
    split
    · exact True.intro
    · refine .require_bind fun hcan => changeOrderStatus_guarantees hlocks
        (hread db record orderId hrecord) fun h => ?_
      simp only [canAdminCancelOrder, Bool.and_eq_true, List.contains_eq_mem,
        decide_eq_true_eq] at hcan
      exact absurd h ((by decide : ∀ status ∈ adminCancellableStatuses,
        status ∉ terminalOrderStatuses) _ hcan.2)
  | adminOverride currentUser orderId status reasonCode note =>
    simp only [service, overrideAdminOrderStatus, AdminOrderOperations.requireReasonCode]
    generalize normalizeOptionalString (some reasonCode) = code
    refine .require_bind fun _ => .orFail_bind fun _ _ => .get_bind fun db _ =>
      .orFail_bind fun record hrecord => ?_
    split
    · exact True.intro
    · exact .require_bind fun _ => changeOrderStatus_guarantees hlocks
        (hread db record orderId hrecord) fun _ => .inl rfl
  | merchantTimeout orderId =>
    refine .get_bind fun db _ => ?_
    cases hrecord : findOrderDetailById db orderId with
    | none => exact True.intro
    | some record =>
      dsimp only
      split
      · exact True.intro
      · next hplaced =>
        refine changeOrderStatus_guarantees hlocks (hread db record orderId hrecord) fun h => ?_
        rw [not_not.mp hplaced] at h
        exact absurd h (by decide)
  | riderTimeout orderId =>
    refine .get_bind fun db _ => ?_
    cases hrecord : findOrderDetailById db orderId with
    | none => exact True.intro
    | some record =>
      dsimp only
      split
      · exact True.intro
      · next hwaiting =>
        refine changeOrderStatus_guarantees hlocks (hread db record orderId hrecord) fun h => ?_
        rw [not_not.mp (not_or.mp hwaiting).1] at h
        exact absurd h (by decide)
  | rider action currentUser input => exact riderAction_guarantees hlocks action currentUser input _
  | assignRider newDeliveryId currentUser orderId riderId reasonCode note =>
    refine .require_bind fun _ => .get_bind fun db _ => .orFail_bind fun record hrecord => ?_
    obtain ⟨horder, -⟩ := get_of_findOrderDetailById hrecord
    split
    · exact True.intro
    · refine .require_bind fun hcan => .get_bind fun db' _ => .orFail_bind fun _ _ =>
        .require_bind fun _ => .transaction fun _ _ _ => assignDelivery_relies hlocks
          (.inl ⟨_, _, _, _, rfl⟩) (statusIn_eq horder) ?_ .nil (by simp)
      have hready : record.order.status = .merchantAccepted ∨
          record.order.status = .riderAssigned := by simp_all [canAdminAssignRider]
      change record.order.status ∉ terminalOrderStatuses
      rcases hready with h | h
      · rw [h]; decide
      · rw [h]; decide
  | autoDispatchOrder ids orderId =>
    refine .get_bind fun db _ => ?_
    cases findOrderToDispatch db orderId with
    | none => exact True.intro
    | some order =>
      exact dispatchNext_guarantees hlocks (fun _ _ => rfl) rfl (fun _ _ => rfl) _ _ _ _
  | autoDispatchForRider ids riderId township =>
    exact handleAutoDispatchForRider_guarantees hlocks ids riderId township reads
  | dispatchTimeout ids orderId attemptId =>
    exact handleRiderDispatchTimeout_guarantees hlocks ids orderId attemptId reads
  | payment action currentUser input =>
    exact handlePaymentTransition_guarantees hlocks action currentUser input reads

end Operations

end WerTe
