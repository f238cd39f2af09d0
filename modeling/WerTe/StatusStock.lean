import WerTe.OrderSteps

/-!
# The status of an order and its stock

Whether a change of status gives an order's stock back is decided on the two statuses alone.
The entries of the status history therefore tell how many times that was
(`Order.releases`), and the stock has gained exactly as much (`StockTied`).

* `stock_held_iff` — the stock of an order is given back at most once, and only when the
  order is closed, just if no override reopens an order whose stock was given back.
* `released_iff_unprepared` — the stock of a closed order was given back just if the order
  was not prepared, provided that no order is closed on the wrong side of its preparation.
-/

namespace WerTe

open ReadCommitted OrdersRepository DispatchRepository

/-! ## What the history tells -/

/-- The change of status that the entry records gives the order's stock back. -/
def OrderStatusHistory.releases (entry : OrderStatusHistory) : Bool :=
  entry.fromStatus.any fun fromStatus =>
    shouldReleaseInventoryForOrderTransition fromStatus entry.toStatus

/-- How many times the order's stock was given back. -/
def Order.releases (order : Order) : ℕ := order.statusHistory.countP (·.releases)

/-- The order's preparation was begun at some time. -/
def Order.WasPrepared (order : Order) : Prop :=
  ∃ entry ∈ order.statusHistory, entry.toStatus = .preparing

instance (order : Order) : Decidable order.WasPrepared :=
  inferInstanceAs (Decidable (∃ entry ∈ order.statusHistory, entry.toStatus = .preparing))

/-- The order as checkout creates it. -/
structure Order.Placed (order : Order) : Prop where
  /-- its status -/
  status : order.status = .placed
  /-- its history -/
  history : ∃ reasonCode note, order.statusHistory = [⟨none, .placed, reasonCode, note⟩]

section History

variable {order : Order} {payload : UpdateOrderStatusInput}

theorem Order.releases_changeStatus (hfrom : payload.fromStatus = order.status) :
    (order.changeStatus payload).releases = order.releases +
      if shouldReleaseInventoryForOrderTransition order.status payload.status then 1 else 0 := by
  simp only [Order.releases, Order.changeStatus, List.countP_append, List.countP_singleton,
    OrderStatusHistory.releases, Option.any_some, hfrom]

theorem Order.wasPrepared_changeStatus :
    (order.changeStatus payload).WasPrepared ↔ order.WasPrepared ∨ payload.status = .preparing := by
  simp [Order.WasPrepared, Order.changeStatus, or_and_right, exists_or]

theorem Order.Placed.releases (h : order.Placed) : order.releases = 0 := by
  obtain ⟨reasonCode, note, hhistory⟩ := h.history
  rw [Order.releases, hhistory]
  rfl

theorem Order.Placed.not_wasPrepared (h : order.Placed) : ¬ order.WasPrepared := by
  obtain ⟨reasonCode, note, hhistory⟩ := h.history
  simp [Order.WasPrepared, hhistory]

theorem Order.Placed.not_released (h : order.Placed) : ¬ order.Released := not_released_of_placed h.status

/-- A change that gives stock back closes an order that was open. -/
theorem released_of_shouldRelease {fromStatus toStatus : OrderStatus}
    (h : shouldReleaseInventoryForOrderTransition fromStatus toStatus = true) :
    toStatus ∈ inventoryReleaseToStatuses ∧ fromStatus ∉ inventoryReleaseToStatuses := by
  revert h
  cases fromStatus <;> cases toStatus <;> decide

end History

/-! ## The stock and the history -/

/-- The operation is none on another order's status. Those of riders move no stock, and
dispatch for a rider chooses the order itself. -/
def OrderCall.On (orderId : Id) (call : OrderCall) (db : Store) : Prop :=
  match call with
  | customerCancel _ orderId' _ _ | merchant _ _ orderId' _ _ | adminCancel _ orderId' _ _
  | adminOverride _ orderId' _ _ _ | merchantTimeout orderId' | riderTimeout orderId'
  | assignRider _ _ orderId' _ _ _ | autoDispatchOrder _ orderId'
  | dispatchTimeout _ orderId' _ => orderId' = orderId
  | payment _ _ input => ∀ payment, db.get (.payment, input.paymentId) = some payment →
      payment.orderId = orderId
  | rider .. | autoDispatchForRider .. => True

/-- The tables that operations on orders write, apart from stock. -/
def orderTables : List Tbl := [.order, .delivery, .orderDispatchAttempt, .payment, .advisoryLock]

/-- Since `db₀`, the stock has gained what the order reserved, once for each time that its
history says; the order can still be read with its relations. -/
def StockTied (db₀ : Store) (orderId : Id) (order₀ : Order) (db : Store) : Prop :=
  ∃ record, findOrderDetailById db orderId = some record ∧
    record.order.items = order₀.items ∧ ∀ k, k.1 ∉ orderTables →
      db.get k = (db₀.get k).map (amend restock ((record.order.releases • order₀.reserved) k) k)

section Tied

variable {call : OrderCall} {start db db' : Store} {orderId : Id}

/-- The order an operation changes of its own accord is the one it is on. -/
theorem OrderCall.Moves.on {orderId' : Id} {order : Order} {target : OrderStatus}
    (h : call.Moves start db orderId' order target) (hon : call.On orderId db) :
    orderId' = orderId := by
  cases call with
  | payment action currentUser input =>
    obtain ⟨⟨payment, hpayment, rfl⟩, -⟩ := h
    exact hon payment hpayment
  | rider | assignRider | autoDispatchForRider => exact h.elim
  | _ => exact h.1.trans hon

theorem find_of_rows {record : OrderDetailRecord} {order' : Order}
    (hfind : findOrderDetailById db orderId = some record)
    (horder' : db'.get (.order, orderId) = some order')
    (hcustomer : order'.customerProfileId = record.order.customerProfileId)
    (hbranch : order'.branchId = record.order.branchId)
    (hrows : ∀ k : Key Tbl, k.1 ∈ [.customerProfile, .branch, .merchant] → db'.get k = db.get k) :
    ∃ record', findOrderDetailById db' orderId = some record' ∧ record'.order = order' := by
  simp only [findOrderDetailById, Option.bind_eq_bind, Option.bind_eq_some_iff, Option.pure_def,
    Option.some.injEq] at hfind
  obtain ⟨order, horder, profile, hprofile, branch, hbranch', merchant, hmerchant, rfl⟩ := hfind
  refine ⟨⟨orderId, order', profile.userId, branch.merchantId, merchant.userId,
    DeliveriesRepository.findByOrderId db' orderId⟩, ?_, rfl⟩
  have hprofile' : db'.get (.customerProfile, order'.customerProfileId) = some profile := by
    rw [hcustomer, hrows _ (by simp)]
    exact hprofile
  have hbranch'' : db'.get (.branch, order'.branchId) = some branch := by
    rw [hbranch, hrows _ (by simp)]
    exact hbranch'
  have hmerchant' : db'.get (.merchant, branch.merchantId) = some merchant := by
    rw [hrows _ (by simp)]
    exact hmerchant
  simp [findOrderDetailById, horder', hprofile', hbranch'', hmerchant']

/-- What a step of an operation on an order does to it and to the stock. -/
theorem OrderStep.stock (h : OrderStep call start db db') (hon : call.On orderId db)
    {record : OrderDetailRecord} (hfind : findOrderDetailById db orderId = some record) :
    ∃ order' n, db'.get (.order, orderId) = some order' ∧ order'.items = record.order.items ∧
      order'.customerProfileId = record.order.customerProfileId ∧
      order'.branchId = record.order.branchId ∧ order'.releases = record.order.releases + n ∧
      ∀ k, k.1 ∉ orderTables →
        db'.get k = (db.get k).map (amend restock ((n • record.order.reserved) k) k) := by
  obtain ⟨horder, -⟩ := get_of_findOrderDetailById hfind
  -- a step that leaves the stock alone leaves the order's releases as they are
  have hopen : (∀ k, k.1 ∉ orderTables → db'.get k = db.get k) →
      (db'.get (.order, orderId) = some record.order ∨ ∃ payload : UpdateOrderStatusInput,
        payload.fromStatus = record.order.status ∧ payload.status ∉ inventoryReleaseToStatuses ∧
          db'.get (.order, orderId) = some (record.order.changeStatus payload)) →
      ∃ order' n, db'.get (.order, orderId) = some order' ∧ order'.items = record.order.items ∧
        order'.customerProfileId = record.order.customerProfileId ∧
        order'.branchId = record.order.branchId ∧ order'.releases = record.order.releases + n ∧
        ∀ k, k.1 ∉ orderTables →
          db'.get k = (db.get k).map (amend restock ((n • record.order.reserved) k) k) := by
    intro hrows horder'
    have hsame : ∀ k, k.1 ∉ orderTables → db'.get k =
        (db.get k).map (amend restock ((0 • record.order.reserved) k) k) := fun k hk => by
      rw [hrows k hk, zero_nsmul]
      exact (Accumulates.map_amend_zero (db.get k)).symm
    rcases horder' with hget | ⟨payload, hfrom, htarget, hget⟩
    · exact ⟨record.order, 0, hget, rfl, rfl, rfl, rfl, hsame⟩
    · refine ⟨_, 0, hget, rfl, rfl, rfl, ?_, hsame⟩
      rw [Order.releases_changeStatus hfrom, if_neg]
      exact fun hrelease => htarget (released_of_shouldRelease hrelease).1
  have hmoved : ∀ {orderId' : Id} {order' : Order} {payload : UpdateOrderStatusInput},
      db.get (.order, orderId') = some order' → payload.fromStatus = order'.status →
      payload.status ∉ inventoryReleaseToStatuses →
      db'.get (.order, orderId) =
        (if orderId = orderId' then some (order'.changeStatus payload) else some record.order) →
      (db'.get (.order, orderId) = some record.order ∨ ∃ payload : UpdateOrderStatusInput,
        payload.fromStatus = record.order.status ∧ payload.status ∉ inventoryReleaseToStatuses ∧
          db'.get (.order, orderId) = some (record.order.changeStatus payload)) := by
    intro orderId' order' payload horder' hfrom htarget hget
    by_cases hid : orderId = orderId'
    · subst hid
      rw [horder] at horder'
      cases horder'
      rw [if_pos rfl] at hget
      exact .inr ⟨payload, hfrom, htarget, hget⟩
    · rw [if_neg hid] at hget
      exact .inl hget
  have hput : ∀ (w w' : Write Row) (k : Key Tbl), w.table ∈ orderTables → w'.table ∈ orderTables →
      k.1 ∉ orderTables → ((db.put w).put w').get k = db.get k := by
    intro w w' k hw hw' hk
    rw [Db.get_put_ne _ fun hkey => hk (congrArg Prod.fst hkey ▸ hw'),
      Db.get_put_ne _ fun hkey => hk (congrArg Prod.fst hkey ▸ hw)]
  cases h with
  | @status _ orderId' order' payload horder' hfrom hmoves hchanged =>
    obtain rfl := hmoves.on hon
    rw [horder] at horder'
    cases horder'
    obtain ⟨order₁, hget, hget'⟩ := hchanged.order
    rw [horder] at hget
    cases hget
    refine ⟨_, _, hget', rfl, rfl, rfl, Order.releases_changeStatus hfrom, fun k hk => ?_⟩
    have hne : k ≠ (.order, orderId') := fun hkey => hk (by simp [hkey, orderTables])
    by_cases hpresent : (db.get k).isSome
    · rw [hchanged.rows k hne hpresent, givenBackBy, hfind]
      by_cases hrelease : shouldReleaseInventoryForOrderTransition record.order.status payload.status
      · rw [if_pos hrelease, if_pos ⟨hrelease, rfl⟩, one_nsmul]
      · rw [if_neg hrelease, if_neg fun h => hrelease h.1, zero_nsmul]
    · have hgone := hchanged.isSome k
      rw [Option.not_isSome_iff_eq_none.mp hpresent] at hgone ⊢
      exact Option.not_isSome_iff_eq_none.mp (by rw [hgone]; exact Bool.false_ne_true)
  | @rider action _ _ _ _ payload _ _ horder' _ hfrom hto =>
    exact hopen (fun k hk => hput _ _ k (by simp [orderTables]) (by simp [orderTables]) hk) (hmoved horder' hfrom
      (by rw [hto]; cases action <;> decide) (get_order_put_put (by simp) horder))
  | reset _ _ _ _ _ horder' _ hfrom hto =>
    exact hopen (fun k hk => hput _ _ k (by simp [orderTables]) (by simp [orderTables]) hk) (hmoved horder' hfrom
      (by rw [hto]; decide) (get_order_put_put (by simp) horder))
  | assign _ horder' _ hfrom hto =>
    exact hopen (fun k hk => hput _ _ k (by simp [orderTables]) (by simp [orderTables]) hk) (hmoved horder' hfrom
      (by rw [hto]; decide) (get_order_put_put (by simp) horder))
  | attempt attemptId attempt =>
    have hother : ∀ k : Key Tbl, k.1 ≠ .orderDispatchAttempt →
        (db.put ⟨.orderDispatchAttempt, attemptId, some attempt⟩).get k = db.get k :=
      fun k hk => Db.get_put_ne _ fun hkey => hk (congrArg Prod.fst hkey)
    exact hopen (fun k hk => hother k fun hkey => hk (by rw [hkey]; decide))
      (.inl ((hother (.order, orderId) (by simp)).trans horder))
  | rest hrest _ =>
    exact hopen (fun k hk => hrest k (fun hkey => hk (by rw [hkey]; decide))
      fun hkey => hk (by rw [hkey]; decide)) (.inl ((hrest (.order, orderId) (by simp) (by simp)).trans horder))

/-- The stock stays tied to the history. -/
theorem OrderStep.tied {db₀ : Store} {order₀ : Order} (h : OrderStep call start db db')
    (hon : call.On orderId db) (htied : StockTied db₀ orderId order₀ db) :
    StockTied db₀ orderId order₀ db' := by
  obtain ⟨record, hfind, hitems, hrows⟩ := htied
  obtain ⟨order', n, horder', hitems', hcustomer, hbranch, hreleases, hstock⟩ := h.stock hon hfind
  have hreserved : record.order.reserved = order₀.reserved := by
    rw [Order.reserved, Order.reserved, Order.inventoryLines, Order.inventoryLines, hitems]
  have hcontext : ∀ k : Key Tbl, k.1 ∈ [.customerProfile, .branch, .merchant] →
      db'.get k = db.get k := by
    rintro ⟨t, id⟩ hk
    simp only [List.mem_cons, List.not_mem_nil, or_false] at hk
    -- restocking leaves these tables alone
    have hsame : ∀ d : WithZero ℤ, (db.get (t, id)).map (amend restock d (t, id)) =
        db.get (t, id) := by
      intro d
      rcases hk with rfl | rfl | rfl <;> cases d <;> cases db.get (_, id) <;> rfl
    rw [hstock _ (by rcases hk with rfl | rfl | rfl <;> simp [orderTables]), hsame]
  obtain ⟨record', hfind', rfl⟩ := find_of_rows hfind horder' hcustomer hbranch hcontext
  refine ⟨record', hfind', hitems'.trans hitems, fun k hk => ?_⟩
  rw [hstock k hk, hrows k hk, Option.map_map, hreleases, hreserved, add_nsmul]
  refine congrArg (fun f => (db₀.get k).map f) (funext fun r => ?_)
  rw [Function.comp_apply, amend_amend_restock]
  rfl

/-- What an operation is on does not change as it runs. -/
theorem OrderStep.on (h : OrderStep call start db db') (hon : call.On orderId db) :
    call.On orderId db' := by
  cases call with
  | payment action currentUser input =>
    have hof : ∀ id, (db'.get (.payment, id)).map Payment.orderId =
        (db.get (.payment, id)).map Payment.orderId := by
      intro id
      cases h with
      | status horder hfrom hmoves hchanged =>
        by_cases hpresent : (db.get (.payment, id)).isSome
        · rw [hchanged.rows (.payment, id) (by simp) hpresent]
          cases db.get (.payment, id) with
          | none => rfl
          | some payment => rw [Option.map_some, amend_restock_payment]
        · have hnone : db.get (.payment, id) = none := Option.not_isSome_iff_eq_none.mp hpresent
          have hnone' : db'.get (.payment, id) = none :=
            Option.not_isSome_iff_eq_none.mp (by rw [hchanged.isSome]; exact hpresent)
          rw [hnone, hnone']
      | rider hcall => cases hcall
      | reset hcall => cases hcall
      | assign _ _ hassigns => exact hassigns.elim
      | attempt attemptId attempt => rw [Db.get_put_ne _ (by simp [Write.key])]
      | rest _ hpayment => exact hpayment id
    intro payment' hpayment'
    have hsame := hof input.paymentId
    rw [hpayment'] at hsame
    obtain ⟨payment, hpayment, hsame⟩ := Option.map_eq_some_iff.mp hsame.symm
    exact hsame.symm.trans (hon payment hpayment)
  | _ => exact hon

/-- An operation on an order keeps its stock tied to its history. -/
theorem StockTied.run {db₀ : Store} {order₀ : Order} (htied : StockTied db₀ orderId order₀ db)
    (hon : call.On orderId db) : StockTied db₀ orderId order₀ (call.run db) := by
  have hsteps : ∀ db', OrderSteps call db db db' →
      call.On orderId db' ∧ StockTied db₀ orderId order₀ db' := by
    intro db' hsteps
    induction hsteps with
    | refl => exact ⟨hon, htied⟩
    | tail _ hstep ih => exact ⟨hstep.on ih.1, hstep.tied ih.1 ih.2⟩
  exact (hsteps _ (call.run_steps db)).2

end Tied

/-! ## At most one release, and only when closed -/

/-- The order's stock was given back at most once, and not at all while the order is open. -/
structure StatusStock (order : Order) : Prop where
  /-- at most once -/
  once : order.releases ≤ 1
  /-- not while it is open -/
  held : ¬ order.Released → order.releases = 0

/-- An override that is let through leaves an order closed whose stock was given back. -/
def OrderCall.KeepsClosed (orderId : Id) (order : Order) : OrderCall → Prop
  | adminOverride currentUser orderId' status reasonCode _ => orderId' = orderId →
      currentUser.role = .admin → (normalizeOptionalString (some reasonCode)).isSome →
        order.releases ≠ 0 → status ∈ inventoryReleaseToStatuses
  | _ => True

section Coupling

variable {call : OrderCall} {start db db' : Store} {orderId : Id} {order : Order}

theorem Order.Placed.statusStock (h : order.Placed) : StatusStock order :=
  ⟨by rw [h.releases]; exact Nat.zero_le 1, fun _ => h.releases⟩

/-- The status changes, and if the order's stock was given back then the order stays closed. -/
theorem StatusStock.changeStatus {payload : UpdateOrderStatusInput} (h : StatusStock order)
    (hfrom : payload.fromStatus = order.status)
    (hclosed : order.releases ≠ 0 → payload.status ∈ inventoryReleaseToStatuses) :
    StatusStock (order.changeStatus payload) := by
  have hreleases := Order.releases_changeStatus hfrom
  by_cases hrelease : shouldReleaseInventoryForOrderTransition order.status payload.status = true
  · obtain ⟨hto, hopen⟩ := released_of_shouldRelease hrelease
    rw [if_pos hrelease, h.held hopen] at hreleases
    exact ⟨hreleases.le, fun hnot => absurd hto hnot⟩
  · rw [if_neg hrelease, add_zero] at hreleases
    refine ⟨hreleases.le.trans h.once, fun hnot => ?_⟩
    by_contra hgiven
    exact hnot (hclosed (hreleases ▸ hgiven))

theorem Order.Released.terminal (h : order.Released) : order.status ∈ terminalOrderStatuses := by
  have hsub : ∀ status ∈ inventoryReleaseToStatuses, status ∈ terminalOrderStatuses := by decide
  exact hsub _ h

/-- Along the steps of an operation, what is known of the order and its stock is kept. -/
theorem OrderSteps.statusStock (hsteps : OrderSteps call start db db')
    (horder : db.get (.order, orderId) = some order) (hstock : StatusStock order)
    (hkeeps : call.KeepsClosed orderId order) :
    ∃ order', db'.get (.order, orderId) = some order' ∧ StatusStock order' ∧
      call.KeepsClosed orderId order' := by
  induction hsteps with
  | refl => exact ⟨order, horder, hstock, hkeeps⟩
  | tail _ hstep ih =>
    obtain ⟨order₁, horder₁, hstock₁, hkeeps₁⟩ := ih
    rcases hstep.order_cases horder₁ with hget | ⟨payload, hfrom, hmove, hget⟩
    · exact ⟨order₁, hget, hstock₁, hkeeps₁⟩
    have hclosed : order₁.releases ≠ 0 → payload.status ∈ inventoryReleaseToStatuses := by
      intro hgiven
      rcases hmove.active with hactive | ⟨currentUser, reasonCode, note, rfl, hadmin, hcode⟩
      · exact absurd (hstock₁.held fun h => hactive h.terminal) hgiven
      · exact hkeeps₁ rfl hadmin hcode hgiven
    have hstock₂ := hstock₁.changeStatus hfrom hclosed
    refine ⟨_, hget, hstock₂, ?_⟩
    cases call with
    | adminOverride currentUser orderId' status reasonCode note =>
      -- the step is the override's own, so the status is the one it asks for
      have hto : payload.status = status := by
        generalize payload.status = target at hmove
        cases hmove with
        | own hmoves => exact hmoves.2.1
        | rider hcall => cases hcall
        | reset hcall => cases hcall
        | assign hassigns => exact hassigns.elim
      intro _ _ _ hgiven
      by_contra hopen
      exact hgiven (hstock₂.held fun hreleased => hopen (hto ▸ hreleased))
    | _ => exact True.intro

/-- An override that is let through writes the status it asks for. -/
theorem adminOverride_run {currentUser : AuthenticatedUser} {status : OrderStatus}
    {reasonCode : String} {note : Option String} {record : OrderDetailRecord}
    (hfind : findOrderDetailById db orderId = some record) (hadmin : currentUser.role = .admin)
    (hcode : (normalizeOptionalString (some reasonCode)).isSome)
    (hne : record.order.status ≠ status)
    (hkeep : shouldReleaseInventoryForOrderTransition record.order.status status = false) :
    ∃ payload : UpdateOrderStatusInput, payload.status = status ∧
      payload.fromStatus = record.order.status ∧
      ((OrderCall.adminOverride currentUser orderId status reasonCode note).run db).get
        (.order, orderId) = some (record.order.changeStatus payload) := by
  obtain ⟨horder, hid⟩ := get_of_findOrderDetailById hfind
  have hallowed : canViewAdminOrders currentUser = true := beq_iff_eq.mpr hadmin
  refine Service.Ends.run (Q := fun _ (db' : Store) => ∃ payload : UpdateOrderStatusInput,
    payload.status = status ∧ payload.fromStatus = record.order.status ∧
      db'.get (.order, orderId) = some (record.order.changeStatus payload)) ?_
  refine .require_bind (fun _ => .orFail_bind (fun code _ => .get_bind (.orFail_bind
    (fun record' hfind' => ?_) fun hnone => ?_)) fun hnone => ?_) fun hdenied => ?_
  · obtain rfl : record' = record := Option.some.inj (hfind'.symm.trans hfind)
    rw [if_neg hne]
    refine .require_bind (fun _ => ?_) fun hdenied => absurd hallowed hdenied
    have hrun : (changeOrderStatus record' ⟨status, record'.order.status, some code,
        normalizeOptionalString note⟩).run db = .ok ((), db.put ⟨.order, orderId,
          some (record'.order.changeStatus ⟨status, record'.order.status, some code,
            normalizeOptionalString note⟩)⟩) := by
      rw [changeOrderStatus, hkeep, hid]
      change ((updateOrderStatus orderId _).bind fun _ => .ret ()).run db = _
      rw [Tx.run_bind, updateOrderStatus, Tx.run_updateExisting horder]
      rfl
    refine .transaction (fun u db' h => ?_) fun e h => ?_
    · rw [hrun] at h
      cases h
      exact ⟨_, rfl, rfl, Db.get_put_self ..⟩
    · rw [hrun] at h
      cases h
  · rw [hfind] at hnone
    cases hnone
  · rw [hnone] at hcode
    cases hcode
  · exact absurd hallowed hdenied

/-- The order is on record, and its stock is held as its status says. -/
def StockHeld (orderId : Id) (db : Store) : Prop :=
  ∃ order, db.get (.order, orderId) = some order ∧ StatusStock order

/-- Each stock level has gained what the order reserved, once for each time that its history
says that its stock was given back. -/
def StockGained (db₀ : Store) (orderId : Id) (order₀ : Order) (db : Store) : Prop :=
  ∃ order, db.get (.order, orderId) = some order ∧ ∀ k level, levelAt db₀ k = some level →
    levelAt db k = some (level + order.releases * amountAt k order₀.reserved)

theorem StockTied.gained {db₀ : Store} {order₀ : Order} (h : StockTied db₀ orderId order₀ db) :
    StockGained db₀ orderId order₀ db := by
  obtain ⟨record, hfind, -, hrows⟩ := h
  refine ⟨record.order, (get_of_findOrderDetailById hfind).1, fun k level hlevel => ?_⟩
  obtain ⟨r, hr, hrlevel⟩ := Option.bind_eq_some_iff.mp hlevel
  have hk : k.1 ∉ orderTables := by
    obtain ⟨t, i⟩ := k
    intro ht
    simp only [orderTables, List.mem_cons, List.not_mem_nil, or_false] at ht
    rcases ht with rfl | rfl | rfl | rfl | rfl <;> cases hrlevel
  rw [levelAt, hrows k hk, hr]
  change stockLevel k.1 (amend restock _ k r) = _
  rw [stockLevel_amend_restock hrlevel, ← amountAt_apply, map_nsmul, nsmul_eq_mul]

/-- One operation keeps the stock held just if it does not reopen an order whose stock was
given back. -/
theorem stockHeld_run {record : OrderDetailRecord}
    (hfind : findOrderDetailById db orderId = some record) (hstock : StatusStock record.order) :
    StockHeld orderId (call.run db) ↔ call.KeepsClosed orderId record.order := by
  obtain ⟨horder, -⟩ := get_of_findOrderDetailById hfind
  constructor
  · rintro ⟨order', horder', hstock'⟩
    cases call with
    | adminOverride currentUser orderId' status reasonCode note =>
      rintro rfl hadmin hcode hgiven
      by_contra hopen
      have hreleased : record.order.Released := not_not.mp fun h => hgiven (hstock.held h)
      have hne : record.order.status ≠ status := fun h => hopen (h ▸ hreleased)
      have hkeep : shouldReleaseInventoryForOrderTransition record.order.status status = false :=
        eq_false_of_ne_true fun h => hopen (released_of_shouldRelease h).1
      obtain ⟨payload, rfl, hfrom, hget⟩ := adminOverride_run hfind hadmin hcode hne hkeep
      obtain rfl := Option.some.inj (horder'.symm.trans hget)
      have hreleases := Order.releases_changeStatus hfrom
      rw [hkeep] at hreleases
      exact hgiven (hreleases.symm.trans (hstock'.held hopen))
    | _ => exact True.intro
  · intro hkeeps
    obtain ⟨order', horder', hstock', -⟩ := (call.run_steps db).statusStock horder hstock hkeeps
    exact ⟨order', horder', hstock'⟩

/-- In a run of operations on one order, from its placing on, the stock gains what the order
reserved whenever it is given back. That happens at most once, and only to a closed order, in
every state of the run just if no override that is let through reopens an order whose stock was
given back. -/
theorem stock_held_iff {db₀ : Store} {record : OrderDetailRecord}
    (hfind : findOrderDetailById db₀ orderId = some record) (hplaced : record.order.Placed)
    {calls : List OrderCall} (hon : MeetAll OrderCall.run (OrderCall.On orderId) calls db₀) :
    Always OrderCall.run (StockGained db₀ orderId record.order) calls db₀ ∧
      (Always OrderCall.run (StockHeld orderId) calls db₀ ↔ MeetAll OrderCall.run
        (fun call db => ∀ order, db.get (.order, orderId) = some order →
          call.KeepsClosed orderId order) calls db₀) := by
  have hstart : StockTied db₀ orderId record.order db₀ := by
    refine ⟨record, hfind, rfl, fun k _ => ?_⟩
    rw [hplaced.releases, zero_nsmul]
    exact (Accumulates.map_amend_zero (db₀.get k)).symm
  constructor
  · exact always_of_meetAll (fun c db htied hon => StockTied.run htied hon)
      (fun c db htied hon _ _ => (StockTied.run htied hon).gained) calls hstart hstart.gained hon hon
  · refine always_iff_meetAll (fun c db htied hon => StockTied.run htied hon)
      (fun c db htied _ hheld => ?_) calls hstart
      ⟨record.order, (get_of_findOrderDetailById hfind).1, hplaced.statusStock⟩ hon
    obtain ⟨record', hfind', -⟩ := htied
    obtain ⟨order, horder, hstock⟩ := hheld
    obtain rfl := Option.some.inj ((get_of_findOrderDetailById hfind').1.symm.trans horder)
    refine (stockHeld_run hfind' hstock).trans ⟨fun h order' horder' => ?_, fun h => h _ horder⟩
    rwa [Option.some.inj (horder'.symm.trans horder)]

end Coupling

def teaAdmin : AuthenticatedUser where
  userId := 30
  role := .admin
  merchantId := none
  customerProfileId := none
  riderId := none

/-- The customer cancels, the administrator reopens the order, the customer cancels again. -/
def cancelReopenCancel : List OrderCall := [
  .customerCancel teaCustomer 1 none none,
  .adminOverride teaAdmin 1 .placed "reopened" none,
  .customerCancel teaCustomer 1 none none]

/-- Four cups come back for the two that were ordered. -/
theorem reopened_released_twice :
    ¬ Always OrderCall.run (StockHeld 1) cancelReopenCancel orderShop ∧
      levelAt orderShop (.menuItem, 1) = some 5 ∧
      levelAt (runAll OrderCall.run cancelReopenCancel orderShop) (.menuItem, 1) = some 9 := by
  refine ⟨?_, by decide, by decide⟩
  rintro ⟨-, -, ⟨order, horder, hstock⟩, -⟩
  have hreopened : ∀ order' ∈ (runAll OrderCall.run (cancelReopenCancel.take 2) orderShop).get
      (.order, 1), order'.releases = 1 ∧ order'.status = .placed := by
    decide
  obtain ⟨hreleases, hstatus⟩ := hreopened order horder
  have hnone := hstock.held (not_released_of_placed hstatus)
  rw [hreleases] at hnone
  cases hnone

/-- An override that leaves a cancelled order closed keeps its stock as its status says. -/
theorem stock_held_teaShop :
    Always OrderCall.run (StockHeld 1) [.customerCancel teaCustomer 1 none none,
      .adminOverride teaAdmin 1 .merchantRejected "rejected" none] orderShop ∧
    levelAt orderShop (.menuItem, 1) = some 5 := by
  have hfind : ∃ record, findOrderDetailById orderShop 1 = some record ∧ record.order = teaOrder :=
    ⟨_, rfl, rfl⟩
  obtain ⟨record, hfind, hrecord⟩ := hfind
  have hplaced : record.order.Placed := hrecord ▸ ⟨rfl, none, none, rfl⟩
  have hon : MeetAll OrderCall.run (OrderCall.On 1) [.customerCancel teaCustomer 1 none none,
      .adminOverride teaAdmin 1 .merchantRejected "rejected" none] orderShop :=
    ⟨rfl, rfl, True.intro⟩
  have hclosed : OrderStatus.merchantRejected ∈ inventoryReleaseToStatuses := by decide
  exact ⟨(stock_held_iff hfind hplaced hon).2.mpr ⟨fun _ _ => True.intro,
    fun _ _ _ _ _ _ => hclosed, True.intro⟩, by decide⟩

/-! ## Released if not prepared -/

/-- Statuses that come after the preparation. -/
def preparedStatuses : List OrderStatus := [.preparing, .ready, .pickedUp, .onTheWay]

/-- What is known of an order that no override has touched. -/
structure Unprepared (order : Order) : Prop where
  /-- how its stock is held -/
  stock : StatusStock order
  /-- a placed order is not prepared -/
  placed : order.status = .placed → ¬ order.WasPrepared
  /-- some statuses tell that the order is prepared -/
  begun : order.status ∈ preparedStatuses → order.WasPrepared
  /-- the stock of a closed order was given back just if the order was not prepared -/
  closed : order.Released → (order.releases = 1 ↔ ¬ order.WasPrepared)

/-- The operation, begun in `start`, closes no order on the wrong side of its preparation: none
that is back at accepted though it was prepared, and none that waits for its rider without
having been prepared. -/
def OrderCall.ClosesInTime (start : Store) (orderId : Id) (order : Order) : OrderCall → Prop
  | customerCancel currentUser orderId' _ _ => orderId' = orderId →
      (findOrderDetailById start orderId).any (canCancelCustomerOrder currentUser) = true →
        order.status = .merchantAccepted → ¬ order.WasPrepared
  | adminCancel currentUser orderId' _ _ => orderId' = orderId → currentUser.role = .admin →
      (order.status = .merchantAccepted → ¬ order.WasPrepared) ∧
        (order.status = .riderAssigned ∨ order.status = .riderAccepted → order.WasPrepared)
  | riderTimeout orderId' => orderId' = orderId → order.status = .merchantAccepted →
      ¬ order.WasPrepared
  | autoDispatchOrder _ orderId' => orderId' = orderId → order.status = .merchantAccepted →
      maxFailedAttempts ≤ countFailedAttempts start orderId → ¬ order.WasPrepared
  | dispatchTimeout _ orderId' attemptId => orderId' = orderId → TimesOut start orderId attemptId →
      maxFailedAttempts ≤ countFailedAttempts (resolved start attemptId .timeout) orderId →
        ¬ order.WasPrepared
  | _ => True

/-- The operation is an administrator's override. -/
def OrderCall.isOverride : OrderCall → Bool
  | adminOverride .. => true
  | _ => false

section Preparation

variable {call : OrderCall} {start db db' : Store} {orderId : Id} {order : Order}

theorem Order.Placed.unprepared (h : order.Placed) : Unprepared order where
  stock := h.statusStock
  placed _ := h.not_wasPrepared
  begun hbegun := by
    rw [h.status] at hbegun
    exact absurd hbegun (by decide)
  closed hreleased := absurd hreleased h.not_released

/-- A change to an open status, by no override: prepared orders alone move on from their
preparation, and none is placed again. -/
theorem OrderMove.opens {target : OrderStatus} (h : OrderMove call start db orderId order target)
    (hcall : call.isOverride = false) (hopen : target ∉ inventoryReleaseToStatuses) :
    target ≠ .placed ∧ (target ∈ preparedStatuses →
      target = .preparing ∨ order.status ∈ preparedStatuses) := by
  have hcancelled : ∀ {P : Prop}, target = .cancelled → P := fun h =>
    absurd (by rw [h]; decide) hopen
  have hplain : ∀ status, target = status → status ≠ .placed → status ∉ preparedStatuses →
      target ≠ .placed ∧ (target ∈ preparedStatuses →
        target = .preparing ∨ order.status ∈ preparedStatuses) :=
    fun status htarget hne hnot => htarget ▸ ⟨hne, fun h => absurd h hnot⟩
  cases h with
  | own hmoves =>
    cases call with
    | merchant action =>
      obtain ⟨-, hmoves⟩ := hmoves
      have hprepares : Prepares order target → target ≠ .placed ∧ (target ∈ preparedStatuses →
          target = .preparing ∨ order.status ∈ preparedStatuses) :=
        fun h => ⟨by rw [h.1]; decide, fun _ => .inl h.1⟩
      have hready : order.status = .preparing ∧ target = .ready →
          target ≠ .placed ∧ (target ∈ preparedStatuses →
            target = .preparing ∨ order.status ∈ preparedStatuses) :=
        fun h => ⟨by rw [h.2]; decide, fun _ => .inr (by rw [h.1]; decide)⟩
      cases action with
      | accept =>
        rcases hmoves with ⟨-, h⟩ | h | h
        · exact hplain _ h (by decide) (by decide)
        · exact hprepares h
        · exact hready h
      | reject => exact absurd (by rw [hmoves.2]; decide) hopen
      | preparing => exact hprepares hmoves
      | ready => exact hready hmoves
      | confirmPickup => exact hplain _ hmoves.2.2 (by decide) (by decide)
    | adminOverride => cases hcall
    | customerCancel => exact hcancelled hmoves.2.2.1
    | adminCancel => exact hcancelled hmoves.2.2.1
    | merchantTimeout => exact hcancelled hmoves.2.2
    | riderTimeout => exact hcancelled hmoves.2.2
    | autoDispatchOrder => exact hcancelled hmoves.2.2.1
    | dispatchTimeout => exact hcancelled hmoves.2.2.1
    | payment => exact hcancelled hmoves.2.2.2
    | rider | assignRider | autoDispatchForRider => exact hmoves.elim
  | @rider action _ _ _ _ _ _ hcan =>
    have hfrom : action.orderStatus ≠ .placed ∧ (action.orderStatus ∈ preparedStatuses →
        ∀ status ∈ action.fromStatuses, status ∈ preparedStatuses) := by
      cases action <;> decide
    exact ⟨hfrom.1, fun hbegun => .inr (hfrom.2 hbegun _ (RiderAction.of_can hcan).1)⟩
  | reset => exact hplain _ rfl (by decide) (by decide)
  | assign => exact hplain _ rfl (by decide) (by decide)

/-- Where the preparation of an open order stands can be told from its status, but for three
statuses. -/
theorem Unprepared.release_iff {target : OrderStatus} (h : Unprepared order)
    (hactive : order.status ∉ terminalOrderStatuses) (htarget : target ∈ inventoryReleaseToStatuses)
    (haccepted : order.status = .merchantAccepted → ¬ order.WasPrepared)
    (hwaiting : order.status = .riderAssigned ∨ order.status = .riderAccepted →
      order.WasPrepared) :
    shouldReleaseInventoryForOrderTransition order.status target = true ↔ ¬ order.WasPrepared := by
  have hrelease : shouldReleaseInventoryForOrderTransition order.status target = true ↔
      order.status = .placed ∨ order.status = .merchantAccepted := by
    revert htarget
    cases order.status <;> cases target <;> decide
  rw [hrelease]
  constructor
  · rintro (h' | h')
    · exact h.placed h'
    · exact haccepted h'
  · intro hnot
    by_contra hneither
    rw [not_or] at hneither
    have hrest : ∀ status : OrderStatus, status ∉ terminalOrderStatuses →
        ¬ status = .placed ∧ ¬ status = .merchantAccepted → status ∈ preparedStatuses ∨
          status = .riderAssigned ∨ status = .riderAccepted := by
      intro status
      cases status <;> decide
    rcases hrest _ hactive hneither with h' | h'
    · exact hnot (h.begun h')
    · exact hnot (hwaiting h')

/-- A change to a closed status, by no override: it gives the stock back just if the order was
not prepared, if the operation closes it in time. -/
theorem OrderMove.closes {target : OrderStatus} (h : OrderMove call start db orderId order target)
    (hcall : call.isOverride = false) (hclosed : target ∈ inventoryReleaseToStatuses)
    (hintime : call.ClosesInTime start orderId order) (horder : Unprepared order) :
    shouldReleaseInventoryForOrderTransition order.status target = true ↔ ¬ order.WasPrepared := by
  have hactive : order.status ∉ terminalOrderStatuses := by
    rcases h.active with h | ⟨_, _, _, rfl, -⟩
    · exact h
    · cases hcall
  have hne : ∀ {P : Prop} status, status ∉ inventoryReleaseToStatuses → target = status → P :=
    fun status hopen h => absurd (h ▸ hclosed) hopen
  -- the statuses that the operation has checked are not among the three
  have hstatus : ∀ status, order.status = status → status ≠ .merchantAccepted →
      status ≠ .riderAssigned → status ≠ .riderAccepted →
      (shouldReleaseInventoryForOrderTransition order.status target = true ↔
        ¬ order.WasPrepared) := by
    rintro _ rfl hma hra hracc
    exact horder.release_iff hactive hclosed (fun h => absurd h hma)
      fun h => h.elim (fun h => absurd h hra) fun h => absurd h hracc
  have haccepted : order.status = .merchantAccepted → ¬ order.WasPrepared →
      (shouldReleaseInventoryForOrderTransition order.status target = true ↔
        ¬ order.WasPrepared) := fun h hnot =>
    horder.release_iff hactive hclosed (fun _ => hnot) fun h' => by
      rw [h] at h'
      exact absurd h' (by decide)
  cases h with
  | own hmoves =>
    cases call with
    | customerCancel =>
      obtain ⟨rfl, hfrom, -, hcan⟩ := hmoves
      refine horder.release_iff hactive hclosed (hintime rfl hcan) fun h => ?_
      rcases h with h | h
      · rw [h] at hfrom
        exact absurd hfrom (by decide)
      · rw [h] at hfrom
        exact absurd hfrom (by decide)
    | merchant action =>
      obtain ⟨-, hmoves⟩ := hmoves
      cases action with
      | accept =>
        rcases hmoves with ⟨-, h⟩ | ⟨h, -⟩ | ⟨-, h⟩
        · exact hne _ (by decide) h
        · exact hne _ (by decide) h
        · exact hne _ (by decide) h
      | reject => exact hstatus _ hmoves.1 (by decide) (by decide) (by decide)
      | preparing => exact hne _ (by decide) hmoves.1
      | ready => exact hne _ (by decide) hmoves.2
      | confirmPickup => exact hne _ (by decide) hmoves.2.2
    | adminCancel =>
      obtain ⟨rfl, -, -, hadmin⟩ := hmoves
      obtain ⟨hma, hra⟩ := hintime rfl hadmin
      exact horder.release_iff hactive hclosed hma hra
    | adminOverride => cases hcall
    | merchantTimeout => exact hstatus _ hmoves.2.1 (by decide) (by decide) (by decide)
    | riderTimeout => exact haccepted hmoves.2.1 (hintime hmoves.1.symm hmoves.2.1)
    | autoDispatchOrder =>
      exact haccepted hmoves.2.1 (hintime hmoves.1.symm hmoves.2.1 hmoves.2.2.2)
    | dispatchTimeout =>
      obtain ⟨rfl, hma, -, htimeout, hfailed⟩ := hmoves
      exact haccepted hma (hintime rfl htimeout hfailed)
    | payment => exact hstatus _ hmoves.2.2.1 (by decide) (by decide) (by decide)
    | rider | assignRider | autoDispatchForRider => exact hmoves.elim
  | @rider action =>
    have hopen : action.orderStatus ∉ inventoryReleaseToStatuses := by cases action <;> decide
    exact absurd hclosed hopen
  | reset => exact absurd hclosed (by decide)
  | assign => exact absurd hclosed (by decide)

/-- Closing in time is a matter of how the order was when the operation was begun. -/
theorem OrderMove.closesInTime {payload : UpdateOrderStatusInput}
    (h : OrderMove call start db orderId order payload.status)
    (hintime : call.ClosesInTime start orderId order) :
    call.ClosesInTime start orderId (order.changeStatus payload) := by
  have hprepared : (order.changeStatus payload).WasPrepared ↔
      order.WasPrepared ∨ payload.status = .preparing := Order.wasPrepared_changeStatus
  have hstatus : (order.changeStatus payload).status = payload.status := rfl
  generalize payload.status = target at h hprepared hstatus
  have hcancelled : target = .cancelled → (order.changeStatus payload).status = .merchantAccepted →
      ¬ (order.changeStatus payload).WasPrepared := by
    rintro rfl h
    rw [hstatus] at h
    cases h
  cases call with
  | customerCancel =>
    cases h with
    | own hmoves => exact fun _ _ => hcancelled hmoves.2.2.1
    | rider hcall => cases hcall
    | reset hcall => cases hcall
    | assign hassigns => exact hassigns.elim
  | adminCancel =>
    cases h with
    | own hmoves =>
      refine fun _ _ => ⟨hcancelled hmoves.2.2.1, fun hwaiting => ?_⟩
      rw [hstatus, hmoves.2.2.1] at hwaiting
      exact absurd hwaiting (by decide)
    | rider hcall => cases hcall
    | reset hcall => cases hcall
    | assign hassigns => exact hassigns.elim
  | riderTimeout =>
    cases h with
    | own hmoves => exact fun _ => hcancelled hmoves.2.2
    | rider hcall => cases hcall
    | reset hcall => cases hcall
    | assign hassigns => exact hassigns.elim
  | autoDispatchOrder =>
    cases h with
    | own hmoves => exact fun _ h _ => hcancelled hmoves.2.2.1 h
    | rider hcall => cases hcall
    | reset hcall => cases hcall
    | assign => exact fun _ h => by rw [hstatus] at h; cases h
  | dispatchTimeout =>
    have hne : target ≠ .preparing := by
      cases h with
      | own hmoves => rw [hmoves.2.2.1]; decide
      | rider hcall => cases hcall
      | reset => decide
      | assign => decide
    rw [or_iff_left hne] at hprepared
    exact fun hof htimeout hfailed => hprepared.not.mpr (hintime hof htimeout hfailed)
  | _ => exact True.intro

theorem OrderSteps.unprepared (hsteps : OrderSteps call start db db')
    (hcall : call.isOverride = false) (horder : db.get (.order, orderId) = some order)
    (hintime : call.ClosesInTime start orderId order) (hknown : Unprepared order) :
    ∃ order', db'.get (.order, orderId) = some order' ∧ Unprepared order' ∧
      call.ClosesInTime start orderId order' := by
  induction hsteps with
  | refl => exact ⟨order, horder, hknown, hintime⟩
  | tail _ hstep ih =>
    obtain ⟨order₁, horder₁, hknown₁, hintime₁⟩ := ih
    rcases hstep.order_cases horder₁ with hget | ⟨payload, hfrom, hmove, hget⟩
    · exact ⟨order₁, hget, hknown₁, hintime₁⟩
    refine ⟨_, hget, ?_, hmove.closesInTime hintime₁⟩
    have hactive : order₁.status ∉ terminalOrderStatuses := by
      rcases hmove.active with h | ⟨_, _, _, rfl, -⟩
      · exact h
      · cases hcall
    have hnone : order₁.releases = 0 := hknown₁.stock.held fun h => hactive h.terminal
    have hprepared : (order₁.changeStatus payload).WasPrepared ↔
        order₁.WasPrepared ∨ payload.status = .preparing := Order.wasPrepared_changeStatus
    refine ⟨hknown₁.stock.changeStatus hfrom fun h => absurd hnone h, fun hplaced => ?_,
      fun hbegun => ?_, fun hreleased => ?_⟩
    · have hopen : payload.status ∉ inventoryReleaseToStatuses := by
        change payload.status = .placed at hplaced
        rw [hplaced]
        decide
      exact absurd hplaced (hmove.opens hcall hopen).1
    · have hopen : payload.status ∉ inventoryReleaseToStatuses := by
        have hdisjoint : ∀ status ∈ preparedStatuses, status ∉ inventoryReleaseToStatuses := by
          decide
        exact hdisjoint _ hbegun
      rcases (hmove.opens hcall hopen).2 hbegun with h | h
      · exact hprepared.mpr (.inr h)
      · exact hprepared.mpr (.inl (hknown₁.begun h))
    · have hreleases := Order.releases_changeStatus hfrom
      have hne : payload.status ≠ .preparing := by
        rintro h
        change payload.status ∈ inventoryReleaseToStatuses at hreleased
        rw [h] at hreleased
        exact absurd hreleased (by decide)
      rw [hreleases, hnone, hprepared, or_iff_left hne,
        ← hmove.closes hcall hreleased hintime₁ hknown₁]
      by_cases hrelease : shouldReleaseInventoryForOrderTransition order₁.status payload.status = true
      · simp [hrelease]
      · simp [hrelease]

/-- If the order is closed, then its stock was given back, once, just if the order was not
prepared. -/
def ReleasedIffUnprepared (orderId : Id) (db : Store) : Prop :=
  ∃ order, db.get (.order, orderId) = some order ∧ order.releases ≤ 1 ∧
    (order.Released → (order.releases = 1 ↔ ¬ order.WasPrepared))

/-- In a run of operations on one order, from its placing on and without overrides, the stock of
the order is given back when it is closed just if it was not prepared, provided that no
operation closes it on the wrong side of its preparation. -/
theorem released_iff_unprepared {db₀ : Store} {record : OrderDetailRecord}
    (hfind : findOrderDetailById db₀ orderId = some record) (hplaced : record.order.Placed)
    {calls : List OrderCall}
    (hon : MeetAll OrderCall.run (fun call db => call.On orderId db ∧ call.isOverride = false)
      calls db₀)
    (hintime : MeetAll OrderCall.run (fun call db => ∀ order,
      db.get (.order, orderId) = some order → call.ClosesInTime db orderId order) calls db₀) :
    Always OrderCall.run (fun db => StockGained db₀ orderId record.order db ∧
      ReleasedIffUnprepared orderId db) calls db₀ := by
  have hstart : StockTied db₀ orderId record.order db₀ := by
    refine ⟨record, hfind, rfl, fun k _ => ?_⟩
    rw [hplaced.releases, zero_nsmul]
    exact (Accumulates.map_amend_zero (db₀.get k)).symm
  have hknown : ∃ order, db₀.get (.order, orderId) = some order ∧ Unprepared order :=
    ⟨record.order, (get_of_findOrderDetailById hfind).1, hplaced.unprepared⟩
  have hmeets : ∀ db : Store, StockTied db₀ orderId record.order db →
      (∃ order, db.get (.order, orderId) = some order ∧ Unprepared order) →
      StockGained db₀ orderId record.order db ∧ ReleasedIffUnprepared orderId db :=
    fun db htied ⟨order, horder, hknown⟩ =>
      ⟨htied.gained, order, horder, hknown.stock.once, hknown.closed⟩
  refine Always.mono (P := fun db => StockTied db₀ orderId record.order db ∧
    ∃ order, db.get (.order, orderId) = some order ∧ Unprepared order)
    (fun db h => hmeets db h.1 h.2) calls ?_
  refine always_of_meetAll (J := fun _ => True) (fun _ _ _ _ => True.intro)
    (fun call db _ hdom h hok => ?_) calls True.intro ⟨hstart, hknown⟩ hon hintime
  obtain ⟨htied, order, horder, hknown⟩ := h
  obtain ⟨order', horder', hknown', -⟩ := (call.run_steps db).unprepared hdom.2 horder
    (hok order horder) hknown
  exact ⟨htied.run hdom.1, order', horder', hknown'⟩

end Preparation

/-- The sample shop with an order and a rider who is free. -/
def riderShop : Store := orderShop.apply [
  ⟨.user, 40, some { status := .active, role := .rider }⟩,
  ⟨.rider, 1, some { userId := 40, currentTownship := none, status := .active }⟩,
  ⟨.riderAvailability, 1, some { isOnline := true, isAvailable := true, lastStatusChangedAt := 0 }⟩]

/-- The merchant accepts the order, a rider is assigned to it, and it is cancelled. -/
def cancelWhileAssigned : List OrderCall := [
  .merchant .accept teaMerchant 1 none none,
  .assignRider 1 teaAdmin 1 1 none none,
  .adminCancel teaAdmin 1 none none]

/-- The stock of an order that was never prepared is not given back. -/
theorem unprepared_not_released :
    MeetAll OrderCall.run (fun call db => call.On 1 db ∧ call.isOverride = false)
        cancelWhileAssigned riderShop ∧
      ¬ ReleasedIffUnprepared 1 (runAll OrderCall.run cancelWhileAssigned riderShop) ∧
      levelAt (runAll OrderCall.run cancelWhileAssigned riderShop) (.menuItem, 1) =
        levelAt riderShop (.menuItem, 1) := by
  refine ⟨⟨⟨rfl, rfl⟩, ⟨rfl, rfl⟩, ⟨rfl, rfl⟩, True.intro⟩, ?_, by decide⟩
  rintro ⟨order, horder, -, hiff⟩
  have hcancelled : ∀ order' ∈ (runAll OrderCall.run cancelWhileAssigned riderShop).get
      (.order, 1), order'.Released ∧ order'.releases = 0 ∧ ¬ order'.WasPrepared := by
    decide
  obtain ⟨hreleased, hnone, hnot⟩ := hcancelled order horder
  rw [hnone] at hiff
  exact absurd ((hiff hreleased).mpr hnot) (by decide)

/-- The stock of an order that is cancelled before a rider is assigned is given back. -/
theorem released_iff_unprepared_teaShop :
    ReleasedIffUnprepared 1 (runAll OrderCall.run [.merchant .accept teaMerchant 1 none none,
      .adminCancel teaAdmin 1 none none] riderShop) := by
  have hfind : ∃ record, findOrderDetailById riderShop 1 = some record ∧ record.order = teaOrder :=
    ⟨_, rfl, rfl⟩
  obtain ⟨record, hfind, hrecord⟩ := hfind
  have hplaced : record.order.Placed := hrecord ▸ ⟨rfl, none, none, rfl⟩
  have haccepted : ∀ order ∈ (OrderCall.run (.merchant .accept teaMerchant 1 none none)
      riderShop).get (.order, 1), (order.status = .merchantAccepted → ¬ order.WasPrepared) ∧
        (order.status = .riderAssigned ∨ order.status = .riderAccepted → order.WasPrepared) := by
    decide
  have hholds : Always OrderCall.run (fun db => StockGained riderShop 1 record.order db ∧
      ReleasedIffUnprepared 1 db) [.merchant .accept teaMerchant 1 none none,
        .adminCancel teaAdmin 1 none none] riderShop :=
    released_iff_unprepared hfind hplaced ⟨⟨rfl, rfl⟩, ⟨rfl, rfl⟩, True.intro⟩
      ⟨fun _ _ => True.intro, fun order horder _ _ => haccepted order horder, True.intro⟩
  exact hholds.2.2.2

end WerTe
