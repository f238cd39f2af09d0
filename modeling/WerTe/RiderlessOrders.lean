import WerTe.CashOnDelivery
import WerTe.DispatchTimeouts
import WerTe.StatusHistory

/-!
# Orders that wait for a rider

Two places say which orders wait for a rider: `handleAutoDispatchOrder` takes those without a
delivery and those whose delivery has no rider, `findReadyOrdersWithoutRider` only the first. A
delivery loses its rider when the rider rejects it or cancels before the pickup, and when the offer
times out. So both agree until that happens to an order for delivery (`riderless_detected`).
-/

namespace WerTe

open ReadCommitted OrdersRepository DeliveriesRepository DispatchRepository Tx

/-! ## What is detected -/

/-- The orders that `handleAutoDispatchOrder` would try to dispatch. -/
def ordersToDispatch (db : Store) : List (Id × Order) :=
  (db.list .order fun _ => true).filter fun o => (findOrderToDispatch db o.1).isSome

/-- The order is of the township that is asked for, if one is. -/
def ofTownship (township : Option String) (order : Order) : Bool :=
  township.all fun t => t == "" || order.deliveryTownship == some t

/-- `findReadyOrdersWithoutRider` returns every order that `handleAutoDispatchOrder` would try to
dispatch, when it is not asked for fewer. -/
def DetectsAll (db : Store) : Prop :=
  ∀ (township : Option String) (limit : ℕ), (ordersToDispatch db).length ≤ limit →
    ∀ o ∈ ordersToDispatch db, ofTownship township o.2 = true →
      o ∈ findReadyOrdersWithoutRider db township limit

section Detected

variable {db : Store}

theorem mem_ordersToDispatch {o : Id × Order} : o ∈ ordersToDispatch db ↔
    db.get (.order, o.1) = some o.2 ∧ o.2.status = .merchantAccepted ∧ o.2.deliveryType = .delivery ∧
      ∀ deliveryId delivery, findByOrderId db o.1 = some (deliveryId, delivery) →
        delivery.riderId = none := by
  have hlisted : (o.1, o.2) ∈ db.list .order (fun _ => true) ↔ db.get (.order, o.1) = some o.2 :=
    Db.mem_list.trans (and_iff_left rfl)
  rw [ordersToDispatch, List.mem_filter, hlisted, findOrderToDispatch]
  refine and_congr_right fun hget => ?_
  rw [hget, Option.isSome_filter]
  simp only [Option.any_some, Bool.and_eq_true, beq_iff_eq, Option.all_eq_true,
    Option.isNone_iff_eq_none, Prod.forall, and_assoc]

/-- **What is detected.** All is, exactly when no order that waits for a rider has a delivery. -/
theorem detectsAll_iff :
    DetectsAll db ↔ ∀ o ∈ ordersToDispatch db, findByOrderId db o.1 = none := by
  constructor
  · intro h o ho
    exact (mem_findReadyOrdersWithoutRider (h none _ le_rfl o ho rfl)).2.2.2
  · intro hnone township limit hlimit o ho hof
    obtain ⟨hget, hstatus, htype, -⟩ := mem_ordersToDispatch.mp ho
    rw [findReadyOrdersWithoutRider, List.take_of_length_le]
    · refine (List.mem_insertionSort _).mpr (List.mem_filter.mpr
        ⟨show (o.1, o.2) ∈ _ from Db.mem_list.mpr ⟨hget, ?_⟩, by rw [hnone o ho]; rfl⟩)
      rw [ofTownship] at hof
      simp [hstatus, htype, hof]
    · -- what is found is among the orders to dispatch, each once
      rw [List.length_insertionSort]
      refine le_trans (List.Subperm.length_le (List.Nodup.subperm ?_ fun o' ho' => ?_)) hlimit
      · exact List.Nodup.filter _ (.of_map Prod.fst (Db.list_nodup db .order _))
      · obtain ⟨hlisted, hfree⟩ := List.mem_filter.mp ho'
        obtain ⟨hget', hready⟩ := Db.mem_list.mp (show (o'.1, o'.2) ∈ _ from hlisted)
        simp only [Bool.and_eq_true, beq_iff_eq] at hready
        refine mem_ordersToDispatch.mpr ⟨hget', hready.1.1, hready.1.2, fun i d hfind => ?_⟩
        rw [hfind] at hfree
        cases hfree

end Detected

/-! ## Deliveries that have lost their rider -/

/-- A delivery without a rider is of an order that the customer picks up. -/
def RidersKept (db : Store) : Prop :=
  ∀ i delivery, db.get (.delivery, i) = some delivery → delivery.riderId = none →
    ∃ order, db.get (.order, delivery.orderId) = some order ∧ order.deliveryType ≠ .delivery

/-- The commit takes a rider off the delivery of an order that is to be delivered. -/
def TakesRiderOff {ι : Type} (e : Event ι Row) : Prop :=
  ∃ i delivery delivery', e.db.get (.delivery, i) = some delivery ∧ delivery.riderId.isSome ∧
    (⟨.delivery, i, some delivery'⟩ : Write Row) ∈ e.writes ∧ delivery'.riderId = none ∧
    ∀ order, e.db.get (.order, delivery.orderId) = some order → order.deliveryType = .delivery

theorem RidersKept.detectsAll {db : Store} (h : RidersKept db) : DetectsAll db := by
  refine detectsAll_iff.mpr fun o ho => ?_
  obtain ⟨hget, -, htype, hriderless⟩ := mem_ordersToDispatch.mp ho
  by_contra hsome
  obtain ⟨⟨i, delivery⟩, hfind⟩ := Option.ne_none_iff_exists'.mp hsome
  obtain ⟨hdelivery, hof⟩ := get_of_findByOrderId hfind
  obtain ⟨order, horder, hpickup⟩ := h i delivery hdelivery (hriderless i delivery hfind)
  rw [hof, hget] at horder
  obtain rfl := Option.some.inj horder
  exact hpickup htype

/-! ### One commit -/

section Commits

variable {ι : Type} {e : Event ι Row}

/-- What a checkout commits: no delivery, and no order that is there. -/
def MakesOrders (ws : List (Write Row)) (db : Store) : Prop :=
  ∀ w ∈ ws, w.table ≠ .delivery ∧ (w.table = .order → db.get w.key = none)

theorem RidersKept.commit_checkout (h : RidersKept e.db) (hcommit : MakesOrders e.writes e.db) :
    RidersKept e.result := by
  intro i delivery hget hriderless
  rw [Event.result, Db.get_apply_of_table fun w hw => (hcommit w hw).1] at hget
  obtain ⟨order, horder, hpickup⟩ := h i delivery hget hriderless
  refine ⟨order, (Db.get_apply_of_notMem fun hkey => ?_).trans horder, hpickup⟩
  obtain ⟨w, hw, hkey⟩ := List.mem_map.mp hkey
  have hnew := (hcommit w hw).2 (congrArg Prod.fst hkey)
  rw [hkey, horder] at hnew
  cases hnew

/-- An order stays what it is: to be delivered or to be picked up. -/
theorem order_type_kept {call : OrderCall} (hcommit : OrderCommit (fun _ _ => True) call e.reads
    e.writes e.db) {orderId : Id} {order : Order} (h : e.db.get (.order, orderId) = some order) :
    ∃ order', e.result.get (.order, orderId) = some order' ∧
      order'.deliveryType = order.deliveryType := by
  rcases Db.get_apply_cases e.writes .order orderId e.db with hkept | ⟨r, hr, hget⟩
  · exact ⟨order, hkept.trans h, rfl⟩
  · cases hcommit.writes _ hr with
    | order horder hbelief hpolicy =>
      obtain rfl := Option.some.inj (horder.symm.trans h)
      exact ⟨_, hget, rfl⟩
    | other horder _ _ => exact absurd rfl horder

theorem RidersKept.commit_order {call : OrderCall} (h : RidersKept e.db)
    (hcommit : OrderCommit (fun _ _ => True) call e.reads e.writes e.db)
    (hkept : ¬ TakesRiderOff e) : RidersKept e.result := by
  -- who has no rider after the commit is of an order that was to be picked up before it
  have hbefore : ∀ i delivery, e.result.get (.delivery, i) = some delivery →
      delivery.riderId = none → ∃ order, e.db.get (.order, delivery.orderId) = some order ∧
        order.deliveryType ≠ .delivery := by
    intro i delivery hget hriderless
    rcases Db.get_apply_cases e.writes .delivery i e.db with hsame | ⟨r, hr, hwritten⟩
    · exact h i delivery (hsame.symm.trans hget) hriderless
    · obtain rfl : r = some delivery := hwritten.symm.trans hget
      have hmoved : ∀ old, e.db.get (.delivery, i) = some old → delivery.orderId = old.orderId →
          ∃ order, e.db.get (.order, delivery.orderId) = some order ∧
            order.deliveryType ≠ .delivery := by
        intro old hold hof
        rw [hof]
        by_cases hrider : old.riderId = none
        · exact h i old hold hrider
        · by_contra hnone
          refine hkept ⟨i, old, delivery, hold, Option.isSome_iff_ne_none.mpr hrider, hr, hriderless,
            fun order horder => ?_⟩
          by_contra htype
          exact hnone ⟨order, horder, htype⟩
      cases hcommit.writes _ hr with
      | @rider action _ _ old _ hold => exact hmoved old hold (by cases action <;> rfl)
      | reset hold => exact hmoved _ hold rfl
      | assign => cases hriderless
      | other _ hdelivery _ => exact absurd rfl hdelivery
  intro i delivery hget hriderless
  obtain ⟨order, horder, hpickup⟩ := hbefore i delivery hget hriderless
  obtain ⟨order', horder', htype⟩ := order_type_kept hcommit horder
  exact ⟨order', horder', htype ▸ hpickup⟩

end Commits

/-! ### The checkouts -/

section Checkouts

variable {round : ℚ → ℚ} {ids : CheckoutIds} {input : SubmitCheckoutInput}
  {currentUser : AuthenticatedUser} {context : CheckoutContext} {cartId : Id}
  {pricing : CheckoutPricingBreakdown} {I : Store → Prop} {seen db : Store}

/-- Writes to other tables. -/
theorem MakesOrders.append {ws ws' : List (Write Row)} {db' : Store} (h : MakesOrders ws db)
    (hrows : Db.Agree ws db db') (hws' : ∀ w ∈ ws', w.table ≠ .delivery ∧ w.table ≠ .order) :
    MakesOrders (ws ++ ws') db' := by
  intro w hw
  rcases List.mem_append.mp hw with hw | hw
  · exact ⟨(h w hw).1, fun ht => (hrows _ (List.mem_map_of_mem hw)).symm.trans ((h w hw).2 ht)⟩
  · exact ⟨(hws' w hw).1, fun ht => absurd ht (hws' w hw).2⟩

theorem MakesOrders.agree {ws : List (Write Row)} {db' : Store} (h : MakesOrders ws db)
    (hrows : Db.Agree ws db db') : MakesOrders ws db' := by
  rw [← List.append_nil ws]
  exact h.append hrows (by simp)

theorem makesOrders_of_tables {ws : List (Write Row)}
    (hws : ∀ w ∈ ws, w.table ≠ .delivery ∧ w.table ≠ .order) : MakesOrders ws db :=
  fun w hw => ⟨(hws w hw).1, fun ht => absurd ht (hws w hw).2⟩

theorem table_of_eq {ws : List (Write Row)} {t : Tbl} (h : ∀ w ∈ ws, w.table = t)
    (ht : t ≠ .delivery ∧ t ≠ .order) : ∀ w ∈ ws, w.table ≠ .delivery ∧ w.table ≠ .order :=
  fun w hw => h w hw ▸ ht

/-- The order is a new one when it is inserted, and its row is locked from then on. -/
theorem placeOrder_makesOrders :
    (placeOrder round ids input context cartId pricing).Relies (.rows I)
      (fun _ _ ws db => MakesOrders ws db) seen [] db := by
  refine .check_bind fun db₁ lines hrel _ => .bind _ hrel.1 (.of_writes _ (reserveLines_writes _ _)
    fun reserved seen' stock db₂ hstock hinv _ => .insertRow_bind fun db₃ hrel hfree => ?_)
  have hstock' : ∀ w ∈ stock, w.table ≠ .delivery ∧ w.table ≠ .order := fun w hw =>
    (by decide : ∀ t ∈ stockTables, t ≠ .delivery ∧ t ≠ .order) _ (hstock w hw)
  have hfresh : db₃.get (.order, ids.orderId) = none := by
    rw [← Db.get_apply_of_table fun w hw => (hstock' w hw).2]
    by_contra hsome
    simp [Option.isSome_iff_ne_none.mpr hsome] at hfree
  have horder : ∀ order, MakesOrders (stock ++ [⟨.order, ids.orderId, some order⟩]) db₃ := by
    intro order w hw
    rcases List.mem_append.mp hw with hw | hw
    · exact makesOrders_of_tables hstock' w hw
    · rw [List.mem_singleton.mp hw]
      exact ⟨by simp, fun _ => hfresh⟩
  refine .bind _ hrel.1 (.of_writes _ (createCheckoutPaymentIntent_writes ..)
    fun payment _ payments db₄ hpayments hinv₄ hrows => ?_)
  have hpaid := (horder _).append hrows (table_of_eq hpayments (by simp))
  refine .updateExisting_bind hinv₄ fun db₅ cart hrel₅ _ => ?_
  have hchecked : MakesOrders (_ ++ [⟨.cart, cartId, some { cart with status := .checkedOut }⟩])
      db₅ := hpaid.append hrel₅.2 (by simp)
  refine .bind _ hrel₅.1 (.of_writes _ (createAppliedUsage_writes ..)
    fun _ _ usages db₆ husages _ hrows₆ => .ret fun db₇ hrel₇ => ?_)
  exact (hchecked.append hrows₆ (table_of_eq husages (by simp))).agree hrel₇.2

theorem submitOrder_makesOrders :
    (submitOrder round ids currentUser input context cartId pricing).Relies (.rows I)
      (fun _ _ ws db => MakesOrders ws db) seen [] db := by
  refine .read_bind fun db' hrel => ?_
  cases findByIdempotencyKey (db'.apply []) input.idempotencyKey with
  | none => exact placeOrder_makesOrders
  | some existing =>
    refine .of_writes _ (P := fun w => w.table = .payment) (.bind (.ofExcept _) fun _ =>
      .bind (resolveExistingOrCreatePaymentIntent_writes ..) fun _ => .ret _) ?_
    exact fun _ _ payments _ hpayments _ _ => makesOrders_of_tables (table_of_eq hpayments (by simp))

/-- Only a payment is made for the order of another request. -/
theorem tryResolveReplayAfterUniqueConstraint_makesOrders {error : Failure} {reads : List Store} :
    (tryResolveReplayAfterUniqueConstraint ids input context error).Guarantees (.rows I)
      (fun _ _ ws db => MakesOrders ws db) reads := by
  rw [tryResolveReplayAfterUniqueConstraint]
  split
  · exact True.intro
  · refine .get_bind fun _ _ => .orFail_bind fun existing _ => .ofExcept_bind fun _ _ =>
      .get_bind fun db _ => ?_
    cases findCheckoutPaymentIntentByIdempotencyKey db input.idempotencyKey with
    | some payment => exact True.intro
    | none =>
      refine .bind_ret (.transaction fun seen db hinv => .of_writes _
        (createCheckoutPaymentIntent_writes ..) fun _ _ ws db' hws _ _ => ?_)
      exact makesOrders_of_tables (table_of_eq hws (by simp))

theorem SubmitCall.makesOrders (call : SubmitCall) {reads : List Store} :
    (call.service round).Guarantees (.rows I) (fun _ _ ws db => MakesOrders ws db) reads := by
  refine .bind (fun context reads => .bind (fun pricing reads => .tx ?_ fun outcome => ?_) ?_) ?_
  · exact fun seen db _ => submitOrder_makesOrders
  · cases outcome with
    | ok submission => exact True.intro
    | error error => exact tryResolveReplayAfterUniqueConstraint_makesOrders
  · exact (buildPricingBreakdown_readOnly ..).guarantees
  · exact (getValidatedCurrentCustomerCheckoutContext_readOnly _ _).guarantees

end Checkouts

/-! ## Runs -/

def PaymentCall.service (round : ℚ → ℚ) : PaymentCall → StoreService Unit
  | checkout call => (call.service round).bind fun _ => .ret ()
  | order call => call.service

/-- What any of the operations commits, as far as orders and deliveries go. -/
def DispatchCommit (call : PaymentCall) (reads : List Store) (_seen : Store)
    (ws : List (Write Row)) (db : Store) : Prop :=
  match call with
  | .checkout _ => MakesOrders ws db
  | .order call => OrderCommit (fun _ _ => True) call reads ws db

theorem PaymentCall.guarantees {round : ℚ → ℚ} {I : Store → Prop} (call : PaymentCall) :
    (call.service round).Guarantees (.rows I) (DispatchCommit call) [] := by
  cases call with
  | checkout call => exact .bind_ret call.makesOrders
  | order call => exact call.guarantees (locks_rows I) []

/-- **Orders without a rider are detected.** However checkouts and operations on orders interleave,
`findReadyOrdersWithoutRider` finds in every state all the orders that `handleAutoDispatchOrder`
would try to dispatch, as long as no commit takes a rider off the delivery of an order that is to be
delivered: no rider rejects or cancels one, and no offer times out. -/
theorem riderless_detected {ι : Type} [Fintype ι] [DecidableEq ι] {round : ℚ → ℚ} {db₀ : Store}
    {calls : ι → PaymentCall} (hstart : RidersKept db₀) {m : Machine ι Row Failure Unit}
    {log : List (Event ι Row)}
    (hrun : Machine.Traced (.start db₀ fun i => (calls i).service round) log m)
    (hkept : ∀ e ∈ log, ¬ TakesRiderOff e) : DetectsAll m.db := by
  obtain ⟨reads, htrace⟩ := hrun
  have hriders : RidersKept m.db := by
    refine (htrace.sound (R := .rows fun _ => True) (J := fun _ => RidersKept)
      (Q := fun i => DispatchCommit (calls i)) (fun log e _ h hkept hcommit => ?_) True.intro
      (fun i => (calls i).guarantees) hstart hkept).2
    refine .rows True.intro ?_
    cases hcall : calls e.call with
    | checkout call =>
      rw [hcall] at hcommit
      exact h.commit_checkout hcommit
    | order call =>
      rw [hcall] at hcommit
      exact h.commit_order hcommit hkept
  exact hriders.detectsAll

theorem ridersKept_twoRiderShop : RidersKept twoRiderShop := by
  intro i delivery hget _
  have hempty : twoRiderShop.list .delivery (fun _ => true) = [] := by decide
  have hmem := Db.mem_list (p := fun _ => true) |>.mpr ⟨hget, rfl⟩
  rw [hempty] at hmem
  cases hmem

/-- The order is offered to a rider, who rejects it. -/
def offerAndReject : Fin 2 → PaymentCall :=
  ![.order (.autoDispatchOrder ⟨1, 1, 0⟩ 1), .order (.rider .reject teaRider ⟨1, none, none⟩)]

/-- `handleAutoDispatchOrder` would offer the order to the other rider, and it is not detected. -/
theorem rejected_not_detected : RidersKept twoRiderShop ∧ ∃ log m,
    Machine.Traced (.start twoRiderShop fun i => (offerAndReject i).service id) log m ∧
      ¬ DetectsAll m.db := by
  have hexec : ((Machine.start twoRiderShop fun i => (offerAndReject i).service id).exec
      (List.map .run (List.replicate 13 0 ++ List.replicate 11 1))).any (fun m =>
        ((ordersToDispatch m.db).map Prod.fst == [1]) &&
          (findReadyOrdersWithoutRider m.db none 20).isEmpty) = true := by decide +kernel
  obtain ⟨m, hm, hend⟩ := (Option.any_eq_true _ _).mp hexec
  simp only [Bool.and_eq_true, beq_iff_eq, List.isEmpty_iff] at hend
  refine ⟨ridersKept_twoRiderShop, _, m, Machine.Traced.exec hm, fun hall => ?_⟩
  obtain ⟨o, ho, -⟩ := List.map_eq_singleton_iff.mp hend.1
  have hfound := hall none 20 (by simp [ho]) o (by simp [ho]) rfl
  rw [hend.2] at hfound
  cases hfound

/-- The order is offered to a rider, who accepts it. -/
def offerAndAccept : Fin 2 → PaymentCall :=
  ![.order (.autoDispatchOrder ⟨1, 1, 0⟩ 1), .order (.rider .accept teaRider ⟨1, none, none⟩)]

/-- If a delivery is written, it has a rider. -/
def hasRider : Write Row → Bool
  | ⟨.delivery, _, some delivery⟩ => (delivery : Delivery).riderId.isSome
  | _ => true

/-- A rider who accepts stays with the delivery. -/
theorem riderless_detected_accepted : ∃ log m,
    Machine.Traced (.start twoRiderShop fun i => (offerAndAccept i).service id) log m ∧
      DetectsAll m.db ∧ m.db.get (.delivery, 1) = some ⟨1, some 1, .accepted⟩ := by
  have hexec : ((Machine.start twoRiderShop fun i => (offerAndAccept i).service id).exec
      (List.map .run (List.replicate 13 0 ++ List.replicate 11 1))).any (fun m =>
        m.db.get (.delivery, 1) == some ⟨1, some 1, .accepted⟩) = true := by decide +kernel
  have hlog : ∀ e ∈ (Machine.start twoRiderShop fun i => (offerAndAccept i).service id).execEvents
      (List.map .run (List.replicate 13 0 ++ List.replicate 11 1)) fun _ => [],
        ∀ w ∈ e.writes, hasRider w = true := by decide +kernel
  obtain ⟨m, hm, hend⟩ := (Option.any_eq_true _ _).mp hexec
  have hrun := Machine.Traced.exec hm
  refine ⟨_, m, hrun, riderless_detected ridersKept_twoRiderShop hrun fun e he hoff => ?_,
    eq_of_beq hend⟩
  obtain ⟨i, -, delivery', -, -, hwrite, hnone, -⟩ := hoff
  have hsome : delivery'.riderId.isSome = true := hlog e he _ hwrite
  rw [hnone] at hsome
  cases hsome

end WerTe
