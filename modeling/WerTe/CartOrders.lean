import WerTe.CheckoutReplay

/-!
# One order for a cart

A checkout finds out before its transaction that the cart is an active one. The transaction
then marks the cart as checked out, whatever its status has become. So while checkouts of one
cart overlap, each of them may order it.
-/

namespace WerTe

open ReadCommitted CartsRepository CheckoutContextService CheckoutValidation CheckoutPricing

/-- A call of `submitCurrentCustomerCheckout`. -/
structure SubmitCall where
  ids : CheckoutIds
  currentUser : AuthenticatedUser
  input : SubmitCheckoutInput
deriving DecidableEq, Repr

def SubmitCall.service (round : ℚ → ℚ) (call : SubmitCall) : StoreService CheckoutSubmission :=
  submitCurrentCustomerCheckout round call.ids call.currentUser call.input

/-! ## One commit -/

/-- What a commit of a checkout writes. -/
inductive CheckoutCommit : List (Write Row) → Prop
  /-- an order that was there already gets a payment, if that -/
  | replay {payments : List (Write Row)} (hpayments : ∀ w ∈ payments, w.table = .payment) :
      CheckoutCommit payments
  /-- stock is reserved and an order is made from a cart, which is then checked out -/
  | order {stock payments usages : List (Write Row)} {orderId cartId : Id} {order : Order}
      {cart : Cart} (hstock : ∀ w ∈ stock, StockWrite w) (hof : order.cartId = some cartId)
      (hpayments : ∀ w ∈ payments, w.table = .payment) (hchecked : cart.status = .checkedOut)
      (husages : ∀ w ∈ usages, w.table = .promotionUsage) :
      CheckoutCommit (stock ++ [⟨.order, orderId, some order⟩] ++ payments ++
        [⟨.cart, cartId, some cart⟩] ++ usages)

section Relies

variable {R : Rely Row} {round : ℚ → ℚ} {ids : CheckoutIds} {input : SubmitCheckoutInput}
  {currentUser : AuthenticatedUser} {context : CheckoutContext} {cartId : Id}
  {pricing : CheckoutPricingBreakdown} {seen db : Store}

theorem placeOrder_relies :
    (placeOrder round ids input context cartId pricing).Relies R
      (fun _ _ ws _ => CheckoutCommit ws) seen [] db := by
  refine .check_bind fun db₁ lines hrel _ => ?_
  refine .bind_writes (reserveLines_writes _ _) (R.inv_right hrel) fun reserved seen' stock db₂
    hstock _ => .attempt_bind fun db₃ u ws hrel hinsert => ?_
  have hws : ws = [⟨.order, ids.orderId, some (checkoutOrder round ids input context cartId pricing
      (lines.map (·.orderItem reserved.inventoryLotAllocationsByLineKey)))⟩] := by
    dsimp only at hinsert
    split at hinsert
    · cases hinsert
    · cases hinsert
      rfl
  subst hws
  refine .bind_writes (createCheckoutPaymentIntent_writes ..) (R.inv_right hrel)
    fun payment seen' payments db₄ hpayments hinv => .updateExisting_bind hinv
      fun db₅ cart hrel _ => .bind_writes (createAppliedUsage_writes ..) (R.inv_right hrel)
        fun _ seen' usages db₆ husages _ => .ret fun _ _ => ?_
  exact .order hstock rfl hpayments rfl husages

theorem submitOrder_relies :
    (submitOrder round ids currentUser input context cartId pricing).Relies R
      (fun _ _ ws _ => CheckoutCommit ws) seen [] db := by
  refine .read_bind fun db' hrel => ?_
  cases findByIdempotencyKey (db'.apply []) input.idempotencyKey with
  | none => exact placeOrder_relies
  | some existing =>
    refine .bind_writes (.ofExcept _) (P := fun w => w.table = .payment) (R.inv_right hrel)
      fun _ _ ws₁ db₁ hws₁ hinv => .bind_writes (resolveExistingOrCreatePaymentIntent_writes ..)
        hinv fun payment _ ws₂ db₂ hws₂ _ => .ret fun _ _ => .replay ?_
    simpa only [List.nil_append, List.forall_mem_append] using ⟨hws₁, hws₂⟩

theorem checkCartItems_readOnly (items : List CartAggregateItem) :
    (checkCartItems items).ReadOnly := by
  induction items with
  | nil => exact .ret ()
  | cons item items ih =>
    exact .bind (.require _ _) fun _ => .bind (.get _) fun _ => .bind (.ofExcept _) fun _ => ih

theorem getValidatedCurrentCustomerCheckoutContext_readOnly (currentUser : AuthenticatedUser)
    (input : SubmitCheckoutInput) :
    (getValidatedCurrentCustomerCheckoutContext currentUser input).ReadOnly :=
  .bind (resolveCheckoutParties_readOnly _ _) fun _ => .bind (.get _) fun _ =>
    .bind (.bind (.bind (.require _ _) fun _ => .require _ _) fun _ => .bind (.orFail _ _) fun _ =>
      .bind (.require _ _) fun _ => .bind (checkCartItems_readOnly _) fun _ => .ret _) fun _ => .ret _

theorem buildPricingBreakdown_readOnly (round : ℚ → ℚ) (now : Date) (context : CheckoutContext)
    (promotionCode : Option String) :
    (buildPricingBreakdown round now context promotionCode).ReadOnly := by
  refine .bind ?_ fun _ => .ret _
  rw [evaluatePromotion]
  cases normalizePromotionCode .ascii promotionCode with
  | none => exact .ret none
  | some code =>
    exact .bind (.get _) fun _ => .bind (.orFail _ _) fun _ => .bind (.bind (.require _ _) fun _ =>
      .bind (.require _ _) fun _ => .require _ _) fun _ => .bind (.get _) fun _ =>
        .bind (.require _ _) fun _ => .ret _

theorem tryResolveReplayAfterUniqueConstraint_guarantees {error : Failure} {reads : List Store} :
    (tryResolveReplayAfterUniqueConstraint ids input context error).Guarantees R
      (fun _ _ ws _ => CheckoutCommit ws) reads := by
  rw [tryResolveReplayAfterUniqueConstraint]
  split
  · exact True.intro
  · refine .get_bind fun _ _ => .orFail_bind fun existing _ => .ofExcept_bind fun _ _ =>
      .get_bind fun db _ => ?_
    cases findCheckoutPaymentIntentByIdempotencyKey db input.idempotencyKey with
    | some payment => exact True.intro
    | none =>
      refine .bind_ret (.transaction fun seen db hinv =>
        .of_writes _ (createCheckoutPaymentIntent_writes ..) fun _ _ ws db' hws _ _ => ?_)
      exact .replay hws

theorem SubmitCall.guarantees (call : SubmitCall) {reads : List Store} :
    (call.service round).Guarantees R (fun _ _ ws _ => CheckoutCommit ws) reads := by
  refine .bind (fun context reads => .bind (fun pricing reads => .tx ?_ fun r => ?_) ?_) ?_
  · exact fun seen db _ => submitOrder_relies
  · cases r with
    | ok submission => exact True.intro
    | error error => exact tryResolveReplayAfterUniqueConstraint_guarantees
  · exact (buildPricingBreakdown_readOnly ..).guarantees
  · exact (getValidatedCurrentCustomerCheckoutContext_readOnly _ _).guarantees

end Relies

/-! ## All commits -/

/-- The cart of the order that is written, if it is one. -/
def orderedCart : Write Row → Option Id
  | ⟨.order, _, some order⟩ => (order : Order).cartId
  | _ => none

section Runs

variable {ι : Type}

/-- The commit makes an order from the cart. -/
def OrdersCart (cartId : Id) (e : Event ι Row) : Prop := ∃ w ∈ e.writes, orderedCart w = some cartId

instance (cartId : Id) : DecidablePred (OrdersCart (ι := ι) cartId) :=
  fun _ => inferInstanceAs (Decidable (∃ w ∈ _, _))

/-- The carts that a commit makes an order from are active ones still. -/
def FindsCartActive (e : Event ι Row) : Prop :=
  ∀ cartId, OrdersCart cartId e →
    ∃ cart, e.db.get (.cart, cartId) = some cart ∧ cart.status = .active

/-- No cart has been ordered twice, the ones that were are checked out, and stock was reserved
for orders only. -/
structure OrderedOnce (log : List (Event ι Row)) (db : Store) : Prop where
  once : ∀ cartId, log.countP (OrdersCart cartId ·) ≤ 1
  checkedOut : ∀ cartId, (∃ e ∈ log, OrdersCart cartId e) →
    ∃ cart, db.get (.cart, cartId) = some cart ∧ cart.status = .checkedOut
  stock : ∀ e ∈ log, (∃ w ∈ e.writes, StockWrite w) → ∃ cartId, OrdersCart cartId e

theorem orderedCart_some {cartId : Id} {w : Write Row} (h : orderedCart w = some cartId) :
    ∃ orderId order, w = ⟨.order, orderId, some order⟩ ∧ order.cartId = some cartId := by
  unfold orderedCart at h
  split at h
  · next orderId order => exact ⟨orderId, order, rfl, h⟩
  · cases h

theorem StockWrite.table_ne {w : Write Row} (h : StockWrite w) :
    w.table ≠ .order ∧ w.table ≠ .cart ∧ w.table ≠ .payment := by
  simp only [StockWrite, stockTables, List.mem_cons, List.not_mem_nil, or_false] at h
  rcases h with h | h | h | h <;> simp [h]

/-- A commit makes an order from the cart that it checks out, and from no other. -/
theorem CheckoutCommit.cases_order {ws : List (Write Row)} (h : CheckoutCommit ws) :
    (∀ w ∈ ws, w.table = .payment) ∨ ∃ cartId cart,
      (⟨.cart, cartId, some cart⟩ : Write Row) ∈ ws ∧ cart.status = .checkedOut ∧
        (∀ cartId' r, (⟨.cart, cartId', r⟩ : Write Row) ∈ ws → cartId' = cartId ∧ r = some cart) ∧
          ∀ cartId', (∃ w ∈ ws, orderedCart w = some cartId') ↔ cartId' = cartId := by
  cases h with
  | replay hpayments => exact .inl hpayments
  | @order stock payments usages orderId cartId order cart hstock hof hpayments hchecked husages =>
    refine .inr ⟨cartId, cart, by simp, hchecked, fun cartId' r hr => ?_, fun cartId' => ?_⟩
    · simp only [List.mem_append, List.mem_singleton, Write.mk.injEq] at hr
      rcases hr with (((hr | ⟨hr, -⟩) | hr) | hr) | hr
      · exact absurd rfl (hstock _ hr).table_ne.2.1
      · cases hr
      · cases hpayments _ hr
      · obtain ⟨-, rfl, hr⟩ := hr
        exact ⟨rfl, eq_of_heq hr⟩
      · cases husages _ hr
    · constructor
      · rintro ⟨w, hw, hyes⟩
        obtain ⟨orderId', order', rfl, hof'⟩ := orderedCart_some hyes
        simp only [List.mem_append, List.mem_singleton, Write.mk.injEq] at hw
        rcases hw with (((hw | ⟨-, -, hw⟩) | hw) | ⟨hw, -⟩) | hw
        · exact absurd rfl (hstock _ hw).table_ne.1
        · rw [Option.some.inj (eq_of_heq hw), hof] at hof'
          exact (Option.some.inj hof').symm
        · cases hpayments _ hw
        · cases hw
        · cases husages _ hw
      · rintro rfl
        exact ⟨⟨.order, orderId, some order⟩, by simp, hof⟩

theorem OrderedOnce.commit {log : List (Event ι Row)} {e : Event ι Row}
    (h : OrderedOnce log e.db) (hcommit : CheckoutCommit e.writes) (hactive : FindsCartActive e) :
    OrderedOnce (log ++ [e]) e.result := by
  have hmem : ∀ cartId, (∃ e' ∈ log ++ [e], OrdersCart cartId e') ↔
      (∃ e' ∈ log, OrdersCart cartId e') ∨ OrdersCart cartId e := fun cartId => by
    simp only [List.mem_append, List.mem_singleton, or_and_right, exists_or, exists_eq_left]
  rcases hcommit.cases_order with hpayments | ⟨cartId, cart, hcart, hchecked, honly, horders⟩
  · have hnot : ∀ cartId, ¬ OrdersCart cartId e := by
      rintro cartId ⟨w, hw, hyes⟩
      obtain ⟨orderId, order, rfl, -⟩ := orderedCart_some hyes
      cases hpayments _ hw
    refine ⟨fun cartId => ?_, fun cartId hordered => ?_, fun e' he' => ?_⟩
    · simpa [List.countP_append, hnot cartId] using h.once cartId
    · rw [hmem, or_iff_left (hnot cartId)] at hordered
      obtain ⟨cart, hget, hstatus⟩ := h.checkedOut cartId hordered
      exact ⟨cart, (Db.get_apply_of_table fun w hw => by simp [hpayments w hw]).trans hget, hstatus⟩
    · rcases List.mem_append.mp he' with he' | he'
      · exact h.stock e' he'
      · obtain rfl := List.mem_singleton.mp he'
        rintro ⟨w, hw, hstock⟩
        exact absurd (hpayments w hw) hstock.table_ne.2.2
  · have hfresh : ∀ e' ∈ log, ¬ OrdersCart cartId e' := fun e' he' hyes => by
      -- a cart that was ordered before is checked out
      obtain ⟨cart₁, hget, hstatus⟩ := h.checkedOut cartId ⟨e', he', hyes⟩
      obtain ⟨cart₂, hget', hstatus'⟩ := hactive cartId ((horders cartId).mpr rfl)
      obtain rfl := Option.some.inj (hget.symm.trans hget')
      rw [hstatus] at hstatus'
      cases hstatus'
    have hself : e.result.get (.cart, cartId) = some cart := by
      obtain ⟨r, hr, hget⟩ := Db.get_apply_of_mem (List.mem_map_of_mem (f := Write.key) hcart) e.db
      rw [Event.result, hget, (honly cartId r hr).2]
    refine ⟨fun cartId' => ?_, fun cartId' hordered => ?_, fun e' he' hstock => ?_⟩
    · rw [List.countP_append, List.countP_singleton]
      by_cases hid : cartId' = cartId
      · subst hid
        have hzero : log.countP (OrdersCart cartId' ·) = 0 :=
          List.countP_eq_zero.mpr fun e' he' => by simpa using hfresh e' he'
        rw [hzero]
        split <;> simp
      · have hnot : ¬ OrdersCart cartId' e := fun hyes => hid ((horders cartId').mp hyes)
        simpa [hnot] using h.once cartId'
    · by_cases hid : cartId' = cartId
      · exact ⟨cart, hid ▸ hself, hchecked⟩
      · have hnot : ¬ OrdersCart cartId' e := fun hyes => hid ((horders cartId').mp hyes)
        rw [hmem, or_iff_left hnot] at hordered
        obtain ⟨cart', hget, hstatus⟩ := h.checkedOut cartId' hordered
        refine ⟨cart', (Db.get_apply_of_notMem fun hk => hid ?_).trans hget, hstatus⟩
        obtain ⟨r, hr, -⟩ := Db.get_apply_of_mem hk e.db
        exact (honly cartId' r hr).1
    · rcases List.mem_append.mp he' with he' | he'
      · exact h.stock e' he' hstock
      · obtain rfl := List.mem_singleton.mp he'
        exact ⟨cartId, (horders cartId).mpr rfl⟩

variable [Fintype ι] [DecidableEq ι]

/-- However checkouts interleave, at most one of them orders a cart and reserves its stock, as
long as the commits that order a cart find it active still. -/
theorem cart_ordered_once {round : ℚ → ℚ} {db₀ : Store} {calls : ι → SubmitCall}
    {m : Machine ι Row Failure CheckoutSubmission} {log : List (Event ι Row)}
    (hrun : Machine.Traced (.start db₀ fun i => (calls i).service round) log m)
    (hactive : ∀ e ∈ log, FindsCartActive e) :
    (∀ cartId, log.countP (OrdersCart cartId ·) ≤ 1) ∧
      ∀ e ∈ log, (∃ w ∈ e.writes, StockWrite w) → ∃ cartId, OrdersCart cartId e := by
  obtain ⟨reads, htrace⟩ := hrun
  have hstart : OrderedOnce (ι := ι) [] db₀ := ⟨by simp, by simp, by simp⟩
  have hordered : OrderedOnce log m.db := by
    refine (htrace.sound (R := .rows fun _ => True) (J := OrderedOnce)
      (Q := fun _ _ _ ws _ => CheckoutCommit ws) ?_ True.intro (fun i => (calls i).guarantees)
      hstart hactive).2
    exact fun log e _ hordered hactive hcommit =>
      .rows True.intro (hordered.commit hcommit hactive)
  exact ⟨hordered.once, hordered.stock⟩

/-- The customer submits the cart twice, as two requests. -/
def submitTwice : Fin 2 → SubmitCall :=
  ![⟨⟨7, "ORD-7", 7, 7, 0⟩, teaCustomer, pickUpCup "k"⟩,
    ⟨⟨8, "ORD-8", 8, 8, 0⟩, teaCustomer, pickUpCup "l"⟩]

/-- When both read the cart before either checks it out, both order it, and two cups are taken
for the one in the cart. -/
theorem cart_ordered_twice : ∃ log m,
    Machine.Traced (.start cupShop fun i => (submitTwice i).service id) log m ∧
      log.countP (OrdersCart 1 ·) = 2 ∧
      levelAt cupShop (.menuItem, 1) = some 5 ∧ levelAt m.db (.menuItem, 1) = some 3 := by
  have hexec : ((Machine.start cupShop fun i => (submitTwice i).service id).exec (List.map .run
      (List.replicate 4 0 ++ List.replicate 4 1 ++ List.replicate 13 0 ++
        List.replicate 13 1))).any (fun m => levelAt m.db (.menuItem, 1) == some 3) = true := by
    decide +kernel
  obtain ⟨m, hm, hlevel⟩ := (Option.any_eq_true _ _).mp hexec
  exact ⟨_, m, Machine.Traced.exec hm, by decide +kernel, by decide, eq_of_beq hlevel⟩

/-- When the second begins after the first, the cart is ordered once. -/
theorem cart_ordered_once_cupShop : ∃ log m,
    Machine.Traced (.start cupShop fun i => (submitTwice i).service id) log m ∧
      (∀ cartId, log.countP (OrdersCart cartId ·) ≤ 1) ∧
      levelAt m.db (.menuItem, 1) = some 4 := by
  have hexec : ((Machine.start cupShop fun i => (submitTwice i).service id).exec (List.map .run
      (List.replicate 17 0 ++ List.replicate 3 1))).any
        (fun m => levelAt m.db (.menuItem, 1) == some 4) = true := by decide +kernel
  have hlog : ∀ e ∈ (Machine.start cupShop fun i => (submitTwice i).service id).execEvents
      (List.map .run (List.replicate 17 0 ++ List.replicate 3 1)) fun _ => [],
        (∀ w ∈ e.writes, ∀ cartId ∈ orderedCart w, cartId = 1) ∧
          (e.db.get (.cart, 1)).any (·.status == .active) = true := by decide +kernel
  obtain ⟨m, hm, hlevel⟩ := (Option.any_eq_true _ _).mp hexec
  have hrun := Machine.Traced.exec hm
  refine ⟨_, m, hrun, (cart_ordered_once hrun fun e he cartId hyes => ?_).1, eq_of_beq hlevel⟩
  obtain ⟨w, hw, hcart⟩ := hyes
  obtain rfl := (hlog e he).1 w hw cartId hcart
  obtain ⟨cart, hget, hstatus⟩ := (Option.any_eq_true _ _).mp (hlog e he).2
  exact ⟨cart, hget, eq_of_beq hstatus⟩

end Runs

end WerTe
