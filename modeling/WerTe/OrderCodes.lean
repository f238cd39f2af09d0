import WerTe.Numeral.LastDigits
import WerTe.ReadCommitted.Faults
import WerTe.RiderlessOrders

/-!
# Order codes

A checkout makes up its order's code from the last eight digits of the time, in milliseconds. So
the codes of two instants are the same when they are a multiple of 10⁸ milliseconds apart
(`buildOrderCode_eq_iff`), which is a little more than a day, and then the insert of the second
order fails under the unique index.

* `TimedCall`: checkouts at instants, and operations on orders
* `orderCodes_free`: what never fails in runs whose instants have different last digits
-/

namespace WerTe

open ReadCommitted MenusRepository OrdersRepository CheckoutValidation Numeral

/-! ## Codes -/

/-- The code that is made up at an instant. -/
def buildOrderCode (now : ℕ) : String :=
  "ORD-" ++ String.ofList ((toString now).toList.rtake 8)

/-- Two instants with the same last eight digits, which both have. -/
def SameDigits (a b : ℕ) : Prop := 10 ^ 7 ≤ a ∧ 10 ^ 7 ≤ b ∧ a % 10 ^ 8 = b % 10 ^ 8

instance (a b : ℕ) : Decidable (SameDigits a b) := inferInstanceAs (Decidable (_ ∧ _ ∧ _))

theorem buildOrderCode_eq_iff {a b : ℕ} (hne : a ≠ b) :
    buildOrderCode a = buildOrderCode b ↔ SameDigits a b := by
  rw [SameDigits, ← rtake_toDigits_eq_iff (by decide) (by decide) (k := 8) (by decide) hne]
  simp only [buildOrderCode, ← String.toList_inj, String.toList_append, List.append_cancel_left_eq,
    String.toList_ofList, Nat.toString_eq_repr, Nat.toList_repr]

/-! ## Calls -/

/-- A checkout at an instant, or an operation on orders. -/
inductive TimedCall
  | checkout (instant : ℕ) (call : SubmitCall)
  | order (call : OrderCall)

/-- The checkout with the code that is made up for it. -/
def SubmitCall.at (call : SubmitCall) (instant : ℕ) : SubmitCall :=
  { call with ids := { call.ids with orderCode := buildOrderCode instant } }

def TimedCall.service (round : ℚ → ℚ) : TimedCall → StoreService Unit
  | checkout instant call => ((call.at instant).service round).bind fun _ => .ret ()
  | order call => call.service

/-! ## What the statements of a checkout fail with -/

section Faults

variable {F : Store → Failure → Prop} {ws : List (Write Row)}

theorem reserveFromLots_faults (menuItemId : Id) (lots : List (Id × MenuItemInventoryLot)) :
    ∀ quantity ws, (reserveFromLots menuItemId lots quantity).Faults F ws := by
  induction lots with
  | nil => exact fun _ _ => .ret []
  | cons lot lots ih =>
    intro quantity ws
    rw [reserveFromLots]
    split
    · exact .ret []
    · exact .bind .updateRow fun _ _ => .bind (.require _ _) fun _ _ =>
        .bind (ih _ _) fun _ _ => .ret _

theorem reserveItem_faults (line : MenuInventoryOrderLineInput)
    (result : MenuInventoryReservationResult) : (reserveItem line result).Faults F ws := by
  unfold reserveItem
  split
  · refine .bind (.read _) fun _ _ => .bind (.read _) fun _ _ => .bind ?_ fun _ _ =>
      .bind .updateRow fun _ _ => .bind (.require _ _) fun _ _ => .bind (.read _) fun _ _ => .ret _
    split
    · exact .bind (.read _) fun _ _ => .bind (.require _ _) fun _ _ => reserveFromLots_faults ..
    · exact .ret []
  · exact .ret _

theorem reserveVariant_faults (line : MenuInventoryOrderLineInput) :
    (reserveVariant line).Faults F ws := by
  unfold reserveVariant
  split
  · exact .ret ()
  · exact .bind .updateRow fun _ _ => .require _ _

theorem reserveOptions_faults (quantity : ℤ) (optionIds : List Id) :
    ∀ result ws, (reserveOptions quantity optionIds result).Faults F ws := by
  induction optionIds with
  | nil => exact fun result _ => .ret result
  | cons optionId optionIds ih =>
    exact fun _ _ => .bind (.read _) fun _ _ => .bind .updateRow fun _ _ =>
      .bind (.require _ _) fun _ _ => .bind (.read _) fun _ _ => ih _ _

/-- No statement of a reservation fails: what is taken is checked by the number of rows. -/
theorem reserveLines_faults (lines : List MenuInventoryOrderLineInput) :
    ∀ result ws, (reserveLines lines result).Faults F ws := by
  induction lines with
  | nil => exact fun result _ => .ret result
  | cons line lines ih =>
    exact fun _ _ => .bind (reserveItem_faults _ _) fun _ _ => .bind (reserveVariant_faults _)
      fun _ _ => .bind (reserveOptions_faults _ _ _ _) fun _ _ => ih _ _

/-- What is no conflict of order codes. -/
def NotOrderCode (_db : Store) (e : Failure) : Prop := e ≠ .uniqueConstraint "orderCode"

/-- The code is that of an order there is. -/
def Taken (code : String) (db : Store) (e : Failure) : Prop :=
  e = .uniqueConstraint "orderCode" → ∃ orderId order, db.get (.order, orderId) = some order ∧
    order.orderCode = code

theorem createCheckoutPaymentIntent_faults (paymentId orderId customerProfileId : Id) (amount : ℚ)
    (input : SubmitCheckoutInput) :
    (createCheckoutPaymentIntent paymentId orderId customerProfileId amount input).Faults
      NotOrderCode ws := by
  refine .bind (.ofExcept _) fun _ _ => .bind (.insertRow fun db e h => ?_) fun _ _ => .ret _
  split at h
  · cases h
    simp [NotOrderCode]
  · split at h <;> cases h
    simp [NotOrderCode]

theorem createAppliedUsage_faults (ids : CheckoutIds) (customerProfileId : Id)
    (appliedPromotion : Option PromotionPricingEvaluation) :
    (createAppliedUsage ids customerProfileId appliedPromotion).Faults NotOrderCode ws := by
  cases appliedPromotion with
  | none => exact .ret ()
  | some promotion =>
    refine .insertRow fun db e h => ?_
    split at h
    · cases h
      simp [NotOrderCode]
    · split at h <;> cases h
      simp [NotOrderCode]

/-- The index of codes is checked with the orders there are: the transaction has not written any
yet. -/
theorem createCheckoutOrder_faults (orderId : Id) (order : Order)
    (hws : ∀ w ∈ ws, w.table ≠ .order) :
    (createCheckoutOrder orderId order).Faults (Taken order.orderCode) ws := by
  refine .insertRow fun db e h he => ?_
  subst he
  split at h
  · simp at h
  · split at h
    · next htaken =>
      obtain ⟨⟨i, o⟩, hmem⟩ := List.exists_mem_of_ne_nil _ (by simpa using htaken)
      obtain ⟨hget, hcode⟩ := Db.mem_list.mp hmem
      rw [Db.get_apply_of_table hws] at hget
      exact ⟨i, o, hget, by simpa using hcode⟩
    · split at h <;> simp at h

theorem NotOrderCode.taken {code : String} {db : Store} {e : Failure} (h : NotOrderCode db e) :
    Taken code db e := fun he => absurd he h

theorem buildOrderCartItems_notOrderCode {db : Store} {branchId : Id} {e : Failure}
    (items : List CartAggregateItem)
    (h : (items.mapM fun item => buildOrderCartItem db branchId item) = .error e) :
    NotOrderCode db e := by
  induction items with
  | nil => cases h
  | cons item items ih =>
    rw [List.mapM_cons] at h
    cases hitem : buildOrderCartItem db branchId item with
    | error e' =>
      rw [hitem] at h
      cases h
      simp only [buildOrderCartItem] at hitem
      split_ifs at hitem <;> cases hitem <;> simp [NotOrderCode, fail]
    | ok line =>
      rw [hitem] at h
      cases hrest : items.mapM fun item => buildOrderCartItem db branchId item with
      | error e' =>
        rw [hrest] at h
        cases h
        exact ih hrest
      | ok lines =>
        rw [hrest] at h
        cases h

variable {round : ℚ → ℚ} {ids : CheckoutIds} {input : SubmitCheckoutInput}
  {currentUser : AuthenticatedUser} {context : CheckoutContext} {cartId : Id}
  {pricing : CheckoutPricingBreakdown}

theorem placeOrder_faults :
    (placeOrder round ids input context cartId pricing).Faults (Taken ids.orderCode) [] := by
  refine .bind_writes (P := fun _ => False) (.check fun db e h => ?_) .check fun lines ws hws => ?_
  · exact (buildOrderCartItems_notOrderCode _ h).taken
  obtain rfl : ws = [] := List.eq_nil_iff_forall_not_mem.mpr hws
  refine .bind_writes (reserveLines_faults _ _ _) (reserveLines_writes _ _)
    fun reserved stock hstock => .bind (createCheckoutOrder_faults _ _ fun w hw => ?_)
      fun _ _ => .bind (.mono (fun _ _ => NotOrderCode.taken)
        (createCheckoutPaymentIntent_faults ..)) fun _ _ => .bind .updateExisting fun _ _ =>
          .bind (.mono (fun _ _ => NotOrderCode.taken) (createAppliedUsage_faults ..))
            fun _ _ => .ret _
  exact (hstock w (by simpa using hw)).table_ne.1

theorem submitOrder_faults :
    (submitOrder round ids currentUser input context cartId pricing).Faults
      (Taken ids.orderCode) [] := by
  refine .bind_writes (P := fun _ => False) (.read _) .read fun existing ws hws => ?_
  obtain rfl : ws = [] := List.eq_nil_iff_forall_not_mem.mpr hws
  cases existing with
  | none => exact placeOrder_faults
  | some existing =>
    refine .mono (fun _ _ => NotOrderCode.taken) (.bind (.ofExcept _) fun _ _ =>
      .bind (.bind (.read _) fun found _ => ?_) fun _ _ => .ret _)
    cases found with
    | some payment => exact .ret _
    | none => exact createCheckoutPaymentIntent_faults ..

theorem tryResolveReplayAfterUniqueConstraint_faults {error : Failure} :
    (tryResolveReplayAfterUniqueConstraint ids input context error).Faults NotOrderCode := by
  rw [tryResolveReplayAfterUniqueConstraint]
  split
  · exact True.intro
  · refine .bind (Service.ReadOnly.get _).faults fun _ => .bind (Service.ReadOnly.orFail _ _).faults
      fun existing => .bind (Service.ReadOnly.ofExcept _).faults fun _ =>
        .bind (Service.ReadOnly.get _).faults fun found => ?_
    cases found with
    | some payment => exact True.intro
    | none =>
      refine .bind ⟨createCheckoutPaymentIntent_faults .., fun r => ?_⟩ fun _ => True.intro
      exact (Service.ReadOnly.ofExcept r).faults

/-- Only the transaction that places the order can fail because its code is taken. -/
theorem SubmitCall.faultsOnce (call : SubmitCall) :
    (call.service round).FaultsOnce (Taken call.ids.orderCode) NotOrderCode := by
  refine .bind (getValidatedCurrentCustomerCheckoutContext_readOnly _ _) fun context =>
    .bind (buildPricingBreakdown_readOnly ..) fun pricing => ⟨submitOrder_faults, fun r => ?_⟩
  cases r with
  | ok submission => exact True.intro
  | error error => exact tryResolveReplayAfterUniqueConstraint_faults

end Faults

/-! ## What a checkout writes -/

/-- If an order is written, it has the code. -/
def HasCode (code : String) (w : Write Row) : Prop :=
  w.table = .order → ∃ orderId order, w = ⟨.order, orderId, some order⟩ ∧ order.orderCode = code

theorem HasCode.of_ne {code : String} {w : Write Row} (h : w.table ≠ .order) : HasCode code w :=
  fun ht => absurd ht h

section Codes

variable {round : ℚ → ℚ} {ids : CheckoutIds} {input : SubmitCheckoutInput}
  {currentUser : AuthenticatedUser} {context : CheckoutContext} {cartId : Id}
  {pricing : CheckoutPricingBreakdown}

theorem placeOrder_hasCode :
    (placeOrder round ids input context cartId pricing).Writes (HasCode ids.orderCode) := by
  refine .bind .check fun lines => .bind ((reserveLines_writes _ _).mono fun _ hw =>
    .of_ne hw.table_ne.1) fun reserved => .bind (.insertRow fun _ => ⟨_, _, rfl, rfl⟩) fun _ =>
      .bind ((createCheckoutPaymentIntent_writes ..).mono fun _ hw => .of_ne (by simp [hw]))
        fun _ => .bind ?_ fun _ => .bind ?_ fun _ => .ret _
  · exact (updateCart_writes _ _).mono fun _ hw => .of_ne (by simp [hw])
  · exact (createAppliedUsage_writes ..).mono fun _ hw => .of_ne (by simp [hw])

theorem submitOrder_hasCode :
    (submitOrder round ids currentUser input context cartId pricing).Writes
      (HasCode ids.orderCode) := by
  refine .bind .read fun existing => ?_
  cases existing with
  | none => exact placeOrder_hasCode
  | some existing =>
    exact .bind (.ofExcept _) fun _ => .bind ((resolveExistingOrCreatePaymentIntent_writes ..).mono
      fun _ hw => .of_ne (by simp [hw])) fun _ => .ret _

theorem tryResolveReplayAfterUniqueConstraint_hasCode {code : String} {error : Failure} :
    (tryResolveReplayAfterUniqueConstraint ids input context error).Writes (HasCode code) := by
  rw [tryResolveReplayAfterUniqueConstraint]
  split
  · exact (show (Service.throw error : StoreService CheckoutSubmission).ReadOnly from
      True.intro).writes
  · refine .bind (.get _) fun _ => .bind (.orFail _ _) fun existing =>
      .bind (Service.ReadOnly.ofExcept _).writes fun _ => .bind (.get _) fun found => ?_
    cases found with
    | some payment => exact .ret _
    | none =>
      exact .bind (.transaction ((createCheckoutPaymentIntent_writes ..).mono fun _ hw =>
        .of_ne (by simp [hw]))) fun _ => .ret _

theorem SubmitCall.writes_hasCode (call : SubmitCall) :
    (call.service round).Writes (HasCode call.ids.orderCode) := by
  refine .bind (getValidatedCurrentCustomerCheckoutContext_readOnly _ _).writes fun _ =>
    .bind (buildPricingBreakdown_readOnly ..).writes fun _ => .tx submitOrder_hasCode
      fun outcome => ?_
  cases outcome with
  | ok submission => exact .ret _
  | error error => exact tryResolveReplayAfterUniqueConstraint_hasCode

end Codes

/-! ## Runs -/

section Runs

variable {ι : Type} {calls : ι → TimedCall} {past : Set ℕ}

/-- What a call commits, as far as the codes of orders go. -/
def CodeCommit (call : TimedCall) (reads : List Store) (ws : List (Write Row)) (db : Store) :
    Prop :=
  match call with
  | .checkout instant _ => ∀ w ∈ ws, HasCode (buildOrderCode instant) w
  | .order call => OrderCommit (fun _ _ => True) call reads ws db

theorem TimedCall.guarantees {round : ℚ → ℚ} {I : Store → Prop} (call : TimedCall) :
    (call.service round).Guarantees (.rows I) (fun reads _ ws db => CodeCommit call reads ws db)
      [] := by
  cases call with
  | checkout instant call => exact .bind_ret (call.at instant).writes_hasCode.guarantees
  | order call => exact call.guarantees (locks_rows I) []

/-- Every order has the code of an instant of before the run, or of a checkout that has
committed. -/
def CodesKnown (past : Set ℕ) (calls : ι → TimedCall) (log : List (Event ι Row)) (db : Store) :
    Prop :=
  ∀ orderId order, db.get (.order, orderId) = some order →
    (∃ instant ∈ past, order.orderCode = buildOrderCode instant) ∨
      ∃ e ∈ log, ∃ instant call, calls e.call = .checkout instant call ∧
        order.orderCode = buildOrderCode instant

/-- An operation on orders makes none and changes no code. -/
theorem code_of_orderCommit {e : Event ι Row} {call : OrderCall}
    (hcommit : OrderCommit (fun _ _ => True) call e.reads e.writes e.db) {orderId : Id}
    {order : Order} (h : e.result.get (.order, orderId) = some order) :
    ∃ old, e.db.get (.order, orderId) = some old ∧ order.orderCode = old.orderCode := by
  rcases Db.get_apply_cases e.writes .order orderId e.db with hkept | ⟨r, hr, hget⟩
  · exact ⟨order, hkept.symm.trans h, rfl⟩
  · obtain rfl : r = some order := hget.symm.trans h
    cases hcommit.writes _ hr with
    | order horder hbelief hpolicy => exact ⟨_, horder, rfl⟩
    | other horder _ _ => exact absurd rfl horder

theorem CodesKnown.commit {log : List (Event ι Row)} {e : Event ι Row}
    (h : CodesKnown past calls log e.db)
    (hcommit : CodeCommit (calls e.call) e.reads e.writes e.db) :
    CodesKnown past calls (log ++ [e]) e.result := by
  intro orderId order hget
  have hbefore : ∀ old, e.db.get (.order, orderId) = some old → order.orderCode = old.orderCode →
      (∃ instant ∈ past, order.orderCode = buildOrderCode instant) ∨
        ∃ e' ∈ log ++ [e], ∃ instant call, calls e'.call = .checkout instant call ∧
          order.orderCode = buildOrderCode instant := by
    intro old hold hcode
    rw [hcode]
    refine (h orderId old hold).imp_right fun ⟨e', he', hcheckout⟩ => ?_
    exact ⟨e', List.mem_append_left _ he', hcheckout⟩
  cases hcall : calls e.call with
  | checkout instant call =>
    rw [hcall] at hcommit
    rcases Db.get_apply_cases e.writes .order orderId e.db with hkept | ⟨r, hr, hwritten⟩
    · exact hbefore order (hkept.symm.trans hget) rfl
    · obtain ⟨orderId', order', hw, hcode⟩ := hcommit _ hr rfl
      simp only [Write.mk.injEq, heq_eq_eq, true_and] at hw
      obtain ⟨rfl, rfl⟩ := hw
      obtain rfl := Option.some.inj (hwritten.symm.trans hget)
      exact .inr ⟨e, by simp, instant, call, hcall, hcode⟩
  | order call =>
    rw [hcall] at hcommit
    obtain ⟨old, hold, hcode⟩ := code_of_orderCommit hcommit hget
    exact hbefore old hold hcode

/-- In no state of the run is a checkout at a statement that fails because the code of its order is
taken. -/
def CodesFree [Fintype ι] [DecidableEq ι] (round : ℚ → ℚ) (db₀ : Store) (calls : ι → TimedCall) :
    Prop :=
  ∀ log m, Machine.Traced (.start db₀ fun i => (calls i).service round) log m →
    ∀ i instant call, calls i = .checkout instant call →
      (m.threads i).fault m.db ≠ some (.uniqueConstraint "orderCode")

variable [Fintype ι] [DecidableEq ι]

/-- **Order codes.** The codes of two different instants differ exactly when the instants do not
have the same last eight digits. However checkouts and operations on orders interleave, none of the
checkouts fails because its order's code is taken, as long as this is so of any two checkouts, and
of any checkout and an order that was there before. -/
theorem orderCodes_free :
    (∀ a b, a ≠ b → (buildOrderCode a ≠ buildOrderCode b ↔ ¬ SameDigits a b)) ∧
    ∀ (round : ℚ → ℚ) (db₀ : Store) (calls : ι → TimedCall) (past : Set ℕ),
      (∀ orderId order, db₀.get (.order, orderId) = some order →
        ∃ instant ∈ past, order.orderCode = buildOrderCode instant) →
      (∀ i instant call, calls i = .checkout instant call →
        (∀ before ∈ past, before ≠ instant ∧ ¬ SameDigits before instant) ∧
        ∀ j instant' call', j ≠ i → calls j = .checkout instant' call' →
          instant' ≠ instant ∧ ¬ SameDigits instant' instant) →
      CodesFree round db₀ calls := by
  refine ⟨fun a b hne => not_congr (buildOrderCode_eq_iff hne), ?_⟩
  rintro round db₀ calls past hpast hinstants log m ⟨reads, htrace⟩ i instant call hcall hfault
  have hknown : CodesKnown past calls log m.db := by
    refine (htrace.sound (R := .rows fun _ => True)
      (J := CodesKnown past calls) (Q := fun i reads _ ws db => CodeCommit (calls i) reads ws db)
      (fun log e _ h _ hcommit => .rows True.intro (h.commit hcommit)) True.intro
      (fun i => (calls i).guarantees) ?_ fun _ _ => True.intro).2
    exact fun orderId order hget => .inl (hpast orderId order hget)
  have hthread : (m.threads i).FaultsOnce (Taken (buildOrderCode instant)) NotOrderCode
      (∀ e ∈ log, e.call ≠ i) := by
    refine htrace.faultsOnce ?_
    rw [hcall]
    exact .bind_ret (call.at instant).faultsOnce
  obtain ⟨hbefore, hothers⟩ := hinstants i instant call hcall
  rcases hthread.fault hfault with hnot | ⟨hfresh, htaken⟩
  · exact hnot rfl
  · -- the order that has the code is of another checkout
    obtain ⟨orderId, order, hget, hcode⟩ := htaken rfl
    rcases hknown orderId order hget with
      ⟨before, hmem, hsame⟩ | ⟨e, he, other, call', hother, hsame⟩
    · obtain ⟨hne, hdigits⟩ := hbefore before hmem
      exact hdigits ((buildOrderCode_eq_iff hne).mp (hsame.symm.trans hcode))
    · obtain ⟨hne, hdigits⟩ := hothers e.call other call' (hfresh e he) hother
      exact hdigits ((buildOrderCode_eq_iff hne).mp (hsame.symm.trans hcode))

end Runs

/-! ### Two carts of a customer -/

/-- The customer submits the carts at two instants. -/
def submitAt (first second : ℕ) : Fin 2 → TimedCall :=
  ![.checkout first ⟨⟨7, "", 7, 7, 0⟩, teaCustomer, pickUpCup "k"⟩,
    .checkout second ⟨⟨8, "", 8, 8, 0⟩, teaCustomer, pickUpCup "l"⟩]

/-- There is no order yet. -/
theorem twoCartShop_no_order (orderId : Id) : twoCartShop.get (.order, orderId) = none := by
  by_contra hsome
  obtain ⟨order, hget⟩ := Option.ne_none_iff_exists'.mp hsome
  have hempty : twoCartShop.list .order (fun _ => true) = [] := by decide
  have hmem := Db.mem_list (p := fun _ => true) |>.mpr ⟨hget, rfl⟩
  rw [hempty] at hmem
  cases hmem

/-- The submissions with the codes that are made up for them. -/
def submitWith (code code' : String) : Fin 2 → StoreService Unit :=
  ![((⟨⟨7, code, 7, 7, 0⟩, teaCustomer, pickUpCup "k"⟩ : SubmitCall).service id).bind fun _ =>
      .ret (),
    ((⟨⟨8, code', 8, 8, 0⟩, teaCustomer, pickUpCup "l"⟩ : SubmitCall).service id).bind fun _ =>
      .ret ()]

theorem submitAt_service (first second : ℕ) : (fun i => (submitAt first second i).service id) =
    submitWith (buildOrderCode first) (buildOrderCode second) := by
  funext i
  rcases Fin.exists_fin_two.mp ⟨i, rfl⟩ with rfl | rfl <;> rfl

/-- A hundred thousand seconds later, the code has been taken, and the customer cannot order. -/
theorem orderCode_taken : (∀ orderId, twoCartShop.get (.order, orderId) = none) ∧
    buildOrderCode 1700012345678 = buildOrderCode 1700112345678 ∧
    ¬ CodesFree id twoCartShop (submitAt 1700012345678 1700112345678) ∧
    (((submitAt 1700012345678 1700112345678 1).service id).run
      (((submitAt 1700012345678 1700112345678 0).service id).run twoCartShop).2).1 =
        .error (.uniqueConstraint "orderCode") := by
  have hfirst : buildOrderCode 1700012345678 = "ORD-12345678" := by decide +kernel
  have hsecond : buildOrderCode 1700112345678 = "ORD-12345678" := by decide +kernel
  have hcalls := submitAt_service 1700012345678 1700112345678
  rw [hfirst, hsecond] at hcalls
  have hexec : ((Machine.start twoCartShop (submitWith "ORD-12345678" "ORD-12345678")).exec
      (List.map .run (List.replicate 17 0 ++ List.replicate 13 1))).any (fun m =>
        (m.threads 1).fault m.db == some (.uniqueConstraint "orderCode")) = true := by
    decide +kernel
  obtain ⟨m, hm, hfault⟩ := (Option.any_eq_true _ _).mp hexec
  refine ⟨twoCartShop_no_order, hfirst.trans hsecond.symm, fun hfree => ?_, ?_⟩
  · have hrun := Machine.Traced.exec hm
    rw [← hcalls] at hrun
    exact hfree _ m hrun 1 _ _ rfl (eq_of_beq hfault)
  · rw [congrFun hcalls 0, congrFun hcalls 1]
    decide +kernel

/-- An hour later it has not. -/
theorem orderCodes_free_twoCartShop :
    buildOrderCode 1700012345678 ≠ buildOrderCode 1700015945678 ∧
      CodesFree id twoCartShop (submitAt 1700012345678 1700015945678) := by
  refine ⟨((orderCodes_free (ι := Fin 2)).1 _ _ (by decide)).mpr (by decide), ?_⟩
  refine orderCodes_free.2 id twoCartShop _ ∅ (fun orderId order hget => ?_) fun i instant call hi =>
    ⟨fun _ hbefore => hbefore.elim, fun j instant' call' hj hj' => ?_⟩
  · rw [twoCartShop_no_order] at hget
    cases hget
  · have hne : ∀ {i : Fin 2} {instant call},
        submitAt 1700012345678 1700015945678 i = .checkout instant call →
          (i = 0 ∧ instant = 1700012345678) ∨ (i = 1 ∧ instant = 1700015945678) := by
      intro i instant call hi
      rcases Fin.exists_fin_two.mp ⟨i, rfl⟩ with rfl | rfl
      · cases hi
        exact .inl ⟨rfl, rfl⟩
      · cases hi
        exact .inr ⟨rfl, rfl⟩
    rcases hne hi with ⟨rfl, rfl⟩ | ⟨rfl, rfl⟩ <;> rcases hne hj' with ⟨rfl, rfl⟩ | ⟨rfl, rfl⟩
    · exact absurd rfl hj
    · decide
    · decide
    · exact absurd rfl hj

end WerTe
