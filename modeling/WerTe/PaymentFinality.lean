import WerTe.PaymentVerdicts
import WerTe.RefundCommits
import WerTe.RiderlessOrders

/-!
# A payment that has ended

A transition of a payment checks that the payment is in progress before its transaction, which then
writes the new status whatever the old one is by that time. `PaymentWrite` says what operations
commit to payments, and `ended_payment_kept` that a payment that has ended is changed by refunds
only, as long as every transition finds the payment with the status that it has read.
-/

namespace WerTe

open ReadCommitted Tx PaymentsRepository

/-! ## The operations -/

/-- Whatever changes payments. -/
inductive PaymentOperation
  | payment (call : PaymentCall)
  | processEvent (eventId : Id) (retryTerminal : Bool)
  | refund (operation : RefundOperation)

namespace PaymentOperation

def service (round : ℚ → ℚ) (decimals : DecimalRuntime) (databaseMessage : Failure → String) :
    PaymentOperation → StoreService Unit
  | payment call => call.service round
  | processEvent eventId retryTerminal =>
    paymentProviderEventProcessor.processProviderEvent databaseMessage eventId retryTerminal
  | refund operation => operation.service decimals databaseMessage

/-- The operation ends a payment by a transition. -/
def isTransition : PaymentOperation → Bool
  | payment (.order (.payment ..)) => true
  | processEvent .. => true
  | _ => false

def isRefund : PaymentOperation → Bool
  | refund _ => true
  | _ => false

end PaymentOperation

/-! ## The writes -/

def paymentStatusIn (paymentId : Id) (db : Store) : Option PaymentStatus :=
  (db.get (.payment, paymentId)).map (·.status)

/-- The payment's status as the operation has last read it. -/
def paymentStatusRead (reads : List Store) (paymentId : Id) : Option PaymentStatus :=
  reads.head?.bind (paymentStatusIn paymentId)

/-- What a row write is that an operation commits to `db`. -/
inductive PaymentWrite (operation : PaymentOperation) (reads : List Store) (db : Store) :
    Write Row → Prop
  /-- a payment is created -/
  | created {paymentId : Id} {payment : Payment}
      (hfree : db.get (.payment, paymentId) = none) :
      PaymentWrite operation reads db ⟨.payment, paymentId, some payment⟩
  /-- cash on delivery is settled -/
  | settled {paymentId : Id} {payment : Payment}
      (hpayment : db.get (.payment, paymentId) = some payment)
      (hpending : payment.status = .pending) :
      PaymentWrite operation reads db
        ⟨.payment, paymentId, some { payment with status := .succeeded }⟩
  /-- a payment that was read as in progress makes its transition -/
  | transitioned {paymentId : Id} {payment : Payment} {payload : PaymentTransitionInput}
      {status : PaymentStatus} (htransition : operation.isTransition = true)
      (hread : paymentStatusRead reads paymentId = some status)
      (hopen : status ∈ inProgressPaymentStatuses)
      (hpayment : db.get (.payment, paymentId) = some payment) :
      PaymentWrite operation reads db ⟨.payment, paymentId, some (payment.transition payload)⟩
  /-- a payment has been refunded, or a part of it -/
  | refunded {paymentId : Id} {payment payment' : Payment} (hrefund : operation.isRefund = true)
      (hpayment : db.get (.payment, paymentId) = some payment)
      (hstatus : payment'.status = .refunded ∨ payment'.status = .partiallyRefunded) :
      PaymentWrite operation reads db ⟨.payment, paymentId, some payment'⟩
  /-- a row of another table -/
  | other {w : Write Row} (hpayment : w.table ≠ .payment) : PaymentWrite operation reads db w

/-- All that an operation commits. -/
def PaymentWrites (operation : PaymentOperation) (reads : List Store) (_seen : Store)
    (ws : List (Write Row)) (db : Store) : Prop := ∀ w ∈ ws, PaymentWrite operation reads db w

section Commits

variable {operation : PaymentOperation} {reads : List Store} {seen db db' : Store}
  {ws ws' : List (Write Row)} {w : Write Row}

theorem PaymentWrite.congr (h : PaymentWrite operation reads db w)
    (hrow : db.get w.key = db'.get w.key) : PaymentWrite operation reads db' w := by
  cases h with
  | created hfree => exact .created (hrow.symm.trans hfree)
  | settled hpayment hpending => exact .settled (hrow.symm.trans hpayment) hpending
  | transitioned htransition hread hopen hpayment =>
    exact .transitioned htransition hread hopen (hrow.symm.trans hpayment)
  | refunded hrefund hpayment hstatus =>
    exact .refunded hrefund (hrow.symm.trans hpayment) hstatus
  | other hpayment => exact .other hpayment

theorem PaymentWrites.agree (h : PaymentWrites operation reads seen ws db)
    (hagree : Db.Agree ws db db') : PaymentWrites operation reads seen ws db' :=
  fun w hw => (h w hw).congr (hagree w.key (List.mem_map_of_mem hw))

/-- Rows of other tables are written after the ones so far. -/
theorem PaymentWrites.append (h : PaymentWrites operation reads seen ws db)
    (hagree : Db.Agree ws db db') (hws : ∀ w ∈ ws', w.table ≠ .payment) :
    PaymentWrites operation reads seen (ws ++ ws') db' := by
  intro w hw
  rcases List.mem_append.mp hw with hw | hw
  · exact h.agree hagree w hw
  · exact .other (hws w hw)

variable {I : Store → Prop}

theorem paymentWrites_of_writes {α : Type} {p : StoreService α}
    (h : p.Writes fun w => w.table ≠ .payment) :
    p.Guarantees (.rows I) (PaymentWrites operation) reads :=
  .mono (fun _ _ _ _ _ hws w hw => .other (hws w hw)) p h.guarantees

/-! ## Transitions -/

theorem transitionPaymentStatus_relies {paymentId : Id} {payload : PaymentTransitionInput}
    {status : PaymentStatus} (htransition : operation.isTransition = true)
    (hread : paymentStatusRead reads paymentId = some status)
    (hopen : status ∈ inProgressPaymentStatuses) (hinv : I db) :
    (transitionPaymentStatus paymentId payload).Relies (.rows I)
      (fun _ => PaymentWrites operation reads) seen [] db := by
  refine .updateExisting_bind hinv fun db₁ payment _ hpayment => .read_bind fun db₂ hrel₂ =>
    .orFail fun transitioned _ db₃ hrel₃ w hw => ?_
  obtain rfl := List.mem_singleton.mp hw
  exact (PaymentWrite.transitioned htransition hread hopen hpayment).congr
    ((hrel₂.2.trans hrel₃.2) _ (List.mem_singleton_self _))

theorem handlePaymentTransition_paymentWrites (htransition : operation.isTransition = true)
    (currentUser : AuthenticatedUser) (input : PaymentLifecycleInput)
    (config : PaymentLifecycleConfig) :
    (handlePaymentTransition currentUser input config).Guarantees (.rows I)
      (PaymentWrites operation) reads := by
  refine .require_bind fun _ => .get_bind fun db _ => .orFail_bind fun current hcurrent => ?_
  obtain ⟨-, hread, -⟩ := get_of_findById hcurrent
  have hstatus : paymentStatusRead (db :: reads) input.paymentId = some current.payment.status :=
    congrArg (Option.map fun payment : Payment => payment.status) hread
  split
  · exact True.intro
  refine .require_bind fun hopen => .transaction fun seen db₁ hinv => .bind _ hinv
    (.mono (fun transitioned seen ws db₂ hinv₂ htransitioned => ?_) _
      (transitionPaymentStatus_relies htransition hstatus (by simpa using hopen) hinv))
  split
  · exact .of_writes _ (autoCancelOrder_writes _ _ _) fun _ _ ws' db₃ hws' _ hagree =>
      htransitioned.append hagree fun w hw ht => by
        rcases hws' w hw with horder | hstock
        · cases ht.symm.trans horder
        · exact (by decide : ∀ t ∈ stockTables, t ≠ .payment) _ hstock ht
  · exact .ret fun db₃ hrel₃ => htransitioned.agree hrel₃.2

theorem processPaymentEvent_paymentWrites {databaseMessage : Failure → String}
    (eventId : Id) (retryTerminal : Bool) :
    (paymentProviderEventProcessor.processProviderEvent databaseMessage eventId
      retryTerminal).Guarantees (.rows I)
        (PaymentWrites (.processEvent eventId retryTerminal)) reads := by
  refine ProviderEventProcessor.processProviderEvent_guarantees (fun payload reads => ?_)
    (fun event target action reads => ?_) retryTerminal reads
  · exact paymentWrites_of_writes (.transaction (.updateExisting fun _ => by simp))
  · cases action with
    | confirm => exact handlePaymentTransition_paymentWrites rfl _ _ _
    | fail => exact handlePaymentTransition_paymentWrites rfl _ _ _
    | cancel => exact handlePaymentTransition_paymentWrites rfl _ _ _
    | expire => exact handlePaymentTransition_paymentWrites rfl _ _ _

/-! ## Checkouts -/

variable (operation reads) in
/-- A payment is created under an id that is not taken. -/
theorem createCheckoutPaymentIntent_relies {paymentId orderId customerProfileId : Id} {amount : ℚ}
    {input : SubmitCheckoutInput} (hinv : I db) (hws : ∀ w ∈ ws, w.table ≠ .payment) :
    (createCheckoutPaymentIntent paymentId orderId customerProfileId amount input).Relies (.rows I)
      (fun _ => PaymentWrites operation reads) seen ws db := by
  refine .bind_writes (P := fun w => w.table ≠ .payment) (.ofExcept _) hinv
    fun profile seen' ws' db₁ hws' hinv₁ => .insertRow_bind fun db₂ hrel₂ hviolation => .ret
      fun db₃ hrel₃ => ?_
  have hbefore : ∀ w ∈ ws ++ ws', w.table ≠ .payment := fun w hw =>
    (List.mem_append.mp hw).elim (hws w) (hws' w)
  have hfree : db₂.get (.payment, paymentId) = none := by
    rw [← Db.get_apply_of_table hbefore]
    by_contra hsome
    rw [if_pos (Option.isSome_iff_ne_none.mpr hsome)] at hviolation
    cases hviolation
  intro w hw
  rcases List.mem_append.mp hw with hw | hw
  · exact .other (hbefore w hw)
  · obtain rfl := List.mem_singleton.mp hw
    exact (PaymentWrite.created hfree).congr
      (hrel₃.2 _ (List.mem_map_of_mem (List.mem_append_right _ (List.mem_singleton_self _))))

section Submissions

open CheckoutContextService CheckoutValidation CheckoutPricing CartsRepository

variable {round : ℚ → ℚ} {ids : CheckoutIds} {input : SubmitCheckoutInput}
  {currentUser : AuthenticatedUser} {context : CheckoutContext} {cartId : Id}
  {pricing : CheckoutPricingBreakdown}

theorem placeOrder_paymentWrites :
    (placeOrder round ids input context cartId pricing).Relies (.rows I)
      (fun _ => PaymentWrites operation reads) seen [] db := by
  refine .check_bind fun db₁ lines hrel _ => .bind_writes (P := fun w => w.table ≠ .payment)
    ((reserveLines_writes _ _).mono fun w hw => (StockWrite.table_ne hw).2.2) hrel.1
    fun reserved seen' stock db₂ hstock _ => .insertRow_bind fun db₃ hrel₃ _ => ?_
  refine .bind _ hrel₃.1 (.mono (fun payment seen ws db₄ hinv₄ hpaid => ?_) _
    (createCheckoutPaymentIntent_relies operation reads hrel₃.1 ?_))
  · refine .of_writes _ (P := fun w => w.table ≠ .payment) (.bind ((updateCart_writes _ _).mono ?_)
      fun _ => .bind ((createAppliedUsage_writes ..).mono ?_) fun _ => .ret _)
      fun _ _ ws' db₅ hws' _ hagree => hpaid.append hagree hws'
    · exact fun w hw => by simp [hw]
    · exact fun w hw => by simp [hw]
  · intro w hw
    rcases List.mem_append.mp hw with hw | hw
    · exact hstock w hw
    · obtain rfl := List.mem_singleton.mp hw
      simp

theorem submitOrder_paymentWrites :
    (submitOrder round ids currentUser input context cartId pricing).Relies (.rows I)
      (fun _ => PaymentWrites operation reads) seen [] db := by
  refine .read_bind fun db' hrel => ?_
  cases findByIdempotencyKey (db'.apply []) input.idempotencyKey with
  | none => exact placeOrder_paymentWrites
  | some existing =>
    refine .bind_writes (P := fun w => w.table ≠ .payment) (.ofExcept _) hrel.1
      fun _ seen' ws₁ db₁ hws₁ hinv₁ => .bind _ hinv₁ (.read_bind fun db₂ hrel₂ => ?_)
    cases findCheckoutPaymentIntentByIdempotencyKey (db₂.apply ([] ++ ws₁))
      input.idempotencyKey with
    | some payment => exact .ret fun db₃ _ => .ret fun db₄ _ w hw => .other (hws₁ w hw)
    | none =>
      exact .mono (fun payment seen ws db₃ _ hpaid => .ret fun db₄ hrel₄ => hpaid.agree hrel₄.2) _
        (createCheckoutPaymentIntent_relies operation reads hrel₂.1 hws₁)

theorem SubmitCall.paymentWrites (call : SubmitCall) :
    (call.service round).Guarantees (.rows I) (PaymentWrites operation) reads := by
  refine .bind (fun context reads => .bind (fun pricing reads => .tx ?_ fun outcome => ?_) ?_) ?_
  · exact fun seen db _ => submitOrder_paymentWrites
  · cases outcome with
    | ok submission => exact True.intro
    | error error =>
      dsimp only
      rw [tryResolveReplayAfterUniqueConstraint]
      split
      · exact True.intro
      · refine .get_bind fun _ _ => .orFail_bind fun existing _ => .ofExcept_bind fun _ _ =>
          .get_bind fun db _ => ?_
        cases findCheckoutPaymentIntentByIdempotencyKey db call.input.idempotencyKey with
        | some payment => exact True.intro
        | none =>
          exact .bind_ret (.transaction fun seen db hinv =>
            createCheckoutPaymentIntent_relies operation _ hinv (by simp))
  · exact (buildPricingBreakdown_readOnly ..).guarantees
  · exact (getValidatedCurrentCustomerCheckoutContext_readOnly _ _).guarantees

end Submissions

/-! ## All operations -/

/-- Of the operations on orders, transitions apart, settling cash is all that changes payments. -/
theorem OrderCommit.paymentWrites {free : Id → Store → Prop} {call : OrderCall}
    (h : OrderCommit free call reads ws db)
    (hcall : ∀ action currentUser input, call ≠ .payment action currentUser input) :
    PaymentWrites operation reads seen ws db := by
  intro w hw
  cases h.writes w hw with
  | settle hpayment hpending => exact .settled hpayment hpending
  | payment heq => exact absurd heq (hcall _ _ _)
  | other _ _ hpayment => exact .other hpayment
  | order => exact .other (by simp)
  | rider => exact .other (by simp)
  | reset => exact .other (by simp)
  | assign => exact .other (by simp)

theorem RefundCommit.paymentWrites {decimals : DecimalRuntime} {refund : RefundOperation}
    (h : RefundCommit decimals refund reads seen db ws) :
    PaymentWrites (.refund refund) reads seen ws db := by
  intro w hw
  cases h with
  | requested =>
    obtain rfl := List.mem_singleton.mp hw
    exact .other (by simp)
  | closed =>
    obtain rfl := List.mem_singleton.mp hw
    exact .other (by simp)
  | succeeded _ _ _ _ _ _ _ hpayment =>
    rcases List.mem_cons.mp hw with rfl | hw
    · exact .other (by simp)
    · obtain rfl := List.mem_singleton.mp hw
      refine .refunded rfl hpayment ?_
      dsimp only
      split
      · exact .inl rfl
      · exact .inr rfl
  | beside hws => exact .other (hws w hw).2

/-- No operation commits anything else to a payment. -/
theorem PaymentOperation.guarantees {round : ℚ → ℚ} {decimals : DecimalRuntime}
    {databaseMessage : Failure → String} (operation : PaymentOperation) :
    (operation.service round decimals databaseMessage).Guarantees (.rows fun _ => True)
      (PaymentWrites operation) reads := by
  cases operation with
  | payment call =>
    cases call with
    | checkout call => exact .bind_ret call.paymentWrites
    | order call =>
      by_cases hcall : ∃ action currentUser input, call = .payment action currentUser input
      · obtain ⟨action, currentUser, input, rfl⟩ := hcall
        exact handlePaymentTransition_paymentWrites rfl currentUser input action.config
      · exact .mono (fun _ _ _ _ _ h => h.paymentWrites fun action currentUser input heq =>
          hcall ⟨action, currentUser, input, heq⟩) _ (call.guarantees (locks_rows _) reads)
  | processEvent eventId retryTerminal =>
    exact processPaymentEvent_paymentWrites eventId retryTerminal
  | refund refund =>
    exact .mono (fun _ _ _ _ _ h => RefundCommit.paymentWrites h) _ refund.guarantees

end Commits

/-! ## Runs -/

/-- The statuses of a payment that has ended. -/
def terminalPaymentStatuses : List PaymentStatus := [.succeeded, .failed, .cancelled, .expired]

section Runs

variable {ι : Type}

/-- A payment that a transition writes has the status still that the operation has read. -/
def PaymentsCurrent (operation : PaymentOperation) (e : Event ι Row) : Prop :=
  operation.isTransition = true → ∀ w ∈ e.writes, w.table = .payment →
    ∀ status ∈ paymentStatusRead e.reads w.id, paymentStatusIn w.id e.db = some status

instance (operation : PaymentOperation) (e : Event ι Row) :
    Decidable (PaymentsCurrent operation e) :=
  inferInstanceAs (Decidable (_ → ∀ w ∈ e.writes, _ → ∀ status ∈ paymentStatusRead _ _, _))

/-- The payment has ended, and may have been refunded since. -/
def Ended (paymentId : Id) (db : Store) : Prop :=
  ∃ status, paymentStatusIn paymentId db = some status ∧ status ∉ inProgressPaymentStatuses

/-- A commit that is up to date leaves a payment that has ended so, and leaves it as it is unless it
refunds it. -/
theorem PaymentWrites.ended {operation : PaymentOperation} {e : Event ι Row}
    (h : PaymentWrites operation e.reads e.seen e.writes e.db)
    (hcurrent : PaymentsCurrent operation e) {paymentId : Id} (hended : Ended paymentId e.db) :
    Ended paymentId e.result ∧ (operation.isRefund = false →
      paymentStatusIn paymentId e.result = paymentStatusIn paymentId e.db) := by
  obtain ⟨status, hstatus, hnot⟩ := hended
  obtain ⟨payment, hpayment, hof⟩ := Option.map_eq_some_iff.mp hstatus
  rcases Db.get_apply_cases e.writes .payment paymentId e.db with hkept | ⟨row, hrow, hget⟩
  · have hsame : paymentStatusIn paymentId e.result = paymentStatusIn paymentId e.db :=
      congrArg (Option.map fun payment : Payment => payment.status) hkept
    exact ⟨⟨status, hsame.trans hstatus, hnot⟩, fun _ => hsame⟩
  · have hafter : paymentStatusIn paymentId e.result = row.map (·.status) :=
      congrArg (Option.map fun payment : Payment => payment.status) hget
    -- what was open when it was written had not ended
    have hopen : ∀ status', paymentStatusIn paymentId e.db = some status' →
        status' ∈ inProgressPaymentStatuses → False := by
      intro status' hstatus' hopen
      cases hstatus.symm.trans hstatus'
      exact hnot hopen
    cases h _ hrow with
    | created hfree => cases hfree.symm.trans hpayment
    | settled hpayment' hpending =>
      cases hpayment.symm.trans hpayment'
      refine absurd hpending fun hpending => hopen .pending ?_ (by decide)
      rw [hstatus, ← hof, hpending]
    | transitioned htransition hread hopen' hpayment' =>
      exact (hopen _ (hcurrent htransition _ hrow rfl _ hread) hopen').elim
    | @refunded _ _ payment' hrefund _ hrefunded =>
      refine ⟨⟨payment'.status, hafter, ?_⟩, fun hnone => ?_⟩
      · rcases hrefunded with hrefunded | hrefunded
        · simp [hrefunded, inProgressPaymentStatuses]
        · simp [hrefunded, inProgressPaymentStatuses]
      · rw [hrefund] at hnone
        cases hnone
    | other htable => exact absurd rfl htable

variable [Fintype ι] [DecidableEq ι] {round : ℚ → ℚ} {decimals : DecimalRuntime}
  {databaseMessage : Failure → String} {db₀ : Store} {operations : ι → PaymentOperation}

/-- The payments that had ended still have, and those since changed were so by refunds. -/
structure EndedKept (operations : ι → PaymentOperation) (log : List (Event ι Row)) (db : Store) :
    Prop where
  ended : ∀ e ∈ log, ∀ paymentId, Ended paymentId e.db → Ended paymentId db
  kept : ∀ before e after, log = before ++ e :: after → (operations e.call).isRefund = false →
    ∀ paymentId, (∃ e₀ ∈ before ++ [e], Ended paymentId e₀.db) →
      paymentStatusIn paymentId e.result = paymentStatusIn paymentId e.db

omit [Fintype ι] [DecidableEq ι] in
theorem EndedKept.snoc {log : List (Event ι Row)} {e : Event ι Row}
    (h : EndedKept operations log e.db)
    (hcommit : PaymentWrites (operations e.call) e.reads e.seen e.writes e.db)
    (hcurrent : PaymentsCurrent (operations e.call) e) :
    EndedKept operations (log ++ [e]) e.result := by
  have hsince : ∀ paymentId, (∃ e₀ ∈ log ++ [e], Ended paymentId e₀.db) → Ended paymentId e.db := by
    rintro paymentId ⟨e₀, he₀, hended⟩
    rcases List.mem_append.mp he₀ with he₀ | he₀
    · exact h.ended e₀ he₀ paymentId hended
    · obtain rfl := List.mem_singleton.mp he₀
      exact hended
  refine ⟨fun e₀ he₀ paymentId hended =>
    (hcommit.ended hcurrent (hsince paymentId ⟨e₀, he₀, hended⟩)).1, ?_⟩
  intro before e' after hsplit hrefund paymentId hended
  rcases after.eq_nil_or_concat with rfl | ⟨after, last, rfl⟩
  · obtain ⟨rfl, hlast⟩ := List.append_inj' hsplit rfl
    cases hlast
    exact (hcommit.ended hcurrent (hsince paymentId hended)).2 hrefund
  · rw [List.concat_eq_append, ← List.cons_append, ← List.append_assoc] at hsplit
    obtain ⟨hlog, -⟩ := List.append_inj' hsplit rfl
    exact h.kept before e' after hlog hrefund paymentId hended

/-- However operations on payments, orders and checkouts interleave, once a payment has ended only
refunds change its status, as long as every transition finds the payment with the status that it has
read. -/
theorem ended_payment_kept {m : Machine ι Row Failure Unit} {log : List (Event ι Row)}
    (hrun : Machine.Traced
      (.start db₀ fun i => (operations i).service round decimals databaseMessage) log m)
    (hcurrent : ∀ e ∈ log, PaymentsCurrent (operations e.call) e)
    (before : List (Event ι Row)) (e : Event ι Row) (after : List (Event ι Row))
    (hsplit : log = before ++ e :: after) (hrefund : (operations e.call).isRefund = false)
    (paymentId : Id) (hended : ∃ e₀ ∈ before ++ [e],
      ∃ status ∈ terminalPaymentStatuses, paymentStatusIn paymentId e₀.db = some status) :
    paymentStatusIn paymentId e.result = paymentStatusIn paymentId e.db := by
  obtain ⟨reads, htrace⟩ := hrun
  have hsound := htrace.sound (R := .rows fun _ => True) (J := EndedKept operations)
    (Q := fun i => PaymentWrites (operations i))
    (fun log e _ hkept hok hcommit => .rows True.intro (hkept.snoc hcommit hok))
    True.intro (fun i => (operations i).guarantees) ⟨by simp, by simp⟩ hcurrent
  refine hsound.2.kept before e after hsplit hrefund paymentId ?_
  obtain ⟨e₀, he₀, status, hterminal, hstatus⟩ := hended
  exact ⟨e₀, he₀, status, hstatus, (by decide : ∀ status ∈ terminalPaymentStatuses,
    status ∉ inProgressPaymentStatuses) status hterminal⟩

/-- An admin's request about the payment. -/
def firstPayment : PaymentLifecycleInput where
  paymentId := 1
  providerReference := none
  providerReceiptId := none
  reasonCode := none
  note := none
  failureCode := none
  failureMessage := none
  skipAdminFinanceAccess := false

/-- One admin confirms the payment and another lets it expire. -/
def confirmAndExpire : Fin 2 → PaymentOperation :=
  ![.payment (.order (.payment .confirm teaAdmin firstPayment)),
    .payment (.order (.payment .expire teaAdmin firstPayment))]

/-- A shop with a payment that is under way. -/
def processingShop : Store :=
  orderShop.put ⟨.payment, 1, some {
    teaPayment with method := .digitalWallet, provider := .wavePay, status := .processing }⟩

/-- When both have read the payment before either commits, the payment succeeds and expires after
that. -/
theorem succeeded_payment_expires : ∃ log m, Machine.Traced (.start processingShop fun i =>
    (confirmAndExpire i).service id sampleDecimals fun _ => "") log m ∧
      ∃ e ∈ log, (confirmAndExpire e.call).isRefund = false ∧
        paymentStatusIn 1 e.db = some .succeeded ∧ paymentStatusIn 1 e.result = some .expired := by
  have hexec : ((Machine.start processingShop fun i =>
      (confirmAndExpire i).service id sampleDecimals fun _ => "").exec (List.map .run
        ([0, 1] ++ List.replicate 4 0 ++ List.replicate 9 1))).isSome = true := by decide +kernel
  have hlog : ∃ e ∈ (Machine.start processingShop fun i =>
      (confirmAndExpire i).service id sampleDecimals fun _ => "").execEvents (List.map .run
        ([0, 1] ++ List.replicate 4 0 ++ List.replicate 9 1)) fun _ => [],
          (confirmAndExpire e.call).isRefund = false ∧ paymentStatusIn 1 e.db = some .succeeded ∧
            paymentStatusIn 1 e.result = some .expired := by
    decide +kernel
  obtain ⟨m, hm⟩ := Option.isSome_iff_exists.mp hexec
  exact ⟨_, m, Machine.Traced.exec hm, hlog⟩

/-- The payment is confirmed and the customer cancels the order. -/
def confirmAndCancel : Fin 2 → PaymentOperation :=
  ![.payment (.order (.payment .confirm teaAdmin firstPayment)),
    .payment (.order (.customerCancel teaCustomer 1 none none))]

/-- The cancellation leaves the payment as it is. -/
theorem ended_payment_kept_processingShop : ∃ log m, Machine.Traced (.start processingShop fun i =>
    (confirmAndCancel i).service id sampleDecimals fun _ => "") log m ∧
      ∃ e ∈ log, e.writes ≠ [] ∧ paymentStatusIn 1 e.db = some .succeeded ∧
        paymentStatusIn 1 e.result = some .succeeded := by
  have hexec : ((Machine.start processingShop fun i =>
      (confirmAndCancel i).service id sampleDecimals fun _ => "").exec (List.map .run
        (List.replicate 5 0 ++ List.replicate 7 1))).isSome = true := by decide +kernel
  obtain ⟨m, hm⟩ := Option.isSome_iff_exists.mp hexec
  have hrun := Machine.Traced.exec hm
  have hcurrent : ∀ e ∈ (Machine.start processingShop fun i =>
      (confirmAndCancel i).service id sampleDecimals fun _ => "").execEvents (List.map .run
        (List.replicate 5 0 ++ List.replicate 7 1)) fun _ => [],
          PaymentsCurrent (confirmAndCancel e.call) e := by decide +kernel
  have hlength : ((Machine.start processingShop fun i =>
      (confirmAndCancel i).service id sampleDecimals fun _ => "").execEvents (List.map .run
        (List.replicate 5 0 ++ List.replicate 7 1)) fun _ => []).length = 2 := by decide +kernel
  have hlast : ∀ e ∈ ((Machine.start processingShop fun i =>
      (confirmAndCancel i).service id sampleDecimals fun _ => "").execEvents (List.map .run
        (List.replicate 5 0 ++ List.replicate 7 1)) fun _ => []).getLast?,
          (confirmAndCancel e.call).isRefund = false ∧ e.writes.length ≠ 0 ∧
            paymentStatusIn 1 e.db = some .succeeded := by decide +kernel
  refine ⟨_, m, hrun, ?_⟩
  generalize (Machine.start processingShop fun i =>
      (confirmAndCancel i).service id sampleDecimals fun _ => "").execEvents (List.map .run
        (List.replicate 5 0 ++ List.replicate 7 1)) (fun _ => []) = log
    at hrun hcurrent hlength hlast ⊢
  obtain ⟨confirmed, cancelled, rfl⟩ := List.length_eq_two.mp hlength
  obtain ⟨hrefund, hwrites, hsucceeded⟩ := hlast cancelled rfl
  refine ⟨cancelled, by simp, fun hnil => hwrites (by rw [hnil]; rfl), hsucceeded, ?_⟩
  rw [← hsucceeded]
  exact ended_payment_kept hrun hcurrent [confirmed] cancelled [] rfl hrefund 1
    ⟨cancelled, by simp, .succeeded, by decide, hsucceeded⟩

end Runs

end WerTe
