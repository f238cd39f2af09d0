import WerTe.PaymentFinality
import WerTe.RefundCover

/-!
# Refunds one after the other

With operations that never overlap, everything that a refund is checked against is still so when it
is written: what is left are the amounts themselves. `refunds_balanced` says that each payment goes
with its refunds in every state of such a run, as long as no amount is lost in a column and no
running total is rounded.
-/

namespace WerTe

open ReadCommitted Tx Numeral RefundsRepository PaymentsRepository RefundOperations
open RefundProviderEventProcessor (RefundLifecycleAction lifecycleInput)

/-! ## What an operation commits when it is run alone -/

/-- The tables of refunds and of payments. -/
def IsRefundTable (t : Tbl) : Prop := t = .refund ∨ t = .payment

/-- The refund that the operation is to give the status of one that has succeeded. -/
def RefundOperation.succeeds (decimals : DecimalRuntime) (db : Store) : RefundOperation → Option Id
  | request _ => none
  | finalize action _ input => if action = .succeed then some input.refundId else none
  | processEvent eventId _ => do
    let event ← findRefundProviderEventById db eventId
    let refund ← (refundProviderEventProcessor decimals).resolveTarget db event
    if (refundProviderEventProcessor decimals).resolveLifecycleAction event.normalizedStatus =
        some .succeed then some refund.id
    else none

/-- A payment is written with a refund, the one that is to have succeeded. -/
def AddsUp (refundId : Option Id) (ws : List (Write Row)) : Prop :=
  (∃ w ∈ ws, w.table = .payment) → ∃ w ∈ ws, w.table = .refund ∧ refundId = some w.id

/-- The operation leaves the refunds and payments as a commit does that has read `db` itself. -/
def CommitsAlone (decimals : DecimalRuntime) (operation : RefundOperation)
    (P : List (Write Row) → Prop) (db db' : Store) : Prop :=
  ∃ ws, RefundCommit decimals operation [db] db db ws ∧ P ws ∧
    Db.SameOn IsRefundTable (db.apply ws) db'

/-- The payment can be refunded. -/
def Refundable (paymentId : Id) (db : Store) : Prop :=
  ∃ status ∈ refundablePaymentStatuses, paymentStatusIn paymentId db = some status

instance (paymentId : Id) (db : Store) : Decidable (Refundable paymentId db) :=
  inferInstanceAs (Decidable (∃ status ∈ refundablePaymentStatuses, _))

/-- Why the operation writes what it does: refunds are created where the payment can be refunded,
and added up when one succeeds. -/
structure RefundOperation.Explains (decimals : DecimalRuntime) (operation : RefundOperation)
    (db : Store) (ws : List (Write Row)) : Prop where
  refundable : ∀ call, operation = .request call → (∃ w ∈ ws, w.table = .refund) →
    Refundable call.input.paymentId db
  succeeds : AddsUp (operation.succeeds decimals db) ws

section Alone

variable {decimals : DecimalRuntime} {operation : RefundOperation}
  {P P' : List (Write Row) → Prop} {db db' : Store}

theorem IsRefundTable.of_beside {t : Tbl} (h : IsRefundTable t) {w : Write Row}
    (hw : BesideWrite w) : w.table ≠ t := by
  rcases h with rfl | rfl
  · exact hw.1
  · exact hw.2

/-- Nothing is written to refunds or payments. -/
theorem CommitsAlone.of_sameOn (hnone : P []) (h : Db.SameOn IsRefundTable db db') :
    CommitsAlone decimals operation P db db' := ⟨[], .beside (by simp), hnone, h⟩

theorem CommitsAlone.trans (h : CommitsAlone decimals operation P db db') {db'' : Store}
    (hsame : Db.SameOn IsRefundTable db' db'') : CommitsAlone decimals operation P db db'' := by
  obtain ⟨ws, hcommit, hP, hws⟩ := h
  exact ⟨ws, hcommit, hP, hws.trans hsame⟩

theorem CommitsAlone.mono (h : CommitsAlone decimals operation P db db')
    (himp : ∀ ws, P ws → P' ws) : CommitsAlone decimals operation P' db db' := by
  obtain ⟨ws, hcommit, hP, hws⟩ := h
  exact ⟨ws, hcommit, himp ws hP, hws⟩

theorem AddsUp.nil (refundId : Option Id) : AddsUp refundId [] := by
  rintro ⟨w, hw, -⟩
  cases hw

theorem RefundOperation.Explains.nil : operation.Explains decimals db [] where
  refundable call _ := by
    rintro ⟨w, hw, -⟩
    cases hw
  succeeds := .nil _

theorem publishRefundEvent_sameOn (call : RefundCall) (code : SystemMessageCode)
    (refund : RefundSummaryRecord) (db : Store) : ∃ r db',
      (publishRefundEvent call code refund).run db = (.ok r, db') ∧
        Db.SameOn IsRefundTable db db' := by
  obtain ⟨r, db', hrun, -⟩ := publishRefundEvent_run call code refund db
  have hsame : Db.SameOn IsRefundTable db ((publishRefundEvent call code refund).run db).2 :=
    ((publishRefundEvent_writes call code refund).mono fun w hw ht =>
      IsRefundTable.of_beside ht hw rfl).sameOn
  rw [hrun] at hsame
  exact ⟨r, db', hrun, hsame⟩

theorem requestCurrentAdminRefund_alone (call : RefundCall) :
    (requestCurrentAdminRefund decimals call).Ends db fun _ db' =>
      CommitsAlone decimals (.request call)
        (RefundOperation.Explains decimals (.request call) db) db db' := by
  have hnone : CommitsAlone decimals (.request call)
      (RefundOperation.Explains decimals (.request call) db) db db := .of_sameOn .nil (.refl db)
  refine .require_bind (fun _ => .get_bind ?_) fun _ => hnone
  split
  · exact .require_bind (fun _ => .ret hnone) fun _ => hnone
  refine .get_bind (.orFail_bind (fun payment hfound => .require_bind (fun hrefundable => ?_)
    fun _ => hnone) fun _ => hnone)
  have hrefundable' : Refundable call.input.paymentId db := by
    obtain ⟨record, hrecord, rfl⟩ := Option.map_eq_some_iff.mp hfound
    obtain ⟨-, hpayment, -⟩ := PaymentsRepository.get_of_findById hrecord
    exact ⟨_, by simpa using hrefundable,
      congrArg (Option.map fun payment : Payment => payment.status) hpayment⟩
  refine .bind (.ofExcept ?_)
  cases hamount : parsePositiveAmount decimals call.input.amount with
  | error e => exact hnone
  | ok amount =>
    refine .require_bind (fun hcovered => .transaction_bind (fun refund db₁ hcreate => ?_)
      fun _ _ => hnone) fun _ => hnone
    obtain ⟨stored, db₂, hcolumn, hinsert⟩ := Tx.run_bind_ok hcreate
    obtain ⟨hstored, heq⟩ := Tx.run_orFail_ok hcolumn
    obtain ⟨_, db₃, hput, hreturn⟩ := Tx.run_bind_ok hinsert
    obtain ⟨hviolation, rfl⟩ := Tx.run_insertRow_ok hput
    cases hreturn
    rw [heq] at hviolation ⊢
    have hfree : db.get (.refund, call.refundId) = none := by
      by_contra hsome
      rw [if_pos (Option.isSome_iff_ne_none.mpr hsome)] at hviolation
      cases hviolation
    -- the message is sent afterwards
    obtain ⟨_, db', hpublish, hsame⟩ := publishRefundEvent_sameOn call .refundRequested _ _
    refine .bind (.of_run hpublish (.ret ⟨[_], .requested rfl hfound hamount hcovered hstored hfree,
      ⟨fun call' heq' _ => ?_, ?_⟩, hsame⟩))
    · cases heq'
      exact hrefundable'
    · rintro ⟨w, hw, htable⟩
      obtain rfl := List.mem_singleton.mp hw
      cases htable

theorem transitionRefundStatus_run {id : Id} {payload : RefundTransitionInput}
    {record : RefundDetailRecord} (h : (transitionRefundStatus id payload).run db =
      .ok (record, db')) :
    ∃ refund, db.get (.refund, id) = some refund ∧ record.refund = refund.transition payload ∧
      db' = db.put ⟨.refund, id, some (refund.transition payload)⟩ := by
  obtain ⟨_, db₁, hupdate, hreload⟩ := Tx.run_bind_ok h
  obtain ⟨refund, hget, rfl⟩ := Tx.run_updateExisting_ok hupdate
  have hfound : (Tx.orFail _ _ : StoreTx RefundDetailRecord).run _ = .ok (record, db') := hreload
  obtain ⟨hfind, rfl⟩ := Tx.run_orFail_ok hfound
  exact ⟨refund, hget, Option.some.inj
    ((RefundsRepository.get_of_findById hfind).symm.trans (Db.get_put_self ..)), rfl⟩

theorem recordSucceededRefund_run {paymentId : Id} {u : Unit}
    (h : (recordSucceededRefund decimals paymentId).run db = .ok (u, db')) :
    ∃ record refunded payment, findByIdWithRefunds db paymentId = some record ∧
      (decimals.column (computeSucceededRefundAmount decimals record)).bind Decimal.number =
        some refunded ∧
      db.get (.payment, paymentId) = some payment ∧
      db' = db.put ⟨.payment, paymentId, some { payment with
        refundedAmount := refunded
        status := if (computeSucceededRefundAmount decimals record).greaterThanOrEqualTo
          (.finite record.payment.amount) then .refunded else .partiallyRefunded }⟩ := by
  have hread : (Tx.orFail (findByIdWithRefunds db paymentId) _ >>= _ : StoreTx Unit).run db =
    .ok (u, db') := h
  obtain ⟨record, db₁, hrecord, hupdate⟩ := Tx.run_bind_ok hread
  obtain ⟨hfound, rfl⟩ := Tx.run_orFail_ok hrecord
  obtain ⟨refunded, db₂, hcolumn, hwrite⟩ := Tx.run_bind_ok hupdate
  obtain ⟨hrefunded, rfl⟩ := Tx.run_orFail_ok hcolumn
  obtain ⟨payment, hpayment, rfl⟩ := Tx.run_updateExisting_ok hwrite
  exact ⟨record, refunded, payment, hfound, hrefunded, hpayment, rfl⟩

theorem finalizeRefund_alone (action : RefundLifecycleAction) (input : FinalizeRefundInput) :
    (finalizeRefund decimals input action.config).Ends db fun _ db' =>
      CommitsAlone decimals operation
        (AddsUp (if action = .succeed then some input.refundId else none)) db db' := by
  have hnone : CommitsAlone decimals operation
      (AddsUp (if action = .succeed then some input.refundId else none)) db db :=
    .of_sameOn (.nil _) (.refl db)
  refine .get_bind (.orFail_bind (fun current hcurrent => ?_) fun _ => hnone)
  split
  · exact .ret hnone
  refine .require_bind (fun hopen => .transaction (fun u db' hrun => ?_) fun _ _ => hnone)
    fun _ => hnone
  have hread : refundRead [db] input.refundId = some current.refund :=
    RefundsRepository.get_of_findById hcurrent
  have hopen' : current.refund.status ∈ finalizableRefundStatuses := by simpa using hopen
  obtain ⟨record, db₁, htransition, hrest⟩ := Tx.run_bind_ok hrun
  obtain ⟨refund, hrefund, hrecord, rfl⟩ := transitionRefundStatus_run htransition
  have hpaymentId : record.refund.paymentId = refund.paymentId := by rw [hrecord]; rfl
  split at hrest
  case isTrue hsucceeds =>
    rw [hpaymentId] at hrest
    obtain ⟨found, refunded, payment, hfound, hrefunded, hpayment, rfl⟩ :=
      recordSucceededRefund_run hrest
    rw [Db.get_put_ne _ (by simp [Write.key])] at hpayment
    refine ⟨[_, _], .succeeded hread hopen' hrefund hsucceeds hrefund hfound hrefunded hpayment,
      fun _ => ⟨_, List.mem_cons_self, rfl, ?_⟩, .refl _⟩
    cases action with
    | succeed => rfl
    | fail => cases hsucceeds
    | cancel => cases hsucceeds
  case isFalse hends =>
    cases hrest
    have hclosed : action.config.targetStatus = .failed ∨
        action.config.targetStatus = .cancelled := by
      cases action with
      | succeed => exact absurd rfl hends
      | fail => exact .inl rfl
      | cancel => exact .inr rfl
    refine ⟨[_], .closed hread hopen' hrefund hclosed, ?_, .refl _⟩
    rintro ⟨w, hw, htable⟩
    obtain rfl := List.mem_singleton.mp hw
    cases htable

theorem finalizeCurrentAdminRefund_alone (action : RefundLifecycleAction)
    (currentUser : AuthenticatedUser) (input : FinalizeRefundInput) :
    (finalizeCurrentAdminRefund decimals currentUser input action.config).Ends db fun _ db' =>
      CommitsAlone decimals operation
        (AddsUp (if action = .succeed then some input.refundId else none)) db db' :=
  .require_bind (fun _ => finalizeRefund_alone action input) fun _ =>
    .of_sameOn (.nil _) (.refl db)

/-- What is marked on an event is not on a refund or a payment. -/
theorem sameOn_isRefundTable {t : Tbl} (h : Db.SameOn (· ≠ t) db db')
    (ht : t = .paymentProviderEvent ∨ t = .refundProviderEvent) :
    Db.SameOn IsRefundTable db db' := by
  rintro t' (rfl | rfl)
  · exact h _ (by rcases ht with rfl | rfl <;> decide)
  · exact h _ (by rcases ht with rfl | rfl <;> decide)

theorem processRefundEvent_alone {databaseMessage : Failure → String} (eventId : Id)
    (retryTerminal : Bool) : ((refundProviderEventProcessor decimals).processProviderEvent
      databaseMessage eventId retryTerminal).Ends db fun _ db' =>
        CommitsAlone decimals operation
          (AddsUp ((RefundOperation.processEvent eventId retryTerminal).succeeds decimals db))
          db db' := by
  have hlawful := refundProviderEventProcessor_lawful decimals
  have hmarked : ∀ {payload db₁ db₂},
      ((refundProviderEventProcessor decimals).updateEvent eventId payload).run db₁ =
        .ok ((), db₂) → Db.SameOn IsRefundTable db₁ db₂ := fun hmark =>
    sameOn_isRefundTable ((hlawful.updateEvent_writes eventId _).sameOn_ne hmark) (.inr rfl)
  refine (ProviderEventProcessor.processProviderEvent_processing hlawful db eventId
    retryTerminal).mono fun _ db' hprocessing => ?_
  cases hprocessing with
  | skipped => exact .of_sameOn (.nil _) (.refl db)
  | marked event payload _ hevent _ _ hmark => exact .of_sameOn (.nil _) (hmarked hmark)
  | applied event target action payload _ hevent happlies hpayload hmark =>
    have hsucceeds : (RefundOperation.processEvent eventId retryTerminal).succeeds decimals db =
        if action = .succeed then some target.id else none := by
      have hfind : findRefundProviderEventById db eventId = some event := hevent
      simp [RefundOperation.succeeds, hfind, happlies.finds, happlies.resolves]
    rw [hsucceeds]
    refine CommitsAlone.trans ?_ (hmarked hmark)
    cases action with
    | succeed =>
      exact (finalizeCurrentAdminRefund_alone .succeed webhookSystemActor
        (lifecycleInput event target .succeed)).run
    | fail =>
      exact (finalizeCurrentAdminRefund_alone .fail webhookSystemActor
        (lifecycleInput event target .fail)).run
    | cancel =>
      exact (finalizeCurrentAdminRefund_alone .cancel webhookSystemActor
        (lifecycleInput event target .cancel)).run

theorem RefundOperation.alone {databaseMessage : Failure → String} (operation : RefundOperation) :
    (operation.service decimals databaseMessage).Ends db fun _ db' =>
      CommitsAlone decimals operation (operation.Explains decimals db) db db' := by
  cases operation with
  | request call => exact .discard (requestCurrentAdminRefund_alone call)
  | finalize action currentUser input =>
    exact (finalizeCurrentAdminRefund_alone action currentUser input).mono fun _ _ h =>
      h.mono fun ws hadds => ⟨fun call heq => (by cases heq), hadds⟩
  | processEvent eventId retryTerminal =>
    exact (processRefundEvent_alone eventId retryTerminal).mono fun _ _ h =>
      h.mono fun ws hadds => ⟨fun call heq => (by cases heq), hadds⟩

end Alone

/-! ## What a transition commits when it is run alone -/

/-- No payment is written but one in progress, which ends. -/
def TransitionsAlone (db db' : Store) : Prop :=
  Db.SameOn IsRefundTable db db' ∨ ∃ paymentId payment payload,
    db.get (.payment, paymentId) = some payment ∧ payment.status ∈ inProgressPaymentStatuses ∧
      payload.status ∈ terminalPaymentStatuses ∧
      Db.SameOn IsRefundTable (db.put ⟨.payment, paymentId, some (payment.transition payload)⟩) db'

section Transitions

variable {db db' : Store}

theorem TransitionsAlone.trans (h : TransitionsAlone db db') {db'' : Store}
    (hsame : Db.SameOn IsRefundTable db' db'') : TransitionsAlone db db'' := by
  rcases h with h | ⟨paymentId, payment, payload, hpayment, hopen, hterminal, h⟩
  · exact .inl (h.trans hsame)
  · exact .inr ⟨paymentId, payment, payload, hpayment, hopen, hterminal, h.trans hsame⟩

theorem handlePaymentTransition_alone {config : PaymentLifecycleConfig}
    (hterminal : config.targetStatus ∈ terminalPaymentStatuses) (currentUser : AuthenticatedUser)
    (input : PaymentLifecycleInput) (db : Store) :
    (handlePaymentTransition currentUser input config).Ends db fun _ db' =>
      TransitionsAlone db db' := by
  have hnone : TransitionsAlone db db := .inl (.refl db)
  refine .require_bind (fun _ => .get_bind (.orFail_bind (fun record hrecord => ?_)
    fun _ => hnone)) fun _ => hnone
  obtain ⟨-, hpayment, -⟩ := PaymentsRepository.get_of_findById hrecord
  split
  · exact .ret hnone
  refine .require_bind (fun hopen => .transaction (fun u db' h => ?_) fun _ _ => hnone)
    fun _ => hnone
  obtain ⟨transitioned, db₁, htransition, hcancel⟩ := Tx.run_bind_ok h
  obtain ⟨payload, hstatus, htransition⟩ : ∃ payload, payload.status = config.targetStatus ∧
      (transitionPaymentStatus input.paymentId payload).run db = .ok (transitioned, db₁) := by
    refine ⟨_, ?_, htransition⟩
    rfl
  obtain ⟨payment, hpayment', rfl, -⟩ := transitionPaymentStatus_run htransition
  obtain rfl := Option.some.inj (hpayment.symm.trans hpayment')
  refine .inr ⟨input.paymentId, record.payment, payload, hpayment, by simpa using hopen,
    hstatus ▸ hterminal, ?_⟩
  split at hcancel
  · refine ((autoCancelOrder_writes _ _ _).mono fun w hw ht => ?_).sameOn hcancel
    rcases ht with ht | ht
    · rw [ht] at hw
      exact absurd hw (by simp [IsGoodsTable, stockTables])
    · rw [ht] at hw
      exact absurd hw (by simp [IsGoodsTable, stockTables])
  · cases hcancel
    exact .refl _

theorem processPaymentEvent_alone {databaseMessage : Failure → String} (eventId : Id)
    (retryTerminal : Bool) : (paymentProviderEventProcessor.processProviderEvent databaseMessage
      eventId retryTerminal).Ends db fun _ db' => TransitionsAlone db db' := by
  have hmarked : ∀ {payload db₁ db₂},
      (paymentProviderEventProcessor.updateEvent eventId payload).run db₁ = .ok ((), db₂) →
        Db.SameOn IsRefundTable db₁ db₂ := fun hmark =>
    sameOn_isRefundTable (mark_sameOn hmark) (.inl rfl)
  refine (ProviderEventProcessor.processProviderEvent_processing
    paymentProviderEventProcessor_lawful db eventId retryTerminal).mono fun _ db' hprocessing => ?_
  cases hprocessing with
  | skipped => exact .inl (.refl db)
  | marked event payload _ hevent _ _ hmark => exact .inl (hmarked hmark)
  | applied event target action payload _ hevent happlies hpayload hmark =>
    refine TransitionsAlone.trans ?_ (hmarked hmark)
    have hterminal : action.config.targetStatus ∈ terminalPaymentStatuses := by
      cases action <;> decide
    have happly := handlePaymentTransition_alone hterminal webhookSystemActor
      (PaymentProviderEventProcessor.lifecycleInput event target action) db
    rw [← PaymentProviderEventProcessor.applyLifecycleAction_eq] at happly
    exact happly.run

end Transitions

/-! ## Payments and their refunds -/

/-- The payment's status goes with what has been refunded of it. -/
structure Payment.StatusExact (payment : Payment) : Prop where
  refunded : payment.status = .refunded ↔
    payment.refundedAmount = payment.amount ∧ 0 < payment.amount
  partially : payment.status = .partiallyRefunded ↔
    0 < payment.refundedAmount ∧ payment.refundedAmount < payment.amount

/-- The payment goes with its refunds. -/
structure Payment.Balanced (payment : Payment) (paymentId : Id) (db : Store) : Prop where
  refunded : payment.refundedAmount = refundTotal [.succeeded] paymentId db
  nonneg : 0 ≤ payment.refundedAmount
  le_amount : payment.refundedAmount ≤ payment.amount
  reserved : refundTotal reservedRefundStatuses paymentId db ≤ payment.amount
  status : payment.StatusExact

/-- All payments go with their refunds, none of which is of nothing. -/
structure RefundsBalanced (decimals : DecimalRuntime) (db : Store) : Prop where
  balanced : LedgerBalanced db
  covered : RefundsCovered decimals db
  positive : ∀ refundId refund, db.get (.refund, refundId) = some refund →
    refund.status ∈ reservedRefundStatuses → 0 < refund.amount.number.getD 0
  statuses : ∀ paymentId payment, db.get (.payment, paymentId) = some payment →
    payment.StatusExact

section Balanced

variable {decimals : DecimalRuntime} {db db' : Store} {paymentId : Id}

theorem refundTotal_congr (h : Db.SameOn IsRefundTable db db') (statuses : List RefundStatus) :
    refundTotal statuses paymentId db = refundTotal statuses paymentId db' := by
  rw [refundTotal_eq_sum_list, refundTotal_eq_sum_list, h.list (.inl rfl)]

theorem RefundsBalanced.congr (h : RefundsBalanced decimals db)
    (hsame : Db.SameOn IsRefundTable db db') : RefundsBalanced decimals db' := by
  have hrefund : ∀ id, db'.get (.refund, id) = db.get (.refund, id) :=
    fun id => (hsame.get (.inl rfl)).symm
  have hpayment : ∀ id, db'.get (.payment, id) = db.get (.payment, id) :=
    fun id => (hsame.get (.inr rfl)).symm
  refine ⟨⟨fun id refund hget => ?_, fun id payment hget => ?_⟩, ⟨fun id refund hget => ?_,
    fun id payment hget => ?_, fun id payment hget => ?_⟩, fun id refund hget => ?_,
    fun id payment hget => ?_⟩
  · exact h.balanced.numbers id refund ((hrefund id).symm.trans hget)
  · rw [← refundTotal_congr hsame]
    exact h.balanced.balanced id payment ((hpayment id).symm.trans hget)
  · exact h.covered.amounts id refund ((hrefund id).symm.trans hget)
  · exact h.covered.payments id payment ((hpayment id).symm.trans hget)
  · rw [← refundTotal_congr hsame]
    exact h.covered.covered id payment ((hpayment id).symm.trans hget)
  · exact h.positive id refund ((hrefund id).symm.trans hget)
  · exact h.statuses id payment ((hpayment id).symm.trans hget)

/-- The amounts of refunds that are not off are nothing or more, and the column holds them. -/
theorem RefundsCovered.listed (h : RefundsCovered decimals db) {statuses : List RefundStatus}
    (hstatuses : ∀ status ∈ statuses, status ∈ reservedRefundStatuses) :
    ∀ a ∈ listedAmounts statuses paymentId db, 0 ≤ a ∧ decimals.Stores a := by
  intro a ha
  obtain ⟨summary, hsummary, rfl⟩ := List.mem_map.mp ha
  obtain ⟨hmem, hstatus⟩ := List.mem_filter.mp hsummary
  obtain ⟨row, hrow, rfl⟩ := List.mem_map.mp ((List.mem_insertionSort _).mp hmem)
  obtain ⟨a, hamount, hnonneg⟩ := h.amounts row.1 row.2 (Db.mem_list.mp hrow).1
    (hstatuses _ (by simpa using hstatus))
  dsimp only
  rw [hamount]
  exact hnonneg

theorem succeeded_reserved : ∀ status ∈ [RefundStatus.succeeded],
    status ∈ reservedRefundStatuses := by decide

/-- What has been refunded is part of what is reserved. -/
theorem RefundsCovered.succeeded_le (h : RefundsCovered decimals db) :
    0 ≤ refundTotal [.succeeded] paymentId db ∧
      refundTotal [.succeeded] paymentId db ≤ refundTotal reservedRefundStatuses paymentId db := by
  constructor
  · rw [← sum_listedAmounts]
    exact List.sum_nonneg fun a ha => (h.listed succeeded_reserved a ha).1
  · rw [refundTotal, refundTotal, Db.sumOver_eq_sum, Db.sumOver_eq_sum]
    refine Finset.sum_le_sum fun refundId _ => ?_
    cases hrefund : db.get (.refund, refundId) with
    | none => exact le_rfl
    | some refund =>
      simp only [Option.elim_some]
      by_cases hstatus : refund.status = .succeeded
      · simp [refundShare, isRefundOf, hstatus, reservedRefundStatuses]
      · rw [refundShare_of_status (by simpa using hstatus)]
        exact h.share_nonneg hrefund paymentId

theorem RefundsBalanced.payment (h : RefundsBalanced decimals db) {payment : Payment}
    (hpayment : db.get (.payment, paymentId) = some payment) :
    payment.Balanced paymentId db := by
  have hrefunded := h.balanced.balanced paymentId payment hpayment
  have hcovered := h.covered.covered paymentId payment hpayment
  obtain ⟨hnonneg, hle⟩ := @RefundsCovered.succeeded_le _ _ paymentId h.covered
  refine ⟨hrefunded.symm, ?_, ?_, hcovered, h.statuses paymentId payment hpayment⟩
  · rw [← hrefunded]
    exact hnonneg
  · rw [← hrefunded]
    exact hle.trans hcovered

end Balanced

/-! ## What is not rounded -/

/-- The amount that is asked for is stored as more than nothing, and nothing is rounded when what is
left of the payment is computed. -/
structure RequestExact (decimals : DecimalRuntime) (call : RefundCall) (db : Store) : Prop where
  positive : ∀ amount ∈ decimals.newDecimal call.input.amount,
    amount.lessThanOrEqualTo (.finite 0) = false → decimals.column amount ≠ some (.finite 0)
  number : decimals.newDecimal call.input.amount = some .nan → decimals.column .nan = none
  totals : Decimal.TotalsKept decimals.round
    (listedAmounts reservedRefundStatuses call.input.paymentId db)
  balance : ∀ payment ∈ db.get (.payment, call.input.paymentId),
    decimals.round (payment.amount -
        (listedAmounts reservedRefundStatuses call.input.paymentId db).sum) =
      payment.amount - (listedAmounts reservedRefundStatuses call.input.paymentId db).sum

instance (decimals : DecimalRuntime) (call : RefundCall) (db : Store) :
    Decidable (RequestExact decimals call db) :=
  decidable_of_iff ((∀ amount ∈ decimals.newDecimal call.input.amount,
      amount.lessThanOrEqualTo (.finite 0) = false → decimals.column amount ≠ some (.finite 0)) ∧
      (decimals.newDecimal _ = some .nan → decimals.column .nan = none) ∧
      Decimal.TotalsKept decimals.round _ ∧ (∀ payment ∈ db.get (.payment, _), _ = _))
    ⟨fun ⟨h₁, h₂, h₃, h₄⟩ => ⟨h₁, h₂, h₃, h₄⟩, fun ⟨h₁, h₂, h₃, h₄⟩ => ⟨h₁, h₂, h₃, h₄⟩⟩

/-- An open refund can succeed without a running total of those that have being rounded. -/
def SuccessExact (decimals : DecimalRuntime) (refundId : Id) (db : Store) : Prop :=
  ∀ refund ∈ db.get (.refund, refundId), refund.status ∈ finalizableRefundStatuses →
    Decimal.TotalsKept decimals.round (listedAmounts [.succeeded] refund.paymentId
      (db.put ⟨.refund, refundId, some { refund with status := .succeeded }⟩))

instance (decimals : DecimalRuntime) (refundId : Id) (db : Store) :
    Decidable (SuccessExact decimals refundId db) :=
  inferInstanceAs (Decidable (∀ refund ∈ db.get (.refund, refundId), _ → _))

/-- The operation loses nothing of the amounts it has to do with. -/
structure RefundOperation.Exact (decimals : DecimalRuntime) (operation : RefundOperation)
    (db : Store) : Prop where
  request : ∀ call, operation = .request call → Refundable call.input.paymentId db →
    RequestExact decimals call db
  success : ∀ refundId ∈ operation.succeeds decimals db, SuccessExact decimals refundId db

instance (decimals : DecimalRuntime) (operation : RefundOperation) (db : Store) :
    Decidable (operation.Exact decimals db) :=
  match operation with
  | .request call => decidable_of_iff
      ((Refundable call.input.paymentId db → RequestExact decimals call db) ∧
        ∀ refundId ∈ (RefundOperation.request call).succeeds decimals db,
          SuccessExact decimals refundId db)
      ⟨fun ⟨h, hsuccess⟩ => ⟨fun _ hcall => RefundOperation.request.inj hcall ▸ h, hsuccess⟩,
        fun ⟨h, hsuccess⟩ => ⟨h call rfl, hsuccess⟩⟩
  | .finalize action currentUser input => decidable_of_iff
      (∀ refundId ∈ (RefundOperation.finalize action currentUser input).succeeds decimals db,
        SuccessExact decimals refundId db)
      ⟨fun h => ⟨fun _ hcall => (by cases hcall), h⟩, fun h => h.success⟩
  | .processEvent eventId retryTerminal => decidable_of_iff
      (∀ refundId ∈ (RefundOperation.processEvent eventId retryTerminal).succeeds decimals db,
        SuccessExact decimals refundId db)
      ⟨fun h => ⟨fun _ hcall => (by cases hcall), h⟩, fun h => h.success⟩

section Exact

variable {decimals : DecimalRuntime} {operation : RefundOperation} {db db' : Store}
  {ws : List (Write Row)}

/-- What matters of a refund when it is added up. -/
def refundEntry (record : RefundSummaryRecord) : Id × Date × RefundStatus × Decimal :=
  (record.id, record.refund.requestedAt, record.refund.status, record.refund.amount)

/-- The amounts that are added up are told by these. -/
theorem listedAmounts_congr {statuses : List RefundStatus} {paymentId : Id}
    (h : ((db.list .refund (·.paymentId == paymentId)).map fun row => refundEntry ⟨row.1, row.2⟩) =
      (db'.list .refund (·.paymentId == paymentId)).map fun row => refundEntry ⟨row.1, row.2⟩) :
    listedAmounts statuses paymentId db = listedAmounts statuses paymentId db' := by
  have hsorted : ∀ records : List RefundSummaryRecord,
      (records.insertionSort fun left right => requestedAfter left right).map refundEntry =
        (records.map refundEntry).insertionSort fun left right =>
          ((compare right.2.1 left.2.1).then (compare right.1 left.1)) != .gt :=
    fun records => List.map_insertionSort _ _ refundEntry records fun _ _ _ _ => Iff.rfl
  have hentries : ∀ db : Store, (findPaymentRefunds db paymentId).map refundEntry =
      ((db.list .refund (·.paymentId == paymentId)).map fun row =>
        refundEntry ⟨row.1, row.2⟩).insertionSort fun left right =>
          ((compare right.2.1 left.2.1).then (compare right.1 left.1)) != .gt := by
    intro db
    rw [findPaymentRefunds, hsorted, List.map_map]
    rfl
  have hlisted : ∀ db : Store, listedAmounts statuses paymentId db =
      (((findPaymentRefunds db paymentId).map refundEntry).filter fun entry =>
        statuses.contains entry.2.2.1).map fun entry => entry.2.2.2.number.getD 0 := by
    intro db
    rw [listedAmounts, List.filter_map, List.map_map]
    rfl
  rw [hlisted, hlisted, hentries, hentries, h]

theorem listedAmounts_put_congr {refundId : Id} {refund refund' : Refund}
    (hof : refund'.paymentId = refund.paymentId)
    (hentry : refundEntry ⟨refundId, refund'⟩ = refundEntry ⟨refundId, refund⟩)
    (statuses : List RefundStatus) (paymentId : Id) :
    listedAmounts statuses paymentId (db.put ⟨.refund, refundId, some refund'⟩) =
      listedAmounts statuses paymentId (db.put ⟨.refund, refundId, some refund⟩) := by
  refine listedAmounts_congr ?_
  simp only [Db.list, Db.put, Function.update_self, AList.entries_insert, List.map_cons,
    List.filter_cons, hof]
  split
  · rw [List.map_cons, List.map_cons, hentry]
  · rfl

theorem listedAmounts_put_ne {w : Write Row} (h : w.table ≠ .refund) (statuses : List RefundStatus)
    (paymentId : Id) :
    listedAmounts statuses paymentId (db.put w) = listedAmounts statuses paymentId db := by
  rw [listedAmounts, findPaymentRefunds, Db.list_put_ne _ h.symm]
  rfl

/-- What a payment's refunds come to is an amount that the column holds. -/
theorem RefundsCovered.stores_refunded (h : RefundsCovered decimals db)
    (hlawful : decimals.LawfulColumn) {paymentId : Id} {payment : Payment}
    (hpayment : db.get (.payment, paymentId) = some payment) :
    decimals.Stores (listedAmounts [.succeeded] paymentId db).sum := by
  have hsum : (listedAmounts [.succeeded] paymentId db).sum ≤ payment.amount := by
    rw [sum_listedAmounts]
    exact h.succeeded_le.2.trans (h.covered paymentId payment hpayment)
  have hnonneg : 0 ≤ (listedAmounts [.succeeded] paymentId db).sum := by
    rw [sum_listedAmounts]
    exact h.succeeded_le.1
  have hrest := stores_sub_sum hlawful (h.listed succeeded_reserved)
    (h.payments paymentId payment hpayment) hsum
  have hback := hlawful.sub (h.payments paymentId payment hpayment) hrest (sub_nonneg.mpr hsum)
    (sub_le_self _ hnonneg)
  rwa [sub_sub_cancel] at hback

/-- A commit that has read the database itself. -/
def aloneEvent (db : Store) (ws : List (Write Row)) : Event Unit Row where
  call := ()
  reads := [db]
  seen := db
  db := db
  writes := ws
  held _ := False

theorem statusesCurrent_alone : StatusesCurrent (aloneEvent db ws) :=
  fun _ _ _ _ hbefore => congrArg (Option.map fun refund : Refund => refund.status) hbefore

theorem balanceCurrent_alone (hexplains : operation.Explains decimals db ws)
    (hexact : operation.Exact decimals db) :
    BalanceCurrent decimals operation (aloneEvent db ws) := by
  intro call hcall hwritten read hread
  obtain rfl : db = read := Option.some.inj hread
  have hrequest := hexact.request call hcall (hexplains.refundable call hcall hwritten)
  exact ⟨fun row hrow => ⟨row, hrow, rfl, rfl⟩, hrequest.totals, hrequest.balance,
    hrequest.number⟩

theorem totalsCurrent_alone (hlawful : decimals.LawfulColumn)
    (hcommit : RefundCommit decimals operation [db] db db ws)
    (hexplains : operation.Explains decimals db ws) (hexact : operation.Exact decimals db)
    (hcovered : RefundsCovered decimals (db.apply ws)) :
    TotalsCurrent decimals (aloneEvent db ws) := by
  intro w hw htable
  obtain ⟨w', hw', htable', hsucceeds⟩ := hexplains.succeeds ⟨w, hw, htable⟩
  refine ⟨.refl _, ?_⟩
  change Decimal.TotalsKept decimals.round (listedAmounts [.succeeded] w.id (db.apply ws)) ∧
    decimals.Stores (listedAmounts [.succeeded] w.id (db.apply ws)).sum
  change w ∈ ws at hw
  cases hcommit with
  | requested =>
    obtain rfl := List.mem_singleton.mp hw
    cases htable
  | closed =>
    obtain rfl := List.mem_singleton.mp hw
    cases htable
  | beside hws => exact absurd htable (hws w hw).2
  | @succeeded refundId before refund payload record payment refunded hread hopen hrefund hstatus _
      hrecord hrefunded hpayment =>
    obtain rfl : w' = _ := (List.mem_cons.mp hw').resolve_right fun hmem => by
      obtain rfl := List.mem_singleton.mp hmem
      cases htable'
    obtain rfl : w = _ := List.mem_singleton.mp ((List.mem_cons.mp hw).resolve_left fun heq => by
      rw [heq] at htable
      cases htable)
    obtain rfl : refund = before := Option.some.inj (hrefund.symm.trans hread)
    refine ⟨?_, hcovered.stores_refunded hlawful (Db.get_put_self ..)⟩
    have hentry : refundEntry ⟨refundId, refund.transition payload⟩ =
        refundEntry ⟨refundId, { refund with status := .succeeded }⟩ := by
      simp [refundEntry, Refund.transition, hstatus]
    have hlisted : listedAmounts [.succeeded] refund.paymentId
        (db.put ⟨.refund, refundId, some (refund.transition payload)⟩) =
          listedAmounts [.succeeded] refund.paymentId
            (db.put ⟨.refund, refundId, some { refund with status := .succeeded }⟩) :=
      listedAmounts_put_congr (by rfl) hentry _ _
    rw [Db.apply_cons, Db.apply_cons, Db.apply_nil, listedAmounts_put_ne (by simp), hlisted]
    exact hexact.success refundId hsucceeds refund hrefund hopen

/-- A refund that is created is one of more than nothing. -/
theorem RequestExact.pos {call : RefundCall} (h : RequestExact decimals call db)
    (hlawful : decimals.LawfulColumn) {amount stored : Decimal}
    (hamount : parsePositiveAmount decimals call.input.amount = .ok amount)
    (hstored : decimals.column amount = some stored) {b : ℚ} (hb : stored = .finite b) :
    0 < b := by
  subst hb
  obtain ⟨htext, hpositive⟩ := parsePositiveAmount_ok_iff.mp hamount
  obtain ⟨a, rfl⟩ := hlawful.number hstored
  have hnonneg := hlawful.nonneg hstored (Decimal.lessThanOrEqualTo_finite_eq_false.mp hpositive).le
  refine lt_of_le_of_ne hnonneg fun hzero => h.positive _ htext hpositive ?_
  rw [hstored, ← hzero]

/-- Refunds that are not off stay more than nothing. -/
theorem RefundsBalanced.positive_commit (h : RefundsBalanced decimals db)
    (hlawful : decimals.LawfulColumn) (hcommit : RefundCommit decimals operation [db] db db ws)
    (hexplains : operation.Explains decimals db ws) (hexact : operation.Exact decimals db)
    (hcovered : RefundsCovered decimals (db.apply ws)) {refundId : Id} {refund : Refund}
    (hget : (db.apply ws).get (.refund, refundId) = some refund)
    (hreserved : refund.status ∈ reservedRefundStatuses) : 0 < refund.amount.number.getD 0 := by
  rcases Db.get_apply_cases ws .refund refundId db with hkept | ⟨row, hrow, hafter⟩
  · exact h.positive refundId refund (hkept.symm.trans hget) hreserved
  obtain ⟨a, ha, -⟩ := hcovered.amounts refundId refund hget hreserved
  cases hafter.symm.trans hget
  cases hcommit with
  | @requested call payment amount stored hcall _ hamount _ hstored _ =>
    cases List.mem_singleton.mp hrow
    have hrequest := hexact.request call hcall
      (hexplains.refundable call hcall ⟨_, List.mem_singleton_self _, rfl⟩)
    change stored = .finite a at ha
    have hpos := hrequest.pos hlawful hamount hstored ha
    simpa [newRefund, ha] using hpos
  | closed _ _ _ hstatus =>
    cases List.mem_singleton.mp hrow
    rcases hstatus with hstatus | hstatus
    · simp [Refund.transition, hstatus, reservedRefundStatuses] at hreserved
    · simp [Refund.transition, hstatus, reservedRefundStatuses] at hreserved
  | @succeeded _ before refund' _ _ _ _ hread hopen hrefund _ _ _ _ _ =>
    obtain rfl : refund' = before := Option.some.inj (hrefund.symm.trans hread)
    rcases List.mem_cons.mp hrow with heq | hrow
    · cases heq
      exact h.positive refundId refund' hrefund ((by decide : ∀ status ∈ finalizableRefundStatuses,
        status ∈ reservedRefundStatuses) _ hopen)
    · cases List.mem_singleton.mp hrow
  | beside hws => exact absurd rfl (hws _ hrow).1

/-- A payment that a refund has been added up for goes by what it comes to. -/
theorem RefundsBalanced.statuses_commit (h : RefundsBalanced decimals db)
    (hlawful : decimals.LawfulColumn) (hcommit : RefundCommit decimals operation [db] db db ws)
    (htotals : TotalsCurrent decimals (aloneEvent db ws))
    (hcovered : RefundsCovered decimals (db.apply ws)) (hbalanced : LedgerBalanced (db.apply ws))
    {paymentId : Id} {payment : Payment}
    (hget : (db.apply ws).get (.payment, paymentId) = some payment) : payment.StatusExact := by
  rcases Db.get_apply_cases ws .payment paymentId db with hkept | ⟨row, hrow, hafter⟩
  · exact h.statuses paymentId payment (hkept.symm.trans hget)
  have htotal := hbalanced.balanced paymentId payment hget
  have hle := hcovered.succeeded_le.2.trans (hcovered.covered paymentId payment hget)
  obtain ⟨-, hkept, hstores⟩ := htotals ⟨.payment, paymentId, row⟩ hrow rfl
  change Decimal.TotalsKept decimals.round (listedAmounts _ paymentId (db.apply ws)) at hkept
  change decimals.Stores (listedAmounts _ paymentId (db.apply ws)).sum at hstores
  cases hafter.symm.trans hget
  cases hcommit with
  | requested => cases List.mem_singleton.mp hrow
  | closed => cases List.mem_singleton.mp hrow
  | beside hws => exact absurd rfl (hws _ hrow).2
  | @succeeded refundId before refund payload record payment' refunded hread hopen hrefund hstatus _
      hrecord hrefunded hpayment =>
    cases List.mem_singleton.mp ((List.mem_cons.mp hrow).resolve_left fun heq => by cases heq)
    obtain rfl : refund = before := Option.some.inj (hrefund.symm.trans hread)
    rw [Db.apply_cons, Db.apply_cons, Db.apply_nil] at hkept hstores htotal hle
    rw [listedAmounts_put_ne (by simp)] at hkept hstores
    obtain ⟨hsum, hcompute, -⟩ := refunded_eq_refundTotal hlawful hrecord hrefunded hkept hstores
    have hreserved : refund.status ∈ reservedRefundStatuses :=
      (by decide : ∀ status ∈ finalizableRefundStatuses, status ∈ reservedRefundStatuses) _ hopen
    have hamount : record.payment.amount = payment'.amount := by
      obtain ⟨summary, hsummary, rfl⟩ := Option.map_eq_some_iff.mp hrecord
      obtain ⟨-, hget', -⟩ := PaymentsRepository.get_of_findById hsummary
      rw [Db.get_put_ne _ (by simp [Write.key]), hpayment] at hget'
      rw [Option.some.inj hget']
    -- the refund that has succeeded is part of the sum
    have hpos : 0 < refunded := by
      have hput := refundTotal_put [.succeeded] refund.paymentId db refundId
        (refund.transition payload)
      have hold : refundShare [.succeeded] refund.paymentId refund = 0 :=
        refundShare_of_status (fun hmem => absurd (List.mem_singleton.mp hmem)
          ((by decide : ∀ status ∈ finalizableRefundStatuses, status ≠ .succeeded) _ hopen)) _
      have hnew : refundShare [.succeeded] refund.paymentId (refund.transition payload) =
          refund.amount.number.getD 0 := by
        simp [refundShare, isRefundOf, Refund.transition, hstatus]
      have hrest : 0 ≤ refundTotal [.succeeded] refund.paymentId db := h.covered.succeeded_le.1
      have hshare := h.positive refundId refund hrefund hreserved
      rw [hrefund, Option.elim_some, hold, add_zero, hnew] at hput
      rw [hsum, hput]
      linarith
    have hbound : refunded ≤ payment'.amount := htotal.ge.trans hle
    rw [hcompute, hamount]
    refine ⟨?_, ?_⟩
    · dsimp only
      split
      case isTrue hfull =>
        have := Decimal.greaterThanOrEqualTo_finite.mp hfull
        exact iff_of_true rfl ⟨le_antisymm hbound this, by linarith⟩
      case isFalse hpart =>
        refine iff_of_false (by simp) fun hfull => hpart ?_
        exact Decimal.greaterThanOrEqualTo_finite.mpr hfull.1.ge
    · dsimp only
      split
      case isTrue hfull =>
        have := Decimal.greaterThanOrEqualTo_finite.mp hfull
        exact iff_of_false (by simp) fun hpart => absurd hpart.2 (not_lt.mpr this)
      case isFalse hpart =>
        refine iff_of_true rfl ⟨hpos, lt_of_not_ge fun hfull => hpart ?_⟩
        exact Decimal.greaterThanOrEqualTo_finite.mpr hfull

/-- An operation on refunds that is run alone keeps payments and refunds together. -/
theorem RefundsBalanced.commit (h : RefundsBalanced decimals db)
    (hlawful : decimals.LawfulColumn) (hcommit : RefundCommit decimals operation [db] db db ws)
    (hexplains : operation.Explains decimals db ws) (hexact : operation.Exact decimals db) :
    RefundsBalanced decimals (db.apply ws) := by
  have hcovered : RefundsCovered decimals (aloneEvent db ws).result :=
    h.covered.commit hlawful (fun read hread => by
      obtain rfl := List.mem_singleton.mp hread
      exact ⟨h.covered, fun _ => rfl⟩) hcommit statusesCurrent_alone
      (balanceCurrent_alone hexplains hexact)
  have htotals := totalsCurrent_alone hlawful hcommit hexplains hexact hcovered
  have hbalanced : LedgerBalanced (aloneEvent db ws).result :=
    h.balanced.commit hlawful hcommit statusesCurrent_alone htotals
  exact ⟨hbalanced, hcovered, fun refundId refund hget hreserved =>
    h.positive_commit hlawful hcommit hexplains hexact hcovered hget hreserved,
    fun paymentId payment hget =>
      h.statuses_commit hlawful hcommit htotals hcovered hbalanced hget⟩

end Exact

/-! ## Runs -/

/-- A payment that ends has not been refunded before, and is not by that. -/
theorem Payment.StatusExact.transition {payment : Payment} (h : payment.StatusExact)
    {payload : PaymentTransitionInput} (hopen : payment.status ∈ inProgressPaymentStatuses)
    (hterminal : payload.status ∈ terminalPaymentStatuses) :
    (payment.transition payload).StatusExact := by
  have hbefore : payment.status ≠ .refunded ∧ payment.status ≠ .partiallyRefunded :=
    (by decide : ∀ status ∈ inProgressPaymentStatuses,
      status ≠ .refunded ∧ status ≠ .partiallyRefunded) _ hopen
  have hafter : payload.status ≠ .refunded ∧ payload.status ≠ .partiallyRefunded :=
    (by decide : ∀ status ∈ terminalPaymentStatuses,
      status ≠ .refunded ∧ status ≠ .partiallyRefunded) _ hterminal
  exact ⟨iff_of_false hafter.1 fun hfull => hbefore.1 (h.refunded.mpr hfull),
    iff_of_false hafter.2 fun hpart => hbefore.2 (h.partially.mpr hpart)⟩

theorem RefundsBalanced.put_transition {decimals : DecimalRuntime} {db : Store}
    (h : RefundsBalanced decimals db) {paymentId : Id} {payment : Payment}
    {payload : PaymentTransitionInput} (hpayment : db.get (.payment, paymentId) = some payment)
    (hopen : payment.status ∈ inProgressPaymentStatuses)
    (hterminal : payload.status ∈ terminalPaymentStatuses) :
    RefundsBalanced decimals
      (db.put ⟨.payment, paymentId, some (payment.transition payload)⟩) := by
  have hrefund : ∀ id, (db.put ⟨.payment, paymentId, some (payment.transition payload)⟩).get
      (.refund, id) = db.get (.refund, id) := fun id => Db.get_put_ne db (by simp [Write.key])
  have hget : ∀ id row, (db.put ⟨.payment, paymentId, some (payment.transition payload)⟩).get
      (.payment, id) = some row → ∃ before, db.get (.payment, id) = some before ∧
        row.refundedAmount = before.refundedAmount ∧ (before.StatusExact → row.StatusExact) := by
    intro id row hrow
    by_cases hid : id = paymentId
    · subst hid
      cases (Db.get_put_self db ⟨.payment, id, some (payment.transition payload)⟩).symm.trans hrow
      exact ⟨payment, hpayment, rfl, fun hexact => hexact.transition hopen hterminal⟩
    · rw [Db.get_put_ne db fun hkey => hid (Prod.mk.inj hkey).2] at hrow
      exact ⟨row, hrow, rfl, fun hexact => hexact⟩
  refine ⟨⟨fun id refund hrow => ?_, fun id row hrow => ?_⟩, h.covered.put_payment hpayment rfl,
    fun id refund hrow => ?_, fun id row hrow => ?_⟩
  · exact h.balanced.numbers id refund ((hrefund id).symm.trans hrow)
  · obtain ⟨before, hbefore, hrefunded, -⟩ := hget id row hrow
    rw [refundTotal_put_ne (by simp), hrefunded]
    exact h.balanced.balanced id before hbefore
  · exact h.positive id refund ((hrefund id).symm.trans hrow)
  · obtain ⟨before, hbefore, -, hexact⟩ := hget id row hrow
    exact hexact (h.statuses id before hbefore)

/-- The operations on payments and their refunds. -/
inductive PaymentStep
  | transition (action : PaymentAction) (currentUser : AuthenticatedUser)
      (input : PaymentLifecycleInput)
  | processEvent (eventId : Id) (retryTerminal : Bool)
  | refund (operation : RefundOperation)

namespace PaymentStep

def service (decimals : DecimalRuntime) (databaseMessage : Failure → String) :
    PaymentStep → StoreService Unit
  | transition action currentUser input =>
    handlePaymentTransition currentUser input action.config
  | processEvent eventId retryTerminal =>
    paymentProviderEventProcessor.processProviderEvent databaseMessage eventId retryTerminal
  | refund operation => operation.service decimals databaseMessage

def run (decimals : DecimalRuntime) (databaseMessage : Failure → String) (step : PaymentStep)
    (db : Store) : Store := ((step.service decimals databaseMessage).run db).2

/-- What is asked of a step that is one of refunds. -/
def Exact (decimals : DecimalRuntime) (step : PaymentStep) (db : Store) : Prop :=
  ∀ operation, step = .refund operation → operation.Exact decimals db

end PaymentStep

section Runs

variable {decimals : DecimalRuntime} {databaseMessage : Failure → String} {db db' : Store}

theorem RefundsBalanced.of_transitionsAlone (h : RefundsBalanced decimals db)
    (halone : TransitionsAlone db db') : RefundsBalanced decimals db' := by
  rcases halone with hsame | ⟨paymentId, payment, payload, hpayment, hopen, hterminal, hsame⟩
  · exact h.congr hsame
  · exact (h.put_transition hpayment hopen hterminal).congr hsame

theorem RefundsBalanced.step (hlawful : decimals.LawfulColumn) (h : RefundsBalanced decimals db)
    (step : PaymentStep) (hexact : step.Exact decimals db) :
    RefundsBalanced decimals (step.run decimals databaseMessage db) := by
  cases step with
  | transition action currentUser input =>
    have hterminal : action.config.targetStatus ∈ terminalPaymentStatuses := by
      cases action <;> decide
    exact h.of_transitionsAlone (handlePaymentTransition_alone hterminal currentUser input db).run
  | processEvent eventId retryTerminal =>
    exact h.of_transitionsAlone (processPaymentEvent_alone eventId retryTerminal).run
  | refund operation =>
    obtain ⟨ws, hcommit, hexplains, hsame⟩ := operation.alone.run
    exact (h.commit hlawful hcommit hexplains (hexact operation rfl)).congr hsame

/-- In every state of a run of operations one after the other, each payment goes with its refunds,
as long as no amount that is asked for is stored as nothing and nothing is rounded when refunds are
added up or taken off. -/
theorem refunds_balanced (hlawful : decimals.LawfulColumn) (hstart : RefundsBalanced decimals db)
    (steps : List PaymentStep)
    (hexact : MeetAll (PaymentStep.run decimals databaseMessage) (PaymentStep.Exact decimals)
      steps db) :
    Always (PaymentStep.run decimals databaseMessage) (fun db => ∀ paymentId payment,
      db.get (.payment, paymentId) = some payment → payment.Balanced paymentId db) steps db := by
  have hbalanced : Always (PaymentStep.run decimals databaseMessage) (RefundsBalanced decimals)
      steps db :=
    always_of_meetAll (J := fun _ => True) (fun _ _ _ (_ : True) => True.intro)
      (fun step _ _ _ h hok => h.step hlawful step hok) steps True.intro hstart
      (.of_forall (fun _ _ => True.intro) steps db) hexact
  exact Always.mono (fun _ h _ _ hpayment => RefundsBalanced.payment h hpayment) steps hbalanced

theorem refundsBalanced_openRefundsShop : RefundsBalanced sampleDecimals openRefundsShop := by
  have hrefunds : ∀ row ∈ openRefundsShop.list .refund fun _ => true,
      0 < row.2.amount.number.getD 0 ∧ row.2.amount = .finite (row.2.amount.number.getD 0) ∧
        sampleDecimals.Stores (row.2.amount.number.getD 0) := by decide +kernel
  have hpayments : ∀ row ∈ openRefundsShop.list .payment fun _ => true,
      sampleDecimals.Stores row.2.amount ∧
        refundTotal reservedRefundStatuses row.1 openRefundsShop ≤ row.2.amount ∧
        row.2.status = .succeeded ∧ row.2.refundedAmount = 0 ∧ row.2.amount = 4900 := by
    decide +kernel
  have hpayment : ∀ {id : Id} {payment : Payment},
      openRefundsShop.get (.payment, id) = some payment → _ :=
    fun {id payment} hget => hpayments (id, payment) (Db.mem_list.mpr ⟨hget, rfl⟩)
  have hrefund : ∀ {id : Id} {refund : Refund},
      openRefundsShop.get (.refund, id) = some refund → _ :=
    fun {id refund} hget => hrefunds (id, refund) (Db.mem_list.mpr ⟨hget, rfl⟩)
  refine ⟨ledgerBalanced_openRefundsShop, ⟨fun id refund hget _ => ?_,
    fun id payment hget => (hpayment hget).1, fun id payment hget => (hpayment hget).2.1⟩,
    fun id refund hget _ => (hrefund hget).1, fun id payment hget => ?_⟩
  · obtain ⟨hpos, hfinite, hstores⟩ := hrefund hget
    exact ⟨_, hfinite, hpos.le, hstores⟩
  · obtain ⟨-, -, hstatus, hrefunded, hamount⟩ := hpayment hget
    dsimp only at hstatus hrefunded hamount
    constructor <;> rw [hstatus, hrefunded] <;> simp [hamount]

/-- A refund is asked for, and succeeds. -/
def refundSteps (text : String) : List PaymentStep :=
  [.refund (.request { refundOf text with refundId := 3 }),
    .refund (.finalize .succeed teaAdmin { refundId := 3 })]

/-- An amount that is more than nothing, and that the column holds as nothing, leaves a payment that
is refunded in part and of which nothing has been refunded. -/
theorem nothing_refunded : RefundsBalanced sampleDecimals openRefundsShop ∧
    sampleDecimals.newDecimal "1e-31" = some (.finite (1 / 10 ^ 31)) ∧ ∃ payment,
      (runAll (PaymentStep.run sampleDecimals fun _ => "") (refundSteps "1e-31")
        openRefundsShop).get (.payment, 1) = some payment ∧
      ¬ payment.Balanced 1 (runAll (PaymentStep.run sampleDecimals fun _ => "")
        (refundSteps "1e-31") openRefundsShop) := by
  have hrun : ((runAll (PaymentStep.run sampleDecimals fun _ => "") (refundSteps "1e-31")
      openRefundsShop).get (.payment, 1)).any (fun payment =>
        payment.status == .partiallyRefunded && payment.refundedAmount == 0) = true := by
    decide +kernel
  obtain ⟨payment, hget, hend⟩ := (Option.any_eq_true _ _).mp hrun
  rw [Bool.and_eq_true] at hend
  refine ⟨refundsBalanced_openRefundsShop, by decide +kernel, payment, hget, fun h => ?_⟩
  have hpos := (h.status.partially.mp (beq_iff_eq.mp hend.1)).1
  rw [beq_iff_eq.mp hend.2] at hpos
  exact lt_irrefl _ hpos

/-- One refund succeeds and one fails, and what is left then is refunded as well. -/
theorem refunds_balanced_openRefundsShop :
    Always (PaymentStep.run sampleDecimals fun _ => "") (fun db => ∀ paymentId payment,
      db.get (.payment, paymentId) = some payment → payment.Balanced paymentId db)
      ([.refund (.finalize .succeed teaAdmin { refundId := 1 }),
        .refund (.finalize .fail teaAdmin { refundId := 2 })] ++ refundSteps "4000")
      openRefundsShop ∧
    ((runAll (PaymentStep.run sampleDecimals fun _ => "")
      ([.refund (.finalize .succeed teaAdmin { refundId := 1 }),
        .refund (.finalize .fail teaAdmin { refundId := 2 })] ++ refundSteps "4000")
      openRefundsShop).get (.payment, 1)).map (·.status) = some .refunded := by
  refine ⟨refunds_balanced (lawfulColumn_of_decimal65_30 rfl) refundsBalanced_openRefundsShop _ ?_,
    by decide +kernel⟩
  have hexact : ∀ {operation : RefundOperation} {db : Store},
      operation.Exact sampleDecimals db →
        (PaymentStep.refund operation).Exact sampleDecimals db := by
    rintro operation db h _ ⟨⟩
    exact h
  exact ⟨hexact (by decide +kernel), hexact (by decide +kernel), hexact (by decide +kernel),
    hexact (by decide +kernel), True.intro⟩

end Runs

end WerTe
