import WerTe.ProviderEvents
import WerTe.ReadCommitted.Faults
import WerTe.RefundAmounts

/-!
# What the operations on refunds commit

A refund is asked for, and ends, in the name of an administrator or of a provider. What such an
operation decides on is read before its transaction: what is left of the payment, and whether the
refund is open. `RefundCommit` says what is committed then, whatever has been committed since, and
`RefundOperation.guarantees` that nothing else is.
-/

namespace WerTe

open ReadCommitted Tx Numeral RefundsRepository PaymentsRepository RefundOperations
open RefundProviderEventProcessor (RefundLifecycleAction)

/-! ## The operations -/

def RefundProviderEventProcessor.RefundLifecycleAction.config :
    RefundLifecycleAction → FinalizeRefundConfig
  | .succeed => succeedRefundConfig
  | .fail => failRefundConfig
  | .cancel => cancelRefundConfig

/-- The operations that create refunds or end them. -/
inductive RefundOperation
  | request (call : RefundCall)
  | finalize (action : RefundLifecycleAction) (currentUser : AuthenticatedUser)
      (input : FinalizeRefundInput)
  | processEvent (eventId : Id) (retryTerminal : Bool)

def RefundOperation.service (decimals : DecimalRuntime) (databaseMessage : Failure → String) :
    RefundOperation → StoreService Unit
  | request call => (requestCurrentAdminRefund decimals call).bind fun _ => .ret ()
  | finalize action currentUser input =>
    finalizeCurrentAdminRefund decimals currentUser input action.config
  | processEvent eventId retryTerminal =>
    (refundProviderEventProcessor decimals).processProviderEvent databaseMessage eventId
      retryTerminal

/-! ## The commits -/

/-- The refund as the operation has last read it. -/
def refundRead (reads : List Store) (refundId : Id) : Option Refund :=
  reads.head?.bind fun read => read.get (.refund, refundId)

/-- What an operation on refunds commits to `db`. -/
inductive RefundCommit (decimals : DecimalRuntime) (operation : RefundOperation)
    (reads : List Store) (seen db : Store) : List (Write Row) → Prop
  /-- a refund is created, of an amount that what has been read of the payment covers -/
  | requested {call : RefundCall} {payment : PaymentRefundsRecord} {amount stored : Decimal}
      (hcall : operation = .request call)
      (hread : reads.head?.bind (findByIdWithRefunds · call.input.paymentId) = some payment)
      (hamount : parsePositiveAmount decimals call.input.amount = .ok amount)
      (hcovered : amount.greaterThan (computeAvailableRefundableAmount decimals payment) = false)
      (hstored : decimals.column amount = some stored)
      (hfree : db.get (.refund, call.refundId) = none) :
      RefundCommit decimals operation reads seen db [⟨.refund, call.refundId,
        some (newRefund (refundRequest call.input payment amount) stored call.now)⟩]
  /-- a refund ends without success -/
  | closed {refundId : Id} {before refund : Refund} {payload : RefundTransitionInput}
      (hread : refundRead reads refundId = some before)
      (hopen : before.status ∈ finalizableRefundStatuses)
      (hrefund : db.get (.refund, refundId) = some refund)
      (hstatus : payload.status = .failed ∨ payload.status = .cancelled) :
      RefundCommit decimals operation reads seen db
        [⟨.refund, refundId, some (refund.transition payload)⟩]
  /-- a refund succeeds, and the refunds seen in the transaction are added up -/
  | succeeded {refundId : Id} {before refund : Refund} {payload : RefundTransitionInput}
      {record : PaymentRefundsRecord} {payment : Payment} {refunded : ℚ}
      (hread : refundRead reads refundId = some before)
      (hopen : before.status ∈ finalizableRefundStatuses)
      (hrefund : db.get (.refund, refundId) = some refund)
      (hstatus : payload.status = .succeeded)
      (hseen : seen.get (.refund, refundId) = some refund)
      (hrecord : findByIdWithRefunds
        (seen.put ⟨.refund, refundId, some (refund.transition payload)⟩) refund.paymentId =
          some record)
      (hrefunded : (decimals.column (computeSucceededRefundAmount decimals record)).bind
        Decimal.number = some refunded)
      (hpayment : db.get (.payment, refund.paymentId) = some payment) :
      RefundCommit decimals operation reads seen db
        [⟨.refund, refundId, some (refund.transition payload)⟩,
          ⟨.payment, refund.paymentId, some { payment with
            refundedAmount := refunded
            status := if (computeSucceededRefundAmount decimals record).greaterThanOrEqualTo
              (.finite record.payment.amount) then .refunded else .partiallyRefunded }⟩]
  /-- rows that are neither refunds nor payments -/
  | beside {ws : List (Write Row)} (hws : ∀ w ∈ ws, BesideWrite w) :
      RefundCommit decimals operation reads seen db ws

section Relies

variable {R : Rely Row} {decimals : DecimalRuntime} {operation : RefundOperation}
  {reads : List Store} {seen db db' : Store} {ws : List (Write Row)}

/-- The rows of the writes are as they were. -/
theorem RefundCommit.rely (h : RefundCommit decimals operation reads seen db ws)
    (hrel : R.rel ws db db') : RefundCommit decimals operation reads seen db' ws := by
  have hrow : ∀ w ∈ ws, db.get w.key = db'.get w.key :=
    fun w hw => R.agree hrel w.key (List.mem_map_of_mem hw)
  cases h with
  | requested hcall hread hamount hcovered hstored hfree =>
    exact .requested hcall hread hamount hcovered hstored
      ((hrow _ (List.mem_singleton_self _)).symm.trans hfree)
  | closed hread hopen hrefund hstatus =>
    exact .closed hread hopen ((hrow _ (List.mem_singleton_self _)).symm.trans hrefund) hstatus
  | succeeded hread hopen hrefund hstatus hseen hrecord hrefunded hpayment =>
    exact .succeeded hread hopen ((hrow _ List.mem_cons_self).symm.trans hrefund) hstatus hseen
      hrecord hrefunded
      ((hrow _ (List.mem_cons_of_mem _ (List.mem_singleton_self _))).symm.trans hpayment)
  | beside hws => exact .beside hws

/-- The guarantee of an operation on refunds. -/
abbrev CommitsRefunds (decimals : DecimalRuntime) (operation : RefundOperation)
    (reads : List Store) (seen : Store) (ws : List (Write Row)) (db : Store) : Prop :=
  RefundCommit decimals operation reads seen db ws

theorem commitsRefunds_of_writes {α : Type} {p : StoreService α} (h : p.Writes BesideWrite) :
    p.Guarantees R (CommitsRefunds decimals operation) reads :=
  .mono (fun _ _ _ _ _ hws => .beside hws) p h.guarantees

/-! ## A request -/

theorem createRefundRequest_relies {call : RefundCall} {payment : PaymentRefundsRecord}
    {amount : Decimal}
    (hread : reads.head?.bind (findByIdWithRefunds · call.input.paymentId) = some payment)
    (hamount : parsePositiveAmount decimals call.input.amount = .ok amount)
    (hcovered : amount.greaterThan (computeAvailableRefundableAmount decimals payment) = false) :
    (createRefundRequest decimals call.refundId call.now
      (refundRequest call.input payment amount)).Relies R
        (fun _ => CommitsRefunds decimals (.request call) reads) seen [] db := by
  refine .orFail_bind fun stored hstored => .insertRow_bind fun db₁ _ hviolation => .ret
    fun db₂ hrel => RefundCommit.rely (.requested rfl hread hamount hcovered hstored ?_)
      hrel
  by_contra hsome
  have htaken : ((db₁.apply []).get (.refund, call.refundId)).isSome = true :=
    Option.isSome_iff_ne_none.mpr hsome
  rw [if_pos htaken] at hviolation
  cases hviolation

theorem requestRefundOf_guarantees {call : RefundCall} {payment : PaymentRefundsRecord}
    (hread : reads.head?.bind (findByIdWithRefunds · call.input.paymentId) = some payment) :
    (requestRefundOf decimals call payment).Guarantees R
      (CommitsRefunds decimals (.request call)) reads := by
  refine .ofExcept_bind fun amount hamount => .require_bind fun hcovered =>
    .transaction_bind (fun _ _ _ => createRefundRequest_relies hread hamount hcovered)
      fun refund => .bind_ret ?_
  exact commitsRefunds_of_writes (publishRefundEvent_writes _ _ _)

theorem requestCurrentAdminRefund_guarantees (call : RefundCall) :
    (requestCurrentAdminRefund decimals call).Guarantees R
      (CommitsRefunds decimals (.request call)) reads := by
  refine .require_bind fun _ => .get_bind fun db _ => ?_
  cases call.input.idempotencyKey.bind (RefundsRepository.findByIdempotencyKey db) with
  | some refund => exact .require_bind fun _ => True.intro
  | none =>
    exact .get_bind fun db' _ => .orFail_bind fun payment hfound => .require_bind fun _ =>
      requestRefundOf_guarantees hfound

/-! ## The end of a refund -/

/-- What follows once a refund has been given its status and read again. -/
theorem transitionRefundStatus_bind {α : Type} {refundId : Id} {payload : RefundTransitionInput}
    {next : RefundDetailRecord → StoreTx α} {Post : α → Store → List (Write Row) → Store → Prop}
    (hinv : R.inv db)
    (hnext : ∀ (seen db' : Store) (refund : Refund) (record : RefundDetailRecord), R.inv db' →
      db'.get (.refund, refundId) = some refund → record.refund = refund.transition payload →
      (next record).Relies R Post seen
        [⟨.refund, refundId, some (refund.transition payload)⟩] db') :
    ((transitionRefundStatus refundId payload).bind next).Relies R Post seen [] db := by
  refine .bind _ hinv (.updateExisting_bind hinv fun db₁ refund _ hrefund =>
    .read_bind fun db₂ hrel₂ => ?_)
  have hkept : db₁.get (.refund, refundId) = db₂.get (.refund, refundId) :=
    R.agree hrel₂ _ (List.mem_singleton_self _)
  refine .orFail fun record hfound db₃ hrel₃ => ?_
  have hkept₃ : db₂.get (.refund, refundId) = db₃.get (.refund, refundId) :=
    R.agree hrel₃ _ (List.mem_singleton_self _)
  have hrecord : record.refund = refund.transition payload := by
    simp only [RefundsRepository.findById, Option.bind_eq_bind, Option.bind_eq_some_iff,
      Option.pure_def, Option.some.injEq] at hfound
    obtain ⟨refund', hrefund', payment, -, rfl⟩ := hfound
    exact Option.some.inj (hrefund'.symm.trans (Db.get_put_self ..))
  exact hnext _ db₃ refund record (R.inv_right hrel₃)
    ((hkept.trans hkept₃).symm.trans hrefund) hrecord

/-- The refunds that are added up are those of the database last queried. -/
theorem recordSucceededRefund_relies {refundId : Id} {before refund : Refund}
    {payload : RefundTransitionInput} (hread : refundRead reads refundId = some before)
    (hopen : before.status ∈ finalizableRefundStatuses)
    (hrefund : db.get (.refund, refundId) = some refund) (hstatus : payload.status = .succeeded) :
    (recordSucceededRefund decimals refund.paymentId).Relies R
      (fun _ => CommitsRefunds decimals operation reads) seen
      [⟨.refund, refundId, some (refund.transition payload)⟩] db := by
  refine .read_bind fun db₁ hrel₁ => .orFail_bind fun record hrecord =>
    .orFail_bind fun refunded hrefunded => ?_
  have hkept : ∀ {a b : Store},
      R.rel [⟨.refund, refundId, some (refund.transition payload)⟩] a b →
        a.get (.refund, refundId) = some refund → b.get (.refund, refundId) = some refund :=
    fun hrel ha => (R.agree hrel _ (List.mem_singleton_self _)).symm.trans ha
  refine .of_bind_ret (f := fun u => u) _ (.updateExisting_bind (R.inv_right hrel₁)
    fun db₂ payment hrel₂ hpayment => .ret fun db₃ hrel₃ => ?_)
  have hpayment' : db₂.get (.payment, refund.paymentId) = some payment := by
    rwa [Db.get_apply_of_table (by simp)] at hpayment
  exact RefundCommit.rely (.succeeded hread hopen (hkept hrel₂ (hkept hrel₁ hrefund)) hstatus
    (hkept hrel₁ hrefund) hrecord hrefunded hpayment') hrel₃

theorem finalizeRefund_guarantees (action : RefundLifecycleAction) (input : FinalizeRefundInput) :
    (finalizeRefund decimals input action.config).Guarantees R (CommitsRefunds decimals operation)
      reads := by
  refine .get_bind fun db hinv => .orFail_bind fun current hcurrent => ?_
  split
  · exact True.intro
  refine .require_bind fun hopen => .transaction fun seen db₁ hinv₁ =>
    transitionRefundStatus_bind hinv₁ fun seen db₂ refund record _ hrefund hrecord => ?_
  have hread : refundRead (db :: reads) input.refundId = some current.refund := by
    simp only [RefundsRepository.findById, Option.bind_eq_bind, Option.bind_eq_some_iff,
      Option.pure_def, Option.some.injEq] at hcurrent
    obtain ⟨refund, hrefund, payment, -, rfl⟩ := hcurrent
    exact hrefund
  have hopen' : current.refund.status ∈ finalizableRefundStatuses := by simpa using hopen
  have hpaymentId : record.refund.paymentId = refund.paymentId := by rw [hrecord]; rfl
  split
  case isTrue hsucceeds =>
    rw [hpaymentId]
    exact recordSucceededRefund_relies hread hopen' hrefund hsucceeds
  case isFalse hends =>
    refine .ret fun db₃ hrel => RefundCommit.rely (.closed hread hopen' hrefund ?_) hrel
    cases action with
    | succeed => exact absurd rfl hends
    | fail => exact .inl rfl
    | cancel => exact .inr rfl

theorem finalizeCurrentAdminRefund_guarantees (action : RefundLifecycleAction)
    (currentUser : AuthenticatedUser) (input : FinalizeRefundInput) :
    (finalizeCurrentAdminRefund decimals currentUser input action.config).Guarantees R
      (CommitsRefunds decimals operation) reads :=
  .require_bind fun _ => finalizeRefund_guarantees action input

/-! ## Events -/

section Events

variable {Ids Status Target Action : Type}
  {processor : ProviderEventProcessor Ids Status Target Action} {databaseMessage : Failure → String}

/-- Processing an event commits what the action commits that it calls for, and marks. -/
theorem ProviderEventProcessor.processProviderEvent_guarantees
    {Q : List Store → Store → List (Write Row) → Store → Prop} {eventId : Id}
    (hmark : ∀ payload reads,
      (Service.transaction (processor.updateEvent eventId payload)).Guarantees R Q reads)
    (haction : ∀ event target action reads,
      (processor.applyLifecycleAction event target action).Guarantees R Q reads)
    (retryTerminal : Bool) (reads : List Store) :
    (processor.processProviderEvent databaseMessage eventId retryTerminal).Guarantees R Q
      reads := by
  refine .get_bind fun db _ => .orFail_bind fun event _ => ?_
  split
  · exact True.intro
  split
  · exact hmark _ _
  cases processor.resolveLifecycleAction event.normalizedStatus with
  | none => exact hmark _ _
  | some action =>
    refine .get_bind fun db' _ => ?_
    cases processor.resolveTarget db' event with
    | none => exact hmark _ _
    | some target =>
      dsimp only
      split
      · exact hmark _ _
      · refine .bind (fun outcome reads => ?_) (haction event target action _).attempt
        cases outcome with
        | ok u => exact .get_bind fun _ _ => hmark _ _
        | error e =>
          refine .bind (fun _ _ => ?_) (hmark _ _)
          exact True.intro

end Events

/-- An operation on refunds commits nothing else, whatever commits beside it. -/
theorem RefundOperation.guarantees {databaseMessage : Failure → String}
    (operation : RefundOperation) :
    (operation.service decimals databaseMessage).Guarantees R (CommitsRefunds decimals operation)
      reads := by
  cases operation with
  | request call => exact .bind_ret (requestCurrentAdminRefund_guarantees call)
  | finalize action currentUser input =>
    exact finalizeCurrentAdminRefund_guarantees action currentUser input
  | processEvent eventId retryTerminal =>
    refine ProviderEventProcessor.processProviderEvent_guarantees (fun payload reads => ?_)
      (fun event target action reads => ?_) retryTerminal reads
    · exact commitsRefunds_of_writes (.transaction (.updateExisting fun _ => by
        simp [BesideWrite]))
    · cases action with
      | succeed => exact finalizeCurrentAdminRefund_guarantees .succeed _ _
      | fail => exact finalizeCurrentAdminRefund_guarantees .fail _ _
      | cancel => exact finalizeCurrentAdminRefund_guarantees .cancel _ _

end Relies

end WerTe
