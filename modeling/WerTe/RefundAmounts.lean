import WerTe.Refunds

/-!
# The amount of a refund

A refund is created when its amount passes two guards, both of which only reject: it must not be
zero or less, and it must not exceed what is left of the payment. That a created refund is of the
amount that was asked for, and that the amount is due, follows only for amounts on which the guards
and the column are exact (`amount_check_exact_iff`).

* a text that is read as no number passes both guards (`guardsExact_nan`)
* sums and differences are rounded, so what is left may be off by what rounding took
* the column rounds, so the amount that is stored may be another

Where nothing is rounded and what is no number is not taken, the check is exact
(`guardsExact_of_exact`).
-/

namespace WerTe

open ReadCommitted Numeral RefundsRepository PaymentsRepository RefundOperations

/-! ## What is due -/

/-- What the refunds of the payment reserve of it. -/
def reservedAmounts (payment : PaymentRefundsRecord) : List Decimal :=
  (payment.refunds.filter fun record =>
    reservedRefundStatuses.contains record.refund.status).map (·.refund.amount)

/-- What is left of the payment, if all that is reserved of it are numbers. -/
def refundableBalance (payment : PaymentRefundsRecord) : Option ℚ :=
  ((reservedAmounts payment).mapM Decimal.number).map (payment.payment.amount - ·.sum)

/-- The value is a positive number that what is left of the payment covers. -/
def Due (payment : PaymentRefundsRecord) (amount : Decimal) : Prop :=
  ∃ a balance, amount = .finite a ∧ refundableBalance payment = some balance ∧ 0 < a ∧ a ≤ balance

/-- The call creates its refund, of this amount, and no other refund is changed. -/
structure Creates (call : RefundCall) (amount : Decimal) (db db' : Store) : Prop where
  unused : db.get (.refund, call.refundId) = none
  created : ∃ refund, db'.get (.refund, call.refundId) = some refund ∧
    refund.paymentId = call.input.paymentId ∧ refund.status = .pending ∧ refund.amount = amount
  others : ∀ refundId, refundId ≠ call.refundId →
    db'.get (.refund, refundId) = db.get (.refund, refundId)

/-- A refund is created when the text denotes an amount that is due, and is of that amount.
Otherwise the call fails and leaves the store as it was. -/
structure AmountCheckExact (decimals : DecimalRuntime) (call : RefundCall)
    (payment : PaymentRefundsRecord) (db : Store) : Prop where
  due : ∀ amount, decimals.newDecimal call.input.amount = some amount → Due payment amount →
    ∃ record db', (requestCurrentAdminRefund decimals call).run db = (.ok record, db') ∧
      Creates call amount db db'
  undue : (¬ ∃ amount, decimals.newDecimal call.input.amount = some amount ∧ Due payment amount) →
    ∃ e, (requestCurrentAdminRefund decimals call).run db = (.error e, db)

/-! ## What the check accepts -/

/-- The call gets as far as its amount. -/
structure Requestable (db : Store) (call : RefundCall) (payment : PaymentRefundsRecord) :
    Prop where
  admin : hasAdminFinanceAccess call.currentUser = true
  newKey : call.input.idempotencyKey.bind (RefundsRepository.findByIdempotencyKey db) = none
  found : findByIdWithRefunds db call.input.paymentId = some payment
  refundable : refundablePaymentStatuses.contains payment.payment.status = true
  unused : db.get (.refund, call.refundId) = none

/-- The amount passes both guards, and the column takes it as `stored`. -/
structure Accepted (decimals : DecimalRuntime) (payment : PaymentRefundsRecord)
    (amount stored : Decimal) : Prop where
  positive : amount.lessThanOrEqualTo (.finite 0) = false
  covered : amount.greaterThan (computeAvailableRefundableAmount decimals payment) = false
  column : decimals.column amount = some stored

/-- On this text the guards and the column are exact: they let through, as it is, what is due, and
stop everything else. -/
structure GuardsExact (decimals : DecimalRuntime) (payment : PaymentRefundsRecord)
    (text : String) : Prop where
  due : ∀ amount, decimals.newDecimal text = some amount → Due payment amount →
    amount.greaterThan (computeAvailableRefundableAmount decimals payment) = false ∧
      decimals.column amount = some amount
  undue : ∀ amount, decimals.newDecimal text = some amount → ¬ Due payment amount →
    amount.lessThanOrEqualTo (.finite 0) = false →
      amount.greaterThan (computeAvailableRefundableAmount decimals payment) = false →
        decimals.column amount = none

section Runs

variable {decimals : DecimalRuntime} {call : RefundCall} {payment : PaymentRefundsRecord}
  {db : Store}

theorem parsePositiveAmount_ok_iff {value : String} {amount : Decimal} :
    parsePositiveAmount decimals value = .ok amount ↔
      decimals.newDecimal value = some amount ∧ amount.lessThanOrEqualTo (.finite 0) = false := by
  unfold parsePositiveAmount
  rcases decimals.newDecimal value with _ | amount'
  · simp
  · cases hle : amount'.lessThanOrEqualTo (.finite 0) with
    | true =>
      simp only [hle, if_true, reduceCtorEq, Option.some.injEq, false_iff, not_and]
      rintro rfl
      simp [hle]
    | false =>
      simp only [hle, Bool.false_eq_true, if_false, Except.ok.injEq, Option.some.injEq]
      constructor
      · rintro rfl
        exact ⟨rfl, hle⟩
      · exact fun h => h.1

/-- What comes before the amount is passed. -/
theorem Requestable.ends (h : Requestable db call payment)
    {Q : Except Failure RefundSummaryRecord → Store → Prop}
    (hrest : (requestRefundOf decimals call payment).Ends db Q) :
    (requestCurrentAdminRefund decimals call).Ends db Q := by
  refine .require_bind (fun _ => .get_bind ?_) fun hnot => absurd h.admin hnot
  rw [h.newKey]
  refine .get_bind (.orFail_bind (fun payment' hfound => ?_) fun hnone => ?_)
  · cases hfound.symm.trans h.found
    exact .require_bind (fun _ => hrest) fun hnot => absurd h.refundable hnot
  · cases hnone.symm.trans h.found

theorem Requestable.payment_id (h : Requestable db call payment) :
    payment.id = call.input.paymentId := by
  have hfound := h.found
  simp only [findByIdWithRefunds, Option.map_eq_some_iff] at hfound
  obtain ⟨record, hrecord, rfl⟩ := hfound
  exact (get_of_findById hrecord).1

/-- The refund is inserted under its own id and key. -/
theorem createRefundRequest_run {payload : CreateRefundInput} {refundId : Id} {now : Date}
    {stored : Decimal} (hcolumn : decimals.column payload.amount = some stored)
    (hunused : db.get (.refund, refundId) = none)
    (hkey : payload.idempotencyKey.bind (RefundsRepository.findByIdempotencyKey db) = none) :
    (createRefundRequest decimals refundId now payload).run db =
      .ok (⟨refundId, newRefund payload stored now⟩,
        db.put ⟨.refund, refundId, some (newRefund payload stored now)⟩) := by
  simp [createRefundRequest, hcolumn, Tx.orFail, Tx.bind, Tx.insertRow, Tx.attempt, Tx.run, hunused,
    hkey]

theorem createRefundRequest_refused {payload : CreateRefundInput} {refundId : Id} {now : Date}
    (hcolumn : decimals.column payload.amount = none) :
    (createRefundRequest decimals refundId now payload).run db =
      .error (.invalidArgument "amount") := by
  simp [createRefundRequest, hcolumn, Tx.orFail, Tx.bind]

/-! ## The event of a refund writes no refund -/

/-- The row is neither a refund nor a payment. -/
def BesideWrite (w : Write Row) : Prop := w.table ≠ .refund ∧ w.table ≠ .payment

theorem resolve_writes (orderId : Id) (type : ConversationType) (title : String)
    (participants : List ConversationParticipantSpec) (now : Date) :
    (ConversationRepository.resolve orderId type title participants now).Writes BesideWrite := by
  have hjoin : ∀ (conversationId : Id) (specs : List ConversationParticipantSpec),
      (ConversationRepository.upsertParticipants conversationId now specs).Writes BesideWrite := by
    intro conversationId specs
    induction specs with
    | nil => exact .ret ()
    | cons spec specs ih => exact .bind (.update (by simp [BesideWrite])) fun _ => ih
  refine .bind (.update (by simp [BesideWrite])) fun _ => .bind (hjoin _ _) fun _ =>
    .bind .read fun found => ?_
  cases found <;> exact True.intro

theorem create_writes (messageId : Id) (now : Date) (payload : CreateMessageInput) :
    (MessageRepository.create messageId now payload).Writes BesideWrite :=
  .bind (.insertRow (by simp [BesideWrite])) fun _ =>
    .bind (.updateExisting fun _ => by simp [BesideWrite]) fun _ => .ret _

theorem notifications_writes (now : Date) (event : NotificationEventService.OrderEvent)
    (userIds : List Id) :
    (NotificationEventService.publishOrderEvent now event userIds).Writes BesideWrite := by
  induction userIds with
  | nil => exact .ret ()
  | cons userId userIds ih =>
    refine .bind (.transaction (.update (by simp [BesideWrite]))) fun _ => .bind ?_ fun _ => ih
    exact .bind (.transaction (.update (by simp [BesideWrite]))) fun _ =>
      .transaction (.update (by simp [BesideWrite]))

theorem publishOrderEventOrThrow_writes (messageId : Id) (now : Date)
    (currentUser : AuthenticatedUser) (input : SystemMessageService.PublishOrderEventInput) :
    (SystemMessageService.publishOrderEventOrThrow messageId now currentUser input).Writes
      BesideWrite := by
  refine .bind (.get _) fun order => ?_
  rcases SystemMessageService.eventParticipants currentUser order with _ | ⟨order, participants⟩
  · exact .ret ()
  · exact .bind (.transaction (resolve_writes _ _ _ _ _)) fun _ =>
      .bind (.transaction (create_writes _ _ _)) fun _ => notifications_writes _ _ _

theorem publishRefundEvent_writes (call : RefundCall) (code : SystemMessageCode)
    (refund : RefundSummaryRecord) : (publishRefundEvent call code refund).Writes BesideWrite :=
  (publishOrderEventOrThrow_writes _ _ _ _).attempt

theorem publishRefundEvent_run (call : RefundCall) (code : SystemMessageCode)
    (refund : RefundSummaryRecord) (db : Store) :
    ∃ r db', (publishRefundEvent call code refund).run db = (.ok r, db') ∧
      ∀ refundId, db'.get (.refund, refundId) = db.get (.refund, refundId) := by
  refine ⟨_, _, Service.run_attempt _ db, fun refundId => ?_⟩
  refine (publishOrderEventOrThrow_writes _ _ _ _).run (I := fun db' =>
    db'.get (.refund, refundId) = db.get (.refund, refundId)) (fun db' w hkept hw => ?_) rfl
  have hkey : (Tbl.refund, refundId) ≠ w.key := fun heq => hw.1 (congrArg Prod.fst heq).symm
  exact (Db.get_put_ne db' hkey).trans hkept

/-! ## Runs -/

/-- What is accepted is created as the column holds it. -/
theorem request_accepted (h : Requestable db call payment) {amount stored : Decimal}
    (htext : decimals.newDecimal call.input.amount = some amount)
    (haccepted : Accepted decimals payment amount stored) :
    ∃ record db', (requestCurrentAdminRefund decimals call).run db = (.ok record, db') ∧
      Creates call stored db db' := by
  have hends : (requestCurrentAdminRefund decimals call).Ends db fun r db' =>
      ∃ record, r = .ok record ∧ Creates call stored db db' := by
    refine h.ends ?_
    rw [requestRefundOf, parsePositiveAmount_ok_iff.mpr ⟨htext, haccepted.positive⟩]
    refine .bind (.ofExcept (.require_bind (fun _ => ?_) fun hnot => absurd haccepted.covered hnot))
    have hcreate : (createRefundRequest decimals call.refundId call.now
        (refundRequest call.input payment amount)).run db = _ :=
      createRefundRequest_run haccepted.column h.unused h.newKey
    refine .transaction_bind (fun record db₁ hrun => ?_) fun e hrun => ?_
    · cases hrun.symm.trans hcreate
      obtain ⟨r, db', hpublish, hkept⟩ := publishRefundEvent_run call .refundRequested
        ⟨call.refundId, newRefund (refundRequest call.input payment amount) stored call.now⟩
        (db.put ⟨.refund, call.refundId,
          some (newRefund (refundRequest call.input payment amount) stored call.now)⟩)
      refine .bind (.of_run hpublish (.ret ⟨_, rfl, h.unused, ⟨_, (hkept _).trans
        (Db.get_put_self db _), h.payment_id, rfl, rfl⟩, fun refundId hne => ?_⟩))
      exact (hkept refundId).trans (Db.get_put_ne db fun heq => hne (congrArg Prod.snd heq))
    · cases hrun.symm.trans hcreate
  obtain ⟨record, hok, hcreates⟩ := hends.run
  exact ⟨record, _, Prod.ext hok rfl, hcreates⟩

/-- What is not accepted fails, and nothing is written. -/
theorem request_refused (h : Requestable db call payment)
    (hrefused : ∀ amount stored, decimals.newDecimal call.input.amount = some amount →
      ¬ Accepted decimals payment amount stored) :
    ∃ e, (requestCurrentAdminRefund decimals call).run db = (.error e, db) := by
  have hends : (requestCurrentAdminRefund decimals call).Ends db fun r db' =>
      (∃ e, r = .error e) ∧ db' = db := by
    refine h.ends (.bind (.ofExcept ?_))
    rcases hparse : parsePositiveAmount decimals call.input.amount with e | amount
    · exact ⟨⟨e, rfl⟩, rfl⟩
    · obtain ⟨htext, hpositive⟩ := parsePositiveAmount_ok_iff.mp hparse
      refine .require_bind (fun hcovered => ?_) fun _ => ⟨⟨_, rfl⟩, rfl⟩
      have hcolumn : decimals.column amount = none := by
        by_contra hsome
        obtain ⟨stored, hstored⟩ := Option.ne_none_iff_exists'.mp hsome
        exact hrefused amount stored htext ⟨hpositive, hcovered, hstored⟩
      refine .transaction_bind (fun record db₁ hrun => ?_) fun e _ => ⟨⟨e, rfl⟩, rfl⟩
      cases hrun.symm.trans (createRefundRequest_refused hcolumn)
  obtain ⟨⟨e, herror⟩, hsame⟩ := hends.run
  exact ⟨e, Prod.ext herror hsame⟩

end Runs

/-! ## When the check is exact -/

section Exact

variable {decimals : DecimalRuntime} {call : RefundCall} {payment : PaymentRefundsRecord}
  {db : Store} {text : String}

theorem Due.positive {amount : Decimal} (h : Due payment amount) :
    amount.lessThanOrEqualTo (.finite 0) = false := by
  obtain ⟨a, balance, rfl, -, hpositive, -⟩ := h
  exact Decimal.lessThanOrEqualTo_finite_eq_false.mpr hpositive

/-- Only the column can stop what is no number. -/
theorem guardsExact_nan (htext : decimals.newDecimal text = some .nan) :
    GuardsExact decimals payment text ↔ decimals.column .nan = none := by
  have hnot : ¬ Due payment .nan := fun ⟨a, balance, heq, _⟩ => by cases heq
  obtain ⟨hpositive, hcovered⟩ := Decimal.nan_passes (.finite 0)
    (computeAvailableRefundableAmount decimals payment)
  constructor
  · exact fun h => h.undue .nan htext hnot hpositive hcovered
  · intro hcolumn
    refine ⟨fun amount htext' hdue => ?_, fun amount htext' _ _ _ => ?_⟩
    · cases htext.symm.trans htext'
      exact absurd hdue hnot
    · cases htext.symm.trans htext'
      exact hcolumn

theorem refundableBalance_eq_some_iff {balance : ℚ} : refundableBalance payment = some balance ↔
    ∃ amounts : List ℚ, reservedAmounts payment = amounts.map .finite ∧
      payment.payment.amount - amounts.sum = balance := by
  simp only [refundableBalance, Option.map_eq_some_iff, Decimal.mapM_number_eq_some_iff]

theorem computeAvailableRefundableAmount_eq {amounts : List ℚ}
    (hreserved : reservedAmounts payment = amounts.map .finite) :
    computeAvailableRefundableAmount decimals payment = .finite (max 0 (decimals.round
      (payment.payment.amount - Decimal.roundedSum decimals.round amounts))) := by
  have hsum : payment.refunds.foldl (fun (total : Decimal) record =>
      if reservedRefundStatuses.contains record.refund.status then
        total.add decimals.round record.refund.amount
      else total) (.finite 0) = .finite (Decimal.roundedSum decimals.round amounts) := by
    rw [← Decimal.sum_map_finite, ← hreserved, reservedAmounts, Decimal.sum, List.foldl_map,
      List.foldl_filter]
  rw [computeAvailableRefundableAmount, hsum, Decimal.sub_finite]
  by_cases hnegative :
    decimals.round (payment.payment.amount - Decimal.roundedSum decimals.round amounts) < 0
  · simp [hnegative, max_eq_left hnegative.le]
  · simp [hnegative, max_eq_right (not_lt.mp hnegative)]

/-- A number is compared with what is left as it comes out of the rounding. -/
theorem guardsExact_finite_iff {a balance : ℚ} {amounts : List ℚ}
    (htext : decimals.newDecimal text = some (.finite a))
    (hreserved : reservedAmounts payment = amounts.map .finite)
    (hbalance : payment.payment.amount - amounts.sum = balance) :
    GuardsExact decimals payment text ↔
      (0 < a → a ≤ balance → a ≤ decimals.round (payment.payment.amount -
        Decimal.roundedSum decimals.round amounts) ∧
        decimals.column (.finite a) = some (.finite a)) ∧
      (0 < a → balance < a → a ≤ decimals.round (payment.payment.amount -
        Decimal.roundedSum decimals.round amounts) → decimals.column (.finite a) = none) := by
  have hdue : Due payment (.finite a) ↔ 0 < a ∧ a ≤ balance := by
    have hsome := refundableBalance_eq_some_iff.mpr ⟨amounts, hreserved, hbalance⟩
    constructor
    · rintro ⟨a', balance', heq, hsome', hpositive, hle⟩
      cases heq
      cases hsome.symm.trans hsome'
      exact ⟨hpositive, hle⟩
    · exact fun h => ⟨a, balance, rfl, hsome, h⟩
  have hcovered : 0 < a → ((Decimal.finite a).greaterThan
      (computeAvailableRefundableAmount decimals payment) = false ↔
        a ≤ decimals.round (payment.payment.amount -
          Decimal.roundedSum decimals.round amounts)) := by
    intro hpositive
    rw [computeAvailableRefundableAmount_eq hreserved, Decimal.greaterThan_finite_eq_false,
      le_max_iff, or_iff_right (not_le.mpr hpositive)]
  constructor
  · intro hagree
    refine ⟨fun hpositive hle => ?_, fun hpositive hlt hle => ?_⟩
    · obtain ⟨hpasses, hcolumn⟩ := hagree.due _ htext (hdue.mpr ⟨hpositive, hle⟩)
      exact ⟨(hcovered hpositive).mp hpasses, hcolumn⟩
    · exact hagree.undue _ htext (fun h => absurd (hdue.mp h).2 (not_le.mpr hlt))
        (Decimal.lessThanOrEqualTo_finite_eq_false.mpr hpositive) ((hcovered hpositive).mpr hle)
  · rintro ⟨hdues, hundues⟩
    refine ⟨fun amount htext' h => ?_, fun amount htext' hnot hpositive hpasses => ?_⟩
    · cases htext.symm.trans htext'
      obtain ⟨hpositive, hle⟩ := hdue.mp h
      obtain ⟨hrounded, hcolumn⟩ := hdues hpositive hle
      exact ⟨(hcovered hpositive).mpr hrounded, hcolumn⟩
    · cases htext.symm.trans htext'
      have hpositive' := Decimal.lessThanOrEqualTo_finite_eq_false.mp hpositive
      have hlt : balance < a := lt_of_not_ge fun hle => hnot (hdue.mpr ⟨hpositive', hle⟩)
      exact hundues hpositive' hlt ((hcovered hpositive').mp hpasses)

/-- Infinities never come through when all that is reserved are numbers. -/
theorem guardsExact_infinity {negative : Bool} {amounts : List ℚ}
    (htext : decimals.newDecimal text = some (.infinity negative))
    (hreserved : reservedAmounts payment = amounts.map .finite) :
    GuardsExact decimals payment text := by
  refine ⟨fun amount htext' hdue => ?_, fun amount htext' _ hpositive hpasses => ?_⟩
  · cases htext.symm.trans htext'
    obtain ⟨a, balance, heq, -⟩ := hdue
    cases heq
  · cases htext.symm.trans htext'
    rw [computeAvailableRefundableAmount_eq hreserved] at hpasses
    cases negative with
    | true => cases hpositive
    | false => cases hpasses

/-- Where nothing is rounded, and just numbers are reserved and taken, the check is exact. -/
theorem guardsExact_of_exact {amounts : List ℚ} (hround : ∀ a, decimals.round a = a)
    (hcolumn : ∀ a, decimals.column (.finite a) = some (.finite a))
    (hnan : decimals.column .nan = none)
    (hreserved : reservedAmounts payment = amounts.map .finite) :
    GuardsExact decimals payment text := by
  cases htext : decimals.newDecimal text with
  | none =>
    refine ⟨fun amount htext' _ => ?_, fun amount htext' _ _ _ => ?_⟩
    · cases htext.symm.trans htext'
    · cases htext.symm.trans htext'
  | some amount =>
    cases amount with
    | nan => exact (guardsExact_nan htext).mpr hnan
    | infinity negative => exact guardsExact_infinity htext hreserved
    | finite a =>
      refine (guardsExact_finite_iff htext hreserved rfl).mpr ⟨fun _ hle => ?_, fun _ hlt hle => ?_⟩
      · rw [Decimal.roundedSum_of_exact _ hround, hround]
        exact ⟨hle, hcolumn a⟩
      · rw [Decimal.roundedSum_of_exact _ hround, hround] at hle
        exact absurd hle (not_le.mpr hlt)

end Exact

/-! ## A payment of which a part has been refunded -/

/-- A column of type `DECIMAL(65,30)`: thirty digits are kept after the point, halves away from
zero, and thirty-five before it. What is no number is kept too, infinities are not. -/
def decimal65_30 : Decimal → Option Decimal
  | .nan => some .nan
  | .infinity _ => none
  | .finite a =>
    let digits : ℤ :=
      if 0 ≤ a then (a * 10 ^ 30 + 1 / 2).floor else -(-a * 10 ^ 30 + 1 / 2).floor
    if digits.natAbs < 10 ^ 65 then some (.finite (digits / 10 ^ 30)) else none

/-- The library on some texts, and on amounts of few digits, of which it rounds none. -/
def sampleDecimals : DecimalRuntime where
  newDecimal text :=
    [("4000", .finite 4000), ("1e-31", .finite (1 / 10 ^ 31)), ("NaN", .nan)].lookup text
  round a := a
  column := decimal65_30

/-- A payment of 4900, of which 900 have been refunded. -/
def teaPayment : Payment where
  orderId := 1
  customerProfileId := 1
  method := .cashOnDelivery
  provider := .cod
  status := .partiallyRefunded
  amount := 4900
  refundedAmount := 900
  idempotencyKey := some "k"
  providerReference := none
  providerReceiptId := none
  failureCode := none
  failureMessage := none
  attempts := [⟨.cod, .succeeded, none, none, none⟩]

def refundedShop : Store := Db.empty.apply [
  ⟨.order, 1, some { teaOrder with status := .delivered }⟩,
  ⟨.payment, 1, some teaPayment⟩,
  ⟨.refund, 1, some {
    paymentId := 1
    orderId := 1
    status := .succeeded
    amount := .finite 900
    idempotencyKey := none
    providerReference := none
    reasonCode := some "admin_requested_refund"
    note := none
    failureCode := none
    failureMessage := none
    requestedAt := 0
    attempts := [] }⟩]

/-- An administrator asks for a refund of the amount that the text says. -/
def refundOf (text : String) : RefundCall where
  refundId := 2
  messageId := 1
  now := 1
  currentUser := teaAdmin
  input := { paymentId := 1, amount := text }
  metadata _ := "{}"
  body _ := "A refund was requested for order ORD-00000001."

/-- The payment as it is read. -/
def refundedPayment : PaymentRefundsRecord where
  id := 1
  payment := teaPayment
  orderStatus := .delivered
  refunds := findPaymentRefunds refundedShop 1

theorem requestable_refundedShop (text : String) :
    Requestable refundedShop (refundOf text) refundedPayment where
  admin := rfl
  newKey := rfl
  found := by
    have hfound : findByIdWithRefunds refundedShop 1 = some refundedPayment := by decide +kernel
    exact hfound
  refundable := rfl
  unused := rfl

theorem reservedAmounts_refundedPayment :
    reservedAmounts refundedPayment = [(900 : ℚ)].map .finite := by decide +kernel

end WerTe
