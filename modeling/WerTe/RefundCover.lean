import WerTe.RefundLedger

/-!
# No more is refunded than was paid

A request for a refund takes what the other refunds reserve off the payment, as it has read them,
and is let through if what is left covers the amount. Its refund is created later, in a transaction
that does not look at the others again. `refunds_covered` says that the refunds of a payment come to
no more than the payment as long as every request has read all that is reserved by then.
-/

namespace WerTe

open ReadCommitted Numeral RefundsRepository PaymentsRepository RefundOperations

/-! ## What is reserved -/

/-- The refunds that are not off come to no more than their payment, and all are amounts that the
column holds. -/
structure RefundsCovered (decimals : DecimalRuntime) (db : Store) : Prop where
  amounts : ∀ refundId refund, db.get (.refund, refundId) = some refund →
    refund.status ∈ reservedRefundStatuses →
      ∃ a, refund.amount = .finite a ∧ 0 ≤ a ∧ decimals.Stores a
  payments : ∀ paymentId payment, db.get (.payment, paymentId) = some payment →
    decimals.Stores payment.amount
  covered : ∀ paymentId payment, db.get (.payment, paymentId) = some payment →
    refundTotal reservedRefundStatuses paymentId db ≤ payment.amount

def paymentAmountIn (paymentId : Id) (db : Store) : Option ℚ :=
  (db.get (.payment, paymentId)).map (·.amount)

theorem paymentAmountIn_put (db : Store) (paymentId : Id) (payment : Payment) :
    paymentAmountIn paymentId (db.put ⟨.payment, paymentId, some payment⟩) = some payment.amount :=
  congrArg _ (Db.get_put_self db ⟨.payment, paymentId, some payment⟩)

section Covered

variable {decimals : DecimalRuntime} {db : Store}

/-- A share of what is reserved is nothing or more. -/
theorem RefundsCovered.share_nonneg (h : RefundsCovered decimals db) {refundId : Id}
    {refund : Refund} (hrefund : db.get (.refund, refundId) = some refund) (paymentId : Id) :
    0 ≤ refundShare reservedRefundStatuses paymentId refund := by
  rw [refundShare]
  split
  case isTrue his =>
    simp only [isRefundOf, Bool.and_eq_true, List.contains_eq_mem, decide_eq_true_eq] at his
    obtain ⟨a, ha, hnonneg, -⟩ := h.amounts refundId refund hrefund his.2
    rw [ha]
    exact hnonneg
  case isFalse => exact le_rfl

/-- A refund is written, and no payment's refunds come to more than the payment with it. -/
theorem RefundsCovered.put_refund (h : RefundsCovered decimals db) {refundId : Id}
    {refund : Refund} (hamount : refund.status ∈ reservedRefundStatuses →
      ∃ a, refund.amount = .finite a ∧ 0 ≤ a ∧ decimals.Stores a)
    (hcovered : ∀ paymentId payment, db.get (.payment, paymentId) = some payment →
      refundTotal reservedRefundStatuses paymentId db +
          refundShare reservedRefundStatuses paymentId refund ≤
        payment.amount + (db.get (.refund, refundId)).elim 0
          (refundShare reservedRefundStatuses paymentId)) :
    RefundsCovered decimals (db.put ⟨.refund, refundId, some refund⟩) := by
  have hpayment : ∀ paymentId, (db.put ⟨.refund, refundId, some refund⟩).get (.payment, paymentId) =
      db.get (.payment, paymentId) := fun paymentId => Db.get_put_ne db (by simp [Write.key])
  refine ⟨fun id row hget hreserved => ?_, fun paymentId payment hget => ?_,
    fun paymentId payment hget => ?_⟩
  · by_cases hid : id = refundId
    · subst hid
      cases (Db.get_put_self db ⟨.refund, id, some refund⟩).symm.trans hget
      exact hamount hreserved
    · rw [Db.get_put_ne db fun hkey => hid (Prod.mk.inj hkey).2] at hget
      exact h.amounts id row hget hreserved
  · rw [hpayment] at hget
    exact h.payments paymentId payment hget
  · rw [hpayment] at hget
    have hput := refundTotal_put reservedRefundStatuses paymentId db refundId refund
    linarith [hcovered paymentId payment hget]

/-- A payment is written whose amount stays. -/
theorem RefundsCovered.put_payment (h : RefundsCovered decimals db) {paymentId : Id}
    {payment payment' : Payment} (hpayment : db.get (.payment, paymentId) = some payment)
    (hamount : payment'.amount = payment.amount) :
    RefundsCovered decimals (db.put ⟨.payment, paymentId, some payment'⟩) := by
  have hget : ∀ id row,
      (db.put ⟨.payment, paymentId, some payment'⟩).get (.payment, id) = some row →
        ∃ before, db.get (.payment, id) = some before ∧ row.amount = before.amount := by
    intro id row hrow
    by_cases hid : id = paymentId
    · subst hid
      cases (Db.get_put_self db ⟨.payment, id, some payment'⟩).symm.trans hrow
      exact ⟨payment, hpayment, hamount⟩
    · rw [Db.get_put_ne db fun hkey => hid (Prod.mk.inj hkey).2] at hrow
      exact ⟨row, hrow, rfl⟩
  refine ⟨fun id row hrow => ?_, fun id row hrow => ?_, fun id row hrow => ?_⟩
  · rw [Db.get_put_ne db (by simp [Write.key])] at hrow
    exact h.amounts id row hrow
  · obtain ⟨before, hbefore, heq⟩ := hget id row hrow
    rw [heq]
    exact h.payments id before hbefore
  · obtain ⟨before, hbefore, heq⟩ := hget id row hrow
    rw [heq, refundTotal_put_ne (by simp)]
    exact h.covered id before hbefore

theorem RefundsCovered.put_beside (h : RefundsCovered decimals db) {w : Write Row}
    (hw : BesideWrite w) : RefundsCovered decimals (db.put w) := by
  have hget : ∀ k : Key Tbl, k.1 = .refund ∨ k.1 = .payment → (db.put w).get k = db.get k :=
    fun k hk => get_put_beside hw hk
  refine ⟨fun id row hrow => ?_, fun id row hrow => ?_, fun id row hrow => ?_⟩
  · rw [hget _ (.inl rfl)] at hrow
    exact h.amounts id row hrow
  · rw [hget _ (.inr rfl)] at hrow
    exact h.payments id row hrow
  · rw [hget _ (.inr rfl)] at hrow
    rw [refundTotal_put_ne hw.1]
    exact h.covered id row hrow

/-- What is left once amounts are taken off that the column holds, the column holds. -/
theorem stores_sub_sum (hlawful : decimals.LawfulColumn) {amounts : List ℚ}
    (hamounts : ∀ a ∈ amounts, 0 ≤ a ∧ decimals.Stores a) :
    ∀ {total : ℚ}, decimals.Stores total → amounts.sum ≤ total →
      decimals.Stores (total - amounts.sum) := by
  induction amounts with
  | nil =>
    intro total htotal _
    rwa [List.sum_nil, sub_zero]
  | cons a amounts ih =>
    intro total htotal hle
    rw [List.sum_cons] at hle ⊢
    obtain ⟨⟨hnonneg, hstores⟩, hrest⟩ := List.forall_mem_cons.mp hamounts
    have hsum : 0 ≤ amounts.sum := List.sum_nonneg fun b hb => (hrest b hb).1
    rw [← sub_sub]
    exact ih hrest (hlawful.sub htotal hstores hnonneg (by linarith)) (by linarith)

end Covered

/-! ## A request -/

/-- The request knows what it has to when its refund is created in `db`. -/
structure RequestCurrent (decimals : DecimalRuntime) (call : RefundCall) (read db : Store) :
    Prop where
  /-- whatever is reserved has been read as reserved, of the same amount -/
  reserved : ∀ row ∈ db.list .refund (isRefundOf reservedRefundStatuses call.input.paymentId),
    ∃ row' ∈ read.list .refund (isRefundOf reservedRefundStatuses call.input.paymentId),
      row'.1 = row.1 ∧ row'.2.amount = row.2.amount
  /-- nothing is rounded when it is taken off the payment -/
  totals : Decimal.TotalsKept decimals.round
    (listedAmounts reservedRefundStatuses call.input.paymentId read)
  balance : ∀ payment ∈ read.get (.payment, call.input.paymentId),
    decimals.round (payment.amount -
        (listedAmounts reservedRefundStatuses call.input.paymentId read).sum) =
      payment.amount - (listedAmounts reservedRefundStatuses call.input.paymentId read).sum
  /-- what is asked for is a number, unless nothing else would be stored -/
  number : decimals.newDecimal call.input.amount = some .nan → decimals.column .nan = none

instance (decimals : DecimalRuntime) (call : RefundCall) (read db : Store) :
    Decidable (RequestCurrent decimals call read db) :=
  decidable_of_iff ((∀ row ∈ db.list .refund _, ∃ row' ∈ read.list .refund _,
      row'.1 = row.1 ∧ row'.2.amount = row.2.amount) ∧
      Decimal.TotalsKept decimals.round _ ∧ (∀ payment ∈ read.get (.payment, _), _ = _) ∧
      (decimals.newDecimal _ = some .nan → decimals.column .nan = none))
    ⟨fun ⟨h₁, h₂, h₃, h₄⟩ => ⟨h₁, h₂, h₃, h₄⟩, fun ⟨h₁, h₂, h₃, h₄⟩ => ⟨h₁, h₂, h₃, h₄⟩⟩

section Requests

variable {decimals : DecimalRuntime} {call : RefundCall} {read db : Store}

/-- An amount that passes both checks, and that is stored, is stored as no more than what is
left. -/
theorem stored_le_balance (hlawful : decimals.LawfulColumn) {amount stored : Decimal} {balance : ℚ}
    (hamount : parsePositiveAmount decimals call.input.amount = .ok amount)
    (hcovered : amount.greaterThan (.finite balance) = false)
    (hstored : decimals.column amount = some stored) (hbalance : decimals.Stores balance)
    (hnumber : decimals.newDecimal call.input.amount = some .nan → decimals.column .nan = none) :
    ∃ b, stored = .finite b ∧ 0 ≤ b ∧ decimals.Stores b ∧ b ≤ balance := by
  obtain ⟨htext, hpositive⟩ := parsePositiveAmount_ok_iff.mp hamount
  cases amount with
  | nan => cases (hnumber htext).symm.trans hstored
  | infinity negative =>
    cases negative with
    | true => cases hpositive
    | false => cases hcovered
  | finite a =>
    obtain ⟨b, rfl, hb⟩ := hlawful.stores hstored
    exact ⟨b, rfl,
      hlawful.nonneg hstored (Decimal.lessThanOrEqualTo_finite_eq_false.mp hpositive).le, hb,
      hlawful.mono hstored hbalance (Decimal.greaterThan_finite_eq_false.mp hcovered)⟩

/-- What is reserved by now is no more than what has been read as reserved. -/
theorem RequestCurrent.total_le (h : RequestCurrent decimals call read db)
    (hread : RefundsCovered decimals read) :
    refundTotal reservedRefundStatuses call.input.paymentId db ≤
      refundTotal reservedRefundStatuses call.input.paymentId read := by
  refine Db.sumOver_le fun refundId => ?_
  have hzero : 0 ≤ (read.get (.refund, refundId)).elim 0
      (refundShare reservedRefundStatuses call.input.paymentId) := by
    cases hrow : read.get (.refund, refundId) with
    | none => exact le_rfl
    | some refund => exact hread.share_nonneg hrow _
  cases hrow : db.get (.refund, refundId) with
  | none => exact hzero
  | some refund =>
    cases his : isRefundOf reservedRefundStatuses call.input.paymentId refund with
    | false =>
      have hshare : refundShare reservedRefundStatuses call.input.paymentId refund = 0 := by
        simp [refundShare, his]
      rw [Option.elim_some, hshare]
      exact hzero
    | true =>
      obtain ⟨⟨id, refund'⟩, hmem, hid, hamount⟩ :=
        h.reserved (refundId, refund) (Db.mem_list.mpr ⟨hrow, his⟩)
      obtain ⟨hrow', his'⟩ := Db.mem_list.mp hmem
      cases hid
      dsimp only at hamount his'
      rw [hrow']
      simp [refundShare, his, his', hamount]

/-- What is left of the payment, as it is computed, is what is left. -/
theorem RequestCurrent.available (h : RequestCurrent decimals call read db)
    (hread : RefundsCovered decimals read) {payment : PaymentRefundsRecord}
    (hfound : findByIdWithRefunds read call.input.paymentId = some payment) :
    ∃ amounts : List ℚ, (∀ a ∈ amounts, 0 ≤ a ∧ decimals.Stores a) ∧
      amounts.sum = refundTotal reservedRefundStatuses call.input.paymentId read ∧
      amounts.sum ≤ payment.payment.amount ∧
      computeAvailableRefundableAmount decimals payment =
        .finite (payment.payment.amount - amounts.sum) := by
  obtain ⟨record, hrecord, rfl⟩ := Option.map_eq_some_iff.mp hfound
  obtain ⟨-, hpayment, -⟩ := get_of_findById hrecord
  set amounts := listedAmounts reservedRefundStatuses call.input.paymentId read with hlisted
  have hnumbers : ∀ refund ∈ findPaymentRefunds read call.input.paymentId,
      reservedRefundStatuses.contains refund.refund.status = true →
        ∃ a, refund.refund.amount = .finite a ∧ 0 ≤ a ∧ decimals.Stores a := by
    intro summary hsummary hreserved
    obtain ⟨row, hrow, rfl⟩ := List.mem_map.mp ((List.mem_insertionSort _).mp hsummary)
    exact hread.amounts row.1 row.2 (Db.mem_list.mp hrow).1 (by simpa using hreserved)
  have hamounts : amountsOf reservedRefundStatuses
      { record with refunds := findPaymentRefunds read call.input.paymentId } =
        amounts.map .finite := by
    rw [hlisted, listedAmounts, amountsOf, List.map_map]
    refine List.map_congr_left fun summary hsummary => ?_
    obtain ⟨hmem, hreserved⟩ := List.mem_filter.mp hsummary
    obtain ⟨a, ha, -⟩ := hnumbers summary hmem hreserved
    simp [ha]
  have hsum : amounts.sum = refundTotal reservedRefundStatuses call.input.paymentId read :=
    sum_amountsOf hfound hamounts
  have hle : amounts.sum ≤ record.payment.amount := by
    rw [hsum]
    exact hread.covered _ _ hpayment
  refine ⟨amounts, fun a ha => ?_, hsum, hle, ?_⟩
  · obtain ⟨summary, hsummary, rfl⟩ := List.mem_map.mp ha
    obtain ⟨hmem, hreserved⟩ := List.mem_filter.mp hsummary
    obtain ⟨a, ha, hnonneg⟩ := hnumbers summary hmem hreserved
    rw [ha]
    exact hnonneg
  · rw [computeAvailableRefundableAmount_eq hamounts,
      Decimal.roundedSum_of_totalsKept h.totals, h.balance _ hpayment,
      max_eq_right (sub_nonneg.mpr hle)]

/-- The refund of a request that knows what it has to is covered. -/
theorem RefundsCovered.put_requested (hlawful : decimals.LawfulColumn)
    (h : RefundsCovered decimals db) (hread : RefundsCovered decimals read)
    (hsame : ∀ paymentId, paymentAmountIn paymentId read = paymentAmountIn paymentId db)
    (hcurrent : RequestCurrent decimals call read db) {payment : PaymentRefundsRecord}
    {amount stored : Decimal}
    (hfound : findByIdWithRefunds read call.input.paymentId = some payment)
    (hamount : parsePositiveAmount decimals call.input.amount = .ok amount)
    (hcovered : amount.greaterThan (computeAvailableRefundableAmount decimals payment) = false)
    (hstored : decimals.column amount = some stored)
    (hfree : db.get (.refund, call.refundId) = none) :
    RefundsCovered decimals (db.put ⟨.refund, call.refundId,
      some (newRefund (refundRequest call.input payment amount) stored call.now)⟩) := by
  obtain ⟨amounts, hamounts, hsum, hle, havailable⟩ := hcurrent.available hread hfound
  obtain ⟨record, hrecord, rfl⟩ := Option.map_eq_some_iff.mp hfound
  obtain ⟨hid, hpayment, -⟩ := get_of_findById hrecord
  rw [havailable] at hcovered
  obtain ⟨b, rfl, hnonneg, hstores, hbound⟩ := stored_le_balance hlawful hamount hcovered hstored
    (stores_sub_sum hlawful hamounts (hread.payments _ _ hpayment) hle) hcurrent.number
  have hshare : ∀ paymentId, refundShare reservedRefundStatuses paymentId (newRefund
      (refundRequest call.input { record with
        refunds := findPaymentRefunds read call.input.paymentId } amount) (.finite b) call.now) =
      if call.input.paymentId = paymentId then b else 0 := by
    intro paymentId
    simp [refundShare, isRefundOf, newRefund, refundRequest, hid, reservedRefundStatuses]
  refine h.put_refund (fun _ => ⟨b, rfl, hnonneg, hstores⟩) fun paymentId payment' hpayment' => ?_
  rw [hfree, Option.elim_none, add_zero, hshare]
  split
  case isTrue hof =>
    subst hof
    have hsame' := hsame call.input.paymentId
    rw [paymentAmountIn, paymentAmountIn, hpayment, hpayment'] at hsame'
    have htotal := hcurrent.total_le hread
    have hamount' : record.payment.amount = payment'.amount := Option.some.inj hsame'
    linarith
  case isFalse =>
    rw [add_zero]
    exact h.covered paymentId payment' hpayment'

end Requests

/-! ## All commits -/

section Commits

variable {ι : Type} {decimals : DecimalRuntime} {operation : RefundOperation} {e : Event ι Row}

/-- Where a request creates its refund, it knows what it has to. -/
def BalanceCurrent (decimals : DecimalRuntime) (operation : RefundOperation) (e : Event ι Row) :
    Prop :=
  ∀ call, operation = .request call → (∃ w ∈ e.writes, w.table = .refund) →
    ∀ read ∈ e.reads.head?, RequestCurrent decimals call read e.db

instance (decimals : DecimalRuntime) (operation : RefundOperation) (e : Event ι Row) :
    Decidable (BalanceCurrent decimals operation e) :=
  match operation with
  | .request call => decidable_of_iff
      ((∃ w ∈ e.writes, w.table = .refund) →
        ∀ read ∈ e.reads.head?, RequestCurrent decimals call read e.db)
      ⟨fun h _ hcall => RefundOperation.request.inj hcall ▸ h, fun h => h call rfl⟩
  | .finalize .. => .isTrue fun _ hcall => by cases hcall
  | .processEvent .. => .isTrue fun _ hcall => by cases hcall

/-- A commit that is up to date leaves the refunds covered. -/
theorem RefundsCovered.commit (hlawful : decimals.LawfulColumn) (h : RefundsCovered decimals e.db)
    (hreads : ∀ read ∈ e.reads, RefundsCovered decimals read ∧
      ∀ paymentId, paymentAmountIn paymentId read = paymentAmountIn paymentId e.db)
    (hcommit : RefundCommit decimals operation e.reads e.seen e.db e.writes)
    (hstatuses : StatusesCurrent e) (hbalance : BalanceCurrent decimals operation e) :
    RefundsCovered decimals e.result := by
  -- a refund that ends was open, and so reserved
  have hopen : ∀ {refundId : Id} {refund : Refund}, e.db.get (.refund, refundId) = some refund →
      (∃ row, (⟨.refund, refundId, row⟩ : Write Row) ∈ e.writes) →
        refund.status ∈ reservedRefundStatuses := by
    rintro refundId refund hrefund ⟨row, hw⟩
    have hstatus : refundStatusIn refundId e.db = some refund.status := by
      rw [refundStatusIn, hrefund]
      rfl
    rcases hcommit.written hstatuses hw rfl with hnone | ⟨status, hopen, hsome⟩
    · cases hnone.symm.trans hstatus
    · cases hsome.symm.trans hstatus
      exact (by decide : ∀ status ∈ finalizableRefundStatuses, status ∈ reservedRefundStatuses) _
        hopen
  rw [Event.result]
  generalize hws : e.writes = ws at hcommit hopen
  cases hcommit with
  | @requested call payment amount stored hcall hread hamount hcovered hstored hfree =>
    obtain ⟨read, hhead, hfound⟩ := Option.bind_eq_some_iff.mp hread
    have hmem : read ∈ e.reads := List.mem_of_mem_head? hhead
    obtain ⟨hreadCovered, hsame⟩ := hreads read hmem
    have hcurrent := hbalance call hcall ⟨_, by rw [hws]; exact List.mem_singleton_self _, rfl⟩ read
      hhead
    exact h.put_requested hlawful hreadCovered hsame hcurrent hfound hamount hcovered hstored hfree
  | @closed refundId _ refund payload _ _ hrefund hstatus =>
    have hnot : (refund.transition payload).status ∉ reservedRefundStatuses := by
      rcases hstatus with hstatus | hstatus
      · simp [Refund.transition, hstatus, reservedRefundStatuses]
      · simp [Refund.transition, hstatus, reservedRefundStatuses]
    refine h.put_refund (fun hreserved => absurd hreserved hnot)
      fun paymentId payment hpayment => ?_
    rw [refundShare_of_status hnot, add_zero, hrefund, Option.elim_some]
    exact le_add_of_le_of_nonneg (h.covered paymentId payment hpayment)
      (h.share_nonneg hrefund paymentId)
  | @succeeded refundId _ refund payload record payment refunded _ _ hrefund hstatus _ _ _
      hpayment =>
    have hreserved := hopen hrefund ⟨_, List.mem_cons_self⟩
    have hsucceeded : (refund.transition payload).status ∈ reservedRefundStatuses := by
      simp [Refund.transition, hstatus, reservedRefundStatuses]
    have hput : RefundsCovered decimals
        (e.db.put ⟨.refund, refundId, some (refund.transition payload)⟩) := by
      refine h.put_refund (fun _ => h.amounts refundId refund hrefund hreserved)
        fun paymentId payment hpayment => ?_
      have hshare : refundShare reservedRefundStatuses paymentId (refund.transition payload) =
          refundShare reservedRefundStatuses paymentId refund := by
        simp only [refundShare, isRefundOf, List.contains_eq_mem, hsucceeded, hreserved]
        rfl
      rw [hshare, hrefund, Option.elim_some]
      exact add_le_add_left (h.covered paymentId payment hpayment) _
    exact hput.put_payment ((Db.get_put_ne _ (by simp [Write.key])).trans hpayment) rfl
  | beside hbeside => exact Db.apply_keeps (fun db w h hw => h.put_beside hw) ws e.db h hbeside

/-- No operation on refunds changes what was paid. -/
theorem RefundCommit.amount_kept
    (h : RefundCommit decimals operation e.reads e.seen e.db e.writes) (paymentId : Id) :
    paymentAmountIn paymentId e.result = paymentAmountIn paymentId e.db := by
  have hbeside : ∀ ws : List (Write Row), (∀ w ∈ ws, w.table ≠ .payment) →
      paymentAmountIn paymentId (e.db.apply ws) = paymentAmountIn paymentId e.db := by
    intro ws hws
    rw [paymentAmountIn, Db.get_apply_of_table hws, paymentAmountIn]
  rw [Event.result]
  generalize e.writes = ws at h
  cases h with
  | requested => exact hbeside _ (by simp)
  | closed => exact hbeside _ (by simp)
  | @succeeded refundId _ refund payload record payment refunded _ _ _ _ _ _ _ hpayment =>
    rw [Db.apply_cons, Db.apply_cons, Db.apply_nil]
    by_cases hid : paymentId = refund.paymentId
    · subst hid
      rw [paymentAmountIn_put, paymentAmountIn, hpayment]
      rfl
    · rw [paymentAmountIn, Db.get_put_ne _ fun hkey => hid (Prod.mk.inj hkey).2,
        Db.get_put_ne _ (by simp [Write.key]), paymentAmountIn]
  | beside hws => exact hbeside ws fun w hw => (hws w hw).2

end Commits

/-! ## Runs of operations on refunds -/

section Runs

variable {ι : Type} [Fintype ι] [DecidableEq ι] {decimals : DecimalRuntime}
  {databaseMessage : Failure → String} {db₀ : Store} {operations : ι → RefundOperation}

/-- However operations on refunds interleave, the refunds of a payment that are not off come to no
more than the payment, as long as every refund that is written has the status still that was read,
and every request has read all that is reserved when it commits. -/
theorem refunds_covered (hlawful : decimals.LawfulColumn) (hstart : RefundsCovered decimals db₀)
    {m : Machine ι Row Failure Unit} {log : List (Event ι Row)}
    (hrun : Machine.Traced
      (.start db₀ fun i => (operations i).service decimals databaseMessage) log m)
    (hcurrent : ∀ e ∈ log,
      StatusesCurrent e ∧ BalanceCurrent decimals (operations e.call) e) :
    RefundsCovered decimals m.db := by
  obtain ⟨reads, htrace⟩ := hrun
  let I : Store → Prop := fun db => RefundsCovered decimals db ∧
    ∀ paymentId, paymentAmountIn paymentId db = paymentAmountIn paymentId db₀
  have hsound := htrace.sound (R := .rows I) (J := fun _ _ => True)
    (Q := fun i reads seen ws db =>
      CommitsRefunds decimals (operations i) reads seen ws db ∧ ∀ read ∈ reads, I read)
    (fun log e hI _ hok hcommit => ?_) ⟨hstart, fun _ => rfl⟩
    (fun i => .reads_inv _ (by simp) (operations i).guarantees) True.intro hcurrent
  · exact hsound.1.inv.1
  · obtain ⟨hcovered, hamounts⟩ := hI
    refine .rows ⟨hcovered.commit hlawful (fun read hread => ?_) hcommit.1 hok.1 hok.2,
      fun paymentId => (hcommit.1.amount_kept paymentId).trans (hamounts paymentId)⟩ True.intro
    obtain ⟨hreadCovered, hreadAmounts⟩ := hcommit.2 read hread
    exact ⟨hreadCovered, fun paymentId =>
      (hreadAmounts paymentId).trans (hamounts paymentId).symm⟩

theorem refundsCovered_refundedShop : RefundsCovered sampleDecimals refundedShop := by
  have hrefunds : ∀ row ∈ refundedShop.list .refund fun _ => true,
      row.2.amount = .finite 900 := by decide +kernel
  have hpayments : ∀ row ∈ refundedShop.list .payment fun _ => true,
      sampleDecimals.Stores row.2.amount ∧
        refundTotal reservedRefundStatuses row.1 refundedShop ≤ row.2.amount := by decide +kernel
  have hamount : 0 ≤ (900 : ℚ) ∧ sampleDecimals.Stores 900 := by decide +kernel
  refine ⟨fun refundId refund hget _ => ⟨900, ?_, hamount⟩, fun paymentId payment hget => ?_,
    fun paymentId payment hget => ?_⟩
  · exact hrefunds (refundId, refund) (Db.mem_list.mpr ⟨hget, rfl⟩)
  · exact (hpayments (paymentId, payment) (Db.mem_list.mpr ⟨hget, rfl⟩)).1
  · exact (hpayments (paymentId, payment) (Db.mem_list.mpr ⟨hget, rfl⟩)).2

/-- All that is left of the payment is asked for twice. -/
def askTwice : Fin 2 → RefundOperation :=
  ![.request (refundOf "4000"), .request { refundOf "4000" with refundId := 3, messageId := 2 }]

/-- When both have read the payment before either refund is created, both refunds are. -/
theorem refunded_twice : RefundsCovered sampleDecimals refundedShop ∧ ∃ log m payment,
    Machine.Traced (.start refundedShop fun i =>
      (askTwice i).service sampleDecimals fun _ => "") log m ∧
      m.db.get (.payment, 1) = some payment ∧
      payment.amount < refundTotal reservedRefundStatuses 1 m.db := by
  have hexec : ((Machine.start refundedShop fun i =>
      (askTwice i).service sampleDecimals fun _ => "").exec (List.map .run
        ([0, 0, 1, 1] ++ List.replicate 3 0 ++ List.replicate 3 1))).any (fun m =>
          (m.db.get (.payment, 1)).any fun payment =>
            payment.amount < refundTotal reservedRefundStatuses 1 m.db) = true := by
    decide +kernel
  obtain ⟨m, hm, hend⟩ := (Option.any_eq_true _ _).mp hexec
  obtain ⟨payment, hget, hlt⟩ := (Option.any_eq_true _ _).mp hend
  exact ⟨refundsCovered_refundedShop, _, m, payment, Machine.Traced.exec hm, hget,
    of_decide_eq_true hlt⟩

/-- When the second comes after the first, it is refused. -/
theorem refunds_covered_refundedShop : ∃ log m,
    Machine.Traced (.start refundedShop fun i =>
      (askTwice i).service sampleDecimals fun _ => "") log m ∧
      RefundsCovered sampleDecimals m.db ∧ refundTotal reservedRefundStatuses 1 m.db = 4900 := by
  have hexec : ((Machine.start refundedShop fun i =>
      (askTwice i).service sampleDecimals fun _ => "").exec (List.map .run
        (List.replicate 5 0 ++ List.replicate 2 1))).any (fun m =>
          (m.threads 1).done && refundTotal reservedRefundStatuses 1 m.db == 4900) = true := by
    decide +kernel
  have hcurrent : ∀ e ∈ (Machine.start refundedShop fun i =>
      (askTwice i).service sampleDecimals fun _ => "").execEvents (List.map .run
        (List.replicate 5 0 ++ List.replicate 2 1)) fun _ => [],
          StatusesCurrent e ∧ BalanceCurrent sampleDecimals (askTwice e.call) e := by
    decide +kernel
  obtain ⟨m, hm, hend⟩ := (Option.any_eq_true _ _).mp hexec
  have hrun := Machine.Traced.exec hm
  exact ⟨_, m, hrun, refunds_covered (lawfulColumn_of_decimal65_30 rfl)
    refundsCovered_refundedShop hrun hcurrent, beq_iff_eq.mp (Bool.and_eq_true _ _ ▸ hend).2⟩

end Runs

end WerTe
