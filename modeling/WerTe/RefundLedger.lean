import WerTe.RefundCommits

/-!
# What a payment's refunds come to

A refund that succeeds is added to what its payment says has been refunded: the transaction sums up
the refunds it sees that have succeeded and writes the sum to the payment, whatever has been
written there in the meantime. `refund_ledger_kept` says that the payment is right as long as every
success has seen all the others, and that no refund that has ended changes as long as every refund
that is written is still as it was read.
-/

namespace WerTe

open ReadCommitted Numeral RefundsRepository PaymentsRepository RefundOperations

/-! ## Sums of refunds -/

/-- The refund is one of the payment's, with one of the statuses. -/
def isRefundOf (statuses : List RefundStatus) (paymentId : Id) (refund : Refund) : Bool :=
  refund.paymentId == paymentId && statuses.contains refund.status

/-- What the refund adds to such refunds. -/
def refundShare (statuses : List RefundStatus) (paymentId : Id) (refund : Refund) : ℚ :=
  if isRefundOf statuses paymentId refund then refund.amount.number.getD 0 else 0

/-- What the payment's refunds with one of the statuses come to. -/
def refundTotal (statuses : List RefundStatus) (paymentId : Id) (db : Store) : ℚ :=
  db.sumOver .refund fun _ refund => refundShare statuses paymentId refund

/-- The amounts of the payment's refunds with one of the statuses, as a payment with its refunds
has them. -/
def amountsOf (statuses : List RefundStatus) (payment : PaymentRefundsRecord) : List Decimal :=
  (payment.refunds.filter fun record => statuses.contains record.refund.status).map
    (·.refund.amount)

/-- The amounts that a payment's refunds are added up from, in the order in which they are. -/
def listedAmounts (statuses : List RefundStatus) (paymentId : Id) (db : Store) : List ℚ :=
  ((findPaymentRefunds db paymentId).filter fun record =>
    statuses.contains record.refund.status).map fun record => record.refund.amount.number.getD 0

section Sums

variable {statuses : List RefundStatus} {paymentId : Id} {db : Store}

theorem refundTotal_put (statuses : List RefundStatus) (paymentId : Id) (db : Store)
    (refundId : Id) (refund : Refund) :
    refundTotal statuses paymentId (db.put ⟨.refund, refundId, some refund⟩) +
        (db.get (.refund, refundId)).elim 0 (refundShare statuses paymentId) =
      refundTotal statuses paymentId db + refundShare statuses paymentId refund :=
  Db.sumOver_put db .refund refundId (some refund) fun _ => refundShare statuses paymentId

theorem refundTotal_put_ne {w : Write Row} (h : w.table ≠ .refund) :
    refundTotal statuses paymentId (db.put w) = refundTotal statuses paymentId db :=
  Db.sumOver_put_ne db h _

/-- The sum of the listed refunds. -/
theorem refundTotal_eq_sum_list : refundTotal statuses paymentId db =
    ((db.list .refund (isRefundOf statuses paymentId)).map fun row =>
      row.2.amount.number.getD 0).sum := by
  have hrows : ∀ entries : List (Σ _ : ℕ, Refund),
      (entries.map fun e => refundShare statuses paymentId e.2).sum =
        (((entries.map fun e => (e.1, e.2)).filter fun row =>
          isRefundOf statuses paymentId row.2).map fun row => row.2.amount.number.getD 0).sum := by
    intro entries
    induction entries with
    | nil => rfl
    | cons e entries ih =>
      rw [List.map_cons, List.sum_cons, ih, List.map_cons, List.filter_cons, refundShare]
      cases isRefundOf statuses paymentId e.2 with
      | true => rfl
      | false => exact zero_add _
  exact hrows _

/-- The same sum, in the order in which the refunds of a payment are read. -/
theorem sum_listedAmounts :
    (listedAmounts statuses paymentId db).sum = refundTotal statuses paymentId db := by
  have hperm : ((findPaymentRefunds db paymentId).filter fun record =>
      statuses.contains record.refund.status).Perm
        ((db.list .refund (isRefundOf statuses paymentId)).map fun row => ⟨row.1, row.2⟩) := by
    rw [findPaymentRefunds]
    refine ((List.perm_insertionSort _ _).filter _).trans (.of_eq ?_)
    rw [List.filter_map, Db.list, Db.list, List.filter_filter]
    refine congrArg _ (List.filter_congr fun row _ => ?_)
    exact Bool.and_comm _ _
  rw [refundTotal_eq_sum_list, listedAmounts]
  exact (hperm.map _).sum_eq.trans (by rw [List.map_map]; rfl)

/-- The amounts of a payment's refunds, where they are numbers. -/
theorem listedAmounts_eq {payment : PaymentRefundsRecord} {amounts : List ℚ}
    (hfound : findByIdWithRefunds db paymentId = some payment)
    (hamounts : amountsOf statuses payment = amounts.map .finite) :
    listedAmounts statuses paymentId db = amounts := by
  have hrefunds : payment.refunds = findPaymentRefunds db paymentId := by
    obtain ⟨record, -, rfl⟩ := Option.map_eq_some_iff.mp hfound
    rfl
  have hmap : listedAmounts statuses paymentId db =
      (amountsOf statuses payment).map fun amount => amount.number.getD 0 := by
    rw [listedAmounts, amountsOf, List.map_map, hrefunds]
    rfl
  rw [hmap, hamounts, List.map_map]
  exact List.map_id' amounts

/-- The same sum, as it is formed of a payment with its refunds. -/
theorem sum_amountsOf {payment : PaymentRefundsRecord} {amounts : List ℚ}
    (hfound : findByIdWithRefunds db paymentId = some payment)
    (hamounts : amountsOf statuses payment = amounts.map .finite) :
    amounts.sum = refundTotal statuses paymentId db := by
  rw [← listedAmounts_eq hfound hamounts, sum_listedAmounts]

/-- The sum of those that have succeeded is the decimal sum of their amounts. -/
theorem computeSucceededRefundAmount_eq (decimals : DecimalRuntime)
    (payment : PaymentRefundsRecord) : computeSucceededRefundAmount decimals payment =
      Decimal.sum decimals.round (amountsOf [.succeeded] payment) := by
  have hstatus : ∀ record : RefundSummaryRecord,
      [RefundStatus.succeeded].contains record.refund.status =
        decide (record.refund.status = .succeeded) := fun record => by
    rw [List.contains_cons, List.contains_nil, Bool.or_false]
    rfl
  rw [computeSucceededRefundAmount, amountsOf, Decimal.sum, List.foldl_map, List.foldl_filter]
  simp only [hstatus, decide_eq_true_eq]

end Sums

/-! ## The column of an amount -/

/-- The column keeps the number as it is. -/
def DecimalRuntime.Stores (decimals : DecimalRuntime) (a : ℚ) : Prop :=
  decimals.column (.finite a) = some (.finite a)

instance (decimals : DecimalRuntime) (a : ℚ) : Decidable (decimals.Stores a) :=
  inferInstanceAs (Decidable (_ = _))

/-- The column rounds numbers, and nothing else, to numbers that it keeps. -/
structure DecimalRuntime.LawfulColumn (decimals : DecimalRuntime) : Prop where
  number : ∀ {x a}, decimals.column x = some (.finite a) → ∃ b, x = .finite b
  stores : ∀ {a y}, decimals.column (.finite a) = some y → ∃ b, y = .finite b ∧ decimals.Stores b
  mono : ∀ {a b c}, decimals.column (.finite a) = some (.finite b) → decimals.Stores c → a ≤ c →
    b ≤ c
  nonneg : ∀ {a b}, decimals.column (.finite a) = some (.finite b) → 0 ≤ a → 0 ≤ b
  sub : ∀ {a b}, decimals.Stores a → decimals.Stores b → 0 ≤ b → b ≤ a → decimals.Stores (a - b)

/-- How many units of the last digit such a column keeps of a number. -/
def columnUnits (a : ℚ) : ℤ :=
  if 0 ≤ a then (a * 10 ^ 30 + 1 / 2).floor else -(-a * 10 ^ 30 + 1 / 2).floor

theorem decimal65_30_finite (a : ℚ) : decimal65_30 (.finite a) =
    if (columnUnits a).natAbs < 10 ^ 65 then some (.finite (columnUnits a / 10 ^ 30)) else none :=
  rfl

theorem floor_half (n : ℤ) : ((n : ℚ) + 1 / 2).floor = n := by
  refine le_antisymm ?_ (Rat.le_floor_iff.mpr (by linarith))
  refine Int.lt_add_one_iff.mp (Rat.floor_lt_iff.mpr ?_)
  push_cast
  linarith

theorem columnUnits_nonneg {a : ℚ} (h : 0 ≤ a) : 0 ≤ columnUnits a := by
  rw [columnUnits, if_pos h]
  exact Rat.le_floor_iff.mpr (by push_cast; positivity)

theorem columnUnits_mono {a b : ℚ} (h : a ≤ b) : columnUnits a ≤ columnUnits b := by
  have hneg : ∀ {c : ℚ}, c < 0 → columnUnits c ≤ 0 := by
    intro c hc
    rw [columnUnits, if_neg (not_le.mpr hc)]
    have hpos : (0 : ℤ) ≤ (-c * 10 ^ 30 + 1 / 2).floor :=
      Rat.le_floor_iff.mpr (by push_cast; nlinarith)
    omega
  rcases lt_or_ge a 0 with ha | ha
  · rcases lt_or_ge b 0 with hb | hb
    · rw [columnUnits, columnUnits, if_neg (not_le.mpr ha), if_neg (not_le.mpr hb)]
      exact neg_le_neg (Rat.floor_monotone (by linarith))
    · exact (hneg ha).trans (columnUnits_nonneg hb)
  · rw [columnUnits, columnUnits, if_pos ha, if_pos (ha.trans h)]
    exact Rat.floor_monotone (by linarith)

theorem columnUnits_units (n : ℤ) : columnUnits (n / 10 ^ 30) = n := by
  have hscale : ∀ m : ℚ, m / 10 ^ 30 * 10 ^ 30 = m := fun m => by field_simp
  rcases lt_or_ge n 0 with hn | hn
  · have hlt : (n : ℚ) / 10 ^ 30 < 0 := div_neg_of_neg_of_pos (by exact_mod_cast hn) (by positivity)
    rw [columnUnits, if_neg (not_le.mpr hlt), ← neg_div, hscale]
    have := floor_half (-n)
    push_cast at this
    rw [this, neg_neg]
  · have hle : (0 : ℚ) ≤ n / 10 ^ 30 := div_nonneg (by exact_mod_cast hn) (by positivity)
    rw [columnUnits, if_pos hle, hscale, floor_half]


section Column

variable {decimals : DecimalRuntime} (hcolumn : decimals.column = decimal65_30)

include hcolumn

theorem column_finite_iff {a : ℚ} {y : Decimal} : decimals.column (.finite a) = some y ↔
    (columnUnits a).natAbs < 10 ^ 65 ∧ y = .finite (columnUnits a / 10 ^ 30) := by
  rw [hcolumn, decimal65_30_finite]
  by_cases h : (columnUnits a).natAbs < 10 ^ 65
  · rw [if_pos h, Option.some.injEq]
    exact ⟨fun heq => ⟨h, heq.symm⟩, fun hy => hy.2.symm⟩
  · rw [if_neg h]
    exact ⟨fun hnone => (by cases hnone), fun hy => absurd hy.1 h⟩

theorem stores_iff {a : ℚ} : decimals.Stores a ↔
    ∃ n : ℤ, n.natAbs < 10 ^ 65 ∧ a = n / 10 ^ 30 := by
  rw [DecimalRuntime.Stores, column_finite_iff hcolumn]
  constructor
  · rintro ⟨hlt, heq⟩
    exact ⟨_, hlt, Decimal.finite.inj heq⟩
  · rintro ⟨n, hlt, rfl⟩
    rw [columnUnits_units]
    exact ⟨hlt, rfl⟩

theorem lawfulColumn_of_decimal65_30 : decimals.LawfulColumn where
  number {x a} h := by
    rw [hcolumn] at h
    cases x with
    | nan => cases h
    | infinity negative => cases h
    | finite b => exact ⟨b, rfl⟩
  stores {a y} h := by
    obtain ⟨hlt, rfl⟩ := (column_finite_iff hcolumn).mp h
    exact ⟨_, rfl, (stores_iff hcolumn).mpr ⟨_, hlt, rfl⟩⟩
  mono {a b c} h hc hle := by
    obtain ⟨-, hb⟩ := (column_finite_iff hcolumn).mp h
    obtain ⟨n, -, rfl⟩ := (stores_iff hcolumn).mp hc
    have hunits := columnUnits_mono hle
    rw [columnUnits_units] at hunits
    rw [Decimal.finite.inj hb]
    exact div_le_div_of_nonneg_right (by exact_mod_cast hunits) (by positivity)
  nonneg {a b} h hle := by
    obtain ⟨-, hb⟩ := (column_finite_iff hcolumn).mp h
    rw [Decimal.finite.inj hb]
    exact div_nonneg (by exact_mod_cast columnUnits_nonneg hle) (by positivity)
  sub {a b} ha hb hpos hle := by
    obtain ⟨m, hm, rfl⟩ := (stores_iff hcolumn).mp ha
    obtain ⟨n, hn, rfl⟩ := (stores_iff hcolumn).mp hb
    have hscale : (0 : ℚ) < 10 ^ 30 := by positivity
    have hn0 : (0 : ℚ) ≤ n := by
      have hmul := mul_nonneg hpos hscale.le
      rwa [div_mul_cancel₀ _ hscale.ne'] at hmul
    have hnm : (n : ℚ) ≤ m := (div_le_div_iff_of_pos_right hscale).mp hle
    refine (stores_iff hcolumn).mpr ⟨m - n, ?_, by push_cast; ring⟩
    have hn0' : 0 ≤ n := by exact_mod_cast hn0
    have hnm' : n ≤ m := by exact_mod_cast hnm
    omega

end Column

/-! ## What has been refunded -/

/-- What a payment says has been refunded is what its refunds that have succeeded come to. -/
structure LedgerBalanced (db : Store) : Prop where
  numbers : ∀ refundId refund, db.get (.refund, refundId) = some refund →
    refund.status = .succeeded → ∃ a, refund.amount = .finite a
  balanced : ∀ paymentId payment, db.get (.payment, paymentId) = some payment →
    refundTotal [.succeeded] paymentId db = payment.refundedAmount

def refundStatusIn (refundId : Id) (db : Store) : Option RefundStatus :=
  (db.get (.refund, refundId)).map (·.status)

section Current

variable {ι : Type}

/-- The refunds that are written have the status still that the operation has read. -/
def StatusesCurrent (e : Event ι Row) : Prop :=
  ∀ w ∈ e.writes, w.table = .refund → ∀ before ∈ refundRead e.reads w.id,
    refundStatusIn w.id e.db = some before.status

instance (e : Event ι Row) : Decidable (StatusesCurrent e) :=
  inferInstanceAs (Decidable (∀ w ∈ e.writes, _ → ∀ before ∈ refundRead e.reads w.id, _))

/-- Where a payment is written, its refunds that have succeeded are those that the transaction has
seen, and neither their running totals nor their sum, with what is written, are rounded. -/
def TotalsCurrent (decimals : DecimalRuntime) (e : Event ι Row) : Prop :=
  ∀ w ∈ e.writes, w.table = .payment →
    (e.seen.list .refund (isRefundOf [.succeeded] w.id)).Perm
        (e.db.list .refund (isRefundOf [.succeeded] w.id)) ∧
      Decimal.TotalsKept decimals.round
        (listedAmounts [.succeeded] w.id (e.seen.apply e.writes)) ∧
      decimals.Stores (listedAmounts [.succeeded] w.id (e.seen.apply e.writes)).sum

instance (decimals : DecimalRuntime) (e : Event ι Row) : Decidable (TotalsCurrent decimals e) :=
  inferInstanceAs (Decidable (∀ w ∈ e.writes, _ → _ ∧ _ ∧ _))

variable {decimals : DecimalRuntime} {operation : RefundOperation} {e : Event ι Row}

/-- A refund that is written is a new one, or one that is open. -/
theorem RefundCommit.written
    (h : RefundCommit decimals operation e.reads e.seen e.db e.writes)
    (hcurrent : StatusesCurrent e) {w : Write Row} (hw : w ∈ e.writes)
    (htable : w.table = .refund) :
    refundStatusIn w.id e.db = none ∨
      ∃ status ∈ finalizableRefundStatuses, refundStatusIn w.id e.db = some status := by
  have hstatus := hcurrent w hw htable
  generalize e.writes = ws at h hw
  cases h with
  | requested _ _ _ _ _ hfree =>
    obtain rfl := List.mem_singleton.mp hw
    exact .inl (congrArg _ hfree)
  | closed hread hopen _ _ =>
    obtain rfl := List.mem_singleton.mp hw
    exact .inr ⟨_, hopen, hstatus _ hread⟩
  | succeeded hread hopen _ _ _ _ _ _ =>
    rcases List.mem_cons.mp hw with rfl | hw
    · exact .inr ⟨_, hopen, hstatus _ hread⟩
    · obtain rfl := List.mem_singleton.mp hw
      cases htable
  | beside hws => exact absurd htable (hws w hw).1

/-- A refund that has ended is left as it is. -/
theorem RefundCommit.ended_kept
    (h : RefundCommit decimals operation e.reads e.seen e.db e.writes)
    (hcurrent : StatusesCurrent e) {refundId : Id} {refund : Refund}
    (hrefund : e.db.get (.refund, refundId) = some refund)
    (hended : refund.status ∉ finalizableRefundStatuses) :
    e.result.get (.refund, refundId) = some refund := by
  rw [← hrefund]
  refine Db.get_apply_of_notMem fun hmem => ?_
  obtain ⟨w, hw, hkey⟩ := List.mem_map.mp hmem
  obtain ⟨htable, hid⟩ := Prod.mk.inj hkey
  have hstatus : refundStatusIn w.id e.db = some refund.status := by
    rw [refundStatusIn, hid, hrefund]
    rfl
  rcases h.written hcurrent hw htable with hnone | ⟨status, hopen, hsome⟩
  · cases hnone.symm.trans hstatus
  · cases hsome.symm.trans hstatus
    exact hended hopen

theorem refundShare_of_status {statuses : List RefundStatus} {refund : Refund}
    (h : refund.status ∉ statuses) (paymentId : Id) :
    refundShare statuses paymentId refund = 0 := by
  simp [refundShare, isRefundOf, h]

/-- A refund is written that has not succeeded before and does not now. -/
theorem LedgerBalanced.put_refund {db : Store} (h : LedgerBalanced db) {refundId : Id}
    {refund : Refund} (hbefore : refundStatusIn refundId db ≠ some .succeeded)
    (hafter : refund.status ≠ .succeeded) :
    LedgerBalanced (db.put ⟨.refund, refundId, some refund⟩) := by
  have hold : ∀ paymentId,
      (db.get (.refund, refundId)).elim 0 (refundShare [.succeeded] paymentId) = 0 := by
    intro paymentId
    cases hget : db.get (.refund, refundId) with
    | none => rfl
    | some old =>
      refine refundShare_of_status (fun hmem => hbefore ?_) paymentId
      rw [refundStatusIn, hget, Option.map_some, List.mem_singleton.mp hmem]
  refine ⟨fun id refund' hget hsucceeded => ?_, fun paymentId payment hget => ?_⟩
  · by_cases hid : id = refundId
    · subst hid
      cases (Db.get_put_self db ⟨.refund, id, some refund⟩).symm.trans hget
      exact absurd hsucceeded hafter
    · rw [Db.get_put_ne db fun hkey => hid (Prod.mk.inj hkey).2] at hget
      exact h.numbers id refund' hget hsucceeded
  · have hpayment : db.get (.payment, paymentId) = some payment := by
      rwa [Db.get_put_ne db (by simp [Write.key])] at hget
    have hput := refundTotal_put [.succeeded] paymentId db refundId refund
    rw [hold, refundShare_of_status (fun hmem => hafter (List.mem_singleton.mp hmem)), add_zero,
      add_zero] at hput
    exact hput.trans (h.balanced paymentId payment hpayment)

theorem get_put_beside {db : Store} {w : Write Row} (hw : BesideWrite w) {k : Key Tbl}
    (hk : k.1 = .refund ∨ k.1 = .payment) : (db.put w).get k = db.get k := by
  refine Db.get_put_ne db fun hkey => ?_
  rcases hk with hk | hk
  · exact hw.1 ((congrArg Prod.fst hkey).symm.trans hk)
  · exact hw.2 ((congrArg Prod.fst hkey).symm.trans hk)

theorem LedgerBalanced.put_beside {db : Store} (h : LedgerBalanced db) {w : Write Row}
    (hw : BesideWrite w) : LedgerBalanced (db.put w) := by
  have hget : ∀ k : Key Tbl, k.1 = .refund ∨ k.1 = .payment → (db.put w).get k = db.get k :=
    fun k hk => get_put_beside hw hk
  refine ⟨fun id refund hrefund => ?_, fun paymentId payment hpayment => ?_⟩
  · rw [hget _ (.inl rfl)] at hrefund
    exact h.numbers id refund hrefund
  · rw [hget _ (.inr rfl)] at hpayment
    rw [refundTotal_put_ne hw.1]
    exact h.balanced paymentId payment hpayment

/-- What is written to a payment is what the refunds come to that the transaction sees. -/
theorem refunded_eq_refundTotal (hlawful : decimals.LawfulColumn) {db : Store} {paymentId : Id}
    {record : PaymentRefundsRecord} {refunded : ℚ}
    (hrecord : findByIdWithRefunds db paymentId = some record)
    (hrefunded : (decimals.column (computeSucceededRefundAmount decimals record)).bind
      Decimal.number = some refunded)
    (htotals : Decimal.TotalsKept decimals.round (listedAmounts [.succeeded] paymentId db))
    (hstores : decimals.Stores (listedAmounts [.succeeded] paymentId db).sum) :
    refunded = refundTotal [.succeeded] paymentId db ∧
      computeSucceededRefundAmount decimals record = .finite refunded ∧
      ∃ amounts : List ℚ, amountsOf [.succeeded] record = amounts.map .finite := by
  obtain ⟨stored, hcolumn, hnumber⟩ := Option.bind_eq_some_iff.mp hrefunded
  obtain rfl := Decimal.number_eq_some_iff.mp hnumber
  obtain ⟨b, hsum⟩ := hlawful.number hcolumn
  rw [computeSucceededRefundAmount_eq] at hsum hcolumn ⊢
  obtain ⟨amounts, hamounts⟩ := Decimal.sum_eq_finite hsum
  rw [listedAmounts_eq hrecord hamounts] at htotals hstores
  have htotal : Decimal.sum decimals.round (amountsOf [.succeeded] record) =
      .finite amounts.sum := by
    rw [hamounts, Decimal.sum_map_finite, Decimal.roundedSum_of_totalsKept htotals]
  rw [htotal, hstores] at hcolumn
  obtain rfl := Decimal.finite.inj (Option.some.inj hcolumn)
  exact ⟨sum_amountsOf hrecord hamounts, htotal, amounts, hamounts⟩

/-- A refund succeeds, and its payment is given what its refunds come to then. -/
theorem LedgerBalanced.put_succeeded {db seen : Store} (h : LedgerBalanced db) {refundId : Id}
    {refund refund' : Refund} {payment' : Payment}
    (hbefore : refund.status ≠ .succeeded) (hrefund : db.get (.refund, refundId) = some refund)
    (hseen : seen.get (.refund, refundId) = some refund)
    (hof : refund'.paymentId = refund.paymentId) (hnumber : ∃ a, refund'.amount = .finite a)
    (hsame : (seen.list .refund (isRefundOf [.succeeded] refund.paymentId)).Perm
      (db.list .refund (isRefundOf [.succeeded] refund.paymentId)))
    (hrefunded : payment'.refundedAmount = refundTotal [.succeeded] refund.paymentId
      (seen.put ⟨.refund, refundId, some refund'⟩)) :
    LedgerBalanced ((db.put ⟨.refund, refundId, some refund'⟩).put
      ⟨.payment, refund.paymentId, some payment'⟩) := by
  have hshare : ∀ paymentId, refundShare [.succeeded] paymentId refund = 0 :=
    refundShare_of_status fun hmem => hbefore (List.mem_singleton.mp hmem)
  have hput : ∀ (paymentId : Id) (db : Store), db.get (.refund, refundId) = some refund →
      refundTotal [.succeeded] paymentId (db.put ⟨.refund, refundId, some refund'⟩) =
        refundTotal [.succeeded] paymentId db + refundShare [.succeeded] paymentId refund' := by
    intro paymentId db hget
    have hput := refundTotal_put [.succeeded] paymentId db refundId refund'
    rwa [hget, Option.elim_some, hshare, add_zero] at hput
  have htotal : refundTotal [.succeeded] refund.paymentId seen =
      refundTotal [.succeeded] refund.paymentId db := by
    rw [refundTotal_eq_sum_list, refundTotal_eq_sum_list]
    exact (hsame.map _).sum_eq
  refine ⟨fun id row hget hsucceeded => ?_, fun paymentId row hget => ?_⟩
  · rw [Db.get_put_ne _ (by simp [Write.key])] at hget
    by_cases hid : id = refundId
    · subst hid
      cases (Db.get_put_self db ⟨.refund, id, some refund'⟩).symm.trans hget
      exact hnumber
    · rw [Db.get_put_ne db fun hkey => hid (Prod.mk.inj hkey).2] at hget
      exact h.numbers id row hget hsucceeded
  · rw [refundTotal_put_ne (by simp), hput paymentId db hrefund]
    by_cases hpayment : paymentId = refund.paymentId
    · subst hpayment
      cases (Db.get_put_self (db.put ⟨.refund, refundId, some refund'⟩)
        ⟨.payment, refund.paymentId, some payment'⟩).symm.trans hget
      rw [hrefunded, hput _ seen hseen, htotal]
    · have hother : refundShare [.succeeded] paymentId refund' = 0 := by
        simp [refundShare, isRefundOf, hof, Ne.symm hpayment]
      rw [hother, add_zero]
      rw [Db.get_put_ne _ fun hkey => hpayment (Prod.mk.inj hkey).2,
        Db.get_put_ne _ (by simp [Write.key])] at hget
      exact h.balanced paymentId row hget

/-- A commit that is up to date keeps the ledger. -/
theorem LedgerBalanced.commit (hlawful : decimals.LawfulColumn) (h : LedgerBalanced e.db)
    (hcommit : RefundCommit decimals operation e.reads e.seen e.db e.writes)
    (hcurrent : StatusesCurrent e) (htotals : TotalsCurrent decimals e) :
    LedgerBalanced e.result := by
  have hopen : ∀ {refundId : Id} {refund : Refund}, e.db.get (.refund, refundId) = some refund →
      (∃ row, (⟨.refund, refundId, row⟩ : Write Row) ∈ e.writes) →
        refund.status ∈ finalizableRefundStatuses := by
    rintro refundId refund hrefund ⟨row, hw⟩
    have hstatus : refundStatusIn refundId e.db = some refund.status := by
      rw [refundStatusIn, hrefund]
      rfl
    rcases hcommit.written hcurrent hw rfl with hnone | ⟨status, hopen, hsome⟩
    · cases hnone.symm.trans hstatus
    · cases hsome.symm.trans hstatus
      exact hopen
  have hnot : ∀ status ∈ finalizableRefundStatuses, status ≠ .succeeded := by decide
  rw [Event.result]
  generalize hws : e.writes = ws at hcommit hopen
  cases hcommit with
  | requested _ _ _ _ _ hfree =>
    refine h.put_refund ?_ (by simp [newRefund, refundRequest])
    rw [refundStatusIn, hfree]
    simp
  | @closed refundId _ refund _ _ _ hrefund hstatus =>
    refine h.put_refund ?_ ?_
    · rw [refundStatusIn, hrefund, Option.map_some]
      exact fun heq => hnot _ (hopen hrefund ⟨_, List.mem_singleton_self _⟩)
        (Option.some.inj heq)
    · rcases hstatus with hstatus | hstatus
      · simp [Refund.transition, hstatus]
      · simp [Refund.transition, hstatus]
  | @succeeded refundId _ refund payload record payment refunded _ _ hrefund hstatus hseen hrecord
      hrefunded _ =>
    obtain ⟨hsame, hkept, hstores⟩ := htotals
      ⟨.payment, refund.paymentId, _⟩ (by rw [hws]; exact List.mem_cons_of_mem _ List.mem_cons_self)
      rfl
    -- the write to the payment changes no refund
    have hlisted : listedAmounts [.succeeded] refund.paymentId (e.seen.apply e.writes) =
        listedAmounts [.succeeded] refund.paymentId
          (e.seen.put ⟨.refund, refundId, some (refund.transition payload)⟩) := by
      rw [hws, Db.apply_cons, Db.apply_cons, Db.apply_nil, listedAmounts, listedAmounts,
        findPaymentRefunds, findPaymentRefunds, Db.list_put_ne _ (by simp)]
    rw [hlisted] at hkept hstores
    obtain ⟨htotal, -, amounts, hamounts⟩ :=
      refunded_eq_refundTotal hlawful hrecord hrefunded hkept hstores
    refine h.put_succeeded (hnot _ (hopen hrefund ⟨_, List.mem_cons_self⟩)) hrefund hseen rfl ?_
      hsame htotal
    -- the amount of the refund is one of those that were added up
    have hmem : refund.amount ∈ amountsOf [.succeeded] record := by
      refine List.mem_map.mpr ⟨⟨refundId, refund.transition payload⟩, List.mem_filter.mpr ⟨?_, ?_⟩,
        rfl⟩
      · obtain ⟨summary, -, rfl⟩ := Option.map_eq_some_iff.mp hrecord
        refine (List.mem_insertionSort _).mpr (List.mem_map.mpr ⟨(refundId,
          refund.transition payload), Db.mem_list.mpr ⟨Db.get_put_self e.seen
            ⟨.refund, refundId, some (refund.transition payload)⟩, ?_⟩, rfl⟩)
        exact beq_self_eq_true _
      · simp [Refund.transition, hstatus]
    rw [hamounts] at hmem
    obtain ⟨a, -, ha⟩ := List.mem_map.mp hmem
    exact ⟨a, ha.symm⟩
  | beside hbeside =>
    exact Db.apply_keeps (fun db w h hw => h.put_beside hw) ws e.db h hbeside

end Current

/-! ## Runs of operations on refunds -/

section Runs

variable {ι : Type} [Fintype ι] [DecidableEq ι] {decimals : DecimalRuntime}
  {databaseMessage : Failure → String} {db₀ : Store} {operations : ι → RefundOperation}

/-- The ledger is balanced, and the refunds that had ended are as they were then. -/
structure LedgerKept (log : List (Event ι Row)) (db : Store) : Prop where
  balanced : LedgerBalanced db
  ended : ∀ e ∈ log, ∀ refundId refund, e.db.get (.refund, refundId) = some refund →
    refund.status ∉ finalizableRefundStatuses → db.get (.refund, refundId) = some refund

omit [Fintype ι] [DecidableEq ι] in
theorem LedgerKept.snoc {log : List (Event ι Row)} {e : Event ι Row} {operation : RefundOperation}
    (hlawful : decimals.LawfulColumn) (h : LedgerKept log e.db)
    (hcommit : RefundCommit decimals operation e.reads e.seen e.db e.writes)
    (hcurrent : StatusesCurrent e) (htotals : TotalsCurrent decimals e) :
    LedgerKept (log ++ [e]) e.result := by
  refine ⟨h.balanced.commit hlawful hcommit hcurrent htotals, ?_⟩
  intro e' he' refundId refund hrefund hended
  rcases List.mem_append.mp he' with he' | he'
  · exact hcommit.ended_kept hcurrent (h.ended e' he' refundId refund hrefund hended) hended
  · obtain rfl := List.mem_singleton.mp he'
    exact hcommit.ended_kept hcurrent hrefund hended

/-- However operations on refunds interleave, what a payment says has been refunded is what its
refunds that have succeeded come to, and a refund that has ended stays as it is: as long as every
refund that is written has the status still that was read, and a success has seen all the refunds
that have succeeded. -/
theorem refund_ledger_kept (hlawful : decimals.LawfulColumn) (hstart : LedgerBalanced db₀)
    {m : Machine ι Row Failure Unit} {log : List (Event ι Row)}
    (hrun : Machine.Traced
      (.start db₀ fun i => (operations i).service decimals databaseMessage) log m)
    (hcurrent : ∀ e ∈ log, StatusesCurrent e ∧ TotalsCurrent decimals e) :
    LedgerBalanced m.db ∧
      ∀ e ∈ log, ∀ refundId refund, e.db.get (.refund, refundId) = some refund →
        refund.status ∉ finalizableRefundStatuses →
          m.db.get (.refund, refundId) = some refund := by
  obtain ⟨reads, htrace⟩ := hrun
  have hsound := htrace.sound (R := .rows fun _ => True) (J := LedgerKept)
    (Q := fun i => CommitsRefunds decimals (operations i))
    (fun log e _ hkept hok hcommit =>
      .rows True.intro (hkept.snoc hlawful hcommit hok.1 hok.2))
    True.intro (fun i => (operations i).guarantees) ⟨hstart, by simp⟩ hcurrent
  exact ⟨hsound.2.balanced, hsound.2.ended⟩

/-- A payment of 4900 with two refunds that are pending, of 900 and of 1000. -/
def openRefundsShop : Store :=
  let refund (amount : ℚ) : Refund := {
    paymentId := 1
    orderId := 1
    status := .pending
    amount := .finite amount
    idempotencyKey := none
    providerReference := none
    reasonCode := some "admin_requested_refund"
    note := none
    failureCode := none
    failureMessage := none
    requestedAt := 0
    attempts := [] }
  Db.empty.apply [
    ⟨.order, 1, some { teaOrder with status := .delivered }⟩,
    ⟨.payment, 1, some { teaPayment with status := .succeeded, refundedAmount := 0 }⟩,
    ⟨.refund, 1, some (refund 900)⟩,
    ⟨.refund, 2, some (refund 1000)⟩]

/-- Both succeed. -/
def bothSucceed : Fin 2 → RefundOperation :=
  ![.finalize .succeed teaAdmin { refundId := 1 }, .finalize .succeed teaAdmin { refundId := 2 }]

theorem ledgerBalanced_openRefundsShop : LedgerBalanced openRefundsShop := by
  have hrefunds : ∀ row ∈ openRefundsShop.list .refund fun _ => true, row.2.status = .pending := by
    decide +kernel
  have hpayments : ∀ row ∈ openRefundsShop.list .payment fun _ => true,
      refundTotal [.succeeded] row.1 openRefundsShop = row.2.refundedAmount := by decide +kernel
  refine ⟨fun refundId refund hget hsucceeded => ?_, fun paymentId payment hget => ?_⟩
  · have hpending : refund.status = .pending := hrefunds (refundId, refund)
      (Db.mem_list.mpr ⟨hget, rfl⟩)
    cases hpending.symm.trans hsucceeded
  · exact hpayments (paymentId, payment) (Db.mem_list.mpr ⟨hget, rfl⟩)

/-- When both have added up what has succeeded before either commits, the payment is left with what
the second has found. -/
theorem refund_lost : LedgerBalanced openRefundsShop ∧ ∃ log m,
    Machine.Traced (.start openRefundsShop fun i =>
      (bothSucceed i).service sampleDecimals fun _ => "") log m ∧
      (∀ i, (m.threads i).done = true) ∧ ¬ LedgerBalanced m.db := by
  have hexec : ((Machine.start openRefundsShop fun i =>
      (bothSucceed i).service sampleDecimals fun _ => "").exec (List.map .run
        (List.replicate 6 0 ++ List.replicate 5 1 ++ [0, 1, 1]))).any (fun m =>
          (m.threads 0).done && (m.threads 1).done &&
            (m.db.get (.payment, 1)).any fun payment =>
              refundTotal [.succeeded] 1 m.db != payment.refundedAmount) = true := by
    decide +kernel
  obtain ⟨m, hm, hend⟩ := (Option.any_eq_true _ _).mp hexec
  simp only [Bool.and_eq_true] at hend
  obtain ⟨payment, hget, hne⟩ := (Option.any_eq_true _ _).mp hend.2
  exact ⟨ledgerBalanced_openRefundsShop, _, m, Machine.Traced.exec hm,
    Fin.forall_fin_two.mpr hend.1, fun h => bne_iff_ne.mp hne (h.balanced 1 payment hget)⟩

/-- When one is over before the other begins, nothing is lost. -/
theorem refund_ledger_kept_openRefundsShop : ∃ log m,
    Machine.Traced (.start openRefundsShop fun i =>
      (bothSucceed i).service sampleDecimals fun _ => "") log m ∧
      LedgerBalanced m.db ∧ refundTotal [.succeeded] 1 m.db = 1900 := by
  have hexec : ((Machine.start openRefundsShop fun i =>
      (bothSucceed i).service sampleDecimals fun _ => "").exec (List.map .run
        (List.replicate 7 0 ++ List.replicate 7 1))).any (fun m =>
          refundTotal [.succeeded] 1 m.db == 1900) = true := by decide +kernel
  have hcurrent : ∀ e ∈ (Machine.start openRefundsShop fun i =>
      (bothSucceed i).service sampleDecimals fun _ => "").execEvents (List.map .run
        (List.replicate 7 0 ++ List.replicate 7 1)) fun _ => [],
          StatusesCurrent e ∧ TotalsCurrent sampleDecimals e := by decide +kernel
  obtain ⟨m, hm, htotal⟩ := (Option.any_eq_true _ _).mp hexec
  have hrun := Machine.Traced.exec hm
  exact ⟨_, m, hrun, (refund_ledger_kept (lawfulColumn_of_decimal65_30 rfl)
    ledgerBalanced_openRefundsShop hrun hcurrent).1, beq_iff_eq.mp htotal⟩

end Runs

end WerTe
