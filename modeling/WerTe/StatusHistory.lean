import WerTe.OrderCommits
import WerTe.StatusStock

/-!
# The status history of an order

Every operation on an order reads its status, decides on it, and writes the new status with an
entry that says which one it came from, whatever the status is by then. As long as the order
still has the status that the operation believed it to have (`UpToDate`), the entries of the
history link up, the last one tells the order's status, and an order that has ended stays as
it is (`status_history_chain`).
-/

namespace WerTe

open ReadCommitted Tx

/-! ## The history -/

/-- Every entry of the history comes from where the one before it led to, and the last one leads
to the order's status. -/
structure Order.Chained (order : Order) : Prop where
  links : order.statusHistory.IsChain fun entry next => next.fromStatus = some entry.toStatus
  last : order.statusHistory.getLast?.map (·.toStatus) = some order.status

/-- A change from the status that the order has adds a link. -/
theorem Order.Chained.changeStatus {order : Order} (h : order.Chained)
    {payload : UpdateOrderStatusInput} (hfrom : payload.fromStatus = order.status) :
    (order.changeStatus payload).Chained := by
  refine ⟨List.isChain_append.mpr ⟨h.links, .singleton _, ?_⟩, by simp [Order.changeStatus]⟩
  intro entry hentry next hnext
  rw [List.head?_singleton, Option.mem_some_iff] at hnext
  have hlast := h.last
  rw [Option.mem_def.mp hentry, Option.map_some] at hlast
  rw [← hnext, hfrom, ← hlast]

/-- The orders among the writes, with the status that each is given. -/
def statusWrites (ws : List (Write Row)) : List (Id × OrderStatus) :=
  ws.filterMap fun w =>
    match w with
    | ⟨.order, orderId, some order⟩ => some (orderId, order.status)
    | _ => none

theorem mem_statusWrites {ws : List (Write Row)} {orderId : Id} {order : Order}
    (h : (⟨.order, orderId, some order⟩ : Write Row) ∈ ws) :
    (orderId, order.status) ∈ statusWrites ws := List.mem_filterMap.mpr ⟨_, h, rfl⟩

/-- Each order whose status is written still has the status that the operation takes it to have,
and, if the operation has not checked that, has not ended. -/
def UpToDate (call : OrderCall) (reads : List Store) (ws : List (Write Row)) (db : Store) : Prop :=
  ∀ p ∈ statusWrites ws, call.believes reads p.1 p.2 = statusIn p.1 db ∧
    (call.cancelsUnchecked = true → ∀ status ∈ statusIn p.1 db, status ∉ terminalOrderStatuses)

instance (call : OrderCall) (reads : List Store) (ws : List (Write Row)) (db : Store) :
    Decidable (UpToDate call reads ws db) :=
  inferInstanceAs (Decidable (∀ p ∈ statusWrites ws, _ ∧ (_ → ∀ status ∈ statusIn p.1 db, _)))

/-! ## One commit -/

section Commits

variable {call : OrderCall} {reads : List Store} {ws : List (Write Row)} {db : Store}

/-- What a commit that is up to date does to an order: nothing, or a change from the status that
the order has, which is not its last. -/
theorem OrderCommit.order_cases {free : Id → Store → Prop}
    (h : OrderCommit free call reads ws db) (hcurrent : UpToDate call reads ws db)
    (hcall : call.isStatusOverride = false) {orderId : Id} {order' : Order}
    (horder' : (db.apply ws).get (.order, orderId) = some order') :
    db.get (.order, orderId) = some order' ∨ ∃ order payload,
      db.get (.order, orderId) = some order ∧ order.status ∉ terminalOrderStatuses ∧
        payload.fromStatus = order.status ∧ order' = order.changeStatus payload := by
  rcases Db.get_apply_cases ws .order orderId db with hkept | ⟨r, hr, hget⟩
  · exact .inl (hkept.symm.trans horder')
  · obtain rfl : r = some order' := hget.symm.trans horder'
    cases h.writes _ hr with
    | @order _ order payload horder hbelief hpolicy =>
      obtain ⟨hstatus, hactive⟩ := hcurrent _ (mem_statusWrites hr)
      have hfrom : payload.fromStatus = order.status := by
        rw [statusIn_eq horder] at hstatus
        exact Option.some.inj (hbelief.symm.trans hstatus)
      refine .inr ⟨order, payload, horder, fun hended => ?_, hfrom, rfl⟩
      rcases hpolicy (hfrom ▸ hended) with hoverride | hunchecked
      · rw [hcall] at hoverride
        cases hoverride
      · exact hactive hunchecked _ (statusIn_eq horder) hended
    | other horder _ _ => exact absurd rfl horder

/-- Orders do not go away. -/
theorem OrderCommit.order_isSome {free : Id → Store → Prop}
    (h : OrderCommit free call reads ws db) {orderId : Id}
    (horder : (db.get (.order, orderId)).isSome) :
    ((db.apply ws).get (.order, orderId)).isSome := by
  rcases Db.get_apply_cases ws .order orderId db with hkept | ⟨r, hr, hget⟩
  · rwa [hkept]
  · rw [hget]
    cases h.writes _ hr with
    | order => rfl
    | other horder _ _ => exact absurd rfl horder

end Commits

/-! ## Runs -/

section Runs

variable {ι : Type} [Fintype ι] [DecidableEq ι] {db₀ : Store} {calls : ι → OrderCall}

/-- The histories are chains, and every order that had ended has the status it had then. -/
structure HistoryKept (log : List (Event ι Row)) (db : Store) : Prop where
  chained : ∀ orderId order, db.get (.order, orderId) = some order → order.Chained
  ended : ∀ e ∈ log, ∀ orderId order, e.db.get (.order, orderId) = some order →
    order.status ∈ terminalOrderStatuses → statusIn orderId db = some order.status

omit [Fintype ι] [DecidableEq ι] in
theorem HistoryKept.snoc {free : Id → Store → Prop} {log : List (Event ι Row)} {e : Event ι Row}
    (h : HistoryKept log e.db)
    (hcommit : OrderCommit free (calls e.call) e.reads e.writes e.db)
    (hcurrent : UpToDate (calls e.call) e.reads e.writes e.db)
    (hcall : (calls e.call).isStatusOverride = false) : HistoryKept (log ++ [e]) e.result := by
  -- an order that has ended before the commit is left as it is
  have hkept : ∀ orderId order, e.db.get (.order, orderId) = some order →
      order.status ∈ terminalOrderStatuses → statusIn orderId e.result = some order.status := by
    intro orderId order horder hended
    have hsome : (e.db.get (.order, orderId)).isSome := by rw [horder]; rfl
    obtain ⟨order', horder'⟩ := Option.isSome_iff_exists.mp (hcommit.order_isSome hsome)
    rcases hcommit.order_cases hcurrent hcall horder' with hsame |
      ⟨order₁, payload, horder₁, hactive, -, -⟩
    · obtain rfl := Option.some.inj (hsame.symm.trans horder)
      exact statusIn_eq horder'
    · obtain rfl := Option.some.inj (horder₁.symm.trans horder)
      exact absurd hended hactive
  refine ⟨fun orderId order' horder' => ?_, fun e' he' orderId order horder hended => ?_⟩
  · rcases hcommit.order_cases hcurrent hcall horder' with hsame |
      ⟨order, payload, horder, -, hfrom, rfl⟩
    · exact h.chained orderId order' hsame
    · exact (h.chained orderId order horder).changeStatus hfrom
  · rcases List.mem_append.mp he' with he' | he'
    · have hstatus := h.ended e' he' orderId order horder hended
      obtain ⟨order₁, horder₁, hstatus₁⟩ := Option.map_eq_some_iff.mp hstatus
      rw [← hstatus₁] at hended ⊢
      exact hkept orderId order₁ horder₁ hended
    · obtain rfl := List.mem_singleton.mp he'
      exact hkept orderId order horder hended

omit [Fintype ι] [DecidableEq ι] in
/-- Nothing is relied on, so there is nothing a lock is needed for. -/
theorem locks_rows (I : Store → Prop) : Locks (.rows I) fun _ _ => True :=
  ⟨fun _ _ _ => True.intro, fun _ _ _ _ _ _ h => h⟩

/-- However the operations interleave, as long as every order whose status is written still has
the status that the operation takes it to have, the histories are chains that lead to the
orders' statuses, and an order that has ended never has another status. -/
theorem status_history_chain
    (hstart : ∀ orderId order, db₀.get (.order, orderId) = some order → order.Chained)
    (hcalls : ∀ i, (calls i).isStatusOverride = false) {m : Machine ι Row Failure Unit}
    {log : List (Event ι Row)}
    (hrun : Machine.Traced (.start db₀ fun i => (calls i).service) log m)
    (hcurrent : ∀ e ∈ log, UpToDate (calls e.call) e.reads e.writes e.db) :
    (∀ orderId order, m.db.get (.order, orderId) = some order → order.Chained) ∧
      ∀ e ∈ log, ∀ orderId order, e.db.get (.order, orderId) = some order →
        order.status ∈ terminalOrderStatuses → statusIn orderId m.db = some order.status := by
  obtain ⟨reads, htrace⟩ := hrun
  have hsound := htrace.sound (R := .rows fun _ => True) (J := HistoryKept)
    (Q := fun i => Commits (fun _ _ => True) (calls i))
    (fun log e _ hkept hok hcommit => .rows True.intro (hkept.snoc hcommit hok (hcalls e.call)))
    True.intro (fun i => (calls i).guarantees (locks_rows _) []) ⟨hstart, by simp⟩ hcurrent
  exact ⟨hsound.2.chained, hsound.2.ended⟩

/-- The customer cancels and the merchant accepts. -/
def cancelAndAccept : Fin 2 → OrderCall :=
  ![.customerCancel teaCustomer 1 none none, .merchant .accept teaMerchant 1 none none]

theorem chained_orderShop : ∀ orderId order,
    orderShop.get (.order, orderId) = some order → order.Chained := by
  intro orderId order horder
  have hmem : (orderId, order) ∈ orderShop.list .order fun _ => true :=
    Db.mem_list.mpr ⟨horder, rfl⟩
  have hall : ∀ o ∈ orderShop.list .order fun _ => true,
      (o.2.statusHistory.map (·.toStatus) = [.placed] ∧ o.2.status = .placed) := by decide
  obtain ⟨hhistory, hstatus⟩ := hall _ hmem
  obtain ⟨entry, hentry, hto⟩ := List.map_eq_singleton_iff.mp hhistory
  dsimp only at hentry hstatus
  exact ⟨by rw [hentry]; exact .singleton _, by rw [hentry, hstatus]; exact congrArg some hto⟩

/-- When the merchant has read the order before the customer's cancellation commits, the order
that was cancelled is accepted, and its history says that it was placed before that. -/
theorem cancelled_then_accepted : ∃ log m,
    Machine.Traced (.start orderShop fun i => (cancelAndAccept i).service) log m ∧
      (∃ e ∈ log, statusIn 1 e.db = some .cancelled) ∧ statusIn 1 m.db = some .merchantAccepted ∧
      ¬ ∀ orderId order, m.db.get (.order, orderId) = some order → order.Chained := by
  have hexec : ((Machine.start orderShop fun i => (cancelAndAccept i).service).exec
      (List.map .run ([0, 1] ++ List.replicate 6 0 ++ List.replicate 3 1))).any (fun m =>
        (m.db.get (.order, 1)).any fun order => order.status == .merchantAccepted &&
          order.statusHistory.map (fun entry => (entry.fromStatus, entry.toStatus)) ==
            [(none, .placed), (some .placed, .cancelled), (some .placed, .merchantAccepted)]) =
      true := by decide
  have hlog : ((Machine.start orderShop fun i => (cancelAndAccept i).service).execEvents
      (List.map .run ([0, 1] ++ List.replicate 6 0 ++ List.replicate 3 1)) fun _ => []).any
        (fun e => statusIn 1 e.db == some .cancelled) = true := by decide
  obtain ⟨m, hm, horder⟩ := (Option.any_eq_true _ _).mp hexec
  obtain ⟨order, hget, horder⟩ := (Option.any_eq_true _ _).mp horder
  simp only [Bool.and_eq_true, beq_iff_eq] at horder
  obtain ⟨e, he, hcancelled⟩ := List.any_eq_true.mp hlog
  refine ⟨_, m, Machine.Traced.exec hm, ⟨e, he, eq_of_beq hcancelled⟩, ?_, fun hchained => ?_⟩
  · rw [statusIn_eq hget, horder.1]
  · have hlinks := (hchained 1 order hget).links
    have hpairs : (order.statusHistory.map fun entry => (entry.fromStatus, entry.toStatus)).IsChain
        fun entry next => next.1 = some entry.2 := (List.isChain_map _).mpr hlinks
    rw [horder.2] at hpairs
    exact absurd hpairs (by decide)

/-- When the merchant reads the order afterwards, it stays cancelled. -/
theorem status_history_chain_teaShop : ∃ log m,
    Machine.Traced (.start orderShop fun i => (cancelAndAccept i).service) log m ∧
      statusIn 1 m.db = some .cancelled ∧
      ∀ orderId order, m.db.get (.order, orderId) = some order → order.Chained := by
  have hexec : ((Machine.start orderShop fun i => (cancelAndAccept i).service).exec
      (List.map .run (List.replicate 7 0 ++ [1]))).any (fun m =>
        statusIn 1 m.db == some .cancelled) = true := by decide
  have hcurrent : ∀ e ∈ (Machine.start orderShop fun i => (cancelAndAccept i).service).execEvents
      (List.map .run (List.replicate 7 0 ++ [1])) fun _ => [],
        UpToDate (cancelAndAccept e.call) e.reads e.writes e.db := by decide
  obtain ⟨m, hm, hstatus⟩ := (Option.any_eq_true _ _).mp hexec
  have hrun := Machine.Traced.exec hm
  exact ⟨_, m, hrun, eq_of_beq hstatus,
    (status_history_chain chained_orderShop (by decide) hrun hcurrent).1⟩

end Runs

end WerTe
