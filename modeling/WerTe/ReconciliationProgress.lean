import WerTe.OrderCommits
import WerTe.ProviderEvents
import WerTe.RefundAmounts
import WerTe.Windowed.Backlog

/-!
# Reconciliation makes progress

The reconciliation job queues the oldest events that are not processed, whether they are new or
have failed before. An event that fails, or is ignored, every time it is retried keeps its place
in front, so that a limit of such events keeps the job from everything that came in later
(`reconciliation_starves`). As long as fewer events than the limit do so in each run, every
verified event has been processed after as many runs as it takes to get through the whole backlog
with what is left of the limit (`reconciliation_progress`).
-/

namespace WerTe

open ReadCommitted Windowed

/-! ## What processing does to events -/

section Events

variable {Ids Status : Type}

/-- What may become of an event: it stays where it is in the order and as verified as it is, it
does not become new again, and once it is processed it stays so. -/
structure ProviderEvent.Advanced (event event' : ProviderEvent Ids Status) : Prop where
  receivedAt : event'.receivedAt = event.receivedAt
  verificationStatus : event'.verificationStatus = event.verificationStatus
  received : event'.processingStatus = .received → event.processingStatus = .received
  processed : event.processingStatus = .processed → event'.processingStatus = .processed

theorem ProviderEvent.Advanced.refl (event : ProviderEvent Ids Status) : event.Advanced event :=
  ⟨rfl, rfl, id, id⟩

theorem ProviderEvent.Advanced.trans {event event' event'' : ProviderEvent Ids Status}
    (h : event.Advanced event') (h' : event'.Advanced event'') : event.Advanced event'' :=
  ⟨h'.receivedAt.trans h.receivedAt, h'.verificationStatus.trans h.verificationStatus,
    fun hr => h.received (h'.received hr), fun hp => h'.processed (h.processed hp)⟩

/-- A verified event that is new. -/
def ProviderEvent.awaitsProcessing (event : ProviderEvent Ids Status) : Bool :=
  isProviderEventVerifiedForProcessing event.verificationStatus &&
    event.processingStatus == .received

variable {find : Store → Id → Option (ProviderEvent Ids Status)} {db db' db'' : Store}

/-- No event comes or goes, and those that are there advance. -/
def EventsAdvance (find : Store → Id → Option (ProviderEvent Ids Status)) (db db' : Store) : Prop :=
  ∀ id, Option.Rel ProviderEvent.Advanced (find db id) (find db' id)

theorem EventsAdvance.refl (db : Store) : EventsAdvance find db db := fun id => by
  cases find db id with
  | none => exact .none
  | some event => exact .some (.refl event)

theorem EventsAdvance.of_eq (h : find db = find db') : EventsAdvance find db db' := fun id => by
  rw [← h]
  exact EventsAdvance.refl db id

theorem EventsAdvance.trans (h : EventsAdvance find db db') (h' : EventsAdvance find db' db'') :
    EventsAdvance find db db'' := fun id => by
  have hfirst := h id
  have hsecond := h' id
  generalize find db id = o at hfirst
  generalize find db' id = o' at hfirst hsecond
  generalize find db'' id = o'' at hsecond
  cases hfirst with
  | none => cases hsecond; exact .none
  | some hadvanced =>
    cases hsecond with
    | some hadvanced' => exact .some (hadvanced.trans hadvanced')

/-- The event that an event comes from. -/
theorem EventsAdvance.before (h : EventsAdvance find db db') {id : Id}
    {event' : ProviderEvent Ids Status} (hevent' : find db' id = some event') :
    ∃ event, find db id = some event ∧ event.Advanced event' := by
  have hrel := h id
  rw [hevent'] at hrel
  generalize find db id = o at hrel
  cases hrel with
  | some hadvanced => exact ⟨_, rfl, hadvanced⟩

/-- An event that is not new, if it is there. -/
def NotReceived (find : Store → Id → Option (ProviderEvent Ids Status)) (db : Store) (id : Id) :
    Prop := ∀ event, find db id = some event → event.processingStatus ≠ .received

theorem NotReceived.advances {id : Id} (h : NotReceived find db id)
    (hadvances : EventsAdvance find db db') : NotReceived find db' id := by
  intro event' hevent' hreceived
  obtain ⟨event, hevent, hadvanced⟩ := hadvances.before hevent'
  exact h event hevent (hadvanced.received hreceived)

end Events

/-! ## One processing of one event -/

namespace ProviderEventProcessor

variable {Ids Status Target Action : Type}
  {processor : ProviderEventProcessor Ids Status Target Action} {databaseMessage : Failure → String}
  {table : Tbl}

/-- The processor keeps its events in a table that its actions leave alone. -/
structure Lawful (processor : ProviderEventProcessor Ids Status Target Action) (table : Tbl) :
    Prop where
  findEvent : ∀ {db db' : Store}, Db.SameOn (· = table) db db' →
    processor.findEvent db = processor.findEvent db'
  updateEvent : ∀ {db : Store} {eventId : Id} {event : ProviderEvent Ids Status} payload,
    processor.findEvent db eventId = some event → ∃ db',
      (processor.updateEvent eventId payload).run db = .ok ((), db') ∧
      processor.findEvent db' eventId = some (event.withProcessingState payload) ∧
      ∀ id, id ≠ eventId → processor.findEvent db' id = processor.findEvent db id
  updateEvent_writes : ∀ eventId payload,
    (processor.updateEvent eventId payload).Writes (·.table = table)
  applyLifecycleAction_writes : ∀ event target action,
    (processor.applyLifecycleAction event target action).Writes fun w =>
      w.table ≠ .paymentProviderEvent ∧ w.table ≠ .refundProviderEvent
  table_eq : table = .paymentProviderEvent ∨ table = .refundProviderEvent

/-- The event has been handled, and the others are left as they were. -/
def Handles (processor : ProviderEventProcessor Ids Status Target Action) (eventId : Id)
    (db db' : Store) : Prop :=
  EventsAdvance processor.findEvent db db' ∧ NotReceived processor.findEvent db' eventId

variable {db : Store} {eventId : Id} {event : ProviderEvent Ids Status}

/-- An event that is not processed may be marked. -/
theorem mark_ends (h : processor.Lawful table) (hfind : processor.findEvent db eventId = some event)
    (hevent : event.processingStatus ≠ .processed) {payload : ProcessingStateInput Ids}
    (hpayload : payload.processingStatus ≠ .received) {Q : Except Failure Unit → Store → Prop}
    (hQ : ∀ db', processor.Handles eventId db db' → Q (.ok ()) db') :
    (Service.transaction (processor.updateEvent eventId payload)).Ends db Q := by
  obtain ⟨db₁, hrun, hmarked, hothers⟩ := h.updateEvent payload hfind
  refine .transaction (fun u db' hok => ?_) fun e herror => ?_
  · rw [hrun] at hok
    cases hok
    refine hQ db₁ ⟨fun id => ?_, fun event' hevent' => ?_⟩
    · by_cases hid : id = eventId
      · subst hid
        rw [hfind, hmarked]
        exact .some ⟨rfl, rfl, fun hr => absurd hr hpayload, fun hp => absurd hp hevent⟩
      · rw [hothers id hid]
        exact EventsAdvance.refl db id
    · rw [hmarked] at hevent'
      cases hevent'
      exact hpayload
  · rw [hrun] at herror
    cases herror

/-- The action does not touch the events. -/
theorem Lawful.sameOn (h : processor.Lawful table) (event : ProviderEvent Ids Status)
    (target : Target) (action : Action) (db : Store) : processor.findEvent db =
      processor.findEvent ((processor.applyLifecycleAction event target action).run db).2 := by
  refine h.findEvent (Service.Writes.sameOn ((h.applyLifecycleAction_writes event target
    action).mono fun w hw htable => ?_))
  obtain rfl | rfl := h.table_eq
  · exact hw.1 htable
  · exact hw.2 htable

theorem applyAndMark_ends (h : processor.Lawful table)
    (hfind : processor.findEvent db eventId = some event)
    (hevent : event.processingStatus ≠ .processed) (target : Target) (action : Action) :
    (processor.applyAndMark databaseMessage eventId event target action).Ends db
      fun _ db' => processor.Handles eventId db db' := by
  have hsame := h.sameOn event target action db
  have happly := Service.run_attempt (processor.applyLifecycleAction event target action) db
  generalize hdb₁ : ((processor.applyLifecycleAction event target action).run db).2 = db₁
    at hsame happly
  have hfind₁ : processor.findEvent db₁ eventId = some event := hsame ▸ hfind
  have hhandles : ∀ db', processor.Handles eventId db₁ db' → processor.Handles eventId db db' :=
    fun db' hdb' => ⟨(EventsAdvance.of_eq hsame).trans hdb'.1, hdb'.2⟩
  refine .bind (.of_run happly ?_)
  generalize ((processor.applyLifecycleAction event target action).run db).1 = outcome
  cases outcome with
  | ok u =>
    exact .get_bind (mark_ends h hfind₁ hevent (fun hr => by cases hr) hhandles)
  | error e =>
    exact .bind (mark_ends h hfind₁ hevent (fun hr => by cases hr) fun db' hdb' =>
      .throw (hhandles db' hdb'))

/-- Whatever comes of it, an event that should be processed has been handled, and no other event
is touched. -/
theorem processProviderEvent_ends (h : processor.Lawful table) (db : Store) (eventId : Id)
    (retryTerminal : Bool) :
    (processor.processProviderEvent databaseMessage eventId retryTerminal).Ends db fun _ db' =>
      EventsAdvance processor.findEvent db db' ∧
        (retryTerminal = true → NotReceived processor.findEvent db' eventId) := by
  have hhandles : ∀ db', processor.Handles eventId db db' →
      EventsAdvance processor.findEvent db db' ∧
        (retryTerminal = true → NotReceived processor.findEvent db' eventId) :=
    fun db' hdb' => ⟨hdb'.1, fun _ => hdb'.2⟩
  refine .get_bind (.orFail_bind (fun event hfind => ?_) fun hnone => ?_)
  · split
    case isTrue hskip =>
      refine .ret ⟨EventsAdvance.refl db, fun hretry event' hevent' => ?_⟩
      rw [hfind] at hevent'
      cases hevent'
      rw [hretry] at hskip
      intro hreceived
      rw [hreceived] at hskip
      cases hskip
    case isFalse hprocess =>
      have hevent : event.processingStatus ≠ .processed := by
        intro hprocessed
        rw [hprocessed] at hprocess
        exact hprocess (by cases retryTerminal <;> rfl)
      split
      case isTrue => exact mark_ends h hfind hevent (fun hr => by cases hr) hhandles
      case isFalse =>
        cases processor.resolveLifecycleAction event.normalizedStatus with
        | none => exact mark_ends h hfind hevent (fun hr => by cases hr) hhandles
        | some action =>
          refine .get_bind ?_
          cases processor.resolveTarget db event with
          | none => exact mark_ends h hfind hevent (fun hr => by cases hr) hhandles
          | some target =>
            dsimp only
            split
            · exact mark_ends h hfind hevent (fun hr => by cases hr) hhandles
            · exact (applyAndMark_ends h hfind hevent target action).mono fun _ db' => hhandles db'
  · exact ⟨EventsAdvance.refl db, fun _ event hevent => by rw [hnone] at hevent; cases hevent⟩

/-- Processing an event of one table does not touch the events of the other. -/
theorem processProviderEvent_writes (h : processor.Lawful table) (eventId : Id)
    (retryTerminal : Bool) :
    (processor.processProviderEvent databaseMessage eventId retryTerminal).Writes fun w =>
      w.table = table ∨ w.table ≠ .paymentProviderEvent ∧ w.table ≠ .refundProviderEvent := by
  have hmark : ∀ payload, (Service.transaction (processor.updateEvent eventId payload)).Writes
      fun w => w.table = table ∨
        w.table ≠ .paymentProviderEvent ∧ w.table ≠ .refundProviderEvent := fun payload =>
    .transaction ((h.updateEvent_writes eventId payload).mono fun w hw => .inl hw)
  refine .bind (.get _) fun found => .bind (.orFail _ _) fun event => ?_
  split
  · exact .ret ()
  · split
    · exact hmark _
    · cases processor.resolveLifecycleAction event.normalizedStatus with
      | none => exact hmark _
      | some action =>
        refine .bind (.get _) fun found => ?_
        cases found with
        | none => exact hmark _
        | some target =>
          dsimp only
          split
          · exact hmark _
          · refine .bind ((h.applyLifecycleAction_writes event target action).mono fun w hw =>
              .inr hw).attempt fun outcome => ?_
            cases outcome with
            | ok u => exact .bind (.get _) fun _ => hmark _
            | error e => exact .bind (hmark _) fun _ => .throw e

end ProviderEventProcessor

/-! ## The two processors -/

/-- The write is not of a provider event. -/
def NoEventWrite (w : Write Row) : Prop :=
  w.table ≠ .paymentProviderEvent ∧ w.table ≠ .refundProviderEvent

theorem StockWrite.noEvent {w : Write Row} (h : StockWrite w) : NoEventWrite w :=
  (by decide : ∀ t ∈ stockTables, t ≠ .paymentProviderEvent ∧ t ≠ .refundProviderEvent) _ h

theorem handlePaymentTransition_writes (currentUser : AuthenticatedUser)
    (input : PaymentLifecycleInput) (config : PaymentLifecycleConfig) :
    (handlePaymentTransition currentUser input config).Writes NoEventWrite := by
  have htransition : ∀ payload,
      (PaymentsRepository.transitionPaymentStatus input.paymentId payload).Writes
        NoEventWrite := fun payload =>
    .bind (.updateExisting fun _ => by simp [NoEventWrite]) fun _ => .bind .read fun found => by
      cases found <;> exact True.intro
  refine .bind (.require _ _) fun _ => .bind (.get _) fun _ => .bind (.orFail _ _) fun payment => ?_
  split
  · exact .ret ()
  · refine .bind (.require _ _) fun _ => .transaction (.bind (htransition _)
      fun transitioned => ?_)
    split
    · refine .bind .read fun orderDetail => .bind
        (.updateExisting fun _ => by simp [NoEventWrite]) fun _ => ?_
      cases orderDetail with
      | none => exact .ret ()
      | some record =>
        dsimp only
        split
        · exact (restoreTrackedInventoryForOrder_writes _).mono fun _ => StockWrite.noEvent
        · exact .ret ()
    · exact .ret ()

open RefundOperations in
theorem finalizeCurrentAdminRefund_writes (decimals : DecimalRuntime)
    (currentUser : AuthenticatedUser) (input : FinalizeRefundInput)
    (config : FinalizeRefundConfig) :
    (finalizeCurrentAdminRefund decimals currentUser input config).Writes NoEventWrite := by
  have htransition : ∀ payload,
      (RefundsRepository.transitionRefundStatus input.refundId payload).Writes
        NoEventWrite := fun payload =>
    .bind (.updateExisting fun _ => by simp [NoEventWrite]) fun _ => .bind .read fun found => by
      cases found <;> exact True.intro
  refine .bind (.require _ _) fun _ => .bind (.get _) fun _ => .bind (.orFail _ _) fun refund => ?_
  split
  · exact .ret ()
  · refine .bind (.require _ _) fun _ => .transaction (.bind (htransition _)
      fun transitioned => ?_)
    split
    · refine .bind .read fun found => .bind (by cases found <;> exact True.intro) fun payment => ?_
      refine .bind ?_ fun _ => .updateExisting fun _ => by simp [NoEventWrite]
      generalize (decimals.column (computeSucceededRefundAmount decimals payment)).bind
        Numeral.Decimal.number = stored
      cases stored <;> exact True.intro
    · exact .ret ()

/-- An update of a row that is there changes it and no other. -/
theorem updateExisting_frame {t : Tbl} {db : Store} {id : Id} {r : Row t} (f : Row t → Row t)
    (hget : db.get (t, id) = some r) : ∃ db',
      (Tx.updateExisting (t, id) f .recordNotFound : StoreTx Unit).run db = .ok ((), db') ∧
      db'.get (t, id) = some (f r) ∧ ∀ i, i ≠ id → db'.get (t, i) = db.get (t, i) := by
  have hself : (db.put ⟨t, id, some (f r)⟩).get (t, id) = some (f r) := Db.get_put_self ..
  exact ⟨_, Tx.run_updateExisting hget, hself,
    fun i hi => Db.get_put_ne _ fun h => hi (congrArg Prod.snd h)⟩

theorem paymentProviderEventProcessor_lawful :
    paymentProviderEventProcessor.Lawful .paymentProviderEvent where
  findEvent h := funext fun _ => h.get rfl
  updateEvent payload hfind :=
    updateExisting_frame (t := .paymentProviderEvent)
      (fun event => (event : PaymentProviderEvent).withProcessingState payload) hfind
  updateEvent_writes eventId payload := .updateExisting fun _ => rfl
  applyLifecycleAction_writes event target action := by
    cases action <;> exact handlePaymentTransition_writes ..
  table_eq := .inl rfl

theorem refundProviderEventProcessor_lawful (decimals : DecimalRuntime) :
    (refundProviderEventProcessor decimals).Lawful .refundProviderEvent where
  findEvent h := funext fun _ => h.get rfl
  updateEvent payload hfind :=
    updateExisting_frame (t := .refundProviderEvent)
      (fun event => (event : RefundProviderEvent).withProcessingState payload) hfind
  updateEvent_writes eventId payload := .updateExisting fun _ => rfl
  applyLifecycleAction_writes event target action := by
    cases action <;> exact finalizeCurrentAdminRefund_writes ..
  table_eq := .inr rfl

/-! ## A table of events as a backlog -/

section Backlogs

variable {Ids Status : Type} {find : Store → Id → Option (ProviderEvent Ids Status)}
  {listed : Store → List (Id × ProviderEvent Ids Status)} {db db' : Store}

/-- The events wait in the order of their keys, and those that are new have not been served. -/
def backlogOf (events : List (Id × ProviderEvent Ids Status)) : Backlog (ℤ ×ₗ ℕ) where
  waiting := (events.map eventKey).toFinset
  fresh := ((events.filter (·.2.processingStatus == .received)).map eventKey).toFinset
  fresh_subset := fun _ hkey => List.mem_toFinset.mpr
    ((List.filter_sublist.map eventKey).subset (List.mem_toFinset.mp hkey))

/-- The list of a table's processable events. -/
structure ListsProcessable (find : Store → Id → Option (ProviderEvent Ids Status))
    (listed : Store → List (Id × ProviderEvent Ids Status)) : Prop where
  mem : ∀ {db : Store} {id : Id} {event : ProviderEvent Ids Status},
    (id, event) ∈ listed db ↔ find db id = some event ∧ event.isProcessable = true
  nodup : ∀ db : Store, ((listed db).map Prod.fst).Nodup

theorem nodup_eventKey {events : List (Id × ProviderEvent Ids Status)}
    (h : (events.map Prod.fst).Nodup) : (events.map eventKey).Nodup := by
  refine .of_map (fun key : ℤ ×ₗ ℕ => (ofLex key).2) ?_
  rw [List.map_map]
  exact h

/-- The keys of the first events are the first keys. -/
theorem map_takeProcessable (limit : ℕ) (events : List (Id × ProviderEvent Ids Status)) :
    (takeProcessable limit events).map eventKey =
      ((events.map eventKey).insertionSort (· ≤ ·)).take limit := by
  rw [takeProcessable, List.map_take]
  exact congrArg (List.take limit)
    (List.map_insertionSort _ _ _ _ fun left _ right _ => Iff.rfl)

/-- The event is there and not processed. -/
def isLeftBehind (find : Store → Id → Option (ProviderEvent Ids Status)) (db : Store) (id : Id) :
    Bool := (find db id).any fun event => event.processingStatus != .processed

/-- How many of the events are not processed. -/
def leftBehind (find : Store → Id → Option (ProviderEvent Ids Status)) (db : Store)
    (eventIds : List Id) : ℕ := (eventIds.filter (isLeftBehind find db)).length

/-- An event that may be processed is not processed. -/
theorem ProviderEvent.ne_processed {event : ProviderEvent Ids Status}
    (h : event.isProcessable = true) : event.processingStatus ≠ .processed := by
  intro hprocessed
  rw [ProviderEvent.isProcessable, hprocessed] at h
  exact absurd (Bool.and_eq_true_iff.mp h).2 (by decide)

/-- An event that may be processed comes from one that could be. -/
theorem ProviderEvent.Advanced.isProcessable {event event' : ProviderEvent Ids Status}
    (h : event.Advanced event') (h' : event'.isProcessable = true) :
    event.isProcessable = true := by
  have hne := ProviderEvent.ne_processed h'
  rw [ProviderEvent.isProcessable, Bool.and_eq_true] at h' ⊢
  refine ⟨h.verificationStatus ▸ h'.1, ?_⟩
  cases hstatus : event.processingStatus with
  | processed => exact absurd (h.processed hstatus) hne
  | received | failed | ignored => rfl

theorem ProviderEvent.Advanced.eventKey {event event' : ProviderEvent Ids Status}
    (h : event.Advanced event') (id : Id) : eventKey (id, event') = eventKey (id, event) := by
  rw [WerTe.eventKey, WerTe.eventKey, h.receivedAt]

/-- One round: the queued events have been handled, and at most `stay` of them are left. -/
theorem serves_of_advances (hlisted : ListsProcessable find listed) {limit stay : ℕ}
    (hadvances : EventsAdvance find db db')
    (hqueued : ∀ id ∈ (takeProcessable limit (listed db)).map Prod.fst, NotReceived find db' id)
    (hstay : leftBehind find db' ((takeProcessable limit (listed db)).map Prod.fst) ≤ stay) :
    Serves limit stay ((takeProcessable limit (listed db)).map eventKey).toFinset
      (backlogOf (listed db)) (backlogOf (listed db')) := by
  have hbefore : ∀ {id : Id} {event' : ProviderEvent Ids Status}, (id, event') ∈ listed db' →
      ∃ event, (id, event) ∈ listed db ∧ event.Advanced event' ∧ find db' id = some event' := by
    intro id event' hevent'
    obtain ⟨hfind', hprocessable⟩ := hlisted.mem.mp hevent'
    obtain ⟨event, hfind, hadvanced⟩ := hadvances.before hfind'
    exact ⟨event, hlisted.mem.mpr ⟨hfind, hadvanced.isProcessable hprocessable⟩, hadvanced, hfind'⟩
  -- a key of the window is that of a queued event
  have hid : ∀ {id : Id} {event : ProviderEvent Ids Status},
      eventKey (id, event) ∈ (takeProcessable limit (listed db)).map eventKey →
      id ∈ (takeProcessable limit (listed db)).map Prod.fst := by
    intro id event hkey
    obtain ⟨row, hrow, heq⟩ := List.mem_map.mp hkey
    refine List.mem_map.mpr ⟨row, hrow, ?_⟩
    exact congrArg (fun key : ℤ ×ₗ ℕ => (ofLex key).2) heq
  refine ⟨?_, fun key hkey => ?_, fun key hkey => ?_, ?_⟩
  · rw [map_takeProcessable]
    exact isWindow_take (nodup_eventKey (hlisted.nodup db)) limit
  · obtain ⟨⟨id, event'⟩, hevent', rfl⟩ := List.mem_map.mp (List.mem_toFinset.mp hkey)
    obtain ⟨event, hevent, hadvanced, -⟩ := hbefore hevent'
    rw [hadvanced.eventKey]
    exact List.mem_toFinset.mpr (List.mem_map_of_mem hevent)
  · obtain ⟨⟨id, event'⟩, hevent', rfl⟩ := List.mem_map.mp (List.mem_toFinset.mp hkey)
    obtain ⟨hlisted', hreceived⟩ := List.mem_filter.mp hevent'
    obtain ⟨event, hevent, hadvanced, hfind'⟩ := hbefore hlisted'
    have hstatus := eq_of_beq hreceived
    refine ⟨?_, fun hwindow => ?_⟩
    · rw [hadvanced.eventKey]
      exact List.mem_toFinset.mpr (List.mem_map_of_mem (List.mem_filter.mpr
        ⟨hevent, beq_iff_eq.mpr (hadvanced.received hstatus)⟩))
    · exact hqueued id (hid (List.mem_toFinset.mp hwindow)) event' hfind' hstatus
  · -- what stays in the window is left behind
    have hcover : (backlogOf (listed db')).waiting ∩
          ((takeProcessable limit (listed db)).map eventKey).toFinset ⊆
        (((takeProcessable limit (listed db)).filter fun row =>
          isLeftBehind find db' row.1).map eventKey).toFinset := by
      intro key hkey
      obtain ⟨hwaiting, hwindow⟩ := Finset.mem_inter.mp hkey
      obtain ⟨⟨id, event'⟩, hevent', heq⟩ := List.mem_map.mp (List.mem_toFinset.mp hwaiting)
      obtain ⟨row, hrow, rfl⟩ := List.mem_map.mp (List.mem_toFinset.mp hwindow)
      obtain rfl : id = row.1 := congrArg (fun key : ℤ ×ₗ ℕ => (ofLex key).2) heq
      obtain ⟨hfind', hprocessable⟩ := hlisted.mem.mp hevent'
      refine List.mem_toFinset.mpr (List.mem_map_of_mem (List.mem_filter.mpr ⟨hrow, ?_⟩))
      rw [isLeftBehind, hfind']
      exact bne_iff_ne.mpr (ProviderEvent.ne_processed hprocessable)
    refine (Finset.card_le_card hcover).trans ((List.toFinset_card_le _).trans ?_)
    rw [List.length_map]
    rwa [leftBehind, List.filter_map, List.length_map] at hstay

/-- Enough rounds leave no verified event of the table new. -/
theorem notAwaits_of_rounds (hlisted : ListsProcessable find listed) {κ : Type*}
    {run : κ → Store → Store} {limit stay : ℕ} (hstay : stay < limit) {rounds : List κ}
    (hadvances : ∀ round db, EventsAdvance find db (run round db))
    (hrounds : MeetAll run (fun round db =>
      (∀ id ∈ (takeProcessable limit (listed db)).map Prod.fst,
        NotReceived find (run round db) id) ∧
      leftBehind find (run round db) ((takeProcessable limit (listed db)).map Prod.fst) ≤ stay)
      rounds db)
    (hlength : (listed db).length ⌈/⌉ (limit - stay) ≤ rounds.length) {id : Id}
    {event : ProviderEvent Ids Status}
    (hevent : find (runAll run rounds db) id = some event) : event.awaitsProcessing = false := by
  have hpos : 0 < limit - stay := Nat.sub_pos_of_lt hstay
  have hwaiting : (backlogOf (listed db)).waiting.card ≤ (listed db).length :=
    (List.toFinset_card_le _).trans_eq (List.length_map _)
  have hfresh : (backlogOf (listed (runAll run rounds db))).fresh = ∅ := by
    have hserves : MeetAll run (ServesRound run (fun db => backlogOf (listed db)) limit stay)
        rounds db :=
      hrounds.mono (fun round db h =>
        ⟨_, serves_of_advances hlisted (hadvances round db) h.1 h.2⟩) rounds
    refine fresh_eq_empty hstay hserves ((ceilDiv_le_iff_le_mul hpos).mpr (hwaiting.trans ?_))
    exact (ceilDiv_le_iff_le_mul hpos).mp hlength
  -- an event that awaits processing is listed, and new
  by_contra hawaits
  have hawaits := Bool.eq_true_of_not_eq_false hawaits
  rw [ProviderEvent.awaitsProcessing, Bool.and_eq_true] at hawaits
  have hprocessable : event.isProcessable = true := by
    rw [ProviderEvent.isProcessable, eq_of_beq hawaits.2, Bool.and_eq_true]
    exact ⟨hawaits.1, rfl⟩
  have hmem : eventKey (id, event) ∈ (backlogOf (listed (runAll run rounds db))).fresh :=
    List.mem_toFinset.mpr (List.mem_map_of_mem (List.mem_filter.mpr
      ⟨hlisted.mem.mpr ⟨hevent, hprocessable⟩, hawaits.2⟩))
  rw [hfresh] at hmem
  cases hmem

end Backlogs

/-! ## Runs of the job -/

/-- A job of the queue that processes one event. -/
inductive ProviderEventCall
  | payment (eventId : Id) (retryTerminal : Bool)
  | refund (eventId : Id) (retryTerminal : Bool)
deriving DecidableEq

section Runs

variable (decimals : DecimalRuntime) (databaseMessage : Failure → String)

def ProviderEventCall.service : ProviderEventCall → StoreService Unit
  | payment eventId retryTerminal =>
    paymentProviderEventProcessor.processProviderEvent databaseMessage eventId retryTerminal
  | refund eventId retryTerminal =>
    (refundProviderEventProcessor decimals).processProviderEvent databaseMessage eventId
      retryTerminal

def ProviderEventCall.run (call : ProviderEventCall) (db : Store) : Store :=
  ((call.service decimals databaseMessage).run db).2

/-- What is processed after one run of the job and before the next. -/
def runRound (calls : List ProviderEventCall) (db : Store) : Store :=
  runAll (ProviderEventCall.run decimals databaseMessage) calls db

end Runs

section Progress

open PaymentsRepository (findPaymentProviderEventById)
open RefundsRepository (findRefundProviderEventById)
open ProviderWebhookReconciliationJob

variable {decimals : DecimalRuntime} {databaseMessage : Failure → String}

/-- Processing an event of one kind leaves those of the other kind as they are. -/
theorem ProviderEventProcessor.processProviderEvent_other
    {Ids Status Target Action Ids' Status' Target' Action' : Type} {table table' : Tbl}
    {processor : ProviderEventProcessor Ids Status Target Action}
    {processor' : ProviderEventProcessor Ids' Status' Target' Action'}
    (h : processor.Lawful table) (h' : processor'.Lawful table') (hne : table' ≠ table)
    (db : Store) (eventId : Id) (retryTerminal : Bool) :
    EventsAdvance processor'.findEvent db
      ((processor.processProviderEvent databaseMessage eventId retryTerminal).run db).2 := by
  refine .of_eq (h'.findEvent (Service.Writes.sameOn
    ((processProviderEvent_writes h eventId retryTerminal).mono fun w hw htable => ?_)))
  rcases hw with hw | hw
  · exact hne (htable.symm.trans hw)
  · obtain rfl | rfl := h'.table_eq
    · exact hw.1 htable
    · exact hw.2 htable

namespace ProviderEventCall

theorem run_advances_payment (call : ProviderEventCall) (db : Store) :
    EventsAdvance findPaymentProviderEventById db (call.run decimals databaseMessage db) := by
  cases call with
  | payment eventId retryTerminal =>
    exact (ProviderEventProcessor.processProviderEvent_ends
      paymentProviderEventProcessor_lawful db eventId retryTerminal).run.1
  | refund eventId retryTerminal =>
    exact ProviderEventProcessor.processProviderEvent_other
      (refundProviderEventProcessor_lawful decimals) paymentProviderEventProcessor_lawful
      (by decide) db eventId retryTerminal

theorem run_advances_refund (call : ProviderEventCall) (db : Store) :
    EventsAdvance findRefundProviderEventById db (call.run decimals databaseMessage db) := by
  cases call with
  | payment eventId retryTerminal =>
    exact ProviderEventProcessor.processProviderEvent_other
      paymentProviderEventProcessor_lawful (refundProviderEventProcessor_lawful decimals)
      (by decide) db eventId retryTerminal
  | refund eventId retryTerminal =>
    exact (ProviderEventProcessor.processProviderEvent_ends
      (refundProviderEventProcessor_lawful decimals) db eventId retryTerminal).run.1

/-- A retried event is not new after it. -/
theorem payment_notReceived (eventId : Id) (db : Store) :
    NotReceived findPaymentProviderEventById
      ((payment eventId true).run decimals databaseMessage db) eventId :=
  (ProviderEventProcessor.processProviderEvent_ends
    paymentProviderEventProcessor_lawful db eventId true).run.2 rfl

theorem refund_notReceived (eventId : Id) (db : Store) :
    NotReceived findRefundProviderEventById
      ((refund eventId true).run decimals databaseMessage db) eventId :=
  (ProviderEventProcessor.processProviderEvent_ends
    (refundProviderEventProcessor_lawful decimals) db eventId true).run.2 rfl

end ProviderEventCall

theorem runRound_advances_payment (calls : List ProviderEventCall) : ∀ db : Store,
    EventsAdvance findPaymentProviderEventById db (runRound decimals databaseMessage calls db) := by
  induction calls with
  | nil => exact EventsAdvance.refl
  | cons call calls ih => exact fun db => (call.run_advances_payment db).trans (ih _)

theorem runRound_advances_refund (calls : List ProviderEventCall) : ∀ db : Store,
    EventsAdvance findRefundProviderEventById db (runRound decimals databaseMessage calls db) := by
  induction calls with
  | nil => exact EventsAdvance.refl
  | cons call calls ih => exact fun db => (call.run_advances_refund db).trans (ih _)

/-- An event that has been retried somewhere in the round is not new after it. -/
theorem runRound_notReceived_payment {eventId : Id} {calls : List ProviderEventCall}
    (hcall : .payment eventId true ∈ calls) (db : Store) :
    NotReceived findPaymentProviderEventById (runRound decimals databaseMessage calls db)
      eventId := by
  obtain ⟨before, after, rfl⟩ := List.append_of_mem hcall
  rw [runRound, runAll_append]
  exact (ProviderEventCall.payment_notReceived eventId _).advances
    (runRound_advances_payment after _)

theorem runRound_notReceived_refund {eventId : Id} {calls : List ProviderEventCall}
    (hcall : .refund eventId true ∈ calls) (db : Store) :
    NotReceived findRefundProviderEventById (runRound decimals databaseMessage calls db)
      eventId := by
  obtain ⟨before, after, rfl⟩ := List.append_of_mem hcall
  rw [runRound, runAll_append]
  exact (ProviderEventCall.refund_notReceived eventId _).advances
    (runRound_advances_refund after _)

/-- Everything that a run of the job queues is processed, in any order and with whatever else. -/
def ProcessesQueued (limit : Option ℚ) (calls : List ProviderEventCall) (db : Store) : Prop :=
  (∀ eventId ∈ (queuedEvents limit db).1, .payment eventId true ∈ calls) ∧
    ∀ eventId ∈ (queuedEvents limit db).2, .refund eventId true ∈ calls

/-- At most `stay` of the queued events of each kind are not processed with success. -/
def LeavesBehind (decimals : DecimalRuntime) (databaseMessage : Failure → String)
    (limit : Option ℚ) (stay : ℕ) (calls : List ProviderEventCall) (db : Store) : Prop :=
  leftBehind findPaymentProviderEventById (runRound decimals databaseMessage calls db)
      (queuedEvents limit db).1 ≤ stay ∧
    leftBehind findRefundProviderEventById (runRound decimals databaseMessage calls db)
      (queuedEvents limit db).2 ≤ stay

/-- The number of stored events. -/
def storedEvents (db : Store) : ℕ :=
  (db.list .paymentProviderEvent fun _ => true).length +
    (db.list .refundProviderEvent fun _ => true).length

/-- No verified event is new. -/
def NoneAwaits (db : Store) : Prop :=
  (∀ id event, findPaymentProviderEventById db id = some event →
      event.awaitsProcessing = false) ∧
    ∀ id event, findRefundProviderEventById db id = some event → event.awaitsProcessing = false

theorem length_list_le (db : Store) (t : Tbl) (p : Row t → Bool) :
    (db.list t p).length ≤ (db.list t fun _ => true).length := by
  simpa only [Db.list, List.filter_true] using List.length_filter_le _ _

theorem listsProcessable_payment : ListsProcessable findPaymentProviderEventById fun (db : Store) =>
    db.list .paymentProviderEvent fun event => event.isProcessable where
  mem := Db.mem_list (t := Tbl.paymentProviderEvent)
  nodup db := Db.list_nodup db .paymentProviderEvent _

theorem listsProcessable_refund : ListsProcessable findRefundProviderEventById fun (db : Store) =>
    db.list .refundProviderEvent fun event => event.isProcessable where
  mem := Db.mem_list (t := Tbl.refundProviderEvent)
  nodup db := Db.list_nodup db .refundProviderEvent _

/-- If in each run fewer events than the limit stay behind, every verified event has been
processed after as many runs as it takes to get through what is stored. -/
theorem reconciliation_progress {limit : Option ℚ} {stay : ℕ} (hstay : stay < resolveLimit limit)
    {rounds : List (List ProviderEventCall)} {db : Store}
    (hrounds : MeetAll (runRound decimals databaseMessage) (fun calls db =>
      ProcessesQueued limit calls db ∧ LeavesBehind decimals databaseMessage limit stay calls db)
      rounds db)
    (hlength : storedEvents db ⌈/⌉ (resolveLimit limit - stay) ≤ rounds.length) :
    NoneAwaits (runAll (runRound decimals databaseMessage) rounds db) := by
  have hpos : 0 < resolveLimit limit - stay := Nat.sub_pos_of_lt hstay
  have henough : ∀ n, n ≤ storedEvents db → n ⌈/⌉ (resolveLimit limit - stay) ≤ rounds.length :=
    fun n hn => (ceilDiv_le_iff_le_mul hpos).mpr
      (hn.trans ((ceilDiv_le_iff_le_mul hpos).mp hlength))
  refine ⟨fun id event hevent => ?_, fun id event hevent => ?_⟩
  · refine notAwaits_of_rounds listsProcessable_payment hstay runRound_advances_payment
      (hrounds.mono (fun calls db h => ⟨fun eventId hqueued => ?_, h.2.1⟩) rounds)
      (henough _ ((length_list_le db _ _).trans (Nat.le_add_right _ _))) hevent
    exact runRound_notReceived_payment (h.1.1 eventId hqueued) db
  · refine notAwaits_of_rounds listsProcessable_refund hstay runRound_advances_refund
      (hrounds.mono (fun calls db h => ⟨fun eventId hqueued => ?_, h.2.2⟩) rounds)
      (henough _ ((length_list_le db _ _).trans (Nat.le_add_left _ _))) hevent
    exact runRound_notReceived_refund (h.1.2 eventId hqueued) db

/-! ## Two backlogs -/

/-- A webhook event of the first payment. -/
def paidEvent : PaymentProviderEvent where
  provider := .wavePay
  providerEventId := none
  eventType := "payment.updated"
  ids := ⟨some 1, none⟩
  providerReference := none
  normalizedStatus := some .succeeded
  verificationStatus := .verified
  processingStatus := .received
  failureCode := none
  failureMessage := none
  receivedAt := 2

/-- One that has been ignored, and is so again whenever it is retried: it names no payment. -/
def unmatchedEvent : PaymentProviderEvent :=
  { paidEvent with ids := ⟨none, none⟩, processingStatus := .ignored, receivedAt := 1 }

/-- The order shop with a payment that is under way and two events. -/
def webhookShop (older newer : PaymentProviderEvent) : Store := orderShop.apply [
  ⟨.payment, 1, some { teaPayment with provider := .wavePay, status := .processing }⟩,
  ⟨.paymentProviderEvent, 1, some older⟩, ⟨.paymentProviderEvent, 2, some newer⟩]

/-- Two events of one payment, one in each run. -/
theorem reconciliation_progress_webhookShop :
    NoneAwaits (runAll (runRound sampleDecimals fun _ => "")
      [[.payment 1 true], [.payment 2 true]]
      (webhookShop { paidEvent with receivedAt := 1 } paidEvent)) := by
  refine @reconciliation_progress _ _ (some 1) 0 ?_ _ _ ⟨⟨?_, ?_⟩, ⟨?_, ?_⟩, True.intro⟩ ?_
  · decide +kernel
  · exact ⟨by decide +kernel, by decide +kernel⟩
  · exact ⟨by decide +kernel, by decide +kernel⟩
  · exact ⟨by decide +kernel, by decide +kernel⟩
  · exact ⟨by decide +kernel, by decide +kernel⟩
  · decide +kernel

/-- With a limit of one, an older event that is ignored each time keeps a verified one from being
processed. -/
theorem reconciliation_starves : ∃ db rounds,
    MeetAll (runRound sampleDecimals fun _ => "") (ProcessesQueued (some 1)) rounds db ∧
      storedEvents db ⌈/⌉ resolveLimit (some 1) ≤ rounds.length ∧
      ¬ NoneAwaits (runAll (runRound sampleDecimals fun _ => "") rounds db) := by
  refine ⟨webhookShop unmatchedEvent paidEvent, [[.payment 1 true], [.payment 1 true]],
    ⟨⟨?_, ?_⟩, ⟨?_, ?_⟩, True.intro⟩, ?_, fun hnone => ?_⟩
  · decide +kernel
  · decide +kernel
  · decide +kernel
  · decide +kernel
  · decide +kernel
  · exact absurd (hnone.1 2 paidEvent (by decide +kernel)) (by decide)

end Progress

end WerTe
