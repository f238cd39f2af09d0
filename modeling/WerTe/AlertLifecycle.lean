import WerTe.InventoryAlerts

/-!
# An alert's status only moves forward

Every operation logs at most one action for an alert, and what it logs is its choice from the logs
it has read (`AlertCall.logs`).

* an administrator's operation goes by the newest log, and chooses an action further on only
* stock that is given back goes by the oldest log. When that one has not closed the alert but a
  later one has, it resolves the alert over again

`alert_status_forward_iff`: these are the only steps that move an alert back or log an action twice.
-/

namespace WerTe

open ReadCommitted

/-! ## What is logged for an alert -/

/-- How far on a status is. -/
def InventoryAlertStatus.rank : InventoryAlertStatus → ℕ
  | opened => 0
  | acknowledged => 1
  | resolved => 2
  | dismissed => 3

/-- How far on the status is that an action leads to. -/
def InventoryAlertAction.rank (action : InventoryAlertAction) : ℕ :=
  (resolveInventoryAlertStatus (some action)).rank

/-- The actions logged for an alert, the newest first. -/
def lifecycleActions (db : Store) (notificationId : Id) : List InventoryAlertAction :=
  (db.list .auditLog (·.resourceId == notificationId)).map (·.2.action)

/-- The status by the newest log. -/
def alertStatus (db : Store) (notificationId : Id) : InventoryAlertStatus :=
  resolveInventoryAlertStatus (lifecycleActions db notificationId).head?

/-- The status by the oldest log. -/
def firstStatus (db : Store) (notificationId : Id) : InventoryAlertStatus :=
  resolveInventoryAlertStatus (lifecycleActions db notificationId).getLast?

/-- No alert goes back, and what was dismissed stays so. -/
structure StatusForward (db db' : Store) : Prop where
  forward : ∀ id, (alertStatus db id).rank ≤ (alertStatus db' id).rank
  dismissed : ∀ id, alertStatus db id = .dismissed → alertStatus db' id = .dismissed

/-- No action is logged twice for an alert. -/
def LoggedOnce (db : Store) : Prop :=
  ∀ id action, (lifecycleActions db id).count action ≤ 1

/-- Each log of an alert is further on than the logs before it. -/
def LoggedInOrder (db : Store) : Prop :=
  ∀ id, (lifecycleActions db id).Pairwise fun later earlier => earlier.rank < later.rank

/-- The alerts that stock given back would resolve. The notification of the stock takes the place
of one of the 200 that are looked at. -/
def restoredAlerts (input : CompensationInput) (db : Store) : List ResolvedAlert :=
  NotificationEventService.relatedAttentionAlerts input
    (NotificationsRepository.listRecentInventoryAlertsByUserId db input.merchantUserId 199)

/-- Stock is given back only where the alerts that are closed by now were closed by the first thing
that was logged for them. -/
def NoStaleLog : AlertCall → Store → Prop
  | .compensate _ _ input, db => ∀ alert ∈ restoredAlerts input db,
      (alertStatus db alert.id).isClosed = true → (firstStatus db alert.id).isClosed = true
  | _, _ => True

/-! ## Choices -/

/-- One action at most is logged for each alert, the chosen one. -/
def Logs (chosen : Id → Option InventoryAlertAction) (db db' : Store) : Prop :=
  ∀ id, lifecycleActions db' id = (chosen id).toList ++ lifecycleActions db id

/-- The action leads further on than the alert is. -/
def Advances (db : Store) (id : Id) (action : InventoryAlertAction) : Prop :=
  (alertStatus db id).rank < action.rank

section Choices

variable {db db' : Store} {chosen : Id → Option InventoryAlertAction}

theorem InventoryAlertAction.rank_injective : Function.Injective InventoryAlertAction.rank := by
  intro action action' h
  cases action <;> cases action' <;> first | rfl | exact absurd h (by decide)

theorem InventoryAlertStatus.eq_dismissed_of_rank {status : InventoryAlertStatus}
    (h : InventoryAlertStatus.dismissed.rank ≤ status.rank) : status = .dismissed := by
  cases status <;> first | rfl | exact absurd h (by decide)

theorem StatusForward.of_forward
    (h : ∀ id, (alertStatus db id).rank ≤ (alertStatus db' id).rank) : StatusForward db db' :=
  ⟨h, fun id hid => InventoryAlertStatus.eq_dismissed_of_rank (hid ▸ h id)⟩

theorem alertStatus_of_cons {id : Id} {action : InventoryAlertAction}
    {actions : List InventoryAlertAction} (h : lifecycleActions db id = action :: actions) :
    (alertStatus db id).rank = action.rank := by
  rw [alertStatus, h]
  rfl

/-- Where the logs are in order, an alert has no log that is as far on as one that advances it. -/
theorem LoggedInOrder.lt_of_advances (h : LoggedInOrder db) {id : Id}
    {action : InventoryAlertAction} (hadv : Advances db id action) :
    ∀ earlier ∈ lifecycleActions db id, earlier.rank < action.rank := by
  intro earlier hearlier
  have horder := h id
  cases hactions : lifecycleActions db id with
  | nil => simp [hactions] at hearlier
  | cons newest older =>
    have hnewest : newest.rank < action.rank := alertStatus_of_cons hactions ▸ hadv
    rw [hactions] at hearlier horder
    rcases List.mem_cons.mp hearlier with rfl | hold
    · exact hnewest
    · exact ((List.pairwise_cons.mp horder).1 earlier hold).trans hnewest

theorem LoggedInOrder.loggedOnce (h : LoggedInOrder db) : LoggedOnce db := by
  intro id action
  have hnodup : (lifecycleActions db id).Nodup :=
    (h id).imp fun hlt => by
      rintro rfl
      exact absurd hlt (lt_irrefl _)
  exact List.nodup_iff_count_le_one.mp hnodup action

/-- Choices that advance keep the logs in order. -/
theorem Logs.loggedInOrder (hlogs : Logs chosen db db') (h : LoggedInOrder db)
    (hadv : ∀ id action, chosen id = some action → Advances db id action) :
    LoggedInOrder db' := by
  intro id
  rw [hlogs id]
  cases hchosen : chosen id with
  | none => exact h id
  | some action =>
    exact List.pairwise_cons.mpr ⟨h.lt_of_advances (hadv id action hchosen), h id⟩

/-- Choices that advance are those that move no alert back and repeat no action. -/
theorem Logs.advances_iff (hlogs : Logs chosen db db') (h : LoggedInOrder db) :
    (∀ id action, chosen id = some action → Advances db id action) ↔
      StatusForward db db' ∧ LoggedOnce db' := by
  constructor
  · intro hadv
    refine ⟨.of_forward fun id => ?_, (hlogs.loggedInOrder h hadv).loggedOnce⟩
    cases hchosen : chosen id with
    | none =>
      have hsame : lifecycleActions db' id = lifecycleActions db id := by
        rw [hlogs id, hchosen]
        rfl
      rw [alertStatus, alertStatus, hsame]
    | some action =>
      have hnew : lifecycleActions db' id = action :: lifecycleActions db id := by
        rw [hlogs id, hchosen]
        rfl
      rw [alertStatus_of_cons hnew]
      exact (hadv id action hchosen).le
  · rintro ⟨hforward, honce⟩ id action hchosen
    have hnew : lifecycleActions db' id = action :: lifecycleActions db id := by
      rw [hlogs id, hchosen]
      rfl
    have hle : (alertStatus db id).rank ≤ action.rank := alertStatus_of_cons hnew ▸
      hforward.forward id
    refine lt_of_le_of_ne hle fun heq => ?_
    cases hactions : lifecycleActions db id with
    | nil =>
      rw [alertStatus, hactions] at heq
      cases action <;> exact absurd heq (by decide)
    | cons newest older =>
      -- the newest log is of the same action, so that it is logged twice
      obtain rfl := InventoryAlertAction.rank_injective
        ((alertStatus_of_cons hactions).symm.trans heq)
      have hcount := honce id newest
      rw [hnew, hactions, List.count_cons_self, List.count_cons_self] at hcount
      omega

end Choices

/-! ## Reading and logging -/

section Logging

variable {db db' db'' : Store} {chosen : Id → Option InventoryAlertAction}

theorem Logs.of_sameOn (h : db.SameOn (· = .auditLog) db') : Logs (fun _ => none) db db' := by
  intro id
  rw [lifecycleActions, lifecycleActions, ← h.list rfl]
  rfl

/-- What comes before need not touch the logs. -/
theorem Logs.after_sameOn (h : Logs chosen db' db'') (hsame : db.SameOn (· = .auditLog) db') :
    Logs chosen db db'' := by
  intro id
  rw [h id, lifecycleActions, lifecycleActions, hsame.list rfl]

/-- One log is written. -/
theorem logs_create (db : Store) (log : AuditLog) :
    Logs (fun id => if id = log.resourceId then some log.action else none) db
      (db.put ⟨.auditLog, db.fresh .auditLog, some log⟩) := by
  intro id
  rw [lifecycleActions, lifecycleActions, Db.list_put_new (Db.get_fresh db .auditLog)]
  by_cases hid : id = log.resourceId
  · simp [hid]
  · simp [hid, Ne.symm hid]

theorem run_create (db : Store) (log : AuditLog) :
    (Service.transaction (AuditRepository.create log)).run db =
      (.ok log, db.put ⟨.auditLog, db.fresh .auditLog, some log⟩) := rfl

/-- The logs of some alerts, those of one of them. -/
theorem map_filter_lifecycleLogs (db : Store) {notificationIds : List Id} {id : Id}
    (hid : id ∈ notificationIds) :
    ((AuditRepository.findInventoryAlertLifecycleLogs db notificationIds).filter
      (·.resourceId == id)).map (·.action) = lifecycleActions db id := by
  rw [AuditRepository.findInventoryAlertLifecycleLogs, List.filter_map, List.map_map, Db.list,
    List.filter_filter, lifecycleActions, Db.list]
  refine congrArg _ (List.filter_congr fun e _ => ?_)
  by_cases he : e.2.resourceId = id
  · simp [he, hid]
  · simp [he]

theorem latestLog_lifecycleLogs (db : Store) {notificationIds : List Id} {id : Id}
    (hid : id ∈ notificationIds) :
    (AdminInventoryAlertsService.latestLog
      (AuditRepository.findInventoryAlertLifecycleLogs db notificationIds) id).map (·.action) =
        (lifecycleActions db id).head? := by
  rw [AdminInventoryAlertsService.latestLog, ← List.head?_filter, ← List.head?_map,
    map_filter_lifecycleLogs db hid]

theorem mappedLog_lifecycleLogs (db : Store) {notificationIds : List Id} {id : Id}
    (hid : id ∈ notificationIds) :
    (NotificationEventService.mappedLog
      (AuditRepository.findInventoryAlertLifecycleLogs db notificationIds) id).map (·.action) =
        (lifecycleActions db id).getLast? := by
  rw [NotificationEventService.mappedLog, ← List.getLast?_map, map_filter_lifecycleLogs db hid]

/-- An alert without an acknowledgement has no such log. -/
theorem acknowledged_notMem (db : Store) {notificationIds : List Id} {id : Id}
    (hid : id ∈ notificationIds)
    (hnone : AdminInventoryAlertsService.latestLog
      (AuditRepository.findInventoryAlertAcknowledgementLogs db notificationIds) id = none) :
    .acknowledged ∉ lifecycleActions db id := by
  rw [lifecycleActions, List.mem_map]
  rintro ⟨⟨logId, log⟩, hlog, haction⟩
  obtain ⟨hget, hresource⟩ := Db.mem_list.mp hlog
  have hmem : log ∈ AuditRepository.findInventoryAlertAcknowledgementLogs db notificationIds := by
    refine List.mem_map.mpr ⟨(logId, log), Db.mem_list.mpr ⟨hget, ?_⟩, rfl⟩
    simp only [beq_iff_eq] at hresource haction
    simp [hresource, hid, haction]
  exact absurd hresource (List.find?_eq_none.mp hnone log hmem)

/-- Each item of a list logs at most one action, each for another alert. -/
theorem forEach_ends {α β : Type} {f : α → StoreService β} (key : α → Id)
    {choose : α → Option InventoryAlertAction} (items : List α)
    (hf : ∀ a ∈ items, ∀ db, (f a).Ends db fun r db' => (∃ b, r = .ok b) ∧
      Logs (fun id => if id = key a then choose a else none) db db')
    (hnodup : (items.map key).Nodup) : ∀ db, (forEach f items).Ends db fun r db' =>
      (∃ bs, r = .ok bs) ∧
        Logs (fun id => (items.find? fun a => key a == id).bind choose) db db' := by
  induction items with
  | nil => exact fun db => .ret ⟨⟨[], rfl⟩, .of_sameOn (.refl db)⟩
  | cons a items ih =>
    intro db
    rw [List.map_cons, List.nodup_cons] at hnodup
    refine .bind ((hf a (by simp) db).mono ?_)
    rintro _ db₁ ⟨⟨b, rfl⟩, hfirst⟩
    refine .bind ((ih (fun a' ha' => hf a' (by simp [ha'])) hnodup.2 db₁).mono ?_)
    rintro _ db₂ ⟨⟨bs, rfl⟩, hrest⟩
    refine .ret ⟨⟨b :: bs, rfl⟩, fun id => ?_⟩
    rw [hrest id, hfirst id]
    by_cases hid : id = key a
    · have hnone : items.find? (fun a => key a == id) = none := by
        rw [List.find?_eq_none]
        intro a' ha' hkey
        exact hnodup.1 (hid ▸ eq_of_beq hkey ▸ List.mem_map_of_mem ha')
      simp only [hnone, Option.bind_none]
      simp [hid]
    · simp [hid, Ne.symm hid]

end Logging

/-! ## The administrator's operations -/

/-- What is logged leads further on. -/
def Progress (db db' : Store) : Prop :=
  ∃ chosen, Logs chosen db db' ∧ ∀ id action, chosen id = some action → Advances db id action

section Administrator

open AdminInventoryAlertsService

variable {db : Store} {now : Date} {currentUser : AuthenticatedUser} {note : Option String}
  {id notificationId : Id}

theorem Progress.refl (db : Store) : Progress db db :=
  ⟨fun _ => none, .of_sameOn (.refl db), fun _ _ h => by cases h⟩

theorem Progress.create {log : AuditLog} (h : Advances db log.resourceId log.action) :
    Progress db (db.put ⟨.auditLog, db.fresh .auditLog, some log⟩) := by
  refine ⟨_, logs_create db log, fun id action hchosen => ?_⟩
  by_cases hid : id = log.resourceId
  · rw [if_pos hid] at hchosen
    rw [hid, ← Option.some.inj hchosen]
    exact h
  · rw [if_neg hid] at hchosen
    cases hchosen

theorem advances_acknowledged (hopen : (alertStatus db id).isClosed = false)
    (hnew : .acknowledged ∉ lifecycleActions db id) : Advances db id .acknowledged := by
  rw [Advances]
  rw [alertStatus] at hopen ⊢
  cases hactions : lifecycleActions db id with
  | nil => decide
  | cons newest older =>
    rw [hactions] at hopen hnew
    cases newest with
    | acknowledged => exact absurd List.mem_cons_self hnew
    | resolved => cases hopen
    | dismissed => cases hopen

theorem advances_resolved_iff :
    Advances db id .resolved ↔ (alertStatus db id).isClosed = false := by
  rw [Advances]
  cases alertStatus db id <;> decide

theorem advances_dismissed (h : alertStatus db id ≠ .dismissed) : Advances db id .dismissed := by
  rw [Advances]
  cases hstatus : alertStatus db id with
  | dismissed => exact absurd hstatus h
  | opened => decide
  | acknowledged => decide
  | resolved => decide

theorem alertStatus_eq_latestLog (db : Store) {notificationIds : List Id}
    (hid : id ∈ notificationIds) :
    resolveInventoryAlertStatus ((latestLog
      (AuditRepository.findInventoryAlertLifecycleLogs db notificationIds) id).map (·.action)) =
        alertStatus db id := by
  rw [latestLog_lifecycleLogs db hid, alertStatus]

/-- The newest of all logs, where they are those of one alert. -/
theorem alertStatus_eq_head (db : Store) (id : Id) :
    resolveInventoryAlertStatus
      ((AuditRepository.findInventoryAlertLifecycleLogs db [id]).head?.map (·.action)) =
        alertStatus db id := by
  have hmap : (AuditRepository.findInventoryAlertLifecycleLogs db [id]).map (·.action) =
      lifecycleActions db id := by
    simp only [AuditRepository.findInventoryAlertLifecycleLogs, lifecycleActions, List.map_map,
      List.mem_singleton]
    rfl
  rw [← List.head?_map, hmap, alertStatus]

theorem acknowledgeInventoryAlert_ends (db : Store) :
    (acknowledgeInventoryAlert now currentUser notificationId note).Ends db
      fun _ db' => Progress db db' := by
  have hstay : Progress db db := .refl db
  refine .require_bind (fun _ => ?_) fun _ => hstay
  refine .bind (.get_bind (.require_bind (fun _ => .ret ?_) fun _ => hstay))
  refine .orFail_bind (fun alert _ => ?_) fun _ => hstay
  refine .get_bind (.get_bind ?_)
  rw [alertStatus_eq_head]
  cases hclosed : (alertStatus db alert.id).isClosed with
  | true => exact .ret hstay
  | false =>
    simp only [Bool.false_eq_true, if_false]
    cases hacknowledged : (AuditRepository.findInventoryAlertAcknowledgementLogs db
        [alert.id]).head? with
    | some acknowledgement => exact .ret hstay
    | none =>
      have hempty := List.head?_eq_none_iff.mp hacknowledged
      have hnew : .acknowledged ∉ lifecycleActions db alert.id :=
        acknowledged_notMem db (List.mem_singleton_self _) (by rw [hempty]; rfl)
      refine .bind (.transaction ?_ fun _ h => by cases h)
      rintro _ _ ⟨⟩
      exact .ret (.create (advances_acknowledged hclosed hnew))

theorem resolveInventoryAlert_ends (db : Store) :
    (resolveInventoryAlert now currentUser notificationId note).Ends db
      fun _ db' => Progress db db' := by
  have hstay : Progress db db := .refl db
  refine .require_bind (fun _ => ?_) fun _ => hstay
  refine .bind (.get_bind (.require_bind (fun _ => .ret ?_) fun _ => hstay))
  refine .orFail_bind (fun alert _ => ?_) fun _ => hstay
  refine .get_bind (.get_bind ?_)
  rw [alertStatus_eq_head]
  cases hclosed : (alertStatus db alert.id).isClosed with
  | true => exact .ret hstay
  | false =>
    simp only [Bool.false_eq_true, if_false]
    refine .bind (.transaction ?_ fun _ h => by cases h)
    rintro _ _ ⟨⟩
    exact .ret (.create (advances_resolved_iff.mpr hclosed))

/-- Whether an alert of a bulk request is acknowledged. -/
def chooseAcknowledge (alerts : List ResolvedAlert) (acknowledgements lifecycleLogs : List AuditLog)
    (notificationId : Id) : Option InventoryAlertAction :=
  if (alerts.find? (·.id == notificationId)).isSome ∧
      latestLog acknowledgements notificationId = none ∧
      (resolveInventoryAlertStatus
        ((latestLog lifecycleLogs notificationId).map (·.action))).isClosed = false
  then some .acknowledged else none

/-- Whether an alert of a bulk request is dismissed. -/
def chooseDismiss (alerts : List ResolvedAlert) (_acknowledgements lifecycleLogs : List AuditLog)
    (notificationId : Id) : Option InventoryAlertAction :=
  if (alerts.find? (·.id == notificationId)).isSome ∧
      resolveInventoryAlertStatus
        ((latestLog lifecycleLogs notificationId).map (·.action)) ≠ .dismissed
  then some .dismissed else none

variable {alerts : List ResolvedAlert} {acknowledgements lifecycleLogs : List AuditLog}

/-- An alert that is handled gets the log chosen for it. -/
theorem logs_one {log : AuditLog} {choice : Option InventoryAlertAction} (db : Store)
    (hid : log.resourceId = notificationId) (hchoice : choice = some log.action) :
    Logs (fun id => if id = notificationId then choice else none) db
      (db.put ⟨.auditLog, db.fresh .auditLog, some log⟩) := by
  rw [hchoice, ← hid]
  exact logs_create db log

theorem logs_none_of (db : Store) {choice : Option InventoryAlertAction} (h : choice = none) :
    Logs (fun id => if id = notificationId then choice else none) db db := by
  intro id
  simp only [h, ite_self]
  rfl

theorem id_of_find {alert : ResolvedAlert}
    (h : alerts.find? (·.id == notificationId) = some alert) : alert.id = notificationId := by
  simpa using List.find?_some h

theorem acknowledgeOne_ends (db : Store) :
    (acknowledgeOne now currentUser note alerts acknowledgements lifecycleLogs notificationId).Ends
      db fun r db' => (∃ b, r = .ok b) ∧ Logs (fun id =>
        if id = notificationId then chooseAcknowledge alerts acknowledgements lifecycleLogs
          notificationId else none) db db' := by
  rw [acknowledgeOne]
  cases halert : alerts.find? (·.id == notificationId) with
  | none => exact .ret ⟨⟨_, rfl⟩, logs_none_of db (by simp [chooseAcknowledge, halert])⟩
  | some alert =>
    by_cases hnew : latestLog acknowledgements notificationId = none ∧
        (resolveInventoryAlertStatus
          ((latestLog lifecycleLogs notificationId).map (·.action))).isClosed = false
    · simp only [if_pos hnew]
      refine .bind (.transaction ?_ fun _ h => by cases h)
      rintro _ _ ⟨⟩
      refine .ret ⟨⟨_, rfl⟩, logs_one db (id_of_find halert) ?_⟩
      simp [chooseAcknowledge, halert, hnew, lifecycleLog]
    · simp only [if_neg hnew]
      refine .ret ⟨⟨_, rfl⟩, logs_none_of db ?_⟩
      rw [chooseAcknowledge, if_neg fun h => hnew h.2]

theorem dismissOne_ends (db : Store) :
    (dismissOne now currentUser note alerts acknowledgements lifecycleLogs notificationId).Ends
      db fun r db' => (∃ b, r = .ok b) ∧ Logs (fun id => if id = notificationId then
        chooseDismiss alerts acknowledgements lifecycleLogs notificationId else none) db db' := by
  rw [dismissOne]
  cases halert : alerts.find? (·.id == notificationId) with
  | none => exact .ret ⟨⟨_, rfl⟩, logs_none_of db (by simp [chooseDismiss, halert])⟩
  | some alert =>
    by_cases hnew : resolveInventoryAlertStatus
        ((latestLog lifecycleLogs notificationId).map (·.action)) ≠ .dismissed
    · simp only [if_pos hnew]
      refine .bind (.transaction ?_ fun _ h => by cases h)
      rintro _ _ ⟨⟩
      refine .ret ⟨⟨_, rfl⟩, logs_one db (id_of_find halert) ?_⟩
      simp [chooseDismiss, halert, hnew, lifecycleLog]
    · simp only [if_neg hnew]
      refine .ret ⟨⟨_, rfl⟩, logs_none_of db ?_⟩
      rw [chooseDismiss, if_neg fun h => hnew h.2]

/-- A bulk request chooses for each alert by the logs that it has read. -/
theorem bulkInventoryAlerts_ends (payload : BulkInventoryAlertsDto)
    {handle : List ResolvedAlert → List AuditLog → List AuditLog → Id →
      StoreService (Option (AdminInventoryAlert × Bool))}
    (choose : List ResolvedAlert → List AuditLog → List AuditLog → Id →
      Option InventoryAlertAction)
    (hhandle : ∀ alerts acknowledgements lifecycleLogs id db,
      (handle alerts acknowledgements lifecycleLogs id).Ends db fun r db' => (∃ b, r = .ok b) ∧
        Logs (fun id' => if id' = id then choose alerts acknowledgements lifecycleLogs id
          else none) db db')
    (hchoose : ∀ alerts ids id action, id ∈ ids →
      choose alerts (AuditRepository.findInventoryAlertAcknowledgementLogs db ids)
        (AuditRepository.findInventoryAlertLifecycleLogs db ids) id = some action →
          Advances db id action) :
    (bulkInventoryAlerts handle currentUser payload).Ends db fun _ db' => Progress db db' := by
  have hstay : Progress db db := .refl db
  refine .require_bind (fun _ => ?_) fun _ => hstay
  refine .bind (.get_bind (.require_bind (fun _ => .ret ?_) fun _ => hstay))
  refine .get_bind (.get_bind (.bind ((forEach_ends (fun a => a) _
    (fun id _ => hhandle _ _ _ id) (by simpa using List.nodup_dedup _) db).mono ?_)))
  rintro _ db' ⟨⟨handled, rfl⟩, hlogs⟩
  refine .ret ⟨_, hlogs, fun id action hchosen => ?_⟩
  obtain ⟨id', hfind, hchoice⟩ := Option.bind_eq_some_iff.mp hchosen
  obtain rfl : id' = id := by simpa using List.find?_some hfind
  exact hchoose _ _ _ _ (List.mem_of_find?_eq_some hfind) hchoice

theorem bulkAcknowledgeInventoryAlerts_ends (payload : BulkInventoryAlertsDto) (db : Store) :
    (bulkAcknowledgeInventoryAlerts now currentUser payload).Ends db
      fun _ db' => Progress db db' := by
  refine bulkInventoryAlerts_ends payload chooseAcknowledge
    (fun _ _ _ _ => acknowledgeOne_ends) fun alerts ids id action hid hchosen => ?_
  rw [chooseAcknowledge, alertStatus_eq_latestLog db hid] at hchosen
  split at hchosen
  · next h =>
    rw [← Option.some.inj hchosen]
    exact advances_acknowledged h.2.2 (acknowledged_notMem db hid h.2.1)
  · cases hchosen

theorem bulkDismissInventoryAlerts_ends (payload : BulkInventoryAlertsDto) (db : Store) :
    (bulkDismissInventoryAlerts now currentUser payload).Ends db
      fun _ db' => Progress db db' := by
  refine bulkInventoryAlerts_ends payload chooseDismiss
    (fun _ _ _ _ => dismissOne_ends) fun alerts ids id action hid hchosen => ?_
  rw [chooseDismiss, alertStatus_eq_latestLog db hid] at hchosen
  split at hchosen
  · next h =>
    rw [← Option.some.inj hchosen]
    exact advances_dismissed h.2
  · cases hchosen

end Administrator

/-! ## Stock that is given back -/

section Compensation

open NotificationEventService

variable {db db' : Store} {now : Date} {input : CompensationInput}

theorem resolvedAlerts_sublist (notifications : List (Id × Notification)) :
    ((resolvedAlerts notifications).map (·.id)).Sublist (notifications.map Prod.fst) := by
  induction notifications with
  | nil => exact .slnil
  | cons row notifications ih =>
    rw [resolvedAlerts, List.filterMap_cons, List.map_cons]
    cases readAdminInventoryAlertMetadata row.2 with
    | none => exact ih.cons _
    | some metadata => exact ih.cons_cons _

theorem restoredAlerts_nodup (input : CompensationInput) (db : Store) :
    ((restoredAlerts input db).map (·.id)).Nodup := by
  have hrows := Db.list_nodup db .notification fun notification =>
    notification.userId == input.merchantUserId && notification.type == .systemAlert
  refine hrows.sublist ?_
  exact ((List.filter_sublist.map _).trans (resolvedAlerts_sublist _)).trans
    ((List.take_sublist _ _).map _)

/-- The notification of the stock is no alert that the stock would resolve. -/
theorem relatedAttentionAlerts_cons (notificationId : Id)
    (notifications : List (Id × Notification)) :
    relatedAttentionAlerts input ((notificationId, NotificationsRepository.newNotification now
      (compensationNotification input)) :: notifications) =
        relatedAttentionAlerts input notifications := by
  rw [relatedAttentionAlerts, resolvedAlerts, List.filterMap_cons]
  cases hread : readAdminInventoryAlertMetadata (NotificationsRepository.newNotification now
    (compensationNotification input)) with
  | none => rfl
  | some metadata =>
    have hkind : metadata.alertKind = .compensation := by
      simp only [readAdminInventoryAlertMetadata, NotificationsRepository.newNotification,
        compensationNotification, ne_eq, not_true_eq_false, if_false] at hread
      split at hread
      · cases hread
      · rw [← Option.some.inj hread]
    rw [Option.map_some, List.filter_cons_of_neg (by simp [hkind])]
    rfl

/-- The alerts are looked for after the notification of the stock has been written. -/
theorem relatedAttentionAlerts_published {db₁ : Store}
    (hsame : Db.SameOn (· ≠ .notificationDelivery) (db.put ⟨.notification, db.fresh .notification,
      some (NotificationsRepository.newNotification now (compensationNotification input))⟩) db₁) :
    relatedAttentionAlerts input (NotificationsRepository.listRecentInventoryAlertsByUserId db₁
      input.merchantUserId) = restoredAlerts input db := by
  rw [NotificationsRepository.listRecentInventoryAlertsByUserId, ← hsame.list (by simp),
    Db.list_put_new (Db.get_fresh db .notification), if_pos (by
      simp [NotificationsRepository.newNotification, compensationNotification]),
    List.take_succ_cons, relatedAttentionAlerts_cons]
  rfl

theorem recordDeliveries_ends (shouldQueuePush : Bool) (notificationId : Id) (db : Store) :
    (recordMerchantInventoryAlertDeliveries now shouldQueuePush notificationId).Ends db
      fun r db' => (∃ u, r = .ok u) ∧ Db.SameOn (· ≠ .notificationDelivery) db db' := by
  have hput : ∀ (db : Store) (id : Id) (delivery : NotificationDelivery),
      Db.SameOn (· ≠ .notificationDelivery) db
        (db.put ⟨.notificationDelivery, id, some delivery⟩) :=
    fun db id delivery t ht => (Db.rows_put_ne db ht).symm
  refine .transaction_bind ?_ fun _ h => by cases h
  rintro _ _ ⟨⟩
  cases shouldQueuePush with
  | false => exact .ret ⟨⟨(), rfl⟩, hput _ _ _⟩
  | true =>
    refine .transaction ?_ fun _ h => by cases h
    rintro _ _ ⟨⟩
    exact ⟨⟨(), rfl⟩, (hput _ _ _).trans (hput _ _ _)⟩

/-- What stock given back logs for an alert, by the oldest log. -/
def chooseResolve (db : Store) (alert : ResolvedAlert) : Option InventoryAlertAction :=
  if (firstStatus db alert.id).isClosed = true then none else some .resolved

theorem autoResolveOne_ends {alert : ResolvedAlert} {ids : List Id} (db₀ : Store)
    (hid : alert.id ∈ ids) (db : Store) :
    (autoResolveOne now input (AuditRepository.findInventoryAlertLifecycleLogs db₀ ids) alert).Ends
      db fun r db' => (∃ u, r = .ok u) ∧
        Logs (fun id => if id = alert.id then chooseResolve db₀ alert else none) db db' := by
  rw [autoResolveOne, mappedLog_lifecycleLogs db₀ hid, chooseResolve, firstStatus]
  by_cases hclosed :
      (resolveInventoryAlertStatus (lifecycleActions db₀ alert.id).getLast?).isClosed = true
  · rw [if_pos hclosed, if_pos hclosed]
    exact .ret ⟨⟨(), rfl⟩, logs_none_of db rfl⟩
  · rw [if_neg hclosed, if_neg hclosed]
    refine .transaction_bind ?_ fun _ h => by cases h
    rintro _ _ ⟨⟩
    exact .ret ⟨⟨(), rfl⟩, logs_one db rfl rfl⟩

/-- What stock given back logs for each alert. -/
def resolutions (input : CompensationInput) (db : Store) (id : Id) :
    Option InventoryAlertAction :=
  ((restoredAlerts input db).find? (·.id == id)).bind (chooseResolve db)

theorem publishMerchantInventoryCompensationAlert_ends (shouldQueuePush : Bool) (db : Store) :
    (publishMerchantInventoryCompensationAlert now shouldQueuePush input).Ends db
      fun _ db' => Logs (resolutions input db) db db' := by
  refine .transaction_bind ?_ fun _ h => by cases h
  rintro _ _ ⟨⟩
  refine .bind ((recordDeliveries_ends shouldQueuePush _ _).mono ?_)
  rintro _ db₁ ⟨⟨u, rfl⟩, hsame⟩
  have hlogs : db.SameOn (· = .auditLog) db₁ := by
    rintro _ rfl
    exact (Db.rows_put_ne db (by simp)).symm.trans (hsame .auditLog (by simp))
  refine .get_bind (.get_bind ?_)
  rw [relatedAttentionAlerts_published hsame]
  refine .bind ((forEach_ends (fun alert : ResolvedAlert => alert.id) _
    (fun alert halert => autoResolveOne_ends db₁ (List.mem_map_of_mem halert))
    (restoredAlerts_nodup input db) db₁).mono ?_)
  rintro _ db' ⟨⟨bs, rfl⟩, h⟩
  refine .ret ?_
  have hchoice : chooseResolve db₁ = chooseResolve db := by
    funext alert
    rw [chooseResolve, chooseResolve, firstStatus, firstStatus, lifecycleActions, lifecycleActions,
      hlogs.list rfl]
  rw [hchoice] at h
  exact h.after_sameOn hlogs

/-- Stock given back moves alerts on only, where no log is stale. -/
theorem resolutions_advance_iff :
    (∀ id action, resolutions input db id = some action → Advances db id action) ↔
      ∀ alert ∈ restoredAlerts input db,
        (alertStatus db alert.id).isClosed = true → (firstStatus db alert.id).isClosed = true := by
  constructor
  · intro hadv alert halert hclosed
    by_contra hfirst
    have hsome : ((restoredAlerts input db).find? (·.id == alert.id)).isSome :=
      List.find?_isSome.mpr ⟨alert, halert, by simp⟩
    obtain ⟨alert', hfind⟩ := Option.isSome_iff_exists.mp hsome
    have hid : alert'.id = alert.id := id_of_find hfind
    have hresolved : resolutions input db alert.id = some .resolved := by
      rw [resolutions, hfind, Option.bind_some, chooseResolve, hid, if_neg hfirst]
    have hopen := advances_resolved_iff.mp (hadv _ _ hresolved)
    rw [hclosed] at hopen
    cases hopen
  · intro hstale id action hchosen
    obtain ⟨alert, hfind, hchoice⟩ := Option.bind_eq_some_iff.mp hchosen
    obtain rfl := id_of_find hfind
    rw [chooseResolve] at hchoice
    split at hchoice
    · cases hchoice
    · next hfirst =>
      rw [← Option.some.inj hchoice]
      refine advances_resolved_iff.mpr (Bool.eq_false_iff.mpr fun hclosed => ?_)
      exact hfirst (hstale alert (List.mem_of_find?_eq_some hfind) hclosed)

end Compensation

/-! ## Runs -/

/-- **Every operation logs what it has chosen**, and its choices lead further on when it goes by no
stale log. -/
theorem AlertCall.logs (call : AlertCall) (db : Store) :
    ∃ chosen, Logs chosen db (call.run db) ∧
      ((∀ id action, chosen id = some action → Advances db id action) ↔ NoStaleLog call db) := by
  have hadmin : Progress db (call.run db) → (NoStaleLog call db ↔ True) →
      ∃ chosen, Logs chosen db (call.run db) ∧
        ((∀ id action, chosen id = some action → Advances db id action) ↔ NoStaleLog call db) := by
    rintro ⟨chosen, hlogs, hadv⟩ htrue
    exact ⟨chosen, hlogs, iff_of_true hadv (htrue.mpr trivial)⟩
  cases call with
  | acknowledge now currentUser notificationId note =>
    exact hadmin (acknowledgeInventoryAlert_ends db).run Iff.rfl
  | resolve now currentUser notificationId note =>
    exact hadmin (resolveInventoryAlert_ends db).run Iff.rfl
  | bulkAcknowledge now currentUser payload =>
    exact hadmin (bulkAcknowledgeInventoryAlerts_ends payload db).run Iff.rfl
  | bulkDismiss now currentUser payload =>
    exact hadmin (bulkDismissInventoryAlerts_ends payload db).run Iff.rfl
  | compensate now shouldQueuePush input =>
    exact ⟨_, (publishMerchantInventoryCompensationAlert_ends shouldQueuePush db).run,
      resolutions_advance_iff⟩

/-- An operation keeps the logs in order just when it goes by no stale log. -/
theorem AlertCall.step_iff {db : Store} (h : LoggedInOrder db) (call : AlertCall) :
    (StatusForward db (call.run db) ∧ LoggedOnce (call.run db) ↔ NoStaleLog call db) ∧
      (NoStaleLog call db → LoggedInOrder (call.run db)) := by
  obtain ⟨chosen, hlogs, hiff⟩ := call.logs db
  exact ⟨(hlogs.advances_iff h).symm.trans hiff,
    fun hstale => hlogs.loggedInOrder h (hiff.mpr hstale)⟩

/-- **Exactly when alerts only move on.** From logs that are in order, every operation of a run
moves every alert forward or leaves it, and no action is ever logged twice for an alert, just when
stock is never given back with a stale log. -/
theorem alert_status_forward_iff (calls : List AlertCall) : ∀ {db₀ : Store}, LoggedInOrder db₀ →
    (MeetAll AlertCall.run (fun call db => StatusForward db (call.run db)) calls db₀ ∧
        Always AlertCall.run LoggedOnce calls db₀ ↔
      MeetAll AlertCall.run NoStaleLog calls db₀) := by
  induction calls with
  | nil => exact fun h => iff_of_true ⟨trivial, h.loggedOnce⟩ trivial
  | cons call calls ih =>
    intro db₀ h
    obtain ⟨hiff, hkeep⟩ := call.step_iff h
    constructor
    · rintro ⟨⟨hforward, hrest⟩, -, honce⟩
      have hfirst : LoggedOnce (call.run db₀) := by
        cases calls with
        | nil => exact honce
        | cons call' calls' => exact honce.1
      have hstale := hiff.mp ⟨hforward, hfirst⟩
      exact ⟨hstale, (ih (hkeep hstale)).mp ⟨hrest, honce⟩⟩
    · rintro ⟨hstale, hrest⟩
      obtain ⟨hforward, honce⟩ := (ih (hkeep hstale)).mpr hrest
      exact ⟨⟨(hiff.mpr hstale).1, hforward⟩, h.loggedOnce, honce⟩

/-- Two cups are left of the tea. -/
def teaStock : InventoryAlertSubject where
  branchId := 1
  branchName := some "Downtown"
  resourceType := .menuItem
  resourceId := 7
  resourceLabel := "Tea"
  stockQuantity := some 2
  lowStockThreshold := some 3
  menuItemName := none

def alertShop : Store := Db.empty.apply [
  ⟨.notification, 1, some {
    userId := 10, type := .systemAlert, title := "Low stock: Tea", body := "2 left in Downtown."
    navigationPath := none, metadataJson := .attention teaStock .lowStock, orderId := none
    deliveryId := none, conversationId := none, messageId := none, createdAt := 1 }⟩]

theorem loggedInOrder_alertShop : LoggedInOrder alertShop := fun _ => List.Pairwise.nil

def alertAdmin : AuthenticatedUser where
  userId := 30
  role := .admin
  merchantId := none
  customerProfileId := none
  riderId := none

def dismissTea : BulkInventoryAlertsDto where
  notificationIds := [1]
  note := some "Tea comes on Monday."
  ids_nonempty := by decide
  ids_unique := by decide
  note_max := by decide

/-- A cancelled order gives eight cups back. -/
def teaRestored : CompensationInput where
  merchantUserId := 10
  subject := { teaStock with stockQuantity := some 10 }
  restoredQuantity := 8
  orderId := 5
  orderCode := "ORD-5"

/-- An alert that was acknowledged and then dismissed is resolved when stock is given back, and
one that was acknowledged and then resolved is resolved again. -/
theorem dismissed_alert_resolved : LoggedInOrder alertShop ∧
    ¬ MeetAll AlertCall.run (fun call db => StatusForward db (call.run db))
      [.acknowledge 2 alertAdmin 1 none, .bulkDismiss 3 alertAdmin dismissTea,
        .compensate 4 false teaRestored] alertShop ∧
    ¬ Always AlertCall.run LoggedOnce
      [.acknowledge 2 alertAdmin 1 none, .resolve 3 alertAdmin 1 none,
        .compensate 4 false teaRestored] alertShop := by
  refine ⟨loggedInOrder_alertShop, ?_, ?_⟩
  · rintro ⟨-, -, hforward, -⟩
    exact absurd (hforward.forward 1) (by decide)
  · rintro ⟨-, -, -, honce⟩
    exact absurd (honce 1 .resolved) (by decide)

/-- Stock that is given back before anyone dismisses the alert resolves it once. -/
theorem alert_status_forward_alertShop :
    lifecycleActions (runAll AlertCall.run [.acknowledge 2 alertAdmin 1 none,
      .compensate 3 false teaRestored, .bulkDismiss 4 alertAdmin dismissTea] alertShop) 1 =
        [.dismissed, .resolved, .acknowledged] ∧
    MeetAll AlertCall.run (fun call db => StatusForward db (call.run db))
      [.acknowledge 2 alertAdmin 1 none, .compensate 3 false teaRestored,
        .bulkDismiss 4 alertAdmin dismissTea] alertShop ∧
    Always AlertCall.run LoggedOnce
      [.acknowledge 2 alertAdmin 1 none, .compensate 3 false teaRestored,
        .bulkDismiss 4 alertAdmin dismissTea] alertShop := by
  have hstale : MeetAll AlertCall.run NoStaleLog [.acknowledge 2 alertAdmin 1 none,
      .compensate 3 false teaRestored, .bulkDismiss 4 alertAdmin dismissTea] alertShop := by
    refine ⟨trivial, ?_, trivial, trivial⟩
    rw [NoStaleLog]
    decide
  exact ⟨by decide, (alert_status_forward_iff _ loggedInOrder_alertShop).mpr hstale⟩

end WerTe
