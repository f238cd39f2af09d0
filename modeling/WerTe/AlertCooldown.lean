import WerTe.AlertLifecycle
import WerTe.NotificationCenter
import WerTe.ReadCommitted.Sequential

/-!
# The cooldown of stock alerts

A merchant who was alerted about a resource's stock is not alerted again for fifteen minutes, unless
the alert was resolved, or dismissed with stock given back since. Whether there was such an alert is
read off the notifications that are stored: of the merchant's newest 25 alerts, and of a merchant's
notifications only the newest 20 are kept.

* `CooldownCall`: stock alerts, operations on alerts and prunes
* `AlertHistory`: the database with all notifications that were ever created
* `cooldown_kept`: no alert is repeated too early as long as none is forgotten (`Remembered`)
-/

namespace WerTe

open ReadCommitted

/-! ## The model -/

namespace NotificationsRepository

def listRecentInventoryAlertsByUserIdSince (db : Store) (userId : Id) (since : Date)
    (limit : ℕ := 25) : List (Id × Notification) :=
  (newestFirst (db.list .notification fun notification => notification.userId == userId &&
    notification.type == .systemAlert && decide (since ≤ notification.createdAt))).take limit

/-- The notifications with these ids are deleted, and their deliveries with them. -/
def deleteMany (notificationIds : List Id) : StoreTx ℕ :=
  .update fun db =>
    let stored := (db.list .notification fun _ => true).filter (·.1 ∈ notificationIds)
    let deliveries := db.list .notificationDelivery (·.notificationId ∈ notificationIds)
    (stored.length, stored.map (fun row => ⟨.notification, row.1, none⟩) ++
      deliveries.map fun row => ⟨.notificationDelivery, row.1, none⟩)

def pruneOldNotifications (userId : Id) (keep : ℕ := 20) : StoreService ℕ := do
  let stale ← .get fun db => (newestFirst (db.list .notification (·.userId == userId))).drop keep
  if stale.length = 0 then .ret 0 else .transaction (deleteMany (stale.map (·.1)))

end NotificationsRepository

/-- What `publishMerchantInventoryAlert` is given. -/
structure InventoryAlertInput where
  merchantUserId : Id
  subject : InventoryAlertSubject
  attentionLevel : InventoryAttentionLevel

namespace NotificationsService

def hasLaterCompensationAlert (inventoryAlerts : List ResolvedAlert)
    (resourceType : InventoryResourceType) (resourceId : Id) (afterCreatedAt : Date) : Bool :=
  inventoryAlerts.any fun alert => alert.metadata.alertKind == .compensation &&
    alert.metadata.subject.resourceType == resourceType &&
    alert.metadata.subject.resourceId == resourceId &&
    decide (afterCreatedAt < alert.notification.createdAt)

/-- The alerts that are about the same thing. -/
def matchingAlerts (input : InventoryAlertInput) (inventoryAlerts : List ResolvedAlert) :
    List ResolvedAlert :=
  inventoryAlerts.filter fun alert => alert.metadata.alertKind == .attention &&
    alert.metadata.subject.resourceType == input.subject.resourceType &&
    alert.metadata.subject.resourceId == input.subject.resourceId &&
    alert.metadata.attentionLevel == some input.attentionLevel

/-- The alert stands in the way of another one. -/
def standing (inventoryAlerts : List ResolvedAlert) (lifecycleLogs : List AuditLog)
    (alert : ResolvedAlert) : Bool :=
  let status := resolveInventoryAlertStatus
    ((AdminInventoryAlertsService.latestLog lifecycleLogs alert.id).map (·.action))
  if status = .resolved then false
  else if status = .dismissed ∧ hasLaterCompensationAlert inventoryAlerts
      alert.metadata.subject.resourceType alert.metadata.subject.resourceId
      alert.notification.createdAt = true then false
  else true

def hasRecentMerchantInventoryAlert (input : InventoryAlertInput) (since : Date) :
    StoreService Bool := do
  let inventoryAlerts ← .get fun db => resolvedAlerts
    (NotificationsRepository.listRecentInventoryAlertsByUserIdSince db input.merchantUserId since)
  let matching := matchingAlerts input inventoryAlerts
  if matching.length = 0 then .ret false
  else do
    let lifecycleLogs ← .get fun db =>
      AuditRepository.findInventoryAlertLifecycleLogs db (matching.map (·.id))
    .ret (matching.any (standing inventoryAlerts lifecycleLogs))

end NotificationsService

namespace NotificationEventService

/-- Fifteen minutes, in milliseconds. -/
def inventoryAlertCooldownMs : ℤ := 15 * 60 * 1000

def buildInventoryAlertTitle (input : InventoryAlertInput) : String :=
  match input.attentionLevel with
  | .outOfStock => "Out of stock: " ++ input.subject.resourceLabel
  | .lowStock => "Low stock: " ++ input.subject.resourceLabel

def buildInventoryAlertBody (input : InventoryAlertInput) : String :=
  let stockText :=
    match input.subject.stockQuantity with
    | none => "tracked stock requires attention"
    | some quantity => toString quantity ++ " left"
  let thresholdText :=
    match input.subject.lowStockThreshold with
    | none => "without a configured threshold"
    | some threshold => "threshold " ++ toString threshold
  let branchLabel :=
    (normalizeOptionalString input.subject.branchName).getD (toString input.subject.branchId)
  match input.attentionLevel with
  | .outOfStock => alertSubjectText input.subject ++ " is now out of stock in " ++ branchLabel ++
      ". Current stock: " ++ stockText ++ "."
  | .lowStock => alertSubjectText input.subject ++ " is now low in " ++ branchLabel ++ " with " ++
      stockText ++ " (" ++ thresholdText ++ ")."

def attentionNotification (input : InventoryAlertInput) : CreateNotificationInput where
  userId := input.merchantUserId
  type := .systemAlert
  title := buildInventoryAlertTitle input
  body := buildInventoryAlertBody input
  navigationPath :=
    some ("/merchant/branches/" ++ toString input.subject.branchId ++ "/inventory/overview")
  metadataJson := .attention input.subject input.attentionLevel

def publishMerchantInventoryAlert (now : Date) (shouldQueuePush : Bool)
    (input : InventoryAlertInput) : StoreService Unit := do
  let hasRecentDuplicate ← NotificationsService.hasRecentMerchantInventoryAlert input
    (now - inventoryAlertCooldownMs)
  if hasRecentDuplicate then .ret ()
  else do
    let notificationId ←
      .transaction (NotificationsRepository.create now (attentionNotification input))
    recordMerchantInventoryAlertDeliveries now shouldQueuePush notificationId

end NotificationEventService

/-! ## Runs -/

/-- When an operation on alerts is carried out. -/
def AlertCall.time : AlertCall → Date
  | acknowledge now _ _ _ | resolve now _ _ _ | bulkAcknowledge now _ _ | bulkDismiss now _ _
  | compensate now _ _ => now

inductive CooldownCall
  /-- stock runs low or out -/
  | stock (now : Date) (shouldQueuePush : Bool) (input : InventoryAlertInput)
  /-- an administrator's operation, or stock that is given back -/
  | alert (call : AlertCall)
  | prune (now : Date) (userId : Id)

namespace CooldownCall

def time : CooldownCall → Date
  | stock now _ _ => now
  | alert call => call.time
  | prune now _ => now

def run : CooldownCall → Store → Store
  | stock now shouldQueuePush input, db =>
    ((NotificationEventService.publishMerchantInventoryAlert now shouldQueuePush input).run db).2
  | alert call, db => call.run db
  | prune _ userId, db => ((NotificationsRepository.pruneOldNotifications userId).run db).2

end CooldownCall

/-- The notifications that are stored by now and were not before. -/
def createdBetween (db db' : Store) : List (Id × Notification) :=
  (db'.list .notification fun _ => true).filter fun row => (db.get (.notification, row.1)).isNone

/-- The database, and all notifications that were created so far, the newest first. -/
structure AlertHistory where
  db : Store
  clock : Date
  created : List (Id × Notification) := []

def CooldownCall.step (call : CooldownCall) (s : AlertHistory) : AlertHistory where
  db := call.run s.db
  clock := call.time
  created := createdBetween s.db (call.run s.db) ++ s.created

/-- The clock does not go back. -/
def InOrder (call : CooldownCall) (s : AlertHistory) : Prop := s.clock ≤ call.time

/-- What a stock alert is about: the merchant, the resource and the level. -/
def attentionTriple (notification : Notification) :
    Option (Id × (InventoryResourceType × Id) × InventoryAttentionLevel) :=
  match notification.metadataJson with
  | .attention subject level =>
    some (notification.userId, (subject.resourceType, subject.resourceId), level)
  | .compensation .. | .order .. | .other => none

/-- The merchant and the resource whose stock was given back. -/
def compensatedResource (notification : Notification) :
    Option (Id × (InventoryResourceType × Id)) :=
  match notification.metadataJson with
  | .compensation subject .. =>
    some (notification.userId, (subject.resourceType, subject.resourceId))
  | .attention .. | .order .. | .other => none

/-- The alert is resolved, or dismissed and stock of the resource was given back after it. -/
def Excused (s : AlertHistory) (earlier : Id × Notification) : Prop :=
  alertStatus s.db earlier.1 = .resolved ∨
    alertStatus s.db earlier.1 = .dismissed ∧ ∃ later triple,
      attentionTriple earlier.2 = some triple ∧
      compensatedResource later.2 = some (triple.1, triple.2.1) ∧
      [later, earlier].Sublist s.created

/-- An alert of less than fifteen minutes ago. -/
def Recent (earlier : Id × Notification) (now : Date) : Prop :=
  now - NotificationEventService.inventoryAlertCooldownMs ≤ earlier.2.createdAt

/-- No stock alert is created too early after another about the same. -/
def CooldownKept (call : CooldownCall) (s : AlertHistory) : Prop :=
  ∀ row ∈ createdBetween s.db (call.run s.db), ∀ earlier ∈ s.created, ∀ triple,
    attentionTriple row.2 = some triple → attentionTriple earlier.2 = some triple →
      Recent earlier row.2.createdAt → Excused s earlier

/-- The alert is stored and can be read, and fewer than 25 of the merchant's alerts are newer. -/
structure Remembered (db : Store) (earlier : Id × Notification) : Prop where
  stored : db.get (.notification, earlier.1) = some earlier.2
  readable : (readAdminInventoryAlertMetadata earlier.2).isSome
  newer : ((db.list .notification fun notification =>
    notification.userId == earlier.2.userId && notification.type == .systemAlert).filter fun row =>
      NotificationsRepository.position earlier < NotificationsRepository.position row).length < 25

/-- When stock runs low or out, no alert is forgotten that stands in the way. -/
def NoneForgotten (call : CooldownCall) (s : AlertHistory) : Prop :=
  ∀ now shouldQueuePush input, call = .stock now shouldQueuePush input →
    ∀ earlier ∈ s.created, attentionTriple earlier.2 = some (input.merchantUserId,
        (input.subject.resourceType, input.subject.resourceId), input.attentionLevel) →
      Recent earlier now → ¬ Excused s earlier → Remembered s.db earlier

/-! ## What is created -/

section Created

open NotificationEventService

variable {db db' : Store} {now : Date} {input : InventoryAlertInput}

theorem forEach_writes {α β : Type} {P : Write Row → Prop} {f : α → StoreService β}
    (items : List α) (hf : ∀ a, (f a).Writes P) : (forEach f items).Writes P := by
  induction items with
  | nil => exact .ret _
  | cons a items ih => exact .bind (hf a) fun _ => .bind ih fun _ => .ret _

theorem createLog_writes (log : AuditLog) :
    (Service.transaction (AuditRepository.create log)).Writes (·.table ≠ .notification) :=
  .transaction (.update fun db w hw => by simp [List.mem_singleton.mp hw])

theorem recordDeliveries_writes (now : Date) (shouldQueuePush : Bool) (notificationId : Id) :
    (recordMerchantInventoryAlertDeliveries now shouldQueuePush notificationId).Writes
      (·.table ≠ .notification) := by
  have hcreate : ∀ delivery, (Service.transaction (ε := Failure)
      (NotificationsRepository.createDeliveryAttempt delivery)).Writes
        (·.table ≠ .notification) := fun delivery =>
    .transaction (.update fun db w hw => by simp [List.mem_singleton.mp hw])
  refine .bind (hcreate _) fun _ => ?_
  split
  · exact hcreate _
  · exact .ret _

theorem findResolvedInventoryAlertsByIds_writes (notificationIds : List Id) :
    (AdminInventoryAlertsService.findResolvedInventoryAlertsByIds notificationIds).Writes
      (·.table ≠ .notification) :=
  .bind (.get _) fun _ => .bind (.require _ _) fun _ => .ret _

open AdminInventoryAlertsService in
theorem AlertCall.writes (call : AlertCall) (db : Store)
    (hcall : ∀ now shouldQueuePush input, call ≠ .compensate now shouldQueuePush input) :
    Db.SameOn (· = .notification) db (call.run db) := by
  have hbulk : ∀ {handle currentUser payload}, (∀ alerts acknowledgements logs id,
      (handle alerts acknowledgements logs id).Writes fun w => ¬ w.table = .notification) →
      (bulkInventoryAlerts handle currentUser payload).Writes fun w => ¬ w.table = .notification :=
    fun hhandle => .bind (.require _ _) fun _ =>
      .bind (findResolvedInventoryAlertsByIds_writes _) fun _ => .bind (.get _) fun _ =>
        .bind (.get _) fun _ => .bind (forEach_writes _ (hhandle _ _ _)) fun _ => .ret _
  cases call with
  | acknowledge now currentUser notificationId note =>
    refine Service.Writes.sameOn (.bind (.require _ _) fun _ =>
      .bind (findResolvedInventoryAlertsByIds_writes _) fun _ => .bind (.orFail _ _) fun alert =>
        .bind (.get _) fun acknowledgements => .bind (.get _) fun _ => ?_)
    split
    · exact .ret _
    · cases acknowledgements.head? with
      | some acknowledgement => exact .ret _
      | none => exact .bind (createLog_writes _) fun _ => .ret _
  | resolve now currentUser notificationId note =>
    refine Service.Writes.sameOn (.bind (.require _ _) fun _ =>
      .bind (findResolvedInventoryAlertsByIds_writes _) fun _ => .bind (.orFail _ _) fun alert =>
        .bind (.get _) fun _ => .bind (.get _) fun _ => ?_)
    split
    · exact .ret _
    · exact .bind (createLog_writes _) fun _ => .ret _
  | bulkAcknowledge now currentUser payload =>
    refine Service.Writes.sameOn (hbulk fun alerts acknowledgements logs id => ?_)
    rw [acknowledgeOne]
    cases alerts.find? (·.id == id) with
    | none => exact .ret _
    | some alert =>
      dsimp only
      split
      · exact .bind (createLog_writes _) fun _ => .ret _
      · exact .ret _
  | bulkDismiss now currentUser payload =>
    refine Service.Writes.sameOn (hbulk fun alerts acknowledgements logs id => ?_)
    rw [dismissOne]
    cases alerts.find? (·.id == id) with
    | none => exact .ret _
    | some alert =>
      dsimp only
      split
      · exact .bind (createLog_writes _) fun _ => .ret _
      · exact .ret _
  | compensate now shouldQueuePush input => exact absurd rfl (hcall now shouldQueuePush input)

theorem autoResolve_writes (now : Date) (input : CompensationInput) :
    (autoResolveRecoveredInventoryAlerts now input).Writes (·.table ≠ .notification) := by
  refine .bind (.get _) fun _ => .bind (.get _) fun logs =>
    .bind (forEach_writes _ fun alert => ?_) fun _ => .ret _
  rw [autoResolveOne]
  split
  · exact .ret _
  · exact .bind (createLog_writes _) fun _ => .ret _

/-- A notification is created, and what comes after does not touch the notifications. -/
theorem create_sameOn {payload : CreateNotificationInput} {rest : Id → StoreService Unit}
    (hrest : ∀ id, (rest id).Writes (·.table ≠ .notification)) :
    Db.SameOn (· = .notification)
      (db.put ⟨.notification, db.fresh .notification,
        some (NotificationsRepository.newNotification now payload)⟩)
      (((Service.transaction (NotificationsRepository.create now payload)).bind rest).run db).2 :=
  Service.Writes.sameOn (hrest _)

end Created

/-! ## One call -/

section Step

open NotificationEventService NotificationsService NotificationsRepository

variable {db db' : Store} {now : Date} {input : InventoryAlertInput}

/-- The merchant's alerts that are looked at. -/
def recentAlerts (db : Store) (input : InventoryAlertInput) (since : Date) : List ResolvedAlert :=
  resolvedAlerts (listRecentInventoryAlertsByUserIdSince db input.merchantUserId since)

/-- The alerts that stand in the way of a new one. -/
def standingAlerts (db : Store) (input : InventoryAlertInput) (since : Date) :
    List ResolvedAlert :=
  (matchingAlerts input (recentAlerts db input since)).filter
    (standing (recentAlerts db input since) (AuditRepository.findInventoryAlertLifecycleLogs db
      ((matchingAlerts input (recentAlerts db input since)).map (·.id))))

theorem hasRecentMerchantInventoryAlert_run (db : Store) (input : InventoryAlertInput)
    (since : Date) : (hasRecentMerchantInventoryAlert input since).run db =
      (.ok !(standingAlerts db input since).isEmpty, db) := by
  have hany : ∀ (p : ResolvedAlert → Bool) (l : List ResolvedAlert),
      l.any p = !(l.filter p).isEmpty := by
    intro p l
    rw [Bool.eq_iff_iff]
    simp
  simp only [hasRecentMerchantInventoryAlert, Service.bind_eq, Service.run_bind, Service.get,
    Service.run]
  change (if (matchingAlerts input (recentAlerts db input since)).length = 0 then _ else _ :
    StoreService Bool).run db = _
  split
  next hempty =>
    rw [standingAlerts, List.length_eq_zero_iff.mp hempty]
    rfl
  next =>
    rw [standingAlerts, ← hany]
    rfl

/-- Nothing is written but that a row is deleted. -/
theorem pruneOldNotifications_writes (userId : Id) :
    (pruneOldNotifications userId).Writes (·.row = none) := by
  refine .bind (.get _) fun stale => ?_
  split
  · exact .ret _
  · refine .transaction (.update fun db w hw => ?_)
    obtain hrow | hrow := List.mem_append.mp hw
    · obtain ⟨row, -, rfl⟩ := List.mem_map.mp hrow
      rfl
    · obtain ⟨row, -, rfl⟩ := List.mem_map.mp hrow
      rfl

/-- A call creates no notification, or it creates one: a stock alert, when no alert stands in its
way, or one about stock that is given back. -/
theorem CooldownCall.creates (call : CooldownCall) (db : Store) :
    (∀ row : Id × Notification, (call.run db).get (.notification, row.1) = some row.2 →
      db.get (.notification, row.1) = some row.2) ∨
    ∃ payload, Db.SameOn (· = .notification) (db.put ⟨.notification, db.fresh .notification,
        some (newNotification call.time payload)⟩) (call.run db) ∧
      ((∃ shouldQueuePush input, call = .stock call.time shouldQueuePush input ∧
          payload = attentionNotification input ∧
          standingAlerts db input (call.time - inventoryAlertCooldownMs) = []) ∨
        ∃ input, payload = compensationNotification input) := by
  have hsame : Db.SameOn (· = .notification) db (call.run db) → ∀ row : Id × Notification,
      (call.run db).get (.notification, row.1) = some row.2 →
        db.get (.notification, row.1) = some row.2 := fun h row hrow => (h.get rfl).trans hrow
  cases call with
  | stock now shouldQueuePush input =>
    cases hstanding : standingAlerts db input (now - inventoryAlertCooldownMs) with
    | cons alert alerts =>
      refine .inl (hsame ?_)
      simp only [CooldownCall.run, publishMerchantInventoryAlert, Service.bind_eq,
        Service.run_bind, hasRecentMerchantInventoryAlert_run, hstanding]
      exact .refl db
    | nil =>
      refine .inr ⟨attentionNotification input, ?_,
        .inl ⟨shouldQueuePush, input, rfl, rfl, hstanding⟩⟩
      simp only [CooldownCall.run, publishMerchantInventoryAlert, Service.bind_eq,
        Service.run_bind, hasRecentMerchantInventoryAlert_run, hstanding]
      exact create_sameOn fun id => recordDeliveries_writes now shouldQueuePush id
  | alert call =>
    by_cases hcall : ∃ now shouldQueuePush input, call = .compensate now shouldQueuePush input
    · obtain ⟨now, shouldQueuePush, input, rfl⟩ := hcall
      refine .inr ⟨compensationNotification input, ?_, .inr ⟨input, rfl⟩⟩
      exact create_sameOn fun id =>
        .bind (recordDeliveries_writes now shouldQueuePush id) fun _ => autoResolve_writes now input
    · exact .inl (hsame (call.writes db fun now push input h => hcall ⟨now, push, input, h⟩))
  | prune now userId =>
    left
    refine (pruneOldNotifications_writes userId).run
      (I := fun db' => ∀ row : Id × Notification,
        db'.get (.notification, row.1) = some row.2 → db.get (.notification, row.1) = some row.2)
      ?_ fun _ h => h
    intro db₁ w hkept hnone row hget
    by_cases hkey : ((.notification, row.1) : Key Tbl) = w.key
    · obtain ⟨table, i, r⟩ := w
      cases hkey
      obtain rfl : r = none := hnone
      have hself : (db₁.put ⟨.notification, row.1, none⟩).get (.notification, row.1) = none :=
        Db.get_put_self ..
      rw [hself] at hget
      cases hget
    · rw [Db.get_put_ne db₁ hkey] at hget
      exact hkept row hget

end Step

/-! ## What is stored and what was created -/

section History

open NotificationEventService NotificationsService NotificationsRepository

variable {db : Store} {s : AlertHistory} {call : CooldownCall} {start : Date}

theorem mem_createdBetween {db' : Store} {row : Id × Notification} :
    row ∈ createdBetween db db' ↔ db'.get (.notification, row.1) = some row.2 ∧
      db.get (.notification, row.1) = none := by
  rw [createdBetween, List.mem_filter, Option.isNone_iff_eq_none, Db.mem_list,
    and_iff_left rfl]

/-- What a call creates, with the time of the call. -/
theorem CooldownCall.created {row : Id × Notification}
    (h : row ∈ createdBetween db (call.run db)) : row.2.createdAt = call.time ∧
      ((∃ shouldQueuePush input, call = .stock call.time shouldQueuePush input ∧
          row.2 = newNotification call.time (attentionNotification input) ∧
          standingAlerts db input (call.time - inventoryAlertCooldownMs) = []) ∨
        ∃ input, row.2 = newNotification call.time (compensationNotification input)) := by
  obtain ⟨hget, hnew⟩ := mem_createdBetween.mp h
  obtain hkept | ⟨payload, hsame, hpayload⟩ := call.creates db
  · rw [hkept row hget] at hnew
    cases hnew
  · rw [← hsame.get rfl] at hget
    have hrow : row.2 = newNotification call.time payload := by
      by_cases hid : row.1 = db.fresh .notification
      · rw [hid] at hget
        have hself : (db.put ⟨.notification, db.fresh .notification,
            some (newNotification call.time payload)⟩).get (.notification, db.fresh .notification) =
              some (newNotification call.time payload) := Db.get_put_self ..
        rw [hself] at hget
        exact (Option.some.inj hget).symm
      · rw [Db.get_put_ne db (by simpa [Write.key] using hid), hnew] at hget
        cases hget
    refine ⟨by rw [hrow]; rfl, hpayload.imp ?_ ?_⟩
    · rintro ⟨shouldQueuePush, input, hcall, rfl, hstanding⟩
      exact ⟨shouldQueuePush, input, hcall, hrow, hstanding⟩
    · rintro ⟨input, rfl⟩
      exact ⟨input, hrow⟩

/-- A call changes no notification that it leaves. -/
theorem CooldownCall.stored {row : Id × Notification}
    (h : (call.run db).get (.notification, row.1) = some row.2) :
    row ∈ createdBetween db (call.run db) ∨ db.get (.notification, row.1) = some row.2 := by
  obtain hkept | ⟨payload, hsame, -⟩ := call.creates db
  · exact .inr (hkept row h)
  · have hget := h
    rw [← hsame.get rfl] at hget
    by_cases hid : row.1 = db.fresh .notification
    · exact .inl (mem_createdBetween.mpr ⟨h, hid ▸ Db.get_fresh db .notification⟩)
    · rw [Db.get_put_ne db (by simpa [Write.key] using hid)] at hget
      exact .inr hget

/-- What is stored is of before the start, or it was created since, and what was created is listed
by its time. -/
structure Recorded (start : Date) (s : AlertHistory) : Prop where
  started : start ≤ s.clock
  stored : ∀ row : Id × Notification, s.db.get (.notification, row.1) = some row.2 →
    row ∈ s.created ∨ row.2.createdAt ≤ start
  range : ∀ row ∈ s.created, start ≤ row.2.createdAt ∧ row.2.createdAt ≤ s.clock
  sorted : s.created.Pairwise fun later earlier => earlier.2.createdAt ≤ later.2.createdAt

/-- The run starts: what is stored is of before. -/
structure Started (s : AlertHistory) : Prop where
  created : s.created = []
  stored : ∀ row : Id × Notification, s.db.get (.notification, row.1) = some row.2 →
    row.2.createdAt ≤ s.clock

theorem Started.recorded (h : Started s) : Recorded s.clock s where
  started := le_rfl
  stored row hrow := .inr (h.stored row hrow)
  range := by simp [h.created]
  sorted := by simp [h.created]

theorem Recorded.step (h : Recorded start s) (horder : InOrder call s) :
    Recorded start (call.step s) where
  started := h.started.trans horder
  stored row hrow := by
    obtain hnew | hold := CooldownCall.stored hrow
    · exact .inl (List.mem_append_left _ hnew)
    · exact (h.stored row hold).imp_left (List.mem_append_right _)
  range row hrow := by
    obtain hnew | hold := List.mem_append.mp hrow
    · rw [(CooldownCall.created hnew).1]
      exact ⟨h.started.trans horder, le_rfl⟩
    · exact ⟨(h.range row hold).1, (h.range row hold).2.trans horder⟩
  sorted := by
    refine List.pairwise_append.mpr ⟨?_, h.sorted, fun later hlater earlier hearlier => ?_⟩
    · refine List.pairwise_iff_forall_sublist.mpr fun hpair => ?_
      rw [(CooldownCall.created (hpair.subset (by simp))).1,
        (CooldownCall.created (hpair.subset (by simp))).1]
    · rw [(CooldownCall.created hlater).1]
      exact (h.range earlier hearlier).2.trans horder

/-- What is stored with a later time was created later. -/
theorem Recorded.later (h : Recorded start s) {later earlier : Id × Notification}
    (hearlier : earlier ∈ s.created) (hstored : s.db.get (.notification, later.1) = some later.2)
    (hlt : earlier.2.createdAt < later.2.createdAt) : [later, earlier].Sublist s.created := by
  have hlater : later ∈ s.created := by
    refine (h.stored later hstored).resolve_right fun hle => ?_
    exact absurd ((h.range earlier hearlier).1.trans_lt hlt) (not_lt.mpr hle)
  obtain ⟨front, back, hsplit⟩ := List.append_of_mem hearlier
  have hsorted := h.sorted
  rw [hsplit] at hlater hsorted ⊢
  obtain hfront | hback := List.mem_append.mp hlater
  · exact (List.singleton_sublist.mpr hfront).append ((List.nil_sublist back).cons_cons earlier)
  · obtain rfl | hback := List.mem_cons.mp hback
    · exact absurd hlt (lt_irrefl _)
    · have hle := (List.pairwise_cons.mp (List.pairwise_append.mp hsorted).2.1).1 later hback
      exact absurd hlt (not_lt.mpr hle)

end History

/-! ## One alert -/

section Alerts

variable {notification : Notification} {metadata : InventoryAlertMetadata}

theorem attention_of_triple {userId : Id} {resource : InventoryResourceType × Id}
    {level : InventoryAttentionLevel}
    (htriple : attentionTriple notification = some (userId, resource, level))
    (h : readAdminInventoryAlertMetadata notification = some metadata) :
    notification.type = .systemAlert ∧ notification.userId = userId ∧
      metadata.alertKind = .attention ∧ metadata.subject.resourceType = resource.1 ∧
      metadata.subject.resourceId = resource.2 ∧ metadata.attentionLevel = some level := by
  rw [readAdminInventoryAlertMetadata] at h
  rw [attentionTriple] at htriple
  split at h
  next => cases h
  next htype =>
    cases hjson : notification.metadataJson with
    | attention subject level' =>
      simp only [hjson] at h htriple
      split at h
      next => cases h
      next =>
        cases h
        cases htriple
        exact ⟨not_not.mp htype, rfl, rfl, rfl, rfl, rfl⟩
    | compensation => simp [hjson] at htriple
    | order => simp [hjson] at htriple
    | other => simp [hjson] at htriple

theorem resource_of_compensation (hkind : metadata.alertKind = .compensation)
    (h : readAdminInventoryAlertMetadata notification = some metadata) :
    compensatedResource notification = some (notification.userId,
      (metadata.subject.resourceType, metadata.subject.resourceId)) := by
  rw [readAdminInventoryAlertMetadata] at h
  rw [compensatedResource]
  split at h
  next => cases h
  next =>
    cases hjson : notification.metadataJson with
    | attention subject level =>
      simp only [hjson] at h
      split at h
      next => cases h
      next =>
        cases h
        cases hkind
    | compensation =>
      simp only [hjson] at h ⊢
      split at h
      next => cases h
      next =>
        cases h
        rfl
    | order => simp [hjson] at h
    | other => simp [hjson] at h

end Alerts

/-! ## The cooldown -/

section Cooldown

open NotificationEventService NotificationsService NotificationsRepository

variable {s : AlertHistory} {call : CooldownCall} {start : Date}

/-- An alert that is remembered is looked at. -/
theorem Remembered.recent {db : Store} {earlier : Id × Notification} {now : Date}
    (h : Remembered db earlier) (htype : earlier.2.type = .systemAlert)
    (hrecent : Recent earlier now) :
    earlier ∈ listRecentInventoryAlertsByUserIdSince db earlier.2.userId
      (now - inventoryAlertCooldownMs) := by
  have hids := Db.list_nodup db .notification fun notification =>
    notification.userId == earlier.2.userId && notification.type == .systemAlert &&
      decide (now - inventoryAlertCooldownMs ≤ notification.createdAt)
  have hmem : earlier ∈ db.list .notification fun notification =>
      notification.userId == earlier.2.userId && notification.type == .systemAlert &&
        decide (now - inventoryAlertCooldownMs ≤ notification.createdAt) :=
    Db.mem_list.mpr ⟨h.stored, by
      simp only [htype, beq_self_eq_true, Bool.true_and]
      exact decide_eq_true hrecent⟩
  refine ((newestFirst_descending hids).mem_take_iff
    ((List.mem_insertionSort _).mpr hmem)).mpr (lt_of_le_of_lt ?_ h.newer)
  -- those that are newer than it are newer than fifteen minutes
  rw [newestFirst, ((List.perm_insertionSort _ _).filter _).length_eq]
  refine (List.Sublist.filter _ (List.monotone_filter_right _ fun row hrow => ?_)).length_le
  exact (Bool.and_eq_true_iff.mp hrow).1

theorem mem_listRecentInventoryAlertsByUserIdSince {db : Store} {userId : Id} {since : Date}
    {row : Id × Notification} (h : row ∈ listRecentInventoryAlertsByUserIdSince db userId since) :
    db.get (.notification, row.1) = some row.2 ∧ row.2.userId = userId := by
  have hlisted := List.mem_of_mem_take h
  rw [newestFirst, List.mem_insertionSort] at hlisted
  obtain ⟨hstored, hfound⟩ := Db.mem_list.mp hlisted
  simp only [Bool.and_eq_true, beq_iff_eq] at hfound
  exact ⟨hstored, hfound.1.1⟩

/-- What does not stand in the way is excused. -/
theorem Recorded.excused (h : Recorded start s) {input : InventoryAlertInput} {since : Date}
    {earlier : Id × Notification} {metadata : InventoryAlertMetadata}
    (hearlier : earlier ∈ s.created)
    (hmetadata : readAdminInventoryAlertMetadata earlier.2 = some metadata)
    (htriple : attentionTriple earlier.2 = some (input.merchantUserId,
      (input.subject.resourceType, input.subject.resourceId), input.attentionLevel))
    (hrecent : earlier ∈ listRecentInventoryAlertsByUserIdSince s.db input.merchantUserId since)
    (hnone : standingAlerts s.db input since = []) : Excused s earlier := by
  obtain ⟨htype, huser, hkind, hresourceType, hresourceId, hlevel⟩ :=
    attention_of_triple htriple hmetadata
  have halert : (⟨earlier.1, earlier.2, metadata⟩ : ResolvedAlert) ∈
      matchingAlerts input (recentAlerts s.db input since) := by
    refine List.mem_filter.mpr ⟨List.mem_filterMap.mpr ⟨earlier, hrecent, ?_⟩, ?_⟩
    · rw [hmetadata]
      rfl
    · simp [hkind, hresourceType, hresourceId, hlevel]
  have hnot := List.filter_eq_nil_iff.mp hnone _ halert
  rw [standing, alertStatus_eq_latestLog s.db (List.mem_map_of_mem halert)] at hnot
  by_cases hresolved : alertStatus s.db earlier.1 = .resolved
  · exact .inl hresolved
  · rw [if_neg hresolved] at hnot
    by_cases hlater : alertStatus s.db earlier.1 = .dismissed ∧
        hasLaterCompensationAlert (recentAlerts s.db input since) metadata.subject.resourceType
          metadata.subject.resourceId earlier.2.createdAt = true
    · obtain ⟨hdismissed, hcompensated⟩ := hlater
      refine .inr ⟨hdismissed, ?_⟩
      obtain ⟨later, hlater, hfound⟩ := List.any_eq_true.mp hcompensated
      simp only [Bool.and_eq_true, beq_iff_eq, decide_eq_true_eq] at hfound
      obtain ⟨⟨⟨hcompensation, hsameType⟩, hsameId⟩, hlt⟩ := hfound
      obtain ⟨row, hrow, hread⟩ := List.mem_filterMap.mp hlater
      obtain ⟨laterMetadata, hlaterMetadata, rfl⟩ := Option.map_eq_some_iff.mp hread
      obtain ⟨hstored, hlaterUser⟩ := mem_listRecentInventoryAlertsByUserIdSince hrow
      refine ⟨row, _, htriple, ?_, h.later hearlier hstored hlt⟩
      rw [resource_of_compensation hcompensation hlaterMetadata, hlaterUser, hsameType, hsameId,
        hresourceType, hresourceId]
    · rw [if_neg hlater] at hnot
      exact absurd rfl hnot

/-- **One call keeps the cooldown** if no alert is forgotten that stands in the way. -/
theorem Recorded.cooldownKept (h : Recorded start s) (hforgotten : NoneForgotten call s) :
    CooldownKept call s := by
  intro row hrow earlier hearlier triple hrowTriple htriple hrecent
  obtain ⟨htime, ⟨shouldQueuePush, input, hcall, hnew, hnone⟩ | ⟨input, hnew⟩⟩ :=
    CooldownCall.created hrow
  · by_contra hexcused
    rw [hnew] at hrowTriple
    cases hrowTriple
    rw [htime] at hrecent
    have hremembered := hforgotten _ _ input hcall earlier hearlier htriple hrecent hexcused
    obtain ⟨metadata, hmetadata⟩ := Option.isSome_iff_exists.mp hremembered.readable
    obtain ⟨htype, huser, -⟩ := attention_of_triple htriple hmetadata
    have hmerchant : earlier.2.userId = input.merchantUserId := huser
    refine hexcused (h.excused hearlier hmetadata htriple ?_ hnone)
    rw [← hmerchant]
    exact hremembered.recent htype hrecent
  · rw [hnew] at hrowTriple
    cases hrowTriple

/-- **The cooldown is kept in every run** in which no alert is forgotten that stands in the way. -/
theorem cooldown_kept {s₀ : AlertHistory} (hstart : Started s₀) (calls : List CooldownCall)
    (horder : MeetAll CooldownCall.step InOrder calls s₀)
    (hforgotten : MeetAll CooldownCall.step NoneForgotten calls s₀) :
    MeetAll CooldownCall.step CooldownKept calls s₀ :=
  MeetAll.of_inv (fun _ _ h _ horder => h.step horder)
    (fun _ _ h hforgotten => h.cooldownKept hforgotten) calls hstart.recorded hforgotten horder

end Cooldown

/-! ## A forgotten alert -/

/-- The times of the calls do not go back. -/
theorem inOrder_of_times (calls : List CooldownCall) : ∀ {s : AlertHistory},
    (s.clock :: calls.map CooldownCall.time).IsChain (· ≤ ·) →
      MeetAll CooldownCall.step InOrder calls s := by
  induction calls with
  | nil => exact fun _ => trivial
  | cons call calls ih =>
    intro s h
    obtain ⟨hfirst, hrest⟩ := List.isChain_cons_cons.mp h
    exact ⟨hfirst, ih hrest⟩

/-- An item of which there are none left. -/
def soldOut (resourceId : Id) : InventoryAlertInput where
  merchantUserId := 10
  subject := {
    branchId := 1, branchName := none, resourceType := .menuItem, resourceId
    resourceLabel := "Tea", stockQuantity := some 0, lowStockThreshold := none
    menuItemName := none }
  attentionLevel := .outOfStock

/-- Item 0 is sold out, then twenty others, and a prune keeps the newest twenty alerts. -/
def soldOutCalls : List CooldownCall :=
  (List.range 21).map (fun i => .stock i false (soldOut i)) ++ [.prune 21 10]

def newHistory : AlertHistory where
  db := Db.empty
  clock := 0

theorem newHistory_started : Started newHistory := ⟨rfl, fun _ h => by cases h⟩

/-- What the alerts about an item that is sold out are about. -/
def soldOutTriple (resourceId : Id) :
    Id × (InventoryResourceType × Id) × InventoryAttentionLevel :=
  (10, (.menuItem, resourceId), .outOfStock)

theorem cooldown_broken :
    ¬ ∀ calls, MeetAll CooldownCall.step InOrder calls newHistory →
      MeetAll CooldownCall.step CooldownKept calls newHistory := by
  intro hall
  have hlast := ((meetAll_append _ _).mp (hall (soldOutCalls ++ [.stock 22 false (soldOut 0)])
    (inOrder_of_times _ (by decide)))).2.1
  have hearlier : ((runAll CooldownCall.step soldOutCalls newHistory).created.any fun row =>
      row.1 == 1 && attentionTriple row.2 == some (soldOutTriple 0) &&
        decide (row.2.createdAt = 0)) = true := by
    decide +kernel
  have hnew : ((createdBetween (runAll CooldownCall.step soldOutCalls newHistory).db
      ((CooldownCall.stock 22 false (soldOut 0)).run
        (runAll CooldownCall.step soldOutCalls newHistory).db)).any fun row =>
      attentionTriple row.2 == some (soldOutTriple 0) && decide (row.2.createdAt = 22)) = true := by
    decide +kernel
  have hopen : alertStatus (runAll CooldownCall.step soldOutCalls newHistory).db 1 = .opened := by
    decide +kernel
  simp only [List.any_eq_true, Bool.and_eq_true, beq_iff_eq, decide_eq_true_eq] at hearlier hnew
  obtain ⟨earlier, hearlierMem, ⟨hid, htriple⟩, htime⟩ := hearlier
  obtain ⟨row, hrow, hrowTriple, hrowTime⟩ := hnew
  have hrecent : Recent earlier row.2.createdAt := by
    rw [Recent, htime, hrowTime]
    decide
  obtain hresolved | ⟨hdismissed, -⟩ :=
    hlast row hrow earlier hearlierMem (soldOutTriple 0) hrowTriple htriple hrecent
  · rw [hid, hopen] at hresolved
    cases hresolved
  · rw [hid, hopen] at hdismissed
    cases hdismissed

/-- An item is reported as sold out twice. -/
def soldOutTwice : List CooldownCall := [.stock 0 false (soldOut 0), .stock 1 false (soldOut 0)]

theorem cooldown_kept_soldOutTwice :
    MeetAll CooldownCall.step CooldownKept soldOutTwice newHistory := by
  refine cooldown_kept newHistory_started soldOutTwice (inOrder_of_times _ (by decide)) ?_
  refine ⟨?_, ?_, trivial⟩
  · intro now shouldQueuePush input _ earlier hearlier
    cases hearlier
  · intro now shouldQueuePush input _ earlier hearlier _ _ _
    have hcreated : ((CooldownCall.stock 0 false (soldOut 0)).step newHistory).created =
      [(1, NotificationsRepository.newNotification 0
        (NotificationEventService.attentionNotification (soldOut 0)))] := by decide +kernel
    rw [hcreated, List.mem_singleton] at hearlier
    subst hearlier
    exact ⟨by decide +kernel, by decide +kernel, by decide +kernel⟩

end WerTe
