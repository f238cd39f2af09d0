import Mathlib.Data.List.Dedup
import WerTe.OrderEvents

/-!
# The life of an inventory alert

`admin-inventory-alerts.service.ts` and `notification-event.service.ts`: an administrator
acknowledges, resolves and dismisses the alerts that merchants get about their stock, and stock that
is given back resolves them by itself.

An alert's status is not stored. It is what its newest audit log says, and every reader finds that
log for itself.

* `AdminInventoryAlertsService`: the administrator's operations, which go by the newest log
* `NotificationEventService.autoResolveRecoveredInventoryAlerts`: goes by the oldest
* `AlertCall`: the operations
-/

namespace WerTe

open ReadCommitted

/-! ## `admin-inventory-alert-notification.entity.ts` -/

inductive InventoryAlertKind
  | attention | compensation
deriving DecidableEq, Repr

/-- `AdminInventoryAlertMetadata`. -/
structure InventoryAlertMetadata where
  alertKind : InventoryAlertKind
  subject : InventoryAlertSubject
  attentionLevel : Option InventoryAttentionLevel
  restoredQuantity : Option ℤ
  orderId : Option Id
  orderCode : Option String
  reasonCode : Option String
deriving DecidableEq

/-- The texts of an alert, trimmed. -/
def readSubject (subject : InventoryAlertSubject) : InventoryAlertSubject :=
  { subject with
    branchName := normalizeOptionalString subject.branchName
    resourceLabel := trim subject.resourceLabel
    menuItemName := normalizeOptionalString subject.menuItemName }

def readAdminInventoryAlertMetadata (notification : Notification) :
    Option InventoryAlertMetadata :=
  if notification.type ≠ .systemAlert then none
  else
    match notification.metadataJson with
    | .attention subject attentionLevel =>
      if (trim subject.resourceLabel).length = 0 then none
      else some {
        alertKind := .attention, subject := readSubject subject
        attentionLevel := some attentionLevel, restoredQuantity := none
        orderId := none, orderCode := none, reasonCode := none }
    | .compensation subject restoredQuantity orderId orderCode reasonCode _ =>
      if (trim subject.resourceLabel).length = 0 ∨ restoredQuantity ≤ 0 then none
      else some {
        alertKind := .compensation, subject := readSubject subject
        attentionLevel := none, restoredQuantity := some restoredQuantity
        orderId := some orderId, orderCode := normalizeOptionalString (some orderCode)
        reasonCode := normalizeOptionalString reasonCode }
    | .order .. | .other => none

/-- A notification that is an alert, with what it is about. -/
structure ResolvedAlert where
  id : Id
  notification : Notification
  metadata : InventoryAlertMetadata
deriving DecidableEq

/-- The alerts among the notifications. -/
def resolvedAlerts (notifications : List (Id × Notification)) : List ResolvedAlert :=
  notifications.filterMap fun row =>
    (readAdminInventoryAlertMetadata row.2).map fun metadata => ⟨row.1, row.2, metadata⟩

/-! ## `notifications.repository.ts` -/

namespace NotificationsRepository

def findInventoryAlertsByIds (db : Store) (notificationIds : List Id) :
    List (Id × Notification) :=
  (db.list .notification (·.type == .systemAlert)).filter (·.1 ∈ notificationIds)

/-- The newest first. -/
def listRecentInventoryAlertsByUserId (db : Store) (userId : Id) (limit : ℕ := 200) :
    List (Id × Notification) :=
  (db.list .notification fun notification =>
    notification.userId == userId && notification.type == .systemAlert).take limit

end NotificationsRepository

/-! ## `audit.repository.ts` -/

namespace AuditRepository

/-- The newest first. -/
def findInventoryAlertLifecycleLogs (db : Store) (notificationIds : List Id) : List AuditLog :=
  (db.list .auditLog fun log => decide (log.resourceId ∈ notificationIds)).map Prod.snd

/-- The newest first. -/
def findInventoryAlertAcknowledgementLogs (db : Store) (notificationIds : List Id) :
    List AuditLog :=
  (db.list .auditLog fun log =>
    decide (log.resourceId ∈ notificationIds) && log.action == .acknowledged).map Prod.snd

def create (log : AuditLog) : StoreTx AuditLog :=
  .update fun db => (log, [⟨.auditLog, db.fresh .auditLog, some log⟩])

end AuditRepository

/-! ## The status -/

/-- `OPEN`, `ACKNOWLEDGED`, `RESOLVED`, `DISMISSED`. -/
inductive InventoryAlertStatus
  | opened | acknowledged | resolved | dismissed
deriving DecidableEq, Repr

/-- Both services have this function. -/
def resolveInventoryAlertStatus : Option InventoryAlertAction → InventoryAlertStatus
  | some .dismissed => .dismissed
  | some .resolved => .resolved
  | some .acknowledged => .acknowledged
  | none => .opened

/-- Neither acknowledged nor resolved any more. -/
def InventoryAlertStatus.isClosed (status : InventoryAlertStatus) : Bool :=
  status == .resolved || status == .dismissed

/-! ## `admin-inventory-alerts.service.ts` -/

/-- `AdminInventoryAlertDto`: the alert with the logs that its fields are read from. -/
structure AdminInventoryAlert where
  alert : ResolvedAlert
  acknowledgement : Option AuditLog
  lifecycleLog : Option AuditLog
  status : InventoryAlertStatus
deriving DecidableEq

/-- `toAdminInventoryAlertDto`. -/
def toAdminInventoryAlert (alert : ResolvedAlert) (acknowledgement lifecycleLog : Option AuditLog) :
    AdminInventoryAlert :=
  ⟨alert, acknowledgement, lifecycleLog,
    resolveInventoryAlertStatus (lifecycleLog.map (·.action))⟩

structure BulkInventoryAlertsDto where
  notificationIds : List Id
  note : Option String := none
  ids_nonempty : notificationIds ≠ []
  ids_unique : notificationIds.Nodup
  note_max : ∀ text ∈ note, text.length ≤ 500

/-- How many alerts were changed, and all of them. -/
structure BulkInventoryAlertsResponse where
  changedCount : ℕ
  alerts : List AdminInventoryAlert
deriving DecidableEq

/-- Go through a list, one call after the other. -/
def forEach {α β : Type} (f : α → StoreService β) : List α → StoreService (List β)
  | [] => .ret []
  | a :: as => do
    let b ← f a
    let bs ← forEach f as
    .ret (b :: bs)

namespace AdminInventoryAlertsService

def assertAdmin (currentUser : AuthenticatedUser) : StoreService Unit :=
  .require (currentUser.role = .admin)
    (fail "You are not allowed to manage inventory alerts." .forbidden)

def findResolvedInventoryAlertsByIds (notificationIds : List Id) :
    StoreService (List ResolvedAlert) := do
  let alerts ← .get fun db =>
    resolvedAlerts (NotificationsRepository.findInventoryAlertsByIds db notificationIds)
  .require (alerts.length = notificationIds.length)
    (fail "Inventory alert was not found." .notFound)
  .ret alerts

/-- `buildLatestLifecycleLogMap`: the first log of each notification, which is the newest. -/
def latestLog (logs : List AuditLog) (notificationId : Id) : Option AuditLog :=
  logs.find? (·.resourceId == notificationId)

def lifecycleLog (now : Date) (currentUser : AuthenticatedUser) (alert : ResolvedAlert)
    (action : InventoryAlertAction) (note : Option String) : AuditLog where
  actorUserId := some currentUser.userId
  actorRole := some currentUser.role
  action := action
  resourceId := alert.id
  resourceLabel := some alert.notification.title
  targetUserId := some alert.notification.userId
  orderId := none
  branchId := some alert.metadata.subject.branchId
  note := normalizeOptionalString note
  createdAt := now

def logInventoryAlertLifecycleAction (now : Date) (currentUser : AuthenticatedUser)
    (alert : ResolvedAlert) (action : InventoryAlertAction) (note : Option String) :
    StoreService AuditLog :=
  .transaction (AuditRepository.create (lifecycleLog now currentUser alert action note))

def acknowledgeInventoryAlert (now : Date) (currentUser : AuthenticatedUser) (notificationId : Id)
    (note : Option String) : StoreService AdminInventoryAlert := do
  assertAdmin currentUser
  let alerts ← findResolvedInventoryAlertsByIds [notificationId]
  let alert ← .orFail alerts.head? (fail "Inventory alert was not found." .notFound)
  let acknowledgements ← .get fun db =>
    AuditRepository.findInventoryAlertAcknowledgementLogs db [alert.id]
  let lifecycleLogs ← .get fun db => AuditRepository.findInventoryAlertLifecycleLogs db [alert.id]
  if (resolveInventoryAlertStatus (lifecycleLogs.head?.map (·.action))).isClosed then
    .ret (toAdminInventoryAlert alert acknowledgements.head? lifecycleLogs.head?)
  else
    match acknowledgements.head? with
    | some acknowledgement =>
      .ret (toAdminInventoryAlert alert (some acknowledgement) (some acknowledgement))
    | none => do
      let acknowledgement ←
        logInventoryAlertLifecycleAction now currentUser alert .acknowledged note
      .ret (toAdminInventoryAlert alert (some acknowledgement) (some acknowledgement))

def resolveInventoryAlert (now : Date) (currentUser : AuthenticatedUser) (notificationId : Id)
    (note : Option String) : StoreService AdminInventoryAlert := do
  assertAdmin currentUser
  let alerts ← findResolvedInventoryAlertsByIds [notificationId]
  let alert ← .orFail alerts.head? (fail "Inventory alert was not found." .notFound)
  let acknowledgements ← .get fun db =>
    AuditRepository.findInventoryAlertAcknowledgementLogs db [alert.id]
  let lifecycleLogs ← .get fun db => AuditRepository.findInventoryAlertLifecycleLogs db [alert.id]
  if (resolveInventoryAlertStatus (lifecycleLogs.head?.map (·.action))).isClosed then
    .ret (toAdminInventoryAlert alert acknowledgements.head? lifecycleLogs.head?)
  else do
    let log ← logInventoryAlertLifecycleAction now currentUser alert .resolved note
    .ret (toAdminInventoryAlert alert acknowledgements.head? (some log))

/-- One alert of a bulk acknowledgement, and whether it was acknowledged just now. -/
def acknowledgeOne (now : Date) (currentUser : AuthenticatedUser) (note : Option String)
    (alerts : List ResolvedAlert) (acknowledgements lifecycleLogs : List AuditLog)
    (notificationId : Id) : StoreService (Option (AdminInventoryAlert × Bool)) :=
  match alerts.find? (·.id == notificationId) with
  | none => .ret none
  | some alert =>
    if latestLog acknowledgements notificationId = none ∧
        (resolveInventoryAlertStatus
          ((latestLog lifecycleLogs notificationId).map (·.action))).isClosed = false then do
      let acknowledgement ←
        logInventoryAlertLifecycleAction now currentUser alert .acknowledged note
      .ret (some (toAdminInventoryAlert alert (some acknowledgement) (some acknowledgement), true))
    else .ret (some (toAdminInventoryAlert alert (latestLog acknowledgements notificationId)
      (latestLog lifecycleLogs notificationId), false))

/-- One alert of a bulk dismissal, and whether it was dismissed just now. -/
def dismissOne (now : Date) (currentUser : AuthenticatedUser) (note : Option String)
    (alerts : List ResolvedAlert) (acknowledgements lifecycleLogs : List AuditLog)
    (notificationId : Id) : StoreService (Option (AdminInventoryAlert × Bool)) :=
  match alerts.find? (·.id == notificationId) with
  | none => .ret none
  | some alert =>
    if resolveInventoryAlertStatus
        ((latestLog lifecycleLogs notificationId).map (·.action)) ≠ .dismissed then do
      let log ← logInventoryAlertLifecycleAction now currentUser alert .dismissed note
      .ret (some (toAdminInventoryAlert alert (latestLog acknowledgements notificationId)
        (some log), true))
    else .ret (some (toAdminInventoryAlert alert (latestLog acknowledgements notificationId)
      (latestLog lifecycleLogs notificationId), false))

/-- The alerts of a request are read with their logs, and each is handled by what was read. -/
def bulkInventoryAlerts
    (handle : List ResolvedAlert → List AuditLog → List AuditLog → Id →
      StoreService (Option (AdminInventoryAlert × Bool)))
    (currentUser : AuthenticatedUser) (payload : BulkInventoryAlertsDto) :
    StoreService BulkInventoryAlertsResponse := do
  assertAdmin currentUser
  let notificationIds := payload.notificationIds.dedup
  let alerts ← findResolvedInventoryAlertsByIds notificationIds
  let acknowledgements ← .get fun db =>
    AuditRepository.findInventoryAlertAcknowledgementLogs db notificationIds
  let lifecycleLogs ← .get fun db =>
    AuditRepository.findInventoryAlertLifecycleLogs db notificationIds
  let handled ← forEach (handle alerts acknowledgements lifecycleLogs) notificationIds
  .ret ⟨(handled.reduceOption.filter (·.2)).length, handled.reduceOption.map (·.1)⟩

def bulkAcknowledgeInventoryAlerts (now : Date) (currentUser : AuthenticatedUser)
    (payload : BulkInventoryAlertsDto) : StoreService BulkInventoryAlertsResponse :=
  bulkInventoryAlerts (acknowledgeOne now currentUser payload.note) currentUser payload

def bulkDismissInventoryAlerts (now : Date) (currentUser : AuthenticatedUser)
    (payload : BulkInventoryAlertsDto) : StoreService BulkInventoryAlertsResponse :=
  bulkInventoryAlerts (dismissOne now currentUser payload.note) currentUser payload

end AdminInventoryAlertsService

/-! ## `notification-event.service.ts` -/

/-- `MenuInventoryCompensationEvent`, with the order whose stock was given back. -/
structure CompensationInput where
  merchantUserId : Id
  subject : InventoryAlertSubject
  restoredQuantity : ℤ
  orderId : Id
  orderCode : String
  reasonCode : Option String := none
  note : Option String := none

namespace NotificationEventService

/-- An option is named with its item. -/
def alertSubjectText (subject : InventoryAlertSubject) : String :=
  match subject.resourceType, subject.menuItemName with
  | .itemOption, some menuItemName =>
    if menuItemName.length = 0 then subject.resourceLabel
    else menuItemName ++ " - " ++ subject.resourceLabel
  | _, _ => subject.resourceLabel

def buildInventoryCompensationTitle (input : CompensationInput) : String :=
  "Stock restored: " ++ input.subject.resourceLabel

def buildInventoryCompensationBody (input : CompensationInput) : String :=
  let branchLabel :=
    (normalizeOptionalString input.subject.branchName).getD (toString input.subject.branchId)
  let stockText :=
    match input.subject.stockQuantity with
    | none => "tracked stock updated"
    | some quantity => "current stock " ++ toString quantity
  let quantityLabel :=
    if input.restoredQuantity = 1 then "1 reserved unit was"
    else toString input.restoredQuantity ++ " reserved units were"
  let noteText :=
    match normalizeOptionalString input.note with
    | none => ""
    | some note => " Note: " ++ note ++ "."
  quantityLabel ++ " restored to " ++ alertSubjectText input.subject ++ " in " ++ branchLabel ++
    " for " ++ input.orderCode ++ "; " ++ stockText ++ "." ++ noteText

def shouldAutoResolveAttentionAlert (attentionLevel : Option InventoryAttentionLevel)
    (stockQuantity lowStockThreshold : Option ℤ) : Bool :=
  match attentionLevel, stockQuantity, lowStockThreshold with
  | none, _, _ | _, none, _ => false
  | some .outOfStock, some quantity, _ => 0 < quantity
  | some .lowStock, some quantity, none => 0 < quantity
  | some .lowStock, some quantity, some threshold => threshold < quantity

def buildAutoResolutionNote (attentionLevel : Option InventoryAttentionLevel)
    (input : CompensationInput) : String :=
  let restored := "Auto-resolved after stock restoration for " ++ input.orderCode
  match attentionLevel, input.subject.stockQuantity, input.subject.lowStockThreshold with
  | _, none, _ => restored ++ "."
  | some .outOfStock, some quantity, _ => restored ++ "; stock is now " ++ toString quantity ++ "."
  | _, some _, none => restored ++ "."
  | _, some quantity, some threshold =>
    restored ++ "; stock is now " ++ toString quantity ++ ", above threshold " ++
      toString threshold ++ "."

/-- The alerts about the resource that its stock no longer calls for. -/
def relatedAttentionAlerts (input : CompensationInput)
    (notifications : List (Id × Notification)) : List ResolvedAlert :=
  (resolvedAlerts notifications).filter fun alert =>
    alert.metadata.alertKind == .attention &&
      alert.metadata.subject.resourceType == input.subject.resourceType &&
      alert.metadata.subject.resourceId == input.subject.resourceId &&
      shouldAutoResolveAttentionAlert alert.metadata.attentionLevel input.subject.stockQuantity
        input.subject.lowStockThreshold

/-- `new Map(logs)`: a later entry of the list takes the place of an earlier one, so that of the
logs, which come newest first, the oldest stays. -/
def mappedLog (logs : List AuditLog) (notificationId : Id) : Option AuditLog :=
  (logs.filter (·.resourceId == notificationId)).getLast?

def autoResolutionLog (now : Date) (input : CompensationInput) (alert : ResolvedAlert) :
    AuditLog where
  actorUserId := none
  actorRole := none
  action := .resolved
  resourceId := alert.id
  resourceLabel := some alert.notification.title
  targetUserId := some alert.notification.userId
  orderId := some input.orderId
  branchId := some alert.metadata.subject.branchId
  note := some (buildAutoResolutionNote alert.metadata.attentionLevel input)
  createdAt := now

def autoResolveOne (now : Date) (input : CompensationInput) (logs : List AuditLog)
    (alert : ResolvedAlert) : StoreService Unit :=
  if (resolveInventoryAlertStatus ((mappedLog logs alert.id).map (·.action))).isClosed then .ret ()
  else do
    let _ ← .transaction (AuditRepository.create (autoResolutionLog now input alert))
    .ret ()

def autoResolveRecoveredInventoryAlerts (now : Date) (input : CompensationInput) :
    StoreService Unit := do
  let alerts ← .get fun db => relatedAttentionAlerts input
    (NotificationsRepository.listRecentInventoryAlertsByUserId db input.merchantUserId)
  let logs ← .get fun db => AuditRepository.findInventoryAlertLifecycleLogs db (alerts.map (·.id))
  let _ ← forEach (autoResolveOne now input logs) alerts
  .ret ()

def compensationNotification (input : CompensationInput) : CreateNotificationInput where
  userId := input.merchantUserId
  type := .systemAlert
  title := buildInventoryCompensationTitle input
  body := buildInventoryCompensationBody input
  navigationPath :=
    some ("/merchant/branches/" ++ toString input.subject.branchId ++ "/inventory/overview")
  metadataJson := .compensation input.subject input.restoredQuantity input.orderId input.orderCode
    input.reasonCode input.note
  orderId := some input.orderId

/-- The merchant's preferences and quiet hours say whether a push is queued. -/
def recordMerchantInventoryAlertDeliveries (now : Date) (shouldQueuePush : Bool)
    (notificationId : Id) : StoreService Unit := do
  .transaction (NotificationsRepository.createDeliveryAttempt
    ⟨notificationId, .inApp, .delivered, none, some now⟩)
  if shouldQueuePush then
    .transaction (NotificationsRepository.createDeliveryAttempt
      ⟨notificationId, .push, .queued, some now, none⟩)
  else .ret ()

def publishMerchantInventoryCompensationAlert (now : Date) (shouldQueuePush : Bool)
    (input : CompensationInput) : StoreService Unit := do
  let notificationId ←
    .transaction (NotificationsRepository.create now (compensationNotification input))
  recordMerchantInventoryAlertDeliveries now shouldQueuePush notificationId
  autoResolveRecoveredInventoryAlerts now input

end NotificationEventService

/-! ## The operations -/

inductive AlertCall
  | acknowledge (now : Date) (currentUser : AuthenticatedUser) (notificationId : Id)
      (note : Option String)
  | resolve (now : Date) (currentUser : AuthenticatedUser) (notificationId : Id)
      (note : Option String)
  | bulkAcknowledge (now : Date) (currentUser : AuthenticatedUser)
      (payload : BulkInventoryAlertsDto)
  | bulkDismiss (now : Date) (currentUser : AuthenticatedUser) (payload : BulkInventoryAlertsDto)
  /-- stock is given back, which resolves alerts by itself -/
  | compensate (now : Date) (shouldQueuePush : Bool) (input : CompensationInput)

open AdminInventoryAlertsService NotificationEventService in
def AlertCall.run : AlertCall → Store → Store
  | acknowledge now currentUser notificationId note, db =>
    ((acknowledgeInventoryAlert now currentUser notificationId note).run db).2
  | resolve now currentUser notificationId note, db =>
    ((resolveInventoryAlert now currentUser notificationId note).run db).2
  | bulkAcknowledge now currentUser payload, db =>
    ((bulkAcknowledgeInventoryAlerts now currentUser payload).run db).2
  | bulkDismiss now currentUser payload, db =>
    ((bulkDismissInventoryAlerts now currentUser payload).run db).2
  | compensate now shouldQueuePush input, db =>
    ((publishMerchantInventoryCompensationAlert now shouldQueuePush input).run db).2

end WerTe
