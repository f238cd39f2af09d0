import WerTe.InventoryAlerts
import WerTe.WebhookStatuses
import WerTe.Paged.Cursor
import Mathlib.Data.Prod.Lex

/-!
# The notification center

`notifications.service.ts` and `notifications.repository.ts`: a user pages through notifications,
with filters on what the alerts among them are about and how they stand, and sees how many are
unread behind each preset.

A page is put together from pages of the repository, which are read one after the other until one
notification more than the page holds is found. What a notification's deliveries, a page's times and
a preset's label say is left out, and so is what is sent over the sockets.
-/

namespace WerTe

open ReadCommitted

/-! ## Texts -/

def OrderStatus.text : OrderStatus → String
  | placed => "PLACED"
  | merchantAccepted => "MERCHANT_ACCEPTED"
  | preparing => "PREPARING"
  | ready => "READY"
  | riderAssigned => "RIDER_ASSIGNED"
  | riderAccepted => "RIDER_ACCEPTED"
  | pickedUp => "PICKED_UP"
  | onTheWay => "ON_THE_WAY"
  | delivered => "DELIVERED"
  | cancelled => "CANCELLED"
  | merchantRejected => "MERCHANT_REJECTED"
  | failedDelivery => "FAILED_DELIVERY"

def ConversationType.text : ConversationType → String
  | orderChat => "ORDER_CHAT"
  | customerMerchant => "CUSTOMER_MERCHANT"
  | customerRider => "CUSTOMER_RIDER"
  | merchantRider => "MERCHANT_RIDER"
  | customerOperations => "CUSTOMER_OPERATIONS"
  | merchantOperations => "MERCHANT_OPERATIONS"
  | riderOperations => "RIDER_OPERATIONS"

def MessageType.asText : MessageType → String
  | text => "TEXT"
  | systemEvent => "SYSTEM_EVENT"
  | image => "IMAGE"
  | file => "FILE"
  | orderStatusCard => "ORDER_STATUS_CARD"
  | proofOfHandoff => "PROOF_OF_HANDOFF"
  | proofOfDelivery => "PROOF_OF_DELIVERY"

def InventoryAlertKind.text : InventoryAlertKind → String
  | attention => "ATTENTION"
  | compensation => "COMPENSATION"

def InventoryAttentionLevel.text : InventoryAttentionLevel → String
  | lowStock => "LOW_STOCK"
  | outOfStock => "OUT_OF_STOCK"

def InventoryAlertStatus.text : InventoryAlertStatus → String
  | opened => "OPEN"
  | acknowledged => "ACKNOWLEDGED"
  | resolved => "RESOLVED"
  | dismissed => "DISMISSED"

/-! ## `list-notifications-query.dto.ts` -/

/-- A filter's value, or `ALL`. -/
inductive FilterValue (α : Type)
  | all
  | only (a : α)
deriving DecidableEq

/-- What a filter asks for, if it is given and not `ALL`. -/
def FilterValue.wanted {α : Type} : Option (FilterValue α) → Option α
  | some (only a) => some a
  | some all | none => none

inductive NotificationPreset
  | all | unread | inventoryOpen | inventoryResolved | inventoryCompensation | inventoryAttention
  | inventoryLowStock | inventoryOutOfStock
deriving DecidableEq, Repr

/-- A `branchId` that is blank is as one that is not there. -/
structure ListNotificationsQueryDto where
  limit : Option ℕ := none
  cursor : Option Id := none
  type : Option NotificationType := none
  preset : Option NotificationPreset := none
  unreadOnly : Option Bool := none
  keyword : Option String := none
  inventoryAlertKind : Option (FilterValue InventoryAlertKind) := none
  inventoryAlertStatus : Option (FilterValue InventoryAlertStatus) := none
  inventoryResourceType : Option (FilterValue InventoryResourceType) := none
  inventoryAttentionLevel : Option (FilterValue InventoryAttentionLevel) := none
  branchId : Option Id := none
  limit_range : ∀ n ∈ limit, 1 ≤ n ∧ n ≤ 100 := by simp

theorem limit_range_none : ∀ n ∈ (none : Option ℕ), 1 ≤ n ∧ n ≤ 100 := by simp

/-! ## `notifications.repository.ts` -/

/-- A notification with the rows that it refers to. -/
structure NotificationCenterRecord where
  id : Id
  notification : Notification
  order : Option Order
  delivery : Option Delivery
  conversation : Option Conversation
  message : Option Message

structure NotificationRecordPage where
  records : List NotificationCenterRecord
  nextCursor : Option Id
  hasMore : Bool

namespace NotificationsRepository

/-- `notificationCenterInclude`. -/
def notificationCenterInclude (db : Store) (row : Id × Notification) :
    NotificationCenterRecord where
  id := row.1
  notification := row.2
  order := row.2.orderId.bind fun id => db.get (.order, id)
  delivery := row.2.deliveryId.bind fun id => db.get (.delivery, id)
  conversation := row.2.conversationId.bind fun id => db.get (.conversation, id)
  message := row.2.messageId.bind fun id => db.get (.message, id)

/-- The place of a notification in the order: by its time, and by its id. -/
def position (row : Id × Notification) : ℤ ×ₗ ℕ := toLex (row.2.createdAt, row.1)

def newestFirst (rows : List (Id × Notification)) : List (Id × Notification) :=
  rows.insertionSort fun left right => position right ≤ position left

theorem newestFirst_descending {rows : List (Id × Notification)}
    (hids : (rows.map Prod.fst).Nodup) : Paged.Descending position (newestFirst rows) := by
  refine Paged.descending_insertionSort ?_
  refine (List.Nodup.of_map Prod.fst hids).map_on fun a ha b hb hposition => ?_
  have hid : a.1 = b.1 := congrArg (fun p => (ofLex p).2) hposition
  exact List.inj_on_of_nodup_map hids ha hb hid

/-- From the cursor's row on, without the first; nothing if that row is gone. -/
def afterCursor (db : Store) (rows : List (Id × Notification)) :
    Option Id → List (Id × Notification)
  | none => rows
  | some id =>
    match db.get (.notification, id) with
    | none => []
    | some notification => (Paged.atOrAfter position rows (position (id, notification))).drop 1

/-- The notifications that a page is taken from. -/
def selectByUserId (db : Store) (userId : Id) (type : Option NotificationType)
    (unreadOnly : Bool) : List (Id × Notification) :=
  newestFirst (db.list .notification fun notification => notification.userId == userId &&
    type.all (· == notification.type) && (!unreadOnly || notification.readAt.isNone))

def listPageByUserId (db : Store) (userId : Id) (limit : ℕ) (type : Option NotificationType)
    (unreadOnly : Bool) (cursor : Option Id) : NotificationRecordPage :=
  let boundedLimit := min (max limit 1) 500
  let notifications := (afterCursor db (selectByUserId db userId type unreadOnly) cursor).take
    (boundedLimit + 1)
  let hasMore := decide (boundedLimit < notifications.length)
  let slice := if hasMore then notifications.take boundedLimit else notifications
  { records := slice.map (notificationCenterInclude db)
    nextCursor := if hasMore then slice.getLast?.map (·.1) else none
    hasMore }

def listUnreadInventoryAlertsByUserId (db : Store) (userId : Id) : List NotificationCenterRecord :=
  (selectByUserId db userId (some .systemAlert) true).map (notificationCenterInclude db)

def countUnreadByUserId (db : Store) (userId : Id) : ℕ :=
  (db.list .notification fun notification => notification.userId == userId &&
    notification.readAt.isNone).length

def markRead (readAt : Date) (notificationId userId : Id) :
    StoreTx (Option NotificationCenterRecord) := do
  let existing ← .read fun db => (db.get (.notification, notificationId)).bind fun notification =>
    if notification.userId = userId then
      some (notificationCenterInclude db (notificationId, notification)) else none
  match existing with
  | none => pure none
  | some record =>
    if record.notification.readAt ≠ none then pure (some record)
    else do
      .updateExisting (.notification, notificationId)
        (fun notification => { notification with readAt := some readAt }) .recordNotFound
      pure (some { record with
        notification := { record.notification with readAt := some readAt } })

def markManyRead (readAt : Date) (notificationIds : List Id) (userId : Id) :
    StoreTx (List NotificationCenterRecord) := do
  let existing ← .read fun db => newestFirst ((db.list .notification (·.userId == userId)).filter
    (·.1 ∈ notificationIds))
  let unreadIds := (existing.filter (·.2.readAt.isNone)).map (·.1)
  .update fun db => ((), ((db.list .notification fun notification =>
    notification.userId == userId && notification.readAt.isNone).filter (·.1 ∈ unreadIds)).map
      fun row => ⟨.notification, row.1, some { row.2 with readAt := some readAt }⟩)
  .read fun db => (newestFirst ((db.list .notification (·.userId == userId)).filter
    (·.1 ∈ existing.map (·.1)))).map (notificationCenterInclude db)

end NotificationsRepository

/-! ## `notification-center.entity.ts` -/

/-- `NotificationInventoryAlertEntity`: the alert's metadata, with the logs that its fields are
read from. -/
structure NotificationInventoryAlert where
  metadata : InventoryAlertMetadata
  status : InventoryAlertStatus
  acknowledgement : Option AuditLog
  lifecycleLog : Option AuditLog
deriving DecidableEq

structure NotificationCenterEntity where
  record : NotificationCenterRecord
  inventoryAlert : Option NotificationInventoryAlert

/-- `notificationId` -/
def NotificationCenterEntity.id (entity : NotificationCenterEntity) : Id := entity.record.id

structure NotificationCenterPage where
  nextCursor : Option Id
  hasMore : Bool
  appliedPreset : Option NotificationPreset
  notifications : List NotificationCenterEntity

/-! ## `notifications.service.ts` -/

namespace NotificationsService

open NotificationsRepository

def buildInventoryAlertEntity (metadata : InventoryAlertMetadata)
    (acknowledgement lifecycleLog : Option AuditLog) : NotificationInventoryAlert where
  metadata := metadata
  status := resolveInventoryAlertStatus (lifecycleLog.map (·.action))
  acknowledgement := acknowledgement
  lifecycleLog := lifecycleLog

/-- A notification with the logs that were read of all of them. -/
def buildNotificationCenterEntity (acknowledgements lifecycleLogs : List AuditLog)
    (record : NotificationCenterRecord) : NotificationCenterEntity where
  record := record
  inventoryAlert := (readAdminInventoryAlertMetadata record.notification).map fun metadata =>
    buildInventoryAlertEntity metadata
      (AdminInventoryAlertsService.latestLog acknowledgements record.id)
      (AdminInventoryAlertsService.latestLog lifecycleLogs record.id)

def buildNotificationCenterEntities (records : List NotificationCenterRecord) :
    StoreService (List NotificationCenterEntity) := do
  let alertIds := (records.filter fun record =>
    (readAdminInventoryAlertMetadata record.notification).isSome).map (·.id)
  let acknowledgements ← .get fun db =>
    AuditRepository.findInventoryAlertAcknowledgementLogs db alertIds
  let lifecycleLogs ← .get fun db => AuditRepository.findInventoryAlertLifecycleLogs db alertIds
  .ret (records.map (buildNotificationCenterEntity acknowledgements lifecycleLogs))

/-! ### The query -/

/-- What a preset asks for; what the query says itself comes before it. -/
def applyPreset (query : ListNotificationsQueryDto) : ListNotificationsQueryDto :=
  match query.preset with
  | none | some .all => query
  | some .unread => { query with unreadOnly := query.unreadOnly <|> some true }
  | some .inventoryOpen => { query with
    type := query.type <|> some .systemAlert
    inventoryAlertKind := query.inventoryAlertKind <|> some (.only .attention)
    inventoryAlertStatus := query.inventoryAlertStatus <|> some (.only .opened) }
  | some .inventoryResolved => { query with
    type := query.type <|> some .systemAlert
    inventoryAlertStatus := query.inventoryAlertStatus <|> some (.only .resolved) }
  | some .inventoryCompensation => { query with
    type := query.type <|> some .systemAlert
    inventoryAlertKind := query.inventoryAlertKind <|> some (.only .compensation) }
  | some .inventoryAttention => { query with
    type := query.type <|> some .systemAlert
    inventoryAlertKind := query.inventoryAlertKind <|> some (.only .attention) }
  | some .inventoryLowStock => { query with
    type := query.type <|> some .systemAlert
    inventoryAlertKind := query.inventoryAlertKind <|> some (.only .attention)
    inventoryAttentionLevel := query.inventoryAttentionLevel <|> some (.only .lowStock) }
  | some .inventoryOutOfStock => { query with
    type := query.type <|> some .systemAlert
    inventoryAlertKind := query.inventoryAlertKind <|> some (.only .attention)
    inventoryAttentionLevel := query.inventoryAttentionLevel <|> some (.only .outOfStock) }

def hasInventoryAlertFilters (query : ListNotificationsQueryDto) : Bool :=
  (FilterValue.wanted query.inventoryAlertKind).isSome ||
    (FilterValue.wanted query.inventoryAlertStatus).isSome ||
    (FilterValue.wanted query.inventoryResourceType).isSome ||
    (FilterValue.wanted query.inventoryAttentionLevel).isSome || query.branchId.isSome

/-- The keyword, if it is not blank. -/
def searchedKeyword (query : ListNotificationsQueryDto) : Option String :=
  (query.keyword.map trim).filter fun keyword => decide (0 < keyword.length)

def resolveFetchLimit (limit : ℕ) (query : ListNotificationsQueryDto) : ℕ :=
  if hasInventoryAlertFilters query || (searchedKeyword query).isSome || query.preset.isSome then
    min (max (limit * 5) 100) 500
  else limit

/-- A filter is given, and what was found is something else. -/
def differs {α : Type} [DecidableEq α] (wanted found : Option α) : Bool :=
  wanted.any fun value => found != some value

/-- A text that may be `null`. -/
def nullable : Option String → Field String
  | none => .null
  | some text => .value text

/-- `inventoryAlert?.field`, which is `undefined` when there is no alert. -/
def ofAlert (inventoryAlert : Option NotificationInventoryAlert)
    (field : NotificationInventoryAlert → Option String) : Field String :=
  match inventoryAlert with
  | none => .undefined
  | some alert => nullable (field alert)

def searchedFields (notification : NotificationCenterEntity) : List (Field String) :=
  let record := notification.record
  let inventoryAlert := notification.inventoryAlert
  [.value record.notification.title, .value record.notification.body,
    nullable (record.order.map (·.orderCode)), nullable (record.order.map (·.status.text)),
    nullable (record.conversation.map (·.type.text)), nullable (record.message.map (·.type.asText)),
    ofAlert inventoryAlert (·.metadata.subject.branchName),
    ofAlert inventoryAlert (some ·.metadata.subject.resourceLabel),
    ofAlert inventoryAlert (·.metadata.subject.menuItemName),
    ofAlert inventoryAlert (·.metadata.orderCode), ofAlert inventoryAlert (·.metadata.reasonCode),
    ofAlert inventoryAlert (·.metadata.attentionLevel.map (·.text)),
    ofAlert inventoryAlert (some ·.metadata.alertKind.text),
    ofAlert inventoryAlert (some ·.status.text)]

section Search

/- JavaScript's `toLowerCase` -/
variable (toLowerCase : String → String)

/-- The values that are not `null`, in lower case. -/
def haystacks : List (Field String) → Except Failure (List String)
  | [] => .ok []
  | .null :: fields => haystacks fields
  | .undefined :: _ => .error .typeError
  | .value text :: fields => (haystacks fields).map (toLowerCase text :: ·)

def matchesKeyword (notification : NotificationCenterEntity) (keyword : String) :
    Except Failure Bool :=
  (haystacks toLowerCase (searchedFields notification)).map fun values =>
    values.any fun value => ProviderWebhookNormalizer.includes value (toLowerCase keyword)

def matchesQuery (query : ListNotificationsQueryDto) (notification : NotificationCenterEntity) :
    Except Failure Bool :=
  let inventoryAlert := notification.inventoryAlert
  if hasInventoryAlertFilters query && inventoryAlert.isNone then .ok false
  else if differs (FilterValue.wanted query.inventoryAlertKind)
      (inventoryAlert.map (·.metadata.alertKind)) then .ok false
  else if differs (FilterValue.wanted query.inventoryAlertStatus)
      (inventoryAlert.map (·.status)) then .ok false
  else if differs (FilterValue.wanted query.inventoryResourceType)
      (inventoryAlert.map (·.metadata.subject.resourceType)) then .ok false
  else if differs (FilterValue.wanted query.inventoryAttentionLevel)
      (inventoryAlert.bind (·.metadata.attentionLevel)) then .ok false
  else if differs query.branchId (inventoryAlert.map (·.metadata.subject.branchId)) then .ok false
  else
    match searchedKeyword query with
    | none => .ok true
    | some keyword => matchesKeyword toLowerCase notification keyword

/-! ### Pages -/

/-- The type that the repository is asked for. -/
def queriedType (query : ListNotificationsQueryDto) : Option NotificationType :=
  query.type <|> if hasInventoryAlertFilters query then some .systemAlert else none

/-- The loop that reads pages of the repository; `none` if it takes more than `fuel` of them. -/
def collectMatchingNotifications (userId : Id) (query : ListNotificationsQueryDto)
    (fetchLimit targetMatchCount : ℕ) :
    ℕ → Option Id → List NotificationCenterEntity →
      StoreService (Option (List NotificationCenterEntity))
  | 0, _, _ => .ret none
  | fuel + 1, cursor, matched =>
    if targetMatchCount ≤ matched.length then .ret (some matched)
    else do
      let page ← .get fun db => listPageByUserId db userId fetchLimit (queriedType query)
        (query.unreadOnly.getD false) cursor
      let notifications ← buildNotificationCenterEntities page.records
      let selected ← .ofExcept (Paged.select (matchesQuery toLowerCase query) notifications)
      if page.hasMore then
        collectMatchingNotifications userId query fetchLimit targetMatchCount fuel page.nextCursor
          (matched ++ selected)
      else .ret (some (matched ++ selected))

/-- `notificationPageDefaultLimit` -/
def notificationPageDefaultLimit : ℕ := 20

def listUserNotificationPage (fuel : ℕ) (userId : Id) (query : ListNotificationsQueryDto) :
    StoreService (Option NotificationCenterPage) := do
  let normalizedQuery := applyPreset query
  let limit := normalizedQuery.limit.getD notificationPageDefaultLimit
  let fetchLimit := resolveFetchLimit limit normalizedQuery
  let collected ← collectMatchingNotifications toLowerCase userId normalizedQuery fetchLimit
    (limit + 1) fuel normalizedQuery.cursor []
  .ret (collected.map fun records =>
    let hasMore := decide (limit < records.length)
    let notifications := if hasMore then records.take limit else records
    { nextCursor := if hasMore then notifications.getLast?.map (·.id) else none
      hasMore, appliedPreset := normalizedQuery.preset, notifications })

end Search

/-! ### Presets -/

/-- `NotificationUnreadFacetsEntity` -/
structure NotificationUnreadFacets where
  totalUnreadCount : ℕ
  inventoryAlertUnreadCount : ℕ
  unreadAttentionAlertCount : ℕ
  unreadCompensationAlertCount : ℕ
  unreadOpenInventoryAlertCount : ℕ
  unreadAcknowledgedInventoryAlertCount : ℕ
  unreadResolvedInventoryAlertCount : ℕ
  unreadDismissedInventoryAlertCount : ℕ
  unreadLowStockAlertCount : ℕ
  unreadOutOfStockAlertCount : ℕ
deriving DecidableEq

def unreadFacets (totalUnreadCount : ℕ) (inventoryAlerts : List NotificationInventoryAlert) :
    NotificationUnreadFacets where
  totalUnreadCount := totalUnreadCount
  inventoryAlertUnreadCount := inventoryAlerts.length
  unreadAttentionAlertCount := inventoryAlerts.countP (·.metadata.alertKind == .attention)
  unreadCompensationAlertCount := inventoryAlerts.countP (·.metadata.alertKind == .compensation)
  unreadOpenInventoryAlertCount := inventoryAlerts.countP (·.status == .opened)
  unreadAcknowledgedInventoryAlertCount := inventoryAlerts.countP (·.status == .acknowledged)
  unreadResolvedInventoryAlertCount := inventoryAlerts.countP (·.status == .resolved)
  unreadDismissedInventoryAlertCount := inventoryAlerts.countP (·.status == .dismissed)
  unreadLowStockAlertCount := inventoryAlerts.countP (·.metadata.attentionLevel == some .lowStock)
  unreadOutOfStockAlertCount :=
    inventoryAlerts.countP (·.metadata.attentionLevel == some .outOfStock)

def getUnreadFacets (userId : Id) : StoreService NotificationUnreadFacets := do
  let totalUnreadCount ← .get fun db => countUnreadByUserId db userId
  let unreadInventoryAlerts ← .get fun db => listUnreadInventoryAlertsByUserId db userId
  let notifications ← buildNotificationCenterEntities unreadInventoryAlerts
  .ret (unreadFacets totalUnreadCount (notifications.filterMap (·.inventoryAlert)))

def resolvePresetUnreadCount (facets : NotificationUnreadFacets) : NotificationPreset → ℕ
  | .all | .unread => facets.totalUnreadCount
  | .inventoryOpen => facets.unreadOpenInventoryAlertCount
  | .inventoryResolved => facets.unreadResolvedInventoryAlertCount
  | .inventoryCompensation => facets.unreadCompensationAlertCount
  | .inventoryAttention => facets.unreadAttentionAlertCount
  | .inventoryLowStock => facets.unreadLowStockAlertCount
  | .inventoryOutOfStock => facets.unreadOutOfStockAlertCount

/-- `NotificationListPresetEntity` -/
structure NotificationListPreset where
  key : NotificationPreset
  sortOrder : ℕ
  isDefault : Bool
  unreadCount : ℕ
  query : ListNotificationsQueryDto

def buildPreset (key : NotificationPreset) (unreadCount sortOrder : ℕ) :
    NotificationListPreset where
  key := key
  sortOrder := sortOrder
  isDefault := key == .all
  unreadCount := unreadCount
  query := applyPreset { preset := some key }

def notificationPresetOrder : List NotificationPreset :=
  [.all, .unread, .inventoryOpen, .inventoryAttention, .inventoryLowStock, .inventoryOutOfStock,
    .inventoryCompensation, .inventoryResolved]

def buildNotificationPresetsFromFacets (facets : NotificationUnreadFacets) :
    List NotificationListPreset :=
  notificationPresetOrder.mapIdx fun index key =>
    buildPreset key (resolvePresetUnreadCount facets key) index

def listNotificationPresets (userId : Id) : StoreService (List NotificationListPreset) := do
  let facets ← getUnreadFacets userId
  .ret (buildNotificationPresetsFromFacets facets)

end NotificationsService

end WerTe
