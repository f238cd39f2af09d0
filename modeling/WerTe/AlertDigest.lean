import WerTe.AlertRecords
import WerTe.Emitted.Outputs
import WerTe.Keyed.Groups
import WerTe.Numeral.Texts

/-!
# Digests of inventory alerts

`notification-alert-digest.service.ts`: merchants are reminded of the alerts that have been open for
half an hour, and administrators and supporters are told of those that have been for two hours.
What has been sent is logged, and not sent again for six or twelve hours.

A cycle reads the newest 500 alerts. Of these it misses none (`runDigestCycle_exact`); what is older
is never sent.
-/

namespace WerTe.AlertDigest

open AlertRecords Emitted Keyed
open MerchantInventoryReadService (AuditResourceType)

/-! ## What is read -/

structure OpsUser where
  role : UserRole
  status : UserStatus
  createdAt : Date
deriving DecidableEq

structure DigestStore extends AlertStore where
  users : Table Id OpsUser

/-- `UsersRepository.listActiveByRoles`. -/
def listActiveByRoles (users : Table Id OpsUser) (roles : List UserRole) : List (Id × OpsUser) :=
  let active := users.entries.filter fun row =>
    roles.contains row.2.role && row.2.status == .active
  active.insertionSort fun left right =>
    toLex (left.2.role.ctorIdx, position (·.createdAt) left) ≤
      toLex (right.2.role.ctorIdx, position (·.createdAt) right)

def listRecentInventoryAlerts (store : AlertStore) (limit : ℕ) : List (Id × AlertNotification) :=
  (newestFirst (·.createdAt) (store.notifications.entries.filter (·.2.type == .systemAlert))).take
    limit

structure ReminderCandidate where
  id : Id
  notification : AlertNotification
  metadata : AdminInventoryAlertMetadata
  status : InventoryAlertStatus

/-! ## What is sent -/

inductive DigestKind
  | merchantInventoryReminder | adminInventoryEscalation
deriving DecidableEq

/-- Reminders have no merchant: they are sent to him. -/
structure DigestMetadata where
  digestKind : DigestKind
  branchId : String
  branchName : String
  merchant : Option AlertUser
  alertNotificationIds : List Id
  attentionAlertCount : ℕ
  oldestAlertCreatedAt : Date
deriving DecidableEq

structure DigestNotification where
  userId : Id
  type : NotificationType
  title : String
  body : String
  navigationPath : String
  metadata : DigestMetadata
deriving DecidableEq

structure DigestDelivery where
  notificationId : Id
  channel : NotificationChannel
  status : NotificationDeliveryStatus
  deliveredAt : Option Date
  queuedAt : Option Date
deriving DecidableEq

structure PushJob where
  notificationId : Id
  attempt : ℕ
deriving DecidableEq

/-- The log's metadata has the notifications that the digest was sent as. -/
structure FollowUpLog where
  action : AlertAction
  resourceType : AuditResourceType
  resourceId : Id
  resourceLabel : String
  targetUserId : Option Id
  branchId : Option String
  digestNotificationIds : List Id
  digestKind : DigestKind
  attentionAlertCount : ℕ
  oldestAlertCreatedAt : Date
  recipientCount : Option ℕ
deriving DecidableEq

/-- What a cycle has written so far. -/
structure DigestOutput where
  notifications : List (Id × DigestNotification) := []
  deliveries : List DigestDelivery := []
  pushJobs : List PushJob := []
  logs : List FollowUpLog := []

structure InventoryAlertDigestRunResult where
  attentionAlertsScanned : ℕ
  merchantReminderDigestCount : ℕ
  reminderSourceAlertCount : ℕ
  adminEscalationDigestCount : ℕ
  escalationSourceAlertCount : ℕ
deriving DecidableEq

/-- What other services decide: the ids of the notifications, in the order in which they are
created, and whether a merchant may be pushed to. -/
structure DigestEnv where
  createdId : ℕ → Id
  shouldQueueMerchantInventoryAlertPush : Id → Bool

/-! ## Groups -/

/-- A group begins with its first alert. -/
structure DigestGroup where
  merchantUserId : Id
  merchantPhone : String
  branchId : String
  branchName : String
  alerts : List ReminderCandidate
  nonempty : alerts ≠ []

/-- `metadata.branchId ?? 'unknown_branch'`. -/
def ReminderCandidate.branchId (alert : ReminderCandidate) : String :=
  alert.metadata.branchId.getD "unknown_branch"

def groupKey (merchantUserId : Id) (branchId : String) : String :=
  toString merchantUserId ++ "::" ++ branchId

def ReminderCandidate.groupKey (alert : ReminderCandidate) : String :=
  AlertDigest.groupKey alert.notification.user.id alert.branchId

def DigestGroup.start (alert : ReminderCandidate) : DigestGroup where
  merchantUserId := alert.notification.user.id
  merchantPhone := alert.notification.user.phone
  branchId := alert.branchId
  branchName := alert.metadata.branchName.getD alert.branchId
  alerts := [alert]
  nonempty := List.cons_ne_nil _ _

def DigestGroup.push (group : DigestGroup) (alert : ReminderCandidate) : DigestGroup where
  __ := group
  alerts := group.alerts ++ [alert]
  nonempty := by simp

def groupByMerchantAndBranch (alerts : List ReminderCandidate) : List DigestGroup :=
  let groups := grouped ReminderCandidate.groupKey DigestGroup.start DigestGroup.push alerts
  groups.entries.map Prod.snd

def DigestGroup.alertNotificationIds (group : DigestGroup) : List Id :=
  group.alerts.map (·.id)

def DigestGroup.resolveOldestCreatedAt (group : DigestGroup) : Date :=
  (group.alerts.map (·.notification.createdAt)).min (by simpa using group.nonempty)

/-! ## Texts -/

def buildLabelPreview (alerts : List ReminderCandidate) : String :=
  let labels := alerts.map (·.metadata.resourceLabel)
  if labels.length ≤ 3 then ", ".intercalate labels
  else ", ".intercalate (labels.take 3) ++ " and " ++ toString (labels.length - 3) ++ " more"

def buildMerchantReminderTitle (group : DigestGroup) : String :=
  "Inventory reminder: " ++ group.branchName

def buildMerchantReminderBody (group : DigestGroup) : String :=
  let labels := buildLabelPreview group.alerts
  let count := group.alerts.length
  if count = 1 then
    "1 shortage alert still needs attention in " ++ group.branchName ++ ": " ++ labels ++ "."
  else
    toString count ++ " shortage alerts still need attention in " ++ group.branchName ++ ": " ++
      labels ++ "."

def buildAdminEscalationTitle (group : DigestGroup) : String :=
  "Inventory escalation: " ++ group.branchName

def buildAdminEscalationBody (group : DigestGroup) (now : Date) : String :=
  let labels := buildLabelPreview group.alerts
  let oldestAlertAgeMinutes := max 1 ((now - group.resolveOldestCreatedAt) / 60000)
  let count := group.alerts.length
  let about := group.branchName ++ " for about " ++ toString oldestAlertAgeMinutes ++
    " minutes (" ++ labels ++ "). Merchant: " ++ group.merchantPhone ++ "."
  if count = 1 then "1 shortage alert has stayed unresolved in " ++ about
  else toString count ++ " shortage alerts have stayed unresolved in " ++ about

/-! ## Writing -/

def createNotification (env : DigestEnv) (notification : DigestNotification) :
    StateM DigestOutput Id := do
  let notificationId := env.createdId (← get).notifications.length
  modify fun output => { output with
    notifications := output.notifications ++ [(notificationId, notification)] }
  return notificationId

def createDeliveryAttempt (delivery : DigestDelivery) : StateM DigestOutput Unit :=
  modify fun output => { output with deliveries := output.deliveries ++ [delivery] }

def addPushJob (job : PushJob) : StateM DigestOutput Unit :=
  modify fun output => { output with pushJobs := output.pushJobs ++ [job] }

def logAction (log : FollowUpLog) : StateM DigestOutput Unit :=
  modify fun output => { output with logs := output.logs ++ [log] }

def recordMerchantReminderDeliveries (env : DigestEnv) (notificationId merchantUserId : Id)
    (now : Date) : StateM DigestOutput Unit := do
  createDeliveryAttempt ⟨notificationId, .inApp, .delivered, some now, none⟩
  if env.shouldQueueMerchantInventoryAlertPush merchantUserId then do
    createDeliveryAttempt ⟨notificationId, .push, .queued, none, some now⟩
    addPushJob ⟨notificationId, 1⟩
  else return

def merchantReminder (group : DigestGroup) : DigestNotification where
  userId := group.merchantUserId
  type := .supportUpdate
  title := buildMerchantReminderTitle group
  body := buildMerchantReminderBody group
  navigationPath := "/merchant/branches/" ++ group.branchId ++ "/inventory/overview"
  metadata := {
    digestKind := .merchantInventoryReminder
    branchId := group.branchId
    branchName := group.branchName
    merchant := none
    alertNotificationIds := group.alertNotificationIds
    attentionAlertCount := group.alerts.length
    oldestAlertCreatedAt := group.resolveOldestCreatedAt }

/-- The body of the first loop. -/
def remindMerchant (env : DigestEnv) (now : Date) (group : DigestGroup) :
    StateM DigestOutput ℕ := do
  let notificationId ← createNotification env (merchantReminder group)
  recordMerchantReminderDeliveries env notificationId group.merchantUserId now
  let _ ← group.alerts.mapM fun alert => logAction {
    action := .reminderSent
    resourceType := .notification
    resourceId := alert.id
    resourceLabel := alert.notification.title
    targetUserId := some group.merchantUserId
    branchId := alert.metadata.branchId
    digestNotificationIds := [notificationId]
    digestKind := .merchantInventoryReminder
    attentionAlertCount := group.alerts.length
    oldestAlertCreatedAt := group.resolveOldestCreatedAt
    recipientCount := none }
  return group.alerts.length

def adminEscalation (now : Date) (group : DigestGroup) (userId : Id) : DigestNotification where
  userId := userId
  type := .supportUpdate
  title := buildAdminEscalationTitle group
  body := buildAdminEscalationBody group now
  navigationPath := "/admin/inventory-alerts?status=OPEN&branchId=" ++ group.branchId
  metadata := {
    digestKind := .adminInventoryEscalation
    branchId := group.branchId
    branchName := group.branchName
    merchant := some ⟨group.merchantUserId, group.merchantPhone⟩
    alertNotificationIds := group.alertNotificationIds
    attentionAlertCount := group.alerts.length
    oldestAlertCreatedAt := group.resolveOldestCreatedAt }

def escalateTo (env : DigestEnv) (now : Date) (group : DigestGroup) (userId : Id) :
    StateM DigestOutput Id := do
  let notificationId ← createNotification env (adminEscalation now group userId)
  createDeliveryAttempt ⟨notificationId, .inApp, .delivered, some now, none⟩
  return notificationId

/-- The body of the second loop. -/
def escalate (env : DigestEnv) (now : Date) (activeOpsUsers : List Id) (group : DigestGroup) :
    StateM DigestOutput ℕ := do
  let notificationIds ← activeOpsUsers.mapM (escalateTo env now group)
  let _ ← group.alerts.mapM fun alert => logAction {
    action := .escalated
    resourceType := .notification
    resourceId := alert.id
    resourceLabel := alert.notification.title
    targetUserId := none
    branchId := alert.metadata.branchId
    digestNotificationIds := notificationIds
    digestKind := .adminInventoryEscalation
    attentionAlertCount := group.alerts.length
    oldestAlertCreatedAt := group.resolveOldestCreatedAt
    recipientCount := some activeOpsUsers.length }
  return group.alerts.length

/-! ## The cycle -/

def scanLimit : ℕ := 500

def merchantReminderAgeMs : Date := 30 * 60 * 1000

def merchantReminderCooldownMs : Date := 6 * 60 * 60 * 1000

def adminEscalationAgeMs : Date := 2 * 60 * 60 * 1000

def adminEscalationCooldownMs : Date := 12 * 60 * 60 * 1000

def isOlderThan (createdAt ageMs now : Date) : Bool := createdAt ≤ now - ageMs

def hasRecentLog (log : Option AlertLog) (cooldownMs now : Date) : Bool :=
  log.any fun log => now - cooldownMs ≤ log.createdAt

/-- The alerts that are about something running out, with what they say. -/
def attentionAlerts (store : AlertStore) :
    List ((Id × AlertNotification) × AdminInventoryAlertMetadata) :=
  (listRecentInventoryAlerts store scanLimit).filterMap fun row =>
    (row.2.metadata.filter (·.alertKind == .attention)).map (row, ·)

def unresolvedAttentionAlerts (store : AlertStore) : List ReminderCandidate :=
  let alerts := attentionAlerts store
  let latestLifecycle := buildLatestLifecycleLogMap
    (findInventoryAlertLifecycleLogs store (alerts.map (·.1.1)))
  let candidates : List ReminderCandidate := alerts.map fun ((id, notification), metadata) =>
    let status := AlertRecords.resolveInventoryAlertStatus (latestLifecycle.get id)
    ⟨id, notification, metadata, status⟩
  candidates.filter fun candidate =>
    candidate.status == .opened || candidate.status == .acknowledged

/-- The candidates of an age without a recent log of the action. -/
def followUpCandidates (store : AlertStore) (action : AlertAction) (ageMs cooldownMs now : Date) :
    List ReminderCandidate :=
  let latestByNotificationId := buildLatestActionLogMap
    (findInventoryAlertFollowUpLogs store ((attentionAlerts store).map (·.1.1))) action
  (unresolvedAttentionAlerts store).filter fun candidate =>
    isOlderThan candidate.notification.createdAt ageMs now &&
      !hasRecentLog (latestByNotificationId.get candidate.id) cooldownMs now

def merchantReminderCandidates (store : AlertStore) (now : Date) : List ReminderCandidate :=
  followUpCandidates store .reminderSent merchantReminderAgeMs merchantReminderCooldownMs now

def adminEscalationCandidates (store : AlertStore) (now : Date) : List ReminderCandidate :=
  followUpCandidates store .escalated adminEscalationAgeMs adminEscalationCooldownMs now

def runDigestCycle (env : DigestEnv) (store : DigestStore) (now : Date) :
    StateM DigestOutput InventoryAlertDigestRunResult := do
  let merchantReminderGroups :=
    groupByMerchantAndBranch (merchantReminderCandidates store.toAlertStore now)
  let adminEscalationGroups :=
    groupByMerchantAndBranch (adminEscalationCandidates store.toAlertStore now)
  let reminded ← merchantReminderGroups.mapM (remindMerchant env now)
  let activeOpsUsers := if adminEscalationGroups.isEmpty then []
    else (listActiveByRoles store.users [.admin, .support]).map Prod.fst
  let escalated ← (if activeOpsUsers.isEmpty then [] else adminEscalationGroups).mapM
    (escalate env now activeOpsUsers)
  return {
    attentionAlertsScanned := (attentionAlerts store.toAlertStore).length
    merchantReminderDigestCount := reminded.length
    reminderSourceAlertCount := reminded.sum
    adminEscalationDigestCount := escalated.length * activeOpsUsers.length
    escalationSourceAlertCount := escalated.sum }

/-! ## What a cycle should send -/

/-- The digest's merchant and branch. -/
def DigestNotification.merchantAndBranch (digest : DigestNotification) : Id × String :=
  ((digest.metadata.merchant.map (·.id)).getD digest.userId, digest.metadata.branchId)

/-- The merchant and the branch that an alert is about. -/
def merchantAndBranch (notification : AlertNotification) : Id × String :=
  (notification.user.id,
    (notification.metadata.bind (·.branchId)).getD "unknown_branch")

/-- The alert is of something running out, neither resolved nor dismissed, of an age, and nothing
about it has been logged as sent since a time. -/
def NeedsFollowUp (action : AlertAction) (ageMs cooldownMs : Date) (store : AlertStore) (now : Date)
    (notificationId : Id) : Prop :=
  ∃ notification metadata, store.notifications.get notificationId = some notification ∧
    notification.metadata = some metadata ∧ metadata.alertKind = .attention ∧
    (AlertRecords.alertStatus store notificationId = .opened ∨
      AlertRecords.alertStatus store notificationId = .acknowledged) ∧
    notification.createdAt ≤ now - ageMs ∧
    ∀ row ∈ store.logs.entries, row.2.isAbout [action] notificationId = true →
      row.2.createdAt < now - cooldownMs

def NeedsReminder : AlertStore → Date → Id → Prop :=
  NeedsFollowUp .reminderSent merchantReminderAgeMs merchantReminderCooldownMs

def NeedsEscalation : AlertStore → Date → Id → Prop :=
  NeedsFollowUp .escalated adminEscalationAgeMs adminEscalationCooldownMs

/-- Fewer than 500 alerts are newer. -/
def Scanned (store : AlertStore) (notificationId : Id) : Prop :=
  ∀ notification, store.notifications.get notificationId = some notification →
    (store.notifications.entries.filter fun row => row.2.type == .systemAlert &&
      decide (position (·.createdAt) (notificationId, notification) <
        position (·.createdAt) row)).length < scanLimit

/-- Every alert that is due is in one digest, that of its merchant and branch, and no other is in
any. -/
structure Exact (store : AlertStore) (digests : List DigestNotification) (due : Id → Prop) :
    Prop where
  complete : ∀ notificationId,
    notificationId ∈ digests.flatMap (·.metadata.alertNotificationIds) ↔ due notificationId
  once : (digests.flatMap (·.metadata.alertNotificationIds)).Nodup
  own : ∀ digest ∈ digests, ∀ notificationId ∈ digest.metadata.alertNotificationIds,
    ∃ notification, store.notifications.get notificationId = some notification ∧
      digest.merchantAndBranch = merchantAndBranch notification
  apart : (digests.map (·.merchantAndBranch)).Nodup

def IsActiveOpsUser (users : Table Id OpsUser) (userId : Id) : Prop :=
  ∃ user, users.get userId = some user ∧ user.status = .active ∧
    (user.role = .admin ∨ user.role = .support)

/-- The notifications that a cycle creates. -/
def digests (env : DigestEnv) (store : DigestStore) (now : Date) : List DigestNotification :=
  ((runDigestCycle env store now).run {}).2.notifications.map Prod.snd

def reminderDigests (env : DigestEnv) (store : DigestStore) (now : Date) :
    List DigestNotification :=
  (digests env store now).filter (·.metadata.digestKind = .merchantInventoryReminder)

def escalationDigests (env : DigestEnv) (store : DigestStore) (now : Date) :
    List DigestNotification :=
  (digests env store now).filter (·.metadata.digestKind = .adminInventoryEscalation)

/-- The cycle sends what it should of the alerts that it gets to see, reminders to the merchants and
escalations to every user who is there for them. -/
structure ExactCycle (env : DigestEnv) (store : DigestStore) (now : Date) (seen : Id → Prop) :
    Prop where
  reminders : Exact store.toAlertStore (reminderDigests env store now) fun notificationId =>
    seen notificationId ∧ NeedsReminder store.toAlertStore now notificationId
  escalations : ∀ userId, IsActiveOpsUser store.users userId →
    Exact store.toAlertStore ((escalationDigests env store now).filter (·.userId = userId))
      fun notificationId =>
        seen notificationId ∧ NeedsEscalation store.toAlertStore now notificationId
  recipients : ∀ escalation ∈ escalationDigests env store now,
    IsActiveOpsUser store.users escalation.userId

/-! ## The candidates -/

theorem type_of_metadata {notification : AlertNotification}
    {metadata : AdminInventoryAlertMetadata} (h : notification.metadata = some metadata) :
    notification.type = .systemAlert := by
  rw [AlertNotification.metadata] at h
  unfold AlertRecords.readAdminInventoryAlertMetadata at h
  split at h
  case h_1 htype _ => exact htype
  case h_2 => cases h

section Candidates

variable {store : AlertStore}

theorem mem_listRecentInventoryAlerts {notificationId : Id} {notification : AlertNotification} :
    (notificationId, notification) ∈ listRecentInventoryAlerts store scanLimit ↔
      store.notifications.get notificationId = some notification ∧
        notification.type = .systemAlert ∧ Scanned store notificationId := by
  have hmem : (notificationId, notification) ∈ newestFirst (·.createdAt)
      (store.notifications.entries.filter (·.2.type == .systemAlert)) ↔
        store.notifications.get notificationId = some notification ∧
          notification.type = .systemAlert := by
    rw [mem_newestFirst, List.mem_filter, Table.mem_iff_get, beq_iff_eq]
  have hdescending := descending_newestFirst (·.createdAt)
    (nodup_filter store.notifications (·.2.type == .systemAlert))
  rw [listRecentInventoryAlerts]
  constructor
  · intro h
    have halert := List.mem_of_mem_take h
    rw [hdescending.mem_take_iff halert, filter_newestFirst, newestFirst,
      List.length_insertionSort] at h
    refine ⟨(hmem.mp halert).1, (hmem.mp halert).2, fun notification' hnotification' => ?_⟩
    obtain rfl := Option.some.inj ((hmem.mp halert).1.symm.trans hnotification')
    exact h
  · rintro ⟨hstored, htype, hscanned⟩
    rw [hdescending.mem_take_iff (hmem.mpr ⟨hstored, htype⟩), filter_newestFirst, newestFirst,
      List.length_insertionSort]
    exact hscanned notification hstored

theorem nodup_listRecentInventoryAlerts (limit : ℕ) :
    ((listRecentInventoryAlerts store limit).map Prod.fst).Nodup := by
  rw [listRecentInventoryAlerts, List.map_take]
  refine List.Nodup.sublist (List.take_sublist ..) ?_
  exact ((List.perm_insertionSort _ _).map _).nodup_iff.mpr (nodup_filter ..)

theorem mem_attentionAlerts {notificationId : Id} {notification : AlertNotification}
    {metadata : AdminInventoryAlertMetadata} :
    ((notificationId, notification), metadata) ∈ attentionAlerts store ↔
      store.notifications.get notificationId = some notification ∧
        Scanned store notificationId ∧ notification.metadata = some metadata ∧
          metadata.alertKind = .attention := by
  simp only [attentionAlerts, List.mem_filterMap, Option.map_eq_some_iff, Option.filter_eq_some_iff,
    Prod.mk.injEq, beq_iff_eq]
  constructor
  · rintro ⟨row, hrow, metadata', ⟨hmetadata, hkind⟩, rfl, rfl⟩
    obtain ⟨hstored, -, hscanned⟩ := mem_listRecentInventoryAlerts.mp hrow
    exact ⟨hstored, hscanned, hmetadata, hkind⟩
  · rintro ⟨hstored, hscanned, hmetadata, hkind⟩
    exact ⟨_, mem_listRecentInventoryAlerts.mpr ⟨hstored, type_of_metadata hmetadata, hscanned⟩,
      metadata, ⟨hmetadata, hkind⟩, rfl, rfl⟩

/-- The alerts' ids are those of some of the rows. -/
theorem nodup_attentionAlerts : ((attentionAlerts store).map (·.1.1)).Nodup := by
  have hsublist : ((attentionAlerts store).map (·.1)).Sublist
      (listRecentInventoryAlerts store scanLimit) := by
    rw [attentionAlerts]
    induction listRecentInventoryAlerts store scanLimit with
    | nil => exact List.Sublist.slnil
    | cons row rows ih =>
      rw [List.filterMap_cons]
      cases row.2.metadata.filter (·.alertKind == .attention) with
      | none => exact ih.cons row
      | some metadata => exact ih.cons_cons row
  have hmap := (hsublist.map Prod.fst).nodup (nodup_listRecentInventoryAlerts scanLimit)
  rwa [List.map_map] at hmap

theorem mem_unresolvedAttentionAlerts {candidate : ReminderCandidate} :
    candidate ∈ unresolvedAttentionAlerts store ↔
      ((candidate.id, candidate.notification), candidate.metadata) ∈ attentionAlerts store ∧
        candidate.status = AlertRecords.alertStatus store candidate.id ∧
          (candidate.status = .opened ∨ candidate.status = .acknowledged) := by
  have hstatus : ∀ alert ∈ attentionAlerts store, AlertRecords.resolveInventoryAlertStatus
      ((buildLatestLifecycleLogMap (findInventoryAlertLifecycleLogs store
        ((attentionAlerts store).map (·.1.1)))).get alert.1.1) =
          AlertRecords.alertStatus store alert.1.1 := by
    intro alert halert
    have hmem := List.mem_map_of_mem (f := (·.1.1)) halert
    exact congrArg _ (latestLog_find AlertRecords.lifecycleActions store hmem)
  rw [unresolvedAttentionAlerts, List.mem_filter, List.mem_map, Bool.or_eq_true, beq_iff_eq,
    beq_iff_eq, ← and_assoc]
  refine and_congr_left fun _ => ⟨?_, ?_⟩
  · rintro ⟨alert, halert, rfl⟩
    exact ⟨halert, hstatus alert halert⟩
  · rintro ⟨halert, hcandidate⟩
    have hmk : ∀ (c : ReminderCandidate) (status : InventoryAlertStatus), c.status = status →
        ReminderCandidate.mk c.id c.notification c.metadata status = c := by
      rintro ⟨⟩ _ rfl
      rfl
    exact ⟨_, halert, hmk candidate _ (hcandidate.trans (hstatus _ halert).symm)⟩

theorem mem_followUpCandidates {action : AlertAction} (haction : action = .reminderSent ∨
    action = .escalated) {ageMs cooldownMs now : Date} {candidate : ReminderCandidate} :
    candidate ∈ followUpCandidates store action ageMs cooldownMs now ↔
      candidate ∈ unresolvedAttentionAlerts store ∧
      candidate.notification.createdAt ≤ now - ageMs ∧
      ∀ row ∈ store.logs.entries, row.2.isAbout [action] candidate.id = true →
        row.2.createdAt < now - cooldownMs := by
  have hactions : action ∈ [AlertAction.reminderSent, .escalated] := by
    rcases haction with rfl | rfl <;> decide
  rw [followUpCandidates, List.mem_filter]
  refine and_congr_right fun hcandidate => ?_
  have hid : candidate.id ∈ (attentionAlerts store).map (·.1.1) :=
    List.mem_map.mpr ⟨_, (mem_unresolvedAttentionAlerts.mp hcandidate).1, rfl⟩
  rw [findInventoryAlertFollowUpLogs, latestActionLog_find hactions store hid, Bool.and_eq_true,
    isOlderThan, decide_eq_true_iff, Bool.not_eq_true', ← Bool.not_eq_true, hasRecentLog,
    latestLog_any]
  simp only [not_exists, not_and, not_le]

/-- No alert is a candidate twice. -/
theorem nodup_followUpCandidates (action : AlertAction) (ageMs cooldownMs now : Date) :
    ((followUpCandidates store action ageMs cooldownMs now).map (·.id)).Nodup := by
  have hids : ∀ f : (Id × AlertNotification) × AdminInventoryAlertMetadata → ReminderCandidate,
      (∀ alert, (f alert).id = alert.1.1) →
        (((attentionAlerts store).map f).map (·.id)).Nodup := by
    intro f hf
    have hcomp : ((·.id) ∘ f) = fun alert => alert.1.1 := funext hf
    rw [List.map_map, hcomp]
    exact nodup_attentionAlerts
  rw [followUpCandidates, unresolvedAttentionAlerts]
  exact (hids _ fun _ => rfl).sublist ((List.filter_sublist.trans List.filter_sublist).map _)

/-- **The candidates are the alerts that need it**, of those that are scanned. -/
theorem exists_followUpCandidate {action : AlertAction} (haction : action = .reminderSent ∨
    action = .escalated) (ageMs cooldownMs now : Date) (notificationId : Id) :
    notificationId ∈ (followUpCandidates store action ageMs cooldownMs now).map (·.id) ↔
      Scanned store notificationId ∧
        NeedsFollowUp action ageMs cooldownMs store now notificationId := by
  simp only [List.mem_map, mem_followUpCandidates haction, mem_unresolvedAttentionAlerts,
    mem_attentionAlerts, NeedsFollowUp]
  constructor
  · rintro ⟨candidate, ⟨⟨⟨hstored, hscanned, hmetadata, hkind⟩, hstatus, hopen⟩, hage, hlogs⟩, rfl⟩
    exact ⟨hscanned, _, _, hstored, hmetadata, hkind, hstatus ▸ hopen, hage, hlogs⟩
  · rintro ⟨hscanned, notification, metadata, hstored, hmetadata, hkind, hopen, hage, hlogs⟩
    exact ⟨⟨notificationId, notification, metadata, AlertRecords.alertStatus store notificationId⟩,
      ⟨⟨⟨hstored, hscanned, hmetadata, hkind⟩, rfl, hopen⟩, hage, hlogs⟩, rfl⟩

end Candidates

/-! ## The groups -/

theorem groupKey_inj {merchantUserId merchantUserId' : Id} {branchId branchId' : String} :
    groupKey merchantUserId branchId = groupKey merchantUserId' branchId' ↔
      (merchantUserId, branchId) = (merchantUserId', branchId') := by
  have htoList : ∀ (userId : Id) (branch : String), (groupKey userId branch).toList =
      (toString userId).toList ++ ':' :: ':' :: branch.toList := by
    intro userId branch
    simp [groupKey]
  rw [← String.toList_inj, htoList, htoList, Numeral.toString_append_inj rfl]
  simp [String.toList_inj]

@[simp] theorem DigestGroup.alerts_start (alert : ReminderCandidate) :
    (DigestGroup.start alert).alerts = [alert] := rfl

@[simp] theorem DigestGroup.alerts_push (group : DigestGroup) (alert : ReminderCandidate) :
    (group.push alert).alerts = group.alerts ++ [alert] := rfl

section Groups

variable {alerts : List ReminderCandidate} {entry : String × DigestGroup}

theorem key_of_mem_grouped (hentry : entry ∈ (grouped ReminderCandidate.groupKey DigestGroup.start
    DigestGroup.push alerts).entries) :
    entry.1 = groupKey entry.2.merchantUserId entry.2.branchId := by
  let P : String → DigestGroup → Prop := fun key group =>
    key = groupKey group.merchantUserId group.branchId
  have hstart : ∀ alert, P alert.groupKey (DigestGroup.start alert) := fun _ => rfl
  have hpush : ∀ (alert : ReminderCandidate) group, P alert.groupKey group →
      P alert.groupKey (group.push alert) := fun _ _ h => h
  have hget := (Table.mem_iff_get _).mp hentry
  exact of_get_grouped hstart hpush hget

/-- Each alert of a group is about the group's merchant and branch. -/
theorem groupKey_of_mem {group : DigestGroup} (hgroup : group ∈ groupByMerchantAndBranch alerts)
    {alert : ReminderCandidate} (halert : alert ∈ group.alerts) :
    alert.groupKey = groupKey group.merchantUserId group.branchId := by
  obtain ⟨entry, hentry, rfl⟩ := List.mem_map.mp hgroup
  rw [members_of_mem DigestGroup.alerts DigestGroup.alerts_start DigestGroup.alerts_push hentry,
    List.mem_filter] at halert
  have hkey : alert.groupKey = entry.1 := by simpa using halert.2
  exact hkey.trans (key_of_mem_grouped hentry)

/-- No two groups are of one merchant and branch. -/
theorem nodup_groups : ((groupByMerchantAndBranch alerts).map fun group =>
    (group.merchantUserId, group.branchId)).Nodup := by
  have hkeys := (grouped ReminderCandidate.groupKey DigestGroup.start DigestGroup.push alerts).nodup
  rw [List.map_congr_left fun _ => key_of_mem_grouped] at hkeys
  refine List.Nodup.of_map (fun about => groupKey about.1 about.2) ?_
  rw [groupByMerchantAndBranch, List.map_map, List.map_map]
  exact hkeys

theorem flatMap_alerts_perm (halerts : alerts.Nodup) :
    ((groupByMerchantAndBranch alerts).flatMap (·.alerts)).Perm alerts := by
  rw [groupByMerchantAndBranch, List.flatMap_map]
  exact flatMap_members_perm DigestGroup.alerts DigestGroup.alerts_start DigestGroup.alerts_push
    halerts

end Groups

/-! ## What is sent -/

/-- The notifications, without their ids. -/
def DigestOutput.sent (output : DigestOutput) : List DigestNotification :=
  output.notifications.map Prod.snd

section Sent

variable (env : DigestEnv)

theorem createNotification_emits (notification : DigestNotification) :
    Emits DigestOutput.sent (createNotification env notification) [notification] := by
  intro output
  change (output.notifications ++ [(env.createdId output.notifications.length, notification)]).map
    Prod.snd = output.notifications.map Prod.snd ++ [notification]
  rw [List.map_append]
  rfl

theorem createDeliveryAttempt_emits (delivery : DigestDelivery) :
    Emits DigestOutput.sent (createDeliveryAttempt delivery) [] :=
  Emits.modify fun _ => (List.append_nil _).symm

theorem logAction_emits (log : FollowUpLog) : Emits DigestOutput.sent (logAction log) [] :=
  Emits.modify fun _ => (List.append_nil _).symm

theorem recordMerchantReminderDeliveries_emits (notificationId merchantUserId : Id) (now : Date) :
    Emits DigestOutput.sent
      (recordMerchantReminderDeliveries env notificationId merchantUserId now) [] := by
  refine (createDeliveryAttempt_emits _).bind fun _ => ?_
  split
  case isTrue =>
    refine (createDeliveryAttempt_emits _).bind fun _ => ?_
    exact Emits.modify fun _ => (List.append_nil _).symm
  case isFalse => exact Emits.pure _

/-- Logging sends nothing. -/
theorem mapM_logAction_emits {α : Type} (log : α → FollowUpLog) (l : List α) :
    Emits DigestOutput.sent (l.mapM fun a => logAction (log a)) [] := by
  have h := Emits.mapM (fun a => logAction_emits (log a)) l
  rwa [List.flatMap_eq_nil_iff.mpr fun _ _ => rfl] at h

theorem remindMerchant_emits (now : Date) (group : DigestGroup) :
    Emits DigestOutput.sent (remindMerchant env now group) [merchantReminder group] := by
  refine (createNotification_emits env _).bind fun notificationId => ?_
  refine (recordMerchantReminderDeliveries_emits env notificationId _ now).bind fun _ => ?_
  exact (mapM_logAction_emits _ _).bind fun _ => Emits.pure _

theorem escalateTo_emits (now : Date) (group : DigestGroup) (userId : Id) :
    Emits DigestOutput.sent (escalateTo env now group userId)
      [adminEscalation now group userId] := by
  refine (createNotification_emits env _).bind fun notificationId => ?_
  exact (createDeliveryAttempt_emits _).bind fun _ => Emits.pure _

theorem escalate_emits (now : Date) (activeOpsUsers : List Id) (group : DigestGroup) :
    Emits DigestOutput.sent (escalate env now activeOpsUsers group)
      (activeOpsUsers.map (adminEscalation now group)) := by
  rw [← List.append_nil (activeOpsUsers.map _), List.map_eq_flatMap]
  refine (Emits.mapM (escalateTo_emits env now group) activeOpsUsers).bind fun _ => ?_
  exact (mapM_logAction_emits _ _).bind fun _ => Emits.pure _

/-- The ids of the users that escalations go to. -/
def opsUserIds (store : DigestStore) : List Id :=
  (listActiveByRoles store.users [.admin, .support]).map Prod.fst

/-- **All that a cycle sends**: each group to its merchant, and each group to every user. -/
theorem digests_eq (store : DigestStore) (now : Date) : digests env store now =
    (groupByMerchantAndBranch (merchantReminderCandidates store.toAlertStore now)).map
        merchantReminder ++
      (groupByMerchantAndBranch (adminEscalationCandidates store.toAlertStore now)).flatMap
        fun group => (opsUserIds store).map (adminEscalation now group) := by
  set groups := groupByMerchantAndBranch (adminEscalationCandidates store.toAlertStore now)
  -- without groups nobody is looked up, and without users no group is gone through
  have hescalated : ∀ opsUsers, opsUsers = (if groups.isEmpty then [] else opsUserIds store) →
      (if opsUsers.isEmpty then [] else groups).flatMap
          (fun group => opsUsers.map (adminEscalation now group)) =
        groups.flatMap fun group => (opsUserIds store).map (adminEscalation now group) := by
    rintro _ rfl
    rcases groups with _ | ⟨group, rest⟩
    · simp
    · cases opsUserIds store <;> simp
  have hcycle : Emits DigestOutput.sent (runDigestCycle env store now) _ :=
    (Emits.mapM (remindMerchant_emits env now) _).bind fun _ =>
      (Emits.mapM (escalate_emits env now _) _).bind fun _ => Emits.pure _
  refine (hcycle {}).trans ?_
  rw [List.append_nil, ← List.map_eq_flatMap]
  exact congrArg (List.map merchantReminder _ ++ ·) (hescalated _ rfl)

end Sent

theorem mem_opsUserIds (store : DigestStore) (userId : Id) :
    userId ∈ opsUserIds store ↔ IsActiveOpsUser store.users userId := by
  rw [opsUserIds, listActiveByRoles, ((List.perm_insertionSort _ _).map _).mem_iff]
  simp only [List.mem_map, List.mem_filter, Bool.and_eq_true, List.contains_iff_mem, beq_iff_eq,
    IsActiveOpsUser, List.mem_cons, List.not_mem_nil, or_false]
  constructor
  · rintro ⟨row, ⟨hrow, hrole, hstatus⟩, rfl⟩
    exact ⟨row.2, (Table.mem_iff_get _).mp hrow, hstatus, hrole⟩
  · rintro ⟨user, hget, hstatus, hrole⟩
    exact ⟨(userId, user), ⟨(Table.mem_iff_get _).mpr hget, hrole, hstatus⟩, rfl⟩

theorem nodup_opsUserIds (store : DigestStore) : (opsUserIds store).Nodup := by
  rw [opsUserIds, listActiveByRoles, ((List.perm_insertionSort _ _).map _).nodup_iff]
  exact nodup_filter ..

theorem reminderDigests_eq (env : DigestEnv) (store : DigestStore) (now : Date) :
    reminderDigests env store now =
      (groupByMerchantAndBranch (merchantReminderCandidates store.toAlertStore now)).map
        merchantReminder := by
  rw [reminderDigests, digests_eq, List.filter_append, List.filter_eq_self.mpr,
    List.filter_eq_nil_iff.mpr, List.append_nil]
  · intro digest hdigest
    obtain ⟨group, -, hdigest⟩ := List.mem_flatMap.mp hdigest
    obtain ⟨userId, -, rfl⟩ := List.mem_map.mp hdigest
    simp [adminEscalation]
  · intro digest hdigest
    obtain ⟨group, -, rfl⟩ := List.mem_map.mp hdigest
    simp [merchantReminder]

theorem escalationDigests_eq (env : DigestEnv) (store : DigestStore) (now : Date) :
    escalationDigests env store now =
      (groupByMerchantAndBranch (adminEscalationCandidates store.toAlertStore now)).flatMap
        fun group => (opsUserIds store).map (adminEscalation now group) := by
  rw [escalationDigests, digests_eq, List.filter_append, List.filter_eq_nil_iff.mpr,
    List.filter_eq_self.mpr, List.nil_append]
  · intro digest hdigest
    obtain ⟨group, -, hdigest⟩ := List.mem_flatMap.mp hdigest
    obtain ⟨userId, -, rfl⟩ := List.mem_map.mp hdigest
    simp [adminEscalation]
  · intro digest hdigest
    obtain ⟨group, -, rfl⟩ := List.mem_map.mp hdigest
    simp [merchantReminder]

/-- One of the users gets each group once. -/
theorem escalationDigests_to (env : DigestEnv) {store : DigestStore} (now : Date) {userId : Id}
    (huser : userId ∈ opsUserIds store) :
    (escalationDigests env store now).filter (·.userId = userId) =
      (groupByMerchantAndBranch (adminEscalationCandidates store.toAlertStore now)).map
        (adminEscalation now · userId) := by
  have hfilter : ∀ group, ((opsUserIds store).map (adminEscalation now group)).filter
      (·.userId = userId) = [adminEscalation now group userId] := by
    intro group
    have hone : (opsUserIds store).filter (· = userId) = [userId] := by
      rw [List.filter_eq, List.count_eq_one_of_mem (nodup_opsUserIds store) huser]
      rfl
    rw [List.filter_map, show ((·.userId = userId) ∘ adminEscalation now group : Id → Bool) =
      (· = userId) from rfl, hone]
    rfl
  rw [escalationDigests_eq, List.filter_flatMap, List.map_eq_flatMap]
  exact List.flatMap_congr fun group _ => hfilter group

/-! ## A cycle is exact -/

/-- One notification for each group of some alerts. -/
theorem exact_of_groups {store : AlertStore} {candidates : List ReminderCandidate}
    {due : Id → Prop} {send : DigestGroup → DigestNotification}
    (hdue : ∀ notificationId, notificationId ∈ candidates.map (·.id) ↔ due notificationId)
    (hnodup : (candidates.map (·.id)).Nodup)
    (hstored : ∀ candidate ∈ candidates,
      store.notifications.get candidate.id = some candidate.notification ∧
        candidate.notification.metadata = some candidate.metadata)
    (hids : ∀ group, (send group).metadata.alertNotificationIds = group.alertNotificationIds)
    (hsend : ∀ group, (send group).merchantAndBranch = (group.merchantUserId, group.branchId)) :
    Exact store ((groupByMerchantAndBranch candidates).map send) due := by
  have hperm := flatMap_alerts_perm (List.Nodup.of_map _ hnodup)
  have hflat : (((groupByMerchantAndBranch candidates).map send).flatMap
      (·.metadata.alertNotificationIds)).Perm (candidates.map (·.id)) := by
    simp only [List.flatMap_map, hids, DigestGroup.alertNotificationIds, ← List.map_flatMap]
    exact hperm.map _
  refine ⟨fun notificationId => ?_, hflat.nodup_iff.mpr hnodup, ?_, ?_⟩
  · rw [hflat.mem_iff, hdue]
  · intro digest hdigest notificationId hid
    obtain ⟨group, hgroup, rfl⟩ := List.mem_map.mp hdigest
    rw [hids, DigestGroup.alertNotificationIds] at hid
    obtain ⟨alert, halert, rfl⟩ := List.mem_map.mp hid
    obtain ⟨hget, hmetadata⟩ :=
      hstored alert (hperm.mem_iff.mp (List.mem_flatMap.mpr ⟨group, hgroup, halert⟩))
    refine ⟨_, hget, ?_⟩
    rw [hsend, merchantAndBranch, hmetadata]
    exact (groupKey_inj.mp (groupKey_of_mem hgroup halert)).symm
  · have hcomp : (·.merchantAndBranch) ∘ send =
        fun group => (group.merchantUserId, group.branchId) := funext hsend
    rw [List.map_map, hcomp]
    exact nodup_groups

/-- What is stored of a candidate. -/
theorem stored_of_mem_followUpCandidates {store : AlertStore} {action : AlertAction}
    (haction : action = .reminderSent ∨ action = .escalated) {ageMs cooldownMs now : Date} :
    ∀ candidate ∈ followUpCandidates store action ageMs cooldownMs now,
      store.notifications.get candidate.id = some candidate.notification ∧
        candidate.notification.metadata = some candidate.metadata := by
  intro candidate hcandidate
  have halert := (mem_unresolvedAttentionAlerts.mp
    ((mem_followUpCandidates haction).mp hcandidate).1).1
  obtain ⟨hstored, -, hmetadata, -⟩ := mem_attentionAlerts.mp halert
  exact ⟨hstored, hmetadata⟩

section Cycle

variable (env : DigestEnv) (store : DigestStore) (now : Date)

theorem reminderDigests_exact :
    Exact store.toAlertStore (reminderDigests env store now) fun notificationId =>
      Scanned store.toAlertStore notificationId ∧
        NeedsReminder store.toAlertStore now notificationId := by
  rw [reminderDigests_eq]
  exact exact_of_groups (exists_followUpCandidate (.inl rfl) _ _ now)
    (nodup_followUpCandidates ..) (stored_of_mem_followUpCandidates (.inl rfl))
    (fun _ => rfl) fun _ => rfl

theorem escalationDigests_exact {userId : Id} (huser : IsActiveOpsUser store.users userId) :
    Exact store.toAlertStore ((escalationDigests env store now).filter (·.userId = userId))
      fun notificationId => Scanned store.toAlertStore notificationId ∧
        NeedsEscalation store.toAlertStore now notificationId := by
  rw [escalationDigests_to env now ((mem_opsUserIds store userId).mpr huser)]
  exact exact_of_groups (exists_followUpCandidate (.inr rfl) _ _ now)
    (nodup_followUpCandidates ..) (stored_of_mem_followUpCandidates (.inr rfl))
    (fun _ => rfl) fun _ => rfl

theorem recipient_of_mem_escalationDigests {escalation : DigestNotification}
    (h : escalation ∈ escalationDigests env store now) :
    IsActiveOpsUser store.users escalation.userId := by
  rw [escalationDigests_eq] at h
  obtain ⟨group, -, h⟩ := List.mem_flatMap.mp h
  obtain ⟨userId, huser, rfl⟩ := List.mem_map.mp h
  exact (mem_opsUserIds store userId).mp huser

/-- **Among the newest 500 alerts a cycle is exact.** -/
theorem runDigestCycle_exact : ExactCycle env store now (Scanned store.toAlertStore) :=
  ⟨reminderDigests_exact env store now, fun _ huser => escalationDigests_exact env store now huser,
    fun _ h => recipient_of_mem_escalationDigests env store now h⟩

end Cycle

/-! ## More than 500 alerts -/

/-- An alert of a merchant of his own, about tea that has run out. -/
def teaAlert (i : ℕ) : Id × AlertNotification :=
  (i, {
    user := ⟨i, "09-100"⟩
    type := .systemAlert
    title := "Tea is out of stock"
    metadataJson := .object [("resourceType", .string "MENU_ITEM"), ("resourceId", .string "60"),
      ("resourceLabel", .string "Tea"), ("attentionLevel", .string "OUT_OF_STOCK"),
      ("branchId", .string "1")]
    createdAt := 0 })

theorem nodup_teaAlerts (n : ℕ) : (((List.range n).map teaAlert).map Prod.fst).Nodup := by
  rw [List.map_map]
  exact (List.map_id _).symm ▸ List.nodup_range

def teaStore (n : ℕ) : DigestStore where
  notifications := ⟨(List.range n).map teaAlert, nodup_teaAlerts n⟩
  logs := .empty
  users := .empty

theorem get_teaStore (n : ℕ) :
    (teaStore (n + 1)).notifications.get 0 = some (teaAlert 0).2 := by
  refine (Table.mem_iff_get _).mp (List.mem_map.mpr ⟨0, ?_, rfl⟩)
  simp

/-- The oldest of the alerts needs a reminder after half an hour. -/
theorem needsReminder_teaAlert (n : ℕ) :
    NeedsReminder (teaStore (n + 1)).toAlertStore merchantReminderAgeMs 0 := by
  refine ⟨_, _, get_teaStore n, rfl, rfl, .inl rfl, by decide, fun row hrow => ?_⟩
  exact absurd hrow List.not_mem_nil

/-- All but the oldest are newer. -/
theorem not_scanned_teaAlert : ¬ Scanned (teaStore 501).toAlertStore 0 := by
  intro h
  have hnewer := h _ (get_teaStore 500)
  revert hnewer
  decide +kernel

/-- **The oldest of 501 alerts is in no digest.** -/
theorem oldest_alert_not_sent : ¬ ∀ (env : DigestEnv) (store : DigestStore) (now : Date),
    ExactCycle env store now fun _ => True := by
  intro h
  have hsent := ((h ⟨id, fun _ => false⟩ (teaStore 501) merchantReminderAgeMs).reminders.complete
    0).mpr ⟨trivial, needsReminder_teaAlert 500⟩
  exact not_scanned_teaAlert (((reminderDigests_exact _ _ _).complete 0).mp hsent).1

end WerTe.AlertDigest
