import WerTe.AlertRecords
import WerTe.Calendar.IsoText
import WerTe.Keyed.Groups
import WerTe.Keyed.Tally

/-!
# Reports on inventory alerts

`admin-reports.service.ts`: an overview of the alerts of the last days, and how many there were on
each of the days. Both load the same window; the overview goes through the alerts, and the trends
go through the alerts and the logs and count them under their UTC dates.

A date under which there is no bucket is not counted. The buckets are those of the window's days, so
that nothing is lost while years have four digits (`reports_agree`).
-/

namespace WerTe.AdminReportsService

open AlertRecords Calendar Keyed

/-! ## Requests and what is loaded for them -/

def adminInventoryAlertReportMaxDays : ℤ := 30

structure ListAdminInventoryAlertReportQueryDto where
  days : Option ℤ := none
  branchId : Option String := none
  merchantUserId : Option String := none

/-- An alert, before its logs are known. -/
structure InventoryAlertReportRecord where
  notificationId : Id
  merchantUserId : Id
  readAt : Option Date
  createdAt : Date
  metadata : AdminInventoryAlertMetadata
  deliveries : List (NotificationChannel × NotificationDeliveryStatus)

structure ResolvedInventoryAlertReportRecord extends InventoryAlertReportRecord where
  status : InventoryAlertStatus
  followUpLogs : List AlertLog

structure AnalyticsWindow where
  generatedAt : Date
  periodDays : ℕ
  windowStartedAt : Date
  windowEndedAt : Date
  alerts : List ResolvedInventoryAlertReportRecord
  lifecycleLogs : List AlertLog
  followUpLogs : List AlertLog

def normalizePeriodDays (days : Option ℤ) : ℕ :=
  days.elim 7 fun days => (min (max days 1) adminInventoryAlertReportMaxDays).toNat

def buildWindowStart (now : Date) (days : ℕ) : Date :=
  let start := dateUTC (getUTCFullYear now) (getUTCMonth now) (getUTCDate now)
  setUTCDate start (getUTCDate start - (days - 1))

def toUtcDateKey (value : Date) : String := .ofList ((toISOString value).toList.take 10)

def toResolvedInventoryAlert (row : Id × AlertNotification) : Option InventoryAlertReportRecord :=
  row.2.metadata.map fun metadata => {
    notificationId := row.1
    merchantUserId := row.2.user.id
    readAt := row.2.readAt
    createdAt := row.2.createdAt
    metadata
    deliveries := row.2.deliveries }

/-- The filters of a query; a blank one is none. -/
def ListAdminInventoryAlertReportQueryDto.selects (query : ListAdminInventoryAlertReportQueryDto)
    (alert : InventoryAlertReportRecord) : Bool :=
  (query.branchId.all fun branchId =>
    (trim branchId).length == 0 || alert.metadata.branchId == some (trim branchId)) &&
  query.merchantUserId.all fun merchantUserId =>
    (trim merchantUserId).length == 0 || toString alert.merchantUserId == trim merchantUserId

def buildFollowUpLogMap (logs : List AlertLog) : Table Id (List AlertLog) :=
  grouped AlertLog.resourceId ([·]) (fun list log => list ++ [log]) logs

def loadInventoryAlerts (store : AlertStore) (windowStartedAt : Date)
    (query : ListAdminInventoryAlertReportQueryDto) : List InventoryAlertReportRecord :=
  let notifications := newestFirst (·.createdAt) (store.notifications.entries.filter fun row =>
    row.2.type == .systemAlert && decide (windowStartedAt ≤ row.2.createdAt))
  (notifications.filterMap toResolvedInventoryAlert).filter query.selects

def loadInventoryAlertAnalyticsWindow (store : AlertStore) (generatedAt : Date)
    (query : ListAdminInventoryAlertReportQueryDto) : AnalyticsWindow :=
  let periodDays := normalizePeriodDays query.days
  let windowStartedAt := buildWindowStart generatedAt periodDays
  let alerts := loadInventoryAlerts store windowStartedAt query
  let notificationIds := alerts.map (·.notificationId)
  let lifecycleLogs := findInventoryAlertLifecycleLogs store notificationIds
  let followUpLogs := (findInventoryAlertFollowUpLogs store notificationIds).map Prod.snd
  let latestLifecycleByNotificationId := buildLatestLifecycleLogMap lifecycleLogs
  let followUpLogsByNotificationId := buildFollowUpLogMap followUpLogs
  { generatedAt, periodDays, windowStartedAt
    windowEndedAt := generatedAt
    alerts := alerts.map fun alert => { alert with
      status := AlertRecords.resolveInventoryAlertStatus
        (latestLifecycleByNotificationId.get alert.notificationId)
      followUpLogs := (followUpLogsByNotificationId.get alert.notificationId).getD [] }
    lifecycleLogs := lifecycleLogs.map Prod.snd
    followUpLogs }

def assertAdmin (currentUser : AuthenticatedUser) : Except Failure Unit :=
  if currentUser.role = .admin then .ok ()
  else .error (fail "You are not allowed to read administrative reports." .forbidden)

/-! ## The overview -/

structure KindCounts where
  attentionAlertsCount : ℕ := 0
  compensationAlertsCount : ℕ := 0
deriving DecidableEq

def KindCounts.add (counts : KindCounts) : InventoryAlertKind → KindCounts
  | .attention => { counts with attentionAlertsCount := counts.attentionAlertsCount + 1 }
  | .compensation => { counts with compensationAlertsCount := counts.compensationAlertsCount + 1 }

structure StatusCounts where
  openAlertsCount : ℕ := 0
  acknowledgedAlertsCount : ℕ := 0
  resolvedAlertsCount : ℕ := 0
  dismissedAlertsCount : ℕ := 0
deriving DecidableEq

def StatusCounts.add (counts : StatusCounts) : InventoryAlertStatus → StatusCounts
  | .acknowledged => { counts with acknowledgedAlertsCount := counts.acknowledgedAlertsCount + 1 }
  | .resolved => { counts with resolvedAlertsCount := counts.resolvedAlertsCount + 1 }
  | .dismissed => { counts with dismissedAlertsCount := counts.dismissedAlertsCount + 1 }
  | .opened => { counts with openAlertsCount := counts.openAlertsCount + 1 }

structure AttentionLevelCounts where
  lowStockAlertsCount : ℕ := 0
  outOfStockAlertsCount : ℕ := 0
deriving DecidableEq

def AttentionLevelCounts.add (counts : AttentionLevelCounts) :
    Option InventoryAttentionLevel → AttentionLevelCounts
  | some .lowStock => { counts with lowStockAlertsCount := counts.lowStockAlertsCount + 1 }
  | some .outOfStock => { counts with outOfStockAlertsCount := counts.outOfStockAlertsCount + 1 }
  | none => counts

structure ResourceTypeCounts where
  menuItemAlertsCount : ℕ := 0
  itemOptionAlertsCount : ℕ := 0
deriving DecidableEq

def ResourceTypeCounts.add (counts : ResourceTypeCounts) : InventoryResourceType →
    ResourceTypeCounts
  | .menuItem => { counts with menuItemAlertsCount := counts.menuItemAlertsCount + 1 }
  | .itemOption => { counts with itemOptionAlertsCount := counts.itemOptionAlertsCount + 1 }

structure FollowUpCounts where
  reminderCount : ℕ := 0
  escalationCount : ℕ := 0
deriving DecidableEq

def FollowUpCounts.add (counts : FollowUpCounts) (log : AlertLog) : FollowUpCounts :=
  match log.action with
  | .reminderSent => { counts with reminderCount := counts.reminderCount + 1 }
  | .escalated => { counts with escalationCount := counts.escalationCount + 1 }
  | _ => counts

structure DeliveryCounts where
  pushPendingCount : ℕ := 0
  pushQueuedCount : ℕ := 0
  pushSentCount : ℕ := 0
  pushDeliveredCount : ℕ := 0
  pushFailedCount : ℕ := 0
deriving DecidableEq

def DeliveryCounts.add (counts : DeliveryCounts) :
    NotificationChannel × NotificationDeliveryStatus → DeliveryCounts
  | (.push, .pending) => { counts with pushPendingCount := counts.pushPendingCount + 1 }
  | (.push, .queued) => { counts with pushQueuedCount := counts.pushQueuedCount + 1 }
  | (.push, .sent) => { counts with pushSentCount := counts.pushSentCount + 1 }
  | (.push, .delivered) => { counts with pushDeliveredCount := counts.pushDeliveredCount + 1 }
  | (.push, .failed) => { counts with pushFailedCount := counts.pushFailedCount + 1 }
  | _ => counts

structure AdminInventoryAlertReportBranchSummaryDto where
  branchId : Option String
  branchName : Option String
  totalAlertsCount : ℕ := 0
  openLifecycleAlertsCount : ℕ := 0
  escalatedAlertsCount : ℕ := 0
deriving DecidableEq

def addToBranch (branchMap : Table String AdminInventoryAlertReportBranchSummaryDto)
    (alert : ResolvedInventoryAlertReportRecord) :
    Table String AdminInventoryAlertReportBranchSummaryDto :=
  let branchKey := alert.metadata.branchId.getD "__unscoped__"
  let branchSummary := (branchMap.get branchKey).getD
    { branchId := alert.metadata.branchId, branchName := alert.metadata.branchName }
  branchMap.set branchKey { branchSummary with
    totalAlertsCount := branchSummary.totalAlertsCount + 1
    openLifecycleAlertsCount := branchSummary.openLifecycleAlertsCount +
      if alert.status = .opened ∨ alert.status = .acknowledged then 1 else 0
    escalatedAlertsCount := branchSummary.escalatedAlertsCount +
      (alert.followUpLogs.filter (·.action == .escalated)).length }

structure OverviewCounts where
  unreadMerchantAlertsCount : ℕ := 0
  kindCounts : KindCounts := {}
  statusCounts : StatusCounts := {}
  attentionLevelCounts : AttentionLevelCounts := {}
  resourceTypeCounts : ResourceTypeCounts := {}
  followUpCounts : FollowUpCounts := {}
  deliveryCounts : DeliveryCounts := {}
  branchMap : Table String AdminInventoryAlertReportBranchSummaryDto := .empty

/-- The body of the loop. -/
def OverviewCounts.add (counts : OverviewCounts) (alert : ResolvedInventoryAlertReportRecord) :
    OverviewCounts where
  unreadMerchantAlertsCount :=
    counts.unreadMerchantAlertsCount + if alert.readAt = none then 1 else 0
  kindCounts := counts.kindCounts.add alert.metadata.alertKind
  statusCounts := counts.statusCounts.add alert.status
  attentionLevelCounts := counts.attentionLevelCounts.add alert.metadata.attentionLevel
  resourceTypeCounts := counts.resourceTypeCounts.add alert.metadata.resourceType
  followUpCounts := alert.followUpLogs.foldl FollowUpCounts.add counts.followUpCounts
  deliveryCounts := alert.deliveries.foldl DeliveryCounts.add counts.deliveryCounts
  branchMap := addToBranch counts.branchMap alert

structure AdminInventoryAlertOverviewReportDto where
  generatedAt : String
  windowStartedAt : String
  windowEndedAt : String
  periodDays : ℕ
  totalAlertsCount : ℕ
  unreadMerchantAlertsCount : ℕ
  kindCounts : KindCounts
  statusCounts : StatusCounts
  attentionLevelCounts : AttentionLevelCounts
  resourceTypeCounts : ResourceTypeCounts
  followUpCounts : FollowUpCounts
  deliveryCounts : DeliveryCounts
  topBranches : List AdminInventoryAlertReportBranchSummaryDto

/-- More alerts first, then more open ones, then the names as the locale has them. -/
def comesFirst (localeCompare : String → String → Ordering)
    (left right : AdminInventoryAlertReportBranchSummaryDto) : Bool :=
  if right.totalAlertsCount ≠ left.totalAlertsCount then
    right.totalAlertsCount < left.totalAlertsCount
  else if right.openLifecycleAlertsCount ≠ left.openLifecycleAlertsCount then
    right.openLifecycleAlertsCount < left.openLifecycleAlertsCount
  else localeCompare (left.branchName.getD "") (right.branchName.getD "") != .gt

/-- What is said of a window. -/
def overviewOf (localeCompare : String → String → Ordering) (window : AnalyticsWindow) :
    AdminInventoryAlertOverviewReportDto :=
  let counts := window.alerts.foldl OverviewCounts.add {}
  { generatedAt := toISOString window.generatedAt
    windowStartedAt := toISOString window.windowStartedAt
    windowEndedAt := toISOString window.windowEndedAt
    periodDays := window.periodDays
    totalAlertsCount := window.alerts.length
    unreadMerchantAlertsCount := counts.unreadMerchantAlertsCount
    kindCounts := counts.kindCounts
    statusCounts := counts.statusCounts
    attentionLevelCounts := counts.attentionLevelCounts
    resourceTypeCounts := counts.resourceTypeCounts
    followUpCounts := counts.followUpCounts
    deliveryCounts := counts.deliveryCounts
    topBranches := ((counts.branchMap.entries.map Prod.snd).mergeSort
      (comesFirst localeCompare)).take 5 }

def getInventoryAlertOverview (localeCompare : String → String → Ordering) (store : AlertStore)
    (generatedAt : Date) (currentUser : AuthenticatedUser)
    (query : ListAdminInventoryAlertReportQueryDto) :
    Except Failure AdminInventoryAlertOverviewReportDto := do
  assertAdmin currentUser
  return overviewOf localeCompare (loadInventoryAlertAnalyticsWindow store generatedAt query)

/-! ## The trends -/

structure AdminInventoryAlertTrendBucketDto where
  date : String
  createdAlertsCount : ℕ := 0
  attentionAlertsCount : ℕ := 0
  compensationAlertsCount : ℕ := 0
  unreadMerchantAlertsCount : ℕ := 0
  acknowledgedCount : ℕ := 0
  resolvedCount : ℕ := 0
  dismissedCount : ℕ := 0
  reminderCount : ℕ := 0
  escalationCount : ℕ := 0
deriving DecidableEq

structure AdminInventoryAlertTrendsReportDto where
  generatedAt : String
  windowStartedAt : String
  windowEndedAt : String
  periodDays : ℕ
  buckets : List AdminInventoryAlertTrendBucketDto

abbrev BucketMap := Table String AdminInventoryAlertTrendBucketDto

/-- The first loop: a bucket for each day of the window. -/
def emptyBuckets (windowStartedAt : Date) (periodDays : ℕ) : BucketMap :=
  (List.range periodDays).foldl (fun bucketMap (offset : ℕ) =>
    let bucketDate := setUTCDate windowStartedAt (getUTCDate windowStartedAt + offset)
    let bucketKey := toUtcDateKey bucketDate
    bucketMap.set bucketKey { date := bucketKey }) .empty

/-- The bodies of the other loops, for the alerts, -/
def countAlert (alert : ResolvedInventoryAlertReportRecord)
    (bucket : AdminInventoryAlertTrendBucketDto) : AdminInventoryAlertTrendBucketDto :=
  { bucket with
    createdAlertsCount := bucket.createdAlertsCount + 1
    attentionAlertsCount := bucket.attentionAlertsCount +
      if alert.metadata.alertKind = .attention then 1 else 0
    compensationAlertsCount := bucket.compensationAlertsCount +
      if alert.metadata.alertKind = .attention then 0 else 1
    unreadMerchantAlertsCount := bucket.unreadMerchantAlertsCount +
      if alert.readAt = none then 1 else 0 }

/-- the lifecycle logs -/
def countLifecycleLog (log : AlertLog) (bucket : AdminInventoryAlertTrendBucketDto) :
    AdminInventoryAlertTrendBucketDto :=
  match log.action with
  | .acknowledged => { bucket with acknowledgedCount := bucket.acknowledgedCount + 1 }
  | .resolved => { bucket with resolvedCount := bucket.resolvedCount + 1 }
  | .dismissed => { bucket with dismissedCount := bucket.dismissedCount + 1 }
  | _ => bucket

/-- and the follow-up logs. -/
def countFollowUpLog (log : AlertLog) (bucket : AdminInventoryAlertTrendBucketDto) :
    AdminInventoryAlertTrendBucketDto :=
  match log.action with
  | .reminderSent => { bucket with reminderCount := bucket.reminderCount + 1 }
  | .escalated => { bucket with escalationCount := bucket.escalationCount + 1 }
  | _ => bucket

def logKey (log : AlertLog) : String := toUtcDateKey log.createdAt

def countWindow (window : AnalyticsWindow) : BucketMap :=
  let bucketMap := emptyBuckets window.windowStartedAt window.periodDays
  let withAlerts := tally (fun alert => toUtcDateKey alert.createdAt) countAlert window.alerts
    bucketMap
  let withLifecycle := tally logKey countLifecycleLog window.lifecycleLogs withAlerts
  tally logKey countFollowUpLog window.followUpLogs withLifecycle

def trendsOf (window : AnalyticsWindow) : AdminInventoryAlertTrendsReportDto where
  generatedAt := toISOString window.generatedAt
  windowStartedAt := toISOString window.windowStartedAt
  windowEndedAt := toISOString window.windowEndedAt
  periodDays := window.periodDays
  buckets := (countWindow window).entries.map Prod.snd

def getInventoryAlertTrends (store : AlertStore) (generatedAt : Date)
    (currentUser : AuthenticatedUser) (query : ListAdminInventoryAlertReportQueryDto) :
    Except Failure AdminInventoryAlertTrendsReportDto := do
  assertAdmin currentUser
  return trendsOf (loadInventoryAlertAnalyticsWindow store generatedAt query)

/-! ## When the reports agree -/

/-- Nothing is from after the report, and no log is from before its alert. -/
structure Settled (store : AlertStore) (generatedAt : Date) : Prop where
  alerts : ∀ row ∈ store.notifications.entries, row.2.type = .systemAlert →
    row.2.createdAt ≤ generatedAt
  logs : ∀ row ∈ store.logs.entries, row.2.resourceType = .notification →
    row.2.createdAt ≤ generatedAt
  after : ∀ row ∈ store.logs.entries, row.2.resourceType = .notification →
    ∀ notification, store.notifications.get row.2.resourceId = some notification →
      notification.type = .systemAlert → notification.createdAt ≤ row.2.createdAt

/-- The text of a day, `YYYY-MM-DD`. -/
def dayText (day : ℤ) : String := toUtcDateKey (day * 86400000)

def sumOf (trends : AdminInventoryAlertTrendsReportDto)
    (field : AdminInventoryAlertTrendBucketDto → ℕ) : ℕ := (trends.buckets.map field).sum

structure ReportsAgree (overview : AdminInventoryAlertOverviewReportDto)
    (trends : AdminInventoryAlertTrendsReportDto) (generatedAt : Date) (days : ℕ) : Prop where
  /-- the buckets are those of the days up to that of the report -/
  dates : trends.buckets.map (·.date) =
    (List.range days).map fun offset : ℕ => dayText (dayOf generatedAt - (days - 1) + offset)
  created : sumOf trends (·.createdAlertsCount) = overview.totalAlertsCount
  attention : sumOf trends (·.attentionAlertsCount) = overview.kindCounts.attentionAlertsCount
  compensation :
    sumOf trends (·.compensationAlertsCount) = overview.kindCounts.compensationAlertsCount
  unread : sumOf trends (·.unreadMerchantAlertsCount) = overview.unreadMerchantAlertsCount
  reminders : sumOf trends (·.reminderCount) = overview.followUpCounts.reminderCount
  escalations : sumOf trends (·.escalationCount) = overview.followUpCounts.escalationCount
  resolved : overview.statusCounts.resolvedAlertsCount ≤ sumOf trends (·.resolvedCount)
  dismissed : overview.statusCounts.dismissedAlertsCount ≤ sumOf trends (·.dismissedCount)
  kinds : overview.kindCounts.attentionAlertsCount + overview.kindCounts.compensationAlertsCount =
    overview.totalAlertsCount
  statuses : overview.statusCounts.openAlertsCount + overview.statusCounts.acknowledgedAlertsCount +
    overview.statusCounts.resolvedAlertsCount + overview.statusCounts.dismissedAlertsCount =
      overview.totalAlertsCount
  resourceTypes : overview.resourceTypeCounts.menuItemAlertsCount +
    overview.resourceTypeCounts.itemOptionAlertsCount = overview.totalAlertsCount

/-! ## The window -/

section Window

variable {store : AlertStore} {query : ListAdminInventoryAlertReportQueryDto}

theorem mem_loadInventoryAlerts {windowStartedAt : Date} {alert : InventoryAlertReportRecord}
    (h : alert ∈ loadInventoryAlerts store windowStartedAt query) :
    ∃ notification, store.notifications.get alert.notificationId = some notification ∧
      notification.type = .systemAlert ∧ notification.createdAt = alert.createdAt ∧
        windowStartedAt ≤ alert.createdAt := by
  rw [loadInventoryAlerts, List.mem_filter, List.mem_filterMap] at h
  obtain ⟨⟨⟨notificationId, notification⟩, hrow, halert⟩, -⟩ := h
  rw [mem_newestFirst, List.mem_filter, Table.mem_iff_get, Bool.and_eq_true, beq_iff_eq,
    decide_eq_true_iff] at hrow
  rw [toResolvedInventoryAlert, Option.map_eq_some_iff] at halert
  obtain ⟨metadata, -, rfl⟩ := halert
  exact ⟨notification, hrow.1, hrow.2.1, rfl, hrow.2.2⟩

theorem nodup_loadInventoryAlerts (windowStartedAt : Date) :
    ((loadInventoryAlerts store windowStartedAt query).map (·.notificationId)).Nodup := by
  rw [loadInventoryAlerts]
  refine List.Nodup.sublist (List.filter_sublist.map _) ?_
  set rows := newestFirst (·.createdAt) (store.notifications.entries.filter fun row =>
    row.2.type == .systemAlert && decide (windowStartedAt ≤ row.2.createdAt)) with hrows
  have hids : (rows.map Prod.fst).Nodup := by
    rw [hrows, newestFirst, ((List.perm_insertionSort _ _).map _).nodup_iff]
    exact nodup_filter ..
  have hsublist : ((rows.filterMap toResolvedInventoryAlert).map (·.notificationId)).Sublist
      (rows.map Prod.fst) := by
    clear hids hrows
    induction rows with
    | nil => exact List.Sublist.slnil
    | cons row rows ih =>
      rw [List.filterMap_cons, toResolvedInventoryAlert]
      cases row.2.metadata with
      | none => exact ih.cons row.1
      | some metadata => exact ih.cons_cons row.1
  exact hids.sublist hsublist

theorem mem_findInventoryAlertLogs {actions : List AlertAction} {notificationIds : List Id}
    {row : Id × AlertLog} : row ∈ findInventoryAlertLogs actions store notificationIds ↔
      row ∈ store.logs.entries ∧ row.2.resourceType = .notification ∧
        row.2.resourceId ∈ notificationIds ∧ row.2.action ∈ actions := by
  rw [findInventoryAlertLogs, mem_newestFirst]
  simp [and_assoc]

end Window

/-! ## Days and their buckets -/

/-- The years of the days before a day of a year with at least three digits. -/
theorem fourDigitYear_near {last day : ℤ} (hyear : 100 ≤ yearFromDay last ∧
    yearFromDay last ≤ 9999) (hle : day ≤ last) (hnear : last ≤ day + 365) :
    FourDigitYear day := by
  refine ⟨?_, (yearFromDay_mono hle).trans hyear.2⟩
  have hfirst := (dayFromYear_mono hyear.1).trans (dayFromYear_yearFromDay last).1
  have hday : dayFromYear 99 ≤ day := by
    have hyears : dayFromYear 100 = dayFromYear 99 + 365 := by decide
    omega
  calc (0 : ℤ) ≤ yearFromDay (dayFromYear 99) := by decide
    _ ≤ yearFromDay day := yearFromDay_mono hday

theorem dayOf_midnight (day : ℤ) : dayOf (day * 86400000) = day := by
  rw [dayOf]
  omega

theorem toUtcDateKey_eq {value : Date} (h : FourDigitYear (dayOf value)) :
    toUtcDateKey value = dateText (dayOf value) := by
  rw [toUtcDateKey, take_toISOString h, String.ofList_toList]

theorem dayText_eq {day : ℤ} (h : FourDigitYear day) : dayText day = dateText day := by
  rw [dayText, toUtcDateKey_eq (by rwa [dayOf_midnight]), dayOf_midnight]

theorem buildWindowStart_eq {now : Date} (hyear : 100 ≤ getUTCFullYear now) (days : ℕ) :
    buildWindowStart now days = (dayOf now - (days - 1)) * 86400000 := by
  have hsub := setUTCDate_add (dayOf now * 86400000) (-(days - 1))
  rw [← sub_eq_add_neg] at hsub
  rw [buildWindowStart, dateUTC_midnight hyear, hsub]
  ring

def bucketKey (windowStartedAt : Date) (offset : ℕ) : String :=
  toUtcDateKey (setUTCDate windowStartedAt (getUTCDate windowStartedAt + offset))

theorem bucketKey_midnight (day : ℤ) (offset : ℕ) :
    bucketKey (day * 86400000) offset = dayText (day + offset) := by
  rw [bucketKey, setUTCDate_add, dayText, add_mul]

/-- Days with different keys have buckets of their own. -/
theorem entries_emptyBuckets {windowStartedAt : Date} {periodDays : ℕ}
    (hkeys : ∀ i < periodDays, ∀ j < periodDays,
      bucketKey windowStartedAt i = bucketKey windowStartedAt j → i = j) :
    (emptyBuckets windowStartedAt periodDays).entries =
      (List.range periodDays).map fun offset =>
        (bucketKey windowStartedAt offset, { date := bucketKey windowStartedAt offset }) := by
  induction periodDays with
  | zero => rfl
  | succ n ih =>
    have hbefore := ih fun i hi j hj => hkeys i (by omega) j (by omega)
    have hstep : emptyBuckets windowStartedAt (n + 1) =
        (emptyBuckets windowStartedAt n).set (bucketKey windowStartedAt n)
          { date := bucketKey windowStartedAt n } := by
      rw [emptyBuckets, List.range_succ, List.foldl_append]
      rfl
    rw [hstep, Table.entries_set_of_notMem, hbefore, List.range_succ, List.map_append]
    · rfl
    · rw [hbefore, List.map_map]
      intro hmem
      obtain ⟨i, hi, heq⟩ := List.mem_map.mp hmem
      have hlt := List.mem_range.mp hi
      have := hkeys i (by omega) n (by omega) heq
      omega

/-! ## What the trends add up to -/

theorem countLifecycleLog_eq (log : AlertLog) (bucket : AdminInventoryAlertTrendBucketDto) :
    countLifecycleLog log bucket = { bucket with
      acknowledgedCount := bucket.acknowledgedCount + if log.action = .acknowledged then 1 else 0
      resolvedCount := bucket.resolvedCount + if log.action = .resolved then 1 else 0
      dismissedCount := bucket.dismissedCount + if log.action = .dismissed then 1 else 0 } := by
  unfold countLifecycleLog
  cases log.action <;> rfl

theorem countFollowUpLog_eq (log : AlertLog) (bucket : AdminInventoryAlertTrendBucketDto) :
    countFollowUpLog log bucket = { bucket with
      reminderCount := bucket.reminderCount + if log.action = .reminderSent then 1 else 0
      escalationCount := bucket.escalationCount + if log.action = .escalated then 1 else 0 } := by
  unfold countFollowUpLog
  cases log.action <;> rfl

theorem total_emptyBuckets {field : AdminInventoryAlertTrendBucketDto → ℕ}
    (hfield : ∀ date, field { date := date } = 0) {windowStartedAt : Date} {periodDays : ℕ}
    (hkeys : ∀ i < periodDays, ∀ j < periodDays,
      bucketKey windowStartedAt i = bucketKey windowStartedAt j → i = j) :
    (emptyBuckets windowStartedAt periodDays).total field = 0 := by
  rw [Table.total, entries_emptyBuckets hkeys, List.map_map]
  refine List.sum_eq_zero fun n hn => ?_
  obtain ⟨offset, -, rfl⟩ := List.mem_map.mp hn
  exact hfield _

/-- Every alert and every log of a window has a bucket, and every day has its own. -/
structure Covered (window : AnalyticsWindow) : Prop where
  distinct : ∀ i < window.periodDays, ∀ j < window.periodDays,
    bucketKey window.windowStartedAt i = bucketKey window.windowStartedAt j → i = j
  alerts : ∀ alert ∈ window.alerts, ∃ offset < window.periodDays,
    toUtcDateKey alert.createdAt = bucketKey window.windowStartedAt offset
  lifecycleLogs : ∀ log ∈ window.lifecycleLogs, ∃ offset < window.periodDays,
    logKey log = bucketKey window.windowStartedAt offset
  followUpLogs : ∀ log ∈ window.followUpLogs, ∃ offset < window.periodDays,
    logKey log = bucketKey window.windowStartedAt offset

section Trends

variable {window : AnalyticsWindow} (hcovered : Covered window)

include hcovered

theorem keys_emptyBuckets :
    (emptyBuckets window.windowStartedAt window.periodDays).entries.map Prod.fst =
      (List.range window.periodDays).map (bucketKey window.windowStartedAt) := by
  rw [entries_emptyBuckets hcovered.distinct, List.map_map]
  rfl

theorem mem_keys {key : String} (h : ∃ offset < window.periodDays,
    key = bucketKey window.windowStartedAt offset) :
    key ∈ (emptyBuckets window.windowStartedAt window.periodDays).entries.map Prod.fst := by
  obtain ⟨offset, hoffset, rfl⟩ := h
  rw [keys_emptyBuckets hcovered]
  exact List.mem_map_of_mem (List.mem_range.mpr hoffset)

/-- **A field adds up to what the loops add to it.** -/
theorem total_countWindow {field : AdminInventoryAlertTrendBucketDto → ℕ}
    (ofAlert : ResolvedInventoryAlertReportRecord → ℕ) (ofLifecycleLog ofFollowUpLog : AlertLog → ℕ)
    (hempty : ∀ date, field { date := date } = 0)
    (halert : ∀ alert bucket, field (countAlert alert bucket) = field bucket + ofAlert alert)
    (hlifecycle : ∀ log bucket,
      field (countLifecycleLog log bucket) = field bucket + ofLifecycleLog log)
    (hfollowUp : ∀ log bucket,
      field (countFollowUpLog log bucket) = field bucket + ofFollowUpLog log) :
    (countWindow window).total field = (window.alerts.map ofAlert).sum +
      (window.lifecycleLogs.map ofLifecycleLog).sum +
        (window.followUpLogs.map ofFollowUpLog).sum := by
  have hzero := total_emptyBuckets hempty hcovered.distinct
  rw [countWindow, total_tally hfollowUp, total_tally hlifecycle, total_tally halert, hzero]
  · omega
  · exact fun alert h => mem_keys hcovered (hcovered.alerts alert h)
  · intro log h
    rw [keys_tally]
    exact mem_keys hcovered (hcovered.lifecycleLogs log h)
  · intro log h
    rw [keys_tally, keys_tally]
    exact mem_keys hcovered (hcovered.followUpLogs log h)

/-- Logs leave what is counted of alerts alone. -/
theorem total_ofAlerts {field : AdminInventoryAlertTrendBucketDto → ℕ}
    {ofAlert : ResolvedInventoryAlertReportRecord → ℕ} (hempty : ∀ date, field { date := date } = 0)
    (halert : ∀ alert bucket, field (countAlert alert bucket) = field bucket + ofAlert alert)
    (hlifecycle : ∀ log bucket, field (countLifecycleLog log bucket) = field bucket)
    (hfollowUp : ∀ log bucket, field (countFollowUpLog log bucket) = field bucket) :
    (countWindow window).total field = (window.alerts.map ofAlert).sum := by
  have h := total_countWindow hcovered ofAlert (fun _ => 0) (fun _ => 0) hempty halert hlifecycle
    hfollowUp
  simpa using h

theorem total_ofLifecycleLogs {field : AdminInventoryAlertTrendBucketDto → ℕ} {action : AlertAction}
    (hempty : ∀ date, field { date := date } = 0)
    (halert : ∀ alert bucket, field (countAlert alert bucket) = field bucket)
    (hlifecycle : ∀ log bucket, field (countLifecycleLog log bucket) =
      field bucket + if log.action = action then 1 else 0)
    (hfollowUp : ∀ log bucket, field (countFollowUpLog log bucket) = field bucket) :
    (countWindow window).total field = window.lifecycleLogs.countP (·.action = action) := by
  have h := total_countWindow hcovered (fun _ => 0) _ (fun _ => 0) hempty halert hlifecycle
    hfollowUp
  rw [sum_map_one_iff] at h
  simpa using h

theorem total_ofFollowUpLogs {field : AdminInventoryAlertTrendBucketDto → ℕ} {action : AlertAction}
    (hempty : ∀ date, field { date := date } = 0)
    (halert : ∀ alert bucket, field (countAlert alert bucket) = field bucket)
    (hlifecycle : ∀ log bucket, field (countLifecycleLog log bucket) = field bucket)
    (hfollowUp : ∀ log bucket, field (countFollowUpLog log bucket) =
      field bucket + if log.action = action then 1 else 0) :
    (countWindow window).total field = window.followUpLogs.countP (·.action = action) := by
  have h := total_countWindow hcovered (fun _ => 0) (fun _ => 0) _ hempty halert hlifecycle
    hfollowUp
  rw [sum_map_one_iff] at h
  simpa using h

/-- A bucket's date is its key. -/
theorem dates_countWindow : (countWindow window).entries.map (fun entry => entry.2.date) =
    (List.range window.periodDays).map (bucketKey window.windowStartedAt) := by
  have hdates : ∀ key bucket, (countWindow window).get key = some bucket → bucket.date = key := by
    refine forall_tally ?_ _ (forall_tally ?_ _ (forall_tally ?_ _ ?_))
    · intro log key bucket hdate
      unfold countFollowUpLog
      split <;> exact hdate
    · intro log key bucket hdate
      unfold countLifecycleLog
      split <;> exact hdate
    · exact fun alert key bucket hdate => hdate
    · intro key bucket hget
      have hentry := (Table.mem_iff_get _).mpr hget
      rw [entries_emptyBuckets hcovered.distinct] at hentry
      obtain ⟨offset, -, heq⟩ := List.mem_map.mp hentry
      obtain ⟨rfl, rfl⟩ := Prod.mk.inj heq
      rfl
  rw [List.map_congr_left fun entry hentry => hdates _ _ ((Table.mem_iff_get _).mp hentry),
    ← keys_emptyBuckets hcovered, countWindow, keys_tally, keys_tally, keys_tally]

end Trends

/-! ## A window is covered -/

theorem normalizePeriodDays_le (days : Option ℤ) : normalizePeriodDays days ≤ 30 := by
  rw [normalizePeriodDays]
  cases days with
  | none => decide
  | some days =>
    rw [Option.elim_some, adminInventoryAlertReportMaxDays]
    omega

section Load

variable {store : AlertStore} {generatedAt : Date} (query : ListAdminInventoryAlertReportQueryDto)
  (hyear : 100 ≤ getUTCFullYear generatedAt ∧ getUTCFullYear generatedAt ≤ 9999)

include hyear

/-- The window's days up to the report's have texts of their own. -/
theorem fourDigitYear_window {days : ℕ} (hdays : days ≤ 30) {offset : ℕ} (hoffset : offset < days) :
    FourDigitYear (dayOf generatedAt - (days - 1) + offset) :=
  fourDigitYear_near hyear (by omega) (by omega)

/-- Whatever is between the window's start and the report has a bucket. -/
theorem exists_bucket {days : ℕ} (hdays : days ≤ 30) {time : Date}
    (hstart : buildWindowStart generatedAt days ≤ time) (htime : time ≤ generatedAt) :
    ∃ offset < days, toUtcDateKey time = bucketKey (buildWindowStart generatedAt days) offset := by
  rw [buildWindowStart_eq hyear.1] at hstart ⊢
  have hfirst : dayOf generatedAt - (days - 1) ≤ dayOf time :=
    (Int.le_ediv_iff_mul_le (by decide)).mpr hstart
  have hlast : dayOf time ≤ dayOf generatedAt := Int.ediv_le_ediv (by decide) htime
  obtain ⟨offset, hoffset⟩ := Int.eq_ofNat_of_zero_le (Int.sub_nonneg_of_le hfirst)
  have hday : dayOf time = dayOf generatedAt - (days - 1) + offset := by omega
  have hlt : offset < days := by omega
  have hdigits := fourDigitYear_window hyear hdays hlt
  refine ⟨offset, hlt, ?_⟩
  rw [bucketKey_midnight, dayText_eq hdigits, toUtcDateKey_eq (hday ▸ hdigits), hday]

theorem covered_window (hsettled : Settled store generatedAt) :
    Covered (loadInventoryAlertAnalyticsWindow store generatedAt query) := by
  have hdays := normalizePeriodDays_le query.days
  set windowStartedAt := buildWindowStart generatedAt (normalizePeriodDays query.days) with hstart
  have hlogs : ∀ actions : List AlertAction, ∀ row ∈ findInventoryAlertLogs actions store
      ((loadInventoryAlerts store windowStartedAt query).map (·.notificationId)),
        windowStartedAt ≤ row.2.createdAt ∧ row.2.createdAt ≤ generatedAt := by
    intro actions row hrow
    obtain ⟨hstored, htype, hid, -⟩ := mem_findInventoryAlertLogs.mp hrow
    obtain ⟨alert, halert, hid⟩ := List.mem_map.mp hid
    obtain ⟨notification, hget, halertType, hcreated, hwindow⟩ := mem_loadInventoryAlerts halert
    have hafter := hsettled.after row hstored htype notification (hid ▸ hget) halertType
    exact ⟨hwindow.trans (hcreated ▸ hafter), hsettled.logs row hstored htype⟩
  refine ⟨fun i hi j hj hkeys => ?_, fun alert halert => ?_, fun log hlog => ?_, fun log hlog => ?_⟩
  · have hkeys : bucketKey windowStartedAt i = bucketKey windowStartedAt j := hkeys
    have hi := fourDigitYear_window hyear hdays hi
    have hj := fourDigitYear_window hyear hdays hj
    rw [hstart, buildWindowStart_eq hyear.1, bucketKey_midnight, bucketKey_midnight, dayText_eq hi,
      dayText_eq hj, dateText_inj hi hj] at hkeys
    omega
  · obtain ⟨record, hrecord, rfl⟩ := List.mem_map.mp halert
    obtain ⟨notification, hget, htype, hcreated, hwindow⟩ := mem_loadInventoryAlerts hrecord
    have hle := hsettled.alerts (_, notification) ((Table.mem_iff_get _).mpr hget) htype
    exact exists_bucket hyear hdays hwindow (hcreated ▸ hle)
  · obtain ⟨row, hrow, rfl⟩ := List.mem_map.mp hlog
    obtain ⟨hfirst, hlast⟩ := hlogs AlertRecords.lifecycleActions row hrow
    exact exists_bucket hyear hdays hfirst hlast
  · obtain ⟨row, hrow, rfl⟩ := List.mem_map.mp hlog
    obtain ⟨hfirst, hlast⟩ := hlogs [.reminderSent, .escalated] row hrow
    exact exists_bucket hyear hdays hfirst hlast

end Load

/-! ## What the overview adds up to -/

theorem measure_overview (measure : OverviewCounts → ℕ)
    {amount : ResolvedInventoryAlertReportRecord → ℕ} (hempty : measure {} = 0)
    (hadd : ∀ counts alert, measure (counts.add alert) = measure counts + amount alert)
    (alerts : List ResolvedInventoryAlertReportRecord) :
    measure (alerts.foldl OverviewCounts.add {}) = (alerts.map amount).sum := by
  rw [measure_foldl hadd, hempty, Nat.zero_add]

theorem attention_add (counts : KindCounts) (kind : InventoryAlertKind) :
    (counts.add kind).attentionAlertsCount =
      counts.attentionAlertsCount + if kind = .attention then 1 else 0 := by
  cases kind <;> rfl

theorem compensation_add (counts : KindCounts) (kind : InventoryAlertKind) :
    (counts.add kind).compensationAlertsCount =
      counts.compensationAlertsCount + if kind = .attention then 0 else 1 := by
  cases kind <;> rfl

theorem resolved_add (counts : StatusCounts) (status : InventoryAlertStatus) :
    (counts.add status).resolvedAlertsCount =
      counts.resolvedAlertsCount + if status = .resolved then 1 else 0 := by
  cases status <;> rfl

theorem dismissed_add (counts : StatusCounts) (status : InventoryAlertStatus) :
    (counts.add status).dismissedAlertsCount =
      counts.dismissedAlertsCount + if status = .dismissed then 1 else 0 := by
  cases status <;> rfl

/-- Each kind of follow-up is counted by itself. -/
theorem foldl_followUps {measure : FollowUpCounts → ℕ} {action : AlertAction}
    (hadd : ∀ counts log, measure (FollowUpCounts.add counts log) =
      measure counts + if log.action = action then 1 else 0) (logs : List AlertLog)
    (counts : FollowUpCounts) : measure (logs.foldl FollowUpCounts.add counts) =
      measure counts + logs.countP (·.action = action) := by
  rw [measure_foldl hadd, sum_map_one_iff]

theorem reminder_add (counts : FollowUpCounts) (log : AlertLog) :
    (counts.add log).reminderCount =
      counts.reminderCount + if log.action = .reminderSent then 1 else 0 := by
  unfold FollowUpCounts.add
  cases log.action <;> rfl

theorem escalation_add (counts : FollowUpCounts) (log : AlertLog) :
    (counts.add log).escalationCount =
      counts.escalationCount + if log.action = .escalated then 1 else 0 := by
  unfold FollowUpCounts.add
  cases log.action <;> rfl

/-! ## Alerts and their logs -/

section Logs

variable (store : AlertStore) (generatedAt : Date) (query : ListAdminInventoryAlertReportQueryDto)

/-- The alerts' own logs are all of them. -/
theorem sum_followUpLogs (p : AlertLog → Bool) :
    ((loadInventoryAlertAnalyticsWindow store generatedAt query).alerts.map fun alert =>
        alert.followUpLogs.countP p).sum =
      (loadInventoryAlertAnalyticsWindow store generatedAt query).followUpLogs.countP p := by
  set alerts := loadInventoryAlerts store
    (buildWindowStart generatedAt (normalizePeriodDays query.days)) query with halerts
  set logs := (findInventoryAlertFollowUpLogs store (alerts.map (·.notificationId))).map Prod.snd
    with hlogs
  have hown : ∀ id, ((buildFollowUpLogMap logs).get id).getD [] =
      logs.filter (·.resourceId = id) := by
    intro id
    have hmembers : ((buildFollowUpLogMap logs).get id).elim [] (fun list => list) =
        logs.filter (·.resourceId = id) :=
      members_get_grouped (fun list : List AlertLog => list) (fun _ => rfl) (fun _ _ => rfl) logs id
    rw [← hmembers]
    cases (buildFollowUpLogMap logs).get id <;> rfl
  have hids : ∀ log ∈ logs, log.resourceId ∈ alerts.map (·.notificationId) := by
    intro log hlog
    obtain ⟨row, hrow, rfl⟩ := List.mem_map.mp hlog
    exact (mem_findInventoryAlertLogs.mp hrow).2.2.1
  change ((alerts.map _).map _).sum = logs.countP p
  rw [← sum_countP_filter (nodup_loadInventoryAlerts _) hids p, List.map_map, List.map_map]
  refine congrArg List.sum (List.map_congr_left fun alert _ => ?_)
  exact congrArg (List.countP p) (hown alert.notificationId)

/-- An alert with a status has a log of the status. -/
theorem countP_status_le {status : InventoryAlertStatus} {action : AlertAction}
    (hstatus : ∀ log, AlertRecords.resolveInventoryAlertStatus log = status →
      ∃ newest, log = some newest ∧ newest.action = action) :
    (loadInventoryAlertAnalyticsWindow store generatedAt query).alerts.countP
        (·.status = status) ≤
      (loadInventoryAlertAnalyticsWindow store generatedAt query).lifecycleLogs.countP
        (·.action = action) := by
  set alerts := loadInventoryAlerts store
    (buildWindowStart generatedAt (normalizePeriodDays query.days)) query with halerts
  set rows := findInventoryAlertLifecycleLogs store (alerts.map (·.notificationId)) with hrows
  have hids : ∀ log ∈ rows.map Prod.snd, log.resourceId ∈ alerts.map (·.notificationId) := by
    intro log hlog
    obtain ⟨row, hrow, rfl⟩ := List.mem_map.mp hlog
    exact (mem_findInventoryAlertLogs.mp hrow).2.2.1
  -- the log that gives an alert its status is one of the alert's own
  have hown : ∀ id : Id, (if AlertRecords.resolveInventoryAlertStatus
      ((buildLatestLifecycleLogMap rows).get id) = status then 1 else 0) ≤
        ((rows.map Prod.snd).filter (·.resourceId = id)).countP (·.action = action) := by
    intro id
    split
    case isFalse => exact Nat.zero_le _
    case isTrue h =>
      obtain ⟨newest, hget, haction⟩ := hstatus _ h
      rw [buildLatestLifecycleLogMap, get_buildLatestLogMap, Option.map_eq_some_iff] at hget
      obtain ⟨row, hfind, rfl⟩ := hget
      have hmem : row.2 ∈ (rows.map Prod.snd).filter (·.resourceId = id) :=
        List.mem_filter.mpr ⟨List.mem_map_of_mem (List.mem_of_find?_eq_some hfind),
          by simpa using List.find?_some hfind⟩
      exact List.countP_pos_iff.mpr ⟨row.2, hmem, by simpa using haction⟩
  change (alerts.map _).countP _ ≤ (rows.map Prod.snd).countP _
  rw [List.countP_map, ← sum_countP_filter (nodup_loadInventoryAlerts _) hids, List.map_map]
  have hcount := sum_map_one_iff (fun alert : InventoryAlertReportRecord =>
    AlertRecords.resolveInventoryAlertStatus
      ((buildLatestLifecycleLogMap rows).get alert.notificationId) = status) alerts
  exact hcount.symm.trans_le (List.sum_le_sum fun alert _ => hown alert.notificationId)

end Logs

/-! ## The reports agree -/

/-- What the buckets of a window add up to, field by field. -/
structure BucketsAddUp (window : AnalyticsWindow) : Prop where
  created : (countWindow window).total (·.createdAlertsCount) = window.alerts.length
  attention : (countWindow window).total (·.attentionAlertsCount) =
    (window.alerts.map fun alert => if alert.metadata.alertKind = .attention then 1 else 0).sum
  compensation : (countWindow window).total (·.compensationAlertsCount) =
    (window.alerts.map fun alert => if alert.metadata.alertKind = .attention then 0 else 1).sum
  unread : (countWindow window).total (·.unreadMerchantAlertsCount) =
    (window.alerts.map fun alert => if alert.readAt = none then 1 else 0).sum
  resolved : (countWindow window).total (·.resolvedCount) =
    window.lifecycleLogs.countP (·.action = .resolved)
  dismissed : (countWindow window).total (·.dismissedCount) =
    window.lifecycleLogs.countP (·.action = .dismissed)
  reminders : (countWindow window).total (·.reminderCount) =
    window.followUpLogs.countP (·.action = .reminderSent)
  escalations : (countWindow window).total (·.escalationCount) =
    window.followUpLogs.countP (·.action = .escalated)

theorem Covered.bucketsAddUp {window : AnalyticsWindow} (hcovered : Covered window) :
    BucketsAddUp window := by
  have hlength : (window.alerts.map fun _ => 1).sum = window.alerts.length := by simp
  refine ⟨hlength ▸ total_ofAlerts hcovered ?_ ?_ ?_ ?_, total_ofAlerts hcovered ?_ ?_ ?_ ?_,
    total_ofAlerts hcovered ?_ ?_ ?_ ?_, total_ofAlerts hcovered ?_ ?_ ?_ ?_,
    total_ofLifecycleLogs hcovered ?_ ?_ ?_ ?_, total_ofLifecycleLogs hcovered ?_ ?_ ?_ ?_,
    total_ofFollowUpLogs hcovered ?_ ?_ ?_ ?_, total_ofFollowUpLogs hcovered ?_ ?_ ?_ ?_⟩
  all_goals
    intros
    simp only [countLifecycleLog_eq, countFollowUpLog_eq, countAlert]

/-- What the loop of the overview adds up to. -/
structure CountsAddUp (alerts : List ResolvedInventoryAlertReportRecord) (counts : OverviewCounts) :
    Prop where
  attention : counts.kindCounts.attentionAlertsCount =
    (alerts.map fun alert => if alert.metadata.alertKind = .attention then 1 else 0).sum
  compensation : counts.kindCounts.compensationAlertsCount =
    (alerts.map fun alert => if alert.metadata.alertKind = .attention then 0 else 1).sum
  unread : counts.unreadMerchantAlertsCount =
    (alerts.map fun alert => if alert.readAt = none then 1 else 0).sum
  resolved : counts.statusCounts.resolvedAlertsCount = alerts.countP (·.status = .resolved)
  dismissed : counts.statusCounts.dismissedAlertsCount = alerts.countP (·.status = .dismissed)
  reminders : counts.followUpCounts.reminderCount =
    (alerts.map fun alert => alert.followUpLogs.countP (·.action = .reminderSent)).sum
  escalations : counts.followUpCounts.escalationCount =
    (alerts.map fun alert => alert.followUpLogs.countP (·.action = .escalated)).sum
  kinds : counts.kindCounts.attentionAlertsCount + counts.kindCounts.compensationAlertsCount =
    alerts.length
  statuses : counts.statusCounts.openAlertsCount + counts.statusCounts.acknowledgedAlertsCount +
    counts.statusCounts.resolvedAlertsCount + counts.statusCounts.dismissedAlertsCount =
      alerts.length
  resourceTypes : counts.resourceTypeCounts.menuItemAlertsCount +
    counts.resourceTypeCounts.itemOptionAlertsCount = alerts.length

theorem countsAddUp (alerts : List ResolvedInventoryAlertReportRecord) :
    CountsAddUp alerts (alerts.foldl OverviewCounts.add {}) := by
  have hlength : (alerts.map fun _ => 1).sum = alerts.length := by simp
  refine ⟨measure_overview (·.kindCounts.attentionAlertsCount) rfl ?_ alerts,
    measure_overview (·.kindCounts.compensationAlertsCount) rfl ?_ alerts,
    measure_overview (·.unreadMerchantAlertsCount) rfl ?_ alerts, ?_, ?_,
    measure_overview (·.followUpCounts.reminderCount) rfl ?_ alerts,
    measure_overview (·.followUpCounts.escalationCount) rfl ?_ alerts,
    hlength ▸ measure_overview (fun counts => counts.kindCounts.attentionAlertsCount +
      counts.kindCounts.compensationAlertsCount) rfl ?_ alerts,
    hlength ▸ measure_overview (fun counts => counts.statusCounts.openAlertsCount +
      counts.statusCounts.acknowledgedAlertsCount + counts.statusCounts.resolvedAlertsCount +
        counts.statusCounts.dismissedAlertsCount) rfl ?_ alerts,
    hlength ▸ measure_overview (fun counts => counts.resourceTypeCounts.menuItemAlertsCount +
      counts.resourceTypeCounts.itemOptionAlertsCount) rfl ?_ alerts⟩
  · exact fun counts alert => attention_add counts.kindCounts alert.metadata.alertKind
  · exact fun counts alert => compensation_add counts.kindCounts alert.metadata.alertKind
  · exact fun _ _ => rfl
  · rw [← sum_map_one_iff]
    exact measure_overview (·.statusCounts.resolvedAlertsCount) rfl
      (fun counts alert => resolved_add counts.statusCounts alert.status) alerts
  · rw [← sum_map_one_iff]
    exact measure_overview (·.statusCounts.dismissedAlertsCount) rfl
      (fun counts alert => dismissed_add counts.statusCounts alert.status) alerts
  · exact fun counts alert =>
      foldl_followUps reminder_add alert.followUpLogs counts.followUpCounts
  · exact fun counts alert =>
      foldl_followUps escalation_add alert.followUpLogs counts.followUpCounts
  · intro counts alert
    simp only [OverviewCounts.add]
    cases alert.metadata.alertKind <;> simp only [KindCounts.add] <;> omega
  · intro counts alert
    simp only [OverviewCounts.add]
    cases alert.status <;> simp only [StatusCounts.add] <;> omega
  · intro counts alert
    simp only [OverviewCounts.add]
    cases alert.metadata.resourceType <;> simp only [ResourceTypeCounts.add] <;> omega

theorem resolved_of_status (log : Option AlertLog)
    (h : AlertRecords.resolveInventoryAlertStatus log = .resolved) :
    ∃ newest, log = some newest ∧ newest.action = .resolved := by
  cases log with
  | none => cases h
  | some newest =>
    refine ⟨newest, rfl, ?_⟩
    rw [AlertRecords.resolveInventoryAlertStatus, Option.map_some] at h
    cases haction : newest.action <;> simp [haction] at h ⊢

theorem dismissed_of_status (log : Option AlertLog)
    (h : AlertRecords.resolveInventoryAlertStatus log = .dismissed) :
    ∃ newest, log = some newest ∧ newest.action = .dismissed := by
  cases log with
  | none => cases h
  | some newest =>
    refine ⟨newest, rfl, ?_⟩
    rw [AlertRecords.resolveInventoryAlertStatus, Option.map_some] at h
    cases haction : newest.action <;> simp [haction] at h ⊢

section Agree

theorem length_trendsOf (window : AnalyticsWindow) :
    (trendsOf window).buckets.length = (countWindow window).entries.length := List.length_map _

theorem sumOf_trendsOf (window : AnalyticsWindow)
    (field : AdminInventoryAlertTrendBucketDto → ℕ) :
    sumOf (trendsOf window) field = (countWindow window).total field := by
  rw [sumOf, trendsOf, List.map_map]
  rfl

variable (localeCompare : String → String → Ordering) {store : AlertStore} {generatedAt : Date}
  {currentUser : AuthenticatedUser} {query : ListAdminInventoryAlertReportQueryDto}

variable (query) in
/-- The dates are those of the days up to the report's. -/
theorem dates_trendsOf (hsettled : Settled store generatedAt)
    (hyear : 100 ≤ getUTCFullYear generatedAt ∧ getUTCFullYear generatedAt ≤ 9999) :
    (trendsOf (loadInventoryAlertAnalyticsWindow store generatedAt query)).buckets.map (·.date) =
      (List.range (normalizePeriodDays query.days)).map fun offset : ℕ =>
        dayText (dayOf generatedAt - (normalizePeriodDays query.days - 1) + offset) := by
  have hdates := dates_countWindow (covered_window query hyear hsettled)
  rw [trendsOf, List.map_map]
  refine hdates.trans (List.map_congr_left fun offset _ => ?_)
  rw [← bucketKey_midnight, ← buildWindowStart_eq hyear.1]
  rfl

theorem reportsAgree_window (hsettled : Settled store generatedAt)
    (hyear : 100 ≤ getUTCFullYear generatedAt ∧ getUTCFullYear generatedAt ≤ 9999) :
    ReportsAgree
      (overviewOf localeCompare (loadInventoryAlertAnalyticsWindow store generatedAt query))
      (trendsOf (loadInventoryAlertAnalyticsWindow store generatedAt query)) generatedAt
      (normalizePeriodDays query.days) := by
  have hdates := dates_trendsOf query hsettled hyear
  have hbuckets := (covered_window query hyear hsettled).bucketsAddUp
  have hreminders := sum_followUpLogs store generatedAt query (·.action = .reminderSent)
  have hescalations := sum_followUpLogs store generatedAt query (·.action = .escalated)
  have hresolved := countP_status_le store generatedAt query resolved_of_status
  have hdismissed := countP_status_le store generatedAt query dismissed_of_status
  set window := loadInventoryAlertAnalyticsWindow store generatedAt query
  have hcounts := countsAddUp window.alerts
  refine ⟨hdates, ?_, ?_, ?_, ?_, ?_, ?_, ?_, ?_, hcounts.kinds, hcounts.statuses,
    hcounts.resourceTypes⟩
  all_goals rw [sumOf_trendsOf]
  · exact hbuckets.created
  · exact hbuckets.attention.trans hcounts.attention.symm
  · exact hbuckets.compensation.trans hcounts.compensation.symm
  · exact hbuckets.unread.trans hcounts.unread.symm
  · exact hbuckets.reminders.trans (hcounts.reminders.trans hreminders).symm
  · exact hbuckets.escalations.trans (hcounts.escalations.trans hescalations).symm
  · exact (hcounts.resolved.trans_le hresolved).trans_eq hbuckets.resolved.symm
  · exact (hcounts.dismissed.trans_le hdismissed).trans_eq hbuckets.dismissed.symm

/-- **The trends add up to the overview.** -/
theorem reports_agree (hsettled : Settled store generatedAt)
    (hyear : 100 ≤ getUTCFullYear generatedAt ∧ getUTCFullYear generatedAt ≤ 9999)
    (hadmin : currentUser.role = .admin) {days : ℕ} (hdays : 1 ≤ days ∧ days ≤ 30)
    (hquery : query.days = some (days : ℤ)) :
    ∃ overview trends,
      getInventoryAlertOverview localeCompare store generatedAt currentUser query = .ok overview ∧
      getInventoryAlertTrends store generatedAt currentUser query = .ok trends ∧
      ReportsAgree overview trends generatedAt days := by
  have hperiod : normalizePeriodDays query.days = days := by
    rw [hquery, normalizePeriodDays, Option.elim_some, adminInventoryAlertReportMaxDays]
    omega
  rw [getInventoryAlertOverview, getInventoryAlertTrends, assertAdmin, if_pos hadmin]
  exact ⟨_, _, rfl, rfl, hperiod ▸ reportsAgree_window localeCompare hsettled hyear⟩

end Agree

/-- An alert about tea that has run out, a reminder of it and that it was resolved. -/
def soldOutStore : AlertStore where
  notifications := ⟨[(1, {
    user := ⟨10, "09-100"⟩
    type := .systemAlert
    title := "Tea is out of stock"
    metadataJson := .object [("resourceType", .string "MENU_ITEM"), ("resourceId", .string "60"),
      ("resourceLabel", .string "Tea"), ("attentionLevel", .string "OUT_OF_STOCK"),
      ("branchId", .string "1")]
    createdAt := 5000 })], by decide⟩
  logs := ⟨[(2, ⟨.reminderSent, .notification, 1, 90000000⟩),
    (3, ⟨.resolved, .notification, 1, 180000000⟩)], by decide⟩

theorem settled_soldOutStore : Settled soldOutStore 200000000 := by
  refine ⟨by decide, by decide, fun row hrow _ notification hget _ => ?_⟩
  have hresource : ∀ row ∈ soldOutStore.logs.entries,
      row.2.resourceId = 1 ∧ 5000 ≤ row.2.createdAt := by decide
  obtain ⟨hid, hcreated⟩ := hresource row hrow
  rw [hid] at hget
  obtain rfl := Option.some.inj hget
  exact hcreated

def reportsAdmin : AuthenticatedUser := ⟨30, .admin, none, none, none, false⟩

theorem reports_agree_soldOutStore : ∃ overview trends,
    getInventoryAlertOverview (fun _ _ => .eq) soldOutStore 200000000 reportsAdmin
      { days := some 7 } = .ok overview ∧
    getInventoryAlertTrends soldOutStore 200000000 reportsAdmin { days := some 7 } = .ok trends ∧
    ReportsAgree overview trends 200000000 7 :=
  reports_agree (fun _ _ => .eq) settled_soldOutStore (by decide +kernel) rfl (by decide) rfl

/-- The fifteenth of January 10000. -/
def lateJanuary : Date := (dayFromYear 10000 + 14) * 86400000

/-- **With five digits in the year a month's days are one bucket.** -/
theorem reports_disagree : ¬ ∀ (localeCompare : String → String → Ordering) (store : AlertStore)
    (generatedAt : Date) (currentUser : AuthenticatedUser)
    (query : ListAdminInventoryAlertReportQueryDto) (days : ℕ), Settled store generatedAt →
      currentUser.role = .admin → 1 ≤ days ∧ days ≤ 30 → query.days = some (days : ℤ) →
        ∃ overview trends,
          getInventoryAlertOverview localeCompare store generatedAt currentUser query =
            .ok overview ∧
          getInventoryAlertTrends store generatedAt currentUser query = .ok trends ∧
          ReportsAgree overview trends generatedAt days := by
  intro h
  have hsettled : Settled ⟨.empty, .empty⟩ lateJanuary :=
    ⟨fun _ hrow => absurd hrow List.not_mem_nil, fun _ hrow => absurd hrow List.not_mem_nil,
      fun _ hrow => absurd hrow List.not_mem_nil⟩
  obtain ⟨overview, trends, -, htrends, hagree⟩ := h (fun _ _ => .eq) ⟨.empty, .empty⟩ lateJanuary
    reportsAdmin { days := some 2 } 2 hsettled rfl (by decide) rfl
  obtain rfl : trendsOf _ = trends := Except.ok.inj htrends
  have hone : (countWindow (loadInventoryAlertAnalyticsWindow ⟨.empty, .empty⟩ lateJanuary
      { days := some 2 })).entries.length = 1 := by decide +kernel
  have hlength := congrArg List.length hagree.dates
  rw [List.length_map, List.length_map, List.length_range, length_trendsOf] at hlength
  exact absurd (hone.symm.trans hlength) (by decide)

end WerTe.AdminReportsService
