import Mathlib.Data.Prod.Lex
import WerTe.InventoryAlerts
import WerTe.Keyed.Table
import WerTe.Paged.Cursor
import WerTe.RestockSuggestions

/-!
# Alerts as they are reported on

What the digests and the administrators' reports read of inventory alerts: the notifications, with
whatever metadata they have, and the audit logs of what has become of them and of what has been
sent after them.

Both go by an alert's newest lifecycle log, which they find in the list of those of all the alerts
(`latestLog_find`).
-/

namespace WerTe.AlertRecords

open Keyed Paged
open MerchantInventoryReadService (AuditResourceType)

/-! ## `admin-inventory-alert-notification.entity.ts` -/

/-- What is stored as JSON. -/
inductive Json
  | null
  | boolean (value : Bool)
  | number (value : ℚ)
  | string (value : String)
  | array (items : List Json)
  | object (fields : List (String × Json))

structure AdminInventoryAlertMetadata where
  alertKind : InventoryAlertKind
  branchId : Option String
  branchName : Option String
  resourceType : InventoryResourceType
  resourceId : String
  resourceLabel : String
  menuItemName : Option String
  attentionLevel : Option InventoryAttentionLevel
  stockQuantity : Option ℚ
  lowStockThreshold : Option ℚ
  restoredQuantity : Option ℚ
  orderId : Option String
  orderCode : Option String
  reasonCode : Option String
deriving DecidableEq

def readOptionalString : Option Json → Option String
  | some (.string value) => normalizeOptionalString (some value)
  | _ => none

def readOptionalNumber : Option Json → Option ℚ
  | some (.number value) => some value
  | _ => none

def readAlertKind : Option Json → InventoryAlertKind
  | some (.string "COMPENSATION") => .compensation
  | _ => .attention

def readResourceType : Option Json → Option InventoryResourceType
  | some (.string "MENU_ITEM") => some .menuItem
  | some (.string "ITEM_OPTION") => some .itemOption
  | _ => none

def readAttentionLevel : Option Json → Option InventoryAttentionLevel
  | some (.string "LOW_STOCK") => some .lowStock
  | some (.string "OUT_OF_STOCK") => some .outOfStock
  | _ => none

/-- An object's fields; other metadata is no alert's. -/
def readAdminInventoryAlertMetadata (type : NotificationType) (metadataJson : Json) :
    Option AdminInventoryAlertMetadata :=
  match type, metadataJson with
  | .systemAlert, .object metadata => do
    let alertKind := readAlertKind (metadata.lookup "alertKind")
    let resourceType ← readResourceType (metadata.lookup "resourceType")
    let resourceId ← readOptionalString (metadata.lookup "resourceId")
    let resourceLabel ← readOptionalString (metadata.lookup "resourceLabel")
    let attentionLevel := readAttentionLevel (metadata.lookup "attentionLevel")
    let restoredQuantity := readOptionalNumber (metadata.lookup "restoredQuantity")
    guard (alertKind = .attention → attentionLevel ≠ none)
    guard (alertKind = .compensation → ∃ quantity ∈ restoredQuantity, 0 < quantity)
    return {
      alertKind, resourceType, resourceId, resourceLabel, restoredQuantity
      branchId := readOptionalString (metadata.lookup "branchId")
      branchName := readOptionalString (metadata.lookup "branchName")
      menuItemName := readOptionalString (metadata.lookup "menuItemName")
      attentionLevel := if alertKind = .attention then attentionLevel else none
      stockQuantity := readOptionalNumber (metadata.lookup "stockQuantity")
      lowStockThreshold := readOptionalNumber (metadata.lookup "lowStockThreshold")
      orderId := readOptionalString (metadata.lookup "orderId")
      orderCode := readOptionalString (metadata.lookup "orderCode")
      reasonCode := readOptionalString (metadata.lookup "reasonCode") }
  | _, _ => none

/-! ## What is stored -/

structure AlertUser where
  id : Id
  phone : String
deriving DecidableEq

/-- A notification with its user and its deliveries. -/
structure AlertNotification where
  user : AlertUser
  type : NotificationType
  title : String
  metadataJson : Json
  createdAt : Date
  readAt : Option Date := none
  deliveries : List (NotificationChannel × NotificationDeliveryStatus) := []

def AlertNotification.metadata (notification : AlertNotification) :
    Option AdminInventoryAlertMetadata :=
  readAdminInventoryAlertMetadata notification.type notification.metadataJson

/-- The texts `inventory_alerts.acknowledged`, `resolved`, `dismissed`, `reminder_sent` and
`escalated`. -/
inductive AlertAction
  | acknowledged | resolved | dismissed | reminderSent | escalated | other
deriving DecidableEq

structure AlertLog where
  action : AlertAction
  resourceType : AuditResourceType
  resourceId : Id
  createdAt : Date
deriving DecidableEq

structure AlertStore where
  notifications : Table Id AlertNotification
  logs : Table Id AlertLog

/-- A row's place in the order: by its time, and by its id. -/
def position {α : Type} (createdAt : α → Date) (row : Id × α) : ℤ ×ₗ ℕ :=
  toLex (createdAt row.2, row.1)

def newestFirst {α : Type} (createdAt : α → Date) (rows : List (Id × α)) : List (Id × α) :=
  rows.insertionSort fun left right => position createdAt right ≤ position createdAt left

/-! ## `audit.repository.ts` -/

/-- The log is about the notification, and of one of the kinds. -/
def AlertLog.isAbout (actions : List AlertAction) (notificationId : Id) (log : AlertLog) : Bool :=
  log.resourceType == .notification && log.resourceId == notificationId &&
    actions.contains log.action

def findInventoryAlertLogs (actions : List AlertAction) (store : AlertStore)
    (notificationIds : List Id) : List (Id × AlertLog) :=
  newestFirst (·.createdAt) (store.logs.entries.filter fun row =>
    row.2.resourceType == .notification && notificationIds.contains row.2.resourceId &&
      actions.contains row.2.action)

def lifecycleActions : List AlertAction := [.acknowledged, .resolved, .dismissed]

def findInventoryAlertLifecycleLogs : AlertStore → List Id → List (Id × AlertLog) :=
  findInventoryAlertLogs lifecycleActions

def findInventoryAlertFollowUpLogs : AlertStore → List Id → List (Id × AlertLog) :=
  findInventoryAlertLogs [.reminderSent, .escalated]

/-! ## Maps of the newest logs -/

/-- `buildLatestLifecycleLogMap`; the first log of a notification stays. -/
def buildLatestLogMap (logs : List (Id × AlertLog)) : Table Id AlertLog :=
  logs.foldl (fun latest row => if (latest.get row.2.resourceId).isSome then latest
    else latest.set row.2.resourceId row.2) .empty

def buildLatestLifecycleLogMap : List (Id × AlertLog) → Table Id AlertLog := buildLatestLogMap

def buildLatestActionLogMap (logs : List (Id × AlertLog)) (action : AlertAction) :
    Table Id AlertLog :=
  buildLatestLogMap (logs.filter (·.2.action == action))

def resolveInventoryAlertStatus (lifecycleLog : Option AlertLog) : InventoryAlertStatus :=
  match lifecycleLog.map AlertLog.action with
  | some .dismissed => .dismissed
  | some .resolved => .resolved
  | some .acknowledged => .acknowledged
  | _ => .opened

/-! ## An alert's newest log -/

/-- The newest of the notification's logs of some kinds. -/
def latestLog (actions : List AlertAction) (store : AlertStore) (notificationId : Id) :
    Option AlertLog :=
  ((newestFirst (·.createdAt) (store.logs.entries.filter fun row =>
    row.2.isAbout actions notificationId)).head?).map Prod.snd

def alertStatus (store : AlertStore) (notificationId : Id) : InventoryAlertStatus :=
  resolveInventoryAlertStatus (latestLog lifecycleActions store notificationId)

section

variable {α : Type} (createdAt : α → Date)

theorem descending_newestFirst {rows : List (Id × α)} (hids : (rows.map Prod.fst).Nodup) :
    Descending (position createdAt) (newestFirst createdAt rows) := by
  refine descending_insertionSort ?_
  refine (List.Nodup.of_map Prod.fst hids).map_on fun a ha b hb hposition => ?_
  exact List.inj_on_of_nodup_map hids ha hb (congrArg (fun p => (ofLex p).2) hposition)

theorem mem_newestFirst {rows : List (Id × α)} {row : Id × α} :
    row ∈ newestFirst createdAt rows ↔ row ∈ rows :=
  (List.perm_insertionSort _ _).mem_iff

variable {createdAt}

theorem nodup_filter (t : Table Id α) (p : Id × α → Bool) :
    ((t.entries.filter p).map Prod.fst).Nodup :=
  t.nodup.sublist (List.filter_sublist.map _)

/-- Rows that are left out of a sorted list may as well be left out before. -/
theorem filter_newestFirst (t : Table Id α) (p q : Id × α → Bool) :
    (newestFirst createdAt (t.entries.filter p)).filter q =
      newestFirst createdAt (t.entries.filter fun row => p row && q row) := by
  have hleft := (descending_newestFirst createdAt (nodup_filter t p)).filter q
  refine hleft.ext (descending_newestFirst createdAt (nodup_filter t _)) fun row => ?_
  simp only [List.mem_filter, mem_newestFirst, Bool.and_eq_true, and_assoc]

/-- The newest row comes first. -/
theorem position_le_of_head {rows : List (Id × α)} (hids : (rows.map Prod.fst).Nodup)
    {first row : Id × α} (hfirst : (newestFirst createdAt rows).head? = some first)
    (hrow : row ∈ rows) : position createdAt row ≤ position createdAt first := by
  have hdescending := descending_newestFirst createdAt hids
  have hmem := (mem_newestFirst createdAt).mpr hrow
  rcases hrows : newestFirst createdAt rows with _ | ⟨newest, rest⟩
  · rw [hrows] at hmem
    cases hmem
  · rw [hrows] at hfirst hdescending hmem
    obtain rfl := Option.some.inj hfirst
    rcases List.mem_cons.mp hmem with rfl | hrest
    · exact le_rfl
    · exact ((List.pairwise_cons.mp hdescending).1 row hrest).le

end

theorem get_buildLatestLogMap (logs : List (Id × AlertLog)) (notificationId : Id) :
    (buildLatestLogMap logs).get notificationId =
      (logs.find? (·.2.resourceId == notificationId)).map Prod.snd := by
  suffices h : ∀ latest : Table Id AlertLog,
      (logs.foldl (fun latest row => if (latest.get row.2.resourceId).isSome then latest
        else latest.set row.2.resourceId row.2) latest).get notificationId =
      (latest.get notificationId).or
        ((logs.find? (·.2.resourceId == notificationId)).map Prod.snd) by
    exact (h .empty).trans (Option.none_or ..)
  induction logs with
  | nil => exact fun latest => (Option.or_none ..).symm
  | cons row logs ih =>
    intro latest
    rw [List.foldl_cons, ih]
    by_cases hrow : row.2.resourceId = notificationId
    · subst hrow
      rw [List.find?_cons_of_pos (by simp)]
      rcases hlatest : latest.get row.2.resourceId with _ | log
      · simp [Table.get_set_self]
      · simp [hlatest]
    · rw [List.find?_cons_of_neg (by simpa using hrow)]
      split
      · rfl
      · rw [Table.get_set_ne _ (Ne.symm hrow)]

/-- **What is found in the list of all the alerts' logs** is the alert's newest. -/
theorem latestLog_find (actions : List AlertAction) (store : AlertStore)
    {notificationIds : List Id} {notificationId : Id} (h : notificationId ∈ notificationIds) :
    (buildLatestLogMap (findInventoryAlertLogs actions store notificationIds)).get notificationId =
      latestLog actions store notificationId := by
  rw [get_buildLatestLogMap, findInventoryAlertLogs, ← List.head?_filter, filter_newestFirst,
    latestLog]
  congr 3
  refine List.filter_congr fun row _ => ?_
  by_cases hrow : row.2.resourceId = notificationId
  · simp [AlertLog.isAbout, hrow, h]
  · simp [AlertLog.isAbout, beq_eq_false_iff_ne.mpr hrow]

/-- Among the logs of several actions, those of one are found. -/
theorem latestActionLog_find {actions : List AlertAction} {action : AlertAction}
    (haction : action ∈ actions) (store : AlertStore) {notificationIds : List Id}
    {notificationId : Id} (h : notificationId ∈ notificationIds) :
    (buildLatestActionLogMap (findInventoryAlertLogs actions store notificationIds) action).get
      notificationId = latestLog [action] store notificationId := by
  rw [← latestLog_find [action] store h, buildLatestActionLogMap, findInventoryAlertLogs,
    filter_newestFirst, findInventoryAlertLogs]
  congr 3
  refine List.filter_congr fun row _ => ?_
  by_cases hrow : row.2.action = action
  · simp [hrow, haction]
  · simp [hrow]

/-- The newest log is from some time on as soon as one is. -/
theorem latestLog_any {actions : List AlertAction} {store : AlertStore} {notificationId : Id}
    {since : Date} :
    (latestLog actions store notificationId).any (fun log => decide (since ≤ log.createdAt)) =
        true ↔
      ∃ row ∈ store.logs.entries, row.2.isAbout actions notificationId = true ∧
        since ≤ row.2.createdAt := by
  set logs := store.logs.entries.filter fun row => row.2.isAbout actions notificationId with hlogs
  have hmem : ∀ row, row ∈ logs ↔
      row ∈ store.logs.entries ∧ row.2.isAbout actions notificationId = true := by simp [hlogs]
  rw [latestLog, ← hlogs]
  constructor
  · intro h
    cases hfirst : (newestFirst (·.createdAt) logs).head? with
    | none => simp [hfirst] at h
    | some first =>
      have hstored := (hmem first).mp ((mem_newestFirst _).mp (List.mem_of_mem_head? hfirst))
      exact ⟨first, hstored.1, hstored.2, by simpa [hfirst] using h⟩
  · rintro ⟨row, hrow, habout, hsince⟩
    have hrow := (hmem row).mpr ⟨hrow, habout⟩
    cases hfirst : (newestFirst (·.createdAt) logs).head? with
    | none =>
      rw [List.head?_eq_none_iff] at hfirst
      have hmem := (mem_newestFirst (·.createdAt)).mpr hrow
      simp [hfirst] at hmem
    | some first =>
      have hle := position_le_of_head (nodup_filter ..) hfirst hrow
      simpa using hsince.trans (Prod.Lex.toLex_le_toLex'.mp hle).1

end WerTe.AlertRecords
