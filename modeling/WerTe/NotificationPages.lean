import WerTe.AlertLifecycle
import WerTe.NotificationCenter
import WerTe.ReadCommitted.Interference

/-!
# Following the cursor

The service's pages are put together from the repository's. Both hand out cursors: the repository's
is the last notification of a block, the service's is the last one of a page, which may stand in the
middle of a block. Either way what is still to come is what stands after the cursor in the order, as
long as the cursor's notification is among those that are asked for.

* `collect_among`: the service's loop is the scan of what comes after the cursor
* `page_among`: what a page holds, while others change notifications that stand before the cursor
* `pages_exact`: all pages together
-/

namespace WerTe.NotificationsService

open ReadCommitted NotificationsRepository

/-! ## The order -/

section Order

variable {db : Store} {userId : Id} {type : Option NotificationType} {unreadOnly : Bool}

/-- The repository asks for the notification. -/
structure Asked (userId : Id) (type : Option NotificationType) (unreadOnly : Bool)
    (notification : Notification) : Prop where
  user : notification.userId = userId
  type : ∀ asked ∈ type, notification.type = asked
  unread : unreadOnly = true → notification.readAt = none

theorem mem_selectByUserId {i : Id} {notification : Notification} :
    (i, notification) ∈ selectByUserId db userId type unreadOnly ↔
      db.get (.notification, i) = some notification ∧
        Asked userId type unreadOnly notification := by
  rw [selectByUserId, newestFirst, List.mem_insertionSort, Db.mem_list]
  refine and_congr_right fun _ => ?_
  constructor
  · intro h
    simp only [Bool.and_eq_true, beq_iff_eq, Bool.or_eq_true, Bool.not_eq_true',
      Option.isNone_iff_eq_none] at h
    refine ⟨h.1.1, fun asked hasked => ?_, fun hunread => ?_⟩
    · cases hasked
      have htype := h.1.2
      rw [Option.all_some, beq_iff_eq] at htype
      exact htype.symm
    · simpa [hunread] using h.2
  · rintro ⟨rfl, htype, hunread⟩
    cases type <;> cases unreadOnly <;> simp_all

theorem selectByUserId_descending (db : Store) (userId : Id) (type : Option NotificationType)
    (unreadOnly : Bool) :
    Paged.Descending position (selectByUserId db userId type unreadOnly) :=
  newestFirst_descending (Db.list_nodup db .notification _)

end Order

/-! ## What a notification is shown as -/

/-- The notification with its relations and its own logs. -/
def entityOf (db : Store) (row : Id × Notification) : NotificationCenterEntity :=
  buildNotificationCenterEntity (AuditRepository.findInventoryAlertAcknowledgementLogs db [row.1])
    (AuditRepository.findInventoryAlertLifecycleLogs db [row.1]) (notificationCenterInclude db row)

@[simp] theorem entityOf_id (db : Store) (row : Id × Notification) :
    (entityOf db row).id = row.1 := rfl

section Entities

variable {db db' : Store} {userId : Id}

/-- The newest log of an alert, among the logs that two queries list. -/
theorem latestLog_congr {p q : AuditLog → Bool} {i : Id}
    (h : ∀ log, log.resourceId = i → p log = q log) :
    AdminInventoryAlertsService.latestLog ((db.list .auditLog p).map Prod.snd) i =
      AdminInventoryAlertsService.latestLog ((db.list .auditLog q).map Prod.snd) i := by
  simp only [AdminInventoryAlertsService.latestLog, ← List.head?_filter, Db.list, List.filter_map,
    List.filter_filter]
  refine congrArg List.head? (congrArg _ (congrArg _ (List.filter_congr fun e _ => ?_)))
  by_cases hlog : e.2.resourceId = i
  · simp [h e.2 hlog]
  · have hother : (e.2.resourceId == i) = false := beq_eq_false_iff_ne.mpr hlog
    simp [hother]

/-- What is shown of a notification does not depend on which others are shown with it. -/
theorem buildNotificationCenterEntity_eq {ids : List Id} {row : Id × Notification}
    (hids : (readAdminInventoryAlertMetadata row.2).isSome = true → row.1 ∈ ids) :
    buildNotificationCenterEntity (AuditRepository.findInventoryAlertAcknowledgementLogs db ids)
      (AuditRepository.findInventoryAlertLifecycleLogs db ids) (notificationCenterInclude db row) =
        entityOf db row := by
  simp only [entityOf, buildNotificationCenterEntity, notificationCenterInclude]
  cases hmetadata : readAdminInventoryAlertMetadata row.2 with
  | none => rfl
  | some metadata =>
    have hmem : row.1 ∈ ids := hids (by rw [hmetadata]; rfl)
    have hacknowledgement : AdminInventoryAlertsService.latestLog
        (AuditRepository.findInventoryAlertAcknowledgementLogs db ids) row.1 =
          AdminInventoryAlertsService.latestLog
            (AuditRepository.findInventoryAlertAcknowledgementLogs db [row.1]) row.1 :=
      latestLog_congr fun log hlog => by simp [hlog, hmem]
    have hlifecycle : AdminInventoryAlertsService.latestLog
        (AuditRepository.findInventoryAlertLifecycleLogs db ids) row.1 =
          AdminInventoryAlertsService.latestLog
            (AuditRepository.findInventoryAlertLifecycleLogs db [row.1]) row.1 :=
      latestLog_congr fun log hlog => by simp [hlog, hmem]
    rw [hacknowledgement, hlifecycle]

/-- Only notifications are changed, and of these none that stands after the place. -/
structure ChangesBefore (place : Option (ℤ ×ₗ ℕ)) (db db' : Store) : Prop where
  same : Db.SameOn (· ≠ .notification) db db'
  kept : ∀ row : Id × Notification, (∀ k ∈ place, position row < k) →
    (db.get (.notification, row.1) = some row.2 ↔ db'.get (.notification, row.1) = some row.2)

theorem ChangesBefore.refl (place : Option (ℤ ×ₗ ℕ)) (db : Store) : ChangesBefore place db db :=
  ⟨.refl db, fun _ _ => Iff.rfl⟩

/-- Nothing is changed. -/
theorem ChangesBefore.of_eq (db db' : Store) (h : db = db') : ChangesBefore none db db' :=
  h ▸ .refl none db

theorem notificationCenterInclude_congr {place : Option (ℤ ×ₗ ℕ)} (h : ChangesBefore place db db')
    (row : Id × Notification) :
    notificationCenterInclude db' row = notificationCenterInclude db row := by
  simp only [notificationCenterInclude]
  congr 1 <;> refine congrArg _ (funext fun id => (h.same.get ?_).symm) <;> simp

theorem ChangesBefore.trans {place : Option (ℤ ×ₗ ℕ)} {db'' : Store}
    (h : ChangesBefore place db db') (h' : ChangesBefore place db' db'') :
    ChangesBefore place db db'' :=
  ⟨h.same.trans h'.same, fun row hrow => (h.kept row hrow).trans (h'.kept row hrow)⟩

/-- What stands after the place stays. -/
theorem ChangesBefore.after {place : Option (ℤ ×ₗ ℕ)} (h : ChangesBefore place db db')
    (type : Option NotificationType) (unreadOnly : Bool) :
    Paged.after position (selectByUserId db' userId type unreadOnly) place =
      Paged.after position (selectByUserId db userId type unreadOnly) place := by
  refine ((selectByUserId_descending db' userId type unreadOnly).after place).ext
    ((selectByUserId_descending db userId type unreadOnly).after place) ?_
  rintro ⟨i, notification⟩
  cases place with
  | none =>
    simp only [Paged.after, mem_selectByUserId]
    exact and_congr_left fun _ => (h.kept (i, notification) (by simp)).symm
  | some k =>
    simp only [Paged.after, List.mem_filter, mem_selectByUserId, decide_eq_true_eq]
    refine and_congr_left fun hk => and_congr_left fun _ => (h.kept (i, notification) ?_).symm
    simpa using hk

/-- The entities of a block, while others change notifications before the place. -/
theorem entities_among {α : Type} {place : Option (ℤ ×ₗ ℕ)} {R : Store → Store → Prop}
    (hR : ∀ db db', R db db' → ChangesBefore place db db')
    {f : List NotificationCenterEntity → StoreService α} {rows : List (Id × Notification)}
    {db₁ : Store} (hdb : ChangesBefore place db db₁) {r : Except Failure α}
    (h : ((buildNotificationCenterEntities (rows.map (notificationCenterInclude db))).bind f).Among
      R db₁ r db') :
    ∃ db₂, ChangesBefore place db db₂ ∧ (f (rows.map (entityOf db))).Among R db₂ r db' := by
  obtain ⟨db₂, hdb₂, db₃, hdb₃, hrest⟩ := h
  have hkept₂ := hdb.trans (hR _ _ hdb₂)
  refine ⟨db₃, hkept₂.trans (hR _ _ hdb₃), ?_⟩
  have hlog : Tbl.auditLog ≠ .notification := by decide
  have hentities : ∀ ids : List Id, (∀ row ∈ rows,
      (readAdminInventoryAlertMetadata row.2).isSome = true → row.1 ∈ ids) →
      (rows.map (notificationCenterInclude db)).map (buildNotificationCenterEntity
        (AuditRepository.findInventoryAlertAcknowledgementLogs db₁ ids)
        (AuditRepository.findInventoryAlertLifecycleLogs db₂ ids)) = rows.map (entityOf db) := by
    intro ids hids
    rw [AuditRepository.findInventoryAlertAcknowledgementLogs,
      AuditRepository.findInventoryAlertLifecycleLogs, ← hdb.same.list hlog,
      ← hkept₂.same.list hlog, List.map_map]
    exact List.map_congr_left fun row hrow => buildNotificationCenterEntity_eq (hids row hrow)
  rw [← hentities (((rows.map (notificationCenterInclude db)).filter fun record =>
    (readAdminInventoryAlertMetadata record.notification).isSome).map (·.id))]
  · exact hrest
  · intro row hrow halert
    refine List.mem_map.mpr ⟨notificationCenterInclude db row, List.mem_filter.mpr ⟨?_, halert⟩,
      rfl⟩
    exact List.mem_map_of_mem hrow

end Entities

/-! ## Blocks -/

/-- A page of the repository, by what comes after the cursor. -/
theorem listPageByUserId_eq {db : Store} {userId : Id} {type : Option NotificationType}
    {unreadOnly : Bool} {cursor : Option Id} {limit : ℕ} {rest : List (Id × Notification)}
    (hpos : 0 < limit) (hmax : limit ≤ 500)
    (hrest : afterCursor db (selectByUserId db userId type unreadOnly) cursor = rest) :
    listPageByUserId db userId limit type unreadOnly cursor =
      { records := (rest.take limit).map (notificationCenterInclude db)
        nextCursor := if limit < rest.length then (rest.take limit).getLast?.map (·.1) else none
        hasMore := decide (limit < rest.length) } := by
  have hbound : min (max limit 1) 500 = limit := by omega
  have hmore : limit < (rest.take (limit + 1)).length ↔ limit < rest.length := by
    rw [List.length_take]
    omega
  have hslice : (if limit < rest.length then (rest.take (limit + 1)).take limit
      else rest.take (limit + 1)) = rest.take limit := by
    split
    next => rw [List.take_take, Nat.min_eq_left (by omega)]
    next hlast => rw [List.take_of_length_le (by omega), List.take_of_length_le (by omega)]
  simp only [listPageByUserId, hrest, hbound, hmore, decide_eq_true_eq, hslice]

theorem afterCursor_suffix (db : Store) (userId : Id) (type : Option NotificationType)
    (unreadOnly : Bool) (cursor : Option Id) :
    afterCursor db (selectByUserId db userId type unreadOnly) cursor <:+
      selectByUserId db userId type unreadOnly := by
  cases cursor with
  | none => exact List.suffix_rfl
  | some id =>
    simp only [afterCursor]
    split
    next => exact List.nil_suffix
    next => exact (List.drop_suffix _ _).trans ((selectByUserId_descending ..).atOrAfter_suffix _)

/-- The cursor of a notification that is asked for. -/
theorem afterCursor_eq {db : Store} {userId : Id} {type : Option NotificationType}
    {unreadOnly : Bool} {row : Id × Notification}
    (h : row ∈ selectByUserId db userId type unreadOnly) :
    afterCursor db (selectByUserId db userId type unreadOnly) (some row.1) =
      Paged.after position (selectByUserId db userId type unreadOnly) (some (position row)) := by
  obtain ⟨i, notification⟩ := row
  have hget : db.get (.notification, i) = some notification := (mem_selectByUserId.mp h).1
  rw [← Paged.atOrAfter_drop_one (selectByUserId_descending ..) h]
  simp only [afterCursor, hget]

/-! ## The loop -/

section Loop

variable {toLowerCase : String → String} {userId : Id} {query : ListNotificationsQueryDto}
  {size target : ℕ} {place : Option (ℤ ×ₗ ℕ)} {R : Store → Store → Prop}

/-- The notifications that the repository is asked for with the query. -/
def askedFor (db : Store) (userId : Id) (query : ListNotificationsQueryDto) :
    List (Id × Notification) :=
  selectByUserId db userId (queriedType query) (query.unreadOnly.getD false)

theorem askedFor_descending (db : Store) (userId : Id) (query : ListNotificationsQueryDto) :
    Paged.Descending position (askedFor db userId query) := selectByUserId_descending ..

/-- The check of a notification. -/
def check (toLowerCase : String → String) (db : Store) (query : ListNotificationsQueryDto)
    (row : Id × Notification) : Except Failure Bool :=
  matchesQuery toLowerCase query (entityOf db row)

/-- After the last notification of a block comes what the block has left. -/
theorem afterCursor_last {db db' : Store} (hdb : ChangesBefore place db db')
    {rest : List (Id × Notification)}
    (hsuffix : rest <:+ Paged.after position (askedFor db userId query) place) (hpos : 0 < size)
    (hlong : size < rest.length) :
    afterCursor db' (askedFor db' userId query) ((rest.take size).getLast?.map (·.1)) =
      rest.drop size := by
  obtain ⟨front, hfront⟩ := hsuffix
  obtain ⟨init, last, hlast⟩ : ∃ init last, rest.take size = init ++ [last] := by
    have hne : rest.take size ≠ [] := by
      rw [← List.length_pos_iff, List.length_take]
      omega
    exact ⟨_, _, (List.dropLast_append_getLast hne).symm⟩
  have hrest : Paged.after position (askedFor db' userId query) place =
      (front ++ init) ++ last :: rest.drop size := by
    rw [askedFor, hdb.after, ← askedFor, ← hfront]
    conv_lhs => rw [← List.take_append_drop size rest, hlast]
    simp
  have hmem : last ∈ askedFor db' userId query := by
    have hlast' : last ∈ Paged.after position (askedFor db' userId query) place := by simp [hrest]
    cases place with
    | none => exact hlast'
    | some k => exact (List.mem_filter.mp hlast').1
  have hcursor : (rest.take size).getLast?.map (·.1) = some last.1 := by simp [hlast]
  rw [hcursor, askedFor, afterCursor_eq hmem]
  exact Paged.after_last (selectByUserId_descending ..) hrest

theorem collect_among (hR : ∀ db db', R db db' → ChangesBefore place db db') (hpos : 0 < size)
    (hmax : size ≤ 500) {db db' : Store}
    {r : Except Failure (Option (List NotificationCenterEntity))} (fuel : ℕ) :
    ∀ {db₁ : Store} {cursor : Option Id} {rest : List (Id × Notification)}
      (matched : List (Id × Notification)),
    ChangesBefore place db db₁ →
    rest <:+ Paged.after position (askedFor db userId query) place →
    afterCursor db₁ (askedFor db₁ userId query) cursor = rest →
    (collectMatchingNotifications toLowerCase userId query size target fuel cursor
      (matched.map (entityOf db))).Among R db₁ r db' →
    ChangesBefore place db db' ∧
      r = (Paged.scan (check toLowerCase db query) size target fuel rest matched).map
        (Option.map (List.map (entityOf db))) := by
  induction fuel with
  | zero =>
    intro db₁ cursor rest matched hdb _ _ h
    obtain ⟨rfl, rfl⟩ := h
    exact ⟨hdb, rfl⟩
  | succ fuel ih =>
    intro db₁ cursor rest matched hdb hsuffix hcursor h
    rw [collectMatchingNotifications, List.length_map] at h
    rw [Paged.scan]
    by_cases henough : target ≤ matched.length
    · rw [if_pos henough] at h ⊢
      obtain ⟨rfl, rfl⟩ := h
      exact ⟨hdb, rfl⟩
    rw [if_neg henough] at h ⊢
    obtain ⟨db₂, hdb₂, h⟩ := Service.among_get_bind.mp h
    rw [listPageByUserId_eq hpos hmax hcursor] at h
    have hrecords : (rest.take size).map (notificationCenterInclude db₁) =
        (rest.take size).map (notificationCenterInclude db) :=
      List.map_congr_left fun row _ => notificationCenterInclude_congr hdb row
    dsimp only at h
    rw [hrecords] at h
    obtain ⟨db₃, hdb₃, h⟩ := entities_among hR (hdb.trans (hR _ _ hdb₂)) h
    rw [Service.bind_eq, Service.among_ofExcept_bind, Paged.select_map] at h
    have hkept₃ : ChangesBefore place db db₃ := hdb₃
    cases hselect : Paged.select (check toLowerCase db query) (rest.take size) with
    | error e =>
      rw [show Paged.select (fun row => matchesQuery toLowerCase query (entityOf db row))
        (rest.take size) = .error e from hselect] at h
      obtain ⟨b, hb, -⟩ | ⟨e', he', rfl, rfl⟩ := h
      · cases hb
      · cases he'
        exact ⟨hkept₃, rfl⟩
    | ok selected =>
      rw [show Paged.select (fun row => matchesQuery toLowerCase query (entityOf db row))
        (rest.take size) = .ok selected from hselect] at h
      obtain ⟨b, hb, h⟩ | ⟨e', he', -⟩ := h
      · cases hb
        rw [← List.map_append] at h
        by_cases hlong : size < rest.length
        · rw [if_pos (decide_eq_true hlong), if_pos hlong] at h
          dsimp only
          rw [if_pos hlong]
          refine ih _ hkept₃ ((List.drop_suffix _ _).trans hsuffix) ?_ h
          exact afterCursor_last hkept₃ hsuffix hpos hlong
        · rw [if_neg (by simpa using hlong)] at h
          dsimp only
          rw [if_neg hlong]
          obtain ⟨rfl, rfl⟩ := h
          exact ⟨hkept₃, rfl⟩
      · cases he'

end Loop

/-! ## A page -/

section Page

variable {toLowerCase : String → String} {userId : Id} {query : ListNotificationsQueryDto}
  {place : Option (ℤ ×ₗ ℕ)} {R : Store → Store → Prop} {db db' : Store} {fuel : ℕ}

/-- How many notifications a page holds. -/
def pageLimit (query : ListNotificationsQueryDto) : ℕ :=
  query.limit.getD notificationPageDefaultLimit

theorem pageLimit_range (query : ListNotificationsQueryDto) :
    1 ≤ pageLimit query ∧ pageLimit query ≤ 100 := by
  rw [pageLimit]
  cases hlimit : query.limit with
  | none => decide
  | some limit => exact query.limit_range limit hlimit

theorem resolveFetchLimit_range (query query' : ListNotificationsQueryDto) :
    0 < resolveFetchLimit (pageLimit query) query' ∧
      resolveFetchLimit (pageLimit query) query' ≤ 500 := by
  have hlimit := pageLimit_range query
  rw [resolveFetchLimit]
  split <;> omega

@[simp] theorem applyPreset_limit (query : ListNotificationsQueryDto) :
    (applyPreset query).limit = query.limit := by
  rw [applyPreset]
  split <;> rfl

@[simp] theorem applyPreset_cursor (query : ListNotificationsQueryDto) :
    (applyPreset query).cursor = query.cursor := by
  rw [applyPreset]
  split <;> rfl

@[simp] theorem applyPreset_preset (query : ListNotificationsQueryDto) :
    (applyPreset query).preset = query.preset := by
  rw [applyPreset]
  split <;> rfl

/-- The page of a query whose matches that are still to come are these. -/
structure PageOf (db : Store) (limit : ℕ) (matching : List (Id × Notification))
    (page : NotificationCenterPage) : Prop where
  notifications : page.notifications = (matching.take limit).map (entityOf db)
  hasMore : page.hasMore = decide (limit < matching.length)
  nextCursor : page.nextCursor =
    if limit < matching.length then (matching.take limit).getLast?.map (·.1) else none

/-- A page, made from what the loop found. -/
def pageFrom (query : ListNotificationsQueryDto) (records : List NotificationCenterEntity) :
    NotificationCenterPage :=
  let hasMore := decide (pageLimit query < records.length)
  let notifications := if hasMore then records.take (pageLimit query) else records
  { nextCursor := if hasMore then notifications.getLast?.map (·.id) else none
    hasMore, appliedPreset := query.preset, notifications }

theorem pageFrom_pageOf {found matching : List (Id × Notification)}
    (htake : found.take (pageLimit query) = matching.take (pageLimit query))
    (hmore : pageLimit query < found.length ↔ pageLimit query < matching.length) :
    PageOf db (pageLimit query) matching (pageFrom query (found.map (entityOf db))) := by
  have hnotifications : (if pageLimit query < found.length then
      (found.map (entityOf db)).take (pageLimit query) else found.map (entityOf db)) =
        (matching.take (pageLimit query)).map (entityOf db) := by
    rw [← htake, List.map_take]
    split
    next => rfl
    next hlast => rw [List.take_of_length_le (by rw [List.length_map]; omega)]
  have hlast : ((matching.take (pageLimit query)).map (entityOf db)).getLast?.map (·.id) =
      (matching.take (pageLimit query)).getLast?.map (·.1) := by
    rw [List.getLast?_map, Option.map_map]
    rfl
  refine ⟨?_, ?_, ?_⟩
  · simpa [pageFrom] using hnotifications
  · simp [pageFrom, hmore]
  · simp only [hmore] at hnotifications
    simp only [pageFrom, List.length_map, decide_eq_true_eq, hmore, hnotifications, hlast]

/-- The service's page is made from the scan of what comes after the cursor. -/
theorem page_among (hR : ∀ db db', R db db' → ChangesBefore place db db')
    {rest : List (Id × Notification)}
    (hsuffix : rest <:+ Paged.after position (askedFor db userId (applyPreset query)) place)
    (hcursor : afterCursor db (askedFor db userId (applyPreset query)) query.cursor = rest)
    {r : Except Failure (Option NotificationCenterPage)}
    (h : (listUserNotificationPage toLowerCase fuel userId query).Among R db r db') :
    ChangesBefore place db db' ∧
      r = (Paged.scan (check toLowerCase db (applyPreset query))
        (resolveFetchLimit (pageLimit query) (applyPreset query)) (pageLimit query + 1) fuel rest
        []).map (Option.map fun found => pageFrom query (found.map (entityOf db))) := by
  obtain ⟨hpos, hmax⟩ := resolveFetchLimit_range query (applyPreset query)
  have hcollect : ∀ {r : Except Failure (Option (List NotificationCenterEntity))} {db' : Store},
      (collectMatchingNotifications toLowerCase userId (applyPreset query)
        (resolveFetchLimit (pageLimit query) (applyPreset query)) (pageLimit query + 1) fuel
        query.cursor []).Among R db r db' → _ := fun h =>
    collect_among hR hpos hmax fuel [] (.refl place db) hsuffix hcursor h
  rw [listUserNotificationPage, applyPreset_limit, applyPreset_cursor, Service.bind_eq,
    Service.among_bind] at h
  obtain ⟨collected, db₁, h, hret⟩ | ⟨e, rfl, h⟩ := h
  · obtain ⟨hkept, hscan⟩ := hcollect h
    obtain ⟨rfl, rfl⟩ := hret
    refine ⟨hkept, ?_⟩
    generalize Paged.scan _ _ _ _ _ _ = scanned at hscan ⊢
    rcases scanned with e | _ | found
    · cases hscan
    · cases hscan
      rfl
    · cases hscan
      simp [Except.map, pageFrom, pageLimit]
  · obtain ⟨hkept, hscan⟩ := hcollect h
    refine ⟨hkept, ?_⟩
    generalize Paged.scan _ _ _ _ _ _ = scanned at hscan ⊢
    rcases scanned with e | found
    · cases hscan
      rfl
    · cases hscan

end Page

/-! ## What a query asks for -/

/-- The notification is an alert with the property. -/
def IsAlert (notification : Notification) (property : InventoryAlertMetadata → Prop) : Prop :=
  ∃ alert, readAdminInventoryAlertMetadata notification = some alert ∧ property alert

/-- The notification meets the query's filters, but for the keyword. -/
structure MeetsFilters (db : Store) (query : ListNotificationsQueryDto)
    (row : Id × Notification) : Prop where
  type : ∀ type ∈ query.type, row.2.type = type
  unread : query.unreadOnly = some true → row.2.readAt = none
  alertKind : ∀ kind ∈ FilterValue.wanted query.inventoryAlertKind,
    IsAlert row.2 (·.alertKind = kind)
  alertStatus : ∀ status ∈ FilterValue.wanted query.inventoryAlertStatus,
    IsAlert row.2 fun _ => alertStatus db row.1 = status
  resourceType : ∀ resourceType ∈ FilterValue.wanted query.inventoryResourceType,
    IsAlert row.2 (·.subject.resourceType = resourceType)
  attentionLevel : ∀ level ∈ FilterValue.wanted query.inventoryAttentionLevel,
    IsAlert row.2 (·.attentionLevel = some level)
  branch : ∀ branchId ∈ query.branchId, IsAlert row.2 (·.subject.branchId = branchId)

/-- A notification of the user that meets the filters. -/
structure Matching (db : Store) (userId : Id) (query : ListNotificationsQueryDto)
    (row : Id × Notification) : Prop extends MeetsFilters db query row where
  stored : db.get (.notification, row.1) = some row.2
  user : row.2.userId = userId

section Filters

variable {db : Store} {userId : Id} {query : ListNotificationsQueryDto}

/-- The filters that the service applies itself. -/
def meetsAlertFilters (query : ListNotificationsQueryDto)
    (inventoryAlert : Option NotificationInventoryAlert) : Bool :=
  !(hasInventoryAlertFilters query && inventoryAlert.isNone) &&
    !differs (FilterValue.wanted query.inventoryAlertKind)
      (inventoryAlert.map (·.metadata.alertKind)) &&
    !differs (FilterValue.wanted query.inventoryAlertStatus) (inventoryAlert.map (·.status)) &&
    !differs (FilterValue.wanted query.inventoryResourceType)
      (inventoryAlert.map (·.metadata.subject.resourceType)) &&
    !differs (FilterValue.wanted query.inventoryAttentionLevel)
      (inventoryAlert.bind (·.metadata.attentionLevel)) &&
    !differs query.branchId (inventoryAlert.map (·.metadata.subject.branchId))

theorem matchesQuery_eq (toLowerCase : String → String) (notification : NotificationCenterEntity) :
    matchesQuery toLowerCase query notification =
      if meetsAlertFilters query notification.inventoryAlert then
        match searchedKeyword query with
        | none => .ok true
        | some keyword => matchesKeyword toLowerCase notification keyword
      else .ok false := by
  simp only [matchesQuery, meetsAlertFilters]
  repeat' split
  all_goals simp_all

theorem differs_eq_false {α : Type} [DecidableEq α] {wanted found : Option α} :
    differs wanted found = false ↔ ∀ value ∈ wanted, found = some value := by
  cases wanted <;> simp [differs]

theorem entityOf_status (db : Store) (row : Id × Notification) {alert : NotificationInventoryAlert}
    (h : (entityOf db row).inventoryAlert = some alert) : alert.status = alertStatus db row.1 := by
  obtain ⟨metadata, -, rfl⟩ := Option.map_eq_some_iff.mp h
  exact alertStatus_eq_latestLog db (List.mem_singleton_self _)

theorem entityOf_inventoryAlert (db : Store) (row : Id × Notification) :
    ((entityOf db row).inventoryAlert).map (·.metadata) =
      readAdminInventoryAlertMetadata row.2 := by
  simp only [entityOf, buildNotificationCenterEntity, Option.map_map]
  exact Option.map_id'

theorem isAlert_none {notification : Notification} {property : InventoryAlertMetadata → Prop}
    (h : readAdminInventoryAlertMetadata notification = none) :
    ¬ IsAlert notification property := by
  simp [IsAlert, h]

theorem isAlert_some {notification : Notification} {alert : InventoryAlertMetadata}
    {property : InventoryAlertMetadata → Prop}
    (h : readAdminInventoryAlertMetadata notification = some alert) :
    IsAlert notification property ↔ property alert := by
  simp [IsAlert, h]

theorem hasInventoryAlertFilters_eq_false : hasInventoryAlertFilters query = false ↔
    FilterValue.wanted query.inventoryAlertKind = none ∧
      FilterValue.wanted query.inventoryAlertStatus = none ∧
      FilterValue.wanted query.inventoryResourceType = none ∧
      FilterValue.wanted query.inventoryAttentionLevel = none ∧ query.branchId = none := by
  simp [hasInventoryAlertFilters, and_assoc]

theorem meetsAlertFilters_iff {row : Id × Notification} :
    meetsAlertFilters query (entityOf db row).inventoryAlert = true ↔
      (∀ kind ∈ FilterValue.wanted query.inventoryAlertKind,
        IsAlert row.2 (·.alertKind = kind)) ∧
      (∀ status ∈ FilterValue.wanted query.inventoryAlertStatus,
        IsAlert row.2 fun _ => alertStatus db row.1 = status) ∧
      (∀ resourceType ∈ FilterValue.wanted query.inventoryResourceType,
        IsAlert row.2 (·.subject.resourceType = resourceType)) ∧
      (∀ level ∈ FilterValue.wanted query.inventoryAttentionLevel,
        IsAlert row.2 (·.attentionLevel = some level)) ∧
      ∀ branchId ∈ query.branchId, IsAlert row.2 (·.subject.branchId = branchId) := by
  have hmetadata := entityOf_inventoryAlert db row
  cases halert : (entityOf db row).inventoryAlert with
  | none =>
    rw [halert] at hmetadata
    simp only [isAlert_none hmetadata.symm]
    cases hfilters : hasInventoryAlertFilters query with
    | false =>
      have hnone := hasInventoryAlertFilters_eq_false.mp hfilters
      simp [meetsAlertFilters, hfilters, differs, hnone]
    | true =>
      simp only [meetsAlertFilters, hfilters, Option.isNone_none, Bool.and_self, Bool.not_true,
        Bool.false_and, Bool.false_eq_true, false_iff]
      intro hno
      have hfalse : hasInventoryAlertFilters query = false := by
        refine hasInventoryAlertFilters_eq_false.mpr ?_
        simpa [Option.eq_none_iff_forall_not_mem] using hno
      rw [hfilters] at hfalse
      cases hfalse
  | some alert =>
    have hstatus := entityOf_status db row halert
    rw [halert] at hmetadata
    simp only [isAlert_some hmetadata.symm, ← hstatus]
    simp [meetsAlertFilters, differs_eq_false, and_assoc]

theorem isAlert_type {notification : Notification} {property : InventoryAlertMetadata → Prop}
    (h : IsAlert notification property) : notification.type = .systemAlert := by
  obtain ⟨alert, halert, -⟩ := h
  by_contra htype
  rw [readAdminInventoryAlertMetadata, if_pos htype] at halert
  cases halert

/-- With a filter on alerts, only alerts meet the query. -/
theorem MeetsFilters.systemAlert {row : Id × Notification} (h : MeetsFilters db query row)
    (hfilters : hasInventoryAlertFilters query = true) : row.2.type = .systemAlert := by
  by_contra htype
  have hno : ∀ {property : InventoryAlertMetadata → Prop}, ¬ IsAlert row.2 property :=
    fun halert => htype (isAlert_type halert)
  have hfalse : hasInventoryAlertFilters query = false := by
    refine hasInventoryAlertFilters_eq_false.mpr ?_
    simp only [Option.eq_none_iff_forall_not_mem]
    exact ⟨fun kind hkind => hno (h.alertKind kind hkind),
      fun status hstatus => hno (h.alertStatus status hstatus),
      fun resourceType hresource => hno (h.resourceType resourceType hresource),
      fun level hlevel => hno (h.attentionLevel level hlevel),
      fun branchId hbranch => hno (h.branch branchId hbranch)⟩
  rw [hfilters] at hfalse
  cases hfalse

/-- The user's notifications that match are those that are asked for and pass the filters. -/
theorem matching_iff {row : Id × Notification} : Matching db userId query row ↔
    row ∈ askedFor db userId query ∧
      meetsAlertFilters query (entityOf db row).inventoryAlert = true := by
  obtain ⟨i, notification⟩ := row
  rw [askedFor, mem_selectByUserId, meetsAlertFilters_iff]
  constructor
  · intro h
    refine ⟨⟨h.stored, h.user, fun type htype => ?_, fun hunread => h.unread ?_⟩,
      h.alertKind, h.alertStatus, h.resourceType, h.attentionLevel, h.branch⟩
    · rw [queriedType] at htype
      cases hquery : query.type with
      | some asked =>
        rw [hquery] at htype
        cases htype
        exact h.type _ hquery
      | none =>
        rw [hquery] at htype
        cases hfilters : hasInventoryAlertFilters query with
        | false => simp [hfilters] at htype
        | true =>
          have hsystem : .systemAlert = type := by simpa [hfilters] using htype
          rw [← hsystem]
          exact h.toMeetsFilters.systemAlert hfilters
    · cases hquery : query.unreadOnly <;> simp_all
  · rintro ⟨⟨hget, huser, htype, hunread⟩, hkind, hstatus, hresource, hlevel, hbranch⟩
    refine ⟨⟨fun type hquery => htype type ?_, fun hquery => hunread ?_, hkind, hstatus,
      hresource, hlevel, hbranch⟩, hget, huser⟩
    · rw [queriedType, Option.mem_def.mp hquery]
      rfl
    · simp [hquery]

end Filters

/-! ## Pages without a keyword -/

section Pages

variable {toLowerCase : String → String} {userId : Id} {query : ListNotificationsQueryDto}
  {place : Option (ℤ ×ₗ ℕ)} {R : Store → Store → Prop} {db db' : Store} {fuel : ℕ}
  {rest : List (Id × Notification)}

/-- The notification passes the filters that the service applies itself. -/
def passes (db : Store) (query : ListNotificationsQueryDto) (row : Id × Notification) : Bool :=
  meetsAlertFilters query (entityOf db row).inventoryAlert

@[simp] theorem searchedKeyword_applyPreset (query : ListNotificationsQueryDto) :
    searchedKeyword (applyPreset query) = searchedKeyword query := by
  rw [applyPreset]
  split <;> rfl

theorem check_eq (hkeyword : searchedKeyword query = none) (row : Id × Notification) :
    check toLowerCase db query row = .ok (passes db query row) := by
  rw [check, matchesQuery_eq, hkeyword, passes]
  split
  next h => rw [h]
  next h => rw [Bool.not_eq_true _ |>.mp h]

theorem check_ok (hkeyword : searchedKeyword query = none) (row : Id × Notification) (b : Bool)
    (h : check toLowerCase db query row = .ok b) : b = passes db query row := by
  rw [check_eq hkeyword] at h
  exact (Except.ok.inj h).symm

/-- A page holds what passes of what is scanned. -/
theorem pageOf_scan {keep : Id × Notification → Bool} (hkeep : ∀ row b,
      check toLowerCase db (applyPreset query) row = .ok b → b = keep row) {size : ℕ}
    {page : NotificationCenterPage}
    (h : .ok (some page) = (Paged.scan (check toLowerCase db (applyPreset query)) size
      (pageLimit query + 1) fuel rest []).map (Option.map fun found =>
        pageFrom query (found.map (entityOf db)))) :
    PageOf db (pageLimit query) (rest.filter keep) page := by
  generalize hscanned : Paged.scan _ _ _ _ _ _ = scanned at h
  rcases scanned with e | _ | found
  · cases h
  · cases h
  · cases h
    obtain ⟨blocks, hsuffices, hfound⟩ := Paged.scan_ok hkeep hscanned
    obtain ⟨htake, hmore⟩ := hsuffices.page
    rw [List.nil_append] at hfound
    exact pageFrom_pageOf (hfound ▸ htake) (hfound ▸ hmore)

/-- What a page holds, when there is one. -/
theorem page_among_ok (hR : ∀ db db', R db db' → ChangesBefore place db db')
    (hkeyword : searchedKeyword query = none)
    (hsuffix : rest <:+ Paged.after position (askedFor db userId (applyPreset query)) place)
    (hcursor : afterCursor db (askedFor db userId (applyPreset query)) query.cursor = rest)
    {page : NotificationCenterPage}
    (h : (listUserNotificationPage toLowerCase fuel userId query).Among R db (.ok (some page))
      db') :
    ChangesBefore place db db' ∧
      PageOf db (pageLimit query) (rest.filter (passes db (applyPreset query))) page := by
  obtain ⟨hkept, hscan⟩ := page_among hR hsuffix hcursor h
  have hkeyword' : searchedKeyword (applyPreset query) = none := by simpa using hkeyword
  exact ⟨hkept, pageOf_scan (check_ok hkeyword') hscan⟩

theorem buildNotificationCenterEntities_readOnly (records : List NotificationCenterRecord) :
    (buildNotificationCenterEntities records).ReadOnly :=
  .bind (.get _) fun _ => .bind (.get _) fun _ => .ret _

theorem collect_readOnly (query : ListNotificationsQueryDto) (size target fuel : ℕ) :
    ∀ cursor matched, (collectMatchingNotifications toLowerCase userId query size target fuel cursor
      matched).ReadOnly := by
  induction fuel with
  | zero => exact fun _ _ => .ret _
  | succ fuel ih =>
    intro cursor matched
    rw [collectMatchingNotifications]
    split
    · exact .ret _
    · refine .bind (.get _) fun page => .bind (buildNotificationCenterEntities_readOnly _) fun _ =>
        .bind (.ofExcept _) fun _ => ?_
      split
      · exact ih _ _
      · exact .ret _

theorem listUserNotificationPage_readOnly (toLowerCase : String → String) (fuel : ℕ) (userId : Id)
    (query : ListNotificationsQueryDto) :
    (listUserNotificationPage toLowerCase fuel userId query).ReadOnly :=
  .bind (collect_readOnly _ _ _ _ _ _) fun _ => .ret _

theorem listUserNotificationPage_run (toLowerCase : String → String) (fuel : ℕ) (userId : Id)
    (query : ListNotificationsQueryDto) (db : Store) :
    (listUserNotificationPage toLowerCase fuel userId query).run db =
      (((listUserNotificationPage toLowerCase fuel userId query).run db).1, db) :=
  Prod.ext rfl ((listUserNotificationPage_readOnly toLowerCase fuel userId query).run db)

/-- A page comes back when nothing else happens and the loop has blocks enough. -/
theorem page_returns (hkeyword : searchedKeyword query = none)
    (hsuffix : rest <:+ askedFor db userId (applyPreset query))
    (hcursor : afterCursor db (askedFor db userId (applyPreset query)) query.cursor = rest)
    (hfuel : rest.length < fuel) :
    ∃ page, (listUserNotificationPage toLowerCase fuel userId query).run db =
        (.ok (some page), db) ∧
      PageOf db (pageLimit query) (rest.filter (passes db (applyPreset query))) page := by
  have hrun := listUserNotificationPage_run toLowerCase fuel userId query db
  have hsuffix' : rest <:+ Paged.after position (askedFor db userId (applyPreset query)) none :=
    hsuffix
  have hkeyword' : searchedKeyword (applyPreset query) = none := by simpa using hkeyword
  have hpos := (resolveFetchLimit_range query (applyPreset query)).1
  obtain ⟨found, hfound⟩ : ∃ found, Paged.scan (check toLowerCase db (applyPreset query))
      (resolveFetchLimit (pageLimit query) (applyPreset query)) (pageLimit query + 1) fuel rest [] =
        .ok (some found) :=
    Paged.scan_returns (check_ok hkeyword') hpos hfuel
      (Paged.suffices_of_total (fun row _ => check_eq hkeyword' row) hpos)
  obtain ⟨-, hscan⟩ := page_among ChangesBefore.of_eq hsuffix' hcursor
    (Service.among_eq_iff.mpr hrun)
  rw [hfound] at hscan
  rw [hscan] at hrun
  exact ⟨_, hrun, (page_among_ok ChangesBefore.of_eq hkeyword hsuffix' hcursor
    (Service.among_eq_iff.mpr hrun)).2⟩

/-- The cursor of a page that is not the last: what comes after it, and what of that matches. -/
theorem next_cursor (hsuffix : rest <:+ Paged.after position (askedFor db userId query) place)
    {limit : ℕ} (hlimit : 1 ≤ limit) (hmore : limit < (rest.filter (passes db query)).length) :
    ∃ last back, ((rest.filter (passes db query)).take limit).getLast? = some last ∧
      last ∈ askedFor db userId query ∧
      Paged.after position (askedFor db userId query) (some (position last)) = back ∧
      back <:+ rest ∧ back.length < rest.length ∧
      back.filter (passes db query) = (rest.filter (passes db query)).drop limit := by
  have hne : (rest.filter (passes db query)).take limit ≠ [] := by
    rw [← List.length_pos_iff, List.length_take]
    omega
  obtain ⟨init, last, hlast⟩ : ∃ init last,
      (rest.filter (passes db query)).take limit = init ++ [last] :=
    ⟨_, _, (List.dropLast_append_getLast hne).symm⟩
  obtain ⟨front, back, rfl, hback⟩ := Paged.filter_after_page hlast
  obtain ⟨skipped, hskipped⟩ := hsuffix
  rw [← List.append_assoc] at hskipped
  have hmem : last ∈ Paged.after position (askedFor db userId query) place := by
    rw [← hskipped]
    simp
  refine ⟨last, back, by rw [hlast, List.getLast?_concat], ?_,
    Paged.after_last (selectByUserId_descending ..) hskipped.symm, ?_, ?_, hback⟩
  · cases place with
    | none => exact hmem
    | some k => exact (List.mem_filter.mp hmem).1
  · exact ⟨front ++ [last], by simp⟩
  · simp only [List.length_append, List.length_cons]
    omega

theorem applyPreset_withCursor (query : ListNotificationsQueryDto) (cursor : Option Id) :
    applyPreset { query with cursor } = { applyPreset query with cursor } := by
  obtain ⟨limit, _, type, preset, unreadOnly, keyword⟩ := query
  cases preset with
  | none => rfl
  | some preset => cases preset <;> rfl

@[simp] theorem askedFor_withCursor (db : Store) (userId : Id) (query : ListNotificationsQueryDto)
    (cursor : Option Id) : askedFor db userId (applyPreset { query with cursor }) =
      askedFor db userId (applyPreset query) := by
  rw [applyPreset_withCursor]
  rfl

@[simp] theorem passes_withCursor (db : Store) (query : ListNotificationsQueryDto)
    (cursor : Option Id) :
    passes db (applyPreset { query with cursor }) = passes db (applyPreset query) := by
  rw [applyPreset_withCursor]
  rfl

/-- Fetch pages, each after the cursor of the one before, until one says that it is the last;
`none` if that takes more than `count` pages, or one of them more than `fuel` blocks. -/
def followPages (toLowerCase : String → String) (fuel : ℕ) (db : Store) (userId : Id)
    (query : ListNotificationsQueryDto) : ℕ → Option Id → Option (List NotificationCenterPage)
  | 0, _ => none
  | count + 1, cursor =>
    match ((listUserNotificationPage toLowerCase fuel userId { query with cursor }).run db).1 with
    | .ok (some page) =>
      if page.hasMore then
        (followPages toLowerCase fuel db userId query count page.nextCursor).map (page :: ·)
      else some [page]
    | _ => none

/-- The pages that give out these notifications. -/
inductive PagesOf (db : Store) (limit : ℕ) :
    List (Id × Notification) → List NotificationCenterPage → Prop
  | last {matching : List (Id × Notification)} {page : NotificationCenterPage} :
    PageOf db limit matching page → ¬ limit < matching.length → PagesOf db limit matching [page]
  | more {matching : List (Id × Notification)} {page : NotificationCenterPage}
      {pages : List NotificationCenterPage} :
    PageOf db limit matching page → limit < matching.length →
      PagesOf db limit (matching.drop limit) pages → PagesOf db limit matching (page :: pages)

theorem followPages_pagesOf (hkeyword : searchedKeyword query = none) (count : ℕ) :
    ∀ {cursor : Option Id} {rest : List (Id × Notification)},
      rest <:+ askedFor db userId (applyPreset query) →
      afterCursor db (askedFor db userId (applyPreset query)) cursor = rest →
      rest.length < fuel → rest.length < count →
        ∃ pages, followPages toLowerCase fuel db userId query count cursor = some pages ∧
          PagesOf db (pageLimit query) (rest.filter (passes db (applyPreset query))) pages := by
  induction count with
  | zero => exact fun _ _ _ h => absurd h (Nat.not_lt_zero _)
  | succ count ih =>
    intro cursor rest hsuffix hcursor hfuel hcount
    obtain ⟨page, hrun, hpage⟩ :
        ∃ page, (listUserNotificationPage toLowerCase fuel userId { query with cursor }).run db =
          (.ok (some page), db) ∧ PageOf db (pageLimit { query with cursor })
            (rest.filter (passes db (applyPreset { query with cursor }))) page :=
      page_returns hkeyword (by rwa [askedFor_withCursor]) (by rwa [askedFor_withCursor]) hfuel
    rw [passes_withCursor] at hpage
    change PageOf db (pageLimit query) _ page at hpage
    have hafter : rest <:+ Paged.after position (askedFor db userId (applyPreset query)) none :=
      hsuffix
    rw [followPages, hrun]
    dsimp only
    rw [hpage.hasMore]
    by_cases hmore : pageLimit query < (rest.filter (passes db (applyPreset query))).length
    · obtain ⟨last, back, hlast, hmem, hback, hsuffix', hshorter, hfilter⟩ :=
        next_cursor hafter (pageLimit_range query).1 hmore
      have hnext : page.nextCursor = some last.1 := by
        rw [hpage.nextCursor, if_pos hmore, hlast]
        rfl
      obtain ⟨pages, hpages, hof⟩ := ih (hsuffix'.trans hsuffix)
        ((afterCursor_eq hmem).trans hback) (hshorter.trans hfuel) (by omega)
      rw [if_pos (decide_eq_true hmore), hnext, hpages]
      exact ⟨page :: pages, rfl, .more hpage hmore (hfilter ▸ hof)⟩
    · rw [if_neg (by simpa using hmore)]
      exact ⟨[page], rfl, .last hpage hmore⟩

theorem PagesOf.all {limit : ℕ} {matching : List (Id × Notification)}
    {pages : List NotificationCenterPage} (h : PagesOf db limit matching pages) :
    pages.flatMap (·.notifications) = matching.map (entityOf db) := by
  induction h with
  | last hpage hlast =>
    rw [List.flatMap_singleton, hpage.notifications, List.take_of_length_le (by omega)]
  | more hpage _ _ ih =>
    rw [List.flatMap_cons, hpage.notifications, ih, ← List.map_append, List.take_append_drop]

/-- Up to each page the pages give out a first part of the notifications, and the page says whether
there is a rest. -/
theorem PagesOf.split {limit : ℕ} {matching : List (Id × Notification)}
    {pages : List NotificationCenterPage} (h : PagesOf db limit matching pages) :
    ∀ {earlier later : List NotificationCenterPage} {page : NotificationCenterPage},
      pages = earlier ++ page :: later → ∃ front back, matching = front ++ back ∧
        (earlier ++ [page]).flatMap (·.notifications) = front.map (entityOf db) ∧
        (page.hasMore = true ↔ back ≠ []) := by
  induction h with
  | @last matching only hpage hlast =>
    intro earlier later page hpages
    obtain ⟨rfl, rfl⟩ : earlier = [] ∧ page = only := by
      cases earlier with
      | nil => exact ⟨rfl, (List.cons.inj hpages).1.symm⟩
      | cons _ _ => simp at hpages
    refine ⟨matching, [], by simp, ?_, by simp [hpage.hasMore, hlast]⟩
    simp only [List.nil_append, List.flatMap_singleton, hpage.notifications]
    rw [List.take_of_length_le (by omega)]
  | @more matching first pages hpage hmore _ ih =>
    intro earlier later page hpages
    cases earlier with
    | nil =>
      obtain rfl : first = page := (List.cons.inj hpages).1
      exact ⟨matching.take limit, matching.drop limit, (List.take_append_drop ..).symm,
        by simp [hpage.notifications], by simp [hpage.hasMore, hmore]⟩
    | cons head earlier =>
      obtain ⟨rfl, hrest⟩ := List.cons.inj hpages
      obtain ⟨front, back, hsplit, hgiven, hback⟩ := ih hrest
      refine ⟨matching.take limit ++ front, back, ?_, ?_, hback⟩
      · rw [List.append_assoc, ← hsplit, List.take_append_drop]
      · rw [List.cons_append, List.flatMap_cons, hgiven, hpage.notifications, List.map_append]

theorem entityOf_injective (db : Store) : Function.Injective (entityOf db) := by
  rintro ⟨i, notification⟩ ⟨j, other⟩ h
  have hrecord := congrArg (·.record) h
  have hid := congrArg (·.id) hrecord
  have hnotification := congrArg (·.notification) hrecord
  exact Prod.ext hid hnotification

/-- The user's notifications that match, the newest first. -/
def matchingNotifications (db : Store) (userId : Id) (query : ListNotificationsQueryDto) :
    List (Id × Notification) :=
  (askedFor db userId query).filter (passes db query)

theorem mem_matchingNotifications {row : Id × Notification} :
    row ∈ matchingNotifications db userId query ↔ Matching db userId query row := by
  rw [matchingNotifications, List.mem_filter, matching_iff, passes]

theorem matchingNotifications_descending (db : Store) (userId : Id)
    (query : ListNotificationsQueryDto) :
    Paged.Descending position (matchingNotifications db userId query) :=
  (selectByUserId_descending ..).filter _

/-- How many notifications are stored. -/
def notificationCount (db : Store) : ℕ := (db.list .notification fun _ => true).length

theorem askedFor_length_le (db : Store) (userId : Id) (query : ListNotificationsQueryDto) :
    (askedFor db userId query).length ≤ notificationCount db := by
  rw [askedFor, selectByUserId, newestFirst, List.length_insertionSort, notificationCount]
  refine List.Sublist.length_le ?_
  rw [Db.list, Db.list, List.filter_true]
  exact List.filter_sublist

/-- All pages of a query, from the first. -/
theorem pagesOf_matching (hkeyword : searchedKeyword query = none) {count : ℕ}
    (hfuel : notificationCount db < fuel) (hcount : notificationCount db < count) :
    ∃ pages, followPages toLowerCase fuel db userId query count none = some pages ∧
      PagesOf db (pageLimit query) (matchingNotifications db userId (applyPreset query)) pages := by
  have hle := askedFor_length_le db userId (applyPreset query)
  exact followPages_pagesOf hkeyword count List.suffix_rfl rfl (by omega) (by omega)

/-- **Paging is exact**: the pages of a query without a keyword come to an end, and together they
give out the user's notifications that match, the newest first and each once; and each page says
that there are more exactly when there are. -/
theorem pages_exact (toLowerCase : String → String) (db : Store) (userId : Id)
    (query : ListNotificationsQueryDto) (hkeyword : searchedKeyword query = none) {fuel count : ℕ}
    (hfuel : notificationCount db < fuel) (hcount : notificationCount db < count) :
    ∃ pages, followPages toLowerCase fuel db userId query count none = some pages ∧
      (∃ rows, pages.flatMap (·.notifications) = rows.map (entityOf db) ∧
        Paged.Descending position rows ∧
        ∀ row, row ∈ rows ↔ Matching db userId (applyPreset query) row) ∧
      ∀ earlier page later, pages = earlier ++ page :: later →
        (page.hasMore = true ↔ ∃ row, Matching db userId (applyPreset query) row ∧
          entityOf db row ∉ (earlier ++ [page]).flatMap (·.notifications)) := by
  obtain ⟨pages, hpages, hof⟩ := pagesOf_matching hkeyword hfuel hcount
  have hdescending := matchingNotifications_descending db userId (applyPreset query)
  refine ⟨pages, hpages, ⟨_, hof.all, hdescending, fun row => mem_matchingNotifications⟩, ?_⟩
  intro earlier page later hsplit
  obtain ⟨front, back, hrows, hgiven, hmore⟩ := hof.split hsplit
  have hnodup : (front ++ back).Nodup := by
    rw [← hrows]
    exact hdescending.imp fun h => by
      rintro rfl
      exact lt_irrefl _ h
  rw [hmore, hgiven]
  constructor
  · intro hback
    obtain ⟨row, hrow⟩ := List.exists_mem_of_ne_nil back hback
    refine ⟨row, mem_matchingNotifications.mp (by rw [hrows]; simp [hrow]), fun hmem => ?_⟩
    rw [List.mem_map_of_injective (entityOf_injective db)] at hmem
    exact (List.disjoint_of_nodup_append hnodup) hmem hrow
  · rintro ⟨row, hmatching, hnot⟩ rfl
    refine hnot (List.mem_map_of_mem ?_)
    have hmem := mem_matchingNotifications.mpr hmatching
    rwa [hrows, List.append_nil] at hmem

end Pages

/-! ## A merchant's inbox -/

/-- What the alerts of the inbox are about. -/
def teaSubject : InventoryAlertSubject where
  branchId := 1
  branchName := some "Downtown"
  resourceType := .menuItem
  resourceId := 5
  resourceLabel := "Tea"
  stockQuantity := some 2
  lowStockThreshold := some 3
  menuItemName := none

/-- A notification of the merchant. -/
def inboxNotification (type : NotificationType) (title : String)
    (metadataJson : NotificationMetadata) (createdAt : Date) : Notification where
  userId := 10
  type := type
  title := title
  body := ""
  navigationPath := none
  metadataJson := metadataJson
  orderId := none
  deliveryId := none
  conversationId := none
  messageId := none
  createdAt := createdAt

/-- Two alerts about the same item and an order's message, all of them unread. -/
def inboxShop : Store := Db.empty.apply [
  ⟨.notification, 1, some (inboxNotification .systemAlert "Low stock: Tea"
    (.attention teaSubject .lowStock) 100)⟩,
  ⟨.notification, 2, some (inboxNotification .orderStatusUpdated "Order placed" .other 200)⟩,
  ⟨.notification, 3, some (inboxNotification .systemAlert "Stock restored: Tea"
    (.compensation teaSubject 1 9 "ORD-9" none none) 300)⟩]

theorem pages_exact_inbox :
    ∃ pages, followPages id 4 inboxShop 10 { limit := some 1 } 4 none = some pages ∧
      (∃ rows, pages.flatMap (·.notifications) = rows.map (entityOf inboxShop) ∧
        Paged.Descending position rows ∧
        ∀ row, row ∈ rows ↔ Matching inboxShop 10 (applyPreset { limit := some 1 }) row) ∧
      ∀ earlier page later, pages = earlier ++ page :: later →
        (page.hasMore = true ↔ ∃ row, Matching inboxShop 10 (applyPreset { limit := some 1 }) row ∧
          entityOf inboxShop row ∉ (earlier ++ [page]).flatMap (·.notifications)) :=
  pages_exact id inboxShop 10 { limit := some 1 } rfl (by decide) (by decide)

example : (followPages id 4 inboxShop 10 { limit := some 1 } 4 none).map
    (List.map fun page => page.notifications.map (·.id)) = some [[3], [2], [1]] := by
  decide +kernel

end WerTe.NotificationsService
