import WerTe.NotificationPages

/-!
# The badges of the presets

The number behind a preset is counted from all unread alerts at once, the preset's list goes through
the filters. The preset of open alerts lists attention alerts only, and its badge counts the open
compensation alerts as well.
-/

namespace WerTe.NotificationsService

open ReadCommitted NotificationsRepository

variable {toLowerCase : String → String} {db : Store} {userId : Id} {fuel : ℕ}

/-- None of the user's unread compensation alerts is open. -/
def NoOpenCompensation (db : Store) (userId : Id) : Prop :=
  ∀ row : Id × Notification, db.get (.notification, row.1) = some row.2 → row.2.userId = userId →
    row.2.readAt = none → IsAlert row.2 (·.alertKind = .compensation) →
      alertStatus db row.1 ≠ .opened

/-! ## Counting -/

/-- If one property implies another, as many have the one as the other when the converse holds. -/
theorem countP_eq_iff {α : Type} {p q : α → Bool} {l : List α} (h : ∀ a ∈ l, q a → p a) :
    l.countP p = l.countP q ↔ ∀ a ∈ l, p a → q a := by
  induction l with
  | nil => simp
  | cons a l ih =>
    have hle : l.countP q ≤ l.countP p :=
      List.countP_mono_left fun b hb => h b (List.mem_cons_of_mem _ hb)
    have hhead := h a List.mem_cons_self
    simp only [List.countP_cons, List.forall_mem_cons,
      ← ih fun b hb => h b (List.mem_cons_of_mem _ hb)]
    cases hp : p a <;> cases hq : q a <;> simp_all
    omega

/-- The alerts with a property, among the notifications that are alerts. -/
theorem countP_filterMap_inventoryAlert (db : Store) (rows : List (Id × Notification))
    (p : NotificationInventoryAlert → Bool) :
    ((rows.map (entityOf db)).filterMap (·.inventoryAlert)).countP p =
      rows.countP fun row => (entityOf db row).inventoryAlert.any p := by
  induction rows with
  | nil => rfl
  | cons row rows ih =>
    rw [List.map_cons, List.filterMap_cons, List.countP_cons, ← ih]
    cases (entityOf db row).inventoryAlert with
    | none => simp
    | some alert => rw [List.countP_cons, Option.any_some]

/-! ## The facets -/

/-- The user's unread alerts. -/
def unreadAlerts (db : Store) (userId : Id) : List NotificationInventoryAlert :=
  ((selectByUserId db userId (some .systemAlert) true).map (entityOf db)).filterMap
    (·.inventoryAlert)

theorem getUnreadFacets_run (db : Store) (userId : Id) : (getUnreadFacets userId).run db =
    (.ok (unreadFacets (countUnreadByUserId db userId) (unreadAlerts db userId)), db) := by
  have hreadOnly : (getUnreadFacets userId).ReadOnly :=
    .bind (.get _) fun _ => .bind (.get _) fun _ =>
      .bind (buildNotificationCenterEntities_readOnly _) fun _ => .ret _
  have hrun : (getUnreadFacets userId).run db = (((getUnreadFacets userId).run db).1, db) :=
    Prod.ext rfl (hreadOnly.run db)
  obtain ⟨_, rfl, _, rfl, hrest⟩ := Service.among_eq_iff.mpr hrun
  obtain ⟨_, -, hr, -⟩ := entities_among ChangesBefore.of_eq (.refl none db) hrest
  rw [hrun, hr]
  rfl

theorem listNotificationPresets_run (db : Store) (userId : Id) :
    (listNotificationPresets userId).run db = (.ok (buildNotificationPresetsFromFacets
      (unreadFacets (countUnreadByUserId db userId) (unreadAlerts db userId))), db) := by
  rw [listNotificationPresets, Service.bind_eq, Service.run_bind, getUnreadFacets_run]
  rfl

/-! ## The lists -/

/-- The query of a preset, asked for unread notifications. -/
def unreadQuery (key : NotificationPreset) (limit : Option ℕ)
    (hlimit : ∀ n ∈ limit, 1 ≤ n ∧ n ≤ 100) : ListNotificationsQueryDto :=
  { applyPreset { preset := some key, limit_range := limit_range_none } with
    unreadOnly := some true, limit, limit_range := hlimit }

/-- What a preset's list asks of an alert; nothing, if it lists all kinds of notifications. -/
def listedAlert : NotificationPreset → Option (NotificationInventoryAlert → Bool)
  | .all | .unread => none
  | .inventoryOpen => some fun alert =>
    alert.metadata.alertKind == .attention && alert.status == .opened
  | .inventoryResolved => some (·.status == .resolved)
  | .inventoryCompensation => some (·.metadata.alertKind == .compensation)
  | .inventoryAttention => some (·.metadata.alertKind == .attention)
  | .inventoryLowStock => some fun alert =>
    alert.metadata.alertKind == .attention && alert.metadata.attentionLevel == some .lowStock
  | .inventoryOutOfStock => some fun alert =>
    alert.metadata.alertKind == .attention && alert.metadata.attentionLevel == some .outOfStock

/-- What a preset's badge asks of an alert. -/
def countedAlert : NotificationPreset → Option (NotificationInventoryAlert → Bool)
  | .all | .unread => none
  | .inventoryOpen => some (·.status == .opened)
  | .inventoryResolved => some (·.status == .resolved)
  | .inventoryCompensation => some (·.metadata.alertKind == .compensation)
  | .inventoryAttention => some (·.metadata.alertKind == .attention)
  | .inventoryLowStock => some (·.metadata.attentionLevel == some .lowStock)
  | .inventoryOutOfStock => some (·.metadata.attentionLevel == some .outOfStock)

/-- The number of the user's notifications that are unread, and among them the alerts with a
property. -/
def unreadCount (db : Store) (userId : Id) : Option (NotificationInventoryAlert → Bool) → ℕ
  | none => (selectByUserId db userId none true).length
  | some p => (selectByUserId db userId (some .systemAlert) true).countP fun row =>
    (entityOf db row).inventoryAlert.any p

theorem badge_eq (key : NotificationPreset) :
    resolvePresetUnreadCount (unreadFacets (countUnreadByUserId db userId) (unreadAlerts db userId))
      key = unreadCount db userId (countedAlert key) := by
  have htotal : countUnreadByUserId db userId = (selectByUserId db userId none true).length := by
    rw [selectByUserId, newestFirst, List.length_insertionSort, countUnreadByUserId]
    simp
  cases key <;>
    simp only [resolvePresetUnreadCount, unreadFacets, countedAlert, unreadCount, htotal,
      unreadAlerts, countP_filterMap_inventoryAlert]

variable (limit : Option ℕ) (hlimit : ∀ n ∈ limit, 1 ≤ n ∧ n ≤ 100)

theorem askedFor_unreadQuery (key : NotificationPreset) :
    askedFor db userId (applyPreset (unreadQuery key limit hlimit)) =
      selectByUserId db userId ((listedAlert key).map fun _ => .systemAlert) true := by
  cases key <;> rfl

theorem passes_unreadQuery (key : NotificationPreset) (row : Id × Notification) :
    passes db (applyPreset (unreadQuery key limit hlimit)) row =
      (listedAlert key).all fun p => (entityOf db row).inventoryAlert.any p := by
  rw [passes]
  cases (entityOf db row).inventoryAlert with
  | none => cases key <;> rfl
  | some alert =>
    cases key <;> simp [meetsAlertFilters, hasInventoryAlertFilters, unreadQuery, applyPreset,
      listedAlert, differs, FilterValue.wanted, bne]

theorem list_eq (key : NotificationPreset) :
    (matchingNotifications db userId (applyPreset (unreadQuery key limit hlimit))).length =
      unreadCount db userId (listedAlert key) := by
  rw [matchingNotifications, askedFor_unreadQuery,
    List.filter_congr fun row _ => passes_unreadQuery limit hlimit key row]
  cases listedAlert key with
  | none => simp [unreadCount]
  | some p => simp [unreadCount, List.countP_eq_length_filter]

/-! ## Where they agree -/

/-- Only attention alerts have a level. -/
theorem attention_of_level {notification : Notification} {alert : InventoryAlertMetadata}
    (h : readAdminInventoryAlertMetadata notification = some alert)
    {level : InventoryAttentionLevel}
    (hlevel : alert.attentionLevel = some level) : alert.alertKind = .attention := by
  rw [readAdminInventoryAlertMetadata] at h
  split at h
  next => cases h
  next =>
    split at h
    next =>
      split at h
      next => cases h
      next =>
        cases h
        rfl
    next =>
      split at h
      next => cases h
      next =>
        cases h
        cases hlevel
    next => cases h
    next => cases h

/-- An alert among the notifications, with what it is about. -/
theorem isAlert_entityOf {row : Id × Notification} {alert : NotificationInventoryAlert}
    (h : (entityOf db row).inventoryAlert = some alert) :
    readAdminInventoryAlertMetadata row.2 = some alert.metadata := by
  rw [← entityOf_inventoryAlert db row, h]
  rfl

theorem countP_level (level : InventoryAttentionLevel) :
    unreadCount db userId (some (·.metadata.attentionLevel == some level)) =
      unreadCount db userId (some fun alert =>
        alert.metadata.alertKind == .attention && alert.metadata.attentionLevel == some level) := by
  refine List.countP_congr fun row _ => ?_
  cases halert : (entityOf db row).inventoryAlert with
  | none => rfl
  | some alert =>
    simp only [Option.any_some, Bool.and_eq_true, beq_iff_eq]
    exact ⟨fun h => ⟨attention_of_level (isAlert_entityOf halert) h, h⟩, fun h => h.2⟩

theorem countP_open :
    unreadCount db userId (some (·.status == .opened)) =
        unreadCount db userId (some fun alert =>
          alert.metadata.alertKind == .attention && alert.status == .opened) ↔
      NoOpenCompensation db userId := by
  rw [unreadCount, unreadCount, countP_eq_iff]
  · constructor
    · rintro hopen ⟨i, notification⟩ hget huser hunread hcompensation hstatus
      have hmem : (i, notification) ∈ selectByUserId db userId (some .systemAlert) true :=
        mem_selectByUserId.mpr ⟨hget, huser, fun type htype => by
          cases htype
          exact isAlert_type hcompensation, fun _ => hunread⟩
      obtain ⟨metadata, hmetadata, hkind⟩ := hcompensation
      obtain ⟨alert, halert, rfl⟩ := Option.map_eq_some_iff.mp
        ((entityOf_inventoryAlert db (i, notification)).trans hmetadata)
      have hlisted := hopen _ hmem (by
        rw [halert, Option.any_some, entityOf_status db _ halert, hstatus]
        rfl)
      rw [halert, Option.any_some, hkind] at hlisted
      cases hlisted
    · rintro hno ⟨i, notification⟩ hmem hopen
      obtain ⟨hget, huser, -, hunread⟩ := mem_selectByUserId.mp hmem
      cases halert : (entityOf db (i, notification)).inventoryAlert with
      | none =>
        rw [halert] at hopen
        cases hopen
      | some alert =>
        rw [halert, Option.any_some, beq_iff_eq] at hopen
        rw [Option.any_some, Bool.and_eq_true, beq_iff_eq, beq_iff_eq]
        refine ⟨?_, hopen⟩
        -- an open compensation alert is ruled out, and there are only the two kinds
        cases hkind : alert.metadata.alertKind with
        | attention => rfl
        | compensation =>
          have hstatus := (entityOf_status db _ halert).symm.trans hopen
          exact absurd hstatus (hno (i, notification) hget huser (hunread rfl)
            ⟨alert.metadata, isAlert_entityOf halert, hkind⟩)
  · intro row _
    cases (entityOf db row).inventoryAlert with
    | none => exact id
    | some alert => exact fun h => (Bool.and_eq_true_iff.mp h).2

/-- The badge and the list count the same, but for those of open alerts. -/
theorem counted_eq_listed (key : NotificationPreset) :
    unreadCount db userId (countedAlert key) = unreadCount db userId (listedAlert key) ↔
      (key = .inventoryOpen → NoOpenCompensation db userId) := by
  cases key with
  | inventoryOpen => exact countP_open.trans ⟨fun h _ => h, fun h => h rfl⟩
  | inventoryLowStock => exact iff_of_true (countP_level _) fun h => by cases h
  | inventoryOutOfStock => exact iff_of_true (countP_level _) fun h => by cases h
  | _ => exact iff_of_true rfl fun h => by cases h

/-- **The badges of the presets agree with the lists**, except for the preset of open alerts while
an unread compensation alert is open. -/
theorem preset_badges_agree_iff (toLowerCase : String → String) (db : Store) (userId : Id)
    (limit : Option ℕ) (hlimit : ∀ n ∈ limit, 1 ≤ n ∧ n ≤ 100) {fuel count : ℕ}
    (hfuel : notificationCount db < fuel) (hcount : notificationCount db < count) :
    ∃ presets, (listNotificationPresets userId).run db = (.ok presets, db) ∧
      presets.map (·.key) = notificationPresetOrder ∧
      ∀ preset ∈ presets, ∃ pages, followPages toLowerCase fuel db userId
          { preset.query with unreadOnly := some true, limit, limit_range := hlimit } count none =
            some pages ∧
        (preset.unreadCount = (pages.flatMap (·.notifications)).length ↔
          (preset.key = .inventoryOpen → NoOpenCompensation db userId)) := by
  refine ⟨_, listNotificationPresets_run db userId, rfl, fun preset hpreset => ?_⟩
  obtain ⟨index, hindex, rfl⟩ := List.mem_mapIdx.mp hpreset
  generalize notificationPresetOrder[index] = key
  have hkeyword : searchedKeyword (unreadQuery key limit hlimit) = none := by cases key <;> rfl
  obtain ⟨pages, hpages, hof⟩ := pagesOf_matching hkeyword hfuel hcount
  refine ⟨pages, hpages, ?_⟩
  rw [hof.all, List.length_map, list_eq, buildPreset, badge_eq]
  exact counted_eq_listed key

/-! ## An open compensation alert -/

theorem preset_badges_disagree :
    ¬ ∀ presets, (listNotificationPresets 10).run inboxShop = (.ok presets, inboxShop) →
      ∀ preset ∈ presets, ∀ pages, followPages id 4 inboxShop 10
          { preset.query with unreadOnly := some true, limit := none, limit_range := by simp } 4 none =
            some pages →
        preset.unreadCount = (pages.flatMap (·.notifications)).length := by
  intro hagree
  have hlimit : ∀ n ∈ (none : Option ℕ), 1 ≤ n ∧ n ≤ 100 := by simp
  have hkeyword : searchedKeyword (unreadQuery .inventoryOpen none hlimit) = none := rfl
  have hstored : notificationCount inboxShop < 4 := by decide
  obtain ⟨pages, hpages, hof⟩ : ∃ pages, followPages id 4 inboxShop 10
      (unreadQuery .inventoryOpen none hlimit) 4 none = some pages ∧ _ :=
    pagesOf_matching hkeyword hstored hstored
  have hbadge : resolvePresetUnreadCount (unreadFacets (countUnreadByUserId inboxShop 10)
      (unreadAlerts inboxShop 10)) .inventoryOpen = 2 := by
    decide +kernel
  have hlisted : buildPreset .inventoryOpen 2 2 ∈ buildNotificationPresetsFromFacets (unreadFacets
      (countUnreadByUserId inboxShop 10) (unreadAlerts inboxShop 10)) :=
    List.mem_mapIdx.mpr ⟨2, by decide, congrArg (buildPreset _ · 2) hbadge⟩
  have hcount := hagree _ (listNotificationPresets_run inboxShop 10) _ hlisted pages hpages
  rw [hof.all, List.length_map, list_eq] at hcount
  revert hcount
  decide +kernel

theorem preset_badges_agree_iff_inbox :
    ∃ presets, (listNotificationPresets 10).run inboxShop = (.ok presets, inboxShop) ∧
      presets.map (·.key) = notificationPresetOrder ∧
      ∀ preset ∈ presets, ∃ pages, followPages id 4 inboxShop 10
          { preset.query with
            unreadOnly := some true, limit := some 1, limit_range := by simp } 4 none = some pages ∧
        (preset.unreadCount = (pages.flatMap (·.notifications)).length ↔
          (preset.key = .inventoryOpen → NoOpenCompensation inboxShop 10)) :=
  preset_badges_agree_iff id inboxShop 10 (some 1) (by simp) (by decide) (by decide)

end WerTe.NotificationsService
