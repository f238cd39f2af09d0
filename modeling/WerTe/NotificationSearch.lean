import WerTe.NotificationPages

/-!
# Searching for a keyword

The texts that are searched come from the notification and from its alert. Where there is no alert
they are `undefined`, which is not `null`: the search goes on to put them in lower case and fails.
A search that comes to a notification without an alert thus gives no page at all, unless a filter
on alerts has sorted the notification out before.
-/

namespace WerTe.NotificationsService

open ReadCommitted NotificationsRepository

variable {toLowerCase : String → String} {db : Store} {userId : Id}
  {query : ListNotificationsQueryDto} {keyword : String} {fuel : ℕ}

/-! ## The texts -/

/-- Some text that is there contains the keyword, in upper or lower case. -/
def ContainsKeyword (toLowerCase : String → String) (notification : NotificationCenterEntity)
    (keyword : String) : Prop :=
  ∃ text, Field.value text ∈ searchedFields notification ∧
    (toLowerCase keyword).toList <:+: (toLowerCase text).toList

/-- Whether a text contains the keyword. -/
def containsKeyword (toLowerCase : String → String) (notification : NotificationCenterEntity)
    (keyword : String) : Bool :=
  ((searchedFields notification).filterMap Field.toOption).any fun text =>
    ProviderWebhookNormalizer.includes (toLowerCase text) (toLowerCase keyword)

theorem containsKeyword_iff {notification : NotificationCenterEntity} :
    containsKeyword toLowerCase notification keyword = true ↔
      ContainsKeyword toLowerCase notification keyword := by
  have hmem : ∀ text, text ∈ (searchedFields notification).filterMap Field.toOption ↔
      Field.value text ∈ searchedFields notification := by
    intro text
    rw [List.mem_filterMap]
    constructor
    · rintro ⟨field, hfield, htext⟩
      cases field with
      | value _ =>
        cases htext
        exact hfield
      | undefined => cases htext
      | null => cases htext
    · exact fun h => ⟨_, h, rfl⟩
  simp only [containsKeyword, ContainsKeyword, List.any_eq_true, hmem,
    ProviderWebhookNormalizer.includes, decide_eq_true_eq]

theorem haystacks_eq (fields : List (Field String)) :
    haystacks toLowerCase fields =
      if Field.undefined ∈ fields then .error .typeError
      else .ok ((fields.filterMap Field.toOption).map toLowerCase) := by
  induction fields with
  | nil => simp [haystacks]
  | cons field fields ih =>
    cases field with
    | undefined => simp [haystacks]
    | null => simp [haystacks, ih, List.filterMap_cons, Field.toOption]
    | value text =>
      by_cases hundefined : Field.undefined ∈ fields
      · simp [haystacks, ih, hundefined, Except.map]
      · simp [haystacks, ih, hundefined, Except.map, Field.toOption]

theorem nullable_ne_undefined (text : Option String) : Field.undefined ≠ nullable text := by
  cases text <;> simp [nullable]

/-- A searched text is `undefined` just when there is no alert. -/
theorem undefined_mem_searchedFields {notification : NotificationCenterEntity} :
    Field.undefined ∈ searchedFields notification ↔ notification.inventoryAlert = none := by
  cases halert : notification.inventoryAlert with
  | none => simp [searchedFields, halert, ofAlert]
  | some alert => simp [searchedFields, halert, ofAlert, nullable_ne_undefined]

theorem matchesKeyword_eq (notification : NotificationCenterEntity) :
    matchesKeyword toLowerCase notification keyword =
      if notification.inventoryAlert = none then .error .typeError
      else .ok (containsKeyword toLowerCase notification keyword) := by
  simp only [matchesKeyword, haystacks_eq, undefined_mem_searchedFields]
  split
  next => rfl
  next => simp [Except.map, containsKeyword, List.any_map, Function.comp_def]

/-! ## The check of a notification -/

/-- The notification passes the filters and contains the keyword. -/
def found (toLowerCase : String → String) (db : Store) (query : ListNotificationsQueryDto)
    (keyword : String) (row : Id × Notification) : Bool :=
  passes db query row && containsKeyword toLowerCase (entityOf db row) keyword

/-- The check comes to search a notification that is no alert. -/
def Unsearchable (query : ListNotificationsQueryDto) (row : Id × Notification) : Prop :=
  hasInventoryAlertFilters query = false ∧ readAdminInventoryAlertMetadata row.2 = none

theorem entityOf_inventoryAlert_none {row : Id × Notification} :
    (entityOf db row).inventoryAlert = none ↔ readAdminInventoryAlertMetadata row.2 = none := by
  rw [← entityOf_inventoryAlert db row, Option.map_eq_none_iff]

/-- Without an alert the filters are passed just when there are none. -/
theorem passes_of_none {row : Id × Notification} (h : (entityOf db row).inventoryAlert = none) :
    passes db query row = !hasInventoryAlertFilters query := by
  rw [passes, h]
  cases hfilters : hasInventoryAlertFilters query with
  | true => simp [meetsAlertFilters, hfilters]
  | false =>
    have hnone := hasInventoryAlertFilters_eq_false.mp hfilters
    simp [meetsAlertFilters, hfilters, differs, hnone]

theorem check_keyword (hkeyword : searchedKeyword query = some keyword) (row : Id × Notification) :
    check toLowerCase db query row =
      if passes db query row = true ∧ (entityOf db row).inventoryAlert = none then .error .typeError
      else .ok (found toLowerCase db query keyword row) := by
  rw [check, matchesQuery_eq, hkeyword, ← passes, found]
  cases hpasses : passes db query row with
  | false => simp
  | true => simp [matchesKeyword_eq]

theorem check_keyword_ok_iff (hkeyword : searchedKeyword query = some keyword)
    (row : Id × Notification) :
    check toLowerCase db query row = .ok (found toLowerCase db query keyword row) ↔
      ¬ Unsearchable query row := by
  have hnone : (entityOf db row).inventoryAlert = none ↔ _ := entityOf_inventoryAlert_none
  rw [check_keyword hkeyword, Unsearchable, ← hnone]
  by_cases halert : (entityOf db row).inventoryAlert = none
  · rw [passes_of_none halert]
    cases hasInventoryAlertFilters query <;> simp [halert]
  · simp [halert]

theorem check_keyword_ok (hkeyword : searchedKeyword query = some keyword) (row : Id × Notification)
    (b : Bool) (h : check toLowerCase db query row = .ok b) :
    b = found toLowerCase db query keyword row := by
  rw [check_keyword hkeyword] at h
  split at h
  next => cases h
  next => exact (Except.ok.inj h).symm

/-! ## The page -/

/-- The notifications that a page is looked for in. -/
def remaining (db : Store) (userId : Id) (query : ListNotificationsQueryDto) :
    List (Id × Notification) :=
  afterCursor db (askedFor db userId query) query.cursor

/-- The page of the notifications that match and contain the keyword, of those that are left. -/
structure SearchPage (toLowerCase : String → String) (db : Store) (userId : Id)
    (query : ListNotificationsQueryDto) (keyword : String) (rows : List (Id × Notification)) :
    Prop where
  newestFirst : Paged.Descending position rows
  exact : ∀ row, row ∈ rows ↔ row ∈ remaining db userId query ∧ Matching db userId query row ∧
    ContainsKeyword toLowerCase (entityOf db row) keyword

/-- The search gives a page, which holds what it should. -/
def SearchExact (toLowerCase : String → String) (fuel : ℕ) (db : Store) (userId : Id)
    (query : ListNotificationsQueryDto) (keyword : String) : Prop :=
  ∃ page rows, (listUserNotificationPage toLowerCase fuel userId query).run db =
      (.ok (some page), db) ∧
    SearchPage toLowerCase db userId (applyPreset query) keyword rows ∧
      PageOf db (pageLimit query) rows page

/-- In some number of blocks all notifications can be searched, and enough of them are found there
or nothing is left. -/
def SearchableBlocks (toLowerCase : String → String) (db : Store) (userId : Id)
    (query : ListNotificationsQueryDto) (keyword : String) (blockSize limit : ℕ) : Prop :=
  ∃ blocks, (∀ row ∈ (remaining db userId query).take (blocks * blockSize),
      ¬ Unsearchable query row) ∧
    ((remaining db userId query).length ≤ blocks * blockSize ∨
      limit < (((remaining db userId query).take (blocks * blockSize)).filter
        (found toLowerCase db query keyword)).length)

/-- That the blocks can be searched says that they suffice for the loop. -/
theorem suffices_iff (hkeyword : searchedKeyword query = some keyword) {blocks size limit : ℕ}
    {rest : List (Id × Notification)} :
    Paged.Suffices (check toLowerCase db query) (found toLowerCase db query keyword) size
        (limit + 1) rest [] blocks ↔
      (∀ row ∈ rest.take (blocks * size), ¬ Unsearchable query row) ∧
        (rest.length ≤ blocks * size ∨ limit <
          ((rest.take (blocks * size)).filter (found toLowerCase db query keyword)).length) := by
  constructor
  · rintro ⟨htotal, henough⟩
    exact ⟨fun row hrow => (check_keyword_ok_iff hkeyword row).mp (htotal row hrow),
      henough.imp id fun h => by rw [List.nil_append] at h; exact h⟩
  · rintro ⟨htotal, henough⟩
    exact ⟨fun row hrow => (check_keyword_ok_iff hkeyword row).mpr (htotal row hrow),
      henough.imp id fun h => by rw [List.nil_append]; exact h⟩

theorem searchPage_remaining (toLowerCase : String → String) (db : Store) (userId : Id)
    (query : ListNotificationsQueryDto) (keyword : String) :
    SearchPage toLowerCase db userId query keyword
      ((remaining db userId query).filter (found toLowerCase db query keyword)) where
  newestFirst := by
    have hsuffix : remaining db userId query <:+ askedFor db userId query := afterCursor_suffix ..
    exact ((selectByUserId_descending ..).sublist hsuffix.sublist).filter _
  exact row := by
    have hsuffix : remaining db userId query <:+ askedFor db userId query := afterCursor_suffix ..
    rw [List.mem_filter, found, Bool.and_eq_true, containsKeyword_iff, matching_iff]
    exact ⟨fun h => ⟨h.1, ⟨hsuffix.subset h.1, h.2.1⟩, h.2.2⟩, fun h => ⟨h.1, h.2.1.2, h.2.2⟩⟩

/-- **The search for a keyword is exact** if and only if the loop finds enough, or reads everything,
without coming to a notification that cannot be searched. -/
theorem keyword_search_exact_iff (hkeyword : searchedKeyword query = some keyword)
    (hfuel : notificationCount db < fuel) :
    SearchExact toLowerCase fuel db userId query keyword ↔
      SearchableBlocks toLowerCase db userId (applyPreset query) keyword
        (resolveFetchLimit (pageLimit query) (applyPreset query)) (pageLimit query) := by
  have hkeyword' : searchedKeyword (applyPreset query) = some keyword := by simpa using hkeyword
  have hsuffix : remaining db userId (applyPreset query) <:+
      Paged.after position (askedFor db userId (applyPreset query)) none := afterCursor_suffix ..
  have hcursor : afterCursor db (askedFor db userId (applyPreset query)) query.cursor =
      remaining db userId (applyPreset query) := by
    rw [remaining, applyPreset_cursor]
  have hrun := listUserNotificationPage_run toLowerCase fuel userId query db
  obtain ⟨-, hscan⟩ := page_among ChangesBefore.of_eq hsuffix hcursor
    (Service.among_eq_iff.mpr hrun)
  constructor
  · rintro ⟨page, rows, hpage, -⟩
    rw [hpage] at hscan
    generalize hscanned : Paged.scan _ _ _ _ _ _ = scanned at hscan
    rcases scanned with e | _ | records
    · cases hscan
    · cases hscan
    · obtain ⟨blocks, hsuffices, -⟩ := Paged.scan_ok (check_keyword_ok hkeyword') hscanned
      exact ⟨blocks, (suffices_iff hkeyword').mp hsuffices⟩
  · rintro ⟨blocks, hblocks⟩
    have hlength : (remaining db userId (applyPreset query)).length < fuel := by
      have hle : (remaining db userId (applyPreset query)).length ≤ _ := hsuffix.sublist.length_le
      exact (hle.trans (askedFor_length_le ..)).trans_lt hfuel
    obtain ⟨records, hscanned⟩ := Paged.scan_returns (check_keyword_ok hkeyword')
      (resolveFetchLimit_range query (applyPreset query)).1 hlength
      ((suffices_iff hkeyword').mpr hblocks)
    rw [hscanned] at hscan
    rw [hscan] at hrun
    obtain ⟨blocks', hsuffices, hrecords⟩ := Paged.scan_ok (check_keyword_ok hkeyword') hscanned
    obtain ⟨htake, hmore⟩ := hsuffices.page
    rw [List.nil_append] at hrecords
    exact ⟨_, _, hrun, searchPage_remaining toLowerCase db userId (applyPreset query) keyword,
      pageFrom_pageOf (hrecords ▸ htake) (hrecords ▸ hmore)⟩

/-! ## A search in the inbox -/

/-- Lower case, for the letters of English. -/
def asciiLowerCase (s : String) : String := .ofList (s.toList.map Char.toLower)

/-- The inbox has a notification that is no alert. -/
theorem keyword_search_fails :
    ¬ ∀ query keyword, searchedKeyword query = some keyword →
      SearchExact asciiLowerCase 4 inboxShop 10 query keyword := by
  intro hexact
  obtain ⟨page, rows, hpage, -⟩ := hexact { keyword := some "TEA" } "TEA" (by decide +kernel)
  have hfails : ((listUserNotificationPage asciiLowerCase 4 10 { keyword := some "TEA" }).run
      inboxShop).1.map (fun _ => ()) = .error .typeError := by
    decide +kernel
  rw [hpage] at hfails
  cases hfails

/-- The alerts of the inbox that are about tea. -/
def teaAlerts : ListNotificationsQueryDto where
  keyword := some " TEA "
  inventoryAlertKind := some (.only .attention)
  limit_range := limit_range_none

theorem keyword_search_exact_iff_alerts :
    SearchExact asciiLowerCase 4 inboxShop 10 teaAlerts "TEA" ↔
      SearchableBlocks asciiLowerCase inboxShop 10 (applyPreset teaAlerts) "TEA"
        (resolveFetchLimit (pageLimit teaAlerts) (applyPreset teaAlerts)) (pageLimit teaAlerts) :=
  keyword_search_exact_iff (by decide +kernel) (by decide)

end WerTe.NotificationsService
