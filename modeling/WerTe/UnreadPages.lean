import WerTe.NotificationSearch

/-!
# Paging through what is unread

A user pages through the unread notifications and marks as read what was given out. The cursor of
the next page is then a notification that is no longer asked for, and the query, which starts at the
cursor's row and skips one, skips a notification that was not given out.

* `MarkedRead`: what marking changes, and what it leaves
* `PagingRun`: pages and marks in any order, also marks while a page is put together
* `unread_paging_lossless_iff`: a run to the last page gives out every notification that stays
  unread if and only if no page is fetched with a skip of this kind
-/

namespace WerTe.NotificationsService

open ReadCommitted NotificationsRepository

variable {toLowerCase : String → String} {userId : Id} {query : ListNotificationsQueryDto}
  {fuel : ℕ} {ids : List Id} {db₀ db db' : Store}

/-! ## Marking -/

/-- One call that marks some of the notifications as read. -/
inductive MarkStep (userId : Id) (ids : List Id) (db db' : Store) : Prop
  | one (readAt : Date) (id : Id) (record : Option NotificationCenterRecord) :
    id ∈ ids → (markRead readAt id userId).run db = .ok (record, db') → MarkStep userId ids db db'
  | many (readAt : Date) (chosen : List Id) (records : List NotificationCenterRecord) :
    chosen ⊆ ids → (markManyRead readAt chosen userId).run db = .ok (records, db') →
      MarkStep userId ids db db'

/-- Any number of such calls. -/
def Marks (userId : Id) (ids : List Id) : Store → Store → Prop :=
  Relation.ReflTransGen (MarkStep userId ids)

/-- Of these notifications some were marked as read, and nothing else was changed. -/
structure MarkedRead (ids : List Id) (db db' : Store) : Prop where
  same : Db.SameOn (· ≠ .notification) db db'
  others : ∀ i, i ∉ ids → db'.get (.notification, i) = db.get (.notification, i)
  marked : ∀ i notification, db.get (.notification, i) = some notification →
    ∃ readAt, db'.get (.notification, i) = some { notification with readAt }

theorem MarkedRead.refl (ids : List Id) (db : Store) : MarkedRead ids db db where
  same := .refl db
  others _ _ := rfl
  marked _ notification h := ⟨notification.readAt, h⟩

theorem MarkedRead.trans {db'' : Store} (h : MarkedRead ids db db') (h' : MarkedRead ids db' db'') :
    MarkedRead ids db db'' where
  same := h.same.trans h'.same
  others i hi := (h'.others i hi).trans (h.others i hi)
  marked i notification hget := by
    obtain ⟨readAt, hget'⟩ := h.marked i notification hget
    obtain ⟨readAt', hget''⟩ := h'.marked i _ hget'
    exact ⟨readAt', hget''⟩

theorem MarkedRead.mono {ids' : List Id} (hids : ids ⊆ ids') (h : MarkedRead ids db db') :
    MarkedRead ids' db db' :=
  ⟨h.same, fun i hi => h.others i fun hmem => hi (hids hmem), h.marked⟩

/-- Writes that set only the time of reading. -/
theorem markedRead_apply {ws : List (Write Row)}
    (h : ∀ w ∈ ws, ∃ i ∈ ids, ∃ notification readAt, db.get (.notification, i) = some notification ∧
      w = ⟨.notification, i, some { notification with readAt }⟩) :
    MarkedRead ids db (db.apply ws) where
  same := .of_writes fun w hw => by
    obtain ⟨i, -, notification, readAt, -, rfl⟩ := h w hw
    simp
  others i hi := by
    obtain hkept | ⟨r, hw, -⟩ := Db.get_apply_cases ws .notification i db
    · exact hkept
    · obtain ⟨j, hj, notification, readAt, -, heq⟩ := h _ hw
      cases heq
      exact absurd hj hi
  marked i notification hget := by
    obtain hkept | ⟨r, hw, hr⟩ := Db.get_apply_cases ws .notification i db
    · exact ⟨notification.readAt, hkept.trans hget⟩
    · obtain ⟨j, -, stored, readAt, hstored, heq⟩ := h _ hw
      cases heq
      rw [hget] at hstored
      cases hstored
      exact ⟨readAt, hr⟩

theorem markedRead_put {i : Id} (hi : i ∈ ids) {notification : Notification}
    (hget : db.get (.notification, i) = some notification) (readAt : Option Date) :
    MarkedRead ids db (db.put ⟨.notification, i, some { notification with readAt }⟩) := by
  change MarkedRead ids db (db.apply [_])
  refine markedRead_apply fun w hw => ?_
  exact ⟨i, hi, notification, readAt, hget, List.mem_singleton.mp hw⟩

theorem MarkStep.markedRead (h : MarkStep userId ids db db') : MarkedRead ids db db' := by
  cases h with
  | one readAt id record hid hrun =>
    have hrest := Tx.run_read_bind_ok hrun
    cases hget : db.get (.notification, id) with
    | none =>
      simp only [hget, Option.bind_none] at hrest
      cases hrest
      exact .refl ids db
    | some notification =>
      by_cases huser : notification.userId = userId
      · simp only [hget, Option.bind_some, huser, if_true] at hrest
        by_cases hunread : notification.readAt = none
        · rw [if_neg (by simpa [notificationCenterInclude] using hunread)] at hrest
          obtain ⟨u, db₁, hupdate, hpure⟩ := Tx.run_bind_ok hrest
          cases hpure
          obtain ⟨stored, hstored, rfl⟩ := Tx.run_updateExisting_ok hupdate
          exact markedRead_put hid hstored (some readAt)
        · rw [if_pos (by simpa [notificationCenterInclude] using hunread)] at hrest
          cases hrest
          exact .refl ids db
      · simp only [hget, Option.bind_some, huser, if_false] at hrest
        cases hrest
        exact .refl ids db
  | many readAt chosen records hchosen hrun =>
    have hrest := Tx.run_read_bind_ok hrun
    obtain ⟨u, db₁, hupdate, hread⟩ := Tx.run_bind_ok hrest
    cases hupdate
    cases hread
    refine markedRead_apply fun w hw => ?_
    obtain ⟨⟨i, notification⟩, hrow, rfl⟩ := List.mem_map.mp hw
    obtain ⟨hstored, hunread⟩ := List.mem_filter.mp hrow
    refine ⟨i, hchosen ?_, notification, some readAt, (Db.mem_list.mp hstored).1, rfl⟩
    obtain ⟨row, hexisting, rfl⟩ := List.mem_map.mp (of_decide_eq_true hunread)
    have hfound := List.mem_of_mem_filter hexisting
    rw [newestFirst, List.mem_insertionSort] at hfound
    exact of_decide_eq_true (List.mem_filter.mp hfound).2

theorem Marks.markedRead (h : Marks userId ids db db') : MarkedRead ids db db' := by
  induction h with
  | refl => exact .refl ids db
  | tail _ hstep ih => exact ih.trans hstep.markedRead

/-- Marks of what stands at the place or before it are changes before the place. -/
theorem MarkedRead.changesBefore {place : Option (ℤ ×ₗ ℕ)}
    (hids : ∀ i ∈ ids, ∃ notification, db₀.get (.notification, i) = some notification ∧
      ∃ k ∈ place, k ≤ position (i, notification))
    (h : MarkedRead ids db₀ db) (h' : MarkedRead ids db₀ db') : ChangesBefore place db db' where
  same := h.same.symm.trans h'.same
  kept row hrow := by
    by_cases hmem : row.1 ∈ ids
    · -- the row stands after the place, and what was marked does not
      obtain ⟨notification, hget, k, hk, hle⟩ := hids _ hmem
      have hnot : ∀ readAt : Option Date, some { notification with readAt } ≠ some row.2 := by
        intro readAt heq
        have hposition : position row = position (row.1, notification) := by
          rw [position, ← Option.some.inj heq]
          rfl
        exact absurd (hrow k hk) (not_lt.mpr (hposition ▸ hle))
      obtain ⟨readAt, hdb⟩ := h.marked _ _ hget
      obtain ⟨readAt', hdb'⟩ := h'.marked _ _ hget
      rw [hdb, hdb']
      exact iff_of_false (hnot readAt) (hnot readAt')
    · rw [h.others _ hmem, h'.others _ hmem]

/-! ## What is listed -/

theorem entityOf_congr {place : Option (ℤ ×ₗ ℕ)} (h : ChangesBefore place db db')
    (row : Id × Notification) : entityOf db' row = entityOf db row := by
  have hlog : Tbl.auditLog ≠ .notification := by decide
  simp only [entityOf, AuditRepository.findInventoryAlertAcknowledgementLogs,
    AuditRepository.findInventoryAlertLifecycleLogs, notificationCenterInclude_congr h,
    h.same.list hlog]

/-- The notification passes the filters and contains the keyword, if there is one. -/
def wanted (toLowerCase : String → String) (db : Store) (query : ListNotificationsQueryDto)
    (row : Id × Notification) : Bool :=
  passes db query row &&
    (searchedKeyword query).all (containsKeyword toLowerCase (entityOf db row))

theorem wanted_congr {place : Option (ℤ ×ₗ ℕ)} (h : ChangesBefore place db db') :
    wanted toLowerCase db' query = wanted toLowerCase db query := by
  funext row
  rw [wanted, wanted, passes, passes, entityOf_congr h]

theorem check_ok_wanted (row : Id × Notification) (b : Bool)
    (h : check toLowerCase db query row = .ok b) : b = wanted toLowerCase db query row := by
  cases hkeyword : searchedKeyword query with
  | none => simpa [wanted, hkeyword] using check_ok hkeyword row b h
  | some keyword => simpa [wanted, hkeyword, found] using check_keyword_ok hkeyword row b h

/-- A notification of the user that meets the filters and contains the keyword. -/
structure Listed (toLowerCase : String → String) (db : Store) (userId : Id)
    (query : ListNotificationsQueryDto) (row : Id × Notification) : Prop
    extends Matching db userId query row where
  keyword : ∀ keyword ∈ searchedKeyword query,
    ContainsKeyword toLowerCase (entityOf db row) keyword

/-- The user's notifications that are listed, the newest first. -/
def listed (toLowerCase : String → String) (db : Store) (userId : Id)
    (query : ListNotificationsQueryDto) : List (Id × Notification) :=
  (askedFor db userId query).filter (wanted toLowerCase db query)

theorem mem_listed {row : Id × Notification} :
    row ∈ listed toLowerCase db userId query ↔ Listed toLowerCase db userId query row := by
  rw [listed, List.mem_filter, wanted, Bool.and_eq_true, ← and_assoc, passes, ← matching_iff]
  constructor
  · rintro ⟨hmatching, hkeyword⟩
    refine ⟨hmatching, fun keyword hsearched => containsKeyword_iff.mp ?_⟩
    rw [Option.mem_def.mp hsearched] at hkeyword
    exact hkeyword
  · intro h
    refine ⟨h.toMatching, ?_⟩
    cases hkeyword : searchedKeyword query with
    | none => rfl
    | some keyword => exact containsKeyword_iff.mpr (h.keyword keyword hkeyword)

theorem listed_descending (toLowerCase : String → String) (db : Store) (userId : Id)
    (query : ListNotificationsQueryDto) :
    Paged.Descending position (listed toLowerCase db userId query) :=
  (selectByUserId_descending ..).filter _

/-! ## A run -/

/-- The database, and the pages that were given out. -/
structure PagingSession where
  db : Store
  pages : List NotificationCenterPage := []

namespace PagingSession

/-- The notifications that were given out. -/
def delivered (s : PagingSession) : List Id := (s.pages.flatMap (·.notifications)).map (·.id)

/-- The cursor of the next page. -/
def cursor (s : PagingSession) : Option Id := s.pages.getLast?.bind (·.nextCursor)

/-- The last page has said that there are no more. -/
def Finished (s : PagingSession) : Prop := ∃ page ∈ s.pages.getLast?, page.hasMore = false

/-- The next page skips a notification: the cursor's one was marked as read, and the first that
comes after it is listed. -/
def LosesOne (toLowerCase : String → String) (userId : Id) (query : ListNotificationsQueryDto)
    (s : PagingSession) : Prop :=
  ∃ id notification, s.cursor = some id ∧ s.db.get (.notification, id) = some notification ∧
    notification.readAt ≠ none ∧
    ∃ row, (Paged.after position (askedFor s.db userId (applyPreset query))
        (some (position (id, notification)))).head? = some row ∧
      wanted toLowerCase s.db (applyPreset query) row = true

theorem losesOne_iff {s : PagingSession} {id : Id} {notification : Notification}
    (hcursor : s.cursor = some id) (hget : s.db.get (.notification, id) = some notification) :
    s.LosesOne toLowerCase userId query ↔ notification.readAt ≠ none ∧
      ∃ row, (Paged.after position (askedFor s.db userId (applyPreset query))
          (some (position (id, notification)))).head? = some row ∧
        wanted toLowerCase s.db (applyPreset query) row = true := by
  constructor
  · rintro ⟨id', notification', hid, hstored, hloses⟩
    rw [hcursor] at hid
    cases hid
    rw [hget] at hstored
    cases hstored
    exact hloses
  · exact fun h => ⟨id, notification, hcursor, hget, h⟩

end PagingSession

/-- Pages and marks in any order; `fetched` are the states that a page was fetched in. What is
marked was given out before, and is also marked while a page is put together. -/
inductive PagingRun (toLowerCase : String → String) (fuel : ℕ) (userId : Id)
    (query : ListNotificationsQueryDto) (db : Store) : List PagingSession → PagingSession → Prop
  | start : PagingRun toLowerCase fuel userId query db [] { db }
  | mark {fetched : List PagingSession} {s : PagingSession} {db' : Store} :
    PagingRun toLowerCase fuel userId query db fetched s → MarkStep userId s.delivered s.db db' →
      PagingRun toLowerCase fuel userId query db fetched { s with db := db' }
  | fetch {fetched : List PagingSession} {s : PagingSession} {page : NotificationCenterPage}
      {db' : Store} :
    PagingRun toLowerCase fuel userId query db fetched s → ¬ s.Finished →
      (listUserNotificationPage toLowerCase fuel userId { query with cursor := s.cursor }).Among
        (Marks userId s.delivered) s.db (.ok (some page)) db' →
      PagingRun toLowerCase fuel userId query db (fetched ++ [s])
        { db := db', pages := s.pages ++ [page] }

/-! ## Where a run stands -/

section Progress

variable {s : PagingSession} {given remaining : List (Id × Notification)}

@[simp] theorem wanted_withCursor (toLowerCase : String → String) (db : Store)
    (query : ListNotificationsQueryDto) (cursor : Option Id) :
    wanted toLowerCase db (applyPreset { query with cursor }) =
      wanted toLowerCase db (applyPreset query) := by
  rw [applyPreset_withCursor]
  rfl

/-- How far a run has come that started in `db`: what was given out, and what is still to come. -/
structure Progress (toLowerCase : String → String) (db : Store) (userId : Id)
    (query : ListNotificationsQueryDto) (s : PagingSession)
    (given remaining : List (Id × Notification)) : Prop where
  marked : MarkedRead (given.map (·.1)) db s.db
  pages : s.pages.flatMap (·.notifications) = given.map (entityOf db)
  order : (given ++ remaining).Sublist (listed toLowerCase db userId query)
  /-- The run starts, has its cursor at what was given out last, or has come to its end. -/
  place : (s.pages = [] ∧ given = [] ∧ remaining = listed toLowerCase db userId query) ∨
    (∃ init last, ¬ s.Finished ∧ s.cursor = some last.1 ∧ given = init ++ [last] ∧
      remaining = Paged.after position (listed toLowerCase db userId query)
        (some (position last))) ∨
    s.Finished ∧ remaining = []

theorem Progress.start (toLowerCase : String → String) (db : Store) (userId : Id)
    (query : ListNotificationsQueryDto) :
    Progress toLowerCase db userId query { db } [] (listed toLowerCase db userId query) :=
  ⟨.refl _ _, rfl, List.Sublist.refl _, .inl ⟨rfl, rfl, rfl⟩⟩

theorem Progress.delivered (h : Progress toLowerCase db₀ userId query s given remaining) :
    s.delivered = given.map (·.1) := by
  rw [PagingSession.delivered, h.pages, List.map_map]
  rfl

theorem Progress.mark (h : Progress toLowerCase db₀ userId query s given remaining)
    (hmark : MarkStep userId s.delivered s.db db') :
    Progress toLowerCase db₀ userId query { s with db := db' } given remaining :=
  ⟨h.marked.trans (h.delivered ▸ hmark.markedRead), h.pages, h.order, h.place⟩

theorem Progress.suffix (h : Progress toLowerCase db₀ userId query s given remaining) :
    remaining <:+ listed toLowerCase db₀ userId query := by
  obtain ⟨-, -, rfl⟩ | ⟨init, last, -, -, -, rfl⟩ | ⟨-, rfl⟩ := h.place
  · exact List.suffix_rfl
  · exact (listed_descending ..).after_suffix _
  · exact List.nil_suffix

/-- While notifications are marked that were given out, what comes after the last of them stays. -/
theorem Progress.changesBefore {init : List (Id × Notification)} {last : Id × Notification}
    (h : Progress toLowerCase db₀ userId query s (init ++ [last]) remaining)
    (hdb : MarkedRead ((init ++ [last]).map (·.1)) db₀ db)
    (hdb' : MarkedRead ((init ++ [last]).map (·.1)) db₀ db') :
    ChangesBefore (some (position last)) db db' := by
  have hdescending : Paged.Descending position (init ++ [last]) :=
    (listed_descending ..).sublist ((List.sublist_append_left ..).trans h.order)
  refine MarkedRead.changesBefore (fun i hi => ?_) hdb hdb'
  obtain ⟨row, hrow, rfl⟩ := List.mem_map.mp hi
  have hlisted := mem_listed.mp (h.order.subset (List.mem_append_left _ hrow))
  refine ⟨row.2, hlisted.stored, position last, rfl, ?_⟩
  obtain hinit | hlast := List.mem_append.mp hrow
  · exact ((List.pairwise_append.mp hdescending).2.2 row hinit last (List.mem_singleton_self _)).le
  · rw [List.mem_singleton.mp hlast]

/-- What the next page is taken from: `rest` comes after the cursor, whatever is marked meanwhile,
and what of it is listed is still to come; or all but one of what is still to come. -/
structure Next (toLowerCase : String → String) (db : Store) (userId : Id)
    (query : ListNotificationsQueryDto) (s : PagingSession)
    (given remaining : List (Id × Notification)) (place : Option (ℤ ×ₗ ℕ))
    (rest : List (Id × Notification)) : Prop where
  changes : ∀ db₁ db₂, MarkedRead (given.map (·.1)) db db₁ ∧ MarkedRead (given.map (·.1)) db db₂ →
    ChangesBefore place db₁ db₂
  suffix : rest <:+ Paged.after position (askedFor s.db userId (applyPreset query)) place
  cursor : afterCursor s.db (askedFor s.db userId (applyPreset query)) s.cursor = rest
  kept : ¬ s.LosesOne toLowerCase userId query →
    rest.filter (wanted toLowerCase s.db (applyPreset query)) = remaining
  lost : s.LosesOne toLowerCase userId query → ∃ lost, remaining =
    lost :: rest.filter (wanted toLowerCase s.db (applyPreset query))

/-- At a cursor that was marked as read the first that comes after it is lost. -/
theorem Progress.next_more (hunread : (applyPreset query).unreadOnly = some true)
    {init : List (Id × Notification)} {last : Id × Notification}
    (h : Progress toLowerCase db₀ userId (applyPreset query) s (init ++ [last]) remaining)
    (hcursor : s.cursor = some last.1) (hremaining : remaining =
      Paged.after position (listed toLowerCase db₀ userId (applyPreset query))
        (some (position last))) :
    ∃ rest, Next toLowerCase db₀ userId query s (init ++ [last]) remaining (some (position last))
      rest := by
  have hmarks : ∀ db₁ db₂ : Store, MarkedRead ((init ++ [last]).map (·.1)) db₀ db₁ ∧
      MarkedRead ((init ++ [last]).map (·.1)) db₀ db₂ →
        ChangesBefore (some (position last)) db₁ db₂ := fun _ _ hdb => h.changesBefore hdb.1 hdb.2
  have hchanges := hmarks db₀ s.db ⟨.refl _ db₀, h.marked⟩
  have hafter : Paged.after position (askedFor s.db userId (applyPreset query))
      (some (position last)) = Paged.after position (askedFor db₀ userId (applyPreset query))
        (some (position last)) := hchanges.after _ _
  have hfilter : (Paged.after position (askedFor s.db userId (applyPreset query))
      (some (position last))).filter (wanted toLowerCase s.db (applyPreset query)) = remaining := by
    rw [hafter, wanted_congr hchanges, Paged.filter_after, hremaining]
    rfl
  have hmem : last ∈ listed toLowerCase db₀ userId (applyPreset query) :=
    h.order.subset (by simp)
  have hasked := (mem_selectByUserId.mp (matching_iff.mp (mem_listed.mp hmem).toMatching).1).2
  obtain ⟨readAt, hget⟩ := h.marked.marked _ _ (mem_listed.mp hmem).stored
  have hloses : s.LosesOne toLowerCase userId query ↔ _ :=
    PagingSession.losesOne_iff hcursor hget
  have hdrop : afterCursor s.db (askedFor s.db userId (applyPreset query)) s.cursor =
      (Paged.atOrAfter position (askedFor s.db userId (applyPreset query))
        (position last)).drop 1 := by
    rw [hcursor]
    simp only [afterCursor, hget]
    rfl
  have honly : (applyPreset query).unreadOnly.getD false = true := by rw [hunread]; rfl
  have hunreadLast : last.2.readAt = none := hasked.unread honly
  cases readAt with
  | none =>
    -- the cursor's notification is still asked for
    have hsame : { last.2 with readAt := none } = last.2 := by rw [← hunreadLast]
    rw [hsame] at hget
    have hstill : last ∈ askedFor s.db userId (applyPreset query) :=
      mem_selectByUserId.mpr ⟨hget, hasked⟩
    refine ⟨_, hmarks, List.suffix_rfl, ?_, fun _ => hfilter, fun hlost => ?_⟩
    · rw [hdrop, Paged.atOrAfter_drop_one (askedFor_descending ..) hstill]
    · exact absurd rfl (hloses.mp hlost).1
  | some time =>
    have hnot : ∀ row ∈ askedFor s.db userId (applyPreset query),
        position row ≠ position last := by
      intro row hrow hposition
      obtain ⟨hstored, hrowAsked⟩ := mem_selectByUserId.mp hrow
      have hid : row.1 = last.1 := congrArg (fun p => (ofLex p).2) hposition
      rw [hid, hget] at hstored
      have hread := hrowAsked.unread honly
      rw [← Option.some.inj hstored] at hread
      cases hread
    refine ⟨_, hmarks, List.drop_suffix 1 _, ?_, fun hkept => ?_, fun hlost => ?_⟩
    · rw [hdrop, Paged.atOrAfter_drop_one_of_notMem hnot]
    · rw [← hfilter]
      exact Paged.filter_drop_one fun hhead => hkept (hloses.mpr ⟨by simp, hhead⟩)
    · obtain ⟨-, row, hhead, hwanted⟩ := hloses.mp hlost
      rw [← hfilter]
      exact ⟨row, Paged.filter_of_head hhead hwanted⟩

theorem finished_concat {s : PagingSession} {page : NotificationCenterPage} :
    PagingSession.Finished { db := db', pages := s.pages ++ [page] } ↔ page.hasMore = false := by
  simp [PagingSession.Finished]

/-- A page that is taken from the end of the list. -/
theorem Progress.page {matching : List (Id × Notification)} {page : NotificationCenterPage}
    (h : Progress toLowerCase db₀ userId query s given remaining)
    (horder : (given ++ matching).Sublist (listed toLowerCase db₀ userId query))
    (hsuffix : matching <:+ listed toLowerCase db₀ userId query)
    (hdb' : MarkedRead (given.map (·.1)) db₀ db') {limit : ℕ} (hlimit : 1 ≤ limit)
    (hentity : entityOf s.db = entityOf db₀) (hpage : PageOf s.db limit matching page) :
    Progress toLowerCase db₀ userId query { db := db', pages := s.pages ++ [page] }
      (given ++ matching.take limit) (matching.drop limit) where
  marked := hdb'.mono (List.map_subset _ (List.subset_append_left ..))
  pages := by
    rw [List.flatMap_append, h.pages, List.flatMap_singleton, hpage.notifications, hentity,
      List.map_append]
  order := by
    rw [List.append_assoc, List.take_append_drop]
    exact horder
  place := by
    by_cases hmore : limit < matching.length
    · obtain ⟨init, last, hlast⟩ : ∃ init last, matching.take limit = init ++ [last] := by
        have hne : matching.take limit ≠ [] := by
          rw [← List.length_pos_iff, List.length_take]
          omega
        exact ⟨_, _, (List.dropLast_append_getLast hne).symm⟩
      refine .inr (.inl ⟨given ++ init, last, ?_, ?_, ?_, ?_⟩)
      · rw [finished_concat, hpage.hasMore, decide_eq_true hmore]
        simp
      · simp [PagingSession.cursor, hpage.nextCursor, hmore, hlast]
      · rw [hlast, List.append_assoc]
      · exact ((listed_descending ..).after_page hsuffix hlast).symm
    · refine .inr (.inr ⟨?_, List.drop_eq_nil_of_le (by omega)⟩)
      rw [finished_concat, hpage.hasMore, decide_eq_false hmore]

/-- Before the end there is a next page. -/
theorem Progress.next (hunread : (applyPreset query).unreadOnly = some true)
    (h : Progress toLowerCase db₀ userId (applyPreset query) s given remaining)
    (hmore : ¬ s.Finished) :
    ∃ place rest, Next toLowerCase db₀ userId query s given remaining place rest := by
  obtain ⟨hpages, rfl, rfl⟩ | ⟨init, last, -, hcursor, rfl, hremaining⟩ | ⟨hfinished, -⟩ := h.place
  · have hmarks : ∀ db₁ db₂ : Store, MarkedRead [] db₀ db₁ ∧ MarkedRead [] db₀ db₂ →
        ChangesBefore none db₁ db₂ := fun _ _ hdb => MarkedRead.changesBefore (by simp) hdb.1 hdb.2
    have hchanges := hmarks db₀ s.db ⟨.refl _ db₀, h.marked⟩
    have hcursor : s.cursor = none := by simp [PagingSession.cursor, hpages]
    have hasked : askedFor s.db userId (applyPreset query) =
      askedFor db₀ userId (applyPreset query) := hchanges.after _ _
    refine ⟨none, _, hmarks, List.suffix_rfl, ?_, fun _ => ?_, ?_⟩
    · rw [hcursor]
      rfl
    · rw [Paged.after, hasked, wanted_congr hchanges, listed]
    · rintro ⟨id, _, hid, -⟩
      rw [hcursor] at hid
      cases hid
  · exact ⟨_, h.next_more hunread hcursor hremaining⟩
  · exact absurd hfinished hmore

/-- The next page, while notifications are marked that were given out: the scan of what is left. -/
theorem Progress.scan (h : Progress toLowerCase db₀ userId (applyPreset query) s given remaining)
    {place : Option (ℤ ×ₗ ℕ)} {rest : List (Id × Notification)}
    (hnext : Next toLowerCase db₀ userId query s given remaining place rest)
    {r : Except Failure (Option NotificationCenterPage)}
    (hpage : (listUserNotificationPage toLowerCase fuel userId
      { query with cursor := s.cursor }).Among (Marks userId s.delivered) s.db r db') :
    MarkedRead (given.map (·.1)) db₀ db' ∧
      r = (Paged.scan (check toLowerCase s.db (applyPreset { query with cursor := s.cursor }))
        (resolveFetchLimit (pageLimit query) (applyPreset { query with cursor := s.cursor }))
        (pageLimit query + 1) fuel rest []).map (Option.map fun found =>
          pageFrom { query with cursor := s.cursor } (found.map (entityOf s.db))) := by
  have hreadOnly := listUserNotificationPage_readOnly toLowerCase fuel userId
    { query with cursor := s.cursor }
  obtain ⟨hamong, hdb'⟩ := hreadOnly.among
    (fun _ _ hdb hmarks => hdb.trans (h.delivered ▸ Marks.markedRead hmarks)) h.marked hpage
  have hsuffix : rest <:+ Paged.after position
      (askedFor s.db userId (applyPreset { query with cursor := s.cursor })) place := by
    rw [askedFor_withCursor]
    exact hnext.suffix
  have hcursor : afterCursor s.db
      (askedFor s.db userId (applyPreset { query with cursor := s.cursor })) s.cursor = rest := by
    rw [askedFor_withCursor]
    exact hnext.cursor
  exact ⟨hdb', (page_among hnext.changes hsuffix hcursor hamong).2⟩

/-- One page: what it takes from what is still to come, and what is lost. -/
theorem Progress.fetch (hunread : (applyPreset query).unreadOnly = some true)
    (h : Progress toLowerCase db₀ userId (applyPreset query) s given remaining)
    (hmore : ¬ s.Finished) {page : NotificationCenterPage}
    (hpage : (listUserNotificationPage toLowerCase fuel userId
      { query with cursor := s.cursor }).Among (Marks userId s.delivered) s.db (.ok (some page))
        db') :
    ∃ given' remaining', Progress toLowerCase db₀ userId (applyPreset query)
        { db := db', pages := s.pages ++ [page] } given' remaining' ∧
      (¬ s.LosesOne toLowerCase userId query → given' ++ remaining' = given ++ remaining) ∧
      (s.LosesOne toLowerCase userId query →
        (given' ++ remaining').length < (given ++ remaining).length) := by
  obtain ⟨place, rest, hnext⟩ := h.next hunread hmore
  obtain ⟨hdb', hscan⟩ := h.scan hnext hpage
  have hof := pageOf_scan check_ok_wanted hscan
  rw [wanted_withCursor] at hof
  generalize hmatching : rest.filter (wanted toLowerCase s.db (applyPreset query)) = matching at hof
  have hkept := hmatching ▸ hnext.kept
  have hlost := hmatching ▸ hnext.lost
  have htail : matching <:+ remaining := by
    by_cases hloses : s.LosesOne toLowerCase userId query
    · obtain ⟨lost, rfl⟩ := hlost hloses
      exact List.suffix_cons lost matching
    · rw [hkept hloses]
  have hentity : entityOf s.db = entityOf db₀ :=
    funext (entityOf_congr (hnext.changes db₀ s.db ⟨.refl _ db₀, h.marked⟩))
  have horder := (List.Sublist.append_left htail.sublist given).trans h.order
  have hpageLimit : 1 ≤ pageLimit query := (pageLimit_range query).1
  refine ⟨_, _, h.page horder (htail.trans h.suffix) hdb' hpageLimit hentity hof, ?_, ?_⟩
  · intro hloses
    rw [List.append_assoc, List.take_append_drop, hkept hloses]
  · intro hloses
    obtain ⟨lost, rfl⟩ := hlost hloses
    rw [List.append_assoc, List.take_append_drop]
    simp

/-- With blocks enough the loop comes to an end. -/
theorem Progress.fetch_comes_back (hunread : (applyPreset query).unreadOnly = some true)
    (h : Progress toLowerCase db₀ userId (applyPreset query) s given remaining)
    (hmore : ¬ s.Finished) (hfuel : notificationCount db₀ < fuel) :
    ¬ (listUserNotificationPage toLowerCase fuel userId
      { query with cursor := s.cursor }).Among (Marks userId s.delivered) s.db (.ok none) db' := by
  intro hpage
  obtain ⟨place, rest, hnext⟩ := h.next hunread hmore
  obtain ⟨-, hscan⟩ := h.scan hnext hpage
  have hafter : Paged.after position (askedFor s.db userId (applyPreset query)) place =
      Paged.after position (askedFor db₀ userId (applyPreset query)) place :=
    (hnext.changes db₀ s.db ⟨.refl _ db₀, h.marked⟩).after _ _
  have hlength : rest.length ≤ notificationCount db₀ := by
    refine le_trans ?_ (askedFor_length_le db₀ userId (applyPreset query))
    exact ((hafter ▸ hnext.suffix).trans ((askedFor_descending ..).after_suffix place)).length_le
  generalize hscanned : Paged.scan _ _ _ _ _ _ = scanned at hscan
  rcases scanned with e | _ | found
  · cases hscan
  · exact Paged.scan_ne_none (resolveFetchLimit_range query _).1 (by omega) hscanned
  · cases hscan

end Progress

/-! ## Whole runs -/

section Runs

variable {fetched : List PagingSession} {s : PagingSession}

/-- Nothing is lost on the way just when no page has lost one. -/
theorem PagingRun.progress (hunread : (applyPreset query).unreadOnly = some true)
    (h : PagingRun toLowerCase fuel userId query db fetched s) :
    ∃ given remaining, Progress toLowerCase db userId (applyPreset query) s given remaining ∧
      (given ++ remaining = listed toLowerCase db userId (applyPreset query) ↔
        ∀ f ∈ fetched, ¬ f.LosesOne toLowerCase userId query) := by
  induction h with
  | start => exact ⟨[], _, .start .., by simp⟩
  | mark _ hmark ih =>
    obtain ⟨given, remaining, hprogress, hlossless⟩ := ih
    exact ⟨given, remaining, hprogress.mark hmark, hlossless⟩
  | @fetch fetched s page db' _ hmore hpage ih =>
    obtain ⟨given, remaining, hprogress, hlossless⟩ := ih
    obtain ⟨given', remaining', hprogress', hkept, hlost⟩ := hprogress.fetch hunread hmore hpage
    refine ⟨given', remaining', hprogress', ?_⟩
    rw [List.forall_mem_append, List.forall_mem_singleton, ← hlossless]
    by_cases hloses : s.LosesOne toLowerCase userId query
    · -- what is lost once does not come back
      refine iff_of_false (fun hall => ?_) fun h => h.2 hloses
      have hshorter := hlost hloses
      rw [hall] at hshorter
      exact absurd hprogress.order.length_le (not_le.mpr hshorter)
    · rw [hkept hloses, and_iff_left hloses]

/-- **Every page comes back**: with as many blocks as there are notifications the loop of a page
comes to an end, whatever is marked meanwhile. -/
theorem PagingRun.comes_back (hunread : (applyPreset query).unreadOnly = some true)
    (hrun : PagingRun toLowerCase fuel userId query db fetched s) (hmore : ¬ s.Finished)
    (hfuel : notificationCount db < fuel) (db' : Store) :
    ¬ (listUserNotificationPage toLowerCase fuel userId
      { query with cursor := s.cursor }).Among (Marks userId s.delivered) s.db (.ok none) db' := by
  obtain ⟨given, remaining, hprogress, -⟩ := hrun.progress hunread
  exact hprogress.fetch_comes_back hunread hmore hfuel

/-- The notification is unread. -/
def Unread (db : Store) (id : Id) : Prop :=
  ∃ notification, db.get (.notification, id) = some notification ∧ notification.readAt = none

theorem listed_nodup (toLowerCase : String → String) (db : Store) (userId : Id)
    (query : ListNotificationsQueryDto) : (listed toLowerCase db userId query).Nodup :=
  (listed_descending toLowerCase db userId query).imp fun h => by
    rintro rfl
    exact lt_irrefl _ h

/-- Different rows that are listed have different ids. -/
theorem listed_ids_nodup (toLowerCase : String → String) (db : Store) (userId : Id)
    (query : ListNotificationsQueryDto) :
    ((listed toLowerCase db userId query).map (·.1)).Nodup := by
  refine (listed_nodup ..).map_on fun a ha b hb hid => Prod.ext hid ?_
  have hget := (mem_listed.mp ha).stored
  rw [hid, (mem_listed.mp hb).stored] at hget
  exact (Option.some.inj hget).symm

/-- **Paging through what is unread loses nothing** if and only if no page is fetched when the
cursor's notification was marked as read and the first that comes after it is listed. -/
theorem unread_paging_lossless_iff (hunread : (applyPreset query).unreadOnly = some true)
    (hrun : PagingRun toLowerCase fuel userId query db fetched s) (hfinished : s.Finished) :
    (∀ row, Listed toLowerCase db userId (applyPreset query) row → Unread s.db row.1 →
        s.delivered.count row.1 = 1) ↔
      ∀ f ∈ fetched, ¬ f.LosesOne toLowerCase userId query := by
  obtain ⟨given, remaining, hprogress, hlossless⟩ := hrun.progress hunread
  have hempty : remaining = [] := by
    obtain ⟨hpages, -⟩ | ⟨_, _, hmore, -⟩ | ⟨-, hend⟩ := hprogress.place
    · simp [PagingSession.Finished, hpages] at hfinished
    · exact absurd hfinished hmore
    · exact hend
  rw [← hlossless, hprogress.delivered, hempty, List.append_nil]
  have horder := hprogress.order
  rw [hempty, List.append_nil] at horder
  constructor
  · intro hall
    refine horder.eq_of_length_le ((listed_nodup ..).subperm fun row hrow => ?_).length_le
    -- what was not given out was not marked, and is unread to the end
    by_contra hnot
    have hlisted := mem_listed.mp hrow
    have hid : row.1 ∉ given.map (·.1) := by
      intro hmem
      obtain ⟨other, hother, hsame⟩ := List.mem_map.mp hmem
      have hsameRow := List.inj_on_of_nodup_map (listed_ids_nodup ..) (horder.subset hother) hrow
        hsame
      exact hnot (hsameRow ▸ hother)
    have hstill : Unread s.db row.1 :=
      ⟨row.2, (hprogress.marked.others _ hid).trans hlisted.stored, hlisted.unread hunread⟩
    have hcount := hall row hlisted hstill
    rw [List.count_eq_zero_of_not_mem hid] at hcount
    cases hcount
  · rintro rfl row hrow -
    exact List.count_eq_one_of_mem (listed_ids_nodup ..) (List.mem_map_of_mem (mem_listed.mpr hrow))

end Runs

/-! ## The inbox -/

/-- One unread notification at a time. -/
def unreadInbox : ListNotificationsQueryDto where
  limit := some 1
  unreadOnly := some true

/-- The inbox, after its newest notification was marked as read. -/
def markedInbox : Store := inboxShop.put ⟨.notification, 3, some
  { inboxNotification .systemAlert "Stock restored: Tea"
      (.compensation teaSubject 1 9 "ORD-9" none none) 300 with readAt := some 400 }⟩

/-- Whether a page says that there are more, its cursor and what it gives out. -/
def outline (page : NotificationCenterPage) : Bool × Option Id × List Id :=
  (page.hasMore, page.nextCursor, page.notifications.map (·.id))

/-- A page that comes back when nothing else happens. -/
theorem among_outline {R : Store → Store → Prop} (hR : ∀ db, R db db)
    {shown : Bool × Option Id × List Id}
    (h : ((listUserNotificationPage toLowerCase fuel userId query).run db).1.toOption.map
      (Option.map outline) = some (some shown)) :
    ∃ page, (listUserNotificationPage toLowerCase fuel userId query).Among R db (.ok (some page))
      db ∧ outline page = shown := by
  have hrun := listUserNotificationPage_run toLowerCase fuel userId query db
  generalize ((listUserNotificationPage toLowerCase fuel userId query).run db).1 = r at h hrun
  rcases r with e | _ | page
  · cases h
  · cases h
  · refine ⟨page, (Service.among_eq_iff.mpr hrun).mono ?_, Option.some.inj (Option.some.inj h)⟩
    rintro db _ rfl
    exact hR db

/-- A page is fetched, the notification on it is marked, and the next page is the last. -/
theorem inbox_run : ∃ fetched s, PagingRun id 4 10 unreadInbox inboxShop fetched s ∧ s.Finished ∧
    s.db = markedInbox ∧ s.delivered = [3, 1] := by
  obtain ⟨first, hfirst, hshown⟩ : ∃ page, (listUserNotificationPage id 4 10
      { unreadInbox with cursor := none }).Among (Marks 10 []) inboxShop (.ok (some page))
        inboxShop ∧ outline page = (true, some 3, [3]) :=
    among_outline (fun _ => .refl) (by decide +kernel)
  obtain ⟨second, hsecond, hshown'⟩ : ∃ page, (listUserNotificationPage id 4 10
      { unreadInbox with cursor := some 3 }).Among (Marks 10 [3]) markedInbox (.ok (some page))
        markedInbox ∧ outline page = (false, none, [1]) :=
    among_outline (fun _ => .refl) (by decide +kernel)
  simp only [outline, Prod.mk.injEq] at hshown hshown'
  obtain ⟨hmore, hcursor, hids⟩ := hshown
  obtain ⟨hlast, -, hids'⟩ := hshown'
  have hone : PagingRun id 4 10 unreadInbox inboxShop [{ db := inboxShop }]
      { db := inboxShop, pages := [first] } :=
    .fetch .start (by simp [PagingSession.Finished]) hfirst
  have hdelivered : PagingSession.delivered { db := inboxShop, pages := [first] } = [3] := by
    simp [PagingSession.delivered, hids]
  obtain ⟨record, hmark⟩ : ∃ record, (markRead 400 3 10).run inboxShop =
      .ok (record, markedInbox) := ⟨_, rfl⟩
  have htwo : PagingRun id 4 10 unreadInbox inboxShop [{ db := inboxShop }]
      { db := markedInbox, pages := [first] } :=
    .mark hone (.one 400 3 record (by rw [hdelivered]; simp) hmark)
  have hnext : PagingSession.cursor { db := markedInbox, pages := [first] } = some 3 := by
    simp [PagingSession.cursor, hcursor]
  have hgiven : PagingSession.delivered { db := markedInbox, pages := [first] } = [3] := by
    simp [PagingSession.delivered, hids]
  have hthree : PagingRun id 4 10 unreadInbox inboxShop
      ([{ db := inboxShop }] ++ [{ db := markedInbox, pages := [first] }])
      { db := markedInbox, pages := [first] ++ [second] } :=
    .fetch htwo (by simp [PagingSession.Finished, hmore]) (by rw [hnext, hgiven]; exact hsecond)
  refine ⟨_, _, hthree, ?_, rfl, ?_⟩
  · simp [PagingSession.Finished, hlast]
  · simp [PagingSession.delivered, hids, hids']

theorem unread_paging_loses : ¬ ∀ fetched s,
    PagingRun id 4 10 unreadInbox inboxShop fetched s → s.Finished →
      ∀ row, Listed id inboxShop 10 (applyPreset unreadInbox) row → Unread s.db row.1 →
        s.delivered.count row.1 = 1 := by
  intro hall
  obtain ⟨fetched, s, hrun, hfinished, hdb, hdelivered⟩ := inbox_run
  have hlisted : (2, inboxNotification .orderStatusUpdated "Order placed" .other 200) ∈
      listed id inboxShop 10 (applyPreset unreadInbox) := by decide +kernel
  have hcount := hall fetched s hrun hfinished _ (mem_listed.mp hlisted)
    ⟨inboxNotification .orderStatusUpdated "Order placed" .other 200, by rw [hdb]; rfl, rfl⟩
  rw [hdelivered] at hcount
  cases hcount

theorem unread_paging_lossless_iff_inbox : ∃ fetched s,
    PagingRun id 4 10 unreadInbox inboxShop fetched s ∧
      ((∀ row, Listed id inboxShop 10 (applyPreset unreadInbox) row → Unread s.db row.1 →
          s.delivered.count row.1 = 1) ↔
        ∀ f ∈ fetched, ¬ f.LosesOne id 10 unreadInbox) := by
  obtain ⟨fetched, s, hrun, hfinished, -⟩ := inbox_run
  exact ⟨fetched, s, hrun, unread_paging_lossless_iff rfl hrun hfinished⟩

end WerTe.NotificationsService
