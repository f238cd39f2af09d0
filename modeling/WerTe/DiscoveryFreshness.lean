import WerTe.ReadCommitted.Frame
import WerTe.StoreDiscovery

/-!
# Discovery after admins' changes

What customers find comes from a cache that is thrown away when an admin has changed something,
but not when a store type has been assigned to a branch: a branch that has been hidden so is found
as before (`hidden_still_found`). If nobody who is in the cache finds the branch before, or is to
find it by the new store type, then everybody finds what there is (`discovery_fresh`).
-/

namespace WerTe

open ReadCommitted Cached StoreTypesRepository StoreTypeManagement

/-! ## What changes with a branch's store types -/

section Changes

variable {db db' db'' : Store} {b : Id} {types : Id → Prop}

/-- The row is the branch's, or that of one of its assignments. -/
def OwnWrite (b : Id) (w : Write Row) : Prop :=
  w.table = .branchStoreType ∧ w.id.unpair.1 = b ∨ w.table = .branch ∧ w.id = b

/-- Only the branch's own rows are written: the branch changes in nothing but its primary store
type, and what is approved now was approved before, unless it is one of `types`. -/
structure TypesChange (b : Id) (types : Id → Prop) (db db' : Store) : Prop where
  writes : ∃ ws, db' = db.apply ws ∧ ∀ w ∈ ws, OwnWrite b w
  branch : ∀ branch', db'.get (.branch, b) = some branch' → ∃ branch,
    db.get (.branch, b) = some branch ∧ branch' = { branch with
      primaryStoreTypeId := branch'.primaryStoreTypeId, storeType := branch'.storeType }
  approved : ∀ i assignment', db'.get (.branchStoreType, i) = some assignment' →
    approvedOf b assignment' = true → types assignment'.storeTypeId ∨ ∃ assignment,
      db.get (.branchStoreType, i) = some assignment ∧ approvedOf b assignment = true ∧
        assignment.storeTypeId = assignment'.storeTypeId
  keys : AssignmentKeys db'

theorem TypesChange.trans (h : TypesChange b types db db') (h' : TypesChange b types db' db'') :
    TypesChange b types db db'' := by
  refine ⟨?_, fun branch'' hget => ?_, fun i assignment'' hget happroved => ?_, h'.keys⟩
  · obtain ⟨ws, rfl, hws⟩ := h.writes
    obtain ⟨ws', rfl, hws'⟩ := h'.writes
    refine ⟨ws ++ ws', (Db.apply_append ..).symm, fun w hw => ?_⟩
    exact (List.mem_append.mp hw).elim (hws w) (hws' w)
  · obtain ⟨branch', hget', hbranch''⟩ := h'.branch branch'' hget
    obtain ⟨branch, hget₀, hbranch'⟩ := h.branch branch' hget'
    refine ⟨branch, hget₀, ?_⟩
    rw [hbranch'', hbranch']
  · obtain htypes | ⟨assignment', hget', happroved', hid'⟩ := h'.approved i _ hget happroved
    · exact .inl htypes
    · obtain htypes | ⟨assignment, hget₀, happroved₀, hid⟩ := h.approved i _ hget' happroved'
      · exact .inl (hid' ▸ htypes)
      · exact .inr ⟨assignment, hget₀, happroved₀, hid.trans hid'⟩

/-- An assignment of the branch is written that was approved before or is one of `types`. -/
theorem TypesChange.put {assignment : BranchStoreType} (h : AssignmentKeys db)
    (hbranch : assignment.branchId = b)
    (hstore : (db.get (.storeType, assignment.storeTypeId)).isSome)
    (hbefore : approvedOf b assignment = true → types assignment.storeTypeId ∨ ∃ old,
      db.get (.branchStoreType, branchStoreTypeId b assignment.storeTypeId) = some old ∧
        approvedOf b old = true ∧ old.storeTypeId = assignment.storeTypeId) :
    TypesChange b types db (db.put ⟨.branchStoreType,
      branchStoreTypeId b assignment.storeTypeId, some assignment⟩) := by
  have hkeys := (SameElsewhere.put h hbranch hstore).keys
  generalize hkey : branchStoreTypeId b assignment.storeTypeId = key at hkeys hbefore ⊢
  refine ⟨⟨[_], rfl, ?_⟩, fun branch' hget => ?_, fun i assignment' hget happroved => ?_, hkeys⟩
  · intro w hw
    rw [List.mem_singleton] at hw
    subst hw
    exact .inl ⟨rfl, by rw [← hkey, branchStoreTypeId, Nat.unpair_pair]⟩
  · rw [Db.get_put_ne _ (by simp [Write.key])] at hget
    exact ⟨branch', hget, rfl⟩
  · by_cases hi : i = key
    · subst hi
      have hself : (db.put ⟨.branchStoreType, i, some assignment⟩).get (.branchStoreType, i) =
        some assignment := Db.get_put_self ..
      obtain rfl : assignment = assignment' := Option.some.inj (hself.symm.trans hget)
      exact hbefore happroved
    · rw [Db.get_put_ne _ (by simp [Write.key, hi])] at hget
      exact .inr ⟨assignment', hget, happroved, rfl⟩

theorem TypesChange.clear (h : AssignmentKeys db) : TypesChange b types db
    (db.apply (db.updates .branchStoreType (primaryOf b) fun assignment =>
      { assignment with isPrimary := false })) := by
  refine ⟨⟨_, rfl, fun w hw => ?_⟩, fun branch' hget => ?_, fun i assignment' hget happroved => ?_,
    (SameElsewhere.clear (b := b) h).keys⟩
  · obtain ⟨i, assignment, hget, hprimary, rfl⟩ := Db.mem_updates hw
    simp only [primaryOf, Bool.and_eq_true, beq_iff_eq] at hprimary
    refine .inl ⟨rfl, ?_⟩
    rw [(h i assignment hget).1, branchStoreTypeId, Nat.unpair_pair]
    exact hprimary.1
  · rw [Db.get_apply_updates_ne (by simp)] at hget
    exact ⟨branch', hget, rfl⟩
  · rw [Db.get_apply_updates, Option.map_eq_some_iff] at hget
    obtain ⟨old, hold, hnew⟩ := hget
    refine .inr ⟨old, hold, ?_⟩
    split at hnew <;> subst hnew <;> exact ⟨happroved, rfl⟩

/-- The branch's pointer to its primary store type is written. -/
theorem TypesChange.putBranch (h : AssignmentKeys db) {branch : Branch}
    (hbranch : db.get (.branch, b) = some branch) (primary : Option Id) (storeType : String) :
    TypesChange b types db (db.put ⟨.branch, b, some { branch with
      primaryStoreTypeId := primary, storeType }⟩) := by
  refine ⟨⟨[_], rfl, ?_⟩, fun branch' hget => ?_, fun i assignment' hget happroved => ?_,
    (SameElsewhere.putBranch h _).keys⟩
  · intro w hw
    rw [List.mem_singleton] at hw
    subst hw
    exact .inr ⟨rfl, rfl⟩
  · have hself : (db.put ⟨.branch, b, some { branch with
        primaryStoreTypeId := primary, storeType }⟩).get (.branch, b) = some { branch with
          primaryStoreTypeId := primary, storeType } := Db.get_put_self ..
    rw [hself] at hget
    cases hget
    exact ⟨branch, hbranch, rfl⟩
  · rw [Db.get_put_ne _ (by simp [Write.key])] at hget
    exact .inr ⟨assignment', hget, happroved, rfl⟩

end Changes


/-! ### The operations -/

section Operations

variable {db db' : Store} {b : Id} {types : Id → Prop}

/-- One assignment is updated, whose key stays. -/
theorem updateBranchStoreType_typesChange {storeTypeId : Id}
    {data : BranchStoreType → BranchStoreType} (h : AssignmentKeys db)
    (hrun : (updateBranchStoreType b storeTypeId data).run db = .ok ((), db'))
    (hdata : ∀ a, (data a).branchId = a.branchId ∧ (data a).storeTypeId = a.storeTypeId)
    (happroved : ∀ a, approvedOf b (data a) = true → types storeTypeId ∨ approvedOf b a = true) :
    TypesChange b types db db' := by
  obtain ⟨assignment, hget, rfl⟩ := Tx.run_updateExisting_ok hrun
  obtain ⟨hkey, hstore⟩ := h _ _ hget
  rw [branchStoreTypeId, branchStoreTypeId, Nat.pair_eq_pair] at hkey
  obtain ⟨hbranch', hstoreType'⟩ := hdata assignment
  have hid : (data assignment).storeTypeId = storeTypeId := hstoreType'.trans hkey.2.symm
  have hput : TypesChange b types db (db.put ⟨.branchStoreType,
      branchStoreTypeId b (data assignment).storeTypeId, some (data assignment)⟩) := by
    refine .put h (hbranch'.trans hkey.1.symm) (hstoreType' ▸ hstore) fun hafter => ?_
    rw [hid]
    exact (happroved assignment hafter).imp_right fun hbefore =>
      ⟨assignment, hget, hbefore, hkey.2.symm⟩
  rwa [hid] at hput

theorem syncBranchPrimaryStoreType_typesChange (h : AssignmentKeys db)
    (hrun : (syncBranchPrimaryStoreType b).run db = .ok ((), db')) :
    TypesChange b types db db' := by
  obtain ⟨_, cleared, hclear, hset⟩ := Tx.run_bind_ok (Tx.run_read_bind_ok hrun)
  have hcleared : TypesChange b types db cleared := by
    cases hclear
    exact .clear h
  refine hcleared.trans ?_
  cases hprimary : primaryAssignment (listApprovedBranchStoreTypes db b) with
  | none =>
    rw [hprimary] at hset
    obtain ⟨branch, hbranch, rfl⟩ := Tx.run_updateExisting_ok hset
    exact .putBranch hcleared.keys hbranch _ _
  | some record =>
    rw [hprimary] at hset
    obtain ⟨_, flagged, hflag, hpoint⟩ := Tx.run_bind_ok hset
    have hflagged : TypesChange b types cleared flagged :=
      updateBranchStoreType_typesChange hcleared.keys hflag (fun _ => ⟨rfl, rfl⟩)
        fun _ hafter => .inr hafter
    obtain ⟨branch, hbranch, rfl⟩ := Tx.run_updateExisting_ok hpoint
    exact hflagged.trans (.putBranch hflagged.keys hbranch _ _)

/-- What an assignment may show that was not shown before. -/
def ManageBranchStoreTypeDto.approves (payload : ManageBranchStoreTypeDto) (storeTypeId : Id) :
    Prop := payload.targetStatus = .approved ∧ storeTypeId = payload.storeTypeId

theorem upsertAssignment_typesChange {now : Date} {currentUserId : Id}
    {payload : ManageBranchStoreTypeDto} {existing : Option BranchStoreType}
    (h : AssignmentKeys db) (hstore : (db.get (.storeType, payload.storeTypeId)).isSome)
    (hrun : (upsertAssignment now currentUserId b payload existing).run db = .ok ((), db')) :
    TypesChange b payload.approves db db' := by
  cases existing with
  | none =>
    obtain ⟨-, rfl⟩ := Tx.run_insertRow_ok hrun
    refine .put h rfl hstore fun hafter => .inl ⟨?_, rfl⟩
    exact eq_of_beq (Bool.and_eq_true_iff.mp hafter).2
  | some assignment =>
    refine updateBranchStoreType_typesChange h hrun (fun _ => ⟨rfl, rfl⟩)
      fun _ hafter => .inl ⟨?_, rfl⟩
    exact eq_of_beq (Bool.and_eq_true_iff.mp hafter).2

/-- What is checked before a store type is assigned; that the branch is there is not said. -/
def MayAssign (db : Store) (currentUser : AuthenticatedUser) (payload : ManageBranchStoreTypeDto) :
    Prop :=
  currentUser.role = .admin ∧
    ¬ (payload.isPrimary = some true ∧ payload.targetStatus ≠ .approved) ∧
    ∃ storeType, db.get (.storeType, payload.storeTypeId) = some storeType ∧
      storeType.isActive = true

theorem assignBranchStoreType_typesChange {now : Date} {currentUser : AuthenticatedUser}
    {payload : ManageBranchStoreTypeDto} {record : BranchStoreTypeManagementRecord}
    (h : AssignmentKeys db)
    (hrun : (assignBranchStoreType now currentUser b payload).run db = (.ok record, db')) :
    MayAssign db currentUser payload ∧ TypesChange b payload.approves db db' := by
  obtain ⟨_, _, hadmin, hrest⟩ := Service.run_bind_ok.mp hrun
  obtain ⟨_, _, hcompatible, htransaction⟩ := Service.run_bind_ok.mp hrest
  obtain ⟨hprimary, rfl⟩ := Service.run_require_ok.mp hcompatible
  obtain ⟨hrole, rfl⟩ := Service.run_require_ok.mp hadmin
  obtain ⟨_, _, hbranch, htx₁⟩ := Tx.run_bind_ok (Service.run_transaction_ok.mp htransaction)
  obtain ⟨storeType, _, hstoreType, htx₂⟩ := Tx.run_bind_ok htx₁
  obtain ⟨hactive, htx₃⟩ := Tx.run_require_bind_ok htx₂
  obtain ⟨hget, rfl⟩ := requireStoreType_run_ok hstoreType
  obtain rfl := (Tx.run_check_ok hbranch).2
  obtain ⟨_, db₁, hupsert, htx₄⟩ := Tx.run_bind_ok (Tx.run_read_bind_ok htx₃)
  obtain ⟨_, db₂, hsync, hread⟩ := Tx.run_bind_ok htx₄
  obtain rfl := requireBranchStoreType_run_ok hread
  have hupserted := upsertAssignment_typesChange h (Option.isSome_of_eq_some hget) hupsert
  exact ⟨⟨hrole, hprimary, storeType, hget, hactive⟩,
    hupserted.trans (syncBranchPrimaryStoreType_typesChange hupserted.keys hsync)⟩

end Operations

/-! ## What a list shows of a branch -/

section Shows

variable {rules : TextRules} {filter : DiscoveryFilter} {db db' : Store} {b : Id}

/-- The list is one that has the branch, if it has the right store types. -/
def asksFor (rules : TextRules) (filter : DiscoveryFilter) (db : Store) (branchId : Id) : Bool :=
  (db.get (.branch, branchId)).any fun branch =>
    (db.get (.merchant, (branch : Branch).merchantId)).any fun merchant =>
      meetsFilter rules filter branchId branch merchant

/-- The branch has a store type of the list already, or gets one. -/
def hasStoreType (filter : DiscoveryFilter) (db : Store) (branchId : Id)
    (payload : ManageBranchStoreTypeDto) : Bool :=
  ((visibleStoreTypes db branchId).any fun record => hasCode filter record.storeType.code) ||
    (payload.targetStatus == .approved && (db.get (.storeType, payload.storeTypeId)).any
      fun storeType => isVisible storeType && hasCode filter (storeType : StoreType).code)

/-- The list has the branch, or has it once the store type is assigned. -/
def concerns (rules : TextRules) (filter : DiscoveryFilter) (db : Store) (branchId : Id)
    (payload : ManageBranchStoreTypeDto) : Bool :=
  asksFor rules filter db branchId && hasStoreType filter db branchId payload

/-- A branch is found only where it is asked for and has a visible store type of the list. -/
theorem discover_eq_none {branch : Branch} (hbranch : db.get (.branch, b) = some branch)
    (h : asksFor rules filter db b = true →
      ∀ record ∈ visibleStoreTypes db b, hasCode filter record.storeType.code = false) :
    discover rules filter db (b, branch) = none := by
  rw [discover]
  cases hmerchant : db.get (.merchant, branch.merchantId) with
  | none => rfl
  | some merchant =>
    refine if_neg fun ⟨hmeets, hany⟩ => ?_
    obtain ⟨record, hrecord, hcode⟩ := List.any_eq_true.mp hany
    have hasks : asksFor rules filter db b = true := by
      rw [asksFor, hbranch, Option.any_some, hmerchant]
      exact hmeets
    rw [h hasks record hrecord] at hcode
    cases hcode

variable {payload : ManageBranchStoreTypeDto}

theorem not_hasStoreType (h : hasStoreType filter db b payload = false) :
    (∀ record ∈ visibleStoreTypes db b, hasCode filter record.storeType.code = false) ∧
      ∀ storeType, payload.targetStatus = .approved →
        db.get (.storeType, payload.storeTypeId) = some storeType → isVisible storeType = true →
          hasCode filter storeType.code = false := by
  rw [hasStoreType, Bool.or_eq_false_iff, List.any_eq_false] at h
  refine ⟨fun record hrecord => Bool.eq_false_iff.mpr (h.1 record hrecord),
    fun storeType hstatus hstore hvisible => ?_⟩
  have hassigned := h.2
  rw [hstatus, hstore, Option.any_some, hvisible] at hassigned
  exact hassigned

section Changed

variable {types : Id → Prop} (h : TypesChange b types db db')
include h

theorem TypesChange.get_eq {t : Tbl} (hbranch : t ≠ .branch) (htypes : t ≠ .branchStoreType)
    (i : Id) : db'.get (t, i) = db.get (t, i) := by
  obtain ⟨ws, rfl, hws⟩ := h.writes
  refine Db.get_apply_of_table fun w hw => ?_
  obtain ⟨htable, -⟩ | ⟨htable, -⟩ := hws w hw
  · exact htable ▸ htypes.symm
  · exact htable ▸ hbranch.symm

theorem TypesChange.includeStoreType_eq (assignment : BranchStoreType) :
    includeStoreType db' assignment = includeStoreType db assignment := by
  rw [includeStoreType, includeStoreType, h.get_eq (by decide) (by decide)]

/-- The assignments of other branches are listed as before. -/
theorem TypesChange.visible_eq (hkeys : AssignmentKeys db) {other : Id} (hother : other ≠ b) :
    visibleStoreTypes db' other = visibleStoreTypes db other := by
  -- the id of an assignment says whose it is, also where the row has been changed since
  have hown : ∀ {d : Store}, AssignmentKeys d → (d.list .branchStoreType (approvedOf other)).filter
      (fun row => row.1.unpair.1 != b) = d.list .branchStoreType (approvedOf other) := by
    intro d hd
    refine List.filter_eq_self.mpr fun row hrow => ?_
    obtain ⟨hget, happroved⟩ := Db.mem_list.mp hrow
    have hbranch : row.2.branchId = other := eq_of_beq (Bool.and_eq_true_iff.mp happroved).1
    rw [(hd _ _ hget).1, branchStoreTypeId, Nat.unpair_pair, hbranch]
    exact bne_iff_ne.mpr hother
  obtain ⟨ws, hdb', hws⟩ := h.writes
  have hlist : db'.list .branchStoreType (approvedOf other) =
      db.list .branchStoreType (approvedOf other) := by
    rw [← hown h.keys, ← hown hkeys, hdb']
    refine Db.filter_list_apply (fun w hw htable _ => ?_) db
    obtain ⟨-, hid⟩ | ⟨hbranch, -⟩ := hws w hw
    · exact bne_eq_false_iff_eq.mpr hid
    · exact absurd (htable.symm.trans hbranch) (by decide)
  rw [visibleStoreTypes, visibleStoreTypes, listApprovedBranchStoreTypes,
    listApprovedBranchStoreTypes, hlist]
  simp only [h.includeStoreType_eq]

/-- Another branch is found as before. -/
theorem TypesChange.discover_eq (hkeys : AssignmentKeys db) {row : Id × Branch} (hrow : row.1 ≠ b) :
    discover rules filter db' row = discover rules filter db row := by
  simp only [discover, includeDiscovery, h.visible_eq hkeys hrow,
    h.get_eq (t := .merchant) (by decide) (by decide)]

theorem TypesChange.asksFor_eq (hasks : asksFor rules filter db' b = true) :
    asksFor rules filter db b = true := by
  obtain ⟨branch', hget', hmerchant'⟩ := (Option.any_eq_true _ _).mp hasks
  obtain ⟨branch, hget, hbranch⟩ := h.branch branch' hget'
  rw [asksFor, hget, Option.any_some]
  rw [hbranch, h.get_eq (t := .merchant) (by decide) (by decide)] at hmerchant'
  exact hmerchant'

/-- What the branch shows after the change. -/
theorem TypesChange.mem_visible {record' : BranchStoreTypeManagementRecord}
    (hrecord' : record' ∈ visibleStoreTypes db' b) :
    (∃ record ∈ visibleStoreTypes db b, record.storeType = record'.storeType) ∨
      isVisible record'.storeType = true ∧ ∃ storeTypeId, types storeTypeId ∧
        db.get (.storeType, storeTypeId) = some record'.storeType := by
  obtain ⟨hlisted, hvisible⟩ := List.mem_filter.mp hrecord'
  rw [listApprovedBranchStoreTypes, List.mem_insertionSort, List.mem_filterMap] at hlisted
  obtain ⟨⟨i, assignment'⟩, hmem, hinclude⟩ := hlisted
  obtain ⟨hget', happroved'⟩ := Db.mem_list.mp hmem
  rw [h.includeStoreType_eq] at hinclude
  obtain ⟨storeType, hstore, rfl⟩ := Option.map_eq_some_iff.mp hinclude
  obtain htypes | ⟨assignment, hget, happroved, hid⟩ := h.approved i assignment' hget' happroved'
  · exact .inr ⟨hvisible, _, htypes, hstore⟩
  · refine .inl ⟨⟨assignment, storeType⟩, List.mem_filter.mpr ⟨?_, hvisible⟩, rfl⟩
    rw [listApprovedBranchStoreTypes, List.mem_insertionSort, List.mem_filterMap]
    refine ⟨(i, assignment), Db.mem_list.mpr ⟨hget, happroved⟩, ?_⟩
    dsimp only at hstore ⊢
    rw [includeStoreType, hid, hstore]
    rfl

end Changed

/-- An assignment that does not concern a list leaves it as it was. -/
theorem TypesChange.listed_eq (h : TypesChange b payload.approves db db')
    (hkeys : AssignmentKeys db) (hconcerns : concerns rules filter db b payload = false) :
    listCustomerDiscoverableBranches rules filter db' =
      listCustomerDiscoverableBranches rules filter db := by
  have hnot : asksFor rules filter db b = true →
      (∀ record ∈ visibleStoreTypes db b, hasCode filter record.storeType.code = false) ∧
        ∀ storeType, payload.targetStatus = .approved →
          db.get (.storeType, payload.storeTypeId) = some storeType → isVisible storeType = true →
            hasCode filter storeType.code = false := by
    intro hasks
    rw [concerns, hasks, Bool.true_and] at hconcerns
    exact not_hasStoreType hconcerns
  -- the branch itself is not found, neither before nor after
  have hbefore : ∀ branch, db.get (.branch, b) = some branch →
      discover rules filter db (b, branch) = none := fun branch hbranch =>
    discover_eq_none hbranch fun hasks => (hnot hasks).1
  have hafter : ∀ branch', db'.get (.branch, b) = some branch' →
      discover rules filter db' (b, branch') = none := by
    refine fun branch' hbranch' => discover_eq_none hbranch' fun hasks record' hrecord' => ?_
    obtain ⟨hshown, hassigned⟩ := hnot (h.asksFor_eq hasks)
    obtain ⟨record, hrecord, hstore⟩ | ⟨hvisible, storeTypeId, ⟨hstatus, rfl⟩, hstore⟩ :=
      h.mem_visible hrecord'
    · rw [← hstore]
      exact hshown record hrecord
    · exact hassigned _ hstatus hstore hvisible
  have hothers : ∀ {d : Store}, (∀ branch, d.get (.branch, b) = some branch →
      discover rules filter d (b, branch) = none) →
      ((d.list .branch fun _ => true).filter fun row => (discover rules filter d row).isSome) =
        ((d.list .branch fun _ => true).filter fun row => row.1 != b).filter
          fun row => (discover rules filter d row).isSome := by
    intro d hnone
    rw [List.filter_filter]
    refine List.filter_congr fun row hrow => ?_
    by_cases hid : row.1 = b
    · have hget := (Db.mem_list.mp hrow).1
      rw [hid] at hget
      have hrow' : row = (b, row.2) := Prod.ext hid rfl
      rw [hrow', hnone _ hget]
      rfl
    · rw [bne_iff_ne.mpr hid, Bool.and_true]
  -- writing a row moves it in its table, so only the other rows are listed in the same order
  have hrows : ((db'.list .branch fun _ => true).filter fun row => row.1 != b) =
      (db.list .branch fun _ => true).filter fun row => row.1 != b := by
    obtain ⟨ws, rfl, hws⟩ := h.writes
    refine Db.filter_list_apply (fun w hw htable _ => ?_) db
    obtain ⟨htypes, -⟩ | ⟨-, hid⟩ := hws w hw
    · exact absurd (htable.symm.trans htypes) (by decide)
    · exact bne_eq_false_iff_eq.mpr hid
  have hfound : ∀ row ∈ (db.list .branch fun _ => true).filter fun row => row.1 != b,
      discover rules filter db' row = discover rules filter db row := fun row hrow =>
    h.discover_eq hkeys (bne_iff_ne.mp (List.mem_filter.mp hrow).2)
  have hkept := List.filter_congr fun row hrow => congrArg Option.isSome (hfound row hrow)
  rw [listCustomerDiscoverableBranches, listCustomerDiscoverableBranches, hothers hafter,
    hothers hbefore, hrows, hkept]
  refine List.filterMap_congr fun row hrow => hfound row ?_
  exact (List.mem_filter.mp ((List.mem_insertionSort _).mp hrow)).1

end Shows

/-! ## What is cached -/

section Caches

variable {α β : Type} {world : DiscoveryWorld}

theorem ends_database {p : StoreService α} {Q : Except Failure α → DiscoveryWorld → Prop}
    (h : Q (p.run world.data).1 { world with data := (p.run world.data).2 }) :
    Cached.Ends (database p) world Q := by
  rcases hrun : p.run world.data with ⟨e | a, db⟩
  · rw [hrun] at h
    exact .of_error (by rw [database, hrun]) h
  · rw [hrun] at h
    exact .of_ok (by rw [database, hrun]) h

/-- Either nothing has changed that lists come from, or no list is cached any more. -/
def Cleared (world world' : DiscoveryWorld) : Prop :=
  world'.data = world.data ∧ world'.cache = world.cache ∨
    (AssignmentKeys world.data → AssignmentKeys world'.data) ∧ ∀ key, world'.cache key = none

instance : Std.Refl Cleared := ⟨fun _ => .inl ⟨rfl, rfl⟩⟩

instance : IsTrans DiscoveryWorld Cleared where
  trans world world' world'' h h' := by
    obtain ⟨hdata', hcache'⟩ | ⟨hkeys', hcache'⟩ := h'
    · rwa [Cleared, hdata', hcache']
    · refine .inr ⟨fun hkeys => hkeys' ?_, hcache'⟩
      obtain ⟨hdata, -⟩ | ⟨hkeys₁, -⟩ := h
      · rwa [hdata]
      · exact hkeys₁ hkeys

theorem steps_readOnly {p : StoreService α} (h : p.ReadOnly) : Steps Cleared (database p) := by
  refine .of_ends fun world => ends_database (.inl ⟨?_, rfl⟩)
  exact h.run world.data

/-- A change of the database, after which the lists are thrown away. -/
theorem steps_change {p : StoreService β} {f : β → DiscoveryService α} (hatomic : p.Atomic)
    (hkeys : ∀ db, AssignmentKeys db → AssignmentKeys (p.run db).2)
    (hclear : ∀ b world, Cached.Ends (f b) world fun _ world' =>
      world'.data = world.data ∧ ∀ key, world'.cache key = none) :
    Steps Cleared (database p >>= f) := by
  refine .of_ends fun world => .bind (ends_database ?_)
  have hkeys' := hkeys world.data
  have herror := hatomic world.data
  rcases hrun : p.run world.data with ⟨e | b, db⟩
  · rw [hrun] at herror
    exact .inl ⟨herror e rfl, rfl⟩
  · rw [hrun] at hkeys'
    refine (hclear b _).mono fun r world' h => .inr ⟨fun hbefore => ?_, h.2⟩
    rw [h.1]
    exact hkeys' hbefore

end Caches

/-! ## The admins' operations -/

namespace CachedStoreTypeManagement

variable {α : Type}

theorem invalidateAll_ends {p : DiscoveryService α} {world : DiscoveryWorld}
    (h : ∀ world', world'.data = world.data → (∀ key, world'.cache key = none) →
      Cached.Ends p world' fun _ world'' =>
        world''.data = world.data ∧ ∀ key, world''.cache key = none) :
    Cached.Ends (DiscoveryCache.invalidateAll >>= fun _ => p) world fun _ world' =>
      world'.data = world.data ∧ ∀ key, world'.cache key = none :=
  .bind (.modify (h _ rfl fun _ => rfl))

theorem steps_normalizeRequiredString (value fieldName : String) :
    Steps Cleared (normalizeRequiredString value fieldName) :=
  .bind (.require _ _) fun _ => .ret _

theorem steps_newName (name : Field String) : Steps Cleared (newName name) := by
  cases name with
  | undefined => exact .ret _
  | null => exact .fail _
  | value name => exact .bind (steps_normalizeRequiredString _ _) fun _ => .ret _

theorem steps_assertCanManageStoreTypes (currentUser : AuthenticatedUser) :
    Steps Cleared (database (assertCanManageStoreTypes currentUser)) :=
  steps_readOnly (.require _ _)

/-- The store types in the cache are no lists. -/
theorem steps_storeTypes {f : DiscoveryWorld → DiscoveryWorld}
    (h : ∀ world, (f world).data = world.data ∧ (f world).cache = world.cache) :
    Steps Cleared (modify f : DiscoveryService Unit) :=
  .of_ends fun world => .modify (.inl (h world))

theorem steps_requireStoreType (storeTypeId : Id) :
    Steps Cleared (requireStoreType storeTypeId) := by
  have hget : Steps Cleared (get : DiscoveryService DiscoveryWorld) :=
    .of_ends fun world => .get (refl world)
  refine .bind (.bind hget fun _ => .ret _) fun cached => ?_
  cases cached with
  | some storeType => exact .ret _
  | none =>
    exact .bind (steps_readOnly (.get _)) fun found => .bind (.orFail _ _) fun storeType =>
      .bind (steps_storeTypes fun _ => ⟨rfl, rfl⟩) fun _ => .ret _

/-- A store type is written. -/
theorem assignmentKeys_put {db : Store} {w : Write Row} (h : AssignmentKeys db)
    (hw : w.table = .storeType ∧ w.row.isSome) : AssignmentKeys (db.put w) := by
  intro i assignment hget
  rw [Db.get_put_ne _ fun hkey => by rw [Write.key, hw.1] at hkey; cases hkey] at hget
  refine ⟨(h i assignment hget).1, ?_⟩
  by_cases hid : w.key = (.storeType, assignment.storeTypeId)
  · rw [← hid, Db.get_put_self]
    exact hw.2
  · rw [Db.get_put_ne _ (Ne.symm hid)]
    exact (h i assignment hget).2

/-- Rows of store types are written, and none is deleted. -/
def StoreTypeWrite (w : Write Row) : Prop := w.table = .storeType ∧ w.row.isSome

theorem assignmentKeys_run {p : StoreService α} (h : p.Writes StoreTypeWrite) (db : Store)
    (hkeys : AssignmentKeys db) : AssignmentKeys (p.run db).2 :=
  h.run (fun _ _ => assignmentKeys_put) hkeys

theorem updateStoreType_writes (id : Id) (data : StoreType → StoreType) :
    (StoreTypesRepository.updateStoreType id data).Writes StoreTypeWrite := by
  refine .transaction ⟨fun db storeType ws h w hw => ?_, fun _ => True.intro⟩
  dsimp only at h
  split at h
  · cases h
  · cases h
    rw [List.mem_singleton] at hw
    subst hw
    exact ⟨rfl, rfl⟩

theorem createStoreType_writes (data : StoreType) :
    (StoreTypesRepository.createStoreType data).Writes StoreTypeWrite := by
  refine .transaction ⟨fun db created ws h w hw => ?_, fun _ => True.intro⟩
  dsimp only at h
  split at h
  · cases h
    rw [List.mem_singleton] at hw
    subst hw
    exact ⟨rfl, rfl⟩
  · cases h

theorem createStoreType_atomic (data : StoreType) :
    (StoreTypesRepository.createStoreType data).Atomic := .transaction _

theorem updateStoreType_atomic (id : Id) (data : StoreType → StoreType) :
    (StoreTypesRepository.updateStoreType id data).Atomic := .transaction _

theorem steps_changeStoreType (storeTypeId : Id) (data : StoreType → StoreType) :
    Steps Cleared (changeStoreType storeTypeId data) := by
  refine steps_change (updateStoreType_atomic storeTypeId data)
    (assignmentKeys_run (updateStoreType_writes ..))
    fun storeType world => .bind (.modify ?_)
  exact invalidateAll_ends fun world' hdata hcache => .ret ⟨hdata, hcache⟩

theorem steps_createStoreType (rules : TextRules) (now : Date) (currentUser : AuthenticatedUser)
    (payload : CreateStoreTypeDto) :
    Steps Cleared (createStoreType rules now currentUser payload) := by
  have hcode : Steps Cleared (normalizeStoreTypeCode rules payload.code) :=
    .bind (steps_normalizeRequiredString _ _) fun _ => .ret _
  have hfind : ∀ code, (findStoreTypeByCode code).ReadOnly := fun code => .get _
  have hcreate : ∀ data, Steps Cleared (database (StoreTypesRepository.createStoreType data) >>=
      fun storeType => DiscoveryCache.invalidateAll >>= fun _ => pure storeType) := fun data =>
    steps_change (createStoreType_atomic data) (assignmentKeys_run (createStoreType_writes data))
      fun storeType world => invalidateAll_ends fun world' hdata hcache => .ret ⟨hdata, hcache⟩
  refine .bind (steps_assertCanManageStoreTypes _) fun _ => .bind hcode fun code => ?_
  refine .bind (steps_readOnly (hfind code)) fun existing => .bind (.require _ _) fun _ => ?_
  exact .bind (steps_normalizeRequiredString _ _) fun name => hcreate _

theorem steps_updateStoreType (now : Date) (currentUser : AuthenticatedUser) (storeTypeId : Id)
    (payload : UpdateStoreTypeDto) :
    Steps Cleared (updateStoreType now currentUser storeTypeId payload) :=
  .bind (steps_assertCanManageStoreTypes _) fun _ =>
    .bind (steps_requireStoreType _) fun _ => .bind (steps_newName _) fun _ =>
      .bind (.ofExcept _) fun _ => steps_changeStoreType _ _

theorem steps_archiveStoreType (now : Date) (currentUser : AuthenticatedUser)
    (storeTypeId : Id) : Steps Cleared (archiveStoreType now currentUser storeTypeId) := by
  refine .bind (steps_assertCanManageStoreTypes _) fun _ =>
    .bind (steps_requireStoreType _) fun storeType => ?_
  split
  · exact .ret _
  · exact steps_changeStoreType _ _

theorem steps_activateStoreType (currentUser : AuthenticatedUser) (storeTypeId : Id) :
    Steps Cleared (activateStoreType currentUser storeTypeId) :=
  .bind (steps_assertCanManageStoreTypes _) fun _ =>
    .bind (steps_requireStoreType _) fun _ => steps_changeStoreType _ _

theorem storeTypeCall_keys (call : StoreTypeCall) (db : Store) (h : AssignmentKeys db) :
    AssignmentKeys (call.service.run db).2 := by
  obtain hsame | ⟨record, hrun⟩ := call.atomic.cases db
  · rwa [hsame]
  · exact (call.run_ok h hrun).2.keys

/-- Every change of an assignment but the making of one throws the lists away. -/
theorem steps_branchStoreType {call : StoreTypeCall}
    (hcall : ∀ now currentUser branchId payload, call ≠ .assign now currentUser branchId payload) :
    Steps Cleared (branchStoreType call) := by
  have hchange : Steps Cleared (database call.service >>= fun assignment =>
      DiscoveryCache.invalidateAll >>= fun _ => pure assignment) :=
    steps_change call.atomic (storeTypeCall_keys call) fun assignment world =>
      invalidateAll_ends fun world' hdata hcache => .ret ⟨hdata, hcache⟩
  cases call with
  | assign now currentUser branchId payload => exact (hcall _ _ _ _ rfl).elim
  | approve => exact hchange
  | reject => exact hchange
  | hide => exact hchange
  | unhide => exact hchange

end CachedStoreTypeManagement

/-! ## Runs -/

namespace CustomerStoreDiscovery

/-- What the cache is to hold for a filter. -/
def loadList (rules : TextRules) (filter : DiscoveryFilter) (db : Store) :
    Option (List CustomerStoreDiscoveryRecord) :=
  some (listCustomerDiscoverableBranches rules filter db)

/-- The filters that the customers of a run ask the cache for. -/
def AskedInRun (rules : TextRules) (calls : List DiscoveryCall) (filter : DiscoveryFilter) : Prop :=
  DiscoveryCache.isCacheable filter = true ∧
    ∃ earlyExpiry query, .find earlyExpiry query ∈ calls ∧ toFilter rules query = filter

/-- The same township is asked for, and the same codes in whatever order. -/
def SameQuestion (filter filter' : DiscoveryFilter) : Prop :=
  filter.township = filter'.township ∧ ∀ code, hasCode filter code = hasCode filter' code

/-- Two filters that share a key in the cache ask the same. -/
def KeysTell (asked : DiscoveryFilter → Prop) : Prop :=
  ∀ filter filter', asked filter → asked filter' →
    DiscoveryCache.listKey filter = DiscoveryCache.listKey filter' → SameQuestion filter filter'

theorem listed_eq_of_sameQuestion {rules : TextRules} {filter filter' : DiscoveryFilter}
    (hfilter : DiscoveryCache.isCacheable filter = true)
    (hfilter' : DiscoveryCache.isCacheable filter' = true) (h : SameQuestion filter filter')
    (db : Store) : listCustomerDiscoverableBranches rules filter db =
      listCustomerDiscoverableBranches rules filter' db := by
  have hdiscover : discover rules filter db = discover rules filter' db := by
    simp only [DiscoveryCache.isCacheable, Bool.and_eq_true,
      Option.isNone_iff_eq_none] at hfilter hfilter'
    funext row
    simp only [discover, meetsFilter, hfilter, hfilter', h.1, h.2]
  simp only [listCustomerDiscoverableBranches, hdiscover]

theorem KeysTell.apart {rules : TextRules} {calls : List DiscoveryCall}
    (h : KeysTell (AskedInRun rules calls)) :
    Apart (loadList rules) DiscoveryCache.listKey (AskedInRun rules calls) := by
  intro filter filter' hasked hasked' hkey db
  exact congrArg some
    (listed_eq_of_sameQuestion hasked.1 hasked'.1 (h filter filter' hasked hasked' hkey) db)

/-- The cache holds what there is. -/
def ListsFresh (rules : TextRules) (asked : DiscoveryFilter → Prop) (world : DiscoveryWorld) :
    Prop := Fresh (loadList rules) DiscoveryCache.listKey asked world.toWorld

variable {rules : TextRules} {asked : DiscoveryFilter → Prop} {world world' : DiscoveryWorld}

theorem ListsFresh.cleared (h : ListsFresh rules asked world) (hcleared : Cleared world world') :
    ListsFresh rules asked world' := by
  obtain ⟨hdata, hcache⟩ | ⟨-, hnone⟩ := hcleared
  · intro filter hasked branches hbranches
    rw [hcache] at hbranches
    rw [hdata]
    exact h filter hasked branches hbranches
  · exact Fresh.of_empty hnone

theorem getList_ends {earlyExpiry : Bool} {filter : DiscoveryFilter}
    {Q : Except Failure (Option (List CustomerStoreDiscoveryRecord)) → DiscoveryWorld → Prop}
    (hmiss : Q (.ok none) world)
    (hhit : ∀ branches, world.cache (DiscoveryCache.listKey filter) = some branches →
      Q (.ok (some branches)) world) :
    Cached.Ends (DiscoveryCache.getList earlyExpiry filter) world Q := by
  refine .bind (.get (.ret ?_))
  cases earlyExpiry with
  | true => exact hmiss
  | false =>
    cases hcache : world.cache (DiscoveryCache.listKey filter) with
    | none =>
      rw [if_neg (by decide)]
      exact hmiss
    | some branches =>
      rw [if_neg (by decide)]
      exact hhit branches hcache

/-- A customer finds what there is, and leaves that in the cache. -/
theorem findCachedBranches_ends (hapart : Apart (loadList rules) DiscoveryCache.listKey asked)
    (h : ListsFresh rules asked world) {filter : DiscoveryFilter} (hasked : asked filter)
    (earlyExpiry : Bool) :
    Cached.Ends (findCachedBranches rules earlyExpiry filter) world fun r world' =>
      r = .ok (listCustomerDiscoverableBranches rules filter world.data) ∧
        world'.data = world.data ∧ ListsFresh rules asked world' := by
  refine .bind (getList_ends ?_ fun branches hhit => ?_)
  · refine .bind (ends_database (.bind (.modify (.ret ⟨rfl, rfl, ?_⟩))))
    exact Fresh.fill h hapart hasked rfl rfl rfl
  · refine .ret ⟨?_, rfl, h⟩
    rw [Option.some.inj (h filter hasked branches hhit)]

theorem findDiscoverableBranches_ends
    (hapart : Apart (loadList rules) DiscoveryCache.listKey asked)
    (h : ListsFresh rules asked world) {query : ListCustomerStoresQueryDto}
    (hasked : DiscoveryCache.isCacheable (toFilter rules query) = true →
      asked (toFilter rules query)) (earlyExpiry : Bool) :
    Cached.Ends (findDiscoverableBranches rules earlyExpiry query) world fun r world' =>
      r = .ok (findUncached rules query world.data) ∧
        world'.data = world.data ∧ ListsFresh rules asked world' := by
  dsimp only [findDiscoverableBranches]
  split
  case isTrue hcacheable =>
    refine .bind ((findCachedBranches_ends hapart h (hasked hcacheable) earlyExpiry).mono ?_)
    rintro r world' ⟨rfl, hdata, hfresh⟩
    exact .ret ⟨rfl, hdata, hfresh⟩
  case isFalse => exact .bind (ends_database (.ret ⟨rfl, rfl, h⟩))

end CustomerStoreDiscovery

open CustomerStoreDiscovery CachedStoreTypeManagement

variable {rules : TextRules} {asked : DiscoveryFilter → Prop} {world : DiscoveryWorld}

/-- No list that is cached has the branch to which a store type is assigned, or has it once the
store type is assigned. An assignment that is refused does not matter. -/
def AssignsUnseen (rules : TextRules) (asked : DiscoveryFilter → Prop) (call : DiscoveryCall)
    (world : DiscoveryWorld) : Prop :=
  ∀ now currentUser branchId payload,
    call = .branchStoreType (.assign now currentUser branchId payload) →
      MayAssign world.data currentUser payload → ∀ filter, asked filter →
        (world.cache (DiscoveryCache.listKey filter)).isSome →
          concerns rules filter world.data branchId payload = false

/-- A customer who looks for stores finds what there is. -/
def FindsFresh (rules : TextRules) (call : DiscoveryCall) (world : DiscoveryWorld) : Prop :=
  ∀ earlyExpiry query, call = .find earlyExpiry query →
    Cached.Ends (findDiscoverableBranches rules earlyExpiry query) world fun r _ =>
      r = .ok (findUncached rules query world.data)

theorem DiscoveryCall.run_of_ends {call : DiscoveryCall} {P : DiscoveryWorld → Prop}
    (h : Cached.Ends (call.service rules) world fun _ world' => P world') :
    P (call.run rules world) := by
  obtain ⟨_, world', hok, hP⟩ | ⟨_, world', herror, hP⟩ := h.result
  · rwa [run, hok]
  · rwa [run, herror]

/-- A store type is assigned to a branch that is in no list. -/
theorem assign_ends {now : Date} {currentUser : AuthenticatedUser} {branchId : Id}
    {payload : ManageBranchStoreTypeDto} (hkeys : AssignmentKeys world.data)
    (hfresh : ListsFresh rules asked world)
    (hunseen : AssignsUnseen rules asked
      (.branchStoreType (.assign now currentUser branchId payload)) world) :
    Cached.Ends (branchStoreType (.assign now currentUser branchId payload)) world
      fun _ world' => AssignmentKeys world'.data ∧ ListsFresh rules asked world' := by
  have hatomic := (StoreTypeCall.assign now currentUser branchId payload).atomic
  refine ends_database ?_
  obtain hsame | ⟨record, hrun⟩ := hatomic.cases world.data
  · rw [StoreTypeCall.service] at hsame
    rw [hsame]
    exact ⟨hkeys, hfresh⟩
  · obtain ⟨hmay, hchange⟩ := assignBranchStoreType_typesChange hkeys hrun
    refine ⟨hchange.keys, Fresh.write hfresh (fun filter hasked hcached => ?_) fun _ _ h => h⟩
    exact congrArg some (hchange.listed_eq hkeys
      (hunseen now currentUser branchId payload rfl hmay filter hasked hcached))

/-- One call keeps the cache fresh. -/
theorem run_keeps_fresh (hapart : Apart (loadList rules) DiscoveryCache.listKey asked)
    {call : DiscoveryCall}
    (hasked : ∀ earlyExpiry query, call = .find earlyExpiry query →
      DiscoveryCache.isCacheable (toFilter rules query) = true → asked (toFilter rules query))
    (hunseen : AssignsUnseen rules asked call world)
    (h : AssignmentKeys world.data ∧ ListsFresh rules asked world) :
    AssignmentKeys (call.run rules world).data ∧
      ListsFresh rules asked (call.run rules world) := by
  -- a call that changes something has thrown the lists away at its end
  have hsteps : ∀ {α : Type} {p : DiscoveryService α}, Steps Cleared p →
      Cached.Ends (discard p) world fun _ world' =>
        AssignmentKeys world'.data ∧ ListsFresh rules asked world' := by
    refine fun hp => ((hp.ends world).mono fun _ world' hcleared => ?_).discard
    refine ⟨?_, h.2.cleared hcleared⟩
    obtain ⟨hdata, -⟩ | ⟨hkeys, -⟩ := hcleared
    · rw [hdata]
      exact h.1
    · exact hkeys h.1
  refine DiscoveryCall.run_of_ends (P := fun world' =>
    AssignmentKeys world'.data ∧ ListsFresh rules asked world') ?_
  cases call with
  | create => exact hsteps (steps_createStoreType ..)
  | update => exact hsteps (steps_updateStoreType ..)
  | archive => exact hsteps (steps_archiveStoreType ..)
  | activate => exact hsteps (steps_activateStoreType ..)
  | branchStoreType call =>
    by_cases hassign : ∃ now currentUser branchId payload,
        call = .assign now currentUser branchId payload
    · obtain ⟨now, currentUser, branchId, payload, rfl⟩ := hassign
      exact (assign_ends h.1 h.2 hunseen).discard
    · refine hsteps (steps_branchStoreType ?_)
      exact fun now currentUser branchId payload hcall =>
        hassign ⟨now, currentUser, branchId, payload, hcall⟩
  | find earlyExpiry query =>
    refine Cached.Ends.discard ((findDiscoverableBranches_ends hapart h.2
      (hasked earlyExpiry query rfl) earlyExpiry).mono ?_)
    rintro r world' ⟨-, hdata, hfresh⟩
    exact ⟨hdata ▸ h.1, hfresh⟩

/-- Customers find what there is in every run in which filters that share a key ask the same, and
no store type is assigned to a branch that a cached list has, or has with that store type. -/
theorem discovery_fresh {calls : List DiscoveryCall} (hkeys : AssignmentKeys world.data)
    (hfresh : ListsFresh rules (AskedInRun rules calls) world)
    (htell : KeysTell (AskedInRun rules calls))
    (hunseen : MeetAll (DiscoveryCall.run rules) (AssignsUnseen rules (AskedInRun rules calls))
      calls world) : MeetAll (DiscoveryCall.run rules) (FindsFresh rules) calls world := by
  have hapart : Apart (loadList rules) DiscoveryCache.listKey (AskedInRun rules calls) :=
    htell.apart
  have hcalls : MeetAll (DiscoveryCall.run rules) (fun call _ => call ∈ calls) calls world :=
    .of_mem calls world fun call hcall _ => hcall
  refine MeetAll.of_inv (J := fun world => AssignmentKeys world.data ∧
    ListsFresh rules (AskedInRun rules calls) world) ?_ ?_ calls ⟨hkeys, hfresh⟩ hcalls hunseen
  · intro call world h hcall hunseen
    exact run_keeps_fresh hapart (fun earlyExpiry query hfind hcacheable =>
      ⟨hcacheable, earlyExpiry, query, hfind ▸ hcall, rfl⟩) hunseen h
  · rintro call world ⟨-, h⟩ hcall earlyExpiry query rfl
    refine (findDiscoverableBranches_ends hapart h (fun hcacheable => ?_) earlyExpiry).mono
      fun r _ hr => hr.1
    exact ⟨hcacheable, earlyExpiry, query, hcall, rfl⟩

/-! ## Two branches -/

/-- How texts are compared, as far as they are ASCII. -/
def sampleRules : TextRules where
  toLowerCase := String.toLower
  containsInsensitive text part := decide (part.toLower.toList <:+: text.toLower.toList)
  compareNames left right := compare left right

def untypedShops : Store := Db.empty.apply [
  ⟨.merchant, 1, some { userId := 10, name := "Tea", status := .active }⟩,
  ⟨.branch, 1, some { merchantId := 1, status := .active, name := "Tea", township := "North" }⟩,
  ⟨.branch, 2, some { merchantId := 1, status := .active, name := "Tea", township := "South" }⟩,
  ⟨.storeType, 1, some { code := "grocery", name := "Grocery", isActive := true }⟩]

/-- A branch in the north and one in the south, of one store type. -/
def typedShops : Store :=
  StoreTypeCall.run (.assign 0 typeAdmin 2 { storeTypeId := 1 })
    (StoreTypeCall.run (.assign 0 typeAdmin 1 { storeTypeId := 1 }) untypedShops)

theorem assignmentKeys_typedShops : AssignmentKeys typedShops := by
  have huntyped : AssignmentKeys untypedShops := by
    intro i assignment hget
    rw [untypedShops, Db.get_apply_of_table (by simp)] at hget
    cases hget
  exact storeTypeCall_keys _ _ (storeTypeCall_keys _ _ huntyped)

/-- Nothing is cached yet. -/
def discoveryWorld : DiscoveryWorld where
  data := typedShops
  cache _ := none
  storeTypes _ := none

/-- Customers look in the south, and the branch in the north is hidden. -/
theorem discovery_fresh_south : MeetAll (DiscoveryCall.run sampleRules) (FindsFresh sampleRules)
    [.find false { township := some "South" },
      .branchStoreType (.assign 1 typeAdmin 1 { storeTypeId := 1, status := some .hidden }),
      .find false { township := some "South" }] discoveryWorld := by
  have hasked : ∀ filter, AskedInRun sampleRules [.find false { township := some "South" },
      .branchStoreType (.assign 1 typeAdmin 1 { storeTypeId := 1, status := some .hidden }),
      .find false { township := some "South" }] filter →
        filter = ⟨none, none, none, some "South", none⟩ := by
    rintro filter ⟨-, earlyExpiry, query, hquery, rfl⟩
    simp only [List.mem_cons, DiscoveryCall.find.injEq, reduceCtorEq, List.not_mem_nil, or_false,
      false_or, or_self] at hquery
    rw [hquery.2]
    decide +kernel
  refine discovery_fresh assignmentKeys_typedShops (Fresh.of_empty fun _ => rfl)
    (fun filter filter' h h' _ => ?_) ⟨?_, ?_, ?_, True.intro⟩
  · rw [hasked filter h, hasked filter' h']
    exact ⟨rfl, fun _ => rfl⟩
  · exact fun _ _ _ _ h => by cases h
  · intro now currentUser branchId payload hcall hmay filter hfilter hcached
    cases hcall
    rw [hasked filter hfilter]
    decide +kernel
  · exact fun _ _ _ _ h => by cases h

/-- The ids of the branches that a customer finds. -/
def foundIds (rules : TextRules) (world : DiscoveryWorld) : List Id :=
  match findDiscoverableBranches rules false {} world with
  | .ok found _ => found.branches.map (·.id)
  | .error _ _ => []

theorem foundIds_eq (h : FindsFresh rules (.find false {}) world) :
    foundIds rules world = (findUncached rules {} world.data).branches.map (·.id) := by
  obtain ⟨found, world', hok, heq⟩ | ⟨e, world', -, heq⟩ := (h false {} rfl).result
  · rw [foundIds, hok, ← Except.ok.inj heq]
  · cases heq

/-- A branch that has been hidden by an assignment is still found. -/
theorem hidden_still_found : ¬ MeetAll (DiscoveryCall.run sampleRules) (FindsFresh sampleRules)
    [.find false {},
      .branchStoreType (.assign 1 typeAdmin 1 { storeTypeId := 1, status := some .hidden }),
      .find false {}] discoveryWorld := by
  rintro ⟨-, -, hfind, -⟩
  exact absurd (foundIds_eq hfind) (by decide +kernel)

end WerTe
