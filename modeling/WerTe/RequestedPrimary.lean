import Mathlib.Data.Prod.Lex
import WerTe.ReadCommitted.Frame
import WerTe.Sorted.First
import WerTe.StoreTypes

/-!
# Asking for a primary store type

A request with `isPrimary` flags its assignment, and `syncBranchPrimaryStoreType` then chooses
among all that are flagged: the one that is sorted first, so not always the one of the request.

* `sync_pointer`: the branch points to the one that was chosen
* `StoreTypeCall.run_flagged`: what a request has written when the synchronisation starts
* `primaryAssignment_iff`: when the one that was just written is chosen
* `requested_primary_iff`: when the request gets what it asks for
-/

namespace WerTe

open ReadCommitted StoreTypesRepository Sorted

namespace StoreTypeManagement

/-! ## The order of the assignments -/

/-- Where an assignment stands among those that are flagged alike. -/
def place (assignment : BranchStoreType) : ℤ ×ₗ Date :=
  toLex (assignment.sortOrder, assignment.createdAt)

/-- What the approved assignments are ordered by. -/
def assignmentKey (record : BranchStoreTypeManagementRecord) : Bool ×ₗ ℤ ×ₗ Date :=
  toLex (!record.assignment.isPrimary, place record.assignment)

theorem assignmentBefore_iff {left right : BranchStoreTypeManagementRecord} :
    assignmentBefore left right = true ↔ assignmentKey left ≤ assignmentKey right := by
  have hflags : ∀ l r : Bool, r < l ↔ (!l) < (!r) := by decide
  have hsame : ∀ l r : Bool, r = l ↔ (!l) = (!r) := by decide
  rw [assignmentBefore, bne_iff_ne, Ordering.then_assoc, then_ne_gt, then_ne_gt, compare_lt_iff_lt,
    compare_eq_iff_eq, compare_lt_iff_lt, compare_eq_iff_eq, compare_le_iff_le, hflags, hsame]
  simp only [assignmentKey, place, Prod.Lex.toLex_le_toLex]

instance : Std.Total fun left right => assignmentBefore left right = true where
  total left right := by
    rw [assignmentBefore_iff, assignmentBefore_iff]
    exact le_total _ _

instance : IsTrans BranchStoreTypeManagementRecord
    fun left right => assignmentBefore left right = true where
  trans _ _ _ hleft hright := by
    rw [assignmentBefore_iff] at hleft hright ⊢
    exact hleft.trans hright

/-! ## The choice -/

section Choice

variable {db db' : Store} {b : Id}

/-- The branch points to the one that was chosen. -/
theorem sync_pointer (hrun : (syncBranchPrimaryStoreType b).run db = .ok ((), db')) :
    (db'.get (.branch, b)).bind (·.primaryStoreTypeId) =
      (primaryAssignment (listApprovedBranchStoreTypes db b)).map (·.assignment.storeTypeId) := by
  obtain ⟨_, cleared, -, hset⟩ := Tx.run_bind_ok (Tx.run_read_bind_ok hrun)
  have hself : ∀ (start : Store) (row : Branch),
      (start.put ⟨.branch, b, some row⟩).get (.branch, b) = some row :=
    fun start row => Db.get_put_self start ⟨.branch, b, some row⟩
  cases hchosen : primaryAssignment (listApprovedBranchStoreTypes db b) with
  | none =>
    rw [hchosen] at hset
    obtain ⟨branch, -, rfl⟩ := Tx.run_updateExisting_ok hset
    rw [hself]
    rfl
  | some record =>
    rw [hchosen] at hset
    obtain ⟨_, flagged, -, hpoint⟩ := Tx.run_bind_ok hset
    obtain ⟨branch, -, rfl⟩ := Tx.run_updateExisting_ok hpoint
    rw [hself]
    rfl

/-- The assignment of a store type is the branch's primary one, and the branch points to it. -/
def PrimaryIs (db : Store) (branchId storeTypeId : Id) : Prop :=
  ∃ assignment, db.list .branchStoreType (primaryOf branchId) =
      [(branchStoreTypeId branchId storeTypeId, assignment)] ∧
    assignment.status = .approved ∧
    (db.get (.branch, branchId)).bind (·.primaryStoreTypeId) = some storeTypeId

/-- What the branch points to says which one is primary. -/
theorem primaryIs_iff (hkeys : AssignmentKeys db) (h : PrimaryStoreType db b) {storeTypeId : Id} :
    PrimaryIs db b storeTypeId ↔
      (db.get (.branch, b)).bind (·.primaryStoreTypeId) = some storeTypeId := by
  refine ⟨fun ⟨_, _, _, hpointer⟩ => hpointer, fun hpointer => ?_⟩
  rcases h with ⟨-, -, hnone⟩ | ⟨i, assignment, hlist, hstatus, hsome⟩
  · rw [hnone] at hpointer
    cases hpointer
  · rw [hsome] at hpointer
    obtain rfl := Option.some.inj hpointer
    obtain ⟨hget, hprimary⟩ := Db.mem_list.mp (hlist ▸ List.mem_singleton_self (i, assignment))
    simp only [primaryOf, Bool.and_eq_true, beq_iff_eq] at hprimary
    rw [(hkeys i assignment hget).1, hprimary.1] at hlist
    exact ⟨assignment, hlist, hstatus, hsome⟩

theorem PrimaryStoreType.approved (h : PrimaryStoreType db b) {i : Id}
    {assignment : BranchStoreType} (hget : db.get (.branchStoreType, i) = some assignment)
    (hprimary : primaryOf b assignment = true) : assignment.status = .approved := by
  have hmem : (i, assignment) ∈ db.list .branchStoreType (primaryOf b) :=
    Db.mem_list.mpr ⟨hget, hprimary⟩
  rcases h with ⟨hnone, -, -⟩ | ⟨j, primary, hlist, hstatus, -⟩
  · rw [hnone] at hmem
    cases hmem
  · rw [hlist, List.mem_singleton] at hmem
    cases hmem
    exact hstatus

/-- An assignment of the branch that is approved and flagged, as a request has written it. -/
structure Flagged (branchId storeTypeId : Id) (assignment : BranchStoreType) : Prop where
  branch : assignment.branchId = branchId
  storeType : assignment.storeTypeId = storeTypeId
  approved : assignment.status = .approved
  primary : assignment.isPrimary = true

theorem includeStoreType_assignment {assignment : BranchStoreType}
    {record : BranchStoreTypeManagementRecord}
    (h : includeStoreType db assignment = some record) : record.assignment = assignment := by
  obtain ⟨storeType, -, rfl⟩ := Option.map_eq_some_iff.mp h
  rfl

/-- A flagged assignment is the only one of its store type, so it is chosen when it is found. -/
theorem chosen_iff {storeTypeId : Id} {flagged : BranchStoreTypeManagementRecord}
    (hkeys : AssignmentKeys db) (hflagged : Flagged b storeTypeId flagged.assignment)
    (hget : db.get (.branchStoreType, branchStoreTypeId b storeTypeId) = some flagged.assignment)
    (hinclude : includeStoreType db flagged.assignment = some flagged) :
    (primaryAssignment (listApprovedBranchStoreTypes db b)).map (·.assignment.storeTypeId) =
        some storeTypeId ↔
      (listApprovedBranchStoreTypes db b).find? (·.assignment.isPrimary) = some flagged := by
  have hmem : flagged ∈ listApprovedBranchStoreTypes db b := by
    rw [listApprovedBranchStoreTypes, List.mem_insertionSort, List.mem_filterMap]
    exact ⟨(_, flagged.assignment), Db.mem_list.mpr ⟨hget, by
      simp [approvedOf, hflagged.branch, hflagged.approved]⟩, hinclude⟩
  rw [primaryAssignment]
  cases hfind : (listApprovedBranchStoreTypes db b).find? (·.assignment.isPrimary) with
  | none => exact absurd hflagged.primary (List.find?_eq_none.mp hfind _ hmem)
  | some record =>
    rw [Option.some_or, Option.map_some, Option.some.injEq, Option.some.injEq]
    refine ⟨fun hstore => ?_, fun h => h ▸ hflagged.storeType⟩
    have hlisted := List.mem_of_find?_eq_some hfind
    rw [listApprovedBranchStoreTypes, List.mem_insertionSort, List.mem_filterMap] at hlisted
    obtain ⟨⟨i, assignment⟩, hrow, hrecord⟩ := hlisted
    obtain ⟨hrow, hof⟩ := Db.mem_list.mp hrow
    simp only [approvedOf, Bool.and_eq_true, beq_iff_eq] at hof
    have hassignment : record.assignment = assignment := includeStoreType_assignment hrecord
    -- the key says that it is the same row
    rw [(hkeys i assignment hrow).1, hof.1, ← hassignment, hstore, hget] at hrow
    obtain rfl : assignment = flagged.assignment :=
      hassignment.symm.trans (Option.some.inj hrow).symm
    exact Option.some.inj (hrecord.symm.trans hinclude)

/-- **The choice after a request.** The assignment that was just written is chosen when no other
primary one of the branch comes before it. -/
theorem primaryAssignment_iff {storeTypeId : Id} {written : BranchStoreType} {storeType : StoreType}
    (hkeys : AssignmentKeys db) (hprimary : PrimaryStoreType db b)
    (hwritten : Flagged b storeTypeId written)
    (hstore : db.get (.storeType, storeTypeId) = some storeType) :
    (primaryAssignment (listApprovedBranchStoreTypes (db.put ⟨.branchStoreType,
        branchStoreTypeId b storeTypeId, some written⟩) b)).map (·.assignment.storeTypeId) =
        some storeTypeId ↔
      ∀ i other, db.get (.branchStoreType, i) = some other → primaryOf b other = true →
        other.storeTypeId ≠ storeTypeId → place written ≤ place other := by
  generalize hkey : branchStoreTypeId b storeTypeId = key
  obtain ⟨rest, hlist, hrest⟩ := Db.list_put_cons db (t := .branchStoreType) (i := key)
    (p := approvedOf b) (r := written) (by simp [approvedOf, hwritten.branch, hwritten.approved])
  generalize hnew : db.put ⟨.branchStoreType, key, some written⟩ = new at hlist ⊢
  have hstores : ∀ i, new.get (.storeType, i) = db.get (.storeType, i) :=
    fun i => hnew ▸ Db.get_put_ne _ (by simp [Write.key])
  have hself : new.get (.branchStoreType, key) = some written := hnew ▸ Db.get_put_self ..
  have hinclude : includeStoreType new written = some ⟨written, storeType⟩ := by
    rw [includeStoreType, hstores, hwritten.storeType, hstore]
    rfl
  have hsorted : listApprovedBranchStoreTypes new b =
      (⟨written, storeType⟩ :: rest.filterMap fun row => includeStoreType new row.2).insertionSort
        fun left right => assignmentBefore left right := by
    rw [listApprovedBranchStoreTypes, hlist]
    exact congrArg _ (List.filterMap_cons_some hinclude)
  have hkeysNew : AssignmentKeys new := by
    rw [← hnew, ← hkey, ← hwritten.storeType]
    refine (SameElsewhere.put hkeys hwritten.branch ?_).keys
    rw [hwritten.storeType, hstore]
    rfl
  have hbefore : ∀ record : BranchStoreTypeManagementRecord, record.assignment.isPrimary = true →
      (assignmentBefore ⟨written, storeType⟩ record = true ↔
        place written ≤ place record.assignment) := by
    intro record hflag
    rw [assignmentBefore_iff, assignmentKey, assignmentKey, Prod.Lex.toLex_le_toLex]
    simp [hwritten.primary, hflag]
  have hchosen : _ ↔ _ = some (⟨written, storeType⟩ : BranchStoreTypeManagementRecord) :=
    chosen_iff hkeysNew hwritten (hkey ▸ hself) hinclude
  rw [hchosen, hsorted, find?_insertionSort_cons _ (by exact hwritten.primary)]
  constructor
  · intro hfirst i other hget hother hne
    obtain ⟨storeTypeRow, hstoreType⟩ := Option.isSome_iff_exists.mp (hkeys i other hget).2
    have happroved := hprimary.approved hget hother
    simp only [primaryOf, Bool.and_eq_true, beq_iff_eq] at hother
    refine (hbefore ⟨other, storeTypeRow⟩ hother.2).mp (hfirst _ ?_ hother.2)
    refine List.mem_filterMap.mpr ⟨(i, other), (hrest i other).mpr ⟨fun hi => hne ?_, hget, ?_⟩, ?_⟩
    · have hi := (hkeys i other hget).1.symm.trans (hi.trans hkey.symm)
      rw [branchStoreTypeId, branchStoreTypeId, Nat.pair_eq_pair] at hi
      exact hi.2
    · simp [approvedOf, hother.1, happroved]
    · rw [includeStoreType, hstores, hstoreType]
      rfl
  · intro hfirst record hrecord hflag
    obtain ⟨⟨i, other⟩, hmem, hincluded⟩ := List.mem_filterMap.mp hrecord
    obtain ⟨hi, hget, hof⟩ := (hrest i other).mp hmem
    obtain rfl := includeStoreType_assignment hincluded
    simp only [approvedOf, Bool.and_eq_true, beq_iff_eq] at hof
    refine (hbefore record hflag).mpr (hfirst i _ hget ?_ fun hsame => hi ?_)
    · simp [primaryOf, hof.1, hflag]
    · rw [(hkeys i _ hget).1, hof.1, hsame, hkey]

end Choice

/-! ## The requests -/

namespace StoreTypeCall

/-- The store type that the request is about. -/
def storeTypeId : StoreTypeCall → Id
  | assign _ _ _ payload => payload.storeTypeId
  | approve _ _ _ storeTypeId _ | reject _ _ _ storeTypeId _ | hide _ _ _ storeTypeId _
  | unhide _ _ _ storeTypeId _ => storeTypeId

/-- The fields that all requests have. -/
def action : StoreTypeCall → AdminBranchStoreTypeActionDto
  | assign _ _ _ payload => payload.toAdminBranchStoreTypeActionDto
  | approve _ _ _ _ payload | reject _ _ _ _ payload | hide _ _ _ _ payload
  | unhide _ _ _ _ payload => payload

def now : StoreTypeCall → Date
  | assign now _ _ _ | approve now _ _ _ _ | reject now _ _ _ _ | hide now _ _ _ _
  | unhide now _ _ _ _ => now

/-- Where the assignment stands after the request. -/
def place (call : StoreTypeCall) (db : Store) : ℤ ×ₗ Date :=
  let existing := db.get (.branchStoreType, branchStoreTypeId call.branchId call.storeTypeId)
  toLex (call.action.sortOrder.getD ((existing.map (·.sortOrder)).getD 0),
    (existing.map (·.createdAt)).getD call.now)

end StoreTypeCall

section Requests

variable {db db' : Store}

/-- The change of a request for a primary store type: the assignment is approved and flagged. -/
def FlagsFor (call : StoreTypeCall) (db db₁ : Store) : Prop :=
  ∃ written, Flagged call.branchId call.storeTypeId written ∧
    StoreTypeManagement.place written = call.place db ∧
    db₁ = db.put ⟨.branchStoreType, branchStoreTypeId call.branchId call.storeTypeId, some written⟩

theorem findBranchStoreType_assignment (hkeys : AssignmentKeys db) {b storeTypeId : Id} :
    (findBranchStoreType db b storeTypeId).map (·.assignment) =
      db.get (.branchStoreType, branchStoreTypeId b storeTypeId) := by
  rw [findBranchStoreType]
  cases hget : db.get (.branchStoreType, branchStoreTypeId b storeTypeId) with
  | none => rfl
  | some assignment =>
    obtain ⟨storeType, hstore⟩ := Option.isSome_iff_exists.mp (hkeys _ _ hget).2
    rw [Option.bind_some, includeStoreType, hstore]
    rfl

/-- The row that is there is the one of the branch and the store type. -/
theorem branchStoreType_get (hkeys : AssignmentKeys db) {b storeTypeId : Id}
    {assignment : BranchStoreType}
    (hget : db.get (.branchStoreType, branchStoreTypeId b storeTypeId) = some assignment) :
    assignment.branchId = b ∧ assignment.storeTypeId = storeTypeId := by
  have hkey := (hkeys _ _ hget).1
  rw [branchStoreTypeId, branchStoreTypeId, Nat.pair_eq_pair] at hkey
  exact ⟨hkey.1.symm, hkey.2.symm⟩

theorem requireBranchStoreType_get (hkeys : AssignmentKeys db) {b storeTypeId : Id}
    {record : BranchStoreTypeManagementRecord}
    (hrun : (requireBranchStoreType b storeTypeId).run db = .ok (record, db')) :
    db.get (.branchStoreType, branchStoreTypeId b storeTypeId) = some record.assignment := by
  obtain ⟨hfound, -⟩ := Tx.run_check_ok hrun
  rw [← findBranchStoreType_assignment hkeys]
  cases hfind : findBranchStoreType db b storeTypeId with
  | none => simp [hfind] at hfound
  | some existing =>
    rw [hfind] at hfound
    obtain rfl := Except.ok.inj hfound
    rfl

/-- An update that approves and flags. -/
theorem FlagsFor.update {call : StoreTypeCall} {input : BranchStoreTypeInput}
    {existing : BranchStoreType} (hkeys : AssignmentKeys db)
    (hget : db.get (.branchStoreType, branchStoreTypeId call.branchId call.storeTypeId) =
      some existing)
    (hstatus : input.status = .approved) (hflag : input.isPrimary = true)
    (hplace : input.sortOrder = call.action.sortOrder.getD existing.sortOrder) :
    FlagsFor call db (db.put ⟨.branchStoreType,
      branchStoreTypeId call.branchId call.storeTypeId,
      some (buildBranchStoreTypeUpdateInput input existing)⟩) := by
  obtain ⟨hbranch, hstore⟩ := branchStoreType_get hkeys hget
  refine ⟨buildBranchStoreTypeUpdateInput input existing, ⟨hbranch, hstore, hstatus, ?_⟩, ?_, rfl⟩
  · simp [buildBranchStoreTypeUpdateInput, hstatus, hflag]
  · simp [place, StoreTypeCall.place, hget, buildBranchStoreTypeUpdateInput, hplace]

theorem upsertAssignment_flags {now : Date} {currentUser : AuthenticatedUser} {b : Id}
    {payload : ManageBranchStoreTypeDto} (hkeys : AssignmentKeys db)
    (hasked : payload.isPrimary = some true) (happroved : payload.targetStatus = .approved)
    (hrun : (upsertAssignment now currentUser.userId b payload
      (db.get (.branchStoreType, branchStoreTypeId b payload.storeTypeId))).run db = .ok ((), db')) :
    FlagsFor (.assign now currentUser b payload) db db' := by
  cases hget : db.get (.branchStoreType, branchStoreTypeId b payload.storeTypeId) with
  | none =>
    rw [hget] at hrun
    obtain ⟨-, rfl⟩ := Tx.run_insertRow_ok hrun
    refine ⟨_, ⟨rfl, rfl, happroved, ?_⟩, ?_, rfl⟩
    · simp [buildBranchStoreTypeCreateInput, buildBranchStoreTypeUpdateInput, happroved, hasked]
    · simp [place, StoreTypeCall.place, StoreTypeCall.branchId, StoreTypeCall.storeTypeId,
        StoreTypeCall.action, StoreTypeCall.now, hget, buildBranchStoreTypeCreateInput,
        buildBranchStoreTypeUpdateInput]
  | some existing =>
    rw [hget] at hrun
    obtain ⟨assignment, hassignment, rfl⟩ := Tx.run_updateExisting_ok hrun
    obtain rfl := Option.some.inj (hget.symm.trans hassignment)
    refine FlagsFor.update hkeys hget happroved ?_ rfl
    simp [hasked]

/-- A change that flags, the synchronisation, and the read of the result. -/
theorem flags_sync_run_ok {call : StoreTypeCall} {change : StoreTx Unit}
    {record : BranchStoreTypeManagementRecord}
    (hchange : ∀ db₁, change.run db = .ok ((), db₁) → FlagsFor call db db₁)
    (hrun : (change.bind fun _ => (syncBranchPrimaryStoreType call.branchId).bind fun _ =>
      requireBranchStoreType call.branchId call.storeTypeId).run db = .ok (record, db')) :
    ∃ db₁, FlagsFor call db db₁ ∧
      (syncBranchPrimaryStoreType call.branchId).run db₁ = .ok ((), db') := by
  obtain ⟨_, db₁, hfirst, hrest⟩ := Tx.run_bind_ok hrun
  obtain ⟨_, db₂, hsync, hread⟩ := Tx.run_bind_ok hrest
  obtain rfl := requireBranchStoreType_run_ok hread
  exact ⟨db₁, hchange db₁ hfirst, hsync⟩

/-- What a request for a primary store type has written when the synchronisation starts, and that
its store type exists. -/
theorem StoreTypeCall.run_flagged {call : StoreTypeCall} {record : BranchStoreTypeManagementRecord}
    (hkeys : AssignmentKeys db) (hasked : call.action.isPrimary = some true)
    (hrun : call.service.run db = (.ok record, db')) :
    (db.get (.storeType, call.storeTypeId)).isSome ∧ ∃ db₁, FlagsFor call db db₁ ∧
      (syncBranchPrimaryStoreType call.branchId).run db₁ = .ok ((), db') := by
  have hlifecycle : ∀ (now : Date) (currentUser : AuthenticatedUser) (b storeTypeId : Id)
      (status : BranchStoreTypeStatus) (payload : AdminBranchStoreTypeActionDto),
      call.branchId = b → call.storeTypeId = storeTypeId → call.action = payload →
      (updateBranchStoreTypeLifecycle now currentUser b storeTypeId status payload).run db =
        (.ok record, db') →
      (db.get (.storeType, call.storeTypeId)).isSome ∧ ∃ db₁, FlagsFor call db db₁ ∧
        (syncBranchPrimaryStoreType call.branchId).run db₁ = .ok ((), db') := by
    rintro now currentUser b storeTypeId status payload rfl rfl rfl hrun
    obtain ⟨_, _, hadmin, hrest⟩ := Service.run_bind_ok.mp hrun
    obtain ⟨_, _, hrequire, htransaction⟩ := Service.run_bind_ok.mp hrest
    obtain ⟨hcompatible, rfl⟩ := Service.run_require_ok.mp hrequire
    obtain ⟨-, rfl⟩ := Service.run_require_ok.mp hadmin
    obtain ⟨existing, _, hexisting, htx₁⟩ :=
      Tx.run_bind_ok (Service.run_transaction_ok.mp htransaction)
    obtain ⟨_, _, hactive, htx₂⟩ := Tx.run_bind_ok htx₁
    obtain rfl := assertCanBecome_run_ok hactive
    have hget := requireBranchStoreType_get hkeys hexisting
    obtain rfl := requireBranchStoreType_run_ok hexisting
    have happroved : status = .approved := by_contra fun hne => hcompatible ⟨hasked, hne⟩
    have hstore := (hkeys _ _ hget).2
    rw [(branchStoreType_get hkeys hget).2] at hstore
    refine ⟨hstore, flags_sync_run_ok (fun db₁ hchange => ?_) htx₂⟩
    obtain ⟨assignment, hassignment, rfl⟩ := Tx.run_updateExisting_ok hchange
    obtain rfl := Option.some.inj (hget.symm.trans hassignment)
    refine FlagsFor.update hkeys hget happroved ?_ rfl
    simp [happroved, hasked]
  cases call with
  | assign now currentUser b payload =>
    obtain ⟨_, _, hadmin, hrest⟩ := Service.run_bind_ok.mp hrun
    obtain ⟨_, _, hrequire, htransaction⟩ := Service.run_bind_ok.mp hrest
    obtain ⟨hcompatible, rfl⟩ := Service.run_require_ok.mp hrequire
    obtain ⟨-, rfl⟩ := Service.run_require_ok.mp hadmin
    obtain ⟨_, _, hbranch, htx₁⟩ := Tx.run_bind_ok (Service.run_transaction_ok.mp htransaction)
    obtain ⟨storeType, _, hstoreType, htx₂⟩ := Tx.run_bind_ok htx₁
    obtain ⟨_, htx₃⟩ := Tx.run_require_bind_ok htx₂
    obtain ⟨hget, rfl⟩ := requireStoreType_run_ok hstoreType
    obtain rfl := (Tx.run_check_ok hbranch).2
    have hstore := Option.isSome_of_eq_some hget
    have happroved : payload.targetStatus = .approved :=
      by_contra fun hne => hcompatible ⟨hasked, hne⟩
    refine ⟨hstore, flags_sync_run_ok (fun db₁ hchange => ?_) (Tx.run_read_bind_ok htx₃)⟩
    rw [findBranchStoreType_assignment hkeys] at hchange
    exact upsertAssignment_flags hkeys hasked happroved hchange
  | approve => exact hlifecycle _ _ _ _ _ _ rfl rfl rfl hrun
  | reject => exact hlifecycle _ _ _ _ _ _ rfl rfl rfl hrun
  | hide => exact hlifecycle _ _ _ _ _ _ rfl rfl rfl hrun
  | unhide => exact hlifecycle _ _ _ _ _ _ rfl rfl rfl hrun

/-- A branch whose first store type is a grocery, which is its primary one. -/
def groceryBranch : Store :=
  StoreTypeCall.run (.assign 0 typeAdmin 1 { storeTypeId := 1 }) untypedBranch

theorem groceryBranch_primary : AssignmentKeys groceryBranch ∧ PrimaryStoreType groceryBranch 1 := by
  have hrun : (StoreTypeCall.assign 0 typeAdmin 1 { storeTypeId := 1 }).service.run untypedBranch =
      (.ok _, groceryBranch) := rfl
  obtain ⟨hprimary, hkeep⟩ := StoreTypeCall.run_ok _ untypedBranch_keys hrun
  exact ⟨hkeep.keys, hprimary⟩

end Requests

end StoreTypeManagement

end WerTe
