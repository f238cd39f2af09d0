import Mathlib.Data.List.Sort
import Mathlib.Data.Nat.Pairing
import WerTe.ReadCommitted.Flags
import WerTe.ReadCommitted.Sequential
import WerTe.Schema

/-!
# The store types of a branch

`store-type-management.service.ts` and `store-types.repository.ts`: an admin assigns store types
to a branch, approves, rejects, hides and unhides them. One of the approved ones is the branch's
primary store type, and the branch's row has a copy of its id.

Every operation ends with `syncBranchPrimaryStoreType`, which makes this right whatever it was
before (`primary_store_type`).
-/

namespace WerTe

open ReadCommitted

/-! ## `store-types.repository.ts` -/

/-- An assignment with its store type, as `branchStoreTypeManagementInclude` loads it. -/
structure BranchStoreTypeManagementRecord where
  assignment : BranchStoreType
  storeType : StoreType
deriving DecidableEq

namespace StoreTypesRepository

/-- `branchId_storeTypeId`. -/
def branchStoreTypeId (branchId storeTypeId : Id) : Id := Nat.pair branchId storeTypeId

def includeStoreType (db : Store) (assignment : BranchStoreType) :
    Option BranchStoreTypeManagementRecord :=
  (db.get (.storeType, assignment.storeTypeId)).map fun storeType => ⟨assignment, storeType⟩

def findBranchStoreType (db : Store) (branchId storeTypeId : Id) :
    Option BranchStoreTypeManagementRecord :=
  (db.get (.branchStoreType, branchStoreTypeId branchId storeTypeId)).bind (includeStoreType db)

def createBranchStoreType (data : BranchStoreType) : StoreTx Unit :=
  let id := branchStoreTypeId data.branchId data.storeTypeId
  .insertRow (.branchStoreType, id) data fun db =>
    if (db.get (.branchStoreType, id)).isSome then some (.uniqueConstraint "branchId_storeTypeId")
    else none

def updateBranchStoreType (branchId storeTypeId : Id) (data : BranchStoreType → BranchStoreType) :
    StoreTx Unit :=
  .updateExisting (.branchStoreType, branchStoreTypeId branchId storeTypeId) data .recordNotFound

/-- The assignment is a primary one of the branch. -/
def primaryOf (branchId : Id) (assignment : BranchStoreType) : Bool :=
  assignment.branchId == branchId && assignment.isPrimary

def clearBranchPrimaryAssignments (branchId : Id) : StoreTx Unit :=
  .updateAll .branchStoreType (primaryOf branchId) fun assignment =>
    { assignment with isPrimary := false }

/-- The primary one first, then by `sortOrder`, then the oldest. -/
def assignmentBefore (left right : BranchStoreTypeManagementRecord) : Bool :=
  (((compare right.assignment.isPrimary left.assignment.isPrimary).then
    (compare left.assignment.sortOrder right.assignment.sortOrder)).then
      (compare left.assignment.createdAt right.assignment.createdAt)) != .gt

/-- The assignment is an approved one of the branch. -/
def approvedOf (branchId : Id) (assignment : BranchStoreType) : Bool :=
  assignment.branchId == branchId && assignment.status == .approved

def listApprovedBranchStoreTypes (db : Store) (branchId : Id) :
    List BranchStoreTypeManagementRecord :=
  ((db.list .branchStoreType (approvedOf branchId)).filterMap fun row =>
    includeStoreType db row.2).insertionSort fun left right => assignmentBefore left right

def updateBranchPrimaryStoreType (branchId : Id) (data : Branch → Branch) : StoreTx Unit :=
  .updateExisting (.branch, branchId) data .recordNotFound

end StoreTypesRepository

open StoreTypesRepository

/-! ## `store-type-management.service.ts` -/

/-- An optional field that the service reads with `??` is `none` also when it is `null`. -/
structure AdminBranchStoreTypeActionDto where
  isPrimary : Option Bool := none
  sortOrder : Option ℤ := none
  reason : Field String := .undefined
deriving DecidableEq

/-- The same fields, for a store type and with a status. -/
structure ManageBranchStoreTypeDto extends AdminBranchStoreTypeActionDto where
  storeTypeId : Id
  status : Option BranchStoreTypeStatus := none
deriving DecidableEq

/-- An admin's assignment is an approval unless it says otherwise. -/
def ManageBranchStoreTypeDto.targetStatus (payload : ManageBranchStoreTypeDto) :
    BranchStoreTypeStatus := payload.status.getD .approved

/-- The columns that are written with the status. -/
structure BranchStoreTypeInput where
  currentUserId : Id
  status : BranchStoreTypeStatus
  isPrimary : Bool
  sortOrder : ℤ
  reason : Option String
  now : Date

namespace StoreTypeManagement

def buildBranchStoreTypeUpdateInput (input : BranchStoreTypeInput) (assignment : BranchStoreType) :
    BranchStoreType :=
  { assignment with
    status := input.status
    isPrimary := input.status == .approved && input.isPrimary
    sortOrder := input.sortOrder
    approvedByUserId := if input.status = .approved then some input.currentUserId else none
    approvedAt := if input.status = .approved then some input.now else none
    rejectedAt := if input.status = .rejected then some input.now else none
    hiddenAt := if input.status = .hidden then some input.now else none
    reason := input.reason }

/-- The columns of an update, with the assignment's key and who asked for it. -/
def buildBranchStoreTypeCreateInput (branchId storeTypeId : Id) (input : BranchStoreTypeInput) :
    BranchStoreType :=
  buildBranchStoreTypeUpdateInput input {
    branchId, storeTypeId
    requestedByUserId := some input.currentUserId
    createdAt := input.now
    status := .pending, isPrimary := false, sortOrder := 0, approvedByUserId := none
    approvedAt := none, rejectedAt := none, hiddenAt := none, reason := none }

def assertCanManageStoreTypes (currentUser : AuthenticatedUser) : StoreService Unit :=
  .require (currentUser.role = .admin) (fail "You are not allowed to manage store types." .forbidden)

def assertPrimaryCompatible (status : BranchStoreTypeStatus) (isPrimary : Option Bool) :
    StoreService Unit :=
  .require (¬ (isPrimary = some true ∧ status ≠ .approved)) (fail
    "Only approved branch store types can be marked as primary." .unprocessableEntity)

def assertStoreTypeCanBeActivated (storeType : StoreType) : StoreTx Unit :=
  .require (storeType.isActive = true) (fail ("Inactive store type \"" ++ storeType.name ++
    "\" cannot be approved for a branch.") .unprocessableEntity)

def requireBranch (branchId : Id) : StoreTx Branch :=
  .check fun db =>
    match db.get (.branch, branchId) with
    | some branch => .ok branch
    | none => .error (fail "Branch was not found." .notFound)

/-- In a transaction the store type is read from the database, not from the cache. -/
def requireStoreType (storeTypeId : Id) : StoreTx StoreType :=
  .check fun db =>
    match db.get (.storeType, storeTypeId) with
    | some storeType => .ok storeType
    | none => .error (fail "Store type was not found." .notFound)

def requireBranchStoreType (branchId storeTypeId : Id) : StoreTx BranchStoreTypeManagementRecord :=
  .check fun db =>
    match findBranchStoreType db branchId storeTypeId with
    | some assignment => .ok assignment
    | none => .error (fail "Branch store type assignment was not found." .notFound)

/-- The one that is primary already, or else the first one. -/
def primaryAssignment (approvedAssignments : List BranchStoreTypeManagementRecord) :
    Option BranchStoreTypeManagementRecord :=
  (approvedAssignments.find? fun record => record.assignment.isPrimary).or approvedAssignments.head?

/-- Flag the assignment and point the branch to it. -/
def setPrimaryAssignment (branchId : Id) : Option BranchStoreTypeManagementRecord → StoreTx Unit
  | some primaryAssignment => do
    updateBranchStoreType branchId primaryAssignment.assignment.storeTypeId fun assignment =>
      { assignment with isPrimary := true }
    updateBranchPrimaryStoreType branchId fun branch => { branch with
      primaryStoreTypeId := some primaryAssignment.assignment.storeTypeId
      storeType := primaryAssignment.storeType.code }
  | none => updateBranchPrimaryStoreType branchId fun branch =>
      { branch with primaryStoreTypeId := none }

def syncBranchPrimaryStoreType (branchId : Id) : StoreTx Unit := do
  let approvedAssignments ← .read fun db => listApprovedBranchStoreTypes db branchId
  clearBranchPrimaryAssignments branchId
  setPrimaryAssignment branchId (primaryAssignment approvedAssignments)

/-- The reason that is stored: `null` takes it away. -/
def nextReason (reason : Field String) (existing : Option String) : Option String :=
  if reason = .undefined then existing else normalizeOptionalString reason.toOption

/-- Create the assignment, or change the one there is. -/
def upsertAssignment (now : Date) (currentUserId branchId : Id)
    (payload : ManageBranchStoreTypeDto) (existingAssignment : Option BranchStoreType) :
    StoreTx Unit :=
  let input : BranchStoreTypeInput := {
    currentUserId, now
    status := payload.targetStatus
    isPrimary := payload.isPrimary.getD (existingAssignment.any (·.isPrimary))
    sortOrder := payload.sortOrder.getD ((existingAssignment.map (·.sortOrder)).getD 0)
    reason := nextReason payload.reason (existingAssignment.bind (·.reason)) }
  match existingAssignment with
  | none => createBranchStoreType (buildBranchStoreTypeCreateInput branchId payload.storeTypeId input)
  | some _ =>
    updateBranchStoreType branchId payload.storeTypeId (buildBranchStoreTypeUpdateInput input)

def assignBranchStoreType (now : Date) (currentUser : AuthenticatedUser) (branchId : Id)
    (payload : ManageBranchStoreTypeDto) : StoreService BranchStoreTypeManagementRecord := do
  assertCanManageStoreTypes currentUser
  assertPrimaryCompatible payload.targetStatus payload.isPrimary
  .transaction (do
    let _ ← requireBranch branchId
    let storeType ← requireStoreType payload.storeTypeId
    assertStoreTypeCanBeActivated storeType
    let existingAssignment ← .read fun db => findBranchStoreType db branchId payload.storeTypeId
    upsertAssignment now currentUser.userId branchId payload
      (existingAssignment.map (·.assignment))
    syncBranchPrimaryStoreType branchId
    requireBranchStoreType branchId payload.storeTypeId)

/-- An approval needs an active store type. -/
def assertCanBecome (status : BranchStoreTypeStatus) (storeType : StoreType) : StoreTx Unit :=
  if status = .approved then assertStoreTypeCanBeActivated storeType else pure ()

def updateBranchStoreTypeLifecycle (now : Date) (currentUser : AuthenticatedUser)
    (branchId storeTypeId : Id) (status : BranchStoreTypeStatus)
    (payload : AdminBranchStoreTypeActionDto) : StoreService BranchStoreTypeManagementRecord := do
  assertCanManageStoreTypes currentUser
  assertPrimaryCompatible status payload.isPrimary
  .transaction (do
    let existing ← requireBranchStoreType branchId storeTypeId
    assertCanBecome status existing.storeType
    updateBranchStoreType branchId storeTypeId (buildBranchStoreTypeUpdateInput {
      currentUserId := currentUser.userId, now, status
      isPrimary := status == .approved && payload.isPrimary.getD existing.assignment.isPrimary
      sortOrder := payload.sortOrder.getD existing.assignment.sortOrder
      reason := nextReason payload.reason existing.assignment.reason })
    syncBranchPrimaryStoreType branchId
    requireBranchStoreType branchId storeTypeId)

section Lifecycle

variable (now : Date) (currentUser : AuthenticatedUser) (branchId storeTypeId : Id)
  (payload : AdminBranchStoreTypeActionDto)

def approveBranchStoreType :=
  updateBranchStoreTypeLifecycle now currentUser branchId storeTypeId .approved payload

def rejectBranchStoreType :=
  updateBranchStoreTypeLifecycle now currentUser branchId storeTypeId .rejected payload

def hideBranchStoreType :=
  updateBranchStoreTypeLifecycle now currentUser branchId storeTypeId .hidden payload

def unhideBranchStoreType :=
  updateBranchStoreTypeLifecycle now currentUser branchId storeTypeId .approved payload

end Lifecycle

/-! ## The primary store type -/

/-- Either the branch has no approved assignment, none is primary and the branch points to none,
or exactly one is primary, which is approved and which the branch points to. -/
def PrimaryStoreType (db : Store) (branchId : Id) : Prop :=
  let pointer := (db.get (.branch, branchId)).bind (·.primaryStoreTypeId)
  (db.list .branchStoreType (primaryOf branchId) = [] ∧
      db.list .branchStoreType (approvedOf branchId) = [] ∧ pointer = none) ∨
    ∃ i assignment, db.list .branchStoreType (primaryOf branchId) = [(i, assignment)] ∧
      assignment.status = .approved ∧ pointer = some assignment.storeTypeId

/-- The primary key and the foreign key of the assignments. -/
def AssignmentKeys (db : Store) : Prop :=
  ∀ i assignment, db.get (.branchStoreType, i) = some assignment →
    i = branchStoreTypeId assignment.branchId assignment.storeTypeId ∧
      (db.get (.storeType, assignment.storeTypeId)).isSome

/-- What an operation on one branch leaves alone, and the keys, which hold before and after. -/
structure SameElsewhere (branchId : Id) (db db' : Store) : Prop where
  keys : AssignmentKeys db'
  assignments : ∀ i assignment, assignment.branchId ≠ branchId →
    (db'.get (.branchStoreType, i) = some assignment ↔
      db.get (.branchStoreType, i) = some assignment)
  branches : ∀ other, other ≠ branchId → db'.get (.branch, other) = db.get (.branch, other)

section Elsewhere

variable {db db' db'' : Store} {b : Id}

theorem SameElsewhere.trans (h : SameElsewhere b db db') (h' : SameElsewhere b db' db'') :
    SameElsewhere b db db'' where
  keys := h'.keys
  assignments i a ha := (h'.assignments i a ha).trans (h.assignments i a ha)
  branches other hne := (h'.branches other hne).trans (h.branches other hne)

/-- Another branch's primary store type. -/
theorem SameElsewhere.primaryStoreType (h : SameElsewhere b db db') {other : Id} (hne : other ≠ b)
    (hprimary : PrimaryStoreType db other) : PrimaryStoreType db' other := by
  have hrows : ∀ (p : BranchStoreType → Bool), (∀ a, p a = true → a.branchId = other) → ∀ i a,
      db'.get (.branchStoreType, i) = some a ∧ p a = true ↔
        db.get (.branchStoreType, i) = some a ∧ p a = true := by
    intro p hp i a
    refine and_congr_left fun ha => h.assignments i a ?_
    rw [hp a ha]
    exact hne
  have hprimaries : ∀ a, primaryOf other a = true → a.branchId = other := fun a ha => by
    simp only [primaryOf, Bool.and_eq_true, beq_iff_eq] at ha
    exact ha.1
  have happroved : ∀ a, approvedOf other a = true → a.branchId = other := fun a ha => by
    simp only [approvedOf, Bool.and_eq_true, beq_iff_eq] at ha
    exact ha.1
  simp only [PrimaryStoreType, Db.list_eq_nil_iff, Db.list_eq_singleton_iff, Db.Has,
    h.branches other hne, hrows _ hprimaries, hrows _ happroved] at hprimary ⊢
  exact hprimary

/-- An assignment of the branch is written. -/
theorem SameElsewhere.put {assignment : BranchStoreType} (h : AssignmentKeys db)
    (hbranch : assignment.branchId = b)
    (hstore : (db.get (.storeType, assignment.storeTypeId)).isSome) :
    SameElsewhere b db (db.put ⟨.branchStoreType, branchStoreTypeId b assignment.storeTypeId,
      some assignment⟩) := by
  generalize hkey : branchStoreTypeId b assignment.storeTypeId = key
  have hself : (db.put ⟨.branchStoreType, key, some assignment⟩).get (.branchStoreType, key) =
      some assignment := Db.get_put_self ..
  have hother : ∀ k : Key Tbl, k ≠ (.branchStoreType, key) →
      (db.put ⟨.branchStoreType, key, some assignment⟩).get k = db.get k :=
    fun k hk => Db.get_put_ne _ hk
  have hstores : ∀ i, (db.put ⟨.branchStoreType, key, some assignment⟩).get (.storeType, i) =
      db.get (.storeType, i) := fun i => hother _ (by simp)
  refine ⟨fun i a hget => ?_, fun i a hne => ?_, fun other _ => hother _ (by simp)⟩
  · rw [hstores]
    by_cases hi : i = key
    · subst hi
      obtain rfl : assignment = a := Option.some.inj (hself.symm.trans hget)
      exact ⟨by rw [← hkey, hbranch], hstore⟩
    · rw [hother _ (by simp [hi])] at hget
      exact h i a hget
  · by_cases hi : i = key
    · -- the row under the key, if there was one, was the branch's as well
      subst hi
      rw [hself]
      constructor
      · intro heq
        cases heq
        exact (hne hbranch).elim
      · intro hget
        have hold := (h _ a hget).1
        rw [← hkey, branchStoreTypeId, branchStoreTypeId, Nat.pair_eq_pair] at hold
        exact (hne hold.1.symm).elim
    · rw [hother _ (by simp [hi])]

/-- The flags of the branch's assignments are cleared. -/
theorem SameElsewhere.clear (h : AssignmentKeys db) : SameElsewhere b db
    (db.apply (db.updates .branchStoreType (primaryOf b) fun assignment =>
      { assignment with isPrimary := false })) := by
  refine ⟨fun i a hget => ?_, fun i a hne => ?_, fun other _ => Db.get_apply_updates_ne (by simp)⟩
  · rw [Db.get_apply_updates, Option.map_eq_some_iff] at hget
    obtain ⟨old, hold, hnew⟩ := hget
    rw [Db.get_apply_updates_ne (by simp)]
    by_cases hp : primaryOf b old = true
    · rw [if_pos hp] at hnew
      subst hnew
      exact h i old hold
    · rw [if_neg hp] at hnew
      subst hnew
      exact h i old hold
  · rw [Db.get_apply_updates, Option.map_eq_some_iff]
    constructor
    · rintro ⟨old, hold, rfl⟩
      by_cases hp : primaryOf b old = true
      · rw [if_pos hp] at hne
        simp only [primaryOf, Bool.and_eq_true, beq_iff_eq] at hp
        exact (hne hp.1).elim
      · rwa [if_neg hp]
    · intro hget
      refine ⟨a, hget, if_neg ?_⟩
      simp [primaryOf, hne]

/-- The branch itself is written. -/
theorem SameElsewhere.putBranch (h : AssignmentKeys db) (branch : Branch) :
    SameElsewhere b db (db.put ⟨.branch, b, some branch⟩) := by
  have hother : ∀ k : Key Tbl, k ≠ (.branch, b) →
      (db.put ⟨.branch, b, some branch⟩).get k = db.get k := fun k hk => Db.get_put_ne _ hk
  refine ⟨fun i a hget => ?_, fun i a _ => ?_, fun other hne => hother _ (by simp [hne])⟩
  · rw [hother _ (by simp)] at hget ⊢
    exact h i a hget
  · rw [hother _ (by simp)]

end Elsewhere

/-! ### The synchronisation -/

section Sync

variable {db db' : Store} {b : Id}

theorem mem_listApproved {record : BranchStoreTypeManagementRecord}
    (h : record ∈ listApprovedBranchStoreTypes db b) :
    ∃ i, db.get (.branchStoreType, i) = some record.assignment ∧
      approvedOf b record.assignment = true := by
  rw [listApprovedBranchStoreTypes, List.mem_insertionSort, List.mem_filterMap] at h
  obtain ⟨⟨i, assignment⟩, hmem, hinclude⟩ := h
  obtain ⟨storeType, -, rfl⟩ := Option.map_eq_some_iff.mp hinclude
  exact ⟨i, Db.mem_list.mp hmem⟩

/-- Without an approved assignment that has a store type there is no approved assignment. -/
theorem listApproved_eq_nil (h : AssignmentKeys db) (hnil : listApprovedBranchStoreTypes db b = []) :
    db.list .branchStoreType (approvedOf b) = [] := by
  refine List.eq_nil_iff_forall_not_mem.mpr ?_
  rintro ⟨i, assignment⟩ hmem
  obtain ⟨storeType, hstore⟩ :=
    Option.isSome_iff_exists.mp (h i assignment (Db.mem_list.mp hmem).1).2
  have hlisted : (⟨assignment, storeType⟩ : BranchStoreTypeManagementRecord) ∈
      listApprovedBranchStoreTypes db b := by
    rw [listApprovedBranchStoreTypes, List.mem_insertionSort, List.mem_filterMap]
    exact ⟨(i, assignment), hmem, by rw [includeStoreType, hstore]; rfl⟩
  rw [hnil] at hlisted
  cases hlisted

theorem primaryAssignment_mem {approved : List BranchStoreTypeManagementRecord}
    {record : BranchStoreTypeManagementRecord} (h : primaryAssignment approved = some record) :
    record ∈ approved := by
  rw [primaryAssignment, Option.or_eq_some_iff] at h
  rcases h with hfind | ⟨-, hhead⟩
  · exact List.mem_of_find?_eq_some hfind
  · exact List.mem_of_head? hhead

theorem primaryAssignment_eq_none {approved : List BranchStoreTypeManagementRecord}
    (h : primaryAssignment approved = none) : approved = [] := by
  rw [primaryAssignment, Option.or_eq_none_iff] at h
  exact List.head?_eq_none_iff.mp h.2

/-- **The synchronisation makes the primary store type right**, whatever it was before. -/
theorem syncBranchPrimaryStoreType_run_ok (h : AssignmentKeys db)
    (hrun : (syncBranchPrimaryStoreType b).run db = .ok ((), db')) :
    PrimaryStoreType db' b ∧ SameElsewhere b db db' := by
  obtain ⟨_, cleared, hclear, hset⟩ := Tx.run_bind_ok (Tx.run_read_bind_ok hrun)
  have hkeep : SameElsewhere b db cleared := by
    cases hclear
    exact .clear h
  have happroved : ∀ i, cleared.Has .branchStoreType (approvedOf b) i ↔
      db.Has .branchStoreType (approvedOf b) i := by
    cases hclear
    exact fun i => Db.has_updates_of_eq fun _ => rfl
  have hget : ∀ i, cleared.get (.branchStoreType, i) = (db.get (.branchStoreType, i)).map
      fun a => if primaryOf b a then { a with isPrimary := false } else a := by
    cases hclear
    exact fun i => Db.get_apply_updates
  have hnone : ∀ i, ¬ cleared.Has .branchStoreType (primaryOf b) i := by
    rintro i ⟨a, ha, hprimary⟩
    rw [hget, Option.map_eq_some_iff] at ha
    obtain ⟨old, -, hnew⟩ := ha
    by_cases hp : primaryOf b old = true
    · rw [if_pos hp] at hnew
      subst hnew
      simp [primaryOf] at hprimary
    · rw [if_neg hp] at hnew
      subst hnew
      exact hp hprimary
  cases hprimary : primaryAssignment (listApprovedBranchStoreTypes db b) with
  | none =>
    rw [hprimary] at hset
    obtain ⟨branch, -, rfl⟩ := Tx.run_updateExisting_ok hset
    refine ⟨.inl ⟨?_, ?_, ?_⟩, hkeep.trans (.putBranch hkeep.keys _)⟩
    · exact Db.list_eq_nil_iff.mpr fun i hi => hnone i ((Db.has_put_ne (by simp)).mp hi)
    · have hnil := listApproved_eq_nil h (primaryAssignment_eq_none hprimary)
      exact Db.list_eq_nil_iff.mpr fun i hi => Db.list_eq_nil_iff.mp hnil i
        ((happroved i).mp ((Db.has_put_ne (by simp)).mp hi))
    · have hself : (cleared.put ⟨.branch, b, some { branch with primaryStoreTypeId := none }⟩).get
          (.branch, b) = some { branch with primaryStoreTypeId := none } := Db.get_put_self ..
      rw [hself]
      rfl
  | some record =>
    rw [hprimary] at hset
    obtain ⟨i, hrecord, hof⟩ := mem_listApproved (primaryAssignment_mem hprimary)
    simp only [approvedOf, Bool.and_eq_true, beq_iff_eq] at hof
    obtain ⟨_, flagged, hflag, hpoint⟩ := Tx.run_bind_ok hset
    obtain ⟨assignment, hassignment, rfl⟩ := Tx.run_updateExisting_ok hflag
    obtain ⟨branch, -, rfl⟩ := Tx.run_updateExisting_ok hpoint
    -- clearing has left the rest of the assignment as it was
    have hkey : i = branchStoreTypeId b record.assignment.storeTypeId := by
      rw [(h i _ hrecord).1, hof.1]
    have hfields : assignment.branchId = b ∧ assignment.status = .approved ∧
        assignment.storeTypeId = record.assignment.storeTypeId := by
      rw [← hkey, hget, hrecord, Option.map_some] at hassignment
      split at hassignment <;> cases hassignment <;> exact ⟨hof.1, hof.2, rfl⟩
    obtain ⟨hbranch, hstatus, hstore⟩ := hfields
    rw [← hstore] at hassignment ⊢
    generalize hflagged : ({ assignment with isPrimary := true } : BranchStoreType) = primary
    have hprimaryFields : primary.branchId = b ∧ primary.isPrimary = true ∧
        primary.status = .approved ∧ primary.storeTypeId = assignment.storeTypeId := by
      subst hflagged
      exact ⟨hbranch, rfl, hstatus, rfl⟩
    obtain ⟨hbranch', hflag', hstatus', hstore'⟩ := hprimaryFields
    rw [← hstore'] at hassignment ⊢
    have hput : SameElsewhere b cleared (cleared.put ⟨.branchStoreType,
        branchStoreTypeId b primary.storeTypeId, some primary⟩) :=
      .put hkeep.keys hbranch' (hstore' ▸ (hkeep.keys _ _ hassignment).2)
    refine ⟨.inr ⟨branchStoreTypeId b primary.storeTypeId, primary, ?_, hstatus', ?_⟩,
      (hkeep.trans hput).trans (.putBranch hput.keys _)⟩
    · refine Db.list_eq_singleton_iff.mpr ⟨⟨?_, by simp [primaryOf, hbranch', hflag']⟩, ?_⟩
      · rw [Db.get_put_ne _ (by simp [Write.key])]
        exact Db.get_put_self ..
      · intro j hj
        rcases Db.has_put.mp ((Db.has_put_ne (by simp)).mp hj) with ⟨hj, -⟩ | ⟨-, hj⟩
        · exact hj
        · exact (hnone j hj).elim
    · have hself : ∀ (start : Store) (row : Branch),
          (start.put ⟨.branch, b, some row⟩).get (.branch, b) = some row :=
        fun start row => Db.get_put_self start ⟨.branch, b, some row⟩
      rw [hself]
      rfl

end Sync

/-! ### The operations -/

section Operations

variable {db db' : Store} {b : Id}

/-- An update of one assignment that leaves its key alone. -/
theorem updateBranchStoreType_run_ok {storeTypeId : Id} {data : BranchStoreType → BranchStoreType}
    (hdata : ∀ a, (data a).branchId = a.branchId ∧ (data a).storeTypeId = a.storeTypeId)
    (h : AssignmentKeys db)
    (hrun : (updateBranchStoreType b storeTypeId data).run db = .ok ((), db')) :
    SameElsewhere b db db' := by
  obtain ⟨assignment, hget, rfl⟩ := Tx.run_updateExisting_ok hrun
  obtain ⟨hkey, hstore⟩ := h _ _ hget
  rw [branchStoreTypeId, branchStoreTypeId, Nat.pair_eq_pair, ← (hdata assignment).1,
    ← (hdata assignment).2] at hkey
  rw [← (hdata assignment).2] at hstore
  have hput : SameElsewhere b db (db.put ⟨.branchStoreType,
      branchStoreTypeId b (data assignment).storeTypeId, some (data assignment)⟩) :=
    .put h hkey.1.symm hstore
  rwa [← hkey.2] at hput

theorem upsertAssignment_run_ok {now : Date} {currentUserId : Id}
    {payload : ManageBranchStoreTypeDto} {existing : Option BranchStoreType}
    (h : AssignmentKeys db) (hstore : (db.get (.storeType, payload.storeTypeId)).isSome)
    (hrun : (upsertAssignment now currentUserId b payload existing).run db = .ok ((), db')) :
    SameElsewhere b db db' := by
  cases existing with
  | none =>
    obtain ⟨-, rfl⟩ := Tx.run_insertRow_ok hrun
    exact .put h rfl hstore
  | some _ =>
    refine updateBranchStoreType_run_ok ?_ h hrun
    exact fun _ => ⟨rfl, rfl⟩

theorem requireStoreType_run_ok {storeTypeId : Id} {storeType : StoreType}
    (hrun : (requireStoreType storeTypeId).run db = .ok (storeType, db')) :
    db.get (.storeType, storeTypeId) = some storeType ∧ db' = db := by
  obtain ⟨hfound, rfl⟩ := Tx.run_check_ok hrun
  refine ⟨?_, rfl⟩
  cases hget : db'.get (.storeType, storeTypeId) with
  | none => simp [hget] at hfound
  | some found =>
    simp only [hget] at hfound
    rw [Except.ok.inj hfound]

theorem assertCanBecome_run_ok {status : BranchStoreTypeStatus} {storeType : StoreType}
    (hrun : (assertCanBecome status storeType).run db = .ok ((), db')) : db' = db := by
  rw [assertCanBecome] at hrun
  split at hrun
  · exact (Tx.run_require_ok hrun).2
  · cases hrun
    rfl

theorem requireBranchStoreType_run_ok {storeTypeId : Id} {record : BranchStoreTypeManagementRecord}
    (hrun : (requireBranchStoreType b storeTypeId).run db = .ok (record, db')) : db' = db :=
  (Tx.run_check_ok hrun).2

/-- A change of one assignment, the synchronisation, and the read of the result. -/
theorem change_sync_run_ok {change : StoreTx Unit} {storeTypeId : Id}
    {record : BranchStoreTypeManagementRecord}
    (hchange : ∀ db₁, change.run db = .ok ((), db₁) → SameElsewhere b db db₁)
    (hrun : (change.bind fun _ => (syncBranchPrimaryStoreType b).bind fun _ =>
      requireBranchStoreType b storeTypeId).run db = .ok (record, db')) :
    PrimaryStoreType db' b ∧ SameElsewhere b db db' := by
  obtain ⟨_, db₁, hfirst, hrest⟩ := Tx.run_bind_ok hrun
  obtain ⟨_, db₂, hsync, hread⟩ := Tx.run_bind_ok hrest
  obtain rfl := requireBranchStoreType_run_ok hread
  have hkeep := hchange db₁ hfirst
  obtain ⟨hprimary, hsynced⟩ := syncBranchPrimaryStoreType_run_ok hkeep.keys hsync
  exact ⟨hprimary, hkeep.trans hsynced⟩

theorem assignBranchStoreType_run_ok {now : Date} {currentUser : AuthenticatedUser}
    {payload : ManageBranchStoreTypeDto} {record : BranchStoreTypeManagementRecord}
    (h : AssignmentKeys db)
    (hrun : (assignBranchStoreType now currentUser b payload).run db = (.ok record, db')) :
    PrimaryStoreType db' b ∧ SameElsewhere b db db' := by
  obtain ⟨_, _, hadmin, hrest⟩ := Service.run_bind_ok.mp hrun
  obtain ⟨_, _, hcompatible, htransaction⟩ := Service.run_bind_ok.mp hrest
  obtain ⟨-, rfl⟩ := Service.run_require_ok.mp hcompatible
  obtain ⟨-, rfl⟩ := Service.run_require_ok.mp hadmin
  obtain ⟨_, _, hbranch, htx₁⟩ := Tx.run_bind_ok (Service.run_transaction_ok.mp htransaction)
  obtain ⟨storeType, _, hstoreType, htx₂⟩ := Tx.run_bind_ok htx₁
  obtain ⟨_, htx₃⟩ := Tx.run_require_bind_ok htx₂
  obtain ⟨hget, rfl⟩ := requireStoreType_run_ok hstoreType
  obtain rfl := (Tx.run_check_ok hbranch).2
  have hstore := Option.isSome_of_eq_some hget
  exact change_sync_run_ok (fun db₁ hchange => upsertAssignment_run_ok h hstore hchange)
    (Tx.run_read_bind_ok htx₃)

theorem updateBranchStoreTypeLifecycle_run_ok {now : Date} {currentUser : AuthenticatedUser}
    {storeTypeId : Id} {status : BranchStoreTypeStatus} {payload : AdminBranchStoreTypeActionDto}
    {record : BranchStoreTypeManagementRecord} (h : AssignmentKeys db)
    (hrun : (updateBranchStoreTypeLifecycle now currentUser b storeTypeId status payload).run db =
      (.ok record, db')) : PrimaryStoreType db' b ∧ SameElsewhere b db db' := by
  obtain ⟨_, _, hadmin, hrest⟩ := Service.run_bind_ok.mp hrun
  obtain ⟨_, _, hcompatible, htransaction⟩ := Service.run_bind_ok.mp hrest
  obtain ⟨-, rfl⟩ := Service.run_require_ok.mp hcompatible
  obtain ⟨-, rfl⟩ := Service.run_require_ok.mp hadmin
  obtain ⟨existing, _, hexisting, htx₁⟩ := Tx.run_bind_ok (Service.run_transaction_ok.mp htransaction)
  obtain ⟨_, _, hactive, htx₂⟩ := Tx.run_bind_ok htx₁
  obtain rfl := assertCanBecome_run_ok hactive
  obtain rfl := requireBranchStoreType_run_ok hexisting
  refine change_sync_run_ok (fun db₁ hchange => updateBranchStoreType_run_ok ?_ h hchange) htx₂
  exact fun _ => ⟨rfl, rfl⟩

end Operations

/-! ### Runs -/

/-- An admin's request. -/
inductive StoreTypeCall
  | assign (now : Date) (currentUser : AuthenticatedUser) (branchId : Id)
      (payload : ManageBranchStoreTypeDto)
  | approve (now : Date) (currentUser : AuthenticatedUser) (branchId storeTypeId : Id)
      (payload : AdminBranchStoreTypeActionDto)
  | reject (now : Date) (currentUser : AuthenticatedUser) (branchId storeTypeId : Id)
      (payload : AdminBranchStoreTypeActionDto)
  | hide (now : Date) (currentUser : AuthenticatedUser) (branchId storeTypeId : Id)
      (payload : AdminBranchStoreTypeActionDto)
  | unhide (now : Date) (currentUser : AuthenticatedUser) (branchId storeTypeId : Id)
      (payload : AdminBranchStoreTypeActionDto)
deriving DecidableEq

namespace StoreTypeCall

/-- The branch that the request is about. -/
def branchId : StoreTypeCall → Id
  | assign _ _ branchId _ | approve _ _ branchId _ _ | reject _ _ branchId _ _
  | hide _ _ branchId _ _ | unhide _ _ branchId _ _ => branchId

def service : StoreTypeCall → StoreService BranchStoreTypeManagementRecord
  | assign now currentUser branchId payload => assignBranchStoreType now currentUser branchId payload
  | approve now currentUser branchId storeTypeId payload =>
    approveBranchStoreType now currentUser branchId storeTypeId payload
  | reject now currentUser branchId storeTypeId payload =>
    rejectBranchStoreType now currentUser branchId storeTypeId payload
  | hide now currentUser branchId storeTypeId payload =>
    hideBranchStoreType now currentUser branchId storeTypeId payload
  | unhide now currentUser branchId storeTypeId payload =>
    unhideBranchStoreType now currentUser branchId storeTypeId payload

/-- The database after a request. -/
def run (call : StoreTypeCall) (db : Store) : Store := (call.service.run db).2

theorem updateBranchStoreTypeLifecycle_atomic (now : Date) (currentUser : AuthenticatedUser)
    (branchId storeTypeId : Id) (status : BranchStoreTypeStatus)
    (payload : AdminBranchStoreTypeActionDto) :
    (updateBranchStoreTypeLifecycle now currentUser branchId storeTypeId status payload).Atomic :=
  .bind (.require ..) fun _ => .bind (.require ..) fun _ => .transaction _

/-- A request that fails changes nothing. -/
theorem atomic (call : StoreTypeCall) : call.service.Atomic := by
  cases call with
  | assign => exact .bind (.require ..) fun _ => .bind (.require ..) fun _ => .transaction _
  | approve => exact updateBranchStoreTypeLifecycle_atomic _ _ _ _ _ _
  | reject => exact updateBranchStoreTypeLifecycle_atomic _ _ _ _ _ _
  | hide => exact updateBranchStoreTypeLifecycle_atomic _ _ _ _ _ _
  | unhide => exact updateBranchStoreTypeLifecycle_atomic _ _ _ _ _ _

/-- A request that returns makes its branch's primary store type right. -/
theorem run_ok {db db' : Store} {record : BranchStoreTypeManagementRecord} (call : StoreTypeCall)
    (h : AssignmentKeys db) (hrun : call.service.run db = (.ok record, db')) :
    PrimaryStoreType db' call.branchId ∧ SameElsewhere call.branchId db db' := by
  cases call with
  | assign => exact assignBranchStoreType_run_ok h hrun
  | approve => exact updateBranchStoreTypeLifecycle_run_ok h hrun
  | reject => exact updateBranchStoreTypeLifecycle_run_ok h hrun
  | hide => exact updateBranchStoreTypeLifecycle_run_ok h hrun
  | unhide => exact updateBranchStoreTypeLifecycle_run_ok h hrun

/-- One request keeps the keys, and the primary store type of every branch. -/
theorem run_keeps {db : Store} {b : Id} (call : StoreTypeCall)
    (h : AssignmentKeys db ∧ PrimaryStoreType db b) :
    AssignmentKeys (call.run db) ∧ PrimaryStoreType (call.run db) b := by
  rcases (call.atomic).cases db with hsame | ⟨record, hrun⟩
  · rwa [run, hsame]
  · obtain ⟨hprimary, hkeep⟩ := call.run_ok h.1 hrun
    refine ⟨hkeep.keys, ?_⟩
    by_cases hb : b = call.branchId
    · rw [hb]
      exact hprimary
    · exact hkeep.primaryStoreType hb h.2

end StoreTypeCall

/-- **The primary store type.** When it is right for a branch, it stays right in every run of
requests; and it is right after the first request on the branch that returns, and from then on,
whatever it was before. -/
theorem primary_store_type {db : Store} (hkeys : AssignmentKeys db) (b : Id)
    (calls : List StoreTypeCall) :
    (PrimaryStoreType db b → Always StoreTypeCall.run (PrimaryStoreType · b) calls db) ∧
      ∀ call : StoreTypeCall, call.branchId = b → (∃ record, (call.service.run db).1 = .ok record) →
        Always StoreTypeCall.run (PrimaryStoreType · b) calls (call.run db) := by
  have hkeep : ∀ (call : StoreTypeCall) (s : Store), AssignmentKeys s ∧ PrimaryStoreType s b →
      AssignmentKeys (call.run s) ∧ PrimaryStoreType (call.run s) b :=
    fun call _ => call.run_keeps
  have hruns : ∀ start : Store, AssignmentKeys start ∧ PrimaryStoreType start b →
      Always StoreTypeCall.run (PrimaryStoreType · b) calls start := fun start hstart =>
    (always_of_inv hkeep calls hstart).mono (fun _ h => h.2) calls
  refine ⟨fun hprimary => hruns db ⟨hkeys, hprimary⟩, ?_⟩
  rintro call rfl ⟨record, hreturns⟩
  obtain ⟨hprimary, hkeep⟩ := call.run_ok hkeys (Prod.ext hreturns rfl)
  exact hruns _ ⟨hkeep.keys, hprimary⟩

/-- A branch without store types, and two store types. -/
def untypedBranch : Store := Db.empty.apply [
  ⟨.branch, 1, some { merchantId := 1, status := .active }⟩,
  ⟨.storeType, 1, some { code := "grocery", name := "Grocery", isActive := true }⟩,
  ⟨.storeType, 2, some { code := "bakery", name := "Bakery", isActive := true }⟩]

/-- An admin. -/
def typeAdmin : AuthenticatedUser :=
  { userId := 9, role := .admin, merchantId := none, customerProfileId := none, riderId := none }

theorem untypedBranch_keys : AssignmentKeys untypedBranch := by
  intro i assignment hget
  rw [untypedBranch, Db.get_apply_of_table (by simp)] at hget
  cases hget

/-- Two store types are assigned, the second as primary, which is then hidden. -/
theorem primary_store_type_hidden :
    Always StoreTypeCall.run (PrimaryStoreType · 1)
      [.assign 1 typeAdmin 1 { storeTypeId := 2, isPrimary := some true }, .hide 2 typeAdmin 1 2 {}]
      (StoreTypeCall.run (.assign 0 typeAdmin 1 { storeTypeId := 1 }) untypedBranch) :=
  (primary_store_type untypedBranch_keys 1 _).2 (.assign 0 typeAdmin 1 { storeTypeId := 1 }) rfl
    ⟨_, rfl⟩

end StoreTypeManagement

end WerTe
