import WerTe.DiscoveryFreshness
import WerTe.ReadCommitted.Maintains

/-!
# Store types that merchants ask for

A merchant asks for a store type for a branch (`merchant-store-type-request.service.ts`); an admin
approves it. The lists that customers see are left in the cache when a merchant has asked, and they
may be (`requests_unseen`): in every run of what admins, merchants and customers do, customers find
what there is, and each branch's primary store type stays right.
-/

/-! ## Rows that are not listed -/

namespace ReadCommitted.Db

variable {T : Type} [DecidableEq T] {Row : T → Type}

/-- A row that is not listed is written so that it is not listed either. -/
theorem list_put_unlisted {db : Db Row} {t : T} {i : ℕ} {r : Row t} {p : Row t → Bool}
    (hbefore : ∀ old, db.get (t, i) = some old → p old = false) (hafter : p r = false) :
    (db.put ⟨t, i, some r⟩).list t p = db.list t p := by
  have hkept : ∀ db' : Db Row, (∀ old, db'.get (t, i) = some old → p old = false) →
      (db'.list t p).filter (fun row => row.1 != i) = db'.list t p := by
    refine fun db' hnot => List.filter_eq_self.mpr fun row hrow => bne_iff_ne.mpr fun hid => ?_
    obtain ⟨hget, hp⟩ := Db.mem_list.mp hrow
    rw [hid] at hget
    rw [hnot _ hget] at hp
    cases hp
  have hself : (db.put ⟨t, i, some r⟩).get (t, i) = some r := get_put_self ..
  rw [← hkept db hbefore, ← hkept _ fun old hget => ?_]
  · exact filter_list_put db fun _ _ => bne_self_eq_false i
  · rw [hself] at hget
    rwa [← Option.some.inj hget]

end ReadCommitted.Db

namespace WerTe

open ReadCommitted Cached StoreTypesRepository StoreTypeManagement

/-! ## `merchant-store-type-request.service.ts` -/

structure RequestBranchStoreTypeDto where
  storeTypeId : Id
  sortOrder : Option ℤ := none
  reason : Option String := none
deriving DecidableEq

namespace MerchantStoreTypeRequest

def assertCanRequestStoreTypes (currentUser : AuthenticatedUser) : StoreService Unit :=
  .require (currentUser.role = .merchant)
    (fail "You are not allowed to request store types." .forbidden)

/-- The branch with its merchant. -/
def findBranchSummaryById (db : Store) (branchId : Id) : Option (Branch × Merchant) := do
  let branch ← db.get (.branch, branchId)
  let merchant ← db.get (.merchant, branch.merchantId)
  return (branch, merchant)

def requireOwnedBranch (currentUser : AuthenticatedUser) (branchId : Id) :
    StoreTx (Branch × Merchant) :=
  .check fun db =>
    match findBranchSummaryById db branchId with
    | none => .error (fail "Branch was not found." .notFound)
    | some (branch, merchant) =>
      if hasOwnedResourceAccess currentUser .merchant merchant.userId branch.merchantId
          currentUser.merchantId then .ok (branch, merchant)
      else .error (fail
        "You are not allowed to manage store type requests for this branch." .forbidden)

def requireRequestableStoreType (storeTypeId : Id) : StoreTx StoreType :=
  .check fun db =>
    match db.get (.storeType, storeTypeId) with
    | none => .error (fail "Store type was not found." .notFound)
    | some storeType =>
      if isVisible storeType then .ok storeType
      else .error (fail "This store type is not currently available for merchant requests."
        .unprocessableEntity [("storeTypeId", .id storeTypeId)])

/-- What is approved already cannot be asked for. -/
def assertNotApproved (branchId storeTypeId : Id)
    (existingAssignment : Option BranchStoreTypeManagementRecord) : StoreTx Unit :=
  .require (existingAssignment.map (·.assignment.status) ≠ some .approved)
    (fail "This store type is already approved for the branch." .conflict
      [("branchId", .id branchId), ("storeTypeId", .id storeTypeId)])

/-- The columns of a request. -/
def requested (currentUserId : Id) (sortOrder : ℤ) (reason : Option String)
    (assignment : BranchStoreType) : BranchStoreType :=
  { assignment with
    status := .pending
    isPrimary := false
    sortOrder
    requestedByUserId := some currentUserId
    approvedByUserId := none
    approvedAt := none
    rejectedAt := none
    hiddenAt := none
    reason }

/-- Create the assignment, or ask anew with the one there is. -/
def requestAssignment (now : Date) (currentUserId branchId : Id)
    (payload : RequestBranchStoreTypeDto)
    (existingAssignment : Option BranchStoreTypeManagementRecord) : StoreTx Unit :=
  let normalizedReason := normalizeOptionalString payload.reason
  let sortOrder := payload.sortOrder.getD
    ((existingAssignment.map (·.assignment.sortOrder)).getD 0)
  match existingAssignment with
  | none => createBranchStoreType (requested currentUserId sortOrder normalizedReason {
      branchId, storeTypeId := payload.storeTypeId, createdAt := now
      status := .pending, isPrimary := false, sortOrder := 0, requestedByUserId := none
      approvedByUserId := none, approvedAt := none, rejectedAt := none, hiddenAt := none
      reason := none })
  | some _ => updateBranchStoreType branchId payload.storeTypeId
      (requested currentUserId sortOrder normalizedReason)

def requireBranchStoreType (branchId storeTypeId : Id) : StoreTx BranchStoreTypeManagementRecord :=
  .check fun db =>
    match findBranchStoreType db branchId storeTypeId with
    | some assignment => .ok assignment
    | none =>
      .error (fail "Branch store type request could not be loaded." .internalServerError)

def requestCurrentMerchantBranchStoreType (now : Date) (currentUser : AuthenticatedUser)
    (branchId : Id) (payload : RequestBranchStoreTypeDto) :
    StoreService BranchStoreTypeManagementRecord := do
  assertCanRequestStoreTypes currentUser
  .transaction (do
    let _ ← requireOwnedBranch currentUser branchId
    let _ ← requireRequestableStoreType payload.storeTypeId
    let existingAssignment ← .read fun db => findBranchStoreType db branchId payload.storeTypeId
    assertNotApproved branchId payload.storeTypeId existingAssignment
    requestAssignment now currentUser.userId branchId payload existingAssignment
    requireBranchStoreType branchId payload.storeTypeId)

/-! ## What a request changes -/

/-- One assignment of the branch is pending now, that is not primary. It was not approved before,
if it was there. -/
structure AsksFor (branchId storeTypeId : Id) (db db' : Store) : Prop where
  storeType : (db.get (.storeType, storeTypeId)).isSome
  before : ∀ assignment,
    db.get (.branchStoreType, branchStoreTypeId branchId storeTypeId) = some assignment →
      assignment.status ≠ .approved
  writes : ∃ assignment : BranchStoreType,
    db' = db.put ⟨.branchStoreType, branchStoreTypeId branchId storeTypeId, some assignment⟩ ∧
      assignment.branchId = branchId ∧ assignment.storeTypeId = storeTypeId ∧
        assignment.status = .pending ∧ assignment.isPrimary = false

section Effect

variable {db db' : Store} {b storeTypeId : Id}

theorem findBranchStoreType_none (h : AssignmentKeys db)
    (hnone : findBranchStoreType db b storeTypeId = none) :
    db.get (.branchStoreType, branchStoreTypeId b storeTypeId) = none := by
  refine Option.eq_none_iff_forall_ne_some.mpr fun assignment hget => ?_
  obtain ⟨storeType, hstore⟩ := Option.isSome_iff_exists.mp (h _ _ hget).2
  rw [findBranchStoreType, hget, Option.bind_some, includeStoreType, hstore] at hnone
  cases hnone

theorem findBranchStoreType_some {record : BranchStoreTypeManagementRecord}
    (hsome : findBranchStoreType db b storeTypeId = some record) :
    db.get (.branchStoreType, branchStoreTypeId b storeTypeId) = some record.assignment := by
  obtain ⟨assignment, hget, hinclude⟩ := Option.bind_eq_some_iff.mp hsome
  obtain ⟨storeType, -, rfl⟩ := Option.map_eq_some_iff.mp hinclude
  exact hget

theorem requireRequestableStoreType_run_ok {storeType : StoreType}
    (hrun : (requireRequestableStoreType storeTypeId).run db = .ok (storeType, db')) :
    db.get (.storeType, storeTypeId) = some storeType ∧ db' = db := by
  obtain ⟨hfound, rfl⟩ := Tx.run_check_ok hrun
  refine ⟨?_, rfl⟩
  cases hget : db'.get (.storeType, storeTypeId) with
  | none => simp [hget] at hfound
  | some found =>
    simp only [hget] at hfound
    split at hfound
    · rw [Except.ok.inj hfound]
    · cases hfound

theorem requestAssignment_run_ok {now : Date} {currentUserId : Id}
    {payload : RequestBranchStoreTypeDto}
    (h : AssignmentKeys db) (hstore : (db.get (.storeType, payload.storeTypeId)).isSome)
    (hnot : (findBranchStoreType db b payload.storeTypeId).map (·.assignment.status) ≠
      some .approved)
    (hrun : (requestAssignment now currentUserId b payload
      (findBranchStoreType db b payload.storeTypeId)).run db = .ok ((), db')) :
    AsksFor b payload.storeTypeId db db' := by
  cases hexisting : findBranchStoreType db b payload.storeTypeId with
  | none =>
    rw [hexisting] at hrun
    obtain ⟨-, rfl⟩ := Tx.run_insertRow_ok hrun
    refine ⟨hstore, fun assignment hget => ?_, _, rfl, rfl, rfl, rfl, rfl⟩
    rw [findBranchStoreType_none h hexisting] at hget
    cases hget
  | some record =>
    rw [hexisting] at hrun hnot
    obtain ⟨assignment, hget, rfl⟩ := Tx.run_updateExisting_ok hrun
    have hkey := (h _ _ hget).1
    rw [branchStoreTypeId, branchStoreTypeId, Nat.pair_eq_pair] at hkey
    refine ⟨hstore, fun assignment' hget' hstatus => ?_, _, rfl, hkey.1.symm, hkey.2.symm, rfl, rfl⟩
    rw [findBranchStoreType_some hexisting, Option.some.injEq] at hget'
    rw [Option.map_some, hget', hstatus] at hnot
    exact hnot rfl

/-- What a request that returns has done. -/
theorem request_run_ok {now : Date} {currentUser : AuthenticatedUser}
    {payload : RequestBranchStoreTypeDto} {record : BranchStoreTypeManagementRecord}
    (h : AssignmentKeys db)
    (hrun : (requestCurrentMerchantBranchStoreType now currentUser b payload).run db =
      (.ok record, db')) : AsksFor b payload.storeTypeId db db' := by
  obtain ⟨_, _, hmerchant, htransaction⟩ := Service.run_bind_ok.mp hrun
  obtain ⟨-, rfl⟩ := Service.run_require_ok.mp hmerchant
  obtain ⟨_, _, hbranch, htx₁⟩ := Tx.run_bind_ok (Service.run_transaction_ok.mp htransaction)
  obtain rfl := (Tx.run_check_ok hbranch).2
  obtain ⟨storeType, _, hstoreType, htx₂⟩ := Tx.run_bind_ok htx₁
  obtain ⟨hget, rfl⟩ := requireRequestableStoreType_run_ok hstoreType
  obtain ⟨hnot, htx₃⟩ := Tx.run_require_bind_ok (Tx.run_read_bind_ok htx₂)
  obtain ⟨_, db₁, hrequest, hread⟩ := Tx.run_bind_ok htx₃
  obtain rfl := (Tx.run_check_ok hread).2
  exact requestAssignment_run_ok h (Option.isSome_of_eq_some hget) hnot hrequest

theorem request_atomic (now : Date) (currentUser : AuthenticatedUser) (branchId : Id)
    (payload : RequestBranchStoreTypeDto) :
    (requestCurrentMerchantBranchStoreType now currentUser branchId payload).Atomic :=
  .bind (.require ..) fun _ => .transaction _

end Effect

/-! ## What it leaves alone -/

section Unseen

variable {db db' : Store} {b storeTypeId : Id}

theorem AsksFor.get_eq (h : AsksFor b storeTypeId db db') {t : Tbl} (ht : t ≠ .branchStoreType)
    (i : Id) : db'.get (t, i) = db.get (t, i) := by
  obtain ⟨assignment, rfl, -⟩ := h.writes
  exact Db.get_put_ne _ fun hkey => ht (congrArg Prod.fst hkey)

theorem AsksFor.keys (h : AsksFor b storeTypeId db db') (hkeys : AssignmentKeys db) :
    AssignmentKeys db' := by
  obtain ⟨assignment, rfl, hbranch, hstoreType, -⟩ := h.writes
  rw [← hstoreType]
  exact (SameElsewhere.put hkeys hbranch (hstoreType ▸ h.storeType)).keys

/-- Nothing that is approved has changed, and nothing is approved that was not. -/
theorem AsksFor.approved_eq (h : AsksFor b storeTypeId db db') (other : Id) :
    db'.list .branchStoreType (approvedOf other) = db.list .branchStoreType (approvedOf other) := by
  obtain ⟨assignment, rfl, -, -, hstatus, -⟩ := h.writes
  refine Db.list_put_unlisted (fun old hget => ?_) ?_
  · exact Bool.and_eq_false_iff.mpr (.inr (beq_eq_false_iff_ne.mpr (h.before old hget)))
  · rw [approvedOf, hstatus]
    exact Bool.and_false _

theorem AsksFor.visible_eq (h : AsksFor b storeTypeId db db') (other : Id) :
    visibleStoreTypes db' other = visibleStoreTypes db other := by
  have hinclude : ∀ assignment, includeStoreType db' assignment =
      includeStoreType db assignment := fun assignment => by
    rw [includeStoreType, includeStoreType, h.get_eq (by decide)]
  rw [visibleStoreTypes, visibleStoreTypes, listApprovedBranchStoreTypes,
    listApprovedBranchStoreTypes, h.approved_eq]
  simp only [hinclude]

/-- Customers find what they have found before. -/
theorem AsksFor.listed_eq (h : AsksFor b storeTypeId db db') (rules : TextRules)
    (filter : DiscoveryFilter) : listCustomerDiscoverableBranches rules filter db' =
      listCustomerDiscoverableBranches rules filter db := by
  have hdiscover : discover rules filter db' = discover rules filter db := by
    funext row
    simp only [discover, includeDiscovery, h.visible_eq, h.get_eq (t := .merchant) (by decide)]
  have hrows : (db'.list .branch fun _ => true) = db.list .branch fun _ => true := by
    obtain ⟨assignment, rfl, -⟩ := h.writes
    exact Db.list_put_ne _ (by simp) _
  rw [listCustomerDiscoverableBranches, listCustomerDiscoverableBranches, hdiscover, hrows]

/-- A primary store type is approved, so no request is for it. -/
theorem AsksFor.primary_eq (h : AsksFor b storeTypeId db db') (other : Id)
    (hprimary : PrimaryStoreType db other) :
    db'.list .branchStoreType (primaryOf other) = db.list .branchStoreType (primaryOf other) := by
  obtain ⟨assignment, rfl, -, -, -, hnot⟩ := h.writes
  refine Db.list_put_unlisted (fun old hget => ?_) ?_
  · by_contra hflagged
    rw [Bool.not_eq_false] at hflagged
    have hmem : (_, old) ∈ db.list .branchStoreType (primaryOf other) :=
      Db.mem_list.mpr ⟨hget, hflagged⟩
    obtain ⟨hnone, -⟩ | ⟨i, primary, hone, happroved, -⟩ := hprimary
    · rw [hnone] at hmem
      cases hmem
    · rw [hone, List.mem_singleton] at hmem
      obtain rfl : old = primary := congrArg Prod.snd hmem
      exact h.before old hget happroved
  · rw [primaryOf, hnot]
    exact Bool.and_false _

theorem AsksFor.primaryStoreType (h : AsksFor b storeTypeId db db') {other : Id}
    (hprimary : PrimaryStoreType db other) : PrimaryStoreType db' other := by
  rw [PrimaryStoreType, h.primary_eq other hprimary, h.approved_eq, h.get_eq (by decide)]
  exact hprimary

end Unseen

end MerchantStoreTypeRequest

/-! ## The admins' operations -/

namespace CachedStoreTypeManagement

/-- The keys of the assignments, and the primary store type of every branch. -/
def PrimariesRight (db : Store) : Prop := AssignmentKeys db ∧ ∀ b, PrimaryStoreType db b

def KeepsPrimaries (world world' : DiscoveryWorld) : Prop :=
  PrimariesRight world.data → PrimariesRight world'.data

instance : Std.Refl KeepsPrimaries := ⟨fun _ h => h⟩

instance : IsTrans DiscoveryWorld KeepsPrimaries := ⟨fun _ _ _ h h' hright => h' (h hright)⟩

section Primaries

variable {α : Type}

theorem primaries_database {p : StoreService α}
    (h : ∀ db, PrimariesRight db → PrimariesRight (p.run db).2) :
    Steps KeepsPrimaries (database p) :=
  .of_ends fun world => ends_database (h world.data)

theorem primaries_readOnly {p : StoreService α} (h : p.ReadOnly) :
    Steps KeepsPrimaries (database p) :=
  primaries_database fun db hright => by rwa [h.run db]

/-- What is done to the caches. -/
theorem primaries_modify {f : DiscoveryWorld → DiscoveryWorld}
    (h : ∀ world, (f world).data = world.data) :
    Steps KeepsPrimaries (modify f : DiscoveryService Unit) :=
  .of_ends fun world => .modify fun hright => by rwa [h world]

/-- Which store type is primary does not depend on what store types there are. -/
theorem primariesRight_put {db : Store} {w : Write Row} (h : PrimariesRight db)
    (hw : StoreTypeWrite w) : PrimariesRight (db.put w) := by
  refine ⟨assignmentKeys_put h.1 hw, fun b => ?_⟩
  have hassignments : Tbl.branchStoreType ≠ w.table := by simp [hw.1]
  have hbranch : (db.put w).get (.branch, b) = db.get (.branch, b) :=
    Db.get_put_ne _ fun hkey => by simp [Write.key, hw.1] at hkey
  rw [PrimaryStoreType, Db.list_put_ne _ hassignments, Db.list_put_ne _ hassignments, hbranch]
  exact h.2 b

theorem primaries_writes {p : StoreService α} (h : p.Writes StoreTypeWrite) :
    Steps KeepsPrimaries (database p) :=
  primaries_database fun _ hright => h.run (fun _ _ => primariesRight_put) hright

theorem primaries_branchStoreTypeCall (call : StoreTypeCall) :
    Steps KeepsPrimaries (database call.service) :=
  primaries_database fun _ hright => ⟨(call.run_keeps ⟨hright.1, hright.2 call.branchId⟩).1,
    fun b => (call.run_keeps ⟨hright.1, hright.2 b⟩).2⟩

theorem primaries_assertCanManageStoreTypes (currentUser : AuthenticatedUser) :
    Steps KeepsPrimaries (database (assertCanManageStoreTypes currentUser)) :=
  primaries_readOnly (.require _ _)

theorem primaries_normalizeRequiredString (value fieldName : String) :
    Steps KeepsPrimaries (normalizeRequiredString value fieldName) :=
  .bind (.require _ _) fun _ => .ret _

theorem primaries_newName (name : Field String) : Steps KeepsPrimaries (newName name) := by
  cases name with
  | undefined => exact .ret _
  | null => exact .fail _
  | value name => exact .bind (primaries_normalizeRequiredString _ _) fun _ => .ret _

theorem primaries_requireStoreType (storeTypeId : Id) :
    Steps KeepsPrimaries (requireStoreType storeTypeId) := by
  have hget : Steps KeepsPrimaries (get : DiscoveryService DiscoveryWorld) :=
    .of_ends fun world => .get (refl world)
  refine .bind (.bind hget fun _ => .ret _) fun cached => ?_
  cases cached with
  | some storeType => exact .ret _
  | none =>
    exact .bind (primaries_readOnly (.get _)) fun found => .bind (.orFail _ _) fun storeType =>
      .bind (primaries_modify fun _ => rfl) fun _ => .ret _

theorem primaries_changeStoreType (storeTypeId : Id) (data : StoreType → StoreType) :
    Steps KeepsPrimaries (changeStoreType storeTypeId data) :=
  .bind (primaries_writes (updateStoreType_writes ..)) fun _ =>
    .bind (primaries_modify fun _ => rfl) fun _ => .bind (primaries_modify fun _ => rfl) fun _ =>
      .ret _

theorem primaries_createStoreType (rules : TextRules) (now : Date)
    (currentUser : AuthenticatedUser) (payload : CreateStoreTypeDto) :
    Steps KeepsPrimaries (createStoreType rules now currentUser payload) := by
  have hfind : ∀ code, (findStoreTypeByCode code).ReadOnly := fun code => .get _
  refine .bind (primaries_assertCanManageStoreTypes _) fun _ =>
    .bind (.bind (primaries_normalizeRequiredString _ _) fun _ => .ret _) fun code => ?_
  refine .bind (primaries_readOnly (hfind code)) fun existing => .bind (.require _ _) fun _ => ?_
  exact .bind (primaries_normalizeRequiredString _ _) fun name =>
    .bind (primaries_writes (createStoreType_writes _)) fun storeType =>
      .bind (primaries_modify fun _ => rfl) fun _ => .ret _

theorem primaries_updateStoreType (now : Date) (currentUser : AuthenticatedUser)
    (storeTypeId : Id) (payload : UpdateStoreTypeDto) :
    Steps KeepsPrimaries (updateStoreType now currentUser storeTypeId payload) :=
  .bind (primaries_assertCanManageStoreTypes _) fun _ =>
    .bind (primaries_requireStoreType _) fun _ => .bind (primaries_newName _) fun _ =>
      .bind (.ofExcept _) fun _ => primaries_changeStoreType _ _

theorem primaries_archiveStoreType (now : Date) (currentUser : AuthenticatedUser)
    (storeTypeId : Id) : Steps KeepsPrimaries (archiveStoreType now currentUser storeTypeId) := by
  refine .bind (primaries_assertCanManageStoreTypes _) fun _ =>
    .bind (primaries_requireStoreType _) fun storeType => ?_
  split
  · exact .ret _
  · exact primaries_changeStoreType _ _

theorem primaries_activateStoreType (currentUser : AuthenticatedUser) (storeTypeId : Id) :
    Steps KeepsPrimaries (activateStoreType currentUser storeTypeId) :=
  .bind (primaries_assertCanManageStoreTypes _) fun _ =>
    .bind (primaries_requireStoreType _) fun _ => primaries_changeStoreType _ _

theorem primaries_branchStoreType (call : StoreTypeCall) :
    Steps KeepsPrimaries (branchStoreType call) := by
  have hchange : Steps KeepsPrimaries (database call.service >>= fun assignment =>
      DiscoveryCache.invalidateAll >>= fun _ => pure assignment) :=
    .bind (primaries_branchStoreTypeCall call) fun _ =>
      .bind (primaries_modify fun _ => rfl) fun _ => .ret _
  cases call with
  | assign => exact primaries_branchStoreTypeCall (.assign _ _ _ _)
  | approve => exact hchange
  | reject => exact hchange
  | hide => exact hchange
  | unhide => exact hchange

theorem primaries_findDiscoverableBranches (rules : TextRules) (earlyExpiry : Bool)
    (query : ListCustomerStoresQueryDto) : Steps KeepsPrimaries
      (CustomerStoreDiscovery.findDiscoverableBranches rules earlyExpiry query) := by
  have hlist : ∀ filter, Steps KeepsPrimaries
      (database (.get (listCustomerDiscoverableBranches rules filter))) :=
    fun filter => primaries_readOnly (.get _)
  have hget : ∀ filter, Steps KeepsPrimaries (DiscoveryCache.getList earlyExpiry filter) :=
    fun filter => .bind (.of_ends fun world => .get (refl world)) fun _ => .ret _
  dsimp only [CustomerStoreDiscovery.findDiscoverableBranches]
  split
  · refine .bind (.bind (hget _) fun cached => ?_) fun _ => .ret _
    cases cached with
    | some branches => exact .ret _
    | none =>
      exact .bind (hlist _) fun _ => .bind (primaries_modify fun _ => rfl) fun _ => .ret _
  · exact .bind (hlist _) fun _ => .ret _

theorem primaries_service (rules : TextRules) (call : DiscoveryCall) :
    Steps KeepsPrimaries (call.service rules) := by
  cases call with
  | create => exact (primaries_createStoreType ..).discard
  | update => exact (primaries_updateStoreType ..).discard
  | archive => exact (primaries_archiveStoreType ..).discard
  | activate => exact (primaries_activateStoreType ..).discard
  | branchStoreType call => exact (primaries_branchStoreType call).discard
  | find => exact (primaries_findDiscoverableBranches ..).discard

end Primaries

end CachedStoreTypeManagement

/-! ## Runs -/

/-- What an admin or a customer asks for, or a merchant. -/
inductive MarketCall
  | discovery (call : DiscoveryCall)
  | request (now : Date) (currentUser : AuthenticatedUser) (branchId : Id)
      (payload : RequestBranchStoreTypeDto)
deriving DecidableEq

namespace MarketCall

open MerchantStoreTypeRequest CustomerStoreDiscovery CachedStoreTypeManagement

/-- A request leaves everything in the cache. -/
def service (rules : TextRules) : MarketCall → DiscoveryService Unit
  | discovery call => call.service rules
  | request now currentUser branchId payload =>
    discard (database (requestCurrentMerchantBranchStoreType now currentUser branchId payload))

/-- What there is after a call. -/
def run (rules : TextRules) (call : MarketCall) (world : DiscoveryWorld) : DiscoveryWorld :=
  match call.service rules world with
  | .ok _ world' | .error _ world' => world'

/-- The calls of a run that are not requests. -/
def discoveryCalls (calls : List MarketCall) : List DiscoveryCall :=
  calls.filterMap fun call =>
    match call with
    | discovery call => some call
    | request .. => none

/-- What is said of the calls that are not requests. -/
def IfDiscovery (P : DiscoveryCall → DiscoveryWorld → Prop) (call : MarketCall)
    (world : DiscoveryWorld) : Prop := ∀ call', call = discovery call' → P call' world

variable {rules : TextRules} {asked : DiscoveryFilter → Prop} {world : DiscoveryWorld}

theorem mem_discoveryCalls {calls : List MarketCall} {call : DiscoveryCall}
    (h : discovery call ∈ calls) : call ∈ discoveryCalls calls :=
  List.mem_filterMap.mpr ⟨_, h, rfl⟩

theorem run_of_ends {call : MarketCall} {P : DiscoveryWorld → Prop}
    (h : Cached.Ends (call.service rules) world fun _ world' => P world') :
    P (call.run rules world) := by
  obtain ⟨_, world', hok, hP⟩ | ⟨_, world', herror, hP⟩ := h.result
  · rwa [run, hok]
  · rwa [run, herror]

/-- What is right in every state of a run: the keys, the primary store types, and the cache. -/
structure Right (rules : TextRules) (asked : DiscoveryFilter → Prop) (world : DiscoveryWorld) :
    Prop where
  primaries : PrimariesRight world.data
  fresh : ListsFresh rules asked world

/-- A request leaves all of it right. -/
theorem request_right (now : Date) (currentUser : AuthenticatedUser) (branchId : Id)
    (payload : RequestBranchStoreTypeDto) (h : Right rules asked world) :
    Right rules asked ((request now currentUser branchId payload).run rules world) := by
  refine run_of_ends (P := Right rules asked) (Cached.Ends.discard (ends_database ?_))
  obtain hsame | ⟨record, hrun⟩ :=
    (request_atomic now currentUser branchId payload).cases world.data
  · rw [hsame]
    exact h
  · have hasks := request_run_ok h.primaries.1 hrun
    refine ⟨⟨hasks.keys h.primaries.1, fun b => hasks.primaryStoreType (h.primaries.2 b)⟩, ?_⟩
    exact Fresh.write h.fresh (fun filter _ _ => congrArg some (hasks.listed_eq rules filter))
      fun _ _ hcached => hcached

theorem run_right (hapart : Apart (loadList rules) DiscoveryCache.listKey asked)
    {call : MarketCall}
    (hasked : ∀ earlyExpiry query, call = discovery (.find earlyExpiry query) →
      DiscoveryCache.isCacheable (toFilter rules query) = true → asked (toFilter rules query))
    (hunseen : call.IfDiscovery (AssignsUnseen rules asked) world)
    (h : Right rules asked world) : Right rules asked (call.run rules world) := by
  cases call with
  | request now currentUser branchId payload => exact request_right _ _ _ _ h
  | discovery call =>
    have hfresh := run_keeps_fresh hapart (fun earlyExpiry query hfind => hasked earlyExpiry query
      (congrArg discovery hfind)) (hunseen call rfl) ⟨h.primaries.1, h.fresh⟩
    have hprimaries : PrimariesRight (call.run rules world).data :=
      DiscoveryCall.run_of_ends (P := fun world' => PrimariesRight world'.data)
        (((primaries_service rules call).ends world).mono fun _ _ hkeeps => hkeeps h.primaries)
    exact ⟨hprimaries, hfresh.2⟩

/-- The owner of the merchant of the two branches. -/
def shopOwner : AuthenticatedUser :=
  { userId := 10, role := .merchant, merchantId := some 1, customerProfileId := none,
    riderId := none }

/-- A branch is not found any more when it is hidden, though its owner asks for its store type
again, and is found when an admin has approved it. -/
def hideAndAskAgain : List MarketCall := [
  .discovery (.find false {}),
  .discovery (.branchStoreType (.hide 1 typeAdmin 1 1 {})),
  .discovery (.find false {}),
  .request 2 shopOwner 1 { storeTypeId := 1, reason := some "please" },
  .discovery (.find false {}),
  .discovery (.branchStoreType (.approve 3 typeAdmin 1 1 {})),
  .discovery (.find false {})]

theorem primariesRight_typedShops : PrimariesRight typedShops := by
  have hpointers : ∀ row ∈ untypedShops.list .branch (fun _ => true),
      row.2.primaryStoreTypeId = none := by decide +kernel
  have hassignments : ∀ i, untypedShops.get (.branchStoreType, i) = none := fun i => by
    rw [untypedShops, Db.get_apply_of_table (by simp)]
    rfl
  have hnone : ∀ p, untypedShops.list .branchStoreType p = [] := fun p =>
    List.eq_nil_iff_forall_not_mem.mpr fun row hrow => by
      have hget := (Db.mem_list.mp hrow).1
      rw [hassignments] at hget
      cases hget
  have huntyped : PrimariesRight untypedShops := by
    refine ⟨fun i assignment hget => ?_, fun b => .inl ⟨hnone _, hnone _, ?_⟩⟩
    · rw [hassignments] at hget
      cases hget
    · cases hbranch : untypedShops.get (.branch, b) with
      | none => rfl
      | some branch => exact hpointers (b, branch) (Db.mem_list.mpr ⟨hbranch, rfl⟩)
  have hcall : ∀ (call : StoreTypeCall) db, PrimariesRight db → PrimariesRight (call.run db) :=
    fun call db h => ⟨(call.run_keeps ⟨h.1, h.2 0⟩).1, fun b => (call.run_keeps ⟨h.1, h.2 b⟩).2⟩
  exact hcall _ _ (hcall _ _ huntyped)

end MarketCall

end WerTe
