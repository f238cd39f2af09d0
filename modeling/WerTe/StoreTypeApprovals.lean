import Mathlib.Data.Fin.VecNotation
import WerTe.ReadCommitted.RowRules
import WerTe.StoreTypeRequests

/-!
# Who approves a store type

Admins' and merchants' requests for the store types of branches, all at the same time. Every one
of them writes a status together with who approved it and when (`buildBranchStoreTypeUpdateInput`,
`requested`), so whatever the order of their statements, a store type that is approved has been
approved by an admin, and what a row says about itself is consistent.

The invariant speaks about one row at a time (`AssignmentRow`). That a merchant asks only for his
own branches rests on rows of two other tables, which it keeps as they are.
-/

namespace WerTe

open ReadCommitted StoreTypesRepository StoreTypeManagement MerchantStoreTypeRequest

namespace StoreTypeApprovals

/-! ## What an assignment says about itself -/

def IsAdmin (db : Store) (userId : Id) : Prop :=
  ∃ user, db.get (.user, userId) = some user ∧ user.role = .admin

/-- The user owns the merchant that the branch is of. -/
def Owns (db : Store) (branchId userId : Id) : Prop :=
  ∃ branch merchant, findBranchSummaryById db branchId = some (branch, merchant) ∧
    merchant.userId = userId

/-- The status of an assignment and what is recorded with it. -/
structure Marked (db : Store) (assignment : BranchStoreType) : Prop where
  approvedBy : assignment.approvedByUserId.isSome ↔ assignment.status = .approved
  approvedAt : assignment.approvedAt.isSome ↔ assignment.status = .approved
  rejectedAt : assignment.rejectedAt.isSome ↔ assignment.status = .rejected
  hiddenAt : assignment.hiddenAt.isSome ↔ assignment.status = .hidden
  /-- only admins approve -/
  admin : ∀ userId ∈ assignment.approvedByUserId, IsAdmin db userId
  /-- who asked may ask -/
  requestedBy : ∀ userId ∈ assignment.requestedByUserId,
    IsAdmin db userId ∨ Owns db assignment.branchId userId

/-- Every assignment is under its key, and marked. -/
def AllMarked (db : Store) : Prop :=
  ∀ i assignment, db.get (.branchStoreType, i) = some assignment →
    i = branchStoreTypeId assignment.branchId assignment.storeTypeId ∧ Marked db assignment

/-- The same, row by row: users and owners are those of `db₀`. -/
def AssignmentRow (db₀ : Store) : (k : Key Tbl) → Option (Row k.1) → Prop
  | (.branchStoreType, i), row => ∀ assignment : BranchStoreType, row = some assignment →
    i = branchStoreTypeId assignment.branchId assignment.storeTypeId ∧ Marked db₀ assignment
  | (.user, i), row => row = db₀.get (.user, i)
  | (.merchant, i), row => row = db₀.get (.merchant, i)
  | (.branch, i), row => row.map (fun branch : Branch => branch.merchantId) =
    (db₀.get (.branch, i)).map fun branch => branch.merchantId
  | _, _ => True

section Rows

variable {db₀ db : Store}

theorem rowwise_assignmentRow (h : AllMarked db₀) : Rowwise (AssignmentRow db₀) db₀ := by
  rintro ⟨t, i⟩
  cases t with
  | branchStoreType => exact fun assignment hget => h i assignment hget
  | user => rfl
  | merchant => rfl
  | branch => rfl
  | _ => exact True.intro

theorem isAdmin_iff (h : Rowwise (AssignmentRow db₀) db) {userId : Id} :
    IsAdmin db userId ↔ IsAdmin db₀ userId := by
  have huser : db.get (.user, userId) = db₀.get (.user, userId) := h (.user, userId)
  rw [IsAdmin, IsAdmin, huser]

/-- The merchant of a branch, by what a branch has of it. -/
theorem owns_iff {branchId userId : Id} : Owns db branchId userId ↔
    ∃ merchantId merchant, (db.get (.branch, branchId)).map (·.merchantId) = some merchantId ∧
      db.get (.merchant, merchantId) = some merchant ∧ merchant.userId = userId := by
  simp only [Owns, findBranchSummaryById, Option.bind_eq_bind, Option.bind_eq_some_iff,
    Option.pure_def, Option.some.injEq, Prod.mk.injEq, Option.map_eq_some_iff]
  constructor
  · rintro ⟨branch, merchant, ⟨_, hbranch, _, hmerchant, rfl, rfl⟩, howner⟩
    exact ⟨_, _, ⟨_, hbranch, rfl⟩, hmerchant, howner⟩
  · rintro ⟨_, merchant, ⟨branch, hbranch, rfl⟩, hmerchant, howner⟩
    exact ⟨branch, merchant, ⟨_, hbranch, _, hmerchant, rfl, rfl⟩, howner⟩

theorem owns_congr (h : Rowwise (AssignmentRow db₀) db) {branchId userId : Id} :
    Owns db branchId userId ↔ Owns db₀ branchId userId := by
  have hbranch : (db.get (.branch, branchId)).map (·.merchantId) =
      (db₀.get (.branch, branchId)).map (·.merchantId) := h (.branch, branchId)
  have hmerchant : ∀ i, db.get (.merchant, i) = db₀.get (.merchant, i) := fun i => h (.merchant, i)
  simp only [owns_iff, hbranch, hmerchant]

theorem allMarked_of_rowwise (h : Rowwise (AssignmentRow db₀) db) : AllMarked db := by
  intro i assignment hget
  obtain ⟨hkey, hmarked⟩ := h (.branchStoreType, i) assignment hget
  refine ⟨hkey, { hmarked with admin := fun userId hby => ?_, requestedBy := fun userId hby => ?_ }⟩
  · exact (isAdmin_iff h).mpr (hmarked.admin userId hby)
  · exact (hmarked.requestedBy userId hby).imp (isAdmin_iff h).mpr (owns_congr h).mpr

end Rows

/-! ## The operations keep it -/

section Operations

variable {db₀ : Store}

/-- The columns that an admin writes are marked, whatever was there. -/
theorem Marked.buildBranchStoreTypeUpdateInput {assignment : BranchStoreType}
    {input : BranchStoreTypeInput} (hadmin : IsAdmin db₀ input.currentUserId)
    (hrequested : ∀ userId ∈ assignment.requestedByUserId,
      IsAdmin db₀ userId ∨ Owns db₀ assignment.branchId userId) :
    Marked db₀ (buildBranchStoreTypeUpdateInput input assignment) where
  approvedBy := by simp [StoreTypeManagement.buildBranchStoreTypeUpdateInput]
  approvedAt := by simp [StoreTypeManagement.buildBranchStoreTypeUpdateInput]
  rejectedAt := by simp [StoreTypeManagement.buildBranchStoreTypeUpdateInput]
  hiddenAt := by simp [StoreTypeManagement.buildBranchStoreTypeUpdateInput]
  admin userId hby := by
    simp only [StoreTypeManagement.buildBranchStoreTypeUpdateInput, Option.mem_def,
      Option.ite_none_right_eq_some, Option.some.injEq] at hby
    exact hby.2 ▸ hadmin
  requestedBy := hrequested

/-- So are those that a merchant writes for a branch of his. -/
theorem Marked.requested {assignment : BranchStoreType} {currentUserId : Id} {sortOrder : ℤ}
    {reason : Option String} (howns : Owns db₀ assignment.branchId currentUserId) :
    Marked db₀ (requested currentUserId sortOrder reason assignment) where
  approvedBy := by simp [MerchantStoreTypeRequest.requested]
  approvedAt := by simp [MerchantStoreTypeRequest.requested]
  rejectedAt := by simp [MerchantStoreTypeRequest.requested]
  hiddenAt := by simp [MerchantStoreTypeRequest.requested]
  admin userId hby := by cases hby
  requestedBy userId hby := by
    cases hby
    exact .inr howns

theorem Marked.setPrimary {assignment : BranchStoreType} (isPrimary : Bool)
    (h : Marked db₀ assignment) : Marked db₀ { assignment with isPrimary } :=
  ⟨h.approvedBy, h.approvedAt, h.rejectedAt, h.hiddenAt, h.admin, h.requestedBy⟩

/-- What the transaction writes is marked. -/
abbrev KeepsMarks {α : Type} (db₀ : Store) (p : StoreTx α) : Prop :=
  p.KeepsRows (Rowwise (AssignmentRow db₀)) (AssignmentRow db₀)

theorem updateBranchStoreType_assignmentRow {branchId storeTypeId : Id}
    {data : BranchStoreType → BranchStoreType}
    (hkey : ∀ a, (data a).branchId = a.branchId ∧ (data a).storeTypeId = a.storeTypeId)
    (hmarked : ∀ a, a.branchId = branchId → Marked db₀ a → Marked db₀ (data a)) :
    KeepsMarks db₀ (updateBranchStoreType branchId storeTypeId data) := by
  refine .updateExisting fun assignment hrow written hwritten => ?_
  obtain rfl := Option.some.inj hwritten
  obtain ⟨hid, hmark⟩ := hrow assignment rfl
  rw [(hkey assignment).1, (hkey assignment).2]
  rw [branchStoreTypeId, branchStoreTypeId, Nat.pair_eq_pair] at hid
  exact ⟨Nat.pair_eq_pair.mpr hid, hmarked assignment hid.1.symm hmark⟩

theorem updateBranchPrimaryStoreType_assignmentRow {branchId : Id} {data : Branch → Branch}
    (hdata : ∀ branch, (data branch).merchantId = branch.merchantId) :
    KeepsMarks db₀ (updateBranchPrimaryStoreType branchId data) := by
  refine .updateExisting fun branch (hrow : _ = _) => ?_
  exact (congrArg some (hdata branch)).trans hrow

theorem syncBranchPrimaryStoreType_assignmentRow (branchId : Id) :
    KeepsMarks db₀ (syncBranchPrimaryStoreType branchId) := by
  refine .bind (.read _) fun approved => .bind (.updateAll fun i a _ hrow a' ha' => ?_) fun _ => ?_
  · obtain rfl := Option.some.inj ha'
    obtain ⟨hkey, hmarked⟩ := hrow a rfl
    exact ⟨hkey, hmarked.setPrimary false⟩
  · cases primaryAssignment approved with
    | none => exact updateBranchPrimaryStoreType_assignmentRow fun _ => rfl
    | some record =>
      refine .bind ?_ fun _ => updateBranchPrimaryStoreType_assignmentRow fun _ => rfl
      exact updateBranchStoreType_assignmentRow (fun _ => ⟨rfl, rfl⟩)
        fun a _ hmarked => hmarked.setPrimary true

theorem upsertAssignment_assignmentRow {now : Date} {currentUserId branchId : Id}
    {payload : ManageBranchStoreTypeDto} {existing : Option BranchStoreType}
    (hadmin : IsAdmin db₀ currentUserId) :
    KeepsMarks db₀ (upsertAssignment now currentUserId branchId payload existing) := by
  cases existing with
  | none =>
    refine .insertRow fun assignment hnew => ?_
    obtain rfl := Option.some.inj hnew
    refine ⟨rfl, Marked.buildBranchStoreTypeUpdateInput hadmin fun userId hby => ?_⟩
    cases hby
    exact .inl hadmin
  | some _ =>
    exact updateBranchStoreType_assignmentRow (fun _ => ⟨rfl, rfl⟩) fun a _ hmarked =>
      Marked.buildBranchStoreTypeUpdateInput hadmin hmarked.requestedBy

theorem assignBranchStoreType_assignmentRow {now : Date} {currentUser : AuthenticatedUser}
    {branchId : Id} {payload : ManageBranchStoreTypeDto}
    (hadmin : currentUser.role = .admin → IsAdmin db₀ currentUser.userId) :
    (assignBranchStoreType now currentUser branchId payload).KeepsRows (AssignmentRow db₀) := by
  refine .require_bind fun hrole => .bind (.require ..) fun _ => .transaction ?_
  exact .bind (.check _) fun _ => .bind (.check _) fun _ => .bind (.require _ _) fun _ =>
    .bind (.read _) fun _ => .bind (upsertAssignment_assignmentRow (hadmin hrole)) fun _ =>
      .bind (syncBranchPrimaryStoreType_assignmentRow branchId) fun _ => .check _

theorem updateBranchStoreTypeLifecycle_assignmentRow {now : Date} {currentUser : AuthenticatedUser}
    {branchId storeTypeId : Id} {status : BranchStoreTypeStatus}
    {payload : AdminBranchStoreTypeActionDto}
    (hadmin : currentUser.role = .admin → IsAdmin db₀ currentUser.userId) :
    (updateBranchStoreTypeLifecycle now currentUser branchId storeTypeId status payload).KeepsRows
      (AssignmentRow db₀) := by
  refine .require_bind fun hrole => .bind (.require ..) fun _ => .transaction ?_
  refine .bind (.check _) fun existing => .bind ?_ fun _ => .bind ?_ fun _ =>
    .bind (syncBranchPrimaryStoreType_assignmentRow branchId) fun _ => .check _
  · rw [assertCanBecome]
    split
    · exact .require _ _
    · exact .ret ()
  · exact updateBranchStoreType_assignmentRow (fun _ => ⟨rfl, rfl⟩) fun a _ hmarked =>
      Marked.buildBranchStoreTypeUpdateInput (hadmin hrole) hmarked.requestedBy

theorem requestAssignment_assignmentRow {now : Date} {currentUserId branchId : Id}
    {payload : RequestBranchStoreTypeDto} {existing : Option BranchStoreTypeManagementRecord}
    (howns : Owns db₀ branchId currentUserId) :
    KeepsMarks db₀ (requestAssignment now currentUserId branchId payload existing) := by
  cases existing with
  | none =>
    refine .insertRow fun assignment hnew => ?_
    obtain rfl := Option.some.inj hnew
    exact ⟨rfl, Marked.requested howns⟩
  | some _ =>
    refine updateBranchStoreType_assignmentRow (fun _ => ⟨rfl, rfl⟩) fun a hbranch _ => ?_
    exact Marked.requested (hbranch ▸ howns)

/-- The check reads a branch and its merchant, which are those of `db₀`. -/
theorem owns_of_requireOwnedBranch {db : Store} {currentUser : AuthenticatedUser} {branchId : Id}
    {found : Branch × Merchant} (hrows : Rowwise (AssignmentRow db₀) db)
    (hfound : (match findBranchSummaryById db branchId with
      | none => .error (fail "Branch was not found." .notFound)
      | some (branch, merchant) =>
        if hasOwnedResourceAccess currentUser .merchant merchant.userId branch.merchantId
            currentUser.merchantId then .ok (branch, merchant)
        else .error (fail
          "You are not allowed to manage store type requests for this branch." .forbidden)) =
      (.ok found : Except Failure (Branch × Merchant))) : Owns db₀ branchId currentUser.userId := by
  refine (owns_congr hrows).mp ?_
  cases hbranch : findBranchSummaryById db branchId with
  | none =>
    rw [hbranch] at hfound
    cases hfound
  | some summary =>
    obtain ⟨branch, merchant⟩ := summary
    cases haccess : hasOwnedResourceAccess currentUser .merchant merchant.userId branch.merchantId
        currentUser.merchantId with
    | false =>
      simp only [hbranch, haccess] at hfound
      cases hfound
    | true =>
      simp only [hasOwnedResourceAccess, Bool.and_eq_true, beq_iff_eq] at haccess
      exact ⟨branch, merchant, hbranch, haccess.1.2.symm⟩

theorem request_assignmentRow (now : Date) (currentUser : AuthenticatedUser) (branchId : Id)
    (payload : RequestBranchStoreTypeDto) :
    (requestCurrentMerchantBranchStoreType now currentUser branchId payload).KeepsRows
      (AssignmentRow db₀) := by
  refine .bind (.require ..) fun _ => .transaction ?_
  refine .check_view_bind fun db found hrows hfound => ?_
  have howns := owns_of_requireOwnedBranch hrows hfound
  exact .bind (.check _) fun _ => .bind (.read _) fun existing => .bind (.require _ _) fun _ =>
    .bind (requestAssignment_assignmentRow howns) fun _ => .check _

end Operations

/-! ## Interleavings -/

/-- What an admin or a merchant asks for. -/
inductive ApprovalCall
  | admin (call : StoreTypeCall)
  | request (now : Date) (currentUser : AuthenticatedUser) (branchId : Id)
      (payload : RequestBranchStoreTypeDto)
deriving DecidableEq

namespace ApprovalCall

def currentUser : ApprovalCall → AuthenticatedUser
  | admin (.assign _ currentUser _ _) | admin (.approve _ currentUser _ _ _)
  | admin (.reject _ currentUser _ _ _) | admin (.hide _ currentUser _ _ _)
  | admin (.unhide _ currentUser _ _ _) | request _ currentUser _ _ => currentUser

def service : ApprovalCall → StoreService BranchStoreTypeManagementRecord
  | admin call => call.service
  | request now currentUser branchId payload =>
    requestCurrentMerchantBranchStoreType now currentUser branchId payload

end ApprovalCall

/-- The role that a user signed in with is the user's. -/
def SignedIn (db : Store) (currentUser : AuthenticatedUser) : Prop :=
  ∃ user, db.get (.user, currentUser.userId) = some user ∧ user.role = currentUser.role

theorem ApprovalCall.service_assignmentRow {db₀ : Store} {call : ApprovalCall}
    (h : SignedIn db₀ call.currentUser) : call.service.KeepsRows (AssignmentRow db₀) := by
  have hadmin : call.currentUser.role = .admin → IsAdmin db₀ call.currentUser.userId :=
    fun hrole => h.imp fun user huser => ⟨huser.1, huser.2.trans hrole⟩
  cases call with
  | request => exact request_assignmentRow _ _ _ _
  | admin call =>
    cases call with
    | assign => exact assignBranchStoreType_assignmentRow hadmin
    | approve => exact updateBranchStoreTypeLifecycle_assignmentRow hadmin
    | reject => exact updateBranchStoreTypeLifecycle_assignmentRow hadmin
    | hide => exact updateBranchStoreTypeLifecycle_assignmentRow hadmin
    | unhide => exact updateBranchStoreTypeLifecycle_assignmentRow hadmin

/-- **Only admins approve.** However the statements of admins' and merchants' requests interleave,
every assignment is marked: it is approved exactly when some admin is recorded as having approved
it, and when, and it was asked for by an admin or by the owner of its branch. -/
theorem approved_by_admin {ι : Type} [Fintype ι] [DecidableEq ι] {db₀ : Store}
    (hdb₀ : AllMarked db₀) {calls : ι → ApprovalCall}
    (hcalls : ∀ i, SignedIn db₀ (calls i).currentUser)
    {m : Machine ι Row Failure BranchStoreTypeManagementRecord}
    (hrun : Machine.Reachable (.start db₀ fun i => (calls i).service) m) : AllMarked m.db := by
  have hsound : Machine.Sound (Rowwise (AssignmentRow db₀))
      (fun _ _ _ db' => Rowwise (AssignmentRow db₀) db') m :=
    Machine.Reachable.sound (Q := fun _ _ _ db' => Rowwise (AssignmentRow db₀) db')
      (fun _ _ _ _ _ heffect => heffect) (.start (rowwise_assignmentRow hdb₀)
        fun i => (ApprovalCall.service_assignmentRow (hcalls i)).spec db₀) hrun
  exact allMarked_of_rowwise hsound.inv

/-- The owner of the branch has asked for a store type. -/
def askedAssignment : BranchStoreType where
  branchId := 1
  storeTypeId := 1
  status := .pending
  isPrimary := false
  sortOrder := 0
  requestedByUserId := some 10
  approvedByUserId := none
  approvedAt := none
  rejectedAt := none
  hiddenAt := none
  reason := none
  createdAt := 0

def askedBranch : Store := Db.empty.apply [
  ⟨.user, 9, some { status := .active, role := .admin }⟩,
  ⟨.user, 10, some { status := .active, role := .merchant }⟩,
  ⟨.merchant, 1, some { userId := 10, status := .active }⟩,
  ⟨.branch, 1, some { merchantId := 1, status := .active }⟩,
  ⟨.storeType, 1, some { code := "grocery", name := "Grocery", isActive := true }⟩,
  ⟨.branchStoreType, branchStoreTypeId 1 1, some askedAssignment⟩]

/-- An admin approves it while its owner asks again. -/
def approveAndAsk : Fin 2 → ApprovalCall :=
  ![.admin (.approve 1 typeAdmin 1 1 {}), .request 2 MarketCall.shopOwner 1 { storeTypeId := 1 }]

theorem allMarked_askedBranch : AllMarked askedBranch := by
  intro i assignment hget
  have hrows : ∀ row ∈ askedBranch.list .branchStoreType (fun _ => true),
      row = (branchStoreTypeId 1 1, askedAssignment) := by decide
  obtain ⟨rfl, rfl⟩ := Prod.mk.inj (hrows (i, assignment) (Db.mem_list.mpr ⟨hget, rfl⟩))
  refine ⟨rfl, by decide, by decide, by decide, by decide, fun userId hby => ?_, ?_⟩
  · cases hby
  · rintro userId hasked
    cases hasked
    exact .inr ⟨_, _, rfl, rfl⟩

/-- The owner's request has read the assignment before it is approved, and asks for it anew. -/
theorem approved_by_admin_askedBranch :
    ∃ m : Machine (Fin 2) Row Failure BranchStoreTypeManagementRecord,
      Machine.Reachable (.start askedBranch fun i => (approveAndAsk i).service) m ∧
      (m.db.get (.branchStoreType, branchStoreTypeId 1 1)).map (·.approvedByUserId) = some (some 9) ∧
      (m.threads 1).committing.isSome = true ∧ AllMarked m.db := by
  have hexec : ((Machine.start askedBranch fun i => (approveAndAsk i).service).exec
      (List.map .run (List.replicate 4 1 ++ List.replicate 9 0 ++ List.replicate 2 1))).any
        (fun m => (m.db.get (.branchStoreType, branchStoreTypeId 1 1)).map (·.approvedByUserId) ==
          some (some 9) && (m.threads 1).committing.isSome) = true := by decide +kernel
  obtain ⟨m, hm, hlast⟩ := (Option.any_eq_true _ _).mp hexec
  obtain ⟨happroved, hcommitting⟩ := Bool.and_eq_true_iff.mp hlast
  have hrun : Machine.Reachable _ m := ⟨_, Machine.Run.start.exec hm⟩
  have hsigned : ∀ i, SignedIn askedBranch (approveAndAsk i).currentUser :=
    Fin.forall_fin_two.mpr ⟨⟨_, rfl, rfl⟩, ⟨_, rfl, rfl⟩⟩
  exact ⟨m, hrun, eq_of_beq happroved, hcommitting,
    approved_by_admin allMarked_askedBranch hsigned hrun⟩

end StoreTypeApprovals

end WerTe
