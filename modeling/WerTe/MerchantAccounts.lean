import Mathlib.Data.List.Sort
import WerTe.Clocked.ReadThrough
import WerTe.JsStrings
import WerTe.StoreDiscovery

/-!
# Merchants, their branches, and their caches

`merchants.service.ts`, `merchant-account.service.ts` and `admin-merchant-management.service.ts`
with `merchant-cache.service.ts`, and `branches.service.ts` and `merchant-branches.service.ts` with
`branch-cache.service.ts`.

A merchant is kept in Redis for ten minutes under two keys, its id and its user's, and a branch
under its id and in its merchant's list. What is read goes through the cache
(`MerchantsService.findById`), what is written takes the keys out of it.

A merchant may do nothing while an admin has not let it in or has suspended it
(`MerchantAccount.resolveOwnedMerchant`); what is known of that may come from the cache.
-/

namespace WerTe

open Clocked

/-! ## The database -/

structure AccountUser where
  phone : String
  role : UserRole
  status : UserStatus
deriving DecidableEq

structure MerchantRow where
  userId : Id
  name : String
  supportPhone : Option String
  storeType : String
  status : MerchantStatus
deriving DecidableEq

structure BranchRow where
  merchantId : Id
  name : String
  contactPhone : Option String
  line1 : Option String
  township : String
  latitude : Option ℚ
  longitude : Option ℚ
  storeType : String
  status : BranchStatus
  operatingHours : Option String
  createdAt : Date
deriving DecidableEq

structure ZoneRow where
  code : String
  name : String
  isActive : Bool
deriving DecidableEq

/-- The tables, and the zones of each branch. -/
structure AccountDb where
  users : List (Id × AccountUser)
  merchants : List (Id × MerchantRow)
  branches : List (Id × BranchRow)
  zones : List (Id × ZoneRow)
  branchZones : List (Id × Id)
deriving DecidableEq

/-- A merchant with its user, as `merchantOwnershipInclude` loads it. The user's id is `userId`. -/
structure MerchantOwnershipRecord extends MerchantRow where
  id : Id
  user : AccountUser
deriving DecidableEq

/-- What a branch has of its merchant. -/
structure BranchMerchant where
  id : Id
  userId : Id
  name : String
  storeType : String
  status : MerchantStatus
  user : AccountUser
deriving DecidableEq

/-- A branch with its merchant and zones, as `branchOwnershipInclude` loads it. -/
structure BranchOwnershipRecord extends BranchRow where
  id : Id
  merchant : BranchMerchant
  branchZones : List (Id × ZoneRow)
deriving DecidableEq

/-- The columns of an update that is given some of them. -/
structure MerchantUpdateInput where
  name : Field String := .undefined
  supportPhone : Field String := .undefined
  storeType : Option String := none
  status : Option MerchantStatus := none

/-- `UpdateBranchDto`, without the zones. -/
structure BranchUpdateInput where
  name : Field String := .undefined
  contactPhone : Field String := .undefined
  line1 : Field String := .undefined
  township : Field String := .undefined
  latitude : Field ℚ := .undefined
  longitude : Field ℚ := .undefined
  storeType : Option String := none
  status : Field BranchStatus := .undefined
  operatingHours : Field String := .undefined

namespace AccountDb

def includeUser (db : AccountDb) (merchant : Id × MerchantRow) : Option MerchantOwnershipRecord :=
  (db.users.lookup merchant.2.userId).map fun user =>
    { merchant.2 with id := merchant.1, user }

def findMerchantById (db : AccountDb) (id : Id) : Option MerchantOwnershipRecord :=
  (db.merchants.find? fun merchant => merchant.1 == id).bind db.includeUser

def findMerchantByUserId (db : AccountDb) (userId : Id) : Option MerchantOwnershipRecord :=
  (db.merchants.find? fun merchant => merchant.2.userId == userId).bind db.includeUser

/-- A merchant's row is changed, and loaded. -/
def updateMerchant (db : AccountDb) (id : Id) (data : MerchantUpdateInput) :
    Except Failure (MerchantOwnershipRecord × AccountDb) := do
  let name ← data.name.required "name"
  let change := fun merchant : MerchantRow => { merchant with
    name := name.getD merchant.name
    supportPhone := data.supportPhone.setNullable merchant.supportPhone
    storeType := data.storeType.getD merchant.storeType
    status := data.status.getD merchant.status }
  let db' : AccountDb := { db with merchants := db.merchants.map fun merchant =>
    if merchant.1 == id then (id, change merchant.2) else merchant }
  match db'.findMerchantById id with
  | some record => return (record, db')
  | none => throw Failure.recordNotFound

def includeMerchant (db : AccountDb) (branch : Id × BranchRow) : Option BranchOwnershipRecord := do
  let merchant ← db.findMerchantById branch.2.merchantId
  return { branch.2 with
    id := branch.1
    merchant := ⟨merchant.id, merchant.userId, merchant.name, merchant.storeType, merchant.status,
      merchant.user⟩
    branchZones := (db.branchZones.filter fun zone => zone.1 == branch.1).filterMap fun zone =>
      (db.zones.lookup zone.2).map fun row => (zone.2, row) }

def findBranchById (db : AccountDb) (id : Id) : Option BranchOwnershipRecord :=
  (db.branches.find? fun branch => branch.1 == id).bind db.includeMerchant

/-- The newest first. -/
def listBranchesByMerchantId (db : AccountDb) (merchantId : Id) : List BranchOwnershipRecord :=
  ((db.branches.filter fun branch => branch.2.merchantId == merchantId).filterMap
    db.includeMerchant).insertionSort fun left right => right.createdAt ≤ left.createdAt

def listZonesByIds (db : AccountDb) (zoneIds : List Id) : List (Id × ZoneRow) :=
  db.zones.filter fun zone => zone.1 ∈ zoneIds

def assignZones (db : AccountDb) (branchId : Id) (zoneIds : List Id) : AccountDb :=
  { db with branchZones := db.branchZones ++ zoneIds.map fun zoneId => (branchId, zoneId) }

/-- An id that no branch has. -/
def freshBranchId (db : AccountDb) : Id := (db.branches.map (·.1)).foldr max 0 + 1

/-- A branch is created with its zones, in one transaction, and loaded. -/
def createBranch (db : AccountDb) (data : BranchRow) (zoneIds : List Id) :
    Option BranchOwnershipRecord × AccountDb :=
  let id := db.freshBranchId
  let db' := assignZones { db with branches := (id, data) :: db.branches } id zoneIds
  (db'.findBranchById id, db')

/-- A branch's row is changed, and its zones if there are some, in one transaction. -/
def updateBranch (db : AccountDb) (id : Id) (data : BranchUpdateInput)
    (zoneIds : Option (List Id)) : Except Failure (Option BranchOwnershipRecord × AccountDb) := do
  let name ← data.name.required "name"
  let township ← data.township.required "township"
  let status ← data.status.required "status"
  let change := fun branch : BranchRow => { branch with
    name := name.getD branch.name
    contactPhone := data.contactPhone.setNullable branch.contactPhone
    line1 := data.line1.setNullable branch.line1
    township := township.getD branch.township
    latitude := data.latitude.setNullable branch.latitude
    longitude := data.longitude.setNullable branch.longitude
    storeType := data.storeType.getD branch.storeType
    status := status.getD branch.status
    operatingHours := data.operatingHours.setNullable branch.operatingHours }
  if (db.branches.find? fun branch => branch.1 == id).isNone then throw Failure.recordNotFound
  let changed : AccountDb := { db with branches := db.branches.map fun branch =>
    if branch.1 == id then (id, change branch.2) else branch }
  let db' := match zoneIds with
    | none => changed
    | some zoneIds => assignZones { changed with
        branchZones := changed.branchZones.filter fun zone => zone.1 != id } id zoneIds
  return (db'.findBranchById id, db')

end AccountDb

/-! ## What the operations are carried out on -/

/-- The keys in Redis. -/
inductive AccountKey
  | merchantById (id : Id)
  | merchantByUserId (userId : Id)
  | branchById (id : Id)
  | branchesByMerchantId (merchantId : Id)
deriving DecidableEq

/-- What is kept under a key. -/
abbrev AccountKey.Value : AccountKey → Type
  | merchantById _ | merchantByUserId _ => MerchantOwnershipRecord
  | branchById _ => BranchOwnershipRecord
  | branchesByMerchantId _ => List BranchOwnershipRecord

/-- The statements on the database. A transaction is one of them. -/
inductive AccountQuery
  | findMerchantById (id : Id)
  | findMerchantByUserId (userId : Id)
  | updateMerchant (id : Id) (data : MerchantUpdateInput)
  | findBranchById (id : Id)
  | listBranchesByMerchantId (merchantId : Id)
  | listZonesByIds (zoneIds : List Id)
  | createBranch (data : BranchRow) (zoneIds : List Id)
  | updateBranch (id : Id) (data : BranchUpdateInput) (zoneIds : Option (List Id))
  /-- whatever other services write -/
  | other (write : AccountDb → AccountDb)

abbrev AccountQuery.Answer : AccountQuery → Type
  | findMerchantById _ | findMerchantByUserId _ => Option MerchantOwnershipRecord
  | updateMerchant .. => Except Failure MerchantOwnershipRecord
  | findBranchById _ => Option BranchOwnershipRecord
  | listBranchesByMerchantId _ => List BranchOwnershipRecord
  | listZonesByIds _ => List (Id × ZoneRow)
  | createBranch .. => Option BranchOwnershipRecord
  | updateBranch .. => Except Failure (Option BranchOwnershipRecord)
  | other _ => Unit

/-- A statement that fails writes nothing. -/
def AccountDb.commit {α : Type} (db : AccountDb) : Except Failure (α × AccountDb) →
    Except Failure α × AccountDb
  | .ok (a, db') => (.ok a, db')
  | .error e => (.error e, db)

instance : Statements AccountQuery AccountQuery.Answer AccountDb where
  exec
  | .findMerchantById id, db => (db.findMerchantById id, db)
  | .findMerchantByUserId userId, db => (db.findMerchantByUserId userId, db)
  | .updateMerchant id data, db => db.commit (db.updateMerchant id data)
  | .findBranchById id, db => (db.findBranchById id, db)
  | .listBranchesByMerchantId merchantId, db => (db.listBranchesByMerchantId merchantId, db)
  | .listZonesByIds zoneIds, db => (db.listZonesByIds zoneIds, db)
  | .createBranch data zoneIds, db => db.createBranch data zoneIds
  | .updateBranch id data zoneIds, db => db.commit (db.updateBranch id data zoneIds)
  | .other write, db => ((), write db)

abbrev AccountOp := CacheOp AccountKey AccountKey.Value AccountQuery AccountQuery.Answer

abbrev AccountWorld := CacheWorld AccountDb AccountKey AccountKey.Value

/-- A call of the services below. -/
abbrev AccountCall := Call AccountOp Failure

open Call (perform)

/-- `Promise.all`: both are started, and the first may be either. -/
def together (first second : AccountCall Unit) : AccountCall Unit := do
  if ← perform .firstOfTwo then
    first
    second
  else
    second
    first

/-- The time to live of both caches. -/
def accountTtlSeconds : ℤ := 600

/-! ## The repositories -/

namespace MerchantsRepository

def findById (id : Id) : AccountCall (Option MerchantOwnershipRecord) :=
  perform (.query (AccountQuery.findMerchantById id))

def findByUserId (userId : Id) : AccountCall (Option MerchantOwnershipRecord) :=
  perform (.query (AccountQuery.findMerchantByUserId userId))

def update (id : Id) (data : MerchantUpdateInput) : AccountCall MerchantOwnershipRecord := do
  let updated ← perform (.query (AccountQuery.updateMerchant id data))
  .ofExcept updated

end MerchantsRepository

namespace BranchesRepository

def findById (id : Id) : AccountCall (Option BranchOwnershipRecord) :=
  perform (.query (AccountQuery.findBranchById id))

def listByMerchantId (merchantId : Id) : AccountCall (List BranchOwnershipRecord) :=
  perform (.query (AccountQuery.listBranchesByMerchantId merchantId))

/-- The transaction that creates a branch. -/
def create (data : BranchRow) (zoneIds : List Id) : AccountCall (Option BranchOwnershipRecord) :=
  perform (.query (AccountQuery.createBranch data zoneIds))

/-- The transaction that changes one. -/
def update (id : Id) (data : BranchUpdateInput) (zoneIds : Option (List Id)) :
    AccountCall (Option BranchOwnershipRecord) := do
  let updated ← perform (.query (AccountQuery.updateBranch id data zoneIds))
  .ofExcept updated

end BranchesRepository

def ZonesRepository.listByIds (zoneIds : List Id) : AccountCall (List (Id × ZoneRow)) :=
  perform (.query (AccountQuery.listZonesByIds zoneIds))

/-! ## `merchant-cache.service.ts` -/

namespace MerchantCache

def getById (id : Id) : AccountCall (Option MerchantOwnershipRecord) :=
  perform (.get (AccountKey.merchantById id))

def setById (merchant : MerchantOwnershipRecord) : AccountCall Unit :=
  perform (.set (AccountKey.merchantById merchant.id) merchant accountTtlSeconds)

def getByUserId (userId : Id) : AccountCall (Option MerchantOwnershipRecord) :=
  perform (.get (AccountKey.merchantByUserId userId))

def setByUserId (userId : Id) (merchant : MerchantOwnershipRecord) : AccountCall Unit :=
  perform (.set (AccountKey.merchantByUserId userId) merchant accountTtlSeconds)

def invalidate (merchantId userId : Id) : AccountCall Unit :=
  perform (.del [AccountKey.merchantById merchantId, .merchantByUserId userId])

end MerchantCache

/-! ## `branch-cache.service.ts` -/

namespace BranchCache

def getById (id : Id) : AccountCall (Option BranchOwnershipRecord) :=
  perform (.get (AccountKey.branchById id))

def setById (branch : BranchOwnershipRecord) : AccountCall Unit :=
  perform (.set (AccountKey.branchById branch.id) branch accountTtlSeconds)

def getListByMerchantId (merchantId : Id) : AccountCall (Option (List BranchOwnershipRecord)) :=
  perform (.get (AccountKey.branchesByMerchantId merchantId))

def setListByMerchantId (merchantId : Id) (branches : List BranchOwnershipRecord) :
    AccountCall Unit :=
  perform (.set (AccountKey.branchesByMerchantId merchantId) branches accountTtlSeconds)

def invalidate (branchId merchantId : Id) : AccountCall Unit :=
  perform (.del [AccountKey.branchById branchId, .branchesByMerchantId merchantId])

end BranchCache

/-! ## `merchants.service.ts` -/

namespace MerchantsService

def findById (id : Id) : AccountCall (Option MerchantOwnershipRecord) := do
  match ← MerchantCache.getById id with
  | some cached => return some cached
  | none =>
    match ← MerchantsRepository.findById id with
    | none => return none
    | some merchant =>
      together (MerchantCache.setById merchant)
        (MerchantCache.setByUserId merchant.userId merchant)
      return some merchant

def findByUserId (userId : Id) : AccountCall (Option MerchantOwnershipRecord) := do
  match ← MerchantCache.getByUserId userId with
  | some cached => return some cached
  | none =>
    match ← MerchantsRepository.findByUserId userId with
    | none => return none
    | some merchant =>
      together (MerchantCache.setByUserId userId merchant) (MerchantCache.setById merchant)
      return some merchant

def belongsToUser (merchant : MerchantOwnershipRecord) (userId : Id) : Bool :=
  merchant.userId == userId

def findOwnedByUserId (userId merchantId : Id) : AccountCall (Option MerchantOwnershipRecord) := do
  let merchant ← findById merchantId
  return merchant.filter fun merchant => belongsToUser merchant userId

end MerchantsService

/-! ## `branches.service.ts` -/

namespace BranchesService

def findById (id : Id) : AccountCall (Option BranchOwnershipRecord) := do
  match ← BranchCache.getById id with
  | some cached => return some cached
  | none =>
    match ← BranchesRepository.findById id with
    | none => return none
    | some branch =>
      BranchCache.setById branch
      return some branch

def listByMerchantId (merchantId : Id) : AccountCall (List BranchOwnershipRecord) := do
  match ← BranchCache.getListByMerchantId merchantId with
  | some cached => return cached
  | none =>
    let branches ← BranchesRepository.listByMerchantId merchantId
    BranchCache.setListByMerchantId merchantId branches
    return branches

def belongsToMerchantUser (branch : BranchOwnershipRecord) (userId : Id) : Bool :=
  branch.merchant.userId == userId

/-- Used by the services of menus and promotions, to see whose the branch is. -/
def findOwnedByUserId (userId branchId : Id) : AccountCall (Option BranchOwnershipRecord) := do
  let branch ← findById branchId
  return branch.filter fun branch => belongsToMerchantUser branch userId

end BranchesService

/-! ## `merchant-account.service.ts` -/

structure UpdateMerchantProfileDto where
  name : Field String := .undefined
  supportPhone : Field String := .undefined
  storeType : Field String := .undefined

namespace MerchantAccount

/-- `null` has no `trim`. -/
def normalizeStoreTypeCode (rules : TextRules) : Field String → AccountCall (Option String)
  | .undefined => return none
  | .null => .throw .typeError
  | .value storeType => return some (rules.toLowerCase (trim storeType))

def canAccessMerchant (currentUser : AuthenticatedUser) (merchant : MerchantOwnershipRecord) :
    Bool :=
  hasOwnedResourceAccess currentUser .merchant merchant.userId merchant.id currentUser.merchantId

/-- By the merchant that the user has signed in for, if there is one. -/
def findActorMerchant (currentUser : AuthenticatedUser) :
    AccountCall (Option MerchantOwnershipRecord) :=
  match currentUser.merchantId with
  | some actorMerchantId =>
    MerchantsService.findOwnedByUserId currentUser.userId actorMerchantId
  | none => MerchantsService.findByUserId currentUser.userId

def resolveOwnedMerchant (currentUser : AuthenticatedUser) :
    AccountCall MerchantOwnershipRecord := do
  let found ← findActorMerchant currentUser
  let merchant ← .orFail found
    (fail "Merchant profile was not found for the authenticated user." .notFound)
  .require (merchant.status ≠ .pending) (.app {
    message := "Your merchant account is pending admin approval."
    status := .forbidden
    code := some "ACCOUNT_PENDING" })
  .require (merchant.status ≠ .suspended) (.app {
    message := "Your merchant account has been suspended."
    status := .forbidden
    code := some "ACCOUNT_SUSPENDED" })
  .require (canAccessMerchant currentUser merchant)
    (fail "You are not allowed to access this merchant profile." .forbidden)
  return merchant

def getCurrentMerchantProfile (currentUser : AuthenticatedUser) :
    AccountCall MerchantOwnershipRecord := resolveOwnedMerchant currentUser

def updateCurrentMerchantProfile (rules : TextRules) (currentUser : AuthenticatedUser)
    (payload : UpdateMerchantProfileDto) : AccountCall MerchantOwnershipRecord := do
  let merchant ← resolveOwnedMerchant currentUser
  let storeType ← normalizeStoreTypeCode rules payload.storeType
  let updatedMerchant ← MerchantsRepository.update merchant.id
    { name := payload.name, supportPhone := payload.supportPhone, storeType }
  MerchantCache.invalidate updatedMerchant.id updatedMerchant.userId
  return updatedMerchant

end MerchantAccount

/-! ## `admin-merchant-management.service.ts` -/

namespace AdminMerchantManagement

/-- An admin lets a merchant in or suspends it. -/
def updateMerchantStatus (merchantId : Id) (status : MerchantStatus) :
    AccountCall MerchantOwnershipRecord := do
  let existing ← MerchantsRepository.findById merchantId
  let _ ← .orFail existing
    (fail ("Merchant '" ++ toString merchantId ++ "' was not found.") .notFound)
  let updatedMerchant ← MerchantsRepository.update merchantId { status := some status }
  MerchantCache.invalidate updatedMerchant.id updatedMerchant.userId
  return updatedMerchant

end AdminMerchantManagement

/-! ## `merchant-branches.service.ts` -/

structure CreateBranchDto where
  name : String
  contactPhone : Option String := none
  line1 : Option String := none
  township : String
  latitude : Option ℚ := none
  longitude : Option ℚ := none
  storeType : Option String := none
  status : Field BranchStatus := .undefined
  zoneIds : Field (List Id) := .undefined
  operatingHours : Option String := none

structure UpdateBranchDto where
  name : Field String := .undefined
  contactPhone : Field String := .undefined
  line1 : Field String := .undefined
  township : Field String := .undefined
  latitude : Field ℚ := .undefined
  longitude : Field ℚ := .undefined
  storeType : Field String := .undefined
  status : Field BranchStatus := .undefined
  zoneIds : Field (List Id) := .undefined
  operatingHours : Field String := .undefined

namespace MerchantBranches

open MerchantAccount

/-- Each once. Of `null` there are none. -/
def normalizeZoneIds (zoneIds : Field (List Id)) : List Id :=
  (zoneIds.toOption.getD []).reverse.dedup.reverse

def assertValidZoneAssignments (zoneIds : List Id) : AccountCall Unit := do
  if zoneIds = [] then return ()
  let zones ← ZonesRepository.listByIds zoneIds
  .require (zones.length = zoneIds.length)
    (fail "One or more branch zones do not exist." .unprocessableEntity [("zoneIds", .ids zoneIds)])
  let inactiveZones := zones.filter fun zone => !zone.2.isActive
  .require (inactiveZones = []) (fail "Inactive zones cannot be assigned to a branch."
    .unprocessableEntity [("zoneIds", .ids (inactiveZones.map (·.1)))])

def listCurrentMerchantBranches (currentUser : AuthenticatedUser) :
    AccountCall (List BranchOwnershipRecord) := do
  let merchant ← resolveOwnedMerchant currentUser
  BranchesService.listByMerchantId merchant.id

def canManageBranch (currentUser : AuthenticatedUser) (branch : BranchOwnershipRecord) : Bool :=
  hasOwnedResourceAccess currentUser .merchant branch.merchant.userId branch.merchant.id
    currentUser.merchantId

/-- The branch is read from the database, whatever the status of its merchant is. -/
def resolveOwnedBranch (currentUser : AuthenticatedUser) (branchId : Id) :
    AccountCall BranchOwnershipRecord := do
  let found ← BranchesRepository.findById branchId
  let branch ← .orFail found (fail "Branch was not found." .notFound)
  .require (canManageBranch currentUser branch)
    (fail "You are not allowed to manage this branch." .forbidden)
  return branch

def getCurrentMerchantBranch (currentUser : AuthenticatedUser) (branchId : Id) :
    AccountCall BranchOwnershipRecord := resolveOwnedBranch currentUser branchId

def createCurrentMerchantBranch (rules : TextRules) (now : Date) (currentUser : AuthenticatedUser)
    (payload : CreateBranchDto) : AccountCall BranchOwnershipRecord := do
  let merchant ← resolveOwnedMerchant currentUser
  let zoneIds := normalizeZoneIds payload.zoneIds
  let storeType := rules.toLowerCase (trim (payload.storeType.getD merchant.storeType))
  assertValidZoneAssignments zoneIds
  let status ← .ofExcept (payload.status.required "status")
  let created ← BranchesRepository.create {
    merchantId := merchant.id, name := payload.name, contactPhone := payload.contactPhone
    line1 := payload.line1, township := payload.township, latitude := payload.latitude
    longitude := payload.longitude, storeType, status := status.getD .inactive
    operatingHours := payload.operatingHours, createdAt := now } zoneIds
  let branch ← .orFail created (fail "Created branch could not be loaded." .internalServerError)
  BranchCache.invalidate branch.id merchant.id
  return branch

def updateCurrentMerchantBranch (rules : TextRules) (currentUser : AuthenticatedUser)
    (branchId : Id) (payload : UpdateBranchDto) : AccountCall BranchOwnershipRecord := do
  let branch ← resolveOwnedBranch currentUser branchId
  let zoneIds := if payload.zoneIds = .undefined then none
    else some (normalizeZoneIds payload.zoneIds)
  let storeType ← normalizeStoreTypeCode rules payload.storeType
  assertValidZoneAssignments (zoneIds.getD [])
  let found ← BranchesRepository.update branch.id { payload with storeType } zoneIds
  let updatedBranch ← .orFail found
    (fail "Updated branch could not be loaded." .internalServerError)
  BranchCache.invalidate updatedBranch.id updatedBranch.merchant.id
  return updatedBranch

end MerchantBranches

/-! ## Requests -/

inductive AccountRequest
  | getProfile (currentUser : AuthenticatedUser)
  | updateProfile (currentUser : AuthenticatedUser) (payload : UpdateMerchantProfileDto)
  | updateStatus (merchantId : Id) (status : MerchantStatus)
  | listBranches (currentUser : AuthenticatedUser)
  | getBranch (currentUser : AuthenticatedUser) (branchId : Id)
  | createBranch (now : Date) (currentUser : AuthenticatedUser) (payload : CreateBranchDto)
  | updateBranch (currentUser : AuthenticatedUser) (branchId : Id) (payload : UpdateBranchDto)
  | findBranch (branchId : Id)
  /-- what other services write -/
  | other (writes : List (AccountDb → AccountDb))

inductive AccountResponse
  | merchant (merchant : MerchantOwnershipRecord)
  | branches (branches : List BranchOwnershipRecord)
  | branch (branch : Option BranchOwnershipRecord)
  | written
deriving DecidableEq

/-- What other services write, one after the other. -/
def writeOther : List (AccountDb → AccountDb) → AccountCall Unit
  | [] => return ()
  | write :: writes => do
    perform (.query (AccountQuery.other write))
    writeOther writes

namespace AccountRequest

open MerchantAccount AdminMerchantManagement MerchantBranches

def call (rules : TextRules) : AccountRequest → AccountCall AccountResponse
  | getProfile currentUser => do return .merchant (← getCurrentMerchantProfile currentUser)
  | updateProfile currentUser payload => do
    return .merchant (← updateCurrentMerchantProfile rules currentUser payload)
  | updateStatus merchantId status => do
    return .merchant (← updateMerchantStatus merchantId status)
  | listBranches currentUser => do return .branches (← listCurrentMerchantBranches currentUser)
  | getBranch currentUser branchId => do
    return .branch (some (← getCurrentMerchantBranch currentUser branchId))
  | createBranch now currentUser payload => do
    return .branch (some (← createCurrentMerchantBranch rules now currentUser payload))
  | updateBranch currentUser branchId payload => do
    return .branch (some (← updateCurrentMerchantBranch rules currentUser branchId payload))
  | findBranch branchId => do return .branch (← BranchesService.findById branchId)
  | other writes => do
    writeOther writes
    return .written

/-- Who it is that is taken for a merchant, where that is asked. -/
def resolves : AccountRequest → Option AuthenticatedUser
  | getProfile currentUser | updateProfile currentUser _ | listBranches currentUser
  | createBranch _ currentUser _ => some currentUser
  | _ => none

end AccountRequest

end WerTe
