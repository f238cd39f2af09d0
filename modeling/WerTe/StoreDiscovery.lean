import WerTe.Cached.ReadThrough
import WerTe.StoreTypes

/-!
# Store discovery

`customer-store-discovery.service.ts` lists the branches that customers may see, with the store
types they see them by. What most of them ask for is kept in Redis (`discovery-cache.service.ts`),
and thrown away when an admin has changed something. Nothing is forgotten on its own here, and
Redis does not fail.

* `DiscoveryWorld`: the database, with what is cached of it
* `CustomerStoreDiscovery.findDiscoverableBranches`: the list, from the cache if it is there
* `CachedStoreTypeManagement`: what admins do, and what of it takes the lists out of the cache
-/

namespace WerTe

open ReadCommitted

/-- How texts are compared outside of the program: JavaScript's `toLowerCase`, and the database's
`ILIKE '%…%'` and collation. -/
structure TextRules where
  toLowerCase : String → String
  containsInsensitive : String → String → Bool
  compareNames : String → String → Ordering

/-! ## `customer-store-discovery.entity.ts` -/

/-- What is selected of a store type. -/
structure StoreTypeSummary where
  id : Id
  code : String
  name : String
  sortOrder : ℤ
deriving DecidableEq

structure CustomerStoreTypeAssignment where
  isPrimary : Bool
  storeType : StoreTypeSummary
deriving DecidableEq

structure MerchantSummary where
  id : Id
  name : String
  status : MerchantStatus
deriving DecidableEq

structure CustomerStoreDiscoveryRecord where
  id : Id
  name : String
  township : String
  status : BranchStatus
  merchant : MerchantSummary
  storeTypes : List CustomerStoreTypeAssignment
deriving DecidableEq

/-! ## `list-customer-stores-query.dto.ts` -/

/-- An id that is blank is as one that is not there. -/
structure ListCustomerStoresQueryDto where
  storeTypeCode : Option String := none
  storeTypeCodes : Option (List String) := none
  township : Option String := none
  keyword : Option String := none
  merchantId : Option Id := none
  branchId : Option Id := none
deriving DecidableEq

/-- What the repository is asked for. -/
structure DiscoveryFilter where
  branchId : Option Id
  merchantId : Option Id
  storeTypeCodes : Option (List String)
  township : Option String
  keyword : Option String
deriving DecidableEq

/-! ## `store-types.repository.ts` -/

namespace StoreTypesRepository

/-- The store type of an approved assignment that customers see. -/
def isVisible (storeType : StoreType) : Bool := storeType.isActive && storeType.deletedAt.isNone

def visibleStoreTypes (db : Store) (branchId : Id) : List BranchStoreTypeManagementRecord :=
  (listApprovedBranchStoreTypes db branchId).filter fun record => isVisible record.storeType

/-- One of the codes, if any are asked for. -/
def hasCode (filter : DiscoveryFilter) (code : String) : Bool :=
  filter.storeTypeCodes.all fun storeTypeCodes => storeTypeCodes.contains code

/-- What is asked of the branch and its merchant. -/
def meetsFilter (rules : TextRules) (filter : DiscoveryFilter) (id : Id) (branch : Branch)
    (merchant : Merchant) : Bool :=
  branch.status == .active &&
    filter.branchId.all (· == id) &&
    filter.merchantId.all (· == branch.merchantId) &&
    filter.township.all (rules.containsInsensitive branch.township) &&
    merchant.status == .active &&
    filter.keyword.all fun keyword =>
      rules.containsInsensitive branch.name keyword ||
      rules.containsInsensitive branch.township keyword ||
      rules.containsInsensitive merchant.name keyword

/-- `customerStoreDiscoveryInclude`. -/
def includeDiscovery (db : Store) (id : Id) (branch : Branch) (merchant : Merchant) :
    CustomerStoreDiscoveryRecord where
  id := id
  name := branch.name
  township := branch.township
  status := branch.status
  merchant := ⟨branch.merchantId, merchant.name, merchant.status⟩
  storeTypes := (visibleStoreTypes db id).map fun record => {
    isPrimary := record.assignment.isPrimary
    storeType := ⟨record.assignment.storeTypeId, record.storeType.code, record.storeType.name,
      record.storeType.sortOrder⟩ }

/-- The branch's record, if the branch is one that is asked for. -/
def discover (rules : TextRules) (filter : DiscoveryFilter) (db : Store) (row : Id × Branch) :
    Option CustomerStoreDiscoveryRecord :=
  (db.get (.merchant, row.2.merchantId)).bind fun merchant =>
    if meetsFilter rules filter row.1 row.2 merchant ∧
        (visibleStoreTypes db row.1).any fun record => hasCode filter record.storeType.code then
      some (includeDiscovery db row.1 row.2 merchant)
    else none

def branchBefore (rules : TextRules) (left right : Id × Branch) : Bool :=
  ((rules.compareNames left.2.name right.2.name).then
    (compare left.2.createdAt right.2.createdAt)) != .gt

def listCustomerDiscoverableBranches (rules : TextRules) (filter : DiscoveryFilter) (db : Store) :
    List CustomerStoreDiscoveryRecord :=
  (((db.list .branch fun _ => true).filter fun row => (discover rules filter db row).isSome)
    |>.insertionSort fun left right => branchBefore rules left right).filterMap
      (discover rules filter db)

def findStoreTypeById (id : Id) : StoreService (Option StoreType) :=
  .get fun db => db.get (.storeType, id)

def findStoreTypeByCode (code : String) : StoreService (Option (Id × StoreType)) :=
  .get fun db => (db.list .storeType fun storeType => storeType.code == code).head?

/-- The code is unique. -/
def createStoreType (data : StoreType) : StoreService (Id × StoreType) :=
  .transaction (.attempt fun db =>
    if (db.list .storeType fun storeType => storeType.code == data.code) = [] then
      let id := db.fresh .storeType
      .ok ((id, data), [⟨.storeType, id, some data⟩])
    else .error (.uniqueConstraint "code"))

def updateStoreType (id : Id) (data : StoreType → StoreType) : StoreService StoreType :=
  let key : Key Tbl := (.storeType, id)
  let change : StoreTx StoreType := .updateReturning key data .recordNotFound
  .transaction change

end StoreTypesRepository

open StoreTypesRepository

/-! ## What is cached -/

/-- The database, the lists of branches in Redis, and the store types there. -/
structure DiscoveryWorld extends Cached.World Store String (List CustomerStoreDiscoveryRecord) where
  storeTypes : Id → Option StoreType

abbrev DiscoveryService := EStateM Failure DiscoveryWorld

/-- A call on the database alone. -/
def database {α : Type} (p : StoreService α) : DiscoveryService α := fun world =>
  match p.run world.data with
  | (.ok a, db) => .ok a { world with data := db }
  | (.error e, db) => .error e { world with data := db }

namespace DiscoveryCache

/-- The UTF-16 code units, by which `sort` compares. -/
def utf16 (s : String) : List ℕ :=
  s.toList.flatMap fun c =>
    if c.toNat < 0x10000 then [c.toNat]
    else [0xD800 + (c.toNat - 0x10000) / 0x400, 0xDC00 + (c.toNat - 0x10000) % 0x400]

def sortCodes (codes : List String) : List String :=
  codes.insertionSort fun left right => utf16 left ≤ utf16 right

def codesSegment : Option (List String) → String
  | some storeTypeCodes =>
    if 0 < storeTypeCodes.length then ",".intercalate (sortCodes storeTypeCodes) else "all"
  | none => "all"

/-- `KEY.list`. -/
def listKey (filter : DiscoveryFilter) : String :=
  "store-discovery:list:" ++ codesSegment filter.storeTypeCodes ++ ":" ++
    filter.township.getD "all"

def isCacheable (filter : DiscoveryFilter) : Bool :=
  filter.branchId.isNone && filter.merchantId.isNone && filter.keyword.isNone

/-- An entry that will soon be forgotten is passed over now and then. -/
def getList (earlyExpiry : Bool) (filter : DiscoveryFilter) :
    DiscoveryService (Option (List CustomerStoreDiscoveryRecord)) := do
  let world ← get
  pure (if earlyExpiry then none else world.cache (listKey filter))

def setList (filter : DiscoveryFilter) (records : List CustomerStoreDiscoveryRecord) :
    DiscoveryService Unit :=
  modify fun world =>
    { world with cache := Function.update world.cache (listKey filter) (some records) }

def invalidateAll : DiscoveryService Unit := modify fun world => { world with cache := fun _ => none }

end DiscoveryCache

/-! ### `store-type-cache.service.ts` -/

namespace StoreTypeCache

def getById (id : Id) : DiscoveryService (Option StoreType) := do
  let world ← get
  pure (world.storeTypes id)

def setById (id : Id) (storeType : StoreType) : DiscoveryService Unit :=
  modify fun world =>
    { world with storeTypes := Function.update world.storeTypes id (some storeType) }

def invalidateOne (id : Id) : DiscoveryService Unit :=
  modify fun world => { world with storeTypes := Function.update world.storeTypes id none }

end StoreTypeCache

/-! ## `customer-store-discovery.service.ts` -/

structure DiscoverableBranches where
  branches : List CustomerStoreDiscoveryRecord
  selectedStoreTypeCodes : Option (List String)
deriving DecidableEq

namespace CustomerStoreDiscovery

def normalizeStoreTypeCodes (rules : TextRules) (storeTypeCode : Option String)
    (storeTypeCodes : Option (List String)) : Option (List String) :=
  let normalizedValues :=
    (((normalizeOptionalString storeTypeCode).map rules.toLowerCase).toList ++
      (storeTypeCodes.getD []).map fun code => rules.toLowerCase (trim code)).filter
        fun value => 0 < value.length
  let uniqueValues := normalizedValues.eraseDups
  if 0 < uniqueValues.length then some uniqueValues else none

def toFilter (rules : TextRules) (query : ListCustomerStoresQueryDto) : DiscoveryFilter where
  branchId := query.branchId
  merchantId := query.merchantId
  storeTypeCodes := normalizeStoreTypeCodes rules query.storeTypeCode query.storeTypeCodes
  township := normalizeOptionalString query.township
  keyword := normalizeOptionalString query.keyword

def findCachedBranches (rules : TextRules) (earlyExpiry : Bool) (filter : DiscoveryFilter) :
    DiscoveryService (List CustomerStoreDiscoveryRecord) := do
  let cached ← DiscoveryCache.getList earlyExpiry filter
  match cached with
  | some branches => pure branches
  | none => do
    let branches ← database (.get (listCustomerDiscoverableBranches rules filter))
    DiscoveryCache.setList filter branches
    pure branches

def findDiscoverableBranches (rules : TextRules) (earlyExpiry : Bool)
    (query : ListCustomerStoresQueryDto) : DiscoveryService DiscoverableBranches := do
  let filter := toFilter rules query
  let branches ←
    if DiscoveryCache.isCacheable filter then findCachedBranches rules earlyExpiry filter
    else database (.get (listCustomerDiscoverableBranches rules filter))
  pure {
    branches := branches.filter fun branch => 0 < branch.storeTypes.length
    selectedStoreTypeCodes := filter.storeTypeCodes }

/-- What there is to find in the database. -/
def findUncached (rules : TextRules) (query : ListCustomerStoresQueryDto) (db : Store) :
    DiscoverableBranches :=
  let filter := toFilter rules query
  { branches := (listCustomerDiscoverableBranches rules filter db).filter
      fun branch => 0 < branch.storeTypes.length
    selectedStoreTypeCodes := filter.storeTypeCodes }

end CustomerStoreDiscovery

/-! ## `store-type-management.service.ts` -/

structure CreateStoreTypeDto where
  code : String
  name : String
  description : Option String := none
  iconUrl : Option String := none
  isActive : Option Bool := none
  sortOrder : Option ℤ := none
deriving DecidableEq

structure UpdateStoreTypeDto where
  name : Field String := .undefined
  description : Field String := .undefined
  iconUrl : Field String := .undefined
  isActive : Field Bool := .undefined
  sortOrder : Field ℤ := .undefined
deriving DecidableEq

namespace CachedStoreTypeManagement

open StoreTypeManagement (assertCanManageStoreTypes StoreTypeCall)

def normalizeRequiredString (value fieldName : String) : DiscoveryService String := do
  Cached.require ((trim value).length ≠ 0) (fail (fieldName ++ " is required.") .badRequest)
  pure (trim value)

def normalizeStoreTypeCode (rules : TextRules) (code : String) : DiscoveryService String := do
  let value ← normalizeRequiredString code "Store type code"
  pure (rules.toLowerCase value)

/-- Outside a transaction the store type may come from the cache. -/
def requireStoreType (storeTypeId : Id) : DiscoveryService StoreType := do
  let cached ← StoreTypeCache.getById storeTypeId
  match cached with
  | some storeType => pure storeType
  | none => do
    let found ← database (findStoreTypeById storeTypeId)
    let storeType ← Cached.orFail found (fail "Store type was not found." .notFound)
    StoreTypeCache.setById storeTypeId storeType
    pure storeType

/-- The cached lists of store types, which go with one that is created, are not used here. -/
def createStoreType (rules : TextRules) (now : Date) (currentUser : AuthenticatedUser)
    (payload : CreateStoreTypeDto) : DiscoveryService (Id × StoreType) := do
  database (assertCanManageStoreTypes currentUser)
  let code ← normalizeStoreTypeCode rules payload.code
  let existingStoreType ← database (findStoreTypeByCode code)
  Cached.require (existingStoreType = none)
    (fail "Store type code is already in use." .conflict [("code", .text code)])
  let name ← normalizeRequiredString payload.name "Store type name"
  let storeType ← database (StoreTypesRepository.createStoreType {
    code, name
    description := normalizeOptionalString payload.description
    iconUrl := normalizeOptionalString payload.iconUrl
    isActive := payload.isActive.getD true
    isSystem := false
    sortOrder := payload.sortOrder.getD 0
    deletedAt := if payload.isActive = some false then some now else none })
  DiscoveryCache.invalidateAll
  pure storeType

/-- The new name, if there is one. `null` has no `trim`. -/
def newName : Field String → DiscoveryService (Option String)
  | .undefined => pure none
  | .null => throw (fail "Cannot read properties of null (reading 'trim')" .internalServerError)
  | .value name => do
    let name ← normalizeRequiredString name "Store type name"
    pure (some name)

/-- The change of the row, by what the service has read. -/
def updateData (now : Date) (payload : UpdateStoreTypeDto) (existingStoreType : StoreType)
    (name : Option String) (sortOrder : Option ℤ) (storeType : StoreType) : StoreType :=
  let isActive := payload.isActive.toOption.getD existingStoreType.isActive
  { storeType with
    name := name.getD storeType.name
    description := if payload.description = .undefined then storeType.description
      else normalizeOptionalString payload.description.toOption
    iconUrl := if payload.iconUrl = .undefined then storeType.iconUrl
      else normalizeOptionalString payload.iconUrl.toOption
    sortOrder := sortOrder.getD storeType.sortOrder
    isActive := if payload.isActive = .undefined then storeType.isActive else isActive
    deletedAt := if payload.isActive = .undefined then storeType.deletedAt
      else if isActive then none else existingStoreType.deletedAt.or (some now) }

/-- Change the row, and take what is cached of it out of the cache. -/
def changeStoreType (storeTypeId : Id) (data : StoreType → StoreType) :
    DiscoveryService StoreType := do
  let storeType ← database (StoreTypesRepository.updateStoreType storeTypeId data)
  StoreTypeCache.invalidateOne storeTypeId
  DiscoveryCache.invalidateAll
  pure storeType

def updateStoreType (now : Date) (currentUser : AuthenticatedUser) (storeTypeId : Id)
    (payload : UpdateStoreTypeDto) : DiscoveryService StoreType := do
  database (assertCanManageStoreTypes currentUser)
  let existingStoreType ← requireStoreType storeTypeId
  let name ← newName payload.name
  let sortOrder ← Cached.ofExcept (payload.sortOrder.required "sortOrder")
  changeStoreType storeTypeId (updateData now payload existingStoreType name sortOrder)

def archiveStoreType (now : Date) (currentUser : AuthenticatedUser) (storeTypeId : Id) :
    DiscoveryService StoreType := do
  database (assertCanManageStoreTypes currentUser)
  let storeType ← requireStoreType storeTypeId
  if storeType.isActive = false ∧ storeType.deletedAt ≠ none then pure storeType
  else changeStoreType storeTypeId fun storeType =>
    { storeType with isActive := false, deletedAt := some now }

def activateStoreType (currentUser : AuthenticatedUser) (storeTypeId : Id) :
    DiscoveryService StoreType := do
  database (assertCanManageStoreTypes currentUser)
  let _ ← requireStoreType storeTypeId
  changeStoreType storeTypeId fun storeType =>
    { storeType with isActive := true, deletedAt := none }

/-- The lists are thrown away when an assignment's status has been changed, but not when one has
been made. -/
def branchStoreType : StoreTypeCall → DiscoveryService BranchStoreTypeManagementRecord
  | .assign now currentUser branchId payload =>
    database (StoreTypeManagement.assignBranchStoreType now currentUser branchId payload)
  | call => do
    let assignment ← database call.service
    DiscoveryCache.invalidateAll
    pure assignment

end CachedStoreTypeManagement

/-! ## Runs -/

/-- What an admin or a customer asks for. -/
inductive DiscoveryCall
  | create (now : Date) (currentUser : AuthenticatedUser) (payload : CreateStoreTypeDto)
  | update (now : Date) (currentUser : AuthenticatedUser) (storeTypeId : Id)
      (payload : UpdateStoreTypeDto)
  | archive (now : Date) (currentUser : AuthenticatedUser) (storeTypeId : Id)
  | activate (currentUser : AuthenticatedUser) (storeTypeId : Id)
  | branchStoreType (call : StoreTypeManagement.StoreTypeCall)
  /-- a customer looks for stores -/
  | find (earlyExpiry : Bool) (query : ListCustomerStoresQueryDto)
deriving DecidableEq

namespace DiscoveryCall

open CachedStoreTypeManagement CustomerStoreDiscovery

def service (rules : TextRules) : DiscoveryCall → DiscoveryService Unit
  | create now currentUser payload => discard (createStoreType rules now currentUser payload)
  | update now currentUser storeTypeId payload =>
    discard (updateStoreType now currentUser storeTypeId payload)
  | archive now currentUser storeTypeId => discard (archiveStoreType now currentUser storeTypeId)
  | activate currentUser storeTypeId => discard (activateStoreType currentUser storeTypeId)
  | branchStoreType call => discard (CachedStoreTypeManagement.branchStoreType call)
  | find earlyExpiry query => discard (findDiscoverableBranches rules earlyExpiry query)

/-- What there is after a call. -/
def run (rules : TextRules) (call : DiscoveryCall) (world : DiscoveryWorld) : DiscoveryWorld :=
  match call.service rules world with
  | .ok _ world' | .error _ world' => world'

end DiscoveryCall

end WerTe
