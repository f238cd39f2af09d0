import WerTe.BranchCatalog
import WerTe.DiscoveryTransparency
import WerTe.JsStrings
import WerTe.Keyed.Groups
import WerTe.Keyed.Tally

/-!
# What customers are led to

A customer who looks for stores gets a list of them, beside it how many there are of each store
type and in each township (`customer-store-facets.dto.ts`), and opens a store from the list, as a
whole or by one of its store types. What is promised on one page is found on the next:

* `facets_count_lists`: choosing a store type beside a list leads to a list of as many stores as
  were promised, and all are stores of that type
* `listed_stores_open`: every store of a list opens, by each of the store types that it is listed
  with, and what opens is what is listed
-/

namespace WerTe

open ReadCommitted StoreTypesRepository StoreTypeManagement CustomerStoreDiscovery

/-! ## `list-customer-stores-query.dto.ts` -/

inductive CustomerStoreSortBy
  | nameAsc | nameDesc | townshipAsc | townshipDesc | merchantNameAsc
deriving DecidableEq, Repr

/-! ## `customer-store-facets.dto.ts` -/

structure CustomerStoreTypeFacet where
  id : Id
  code : String
  name : String
  count : ℕ
deriving DecidableEq

structure CustomerTownshipFacet where
  township : String
  count : ℕ
deriving DecidableEq

structure CustomerStoreFacets where
  totalStoreCount : ℕ
  storeTypes : List CustomerStoreTypeFacet
  townships : List CustomerTownshipFacet
deriving DecidableEq

namespace CustomerStoreFacets

/-- The facets of the store types that are met, in a map keyed by the store type's id. -/
def storeTypeMap (storeTypes : List StoreTypeSummary) :
    Keyed.Table Id CustomerStoreTypeFacet :=
  Keyed.grouped (·.id) (fun storeType => ⟨storeType.id, storeType.code, storeType.name, 0 + 1⟩)
    (fun facet storeType => ⟨storeType.id, storeType.code, storeType.name, facet.count + 1⟩)
    storeTypes

/-- The facets of the townships, in a map keyed by the township. -/
def townshipMap (townships : List String) : Keyed.Table String CustomerTownshipFacet :=
  Keyed.grouped id (fun township => ⟨township, 0 + 1⟩)
    (fun facet township => ⟨township, facet.count + 1⟩) townships

end CustomerStoreFacets

/-- `localeCompare` is JavaScript's. The two maps are filled in one loop there. -/
def toCustomerStoreFacets (localeCompare : String → String → Ordering)
    (branches : List CustomerStoreDiscoveryRecord) : CustomerStoreFacets where
  totalStoreCount := branches.length
  storeTypes := ((CustomerStoreFacets.storeTypeMap
    (branches.flatMap fun branch => branch.storeTypes.map (·.storeType))).entries.map
      Prod.snd).insertionSort fun left right => localeCompare left.name right.name != .gt
  townships := ((CustomerStoreFacets.townshipMap (branches.map (·.township))).entries.map
    Prod.snd).insertionSort fun left right => localeCompare left.township right.township != .gt

/-! ## `customer-store-summary.dto.ts`, `customer-store-detail.dto.ts` -/

/-- The opening hours and the ratings of a store are left out. -/
structure CustomerStoreSummary where
  branchId : Id
  branchName : String
  merchantId : Id
  merchantName : String
  township : String
  primaryStoreType : Option StoreTypeSummary
  approvedStoreTypes : List StoreTypeSummary
deriving DecidableEq

def toCustomerStoreSummaryDto (rules : TextRules) (branch : CustomerStoreDiscoveryRecord)
    (preferredStoreTypeCodes : Option (List String)) : CustomerStoreSummary :=
  let approvedStoreTypes := branch.storeTypes.map (·.storeType)
  let preferred := (preferredStoreTypeCodes.getD []).map rules.toLowerCase
  { branchId := branch.id
    branchName := branch.name
    merchantId := branch.merchant.id
    merchantName := branch.merchant.name
    township := branch.township
    primaryStoreType := (approvedStoreTypes.find? fun storeType =>
      preferred.contains (rules.toLowerCase storeType.code)).or approvedStoreTypes.head?
    approvedStoreTypes := approvedStoreTypes }

structure CustomerStoreDetail where
  branchId : Id
  branchName : String
  merchantId : Id
  merchantName : String
  township : String
  branchStatus : BranchStatus
  primaryStoreType : Option StoreTypeSummary
  approvedStoreTypes : List StoreTypeSummary
  catalogEntries : List CustomerStoreTypeAssignment
  visibleCategoryCount : ℕ
  visibleItemCount : ℕ
deriving DecidableEq

def toCustomerStoreDetail (branch : CustomerStoreDiscoveryRecord) (catalog : BranchCatalog) :
    CustomerStoreDetail where
  branchId := branch.id
  branchName := branch.name
  merchantId := branch.merchant.id
  merchantName := branch.merchant.name
  township := branch.township
  branchStatus := branch.status
  primaryStoreType := (branch.storeTypes.map (·.storeType)).head?
  approvedStoreTypes := branch.storeTypes.map (·.storeType)
  catalogEntries := branch.storeTypes
  visibleCategoryCount := catalog.categories.length
  visibleItemCount := catalog.uncategorizedItems.length +
    (catalog.categories.map fun category => category.items.length).sum

structure CustomerStoreCatalogEntry where
  store : CustomerStoreDetail
  selectedCatalogEntry : CustomerStoreTypeAssignment
  catalog : BranchCatalog
deriving DecidableEq

/-! ## `customer-store-discovery.service.ts` -/

namespace CustomerStoreDiscovery

section Pages

variable (rules : TextRules) (localeCompare : String → String → Ordering)

/-- What is compared first, and what after it. -/
def compareBranches (sortBy : CustomerStoreSortBy) (left right : CustomerStoreDiscoveryRecord) :
    Ordering :=
  match sortBy with
  | .nameDesc => localeCompare right.name left.name
  | .townshipAsc =>
    (localeCompare left.township right.township).then (localeCompare left.name right.name)
  | .townshipDesc =>
    (localeCompare right.township left.township).then (localeCompare left.name right.name)
  | .merchantNameAsc =>
    (localeCompare left.merchant.name right.merchant.name).then
      (localeCompare left.name right.name)
  | .nameAsc => localeCompare left.name right.name

def sortBranches (branches : List CustomerStoreDiscoveryRecord)
    (sortBy : Option CustomerStoreSortBy) : List CustomerStoreDiscoveryRecord :=
  branches.insertionSort fun left right =>
    compareBranches localeCompare (sortBy.getD .nameAsc) left right != .gt

def toCustomerStoreSummary (selectedStoreTypeCodes : Option (List String))
    (branch : CustomerStoreDiscoveryRecord) : Except Failure CustomerStoreSummary :=
  if branch.storeTypes.length = 0 then
    .error (fail "Customer-visible store discovery record is missing approved store types."
      .internalServerError [("branchId", .id branch.id)])
  else .ok (toCustomerStoreSummaryDto rules branch selectedStoreTypeCodes)

def listDiscoverableStores (earlyExpiry : Bool) (query : ListCustomerStoresQueryDto)
    (sortBy : Option CustomerStoreSortBy) : DiscoveryService (List CustomerStoreSummary) := do
  let found ← findDiscoverableBranches rules earlyExpiry query
  Cached.ofExcept ((sortBranches localeCompare found.branches sortBy).mapM
    (toCustomerStoreSummary rules found.selectedStoreTypeCodes))

def getDiscoverableStoreFacets (earlyExpiry : Bool) (query : ListCustomerStoresQueryDto) :
    DiscoveryService CustomerStoreFacets := do
  let found ← findDiscoverableBranches rules earlyExpiry query
  pure (toCustomerStoreFacets localeCompare found.branches)

def assertCanDiscoverStores (currentUser : AuthenticatedUser) : DiscoveryService Unit :=
  Cached.require (currentUser.role = .customer)
    (fail "You are not allowed to discover customer stores." .forbidden)

/-- A list of one branch is never cached. -/
def findDiscoverableBranchOrThrow (branchId : Id) :
    DiscoveryService CustomerStoreDiscoveryRecord := do
  let found ← findDiscoverableBranches rules false { branchId := some branchId }
  Cached.orFail found.branches.head?
    (fail "Customer-visible store detail was not found." .notFound [("branchId", .id branchId)])

/-- The store type that is asked for, or the first. -/
def resolveSelectedCatalogEntry (branch : CustomerStoreDiscoveryRecord)
    (selectedStoreTypeCode : Option String) : Except Failure CustomerStoreTypeAssignment :=
  let selectedAssignment := match selectedStoreTypeCode with
    | none => branch.storeTypes.head?
    | some code => branch.storeTypes.find? fun assignment =>
      rules.toLowerCase assignment.storeType.code == code
  match selectedAssignment with
  | some assignment => .ok assignment
  | none => .error (fail
      "Customer-visible store catalog entry was not found for the requested store type." .notFound
      ([("branchId", .id branch.id)] ++
        (selectedStoreTypeCode.map fun code => ("storeTypeCode", Detail.text code)).toList))

variable (layout : MenuLayout) (menus : Id → Option BranchCatalogRecord)

/-- `menus` is what there is of the menus in Redis. -/
def getVisibleBranchCatalogOrThrow (branchId : Id) (storeTypeCode : Option String) :
    DiscoveryService BranchCatalog := do
  let catalog ← database (.get fun db => CustomerCatalogRead.getVisibleBranchCatalog rules layout
    (menus branchId) db branchId storeTypeCode)
  Cached.orFail catalog (fail "Customer-visible branch catalog was not found." .notFound)

def getDiscoverableStoreDetail (currentUser : AuthenticatedUser) (branchId : Id) :
    DiscoveryService CustomerStoreDetail := do
  assertCanDiscoverStores currentUser
  let branch ← findDiscoverableBranchOrThrow rules branchId
  let catalog ← getVisibleBranchCatalogOrThrow rules layout menus branchId none
  pure (toCustomerStoreDetail branch catalog)

def getDiscoverableStoreCatalogEntry (currentUser : AuthenticatedUser) (branchId : Id)
    (storeTypeCode : Option String) : DiscoveryService CustomerStoreCatalogEntry := do
  assertCanDiscoverStores currentUser
  let branch ← findDiscoverableBranchOrThrow rules branchId
  let selectedStoreTypeCode := (normalizeOptionalString storeTypeCode).map rules.toLowerCase
  let catalog ← getVisibleBranchCatalogOrThrow rules layout menus branchId selectedStoreTypeCode
  let selectedCatalogEntry ←
    Cached.ofExcept (resolveSelectedCatalogEntry rules branch selectedStoreTypeCode)
  pure ⟨toCustomerStoreDetail branch catalog, selectedCatalogEntry, catalog⟩

end Pages

end CustomerStoreDiscovery

/-! ## `create-store-type.dto.ts` -/

/-- A small letter or a digit. -/
def isCodeStart (c : Char) : Bool := c.isLower || c.isDigit

/-- `^[a-z0-9][a-z0-9_-]*$`. -/
def isStoreTypeCode (code : String) : Bool :=
  match code.toList with
  | [] => false
  | c :: cs => isCodeStart c && cs.all fun c => isCodeStart c || c == '_' || c == '-'

/-- The codes of the store types are as they are accepted, no two are the same, and none is the
word that stands for all of them in the cache. -/
structure StoreTypeCodes (db : Store) : Prop where
  accepted : ∀ id (storeType : StoreType), db.get (.storeType, id) = some storeType →
    isStoreTypeCode storeType.code = true ∧ storeType.code ≠ "all"
  unique : ∀ id id' (storeType storeType' : StoreType), db.get (.storeType, id) = some storeType →
    db.get (.storeType, id') = some storeType' → storeType.code = storeType'.code → id = id'

/-- An accepted code has no capital letters. -/
def TextRules.KeepCodes (rules : TextRules) : Prop :=
  ∀ code, isStoreTypeCode code = true → rules.toLowerCase code = code

section Codes

variable {code : String}

theorem isStoreTypeCode_chars (h : isStoreTypeCode code = true) {c : Char}
    (hc : c ∈ code.toList) : isCodeStart c = true ∨ c = '_' ∨ c = '-' := by
  rw [isStoreTypeCode] at h
  split at h
  case h_1 => cases h
  case h_2 first rest hlist =>
    simp only [Bool.and_eq_true, List.all_eq_true, Bool.or_eq_true, beq_iff_eq] at h
    rw [hlist, List.mem_cons] at hc
    obtain rfl | hc := hc
    · exact .inl h.1
    · exact (h.2 c hc).elim (fun h => h.imp_right .inl) fun h => .inr (.inr h)

theorem isStoreTypeCode_notMem {c : Char} (h : isStoreTypeCode code = true)
    (hstart : isCodeStart c = false) (hbar : c ≠ '_') (hdash : c ≠ '-') : c ∉ code.toList := by
  intro hc
  obtain hstart' | rfl | rfl := isStoreTypeCode_chars h hc
  · rw [hstart] at hstart'
    cases hstart'
  · exact hbar rfl
  · exact hdash rfl

theorem isStoreTypeCode_ne (h : isStoreTypeCode code = true) : code ≠ "" := by
  rintro rfl
  cases h

theorem isJsSpace_of_isLower {c : Char} (h : c.isLower = true) : isJsSpace c = false := by
  simp only [Char.isLower, Bool.and_eq_true, decide_eq_true_eq, ge_iff_le, UInt32.le_iff_toNat_le]
    at h
  simp only [isJsSpace, List.mem_cons, List.not_mem_nil, or_false, Bool.or_eq_false_iff,
    decide_eq_false_iff_not, Bool.and_eq_false_iff, UInt32.le_iff_toNat_le, ← UInt32.toNat_inj]
  have hlow : 'a'.val.toNat = 97 := rfl
  have hhigh : 'z'.val.toNat = 122 := rfl
  simp only [hlow, hhigh] at h
  simp only [UInt32.reduceToNat]
  omega

theorem isStoreTypeCode_trim (h : isStoreTypeCode code = true) : trim code = code := by
  refine Trimmed.trim_eq_self fun c hc => ?_
  obtain hstart | rfl | rfl := isStoreTypeCode_chars h
    (hc.elim List.mem_of_mem_head? List.mem_of_mem_getLast?)
  · exact (Bool.or_eq_true_iff.mp hstart).elim isJsSpace_of_isLower isJsSpace_of_isDigit
  · decide
  · decide

end Codes

/-! ## What is listed -/

namespace CustomerStoreDiscovery

section Listed

variable {rules : TextRules} {filter : DiscoveryFilter} {db : Store}
  {record : CustomerStoreDiscoveryRecord} {row : Id × Branch}

theorem discover_eq_some : discover rules filter db row = some record ↔
    ∃ merchant, db.get (.merchant, row.2.merchantId) = some merchant ∧
      meetsFilter rules filter row.1 row.2 merchant = true ∧
      (∃ shown ∈ visibleStoreTypes db row.1, hasCode filter shown.storeType.code = true) ∧
      includeDiscovery db row.1 row.2 merchant = record := by
  rw [discover, Option.bind_eq_some_iff]
  refine exists_congr fun merchant => and_congr_right fun _ => ?_
  rw [Option.ite_none_right_eq_some, List.any_eq_true, Option.some.injEq, and_assoc]

theorem listed_perm : (listCustomerDiscoverableBranches rules filter db).Perm
    ((db.list .branch fun _ => true).filterMap (discover rules filter db)) := by
  refine ((List.perm_insertionSort _ _).filterMap _).trans (.of_eq ?_)
  rw [List.filterMap_filter]
  refine List.filterMap_congr fun row _ => ?_
  cases discover rules filter db row <;> rfl

theorem mem_listed : record ∈ listCustomerDiscoverableBranches rules filter db ↔
    ∃ branch merchant, db.get (.branch, record.id) = some branch ∧
      db.get (.merchant, branch.merchantId) = some merchant ∧
      meetsFilter rules filter record.id branch merchant = true ∧
      (∃ shown ∈ visibleStoreTypes db record.id, hasCode filter shown.storeType.code = true) ∧
      includeDiscovery db record.id branch merchant = record := by
  rw [listed_perm.mem_iff, List.mem_filterMap]
  constructor
  · rintro ⟨⟨id, branch⟩, hrow, hdiscover⟩
    obtain ⟨merchant, hmerchant, hmeets, hshown, rfl⟩ := discover_eq_some.mp hdiscover
    exact ⟨branch, merchant, (Db.mem_list.mp hrow).1, hmerchant, hmeets, hshown, rfl⟩
  · rintro ⟨branch, merchant, hbranch, hdiscover⟩
    exact ⟨(record.id, branch), Db.mem_list.mpr ⟨hbranch, rfl⟩,
      discover_eq_some.mpr ⟨merchant, hdiscover⟩⟩

/-- What is listed has a store type by which it is listed. -/
theorem storeTypes_of_listed (h : record ∈ listCustomerDiscoverableBranches rules filter db) :
    ∃ assignment ∈ record.storeTypes, hasCode filter assignment.storeType.code = true := by
  obtain ⟨branch, merchant, -, -, -, ⟨shown, hshown, hcode⟩, hrecord⟩ := mem_listed.mp h
  rw [← hrecord]
  exact ⟨_, List.mem_map_of_mem hshown, hcode⟩

/-- The pages leave nothing out of what the repository lists. -/
theorem findUncached_branches (query : ListCustomerStoresQueryDto) :
    (findUncached rules query db).branches =
      listCustomerDiscoverableBranches rules (toFilter rules query) db := by
  refine List.filter_eq_self.mpr fun record hrecord => decide_eq_true ?_
  obtain ⟨assignment, hassignment, -⟩ := storeTypes_of_listed hrecord
  exact List.length_pos_of_mem hassignment

/-- The store's record has a store type with this code. -/
def hasStoreTypeCode (code : String) (record : CustomerStoreDiscoveryRecord) : Bool :=
  record.storeTypes.any fun assignment => assignment.storeType.code == code

/-- Who asks for a code gets those that have it, of all that are listed without. -/
theorem discover_code (hnone : filter.storeTypeCodes = none) (code : String) :
    discover rules { filter with storeTypeCodes := some [code] } db row =
      (discover rules filter db row).filter (hasStoreTypeCode code) := by
  refine Option.ext fun record => ?_
  rw [Option.filter_eq_some_iff, discover_eq_some, discover_eq_some]
  constructor
  · rintro ⟨merchant, hmerchant, hmeets, ⟨shown, hshown, hcode⟩, rfl⟩
    refine ⟨⟨merchant, hmerchant, hmeets, ⟨shown, hshown, by rw [hasCode, hnone]; rfl⟩, rfl⟩, ?_⟩
    refine List.any_eq_true.mpr ⟨_, List.mem_map_of_mem hshown, ?_⟩
    simpa [hasCode] using hcode
  · rintro ⟨⟨merchant, hmerchant, hmeets, -, rfl⟩, hcode⟩
    obtain ⟨assignment, hassignment, heq⟩ := List.any_eq_true.mp hcode
    obtain ⟨shown, hshown, rfl⟩ := List.mem_map.mp hassignment
    exact ⟨merchant, hmerchant, hmeets, ⟨shown, hshown, by simpa [hasCode] using heq⟩, rfl⟩

theorem listed_code_perm (hnone : filter.storeTypeCodes = none) (code : String) :
    (listCustomerDiscoverableBranches rules { filter with storeTypeCodes := some [code] } db).Perm
      ((listCustomerDiscoverableBranches rules filter db).filter (hasStoreTypeCode code)) := by
  refine listed_perm.trans (.trans (.of_eq ?_) (listed_perm.filter _).symm)
  rw [List.filter_filterMap]
  exact List.filterMap_congr fun row _ => discover_code hnone code

end Listed

/-! ### The store types of a branch -/

section Shown

variable {db : Store} {b : Id}

theorem mem_visibleStoreTypes {shown : BranchStoreTypeManagementRecord}
    (h : shown ∈ visibleStoreTypes db b) :
    db.get (.storeType, shown.assignment.storeTypeId) = some shown.storeType := by
  have hlisted := List.mem_of_mem_filter h
  rw [listApprovedBranchStoreTypes, List.mem_insertionSort, List.mem_filterMap] at hlisted
  obtain ⟨row, -, hinclude⟩ := hlisted
  obtain ⟨storeType, hstore, rfl⟩ := Option.map_eq_some_iff.mp hinclude
  exact hstore

/-- A branch is listed with a store type once. -/
theorem visibleStoreTypes_nodup (h : AssignmentKeys db) :
    ((visibleStoreTypes db b).map (·.assignment.storeTypeId)).Nodup := by
  -- the rows of the branch that have one store type have one key
  have hrows : (db.list .branchStoreType (approvedOf b)).Pairwise
      fun left right => (left.2 : BranchStoreType).storeTypeId ≠ right.2.storeTypeId := by
    refine (List.pairwise_map.mp (Db.list_nodup ..)).imp_of_mem
      fun {left right} hleft hright hne heq => hne ?_
    obtain ⟨hget, happroved⟩ := Db.mem_list.mp hleft
    obtain ⟨hget', happroved'⟩ := Db.mem_list.mp hright
    have hbranch : left.2.branchId = right.2.branchId := by
      rw [eq_of_beq (Bool.and_eq_true_iff.mp happroved).1,
        eq_of_beq (Bool.and_eq_true_iff.mp happroved').1]
    rw [(h _ _ hget).1, (h _ _ hget').1, hbranch, heq]
  have hrecords : ((db.list .branchStoreType (approvedOf b)).filterMap fun row =>
      includeStoreType db row.2).Pairwise
        fun left right => left.assignment.storeTypeId ≠ right.assignment.storeTypeId := by
    refine hrows.filterMap _ fun left right hne record hrecord record' hrecord' => ?_
    obtain ⟨_, -, rfl⟩ := Option.map_eq_some_iff.mp hrecord
    obtain ⟨_, -, rfl⟩ := Option.map_eq_some_iff.mp hrecord'
    exact hne
  refine List.pairwise_map.mpr (List.Pairwise.filter _ ?_)
  exact ((List.perm_insertionSort _ _).pairwise_iff fun hne => Ne.symm hne).mpr hrecords

section Records

variable {rules : TextRules} {filter : DiscoveryFilter} {record : CustomerStoreDiscoveryRecord}
  (hlisted : record ∈ listCustomerDiscoverableBranches rules filter db)
include hlisted

theorem storeType_of_mem {assignment : CustomerStoreTypeAssignment}
    (h : assignment ∈ record.storeTypes) : ∃ storeType : StoreType,
      db.get (.storeType, assignment.storeType.id) = some storeType ∧
        assignment.storeType = ⟨assignment.storeType.id, storeType.code, storeType.name,
          storeType.sortOrder⟩ := by
  obtain ⟨branch, merchant, -, -, -, -, hrecord⟩ := mem_listed.mp hlisted
  rw [← hrecord] at h
  obtain ⟨shown, hshown, rfl⟩ := List.mem_map.mp h
  exact ⟨shown.storeType, mem_visibleStoreTypes hshown, rfl⟩

theorem storeTypes_nodup (hkeys : AssignmentKeys db) :
    (record.storeTypes.map (·.storeType.id)).Nodup := by
  obtain ⟨branch, merchant, -, -, -, -, hrecord⟩ := mem_listed.mp hlisted
  have hnodup := visibleStoreTypes_nodup (b := record.id) hkeys
  rw [← hrecord]
  simpa [includeDiscovery, Function.comp_def] using hnodup

variable (hcodes : StoreTypeCodes db) {id : Id} {storeType : StoreType}
  (hstoreType : db.get (.storeType, id) = some storeType)
include hcodes hstoreType

/-- A code stands for one store type. -/
theorem hasStoreTypeCode_iff : hasStoreTypeCode storeType.code record = true ↔
    id ∈ record.storeTypes.map (·.storeType.id) := by
  rw [hasStoreTypeCode, List.any_eq_true, List.mem_map]
  refine exists_congr fun assignment => and_congr_right fun hassignment => ?_
  obtain ⟨storeType', hstoreType', heq⟩ := storeType_of_mem hlisted hassignment
  rw [beq_iff_eq]
  constructor
  · intro hcode
    rw [heq] at hcode
    exact hcodes.unique _ _ _ _ hstoreType' hstoreType hcode
  · rintro rfl
    rw [heq, Option.some.inj (hstoreType.symm.trans hstoreType')]

theorem countP_storeTypes (hkeys : AssignmentKeys db) :
    (record.storeTypes.map (·.storeType)).countP (·.id = id) =
      if hasStoreTypeCode storeType.code record = true then 1 else 0 := by
  have hcount : (record.storeTypes.map (·.storeType)).countP (·.id = id) =
      (record.storeTypes.map (·.storeType.id)).count id := by
    rw [List.count, List.countP_map, List.countP_map]
    rfl
  rw [hcount]
  have hiff := hasStoreTypeCode_iff hlisted hcodes hstoreType
  split
  case isTrue h => exact List.count_eq_one_of_mem (storeTypes_nodup hlisted hkeys) (hiff.mp h)
  case isFalse h => exact List.count_eq_zero_of_not_mem fun hmem => h (hiff.mpr hmem)

end Records

end Shown

end CustomerStoreDiscovery

/-! ## The facets -/

namespace CustomerStoreFacets

section Counted

variable {localeCompare : String → String → Ordering}
  {branches : List CustomerStoreDiscoveryRecord} {storeTypes : List StoreTypeSummary}
  {facet : CustomerStoreTypeFacet}

theorem storeTypeMap_get {id : Id} (h : (storeTypeMap storeTypes).get id = some facet) :
    facet.id = id ∧ ∃ storeType ∈ storeTypes, storeType.id = id ∧ storeType.code = facet.code := by
  refine Keyed.of_get_grouped_of_mem (P := fun id (facet : CustomerStoreTypeFacet) =>
    facet.id = id ∧ ∃ storeType ∈ storeTypes, storeType.id = id ∧ storeType.code = facet.code)
    ?_ ?_ h
  · exact fun storeType hmem => ⟨rfl, storeType, hmem, rfl, rfl⟩
  · exact fun storeType hmem _ _ => ⟨rfl, storeType, hmem, rfl, rfl⟩

theorem storeTypeMap_count (h : (storeTypeMap storeTypes).get facet.id = some facet) :
    facet.count = storeTypes.countP (·.id = facet.id) := by
  have hcount : ((storeTypeMap storeTypes).get facet.id).elim 0 (·.count) =
      storeTypes.countP (·.id = facet.id) :=
    Keyed.count_get_grouped CustomerStoreTypeFacet.count (fun _ => by rfl) (fun _ _ => by rfl)
      storeTypes facet.id
  rw [← hcount, h, Option.elim_some]

/-- The store types that are met, each once. -/
def storeTypesOf (branches : List CustomerStoreDiscoveryRecord) : List StoreTypeSummary :=
  branches.flatMap fun branch => branch.storeTypes.map (·.storeType)

theorem mem_storeTypes : facet ∈ (toCustomerStoreFacets localeCompare branches).storeTypes ↔
    (storeTypeMap (storeTypesOf branches)).get facet.id = some facet := by
  have hsorted : facet ∈ (toCustomerStoreFacets localeCompare branches).storeTypes ↔
      facet ∈ (storeTypeMap (storeTypesOf branches)).entries.map Prod.snd :=
    List.mem_insertionSort _
  rw [hsorted, List.mem_map]
  constructor
  · rintro ⟨⟨id, facet'⟩, hentry, rfl⟩
    have hget := (Keyed.Table.mem_iff_get _).mp hentry
    rw [(storeTypeMap_get hget).1]
    exact hget
  · exact fun hget => ⟨(facet.id, facet), (Keyed.Table.mem_iff_get _).mpr hget, rfl⟩

theorem count_pos (h : facet ∈ (toCustomerStoreFacets localeCompare branches).storeTypes) :
    0 < facet.count := by
  have hget := mem_storeTypes.mp h
  obtain ⟨-, storeType, hmem, hid, -⟩ := storeTypeMap_get hget
  rw [storeTypeMap_count hget, List.countP_pos_iff]
  exact ⟨storeType, hmem, decide_eq_true hid⟩

theorem storeTypes_nodup :
    ((toCustomerStoreFacets localeCompare branches).storeTypes.map (·.id)).Nodup := by
  have hids : ((storeTypeMap (storeTypesOf branches)).entries.map Prod.snd).map (·.id) =
      (storeTypeMap (storeTypesOf branches)).entries.map Prod.fst := by
    rw [List.map_map]
    exact List.map_congr_left fun entry hentry =>
      (storeTypeMap_get ((Keyed.Table.mem_iff_get _).mp hentry)).1
  have hsorted : ((toCustomerStoreFacets localeCompare branches).storeTypes.map (·.id)).Perm
      (((storeTypeMap (storeTypesOf branches)).entries.map Prod.snd).map (·.id)) :=
    (List.perm_insertionSort _ _).map _
  rw [hsorted.nodup_iff, hids]
  exact (storeTypeMap _).nodup

theorem townshipMap_count {townships : List String} {entry : String × CustomerTownshipFacet}
    (h : entry ∈ (townshipMap townships).entries) :
    entry.2.count = (townships.filter (id · = entry.1)).countP fun _ => true := by
  have hcount : ((townshipMap townships).get entry.1).elim 0 (·.count) =
      townships.countP (id · = entry.1) :=
    Keyed.count_get_grouped CustomerTownshipFacet.count (fun _ => by rfl) (fun _ _ => by rfl)
      townships entry.1
  rw [List.countP_true, ← List.countP_eq_length_filter, ← hcount,
    (Keyed.Table.mem_iff_get _).mp h, Option.elim_some]

theorem sum_townshipMap (townships : List String) :
    ((townshipMap townships).entries.map (·.2.count)).sum = townships.length := by
  have hcounts : (townshipMap townships).entries.map (·.2.count) =
      ((townshipMap townships).entries.map Prod.fst).map fun township =>
        (townships.filter (id · = township)).countP fun _ => true := by
    rw [List.map_map]
    exact List.map_congr_left fun entry hentry => townshipMap_count hentry
  have hkeys : ∀ township ∈ townships,
      id township ∈ (townshipMap townships).entries.map Prod.fst := by
    intro township hmem
    obtain ⟨facet, hget⟩ : ∃ facet, (townshipMap townships).get (id township) = some facet :=
      Keyed.get_grouped_isSome hmem
    exact List.mem_map.mpr ⟨_, (Keyed.Table.mem_iff_get _).mpr hget, rfl⟩
  rw [hcounts, Keyed.sum_countP_filter (townshipMap _).nodup hkeys, List.countP_true]

/-- Every store is counted in one township. -/
theorem sum_townships : ((toCustomerStoreFacets localeCompare branches).townships.map
    (·.count)).sum = branches.length := by
  have hsorted : ((toCustomerStoreFacets localeCompare branches).townships.map (·.count)).Perm
      (((townshipMap (branches.map (·.township))).entries.map Prod.snd).map (·.count)) :=
    (List.perm_insertionSort _ _).map _
  rw [hsorted.sum_eq, List.map_map]
  exact (sum_townshipMap _).trans (List.length_map _)

end Counted

end CustomerStoreFacets

/-! ## The pages -/

namespace CustomerStoreDiscovery

/-- What the cache is asked for, by texts that its keys tell apart. -/
def AskedPlainly (filter : DiscoveryFilter) : Prop :=
  DiscoveryCache.isCacheable filter = true ∧ PlainQuestion filter

section Lists

variable {rules : TextRules} {localeCompare : String → String → Ordering}
  {world : DiscoveryWorld} {query : ListCustomerStoresQueryDto}

theorem apart_askedPlainly :
    Cached.Apart (loadList rules) DiscoveryCache.listKey AskedPlainly := by
  intro filter filter' hasked hasked' hkey db
  exact congrArg some
    (listed_eq_of_sameQuestion hasked.1 hasked'.1 (hasked.2.sameQuestion hasked'.2 hkey) db)

/-- The stores of a list. -/
def summaries (rules : TextRules) (localeCompare : String → String → Ordering)
    (query : ListCustomerStoresQueryDto) (sortBy : Option CustomerStoreSortBy) (db : Store) :
    List CustomerStoreSummary :=
  (sortBranches localeCompare
    (listCustomerDiscoverableBranches rules (toFilter rules query) db) sortBy).map
      fun branch => toCustomerStoreSummaryDto rules branch (toFilter rules query).storeTypeCodes

theorem mem_summaries {sortBy : Option CustomerStoreSortBy} {db : Store}
    {store : CustomerStoreSummary} : store ∈ summaries rules localeCompare query sortBy db ↔
      ∃ branch ∈ listCustomerDiscoverableBranches rules (toFilter rules query) db,
        toCustomerStoreSummaryDto rules branch (toFilter rules query).storeTypeCodes = store := by
  rw [summaries, List.mem_map]
  exact exists_congr fun branch => and_congr_left fun _ => List.mem_insertionSort _

theorem length_summaries {sortBy : Option CustomerStoreSortBy} {db : Store} :
    (summaries rules localeCompare query sortBy db).length =
      (listCustomerDiscoverableBranches rules (toFilter rules query) db).length := by
  rw [summaries, List.length_map]
  exact (List.perm_insertionSort _ _).length_eq

/-- No store of a list is without store types. -/
theorem toCustomerStoreSummaries_eq {codes : Option (List String)}
    {branches : List CustomerStoreDiscoveryRecord}
    (h : ∀ branch ∈ branches, branch.storeTypes.length ≠ 0) :
    branches.mapM (toCustomerStoreSummary rules codes) =
      .ok (branches.map fun branch => toCustomerStoreSummaryDto rules branch codes) := by
  induction branches with
  | nil => rfl
  | cons branch branches ih =>
    obtain ⟨hbranch, hrest⟩ := List.forall_mem_cons.mp h
    rw [List.mapM_cons, toCustomerStoreSummary, if_neg hbranch, ih hrest]
    rfl

section Fresh

variable (hfresh : ListsFresh rules AskedPlainly world)
  (hplain : DiscoveryCache.isCacheable (toFilter rules query) = true →
    PlainQuestion (toFilter rules query))
include hfresh hplain

theorem listDiscoverableStores_ends (earlyExpiry : Bool) (sortBy : Option CustomerStoreSortBy) :
    Cached.Ends (listDiscoverableStores rules localeCompare earlyExpiry query sortBy) world
      fun r world' => r = .ok (summaries rules localeCompare query sortBy world.data) ∧
        world'.data = world.data ∧ ListsFresh rules AskedPlainly world' := by
  refine .bind ((findDiscoverableBranches_ends apart_askedPlainly hfresh
    (fun hcacheable => ⟨hcacheable, hplain hcacheable⟩) earlyExpiry).mono ?_)
  rintro r world' ⟨rfl, hdata, hfresh'⟩
  refine .ofExcept ⟨?_, hdata, hfresh'⟩
  rw [findUncached_branches]
  refine toCustomerStoreSummaries_eq fun branch hbranch => ?_
  obtain ⟨assignment, hassignment, -⟩ :=
    storeTypes_of_listed ((List.mem_insertionSort _).mp hbranch)
  exact (List.length_pos_of_mem hassignment).ne'

theorem getDiscoverableStoreFacets_ends (earlyExpiry : Bool) :
    Cached.Ends (getDiscoverableStoreFacets rules localeCompare earlyExpiry query) world
      fun r world' => r = .ok (toCustomerStoreFacets localeCompare
          (listCustomerDiscoverableBranches rules (toFilter rules query) world.data)) ∧
        world'.data = world.data ∧ ListsFresh rules AskedPlainly world' := by
  refine .bind ((findDiscoverableBranches_ends apart_askedPlainly hfresh
    (fun hcacheable => ⟨hcacheable, hplain hcacheable⟩) earlyExpiry).mono ?_)
  rintro r world' ⟨rfl, hdata, hfresh'⟩
  refine .ret ⟨?_, hdata, hfresh'⟩
  rw [findUncached_branches]

end Fresh

/-! ### From the facets to a list -/

/-- Nothing is asked of the store types, and the township is one that the cache can tell from
none. -/
structure AsksForAll (query : ListCustomerStoresQueryDto) : Prop where
  storeTypeCode : query.storeTypeCode = none
  storeTypeCodes : query.storeTypeCodes = none
  township : normalizeOptionalString query.township ≠ some "all"

theorem AsksForAll.codes_eq_none (h : AsksForAll query) :
    (toFilter rules query).storeTypeCodes = none := by
  rw [toFilter, h.storeTypeCode, h.storeTypeCodes]
  rfl

theorem AsksForAll.plain (h : AsksForAll query) : PlainQuestion (toFilter rules query) := by
  refine ⟨h.township, fun storeTypeCodes hsome => ?_⟩
  rw [h.codes_eq_none] at hsome
  cases hsome

theorem AsksForAll.toFilter_code (h : AsksForAll query) (hkeep : rules.KeepCodes) {code : String}
    (hcode : isStoreTypeCode code = true) :
    toFilter rules { query with storeTypeCode := some code } =
      { toFilter rules query with storeTypeCodes := some [code] } := by
  have hne : code ≠ "" := isStoreTypeCode_ne hcode
  have hlength : 0 < code.length := Nat.pos_of_ne_zero fun hzero =>
    hne (String.length_eq_zero_iff.mp hzero)
  have hcodes : normalizeStoreTypeCodes rules (some code) none = some [code] := by
    simp [normalizeStoreTypeCodes, normalizeOptionalString, isStoreTypeCode_trim hcode, hne,
      hkeep code hcode, hlength, List.eraseDups_cons]
  simp only [toFilter, h.storeTypeCodes, hcodes]

theorem AsksForAll.plain_code (h : AsksForAll query) (hkeep : rules.KeepCodes) {code : String}
    (hcode : isStoreTypeCode code = true) (hall : code ≠ "all") :
    PlainQuestion (toFilter rules { query with storeTypeCode := some code }) := by
  rw [h.toFilter_code hkeep hcode]
  refine ⟨h.township, fun storeTypeCodes hsome => ?_⟩
  obtain rfl := Option.some.inj hsome
  refine ⟨by simp, by simpa using hall, fun code' hcode' => ?_⟩
  rw [List.mem_singleton.mp hcode']
  exact ⟨isStoreTypeCode_notMem hcode (by decide) (by decide) (by decide),
    isStoreTypeCode_notMem hcode (by decide) (by decide) (by decide)⟩

/-- Choosing the facet leads to as many stores as it has promised, and all of them are presented
as stores of its type. -/
def LeadsToList (rules : TextRules) (localeCompare : String → String → Ordering)
    (query : ListCustomerStoresQueryDto) (world : DiscoveryWorld) (facet : CustomerStoreTypeFacet) :
    Prop :=
  ∀ earlyExpiry sortBy, Cached.Ends (listDiscoverableStores rules localeCompare earlyExpiry
    { query with storeTypeCode := some facet.code } sortBy) world fun r _ =>
      ∃ stores, r = .ok stores ∧ stores.length = facet.count ∧
        ∀ store ∈ stores, store.primaryStoreType.map (·.id) = some facet.id

/-- The list beside the facets has the stores that are counted, and none with a store type that
has no facet. -/
def CountsList (rules : TextRules) (localeCompare : String → String → Ordering)
    (query : ListCustomerStoresQueryDto) (world : DiscoveryWorld) (facets : CustomerStoreFacets) :
    Prop :=
  ∀ earlyExpiry sortBy, Cached.Ends (listDiscoverableStores rules localeCompare earlyExpiry query
    sortBy) world fun r _ => ∃ stores, r = .ok stores ∧ stores.length = facets.totalStoreCount ∧
      ∀ store ∈ stores, ∀ storeType ∈ store.approvedStoreTypes,
        ∃ facet ∈ facets.storeTypes, facet.id = storeType.id ∧ facet.code = storeType.code

/-- What a customer who is shown the facets may rely on. -/
structure FacetsTell (rules : TextRules) (localeCompare : String → String → Ordering)
    (query : ListCustomerStoresQueryDto) (world : DiscoveryWorld) (facets : CustomerStoreFacets) :
    Prop where
  list : CountsList rules localeCompare query world facets
  townships : (facets.townships.map (·.count)).sum = facets.totalStoreCount
  once : (facets.storeTypes.map (·.id)).Nodup
  counted : ∀ facet ∈ facets.storeTypes, 0 < facet.count
  leads : ∀ facet ∈ facets.storeTypes, LeadsToList rules localeCompare query world facet

section Counts

open CustomerStoreFacets

variable {filter : DiscoveryFilter} {db : Store} {facet : CustomerStoreTypeFacet}

theorem storeType_of_summary {summary : StoreTypeSummary}
    (h : summary ∈ storeTypesOf (listCustomerDiscoverableBranches rules filter db)) :
    ∃ storeType : StoreType, db.get (.storeType, summary.id) = some storeType ∧
      summary.code = storeType.code := by
  obtain ⟨branch, hbranch, hmem⟩ := List.mem_flatMap.mp h
  obtain ⟨assignment, hassignment, rfl⟩ := List.mem_map.mp hmem
  obtain ⟨storeType, hstoreType, heq⟩ := storeType_of_mem hbranch hassignment
  exact ⟨storeType, hstoreType, by rw [heq]⟩

/-- What a facet stands for. -/
theorem storeType_of_facet (h : facet ∈ (toCustomerStoreFacets localeCompare
    (listCustomerDiscoverableBranches rules filter db)).storeTypes) :
    ∃ storeType : StoreType, db.get (.storeType, facet.id) = some storeType ∧
      facet.code = storeType.code := by
  obtain ⟨-, summary, hsummary, hid, hcode⟩ := storeTypeMap_get (mem_storeTypes.mp h)
  obtain ⟨storeType, hstoreType, heq⟩ := storeType_of_summary hsummary
  rw [hid] at hstoreType
  exact ⟨storeType, hstoreType, hcode.symm.trans heq⟩

/-- Every store type that is met has its facet. -/
theorem exists_facet {summary : StoreTypeSummary}
    (h : summary ∈ storeTypesOf (listCustomerDiscoverableBranches rules filter db)) :
    ∃ facet ∈ (toCustomerStoreFacets localeCompare
      (listCustomerDiscoverableBranches rules filter db)).storeTypes,
        facet.id = summary.id ∧ facet.code = summary.code := by
  obtain ⟨facet, hget⟩ : ∃ facet, (storeTypeMap (storeTypesOf _)).get summary.id = some facet :=
    Keyed.get_grouped_isSome h
  obtain ⟨hid, summary', hsummary', hid', hcode'⟩ := storeTypeMap_get hget
  obtain ⟨storeType, hstoreType, hcode⟩ := storeType_of_summary h
  obtain ⟨storeType', hstoreType', hcode''⟩ := storeType_of_summary hsummary'
  rw [hid', hstoreType, Option.some.injEq] at hstoreType'
  refine ⟨facet, mem_storeTypes.mpr (hid.symm ▸ hget), hid, ?_⟩
  rw [← hcode', hcode'', hcode, hstoreType']

/-- A facet counts the branches that have its code. -/
theorem count_of_facet (hkeys : AssignmentKeys db) (hcodes : StoreTypeCodes db)
    {storeType : StoreType} (hstoreType : db.get (.storeType, facet.id) = some storeType)
    (h : facet ∈ (toCustomerStoreFacets localeCompare
      (listCustomerDiscoverableBranches rules filter db)).storeTypes) :
    facet.count = ((listCustomerDiscoverableBranches rules filter db).filter
      (hasStoreTypeCode storeType.code)).length := by
  have hbranches : ((listCustomerDiscoverableBranches rules filter db).filter
      (hasStoreTypeCode storeType.code)).length =
        ((listCustomerDiscoverableBranches rules filter db).map
          fun branch => if hasStoreTypeCode storeType.code branch = true then 1 else 0).sum := by
    rw [Keyed.sum_map_one_iff, ← List.countP_eq_length_filter]
    simp
  rw [storeTypeMap_count (mem_storeTypes.mp h), storeTypesOf, List.countP_flatMap, hbranches]
  refine congrArg List.sum (List.map_congr_left fun branch hbranch => ?_)
  exact countP_storeTypes hbranch hcodes hstoreType hkeys

end Counts

/-- A store with one of the codes that are asked for is presented by such a store type. -/
theorem primaryStoreType_preferred (rules : TextRules) {branch : CustomerStoreDiscoveryRecord}
    {codes : List String}
    (h : ∃ assignment ∈ branch.storeTypes, assignment.storeType.code ∈ codes) :
    ∃ assignment ∈ branch.storeTypes,
      (toCustomerStoreSummaryDto rules branch (some codes)).primaryStoreType =
        some assignment.storeType ∧
      ∃ code ∈ codes, rules.toLowerCase code = rules.toLowerCase assignment.storeType.code := by
  obtain ⟨assignment, hassignment, hcode⟩ := h
  cases hfind : (branch.storeTypes.map (·.storeType)).find? fun storeType =>
      (codes.map rules.toLowerCase).contains (rules.toLowerCase storeType.code) with
  | none =>
    have hnot := List.find?_eq_none.mp hfind _ (List.mem_map_of_mem hassignment)
    refine absurd ?_ hnot
    exact List.contains_iff_mem.mpr (List.mem_map_of_mem hcode)
  | some storeType =>
    obtain ⟨preferred, hpreferred, rfl⟩ := List.mem_map.mp (List.mem_of_find?_eq_some hfind)
    refine ⟨preferred, hpreferred, ?_, ?_⟩
    · simp only [toCustomerStoreSummaryDto, Option.getD_some]
      rw [hfind]
      rfl
    · have hcontains := List.find?_some hfind
      exact List.mem_map.mp (List.contains_iff_mem.mp hcontains)

/-- Who asks for a store type's code is shown stores of the store type. -/
theorem primaryStoreType_of_code (hkeep : rules.KeepCodes) {db : Store} (hcodes : StoreTypeCodes db)
    {filter : DiscoveryFilter} {branch : CustomerStoreDiscoveryRecord} {id : Id}
    {storeType : StoreType} (hstoreType : db.get (.storeType, id) = some storeType)
    (hcode : filter.storeTypeCodes = some [storeType.code])
    (h : branch ∈ listCustomerDiscoverableBranches rules filter db) :
    (toCustomerStoreSummaryDto rules branch filter.storeTypeCodes).primaryStoreType.map (·.id) =
      some id := by
  obtain ⟨assignment, hassignment, hhas⟩ := storeTypes_of_listed h
  rw [hasCode, hcode, Option.all_some, List.contains_iff_mem] at hhas
  obtain ⟨preferred, hpreferred, hprimary, code, hmem, hlower⟩ :=
    primaryStoreType_preferred rules ⟨assignment, hassignment, hhas⟩
  obtain ⟨storeType', hstoreType', heq⟩ := storeType_of_mem h hpreferred
  have hcode' : storeType'.code = storeType.code := by
    rw [heq, List.mem_singleton.mp hmem, hkeep _ (hcodes.accepted _ _ hstoreType).1,
      hkeep _ (hcodes.accepted _ _ hstoreType').1] at hlower
    exact hlower.symm
  rw [hcode, hprimary, Option.map_some, hcodes.unique _ _ _ _ hstoreType' hstoreType hcode']

/-- **Facets tell what lists show**: of every query that leaves the store types open, the facets
are of exactly the stores of the list, and each leads to a list of as many stores as it counts. -/
theorem facets_count_lists (hkeep : rules.KeepCodes) (hkeys : AssignmentKeys world.data)
    (hcodes : StoreTypeCodes world.data) (hfresh : ListsFresh rules AskedPlainly world)
    (hall : AsksForAll query) (earlyExpiry : Bool) :
    Cached.Ends (getDiscoverableStoreFacets rules localeCompare earlyExpiry query) world
      fun r world' => ∃ facets, r = .ok facets ∧
        FacetsTell rules localeCompare query world' facets := by
  refine (getDiscoverableStoreFacets_ends hfresh (fun _ => hall.plain) earlyExpiry).mono ?_
  rintro r world₁ ⟨rfl, hdata, hfresh₁⟩
  refine ⟨_, rfl, ?list, CustomerStoreFacets.sum_townships, CustomerStoreFacets.storeTypes_nodup,
    fun facet hfacet => CustomerStoreFacets.count_pos hfacet, fun facet hfacet => ?leads⟩
  case list =>
    intro earlyExpiry sortBy
    refine (listDiscoverableStores_ends hfresh₁ (fun _ => hall.plain) earlyExpiry sortBy).mono ?_
    rintro r world₂ ⟨rfl, -, -⟩
    refine ⟨_, rfl, ?_, fun store hstore storeType hmem => ?_⟩
    · rw [length_summaries, hdata]
      rfl
    · obtain ⟨branch, hbranch, rfl⟩ := mem_summaries.mp hstore
      rw [hdata] at hbranch
      exact exists_facet (List.mem_flatMap.mpr ⟨branch, hbranch, hmem⟩)
  case leads =>
    obtain ⟨storeType, hstoreType, hcode⟩ := storeType_of_facet hfacet
    obtain ⟨haccepted, hnotAll⟩ := hcodes.accepted _ _ hstoreType
    have hcount := count_of_facet hkeys hcodes hstoreType hfacet
    intro earlyExpiry sortBy
    rw [hcode]
    refine (listDiscoverableStores_ends hfresh₁
      (fun _ => hall.plain_code hkeep haccepted hnotAll) earlyExpiry sortBy).mono ?_
    rintro r world₂ ⟨rfl, -, -⟩
    refine ⟨_, rfl, ?_, fun store hstore => ?_⟩
    · rw [length_summaries, hall.toFilter_code hkeep haccepted, hdata, hcount]
      exact (listed_code_perm hall.codes_eq_none _).length_eq
    · obtain ⟨branch, hbranch, rfl⟩ := mem_summaries.mp hstore
      rw [hall.toFilter_code hkeep haccepted] at hbranch ⊢
      rw [hdata] at hbranch
      exact primaryStoreType_of_code hkeep hcodes hstoreType rfl hbranch

/-! #### Two store types -/

/-- The branch in the south is a pharmacy as well. -/
def twoTypeShops : Store :=
  StoreTypeCall.run (.assign 0 typeAdmin 2 { storeTypeId := 2 })
    (typedShops.put ⟨.storeType, 2,
      some { code := "pharmacy", name := "Pharmacy", isActive := true }⟩)

def twoTypeWorld : DiscoveryWorld where
  data := twoTypeShops
  cache _ := none
  storeTypes _ := none

/-- There is nothing on the menus yet. -/
def shopLayout : MenuLayout where
  categories := []
  categoryId _ := none
  storeTypeIds _ := []
  sortOrder _ := 0
  createdAt _ := 0

def shopCustomer : AuthenticatedUser :=
  { userId := 20, role := .customer, merchantId := none, customerProfileId := some 1,
    riderId := none }

theorem not_isUpper_of_isCodeStart {c : Char} (h : isCodeStart c = true) :
    ¬ c.isUpper = true := by
  simp only [isCodeStart, Char.isLower, Char.isDigit, Char.isUpper, Bool.or_eq_true,
    Bool.and_eq_true, decide_eq_true_eq, ge_iff_le, UInt32.le_iff_toNat_le] at h ⊢
  have hlow : 'a'.val.toNat = 97 := rfl
  have hhigh : 'Z'.val.toNat = 90 := rfl
  have hfirst : 'A'.val.toNat = 65 := rfl
  have hdigit : '9'.val.toNat = 57 := rfl
  omega

theorem sampleRules_keepCodes : sampleRules.KeepCodes := by
  intro code hcode
  have hmap : (sampleRules.toLowerCase code).toList = code.toList.map Char.toLower :=
    String.toList_map
  have hkept : ∀ c ∈ code.toList, c.toLower = id c := by
    intro c hc
    obtain hstart | rfl | rfl := isStoreTypeCode_chars hcode hc
    · exact Char.toLower_eq_of_not_isUpper (not_isUpper_of_isCodeStart hstart)
    · rfl
    · rfl
  rw [← String.toList_inj, hmap, List.map_congr_left hkept, List.map_id]

theorem assignmentKeys_twoTypeShops : AssignmentKeys twoTypeShops := by
  have hall : ∀ row ∈ twoTypeShops.list .branchStoreType (fun _ => true),
      row.1 = branchStoreTypeId row.2.branchId row.2.storeTypeId ∧
        (twoTypeShops.get (.storeType, row.2.storeTypeId)).isSome := by decide +kernel
  exact fun id assignment hget => hall (id, assignment) (Db.mem_list.mpr ⟨hget, rfl⟩)

theorem storeTypeCodes_twoTypeShops : StoreTypeCodes twoTypeShops := by
  have hall : ∀ row ∈ twoTypeShops.list .storeType (fun _ => true),
      (isStoreTypeCode row.2.code = true ∧ row.2.code ≠ "all") ∧
        ∀ row' ∈ twoTypeShops.list .storeType (fun _ => true),
          row.2.code = row'.2.code → row.1 = row'.1 := by decide +kernel
  refine ⟨fun id storeType hget => ?_, fun id id' storeType storeType' hget hget' hcode => ?_⟩
  · exact (hall (id, storeType) (Db.mem_list.mpr ⟨hget, rfl⟩)).1
  · exact (hall (id, storeType) (Db.mem_list.mpr ⟨hget, rfl⟩)).2 (id', storeType')
      (Db.mem_list.mpr ⟨hget', rfl⟩) hcode

/-- Two stores sell groceries and one sells medicine. -/
theorem facets_count_lists_twoTypes :
    Cached.Ends (getDiscoverableStoreFacets sampleRules compare false {}) twoTypeWorld
      (fun r world' => ∃ facets, r = .ok facets ∧
        FacetsTell sampleRules compare {} world' facets) ∧
    (toCustomerStoreFacets compare (findUncached sampleRules {} twoTypeShops).branches).storeTypes =
      [⟨1, "grocery", "Grocery", 2⟩, ⟨2, "pharmacy", "Pharmacy", 1⟩] :=
  ⟨facets_count_lists sampleRules_keepCodes assignmentKeys_twoTypeShops storeTypeCodes_twoTypeShops
    (Cached.Fresh.of_empty fun _ => rfl) ⟨rfl, rfl, by decide⟩ false, by decide +kernel⟩

end Lists

/-! ### From a list to a store -/

section Opened

variable {rules : TextRules} {localeCompare : String → String → Ordering} {layout : MenuLayout}
  {menus : Id → Option BranchCatalogRecord} {filter : DiscoveryFilter} {db : Store}
  {branch : CustomerStoreDiscoveryRecord}

/-- The filter of who asks for one branch, or for all of them. -/
def branchFilter (branchId : Option Id) : DiscoveryFilter := ⟨branchId, none, none, none, none⟩

/-- What is asked for does not change how a branch is shown. -/
theorem listed_unique {filter' : DiscoveryFilter} {branch' : CustomerStoreDiscoveryRecord}
    (h : branch ∈ listCustomerDiscoverableBranches rules filter db)
    (h' : branch' ∈ listCustomerDiscoverableBranches rules filter' db)
    (hid : branch.id = branch'.id) : branch = branch' := by
  obtain ⟨row, merchant, hrow, hmerchant, -, -, hshown⟩ := mem_listed.mp h
  obtain ⟨row', merchant', hrow', hmerchant', -, -, hshown'⟩ := mem_listed.mp h'
  rw [hid, hrow', Option.some.injEq] at hrow
  subst hrow
  rw [hmerchant', Option.some.injEq] at hmerchant
  rw [← hshown, ← hshown', hmerchant, hid]

/-- Whatever is listed is listed for who asks for it, and for who asks for nothing. -/
theorem listed_branchFilter (h : branch ∈ listCustomerDiscoverableBranches rules filter db)
    (branchId : Option Id) (hid : branchId.all (· == branch.id) = true) :
    branch ∈ listCustomerDiscoverableBranches rules (branchFilter branchId) db := by
  obtain ⟨row, merchant, hrow, hmerchant, hmeets, ⟨shown, hshown, -⟩, hrecord⟩ := mem_listed.mp h
  refine mem_listed.mpr ⟨row, merchant, hrow, hmerchant, ?_, ⟨shown, hshown, rfl⟩, hrecord⟩
  simp only [meetsFilter, Bool.and_eq_true] at hmeets
  obtain ⟨⟨⟨⟨⟨hactive, -⟩, -⟩, -⟩, hmerchantActive⟩, -⟩ := hmeets
  simp only [meetsFilter, branchFilter, hactive, hmerchantActive, Option.all_none, Bool.and_true,
    Bool.true_and]
  exact hid

theorem id_of_listed {branchId : Id}
    (h : branch ∈ listCustomerDiscoverableBranches rules (branchFilter (some branchId)) db) :
    branch.id = branchId := by
  obtain ⟨row, merchant, -, -, hmeets, -⟩ := mem_listed.mp h
  simp only [meetsFilter, branchFilter, Option.all_some, Bool.and_eq_true, beq_iff_eq] at hmeets
  exact hmeets.1.1.1.1.2.symm

/-- What is in Redis of the menus is what there is. -/
def MenusFresh (layout : MenuLayout) (menus : Id → Option BranchCatalogRecord) (db : Store) :
    Prop :=
  ∀ branchId record, menus branchId = some record →
    MenusRepository.findBranchCatalogByBranchId layout db branchId = some record

/-- A branch that is listed has a catalog, as a whole and for each of its store types. -/
theorem getVisibleBranchCatalog_of_listed (hmenus : MenusFresh layout menus db)
    (h : branch ∈ listCustomerDiscoverableBranches rules filter db)
    {storeTypeCode : Option String}
    (hcode : ∀ code, CustomerCatalogRead.normalizeOptionalString rules storeTypeCode = some code →
      ∃ assignment ∈ branch.storeTypes, rules.toLowerCase assignment.storeType.code = code) :
    ∃ catalog, CustomerCatalogRead.getVisibleBranchCatalog rules layout (menus branch.id) db
        branch.id storeTypeCode = some catalog ∧ catalog.branchId = branch.id ∧
      catalog.approvedStoreTypes = branch.storeTypes.map (·.storeType) := by
  obtain ⟨row, merchant, hrow, hmerchant, hmeets, -, hshown⟩ := mem_listed.mp h
  simp only [meetsFilter, Bool.and_eq_true, beq_iff_eq] at hmeets
  obtain ⟨⟨⟨⟨⟨hactive, -⟩, -⟩, -⟩, hmerchantActive⟩, -⟩ := hmeets
  obtain ⟨record, hrecord, hid, hstatus, hmerchantStatus, hstoreTypes⟩ :
      ∃ record, MenusRepository.findBranchCatalogByBranchId layout db branch.id = some record ∧
        record.id = branch.id ∧ record.status = row.status ∧
        record.merchant.status = merchant.status ∧ record.storeTypes = branch.storeTypes := by
    rw [MenusRepository.findBranchCatalogByBranchId, hrow, Option.bind_eq_bind, Option.bind_some,
      hmerchant]
    exact ⟨_, rfl, rfl, rfl, rfl, congrArg CustomerStoreDiscoveryRecord.storeTypes hshown⟩
  have hloaded : (menus branch.id).or
      (MenusRepository.findBranchCatalogByBranchId layout db branch.id) = some record := by
    cases hcached : menus branch.id with
    | none => rw [hrecord, Option.none_or]
    | some cached => rw [Option.some_or, ← hmenus _ _ hcached, hrecord]
  refine ⟨_, CustomerCatalogRead.getVisibleBranchCatalog_eq_some.mpr ⟨record, hloaded,
    hstatus.trans hactive, hmerchantStatus.trans hmerchantActive, ?_, rfl⟩, hid, ?_⟩
  · rwa [hstoreTypes]
  · rw [← hstoreTypes]
    rfl

section Ends

variable {world : DiscoveryWorld}

/-- The page of one store, which is never cached. -/
theorem findDiscoverableBranchOrThrow_ends {branchId : Id}
    {Q : Except Failure CustomerStoreDiscoveryRecord → DiscoveryWorld → Prop}
    (hsome : ∀ branch ∈ listCustomerDiscoverableBranches rules (branchFilter (some branchId))
      world.data, Q (.ok branch) world)
    (hnone : listCustomerDiscoverableBranches rules (branchFilter (some branchId)) world.data = [] →
      ∀ e, Q (.error e) world) :
    Cached.Ends (findDiscoverableBranchOrThrow rules branchId) world Q := by
  have hfilter : toFilter rules { branchId := some branchId } = branchFilter (some branchId) := rfl
  have hcacheable : ¬ DiscoveryCache.isCacheable (branchFilter (some branchId)) = true :=
    Bool.false_ne_true
  have hkept : ((listCustomerDiscoverableBranches rules (branchFilter (some branchId))
      world.data).filter fun branch => 0 < branch.storeTypes.length) =
        listCustomerDiscoverableBranches rules (branchFilter (some branchId)) world.data :=
    findUncached_branches { branchId := some branchId }
  refine .bind ?_
  dsimp only [findDiscoverableBranches]
  rw [hfilter, if_neg hcacheable]
  refine .bind (ends_database (.ret (.orFail (fun branch hhead => ?_) fun hnil => ?_)))
  · refine hsome branch ?_
    rw [← hkept]
    exact List.mem_of_mem_head? hhead
  · refine hnone ?_ _
    rw [← hkept]
    exact List.head?_eq_none_iff.mp hnil

/-- The page is of the branch that is asked for, if anybody is shown it. -/
theorem findDiscoverableBranchOrThrow_listed
    (h : branch ∈ listCustomerDiscoverableBranches rules filter world.data) :
    Cached.Ends (findDiscoverableBranchOrThrow rules branch.id) world fun r world' =>
      r = .ok branch ∧ world' = world := by
  have hlisted : branch ∈ listCustomerDiscoverableBranches rules (branchFilter (some branch.id))
      world.data := listed_branchFilter h _ (by simp)
  refine findDiscoverableBranchOrThrow_ends (fun branch' hbranch' => ⟨?_, rfl⟩) fun hnil => ?_
  · rw [listed_unique hbranch' h (id_of_listed hbranch')]
  · rw [hnil] at hlisted
    cases hlisted

theorem getVisibleBranchCatalogOrThrow_ends (hmenus : MenusFresh layout menus world.data)
    (h : branch ∈ listCustomerDiscoverableBranches rules filter world.data)
    {storeTypeCode : Option String}
    (hcode : ∀ code, CustomerCatalogRead.normalizeOptionalString rules storeTypeCode = some code →
      ∃ assignment ∈ branch.storeTypes, rules.toLowerCase assignment.storeType.code = code) :
    Cached.Ends (getVisibleBranchCatalogOrThrow rules layout menus branch.id storeTypeCode) world
      fun r world' => world' = world ∧ ∃ catalog, r = .ok catalog ∧ catalog.branchId = branch.id ∧
        catalog.approvedStoreTypes = branch.storeTypes.map (·.storeType) := by
  obtain ⟨catalog, hcatalog, hid, happroved⟩ := getVisibleBranchCatalog_of_listed hmenus h hcode
  refine .bind (ends_database (.orFail (fun catalog' hcatalog' => ?_) fun hnone => ?_))
  · obtain rfl := Option.some.inj (hcatalog.symm.trans hcatalog')
    exact ⟨rfl, catalog, rfl, hid, happroved⟩
  · cases hcatalog.symm.trans hnone

/-- What a page shows of a store is what the list has shown of it. -/
structure ShowsStore (store : CustomerStoreSummary) (detail : CustomerStoreDetail) : Prop where
  branchId : detail.branchId = store.branchId
  branchName : detail.branchName = store.branchName
  merchantId : detail.merchantId = store.merchantId
  merchantName : detail.merchantName = store.merchantName
  township : detail.township = store.township
  approvedStoreTypes : detail.approvedStoreTypes = store.approvedStoreTypes

theorem showsStore_of_listed {codes : Option (List String)} {catalog : BranchCatalog} :
    ShowsStore (toCustomerStoreSummaryDto rules branch codes)
      (toCustomerStoreDetail branch catalog) := ⟨rfl, rfl, rfl, rfl, rfl, rfl⟩

variable {currentUser : AuthenticatedUser}

theorem getDiscoverableStoreDetail_ends (hrole : currentUser.role = .customer)
    (hmenus : MenusFresh layout menus world.data)
    (h : branch ∈ listCustomerDiscoverableBranches rules filter world.data) :
    Cached.Ends (getDiscoverableStoreDetail rules layout menus currentUser branch.id) world
      fun r _ => ∃ catalog, r = .ok (toCustomerStoreDetail branch catalog) := by
  refine .require_bind (fun _ => .bind ((findDiscoverableBranchOrThrow_listed h).mono ?_))
    fun hnot => absurd hrole hnot
  rintro r world' ⟨rfl, rfl⟩
  refine .bind ((getVisibleBranchCatalogOrThrow_ends hmenus h ?_).mono ?_)
  · intro code hcode
    cases hcode
  · rintro r world' ⟨-, catalog, rfl, -, -⟩
    exact .ret ⟨catalog, rfl⟩

/-- The store type of a code is found again. -/
theorem resolveSelectedCatalogEntry_ok (hkeep : rules.KeepCodes) (hcodes : StoreTypeCodes db)
    (h : branch ∈ listCustomerDiscoverableBranches rules filter db)
    {assignment : CustomerStoreTypeAssignment} (hassignment : assignment ∈ branch.storeTypes) :
    ∃ selected, resolveSelectedCatalogEntry rules branch (some assignment.storeType.code) =
      .ok selected ∧ selected.storeType = assignment.storeType := by
  obtain ⟨storeType, hstoreType, heq⟩ := storeType_of_mem h hassignment
  have hcode : assignment.storeType.code = storeType.code := by rw [heq]
  have hlower : rules.toLowerCase assignment.storeType.code = assignment.storeType.code := by
    rw [hcode, hkeep _ (hcodes.accepted _ _ hstoreType).1]
  cases hfind : branch.storeTypes.find? fun assignment' =>
      rules.toLowerCase assignment'.storeType.code == assignment.storeType.code with
  | none =>
    have hnot := List.find?_eq_none.mp hfind _ hassignment
    exact absurd (beq_iff_eq.mpr hlower) hnot
  | some selected =>
    refine ⟨selected, by simp only [resolveSelectedCatalogEntry]; rw [hfind], ?_⟩
    obtain ⟨storeType', hstoreType', heq'⟩ :=
      storeType_of_mem h (List.mem_of_find?_eq_some hfind)
    have hfound := List.find?_some hfind
    rw [beq_iff_eq, hcode, heq', hkeep _ (hcodes.accepted _ _ hstoreType').1] at hfound
    have hid := hcodes.unique _ _ _ _ hstoreType' hstoreType hfound
    rw [hid, hstoreType, Option.some.injEq] at hstoreType'
    rw [heq, heq', hid, hstoreType']

theorem getDiscoverableStoreCatalogEntry_ends (hrole : currentUser.role = .customer)
    (hkeep : rules.KeepCodes) (hcodes : StoreTypeCodes world.data)
    (hmenus : MenusFresh layout menus world.data)
    (h : branch ∈ listCustomerDiscoverableBranches rules filter world.data)
    {assignment : CustomerStoreTypeAssignment} (hassignment : assignment ∈ branch.storeTypes) :
    Cached.Ends (getDiscoverableStoreCatalogEntry rules layout menus currentUser branch.id
      (some assignment.storeType.code)) world fun r _ => ∃ catalog selected,
        r = .ok ⟨toCustomerStoreDetail branch catalog, selected, catalog⟩ ∧
          selected.storeType = assignment.storeType ∧ catalog.branchId = branch.id ∧
            catalog.approvedStoreTypes = branch.storeTypes.map (·.storeType) := by
  obtain ⟨storeType, hstoreType, heq⟩ := storeType_of_mem h hassignment
  have haccepted : isStoreTypeCode assignment.storeType.code = true := by
    rw [heq]
    exact (hcodes.accepted _ _ hstoreType).1
  have hne := isStoreTypeCode_ne haccepted
  have hnormal : (normalizeOptionalString (some assignment.storeType.code)).map
      rules.toLowerCase = some assignment.storeType.code := by
    simp [normalizeOptionalString, isStoreTypeCode_trim haccepted, hne, hkeep _ haccepted]
  refine .require_bind (fun _ => .bind ((findDiscoverableBranchOrThrow_listed h).mono ?_))
    fun hnot => absurd hrole hnot
  rintro r world' ⟨rfl, rfl⟩
  rw [hnormal]
  refine .bind ((getVisibleBranchCatalogOrThrow_ends hmenus h ?_).mono ?_)
  · intro code hcode
    refine ⟨assignment, hassignment, ?_⟩
    simp only [CustomerCatalogRead.normalizeOptionalString, Option.map_some,
      isStoreTypeCode_trim haccepted] at hcode
    exact Option.some.inj (Option.filter_eq_some_iff.mp hcode).1
  · rintro r world' ⟨-, catalog, rfl, hid, happroved⟩
    obtain ⟨selected, hselected, hstoreType⟩ :=
      resolveSelectedCatalogEntry_ok hkeep hcodes h hassignment
    refine .bind (.ofExcept ?_)
    rw [hselected]
    exact .ret ⟨catalog, selected, rfl, hstoreType, hid, happroved⟩

/-- The store opens for the customer, as a whole and by each of its store types. -/
structure OpensAs (rules : TextRules) (layout : MenuLayout)
    (menus : Id → Option BranchCatalogRecord) (currentUser : AuthenticatedUser)
    (world : DiscoveryWorld) (store : CustomerStoreSummary) : Prop where
  detail : Cached.Ends (getDiscoverableStoreDetail rules layout menus currentUser store.branchId)
    world fun r _ => ∃ detail, r = .ok detail ∧ ShowsStore store detail
  entries : ∀ storeType ∈ store.approvedStoreTypes,
    Cached.Ends (getDiscoverableStoreCatalogEntry rules layout menus currentUser store.branchId
      (some storeType.code)) world fun r _ => ∃ entry, r = .ok entry ∧
        ShowsStore store entry.store ∧ entry.selectedCatalogEntry.storeType = storeType ∧
          entry.catalog.branchId = store.branchId ∧
            entry.catalog.approvedStoreTypes = store.approvedStoreTypes

/-- What a customer who is shown a list may rely on: a list of everything has every store that
opens. -/
structure ListTells (rules : TextRules) (layout : MenuLayout)
    (menus : Id → Option BranchCatalogRecord) (currentUser : AuthenticatedUser)
    (query : ListCustomerStoresQueryDto) (world : DiscoveryWorld)
    (stores : List CustomerStoreSummary) : Prop where
  opens : ∀ store ∈ stores, OpensAs rules layout menus currentUser world store
  presented : ∀ codes,
    normalizeStoreTypeCodes rules query.storeTypeCode query.storeTypeCodes = some codes →
      ∀ store ∈ stores, ∃ storeType ∈ store.approvedStoreTypes,
        store.primaryStoreType = some storeType ∧
          ∃ code ∈ codes, rules.toLowerCase code = rules.toLowerCase storeType.code
  complete : query = {} → ∀ branchId,
    Cached.Ends (getDiscoverableStoreDetail rules layout menus currentUser branchId) world
      fun r _ => ∀ detail, r = .ok detail → ∃ store ∈ stores, ShowsStore store detail

theorem opensAs_of_listed (hrole : currentUser.role = .customer) (hkeep : rules.KeepCodes)
    (hcodes : StoreTypeCodes world.data) (hmenus : MenusFresh layout menus world.data)
    (h : branch ∈ listCustomerDiscoverableBranches rules filter world.data)
    (codes : Option (List String)) :
    OpensAs rules layout menus currentUser world
      (toCustomerStoreSummaryDto rules branch codes) := by
  refine ⟨(getDiscoverableStoreDetail_ends hrole hmenus h).mono ?_, fun storeType hstoreType => ?_⟩
  · rintro r world' ⟨catalog, rfl⟩
    exact ⟨_, rfl, showsStore_of_listed⟩
  · obtain ⟨assignment, hassignment, rfl⟩ := List.mem_map.mp hstoreType
    refine (getDiscoverableStoreCatalogEntry_ends hrole hkeep hcodes hmenus h hassignment).mono ?_
    rintro r world' ⟨catalog, selected, rfl, hselected, hid, happroved⟩
    exact ⟨_, rfl, showsStore_of_listed, hselected, hid, happroved⟩

/-- A store that opens is one of all. -/
theorem getDiscoverableStoreDetail_listed (hmenus : MenusFresh layout menus world.data)
    (branchId : Id) :
    Cached.Ends (getDiscoverableStoreDetail rules layout menus currentUser branchId) world
      fun r _ => ∀ detail, r = .ok detail →
        ∃ branch ∈ listCustomerDiscoverableBranches rules (branchFilter none) world.data,
          ∃ catalog, toCustomerStoreDetail branch catalog = detail := by
  refine .require_bind (fun _ => .bind (findDiscoverableBranchOrThrow_ends
    (fun branch hbranch => ?_) fun _ e _ h => by cases h)) fun _ _ h => by cases h
  obtain rfl := id_of_listed hbranch
  have hall := listed_branchFilter hbranch none rfl
  refine .bind ((getVisibleBranchCatalogOrThrow_ends hmenus hall ?_).mono ?_)
  · intro code hcode
    cases hcode
  · rintro r world' ⟨-, catalog, rfl, -, -⟩
    refine .ret fun detail hdetail => ⟨branch, hall, catalog, ?_⟩
    exact Except.ok.inj hdetail

end Ends

end Opened

end CustomerStoreDiscovery

end WerTe
