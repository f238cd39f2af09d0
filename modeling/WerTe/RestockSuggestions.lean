import Mathlib.Data.List.Sort
import Mathlib.Data.Prod.Lex
import WerTe.Keyed.Table
import WerTe.MenusRepository
import WerTe.Numeral.Texts
import WerTe.ReadCommitted.Frame

/-!
# Restock suggestions

`merchant-inventory-read.service.ts`: which of a branch's items and options are to be stocked
again, each with the time and the reason of its last adjustment.

The logs of the adjustments are read with the newest first, and a map is made of them in which a
later entry takes the place of an earlier one with the same key. So what is shown is not the newest
adjustment but the oldest (`suggestion_shows_oldest`), which is right just when the two agree
(`restock_newest_iff`).
-/

namespace WerTe.MerchantInventoryReadService

open ReadCommitted MenusRepository Keyed

/-! ## `audit.repository.ts` -/

inductive AuditResourceType
  | order | delivery | message | conversation | user | userSession | pushToken | notification
  | systemMessageTemplate | riderLocation | riderAvailability | branch | merchant | menuCategory
  | menuItem | itemOptionGroup | itemOption | zone | cart | checkout | auth | payment
  | paymentAttempt | paymentProviderEvent | refund | refundAttempt | refundProviderEvent
  | storeType | branchStoreType
deriving DecidableEq, Repr

/-- What metadata has under a key. -/
inductive MetadataValue
  | text (value : String)
  | other
deriving DecidableEq, Repr

/-- An audit log; `metadata` is there when it is an object. -/
structure AdjustmentLog where
  branchId : Option Id
  resourceType : AuditResourceType
  resourceId : Id
  action : String
  metadata : Option (List (String × MetadataValue)) := none
  createdAt : Date
deriving DecidableEq

/-- The audit logs, by their ids. -/
abbrev AuditLogs := Table Id AdjustmentLog

def branchInventoryAdjustmentAuditActions : List String :=
  ["menu_items.inventory_adjusted", "item_options.inventory_adjusted"]

def isBranchInventoryAdjustment (branchId : Id) (log : AdjustmentLog) : Bool :=
  log.branchId == some branchId &&
    [AuditResourceType.menuItem, .itemOption].contains log.resourceType &&
    branchInventoryAdjustmentAuditActions.contains log.action

/-- `orderBy: [{ createdAt: 'desc' }, { id: 'desc' }]`. -/
def newerFirst (left right : Id × AdjustmentLog) : Prop :=
  toLex (right.2.createdAt, right.1) ≤ toLex (left.2.createdAt, left.1)

instance : DecidableRel newerFirst := fun left right =>
  inferInstanceAs (Decidable (toLex (right.2.createdAt, right.1) ≤
    toLex (left.2.createdAt, left.1)))

def branchInventoryAdjustments (logs : AuditLogs) (branchId : Id) : List (Id × AdjustmentLog) :=
  logs.entries.filter fun log => isBranchInventoryAdjustment branchId log.2

def findBranchInventoryAdjustmentLogs (logs : AuditLogs) (branchId : Id) (limit : ℕ) :
    List (Id × AdjustmentLog) :=
  ((branchInventoryAdjustments logs branchId).insertionSort newerFirst).take limit

/-! ## `menu-item-ownership.entity.ts`, `item-option-ownership.entity.ts` -/

def isInStock (stock : TrackedStock) : Bool :=
  if ! stock.isStockTracked then true else decide (0 < stock.stockQuantity.getD 0)

def isLowStock (stock : TrackedStock) : Bool :=
  match stock.isStockTracked, stock.stockQuantity, stock.lowStockThreshold with
  | true, some stockQuantity, some lowStockThreshold => decide (stockQuantity ≤ lowStockThreshold)
  | _, _, _ => false

/-! ## `menus.repository.ts`

The order of the lists is that of the tables; what they are sorted by is left out. -/

def listItemsByBranchId (db : Store) (branchId : Id) : List MenuItemOwnershipRecord :=
  (db.list .menuItem fun item => item.branchId == branchId).filterMap fun row =>
    findItemById db row.1

def listOptionsByBranchId (db : Store) (branchId : Id) : List ItemOptionOwnershipRecord :=
  ((db.list .itemOption fun _ => true).filterMap fun row => findOptionById db row.1).filter
    fun option => option.menuItem.branchId == branchId

/-! ## `merchant-inventory-read.service.ts` -/

inductive MerchantInventoryAttentionLevel
  | outOfStock | lowStock
deriving DecidableEq, Repr

def resolveAttentionLevel (isInStock isLowStock : Bool) : Option MerchantInventoryAttentionLevel :=
  if ! isInStock then some .outOfStock
  else if isLowStock then some .lowStock
  else none

def buildTargetStockQuantity (currentStockQuantity : ℤ) (lowStockThreshold : Option ℤ)
    (attentionLevel : MerchantInventoryAttentionLevel) : ℤ :=
  match lowStockThreshold with
  | some lowStockThreshold => max (max (lowStockThreshold * 2) (currentStockQuantity + 1)) 1
  | none =>
    if attentionLevel = .outOfStock then max (currentStockQuantity + 1) 1
    else max (currentStockQuantity + 2) 2

def readMetadataString (metadata : Option (List (String × MetadataValue))) (key : String) :
    Option String :=
  match metadata.bind (·.lookup key) with
  | some (.text value) => if 0 < (trim value).length then some value else none
  | _ => none

/-- What is shown of an adjustment. -/
structure LatestAdjustment where
  createdAt : Date
  reasonCode : Option String
deriving DecidableEq

def adjustmentOf (log : AdjustmentLog) : LatestAdjustment :=
  ⟨log.createdAt, readMetadataString log.metadata "reasonCode"⟩

def resourceTypeText : AuditResourceType → String
  | .order => "ORDER" | .delivery => "DELIVERY" | .message => "MESSAGE"
  | .conversation => "CONVERSATION" | .user => "USER" | .userSession => "USER_SESSION"
  | .pushToken => "PUSH_TOKEN" | .notification => "NOTIFICATION"
  | .systemMessageTemplate => "SYSTEM_MESSAGE_TEMPLATE" | .riderLocation => "RIDER_LOCATION"
  | .riderAvailability => "RIDER_AVAILABILITY" | .branch => "BRANCH" | .merchant => "MERCHANT"
  | .menuCategory => "MENU_CATEGORY" | .menuItem => "MENU_ITEM"
  | .itemOptionGroup => "ITEM_OPTION_GROUP" | .itemOption => "ITEM_OPTION" | .zone => "ZONE"
  | .cart => "CART" | .checkout => "CHECKOUT" | .auth => "AUTH" | .payment => "PAYMENT"
  | .paymentAttempt => "PAYMENT_ATTEMPT" | .paymentProviderEvent => "PAYMENT_PROVIDER_EVENT"
  | .refund => "REFUND" | .refundAttempt => "REFUND_ATTEMPT"
  | .refundProviderEvent => "REFUND_PROVIDER_EVENT" | .storeType => "STORE_TYPE"
  | .branchStoreType => "BRANCH_STORE_TYPE"

def resourceKey (resourceType : AuditResourceType) (resourceId : Id) : String :=
  resourceTypeText resourceType ++ ":" ++ toString resourceId

/-- The map of the logs, by the resource. -/
def latestAdjustments (logs : List (Id × AdjustmentLog)) (key : String) : Option LatestAdjustment :=
  lastEntry (logs.map fun log =>
    (resourceKey log.2.resourceType log.2.resourceId, adjustmentOf log.2)) key

/-- A suggestion for an item or an option, with the columns that are about stock. -/
structure RestockSuggestion where
  resourceId : Id
  name : String
  currentStockQuantity : Option ℤ
  lowStockThreshold : Option ℤ
  targetStockQuantity : ℤ
  suggestedRestockQuantity : ℤ
  attentionLevel : MerchantInventoryAttentionLevel
  lastAdjustedAt : Option Date
  lastAdjustmentReasonCode : Option String
deriving DecidableEq

/-- The suggestion for a resource, if its stock is tracked and needs attention. -/
def suggest (logs : List (Id × AdjustmentLog)) (resourceType : AuditResourceType)
    (resourceId : Id) (name : String) (stock : TrackedStock) : Option RestockSuggestion :=
  if ! stock.isStockTracked then none
  else (resolveAttentionLevel (isInStock stock) (isLowStock stock)).map fun attentionLevel =>
    let currentStockQuantity := stock.stockQuantity.getD 0
    let targetStockQuantity :=
      buildTargetStockQuantity currentStockQuantity stock.lowStockThreshold attentionLevel
    let latestAdjustment := latestAdjustments logs (resourceKey resourceType resourceId)
    { resourceId, name
      currentStockQuantity := stock.stockQuantity
      lowStockThreshold := stock.lowStockThreshold
      targetStockQuantity
      suggestedRestockQuantity := max (targetStockQuantity - currentStockQuantity) 1
      attentionLevel
      lastAdjustedAt := latestAdjustment.map (·.createdAt)
      lastAdjustmentReasonCode := latestAdjustment.bind (·.reasonCode) }

def itemSuggestion (logs : List (Id × AdjustmentLog)) (item : MenuItemOwnershipRecord) :
    Option RestockSuggestion := suggest logs .menuItem item.id item.item.name item.item.stock

def optionSuggestion (logs : List (Id × AdjustmentLog)) (option : ItemOptionOwnershipRecord) :
    Option RestockSuggestion :=
  suggest logs .itemOption option.id option.option.name option.option.stock

structure MerchantRestockSuggestionsDto where
  branchId : Id
  branchName : String
  generatedAt : Date
  itemSuggestionCount : ℕ
  optionSuggestionCount : ℕ
  totalSuggestionCount : ℕ
  itemSuggestions : List RestockSuggestion
  optionSuggestions : List RestockSuggestion
deriving DecidableEq

def resolveOwnedBranch (userId branchId : Id) : StoreService Branch := do
  let found ← .get fun db => (db.get (.branch, branchId)).filter fun branch =>
    (db.get (.merchant, (branch : Branch).merchantId)).any fun merchant => merchant.userId == userId
  .orFail found (fail "Branch was not found." .notFound)

def getOwnedBranchRestockSuggestions (auditLogs : AuditLogs) (now : Date) (userId branchId : Id) :
    StoreService MerchantRestockSuggestionsDto := do
  let branch ← resolveOwnedBranch userId branchId
  let items ← .get fun db => listItemsByBranchId db branchId
  let options ← .get fun db => listOptionsByBranchId db branchId
  let logs := findBranchInventoryAdjustmentLogs auditLogs branchId 200
  let itemSuggestions := items.filterMap (itemSuggestion logs)
  let optionSuggestions := options.filterMap (optionSuggestion logs)
  pure {
    branchId
    branchName := branch.name
    generatedAt := now
    itemSuggestionCount := itemSuggestions.length
    optionSuggestionCount := optionSuggestions.length
    totalSuggestionCount := itemSuggestions.length + optionSuggestions.length
    itemSuggestions
    optionSuggestions }

/-! ## What is to be shown -/

/-- The log is one of the branch's adjustments of the resource. -/
def Adjusts (auditLogs : AuditLogs) (branchId : Id) (resourceType : AuditResourceType)
    (resourceId : Id) (log : Id × AdjustmentLog) : Prop :=
  log ∈ branchInventoryAdjustments auditLogs branchId ∧ log.2.resourceType = resourceType ∧
    log.2.resourceId = resourceId

/-- No adjustment of the resource is newer than the log. -/
def IsNewest (auditLogs : AuditLogs) (branchId : Id) (resourceType : AuditResourceType)
    (resourceId : Id) (log : Id × AdjustmentLog) : Prop :=
  Adjusts auditLogs branchId resourceType resourceId log ∧
    ∀ other, Adjusts auditLogs branchId resourceType resourceId other → newerFirst log other

/-- No adjustment of the resource is older than the log. -/
def IsOldest (auditLogs : AuditLogs) (branchId : Id) (resourceType : AuditResourceType)
    (resourceId : Id) (log : Id × AdjustmentLog) : Prop :=
  Adjusts auditLogs branchId resourceType resourceId log ∧
    ∀ other, Adjusts auditLogs branchId resourceType resourceId other → newerFirst other log

/-- The suggestion has the time and the reason of the newest adjustment, if there is one. -/
def ShowsNewest (auditLogs : AuditLogs) (branchId : Id) (resourceType : AuditResourceType)
    (suggestion : RestockSuggestion) : Prop :=
  (∀ log, IsNewest auditLogs branchId resourceType suggestion.resourceId log →
    suggestion.lastAdjustedAt = some log.2.createdAt ∧
      suggestion.lastAdjustmentReasonCode = (adjustmentOf log.2).reasonCode) ∧
  ((∀ log, ¬ Adjusts auditLogs branchId resourceType suggestion.resourceId log) →
    suggestion.lastAdjustedAt = none ∧ suggestion.lastAdjustmentReasonCode = none)

/-- What is shown of the first and of the last adjustment of the resource is the same. -/
def Agree (auditLogs : AuditLogs) (branchId : Id) (resourceType : AuditResourceType)
    (resourceId : Id) : Prop :=
  ∀ oldest newest, IsOldest auditLogs branchId resourceType resourceId oldest →
    IsNewest auditLogs branchId resourceType resourceId newest →
      adjustmentOf oldest.2 = adjustmentOf newest.2

/-- The stock is tracked, and there is nothing left or not much. -/
def NeedsRestock (stock : TrackedStock) : Prop :=
  stock.isStockTracked = true ∧ (isInStock stock = false ∨ isLowStock stock = true)

/-! ## What is shown -/

section Shows

variable {auditLogs : AuditLogs} {branchId : Id} {resourceType resourceType' : AuditResourceType}
  {resourceId resourceId' : Id}

theorem colon_notMem_resourceTypeText (resourceType : AuditResourceType) :
    ':' ∉ (resourceTypeText resourceType).toList := by
  cases resourceType <;> decide

theorem resourceTypeText_injective : Function.Injective resourceTypeText := by
  let all : List AuditResourceType := [.order, .delivery, .message, .conversation, .user,
    .userSession, .pushToken, .notification, .systemMessageTemplate, .riderLocation,
    .riderAvailability, .branch, .merchant, .menuCategory, .menuItem, .itemOptionGroup,
    .itemOption, .zone, .cart, .checkout, .auth, .payment, .paymentAttempt,
    .paymentProviderEvent, .refund, .refundAttempt, .refundProviderEvent, .storeType,
    .branchStoreType]
  have hnodup : (all.map resourceTypeText).Nodup := by decide +kernel
  have hmem : ∀ resourceType, resourceType ∈ all := by
    intro resourceType
    cases resourceType <;> decide
  exact fun _ _ h => List.inj_on_of_nodup_map hnodup (hmem _) (hmem _) h

/-- A key tells which resource it is. -/
theorem resourceKey_inj :
    resourceKey resourceType resourceId = resourceKey resourceType' resourceId' ↔
      resourceType = resourceType' ∧ resourceId = resourceId' := by
  have htoList : ∀ (type : AuditResourceType) (id : Id), (resourceKey type id).toList =
      (resourceTypeText type).toList ++ ':' :: (toString id).toList := by
    intro type id
    simp [resourceKey]
  rw [← String.toList_inj, htoList, htoList, append_cons_inj (colon_notMem_resourceTypeText _)
    (colon_notMem_resourceTypeText _), Numeral.toString_inj, String.toList_inj,
    resourceTypeText_injective.eq_iff]

theorem newerFirst_antisymm {log other : Id × AdjustmentLog} (h : newerFirst log other)
    (h' : newerFirst other log) : log.1 = other.1 := by
  have hsame : toLex (other.2.createdAt, other.1) = toLex (log.2.createdAt, log.1) :=
    le_antisymm h h'
  exact (congrArg (fun stamp => (ofLex stamp).2) hsame).symm

/-- Two logs of one id are one log. -/
theorem log_eq {log other : Id × AdjustmentLog}
    (hlog : log ∈ branchInventoryAdjustments auditLogs branchId)
    (hother : other ∈ branchInventoryAdjustments auditLogs branchId) (h : log.1 = other.1) :
    log = other :=
  List.inj_on_of_nodup_map auditLogs.nodup (List.mem_filter.mp hlog).1
    (List.mem_filter.mp hother).1 h

theorem IsOldest.unique {log other : Id × AdjustmentLog}
    (h : IsOldest auditLogs branchId resourceType resourceId log)
    (h' : IsOldest auditLogs branchId resourceType resourceId other) : log = other :=
  log_eq h.1.1 h'.1.1 (newerFirst_antisymm (h'.2 log h.1) (h.2 other h'.1))

/-- The logs as they are read, when there are not too many. -/
theorem mem_findLogs (hlimit : (branchInventoryAdjustments auditLogs branchId).length ≤ 200)
    {log : Id × AdjustmentLog} :
    log ∈ findBranchInventoryAdjustmentLogs auditLogs branchId 200 ↔
      log ∈ branchInventoryAdjustments auditLogs branchId := by
  rw [findBranchInventoryAdjustmentLogs, List.take_of_length_le
    (by rwa [List.length_insertionSort]), List.mem_insertionSort]

theorem pairwise_findLogs (auditLogs : AuditLogs) (branchId : Id) (limit : ℕ) :
    (findBranchInventoryAdjustmentLogs auditLogs branchId limit).Pairwise newerFirst := by
  have : Std.Total newerFirst := ⟨fun left right =>
    le_total (toLex (right.2.createdAt, right.1)) (toLex (left.2.createdAt, left.1))⟩
  have : IsTrans (Id × AdjustmentLog) newerFirst := ⟨fun _ _ _ h h' => le_trans h' h⟩
  exact (List.pairwise_insertionSort _ _).sublist (List.take_sublist _ _)

/-- What the map has for a resource is its oldest adjustment. -/
theorem latestAdjustments_eq
    (hlimit : (branchInventoryAdjustments auditLogs branchId).length ≤ 200)
    (resourceType : AuditResourceType) (resourceId : Id) :
    (latestAdjustments (findBranchInventoryAdjustmentLogs auditLogs branchId 200)
        (resourceKey resourceType resourceId) = none ∧
      ∀ log, ¬ Adjusts auditLogs branchId resourceType resourceId log) ∨
    ∃ oldest, IsOldest auditLogs branchId resourceType resourceId oldest ∧
      latestAdjustments (findBranchInventoryAdjustmentLogs auditLogs branchId 200)
        (resourceKey resourceType resourceId) = some (adjustmentOf oldest.2) := by
  have hadjusts : ∀ log ∈ findBranchInventoryAdjustmentLogs auditLogs branchId 200,
      (resourceKey log.2.resourceType log.2.resourceId = resourceKey resourceType resourceId ↔
        Adjusts auditLogs branchId resourceType resourceId log) := by
    intro log hlog
    rw [resourceKey_inj, Adjusts, and_iff_right ((mem_findLogs hlimit).mp hlog)]
  cases hlast : latestAdjustments (findBranchInventoryAdjustmentLogs auditLogs branchId 200)
      (resourceKey resourceType resourceId) with
  | none =>
    refine .inl ⟨rfl, fun log hlog => ?_⟩
    have hmem := (mem_findLogs hlimit).mpr hlog.1
    rw [latestAdjustments, lastEntry_eq_none_iff] at hlast
    exact hlast _ (List.mem_map.mpr ⟨log, hmem, rfl⟩) ((hadjusts log hmem).mpr hlog)
  | some adjustment =>
    obtain ⟨before, after, hsplit, hnone⟩ := split_of_lastEntry hlast
    obtain ⟨before, rest, hlogs, rfl, hrest⟩ := List.map_eq_append_iff.mp hsplit
    obtain ⟨oldest, after, rfl, holdest, rfl⟩ := List.map_eq_cons_iff.mp hrest
    have hsorted := pairwise_findLogs auditLogs branchId 200
    have hmem : oldest ∈ findBranchInventoryAdjustmentLogs auditLogs branchId 200 := by
      rw [hlogs]
      exact List.mem_append_right _ List.mem_cons_self
    refine .inr ⟨oldest, ⟨(hadjusts oldest hmem).mp (congrArg Prod.fst holdest), ?_⟩, ?_⟩
    · -- the logs of the resource that are not the oldest stand before it
      intro other hother
      have hmem' := (mem_findLogs hlimit).mpr hother.1
      have hkey := (hadjusts other hmem').mpr hother
      rw [hlogs] at hsorted hmem'
      obtain hbefore | hrest := List.mem_append.mp hmem'
      · exact (List.pairwise_append.mp hsorted).2.2 other hbefore oldest List.mem_cons_self
      · obtain rfl | hafter := List.mem_cons.mp hrest
        · exact le_rfl
        · exact absurd hkey (hnone _ (List.mem_map.mpr ⟨other, hafter, rfl⟩))
    · exact (congrArg some (congrArg Prod.snd holdest)).symm

/-- What a suggestion has of its resource. -/
theorem suggest_eq_some {logs : List (Id × AdjustmentLog)} {name : String} {stock : TrackedStock}
    {suggestion : RestockSuggestion}
    (h : suggest logs resourceType resourceId name stock = some suggestion) :
    suggestion.resourceId = resourceId ∧ NeedsRestock stock ∧
      suggestion.lastAdjustedAt =
        (latestAdjustments logs (resourceKey resourceType resourceId)).map (·.createdAt) ∧
      suggestion.lastAdjustmentReasonCode =
        (latestAdjustments logs (resourceKey resourceType resourceId)).bind (·.reasonCode) := by
  rw [suggest] at h
  split at h
  case isTrue => cases h
  case isFalse htracked =>
    obtain ⟨attentionLevel, hlevel, rfl⟩ := Option.map_eq_some_iff.mp h
    refine ⟨rfl, ⟨by simpa using htracked, ?_⟩, rfl, rfl⟩
    cases hin : isInStock stock with
    | false => exact .inl rfl
    | true =>
      refine .inr (Bool.eq_true_of_not_eq_false fun hlow => ?_)
      rw [hin, hlow] at hlevel
      cases hlevel

/-- What needs to be stocked again is suggested. -/
theorem suggest_of_needs {logs : List (Id × AdjustmentLog)} {name : String} {stock : TrackedStock}
    (h : NeedsRestock stock) :
    ∃ suggestion, suggest logs resourceType resourceId name stock = some suggestion := by
  rw [suggest, if_neg (by simp [h.1])]
  obtain hout | hlow := h.2
  · rw [hout]
    exact ⟨_, rfl⟩
  · rw [hlow]
    cases isInStock stock <;> exact ⟨_, rfl⟩

/-- A suggestion shows the newest adjustment just when the oldest one is no different. -/
theorem showsNewest_iff (hlimit : (branchInventoryAdjustments auditLogs branchId).length ≤ 200)
    {name : String} {stock : TrackedStock} {suggestion : RestockSuggestion}
    (h : suggest (findBranchInventoryAdjustmentLogs auditLogs branchId 200) resourceType resourceId
      name stock = some suggestion) :
    ShowsNewest auditLogs branchId resourceType suggestion ↔
      Agree auditLogs branchId resourceType resourceId := by
  obtain ⟨rfl, -, hat, hreason⟩ := suggest_eq_some h
  obtain ⟨hnone, hnever⟩ | ⟨oldest, holdest, hsome⟩ :=
    latestAdjustments_eq hlimit resourceType suggestion.resourceId
  · rw [hnone] at hat hreason
    constructor
    · exact fun _ log _ hlog => absurd hlog.1 (hnever log)
    · exact fun _ => ⟨fun log hlog => absurd hlog.1 (hnever log), fun _ => ⟨hat, hreason⟩⟩
  · rw [hsome] at hat hreason
    constructor
    · intro hshows other newest hother hnewest
      obtain ⟨hat', hreason'⟩ := hshows.1 newest hnewest
      obtain rfl := holdest.unique hother
      have hcreated := Option.some.inj (hat.symm.trans hat')
      have hcode := hreason.symm.trans hreason'
      exact congrArg₂ LatestAdjustment.mk hcreated hcode
    · intro hagree
      refine ⟨fun newest hnewest => ?_, fun hnever => absurd holdest.1 (hnever oldest)⟩
      have hsame := hagree oldest newest holdest hnewest
      rw [hat, hreason, hsame]
      exact ⟨rfl, rfl⟩

end Shows

/-- What is answered. -/
theorem suggestions_of_run {auditLogs : AuditLogs} {now : Date} {userId branchId : Id} {db : Store}
    {dto : MerchantRestockSuggestionsDto}
    (hok : (getOwnedBranchRestockSuggestions auditLogs now userId branchId).run db =
      (.ok dto, db)) :
    dto.itemSuggestions = (listItemsByBranchId db branchId).filterMap
        (itemSuggestion (findBranchInventoryAdjustmentLogs auditLogs branchId 200)) ∧
      dto.optionSuggestions = (listOptionsByBranchId db branchId).filterMap
        (optionSuggestion (findBranchInventoryAdjustmentLogs auditLogs branchId 200)) := by
  have hbranch : (resolveOwnedBranch userId branchId).ReadOnly :=
    .bind (.get _) fun _ => .orFail _ _
  obtain ⟨branch, -, hrest⟩ := hbranch.run_bind_ok hok
  cases hrest
  exact ⟨rfl, rfl⟩

/-- Of a branch that has no more adjustments than are read, the suggestions show the newest ones
if and only if for every item and option that needs to be stocked again the oldest adjustment has
the time and the reason of the newest. -/
theorem restock_newest_iff (auditLogs : AuditLogs) (now : Date) (userId branchId : Id) (db : Store)
    (dto : MerchantRestockSuggestionsDto)
    (hlimit : (branchInventoryAdjustments auditLogs branchId).length ≤ 200)
    (hok : (getOwnedBranchRestockSuggestions auditLogs now userId branchId).run db =
      (.ok dto, db)) :
    ((∀ suggestion ∈ dto.itemSuggestions, ShowsNewest auditLogs branchId .menuItem suggestion) ∧
      ∀ suggestion ∈ dto.optionSuggestions,
        ShowsNewest auditLogs branchId .itemOption suggestion) ↔
    (∀ item ∈ listItemsByBranchId db branchId, NeedsRestock item.item.stock →
      Agree auditLogs branchId .menuItem item.id) ∧
    ∀ option ∈ listOptionsByBranchId db branchId, NeedsRestock option.option.stock →
      Agree auditLogs branchId .itemOption option.id := by
  obtain ⟨hitems, hoptions⟩ := suggestions_of_run hok
  -- each suggestion is about one resource that needs to be stocked again, and the other way round
  have hfamily : ∀ {α : Type} (resources : List α) (resourceType : AuditResourceType) (id : α → Id)
      (name : α → String) (stock : α → TrackedStock),
      (∀ suggestion ∈ resources.filterMap fun resource =>
          suggest (findBranchInventoryAdjustmentLogs auditLogs branchId 200) resourceType
            (id resource) (name resource) (stock resource),
        ShowsNewest auditLogs branchId resourceType suggestion) ↔
      ∀ resource ∈ resources, NeedsRestock (stock resource) →
        Agree auditLogs branchId resourceType (id resource) := by
    intro α resources resourceType id name stock
    constructor
    · intro hshows resource hmem hneeds
      obtain ⟨suggestion, hsuggest⟩ := suggest_of_needs hneeds
      exact (showsNewest_iff hlimit hsuggest).mp
        (hshows suggestion (List.mem_filterMap.mpr ⟨resource, hmem, hsuggest⟩))
    · intro hagree suggestion hmem
      obtain ⟨resource, hresource, hsuggest⟩ := List.mem_filterMap.mp hmem
      exact (showsNewest_iff hlimit hsuggest).mpr
        (hagree resource hresource (suggest_eq_some hsuggest).2.1)
  rw [hitems, hoptions]
  exact and_congr (hfamily _ .menuItem _ _ _) (hfamily _ .itemOption _ _ _)

/-! ## One item -/

/-- A branch with an item of which nothing is left. -/
def emptyShelf : Store := Db.empty.apply [
  ⟨.user, 10, some { status := .active, role := .merchant }⟩,
  ⟨.merchant, 1, some { userId := 10, name := "Tea", status := .active }⟩,
  ⟨.branch, 1, some { merchantId := 1, status := .active, name := "Tea", township := "North" }⟩,
  ⟨.menuItem, 1, some (⟨1, "Green tea", 10, ⟨true, some 0, some 5⟩, true⟩ : MenuItem)⟩]

def adjusted (createdAt : Date) (reasonCode : String) : AdjustmentLog where
  branchId := some 1
  resourceType := .menuItem
  resourceId := 1
  action := "menu_items.inventory_adjusted"
  metadata := some [("delta", .other), ("reasonCode", .text reasonCode)]
  createdAt

def oneAdjustment : AuditLogs := Table.empty.set 1 (adjusted 100 "DAMAGED")

def twoAdjustments : AuditLogs := oneAdjustment.set 2 (adjusted 200 "RECOUNT")

/-- The merchant's request is answered. -/
theorem answered_emptyShelf (auditLogs : AuditLogs) : ∃ dto,
    (getOwnedBranchRestockSuggestions auditLogs 300 10 1).run emptyShelf = (.ok dto, emptyShelf) :=
  ⟨_, rfl⟩

/-- An item that has been adjusted once. -/
theorem one_adjustment_shown : ∃ dto, (getOwnedBranchRestockSuggestions oneAdjustment 300 10 1).run
      emptyShelf = (.ok dto, emptyShelf) ∧
    (∀ suggestion ∈ dto.itemSuggestions, ShowsNewest oneAdjustment 1 .menuItem suggestion) ∧
      ∀ suggestion ∈ dto.optionSuggestions, ShowsNewest oneAdjustment 1 .itemOption suggestion := by
  obtain ⟨dto, hok⟩ := answered_emptyShelf oneAdjustment
  have hone : ∀ log ∈ branchInventoryAdjustments oneAdjustment 1,
      log = (1, adjusted 100 "DAMAGED") := by decide +kernel
  have hagree : ∀ resourceType resourceId, Agree oneAdjustment 1 resourceType resourceId :=
    fun resourceType resourceId oldest newest holdest hnewest => by
      rw [hone oldest holdest.1.1, hone newest hnewest.1.1]
  exact ⟨dto, hok, (restock_newest_iff oneAdjustment 300 10 1 emptyShelf dto (by decide +kernel)
    hok).mpr ⟨fun _ _ _ => hagree _ _, fun _ _ _ => hagree _ _⟩⟩

/-- Of two adjustments the older one is shown. -/
theorem older_adjustment_shown : ¬ ∀ (auditLogs : AuditLogs) (now : Date) (userId branchId : Id)
    (db : Store) (dto : MerchantRestockSuggestionsDto),
    (branchInventoryAdjustments auditLogs branchId).length ≤ 200 →
    (getOwnedBranchRestockSuggestions auditLogs now userId branchId).run db = (.ok dto, db) →
    (∀ suggestion ∈ dto.itemSuggestions, ShowsNewest auditLogs branchId .menuItem suggestion) ∧
      ∀ suggestion ∈ dto.optionSuggestions,
        ShowsNewest auditLogs branchId .itemOption suggestion := by
  intro h
  obtain ⟨dto, hok⟩ := answered_emptyShelf twoAdjustments
  have hshows := (h twoAdjustments 300 10 1 emptyShelf dto (by decide +kernel) hok).1
  obtain ⟨suggestion, hmem, hid, hat⟩ : ∃ suggestion ∈ dto.itemSuggestions,
      suggestion.resourceId = 1 ∧ suggestion.lastAdjustedAt = some 100 := by
    rw [(suggestions_of_run hok).1]
    decide +kernel
  have hall : ∀ log ∈ branchInventoryAdjustments twoAdjustments 1,
      newerFirst (2, adjusted 200 "RECOUNT") log := by decide +kernel
  have hnewest : IsNewest twoAdjustments 1 .menuItem suggestion.resourceId
      (2, adjusted 200 "RECOUNT") :=
    ⟨⟨by decide +kernel, rfl, hid.symm⟩, fun other hother => hall other hother.1⟩
  have hshown := ((hshows suggestion hmem).1 _ hnewest).1
  rw [hat] at hshown
  exact absurd hshown (by decide)

end WerTe.MerchantInventoryReadService
