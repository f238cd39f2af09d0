import Mathlib.Data.List.Sort
import WerTe.Checked.Sequence
import WerTe.Schema

/-!
# The catalog rules of the verticals

`menu-vertical-catalog-rule.util.ts`: the kind of shop that sells an item says which fields the
item must have, whether its stock is tracked and which attributes tell its size or its like. The
assertion passes just the items that meet the rules of all kinds it is given
(`assertMenuVerticalCatalogRules_ok_iff`), though it looks at each code once.
-/

namespace WerTe.VerticalRules

/-! ## The rules that are defined -/

/-- What the language does with texts by Unicode and by the locale. -/
structure TextFunctions where
  toLowerCase : String → String
  toUpperCase : String → String
  localeCompare : String → String → Ordering

structure MenuVerticalStoreTypeSummary where
  id : String
  code : String
  name : String
  sortOrder : ℤ
deriving DecidableEq

structure MenuVerticalCatalogRuleDefinition where
  requiredFields : List String
  requiresStockTracking : Bool
  requiredAttributeKeysAnyOf : List String
  notes : List String
deriving DecidableEq

structure MenuVerticalCatalogRuleProfile where
  storeTypeId : String
  storeTypeCode : String
  storeTypeName : String
  sortOrder : ℤ
  rule : MenuVerticalCatalogRuleDefinition
deriving DecidableEq

/-- Of the attributes only the keys are looked at. -/
structure MenuVerticalCatalogRuleInput where
  sku : Option String
  brand : Option String
  attributes : Option (List String)
  isStockTracked : Bool
deriving DecidableEq

structure MenuVerticalCatalogRuleViolation where
  storeTypeId : String
  storeTypeCode : String
  storeTypeName : String
  missingFields : List String
  stockTrackingRequired : Bool
  missingAttributeKeysAnyOf : List String
deriving DecidableEq

/-- How an item write fails; what an exception says of the rules and of the scope beside it. -/
inductive CatalogFailure
  | failure (failure : Failure)
  | verticalRuleViolations (exception : AppException) (effectiveStoreTypeCodes : List String)
      (violations : List MenuVerticalCatalogRuleViolation)
  | invalidStoreTypeIds (exception : AppException) (branchId : Id) (storeTypeIds : List String)
deriving DecidableEq

def menuVerticalCatalogRuleDefinitions : List (String × MenuVerticalCatalogRuleDefinition) := [
  ("restaurant", {
    requiredFields := []
    requiresStockTracking := false
    requiredAttributeKeysAnyOf := []
    notes := [
      "Restaurant items keep the base menu flow and do not require retail-style identifiers."] }),
  ("grocery", {
    requiredFields := ["sku"]
    requiresStockTracking := true
    requiredAttributeKeysAnyOf :=
      ["unitOfMeasure", "weight", "weightGrams", "volumeMl", "packSize", "unitCount"]
    notes := [
      "Grocery items should expose a measurable unit such as weight, volume, or pack size."] }),
  ("pharmacy", {
    requiredFields := ["sku", "brand"]
    requiresStockTracking := true
    requiredAttributeKeysAnyOf := ["dosageStrength", "dosageForm", "packSize"]
    notes := [
      "Pharmacy items should identify dosage or pack metadata before they are published."] }),
  ("beauty", {
    requiredFields := ["sku", "brand"]
    requiresStockTracking := false
    requiredAttributeKeysAnyOf := ["size", "volumeMl", "shade", "skinType", "scent"]
    notes := [
      "Beauty items should describe the shopper-facing variant or formulation."] }),
  ("fashion", {
    requiredFields := ["sku"]
    requiresStockTracking := false
    requiredAttributeKeysAnyOf := ["size", "color", "material"]
    notes := [
      "Fashion items should declare at least one sizing or material attribute."] })]

def noRules : MenuVerticalCatalogRuleDefinition where
  requiredFields := []
  requiresStockTracking := false
  requiredAttributeKeysAnyOf := []
  notes := ["No additional vertical-specific catalog rules are enforced yet."]

/-- The lower-case names that every object has; what stands under them is no definition. -/
def inheritedNames : List String := ["constructor", "__proto__"]

/-- The definition under a code in lower case. -/
def definitionOf (key : String) : Option MenuVerticalCatalogRuleDefinition :=
  if inheritedNames.contains key then none
  else some ((menuVerticalCatalogRuleDefinitions.lookup key).getD noRules)

def resolveMenuVerticalCatalogRuleDefinition (texts : TextFunctions) (storeTypeCode : String) :
    Except CatalogFailure MenuVerticalCatalogRuleDefinition :=
  match definitionOf (texts.toLowerCase storeTypeCode) with
  | some rule => .ok rule
  | none => .error (.failure .typeError)

/-! ## The assertion -/

/-- The first of each code that has not been seen. -/
def unseenCodes (texts : TextFunctions) :
    List String → List MenuVerticalStoreTypeSummary → List MenuVerticalStoreTypeSummary
  | _, [] => []
  | seenCodes, storeType :: storeTypes =>
    let key := texts.toLowerCase storeType.code
    if seenCodes.contains key then unseenCodes texts seenCodes storeTypes
    else storeType :: unseenCodes texts (key :: seenCodes) storeTypes

def comesFirst (texts : TextFunctions) (left right : MenuVerticalStoreTypeSummary) : Bool :=
  if left.sortOrder ≠ right.sortOrder then left.sortOrder < right.sortOrder
  else texts.localeCompare left.name right.name != .gt

def deduplicateStoreTypes (texts : TextFunctions) (storeTypes : List MenuVerticalStoreTypeSummary) :
    List MenuVerticalStoreTypeSummary :=
  unseenCodes texts [] (storeTypes.insertionSort fun left right => comesFirst texts left right)

def toProfile (texts : TextFunctions) (storeType : MenuVerticalStoreTypeSummary) :
    Except CatalogFailure MenuVerticalCatalogRuleProfile := do
  let rule ← resolveMenuVerticalCatalogRuleDefinition texts storeType.code
  return ⟨storeType.id, storeType.code, storeType.name, storeType.sortOrder, rule⟩

def buildMenuVerticalCatalogRuleProfiles (texts : TextFunctions)
    (storeTypes : List MenuVerticalStoreTypeSummary) :
    Except CatalogFailure (List MenuVerticalCatalogRuleProfile) :=
  (deduplicateStoreTypes texts storeTypes).mapM (toProfile texts)

def hasText (value : Option String) : Bool := value.any fun value => (trim value).length != 0

def isMissingRequiredField (field : String) (item : MenuVerticalCatalogRuleInput) : Bool :=
  if field = "sku" then ! hasText item.sku
  else if field = "brand" then ! hasText item.brand
  else false

/-- None are missing when there is one of them. -/
def missingAttributeKeys (texts : TextFunctions) (item : MenuVerticalCatalogRuleInput)
    (requiredAttributeKeysAnyOf : List String) : List String :=
  let attributeKeySet := (item.attributes.getD []).map texts.toLowerCase
  if requiredAttributeKeysAnyOf.any fun key =>
      attributeKeySet.contains (texts.toLowerCase key) then []
  else requiredAttributeKeysAnyOf

def toRuleViolation (texts : TextFunctions) (item : MenuVerticalCatalogRuleInput)
    (profile : MenuVerticalCatalogRuleProfile) : Option MenuVerticalCatalogRuleViolation :=
  let rule := profile.rule
  let missingFields := rule.requiredFields.filter fun field => isMissingRequiredField field item
  let missingAttributeKeysAnyOf := missingAttributeKeys texts item rule.requiredAttributeKeysAnyOf
  let stockTrackingRequired := rule.requiresStockTracking && ! item.isStockTracked
  if missingFields = [] ∧ missingAttributeKeysAnyOf = [] ∧ stockTrackingRequired = false then none
  else some {
    storeTypeId := profile.storeTypeId
    storeTypeCode := profile.storeTypeCode
    storeTypeName := profile.storeTypeName
    missingFields, stockTrackingRequired, missingAttributeKeysAnyOf }

def assertMenuVerticalCatalogRules (texts : TextFunctions)
    (storeTypes : List MenuVerticalStoreTypeSummary) (item : MenuVerticalCatalogRuleInput) :
    Except CatalogFailure Unit := do
  let profiles ← buildMenuVerticalCatalogRuleProfiles texts storeTypes
  let violations := profiles.filterMap (toRuleViolation texts item)
  if violations.isEmpty then return
  else throw (.verticalRuleViolations
    { message := "Menu item payload does not satisfy the catalog requirements for one or more " ++
        "effective store types."
      status := .badRequest, code := some "VALIDATION_FAILED" }
    (violations.map (·.storeTypeCode)) violations)

/-! ## What it passes -/

structure MeetsRule (texts : TextFunctions) (item : MenuVerticalCatalogRuleInput)
    (rule : MenuVerticalCatalogRuleDefinition) : Prop where
  fields : ∀ field ∈ rule.requiredFields, isMissingRequiredField field item = false
  tracked : rule.requiresStockTracking = true → item.isStockTracked = true
  attributes : rule.requiredAttributeKeysAnyOf ≠ [] → ∃ key ∈ rule.requiredAttributeKeysAnyOf,
    ∃ present ∈ item.attributes.getD [], texts.toLowerCase present = texts.toLowerCase key

/-- The rules of the kind of shop with the code. -/
def MeetsVertical (texts : TextFunctions) (item : MenuVerticalCatalogRuleInput) (code : String) :
    Prop := ∃ rule, definitionOf (texts.toLowerCase code) = some rule ∧ MeetsRule texts item rule

def MeetsAll (texts : TextFunctions) (item : MenuVerticalCatalogRuleInput)
    (storeTypes : List MenuVerticalStoreTypeSummary) : Prop :=
  ∀ storeType ∈ storeTypes, MeetsVertical texts item storeType.code

section Rules

variable {texts : TextFunctions} {item : MenuVerticalCatalogRuleInput}
  {storeTypes : List MenuVerticalStoreTypeSummary}

theorem mem_of_mem_unseenCodes {storeType : MenuVerticalStoreTypeSummary} (seenCodes : List String)
    (h : storeType ∈ unseenCodes texts seenCodes storeTypes) : storeType ∈ storeTypes := by
  induction storeTypes generalizing seenCodes with
  | nil => exact h
  | cons first rest ih =>
    rw [unseenCodes] at h
    split at h
    case isTrue => exact List.mem_cons_of_mem first (ih seenCodes h)
    case isFalse =>
      rcases List.mem_cons.mp h with rfl | hrest
      · exact List.mem_cons_self
      · exact List.mem_cons_of_mem first (ih _ hrest)

/-- A code that is left out has been seen, or stands for its like. -/
theorem exists_mem_unseenCodes {storeType : MenuVerticalStoreTypeSummary} (seenCodes : List String)
    (h : storeType ∈ storeTypes) : texts.toLowerCase storeType.code ∈ seenCodes ∨
      ∃ kept ∈ unseenCodes texts seenCodes storeTypes,
        texts.toLowerCase kept.code = texts.toLowerCase storeType.code := by
  induction storeTypes generalizing seenCodes with
  | nil => cases h
  | cons first rest ih =>
    rw [unseenCodes]
    rcases List.mem_cons.mp h with rfl | hrest
    · split
      case isTrue hseen => exact .inl (by simpa using hseen)
      case isFalse => exact .inr ⟨storeType, List.mem_cons_self, rfl⟩
    · split
      case isTrue => exact ih seenCodes hrest
      case isFalse =>
        rcases ih (texts.toLowerCase first.code :: seenCodes) hrest with
          hseen | ⟨kept, hkept, heq⟩
        · rcases List.mem_cons.mp hseen with heq | hseen
          · exact .inr ⟨first, List.mem_cons_self, heq.symm⟩
          · exact .inl hseen
        · exact .inr ⟨kept, List.mem_cons_of_mem first hkept, heq⟩

/-- **Each code is looked at once**, which is enough. -/
theorem meetsAll_deduplicate :
    MeetsAll texts item (deduplicateStoreTypes texts storeTypes) ↔
      MeetsAll texts item storeTypes := by
  have hsorted : ∀ storeType, storeType ∈ storeTypes.insertionSort
      (fun left right => comesFirst texts left right) ↔ storeType ∈ storeTypes := fun _ =>
    (List.perm_insertionSort _ _).mem_iff
  constructor
  · intro h storeType hmem
    rcases exists_mem_unseenCodes [] ((hsorted storeType).mpr hmem) with hseen | ⟨kept, hkept, heq⟩
    · cases hseen
    · obtain ⟨rule, hrule, hmeets⟩ := h kept hkept
      exact ⟨rule, heq ▸ hrule, hmeets⟩
  · exact fun h storeType hmem =>
      h storeType ((hsorted storeType).mp (mem_of_mem_unseenCodes [] hmem))

theorem missingAttributeKeys_eq_nil_iff {keys : List String} :
    missingAttributeKeys texts item keys = [] ↔ (keys ≠ [] → ∃ key ∈ keys,
      ∃ present ∈ item.attributes.getD [], texts.toLowerCase present = texts.toLowerCase key) := by
  have hany : (keys.any fun key => ((item.attributes.getD []).map texts.toLowerCase).contains
      (texts.toLowerCase key)) = true ↔ ∃ key ∈ keys, ∃ present ∈ item.attributes.getD [],
        texts.toLowerCase present = texts.toLowerCase key := by
    simp
  simp only [missingAttributeKeys]
  split
  case isTrue h => exact iff_of_true rfl fun _ => hany.mp h
  case isFalse h =>
    constructor
    · exact fun hnil hne => absurd hnil hne
    · exact fun hne => by_contra fun hnil => h (hany.mpr (hne hnil))

theorem toRuleViolation_eq_none_iff {profile : MenuVerticalCatalogRuleProfile} :
    toRuleViolation texts item profile = none ↔ MeetsRule texts item profile.rule := by
  have htracked : (profile.rule.requiresStockTracking && ! item.isStockTracked) = false ↔
      (profile.rule.requiresStockTracking = true → item.isStockTracked = true) := by
    cases profile.rule.requiresStockTracking <;> simp
  simp only [toRuleViolation, missingAttributeKeys_eq_nil_iff, htracked, List.filter_eq_nil_iff,
    Bool.not_eq_true]
  constructor
  · intro h
    split at h
    case isTrue hmeets => exact ⟨hmeets.1, hmeets.2.2, hmeets.2.1⟩
    case isFalse => cases h
  · exact fun hmeets => if_pos ⟨hmeets.fields, hmeets.attributes, hmeets.tracked⟩

theorem toProfile_ok_iff {storeType : MenuVerticalStoreTypeSummary}
    {profile : MenuVerticalCatalogRuleProfile} : toProfile texts storeType = .ok profile ↔
      (definitionOf (texts.toLowerCase storeType.code)).map (fun rule =>
        (⟨storeType.id, storeType.code, storeType.name, storeType.sortOrder, rule⟩ :
          MenuVerticalCatalogRuleProfile)) = some profile := by
  rw [toProfile, resolveMenuVerticalCatalogRuleDefinition]
  cases definitionOf (texts.toLowerCase storeType.code) with
  | none => exact iff_of_false (fun h => by cases h) (fun h => by cases h)
  | some rule => exact ⟨fun h => congrArg some (Except.ok.inj h), fun h =>
      congrArg Except.ok (Option.some.inj h)⟩

/-- **The assertion passes just the items that meet the rules of every store type.** -/
theorem assertMenuVerticalCatalogRules_ok_iff :
    assertMenuVerticalCatalogRules texts storeTypes item = .ok () ↔
      MeetsAll texts item storeTypes := by
  rw [← meetsAll_deduplicate, assertMenuVerticalCatalogRules, Checked.bind_ok_iff]
  simp only [buildMenuVerticalCatalogRuleProfiles, Checked.mapM_ok_iff fun _ _ => toProfile_ok_iff]
  constructor
  · rintro ⟨profiles, ⟨hdefined, rfl⟩, hpassed⟩ storeType hmem
    obtain ⟨profile, hprofile⟩ := Option.isSome_iff_exists.mp (hdefined storeType hmem)
    split at hpassed
    case isFalse => cases hpassed
    case isTrue hempty =>
      have hnone := List.filterMap_eq_nil_iff.mp (List.isEmpty_iff.mp hempty) profile
        (List.mem_filterMap.mpr ⟨storeType, hmem, hprofile⟩)
      obtain ⟨rule, hrule, rfl⟩ := Option.map_eq_some_iff.mp hprofile
      exact ⟨rule, hrule, toRuleViolation_eq_none_iff.mp hnone⟩
  · intro h
    refine ⟨_, ⟨fun storeType hmem => ?_, rfl⟩, if_pos ?_⟩
    · obtain ⟨rule, hrule, -⟩ := h storeType hmem
      rw [hrule]
      rfl
    · refine List.isEmpty_iff.mpr (List.filterMap_eq_nil_iff.mpr fun profile hprofile => ?_)
      obtain ⟨storeType, hmem, hprofile⟩ := List.mem_filterMap.mp hprofile
      obtain ⟨rule, hrule, hmeets⟩ := h storeType hmem
      rw [hrule] at hprofile
      obtain rfl := Option.some.inj hprofile
      exact toRuleViolation_eq_none_iff.mpr hmeets

end Rules

end WerTe.VerticalRules
