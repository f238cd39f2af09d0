import WerTe.Checked.Sequence
import WerTe.Checkout

/-!
# Selected options

The options of a line are checked twice: when they are selected, by the cart, and when the line is
ordered, by the checkout. Both look for the same (`SelectionValid`), beside the stock that is
needed (`InStock`), so both accept the same selections (`same_selections_accepted`).
-/

namespace WerTe

open ReadCommitted MenusRepository Checked

/-! ## What is looked for -/

section Selection

variable (db : Store) (menuItemId : Id) (optionIds : List Id)

/-- The options that are selected, as far as they are active ones of active groups of the item. -/
def selectedOptions : List (Id × ItemOption) :=
  optionIds.filterMap fun optionId => findActiveOption db (activeOptionGroups db menuItemId) optionId

/-- The options among them that select a variant. -/
def selectedVariantOptions : List Id :=
  ((selectedOptions db menuItemId optionIds).filter fun option =>
    (activeOptionGroups db menuItemId).any fun group =>
      group.1 == option.2.groupId && group.2.kind == .variantSelector).map Prod.fst

/-- How many options of the group are selected. -/
def selectedCount (groupId : Id) : ℤ :=
  ((selectedOptions db menuItemId optionIds).filter fun option => option.2.groupId == groupId).length

/-- The rules for a selection, stock aside. -/
structure SelectionValid : Prop where
  /-- every option is an active one of an active group of the item -/
  options : ∀ optionId ∈ optionIds,
    (findActiveOption db (activeOptionGroups db menuItemId) optionId).isSome
  /-- as many options of each active group are selected as it asks for -/
  groups : ∀ group ∈ activeOptionGroups db menuItemId,
    group.2.minSelect ≤ selectedCount db menuItemId optionIds group.1 ∧
      selectedCount db menuItemId optionIds group.1 ≤ group.2.maxSelect
  /-- a selection of variants is an active combination -/
  combination : selectedVariantOptions db menuItemId optionIds ≠ [] →
    (findActiveVariantCombination db menuItemId
      (selectedVariantOptions db menuItemId optionIds)).isSome

/-- There is enough left of what is selected. -/
structure InStock (quantity : ℤ) : Prop where
  options : ∀ option ∈ selectedOptions db menuItemId optionIds,
    option.2.stock.lacks quantity = false
  combination : selectedVariantOptions db menuItemId optionIds ≠ [] → ∀ combination,
    findActiveVariantCombination db menuItemId
      (selectedVariantOptions db menuItemId optionIds) = some combination →
        combination.2.stock.lacks quantity = false

end Selection

/-- The options of a line. -/
def CartAggregateItem.optionIds (item : CartAggregateItem) : List Id :=
  item.selectedOptions.map fun option => option.2.itemOptionId

variable {db : Store} {menuItemId : Id} {optionIds optionIds' : List Id} {quantity : ℤ}

/-! ## The order of a selection -/

theorem signature_perm (h : optionIds.Perm optionIds') :
    buildVariantCombinationSignature optionIds = buildVariantCombinationSignature optionIds' := by
  have hsorted : optionIds.dedup.insertionSort (· ≤ ·) = optionIds'.dedup.insertionSort (· ≤ ·) :=
    List.Perm.eq_of_pairwise' (List.pairwise_insertionSort _ _) (List.pairwise_insertionSort _ _)
      ((List.perm_insertionSort _ _).trans (h.dedup.trans (List.perm_insertionSort _ _).symm))
  rw [buildVariantCombinationSignature, hsorted, buildVariantCombinationSignature]

theorem findActiveVariantCombination_perm (h : optionIds.Perm optionIds') :
    findActiveVariantCombination db menuItemId optionIds =
      findActiveVariantCombination db menuItemId optionIds' := by
  rw [findActiveVariantCombination, signature_perm h, findActiveVariantCombination]

theorem selectedOptions_perm (h : optionIds.Perm optionIds') :
    (selectedOptions db menuItemId optionIds).Perm (selectedOptions db menuItemId optionIds') :=
  h.filterMap _

theorem selectedVariantOptions_perm (db : Store) (menuItemId : Id)
    (h : optionIds.Perm optionIds') :
    (selectedVariantOptions db menuItemId optionIds).Perm
      (selectedVariantOptions db menuItemId optionIds') :=
  ((selectedOptions_perm h).filter _).map _

/-- The rules do not depend on the order in which the options are selected. -/
theorem SelectionValid.perm (h : optionIds.Perm optionIds')
    (hvalid : SelectionValid db menuItemId optionIds) :
    SelectionValid db menuItemId optionIds' := by
  have hvariants := selectedVariantOptions_perm db menuItemId h
  refine ⟨fun optionId hmem => hvalid.options optionId (h.mem_iff.mpr hmem), fun group hgroup => ?_,
    fun hne => ?_⟩
  · have hcount : selectedCount db menuItemId optionIds group.1 =
        selectedCount db menuItemId optionIds' group.1 := by
      rw [selectedCount, ((selectedOptions_perm h).filter _).length_eq, selectedCount]
    rw [← hcount]
    exact hvalid.groups group hgroup
  · rw [← findActiveVariantCombination_perm hvariants]
    exact hvalid.combination fun hnil => hne (List.perm_nil.mp (hnil ▸ hvariants.symm))

theorem InStock.perm (h : optionIds.Perm optionIds')
    (hstock : InStock db menuItemId optionIds quantity) :
    InStock db menuItemId optionIds' quantity := by
  have hvariants := selectedVariantOptions_perm db menuItemId h
  refine ⟨fun option hmem => hstock.options option ((selectedOptions_perm h).mem_iff.mpr hmem),
    fun hne combination hfound => ?_⟩
  rw [← findActiveVariantCombination_perm hvariants] at hfound
  exact hstock.combination (fun hnil => hne (List.perm_nil.mp (hnil ▸ hvariants.symm)))
    combination hfound

/-! ## The cart -/

theorem CartMutation.assertGroupSelection_ok_iff {group : Id × ItemOptionGroup} :
    CartMutation.assertGroupSelection (selectedOptions db menuItemId optionIds) group = .ok () ↔
      group.2.minSelect ≤ selectedCount db menuItemId optionIds group.1 ∧
        selectedCount db menuItemId optionIds group.1 ≤ group.2.maxSelect := by
  rw [CartMutation.assertGroupSelection, ← selectedCount]
  split_ifs with h
  · simp [h]
  · simp [h]

theorem CartMutation.assertSelectedOptionsHaveAvailableStock_ok_iff
    {selected : List (Id × ItemOption)} :
    CartMutation.assertSelectedOptionsHaveAvailableStock selected quantity = .ok () ↔
      ∀ option ∈ selected, option.2.stock.lacks quantity = false := by
  rw [CartMutation.assertSelectedOptionsHaveAvailableStock]
  cases hfind : selected.find? fun option => option.2.stock.lacks quantity with
  | none => simpa using hfind
  | some unavailable =>
    have hlacks := List.find?_some hfind
    simp only [reduceCtorEq, false_iff]
    intro hall
    rw [hall unavailable (List.mem_of_find?_eq_some hfind)] at hlacks
    cases hlacks

/-- A combination that is there and has enough left, if variants are selected. -/
theorem combination_iff (db : Store) (menuItemId : Id) (optionIds : List Id) (quantity : ℤ) :
    (selectedVariantOptions db menuItemId optionIds ≠ [] →
      ∃ combination, findActiveVariantCombination db menuItemId
        (selectedVariantOptions db menuItemId optionIds) = some combination ∧
          combination.2.stock.lacks quantity = false) ↔
    (selectedVariantOptions db menuItemId optionIds ≠ [] →
      (findActiveVariantCombination db menuItemId
        (selectedVariantOptions db menuItemId optionIds)).isSome) ∧
    (selectedVariantOptions db menuItemId optionIds ≠ [] → ∀ combination,
      findActiveVariantCombination db menuItemId
        (selectedVariantOptions db menuItemId optionIds) = some combination →
          combination.2.stock.lacks quantity = false) := by
  rw [← forall_and]
  refine forall_congr' fun _ => ?_
  cases findActiveVariantCombination db menuItemId
    (selectedVariantOptions db menuItemId optionIds) <;> simp

theorem CartMutation.assertSelectedVariantCombinationIsValid_ok_iff :
    CartMutation.assertSelectedVariantCombinationIsValid db menuItemId
        (activeOptionGroups db menuItemId) (selectedOptions db menuItemId optionIds) quantity =
      .ok () ↔ (selectedVariantOptions db menuItemId optionIds ≠ [] →
        ∃ combination, findActiveVariantCombination db menuItemId
          (selectedVariantOptions db menuItemId optionIds) = some combination ∧
            combination.2.stock.lacks quantity = false) := by
  simp only [CartMutation.assertSelectedVariantCombinationIsValid]
  rw [← selectedVariantOptions]
  by_cases hnil : selectedVariantOptions db menuItemId optionIds = []
  · simp [hnil]
  · rw [if_neg hnil]
    cases findActiveVariantCombination db menuItemId
      (selectedVariantOptions db menuItemId optionIds) with
    | none => simp [hnil]
    | some combination =>
      by_cases hlacks : combination.2.stock.lacks quantity = true
      · simp [hlacks, hnil]
      · simp [hlacks]

/-- The cart accepts a selection. -/
theorem resolveSelectedOptionsForMenuItem_ok_iff :
    (∃ selected, CartMutation.resolveSelectedOptionsForMenuItem db menuItemId optionIds quantity =
      .ok selected) ↔ optionIds.Nodup ∧ SelectionValid db menuItemId optionIds ∧
        InStock db menuItemId optionIds quantity := by
  have hcombination := combination_iff db menuItemId optionIds quantity
  simp only [CartMutation.resolveSelectedOptionsForMenuItem, bind_ok_iff]
  constructor
  · rintro ⟨selected, ⟨⟩, hnodup, selected', hmap, ⟨⟩, hgroups, ⟨⟩, hstock, ⟨⟩, hvariant, -⟩
    rw [mapM_ok_iff (o := findActiveOption db (activeOptionGroups db menuItemId))] at hmap
    · obtain ⟨hoptions, rfl⟩ := hmap
      rw [← selectedOptions] at hgroups hstock hvariant
      rw [forM_ok_iff] at hgroups
      rw [CartMutation.assertSelectedVariantCombinationIsValid_ok_iff, hcombination] at hvariant
      rw [CartMutation.assertSelectedOptionsHaveAvailableStock_ok_iff] at hstock
      refine ⟨?_, ⟨hoptions, fun group hgroup => ?_, hvariant.1⟩, hstock, hvariant.2⟩
      · unfold CartMutation.assertNoDuplicateOptionSelection at hnodup
        split at hnodup
        · assumption
        · cases hnodup
      · exact CartMutation.assertGroupSelection_ok_iff.mp (hgroups group hgroup)
    · intro optionId option
      cases findActiveOption db (activeOptionGroups db menuItemId) optionId <;> simp
  · rintro ⟨hnodup, hvalid, hstock⟩
    refine ⟨selectedOptions db menuItemId optionIds, (), ?_, _,
      (mapM_ok_iff (o := findActiveOption db (activeOptionGroups db menuItemId)) ?_ _ _).mpr
        ⟨hvalid.options, rfl⟩, (), ?_, (), ?_, (), ?_, rfl⟩
    · rw [CartMutation.assertNoDuplicateOptionSelection, if_pos hnodup]
    · intro optionId option
      cases findActiveOption db (activeOptionGroups db menuItemId) optionId <;> simp
    · exact (forM_ok_iff _).mpr fun group hgroup =>
        CartMutation.assertGroupSelection_ok_iff.mpr (hvalid.groups group hgroup)
    · exact CartMutation.assertSelectedOptionsHaveAvailableStock_ok_iff.mpr hstock.options
    · exact CartMutation.assertSelectedVariantCombinationIsValid_ok_iff.mpr
        (hcombination.mpr ⟨hvalid.combination, hstock.combination⟩)

/-! ## The checkout -/

/-- What is checked of a line apart from its item. -/
def CheckoutValidation.assertCartItemSelectionsRemainValid (db : Store) (item : CartAggregateItem) :
    Except Failure Unit := do
  let groups := activeOptionGroups db item.item.menuItemId
  let selected ← item.selectedOptions.mapM fun option =>
    assertSelectedOptionRemainsValid db groups item option.2.itemOptionId
  groups.forM fun group => assertGroupSelection item selected group
  assertSelectedVariantCombinationRemainsAvailable db item groups selected

open CheckoutValidation

theorem checkCartItem_ok_iff {item : CartAggregateItem} : checkCartItem db item = .ok () ↔
    assertMenuItemInventoryRemainsAvailable db item = .ok () ∧
      assertCartItemSelectionsRemainValid db item = .ok () := by
  refine (bind_ok_iff (x := assertMenuItemInventoryRemainsAvailable db item)
    (f := fun _ => assertCartItemSelectionsRemainValid db item)).trans ?_
  constructor
  · rintro ⟨⟨⟩, h⟩
    exact h
  · exact fun h => ⟨(), h⟩

theorem assertSelectedOptionRemainsValid_ok_iff {groups : List (Id × ItemOptionGroup)}
    {item : CartAggregateItem} {optionId : Id} {option : Id × ItemOption} :
    assertSelectedOptionRemainsValid db groups item optionId = .ok option ↔
      (findActiveOption db groups optionId).filter
        (fun option => !option.2.stock.lacks item.item.quantity) = some option := by
  rw [assertSelectedOptionRemainsValid]
  cases findActiveOption db groups optionId with
  | none => simp
  | some found =>
    by_cases hlacks : found.2.stock.lacks item.item.quantity = true
    · simp [hlacks, Option.filter]
    · simp [hlacks, Option.filter]

theorem assertSelectedVariantCombinationRemainsAvailable_ok_iff {item : CartAggregateItem} :
    assertSelectedVariantCombinationRemainsAvailable db item
        (activeOptionGroups db item.item.menuItemId)
        (selectedOptions db item.item.menuItemId optionIds) = .ok () ↔
      (selectedVariantOptions db item.item.menuItemId optionIds ≠ [] →
        ∃ combination, findActiveVariantCombination db item.item.menuItemId
          (selectedVariantOptions db item.item.menuItemId optionIds) = some combination ∧
            combination.2.stock.lacks item.item.quantity = false) := by
  simp only [assertSelectedVariantCombinationRemainsAvailable]
  rw [← selectedVariantOptions]
  by_cases hnil : selectedVariantOptions db item.item.menuItemId optionIds = []
  · simp [hnil]
  · rw [if_neg hnil]
    cases findActiveVariantCombination db item.item.menuItemId
      (selectedVariantOptions db item.item.menuItemId optionIds) with
    | none => simp [hnil]
    | some combination =>
      by_cases hlacks : combination.2.stock.lacks item.item.quantity = true
      · simp [hlacks, hnil]
      · simp [hlacks]

theorem assertGroupSelection_ok_iff {item : CartAggregateItem} {group : Id × ItemOptionGroup} :
    assertGroupSelection item (selectedOptions db menuItemId optionIds) group = .ok () ↔
      group.2.minSelect ≤ selectedCount db menuItemId optionIds group.1 ∧
        selectedCount db menuItemId optionIds group.1 ≤ group.2.maxSelect := by
  rw [assertGroupSelection, ← selectedCount]
  split_ifs with h
  · simp [h]
  · simp [h]

/-- The checkout looks for the stock of an option as soon as it has found it. -/
theorem options_in_stock_iff {item : CartAggregateItem} :
    (∀ option ∈ item.selectedOptions, ((findActiveOption db (activeOptionGroups db menuItemId)
        option.2.itemOptionId).filter fun option => !option.2.stock.lacks quantity).isSome) ↔
      (∀ optionId ∈ item.optionIds,
        (findActiveOption db (activeOptionGroups db menuItemId) optionId).isSome) ∧
      ∀ option ∈ selectedOptions db menuItemId item.optionIds,
        option.2.stock.lacks quantity = false := by
  constructor
  · refine fun hall => ⟨fun optionId hmem => ?_, fun option hmem => ?_⟩
    · obtain ⟨row, hrow, rfl⟩ := List.mem_map.mp hmem
      obtain ⟨option, hoption⟩ := Option.isSome_iff_exists.mp (hall row hrow)
      rw [(Option.filter_eq_some_iff.mp hoption).1]
      rfl
    · obtain ⟨optionId, hid, hfind⟩ := List.mem_filterMap.mp hmem
      obtain ⟨row, hrow, rfl⟩ := List.mem_map.mp hid
      have hstock := hall row hrow
      rw [hfind, Option.isSome_filter] at hstock
      simpa using hstock
  · rintro ⟨hactive, hstock⟩ row hrow
    have hid : row.2.itemOptionId ∈ item.optionIds := List.mem_map_of_mem hrow
    obtain ⟨option, hfind⟩ := Option.isSome_iff_exists.mp (hactive _ hid)
    have hleft := hstock option (List.mem_filterMap.mpr ⟨_, hid, hfind⟩)
    rw [hfind, Option.isSome_filter]
    simp [hleft]

/-- The checkout accepts the selection of a line. -/
theorem assertCartItemSelectionsRemainValid_ok_iff {item : CartAggregateItem} :
    assertCartItemSelectionsRemainValid db item = .ok () ↔
      SelectionValid db item.item.menuItemId item.optionIds ∧
        InStock db item.item.menuItemId item.optionIds item.item.quantity := by
  have hselected : item.selectedOptions.filterMap (fun option => (findActiveOption db
      (activeOptionGroups db item.item.menuItemId) option.2.itemOptionId).filter
        fun option => !option.2.stock.lacks item.item.quantity) =
      (selectedOptions db item.item.menuItemId item.optionIds).filter
        fun option => !option.2.stock.lacks item.item.quantity := by
    rw [selectedOptions, CartAggregateItem.optionIds, List.filterMap_map, List.filter_filterMap]
    rfl
  have hcombination :=
    combination_iff db item.item.menuItemId item.optionIds item.item.quantity
  simp only [assertCartItemSelectionsRemainValid, bind_ok_iff]
  constructor
  · rintro ⟨selected, hmap, ⟨⟩, hgroups, hvariant⟩
    obtain ⟨hall, rfl⟩ := (mapM_ok_iff
      (fun _ _ => assertSelectedOptionRemainsValid_ok_iff) _ _).mp hmap
    obtain ⟨hactive, hstock⟩ := options_in_stock_iff.mp hall
    rw [hselected, List.filter_eq_self.mpr (by simpa using hstock)] at hgroups hvariant
    rw [assertSelectedVariantCombinationRemainsAvailable_ok_iff, hcombination] at hvariant
    rw [forM_ok_iff] at hgroups
    exact ⟨⟨hactive, fun group hgroup => assertGroupSelection_ok_iff.mp (hgroups group hgroup),
      hvariant.1⟩, hstock, hvariant.2⟩
  · rintro ⟨hvalid, hstock⟩
    refine ⟨_, (mapM_ok_iff (fun _ _ => assertSelectedOptionRemainsValid_ok_iff) _ _).mpr
      ⟨options_in_stock_iff.mpr ⟨hvalid.options, hstock.options⟩, rfl⟩, (), ?_, ?_⟩
    · rw [hselected, List.filter_eq_self.mpr (by simpa using hstock.options), forM_ok_iff]
      exact fun group hgroup => assertGroupSelection_ok_iff.mpr (hvalid.groups group hgroup)
    · rw [hselected, List.filter_eq_self.mpr (by simpa using hstock.options),
        assertSelectedVariantCombinationRemainsAvailable_ok_iff, hcombination]
      exact ⟨hvalid.combination, hstock.combination⟩

/-! ## Both -/

/-- **The same selections are accepted.** Let a line have the options that are selected, in any
order and each once. Stock aside, the cart accepts them exactly when the checkout accepts the line's
selection, and stock included, when the quantity is the line's. The checkout then accepts the line
if its item passes. -/
theorem same_selections_accepted {db : Store} {item : CartAggregateItem} {optionIds : List Id}
    {quantity : ℤ} (hnodup : optionIds.Nodup) (hline : item.optionIds.Perm optionIds) :
    (InStock db item.item.menuItemId optionIds quantity →
      InStock db item.item.menuItemId optionIds item.item.quantity →
        ((∃ selected, CartMutation.resolveSelectedOptionsForMenuItem db item.item.menuItemId
          optionIds quantity = .ok selected) ↔
            assertCartItemSelectionsRemainValid db item = .ok ())) ∧
    ((∃ selected, CartMutation.resolveSelectedOptionsForMenuItem db item.item.menuItemId
      optionIds item.item.quantity = .ok selected) ↔
        assertCartItemSelectionsRemainValid db item = .ok ()) ∧
    (assertMenuItemInventoryRemainsAvailable db item = .ok () →
      (checkCartItem db item = .ok () ↔ assertCartItemSelectionsRemainValid db item = .ok ())) := by
  have hvalid : SelectionValid db item.item.menuItemId item.optionIds ↔
      SelectionValid db item.item.menuItemId optionIds :=
    ⟨.perm hline, .perm hline.symm⟩
  have hstock : InStock db item.item.menuItemId item.optionIds item.item.quantity ↔
      InStock db item.item.menuItemId optionIds item.item.quantity :=
    ⟨.perm hline, .perm hline.symm⟩
  refine ⟨fun hcart hcheckout => ?_, ?_, fun hitem => ?_⟩
  · rw [resolveSelectedOptionsForMenuItem_ok_iff, assertCartItemSelectionsRemainValid_ok_iff,
      hvalid, hstock, and_iff_right hnodup, and_iff_left hcart, and_iff_left hcheckout]
  · rw [resolveSelectedOptionsForMenuItem_ok_iff, assertCartItemSelectionsRemainValid_ok_iff,
      hvalid, hstock, and_iff_right hnodup]
  · rw [checkCartItem_ok_iff, and_iff_right hitem]

/-- A cup of tea with milk, in the cart. -/
def milkTeaItem : CartAggregateItem where
  cartItemId := 1
  item := ⟨1, 1, 2, 1700, 3400, 0⟩
  menuItem := ⟨1, "Tea", 1500, .tracking 5, true⟩
  selectedOptions := [(1, ⟨1, 1, 200, 0⟩)]

/-- The cart accepts one cup with milk, and the checkout accepts two. -/
theorem same_selections_accepted_teaShop :
    (∃ selected, CartMutation.resolveSelectedOptionsForMenuItem teaShop 1 [1] 1 = .ok selected) ∧
      checkCartItem teaShop milkTeaItem = .ok () := by
  have hstock : ∀ quantity ≤ 9, InStock teaShop 1 [1] quantity := by
    intro quantity hle
    refine ⟨fun option hoption => ?_, fun hvariants => absurd (by decide) hvariants⟩
    have honly : selectedOptions teaShop 1 [1] =
        [(1, ⟨1, "Milk", 200, .tracking 9, 0, true⟩)] := by decide +kernel
    rw [honly, List.mem_singleton] at hoption
    rw [hoption]
    exact decide_eq_false (not_lt.mpr hle)
  have hitem : assertMenuItemInventoryRemainsAvailable teaShop milkTeaItem = .ok () := by
    decide +kernel
  have hselection : assertCartItemSelectionsRemainValid teaShop milkTeaItem = .ok () := by
    decide +kernel
  have honce : ([1] : List Id).Nodup := by decide
  have hline : milkTeaItem.optionIds.Perm [1] := .refl _
  obtain ⟨haside, -, hitself⟩ := same_selections_accepted honce hline
  exact ⟨(haside (hstock 1 (by decide)) (hstock 2 (by decide))).mpr hselection,
    (hitself hitem).mpr hselection⟩

end WerTe
