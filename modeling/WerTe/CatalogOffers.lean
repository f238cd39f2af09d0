import WerTe.Allocation.Greedy
import WerTe.BranchCatalog
import WerTe.CartTotals
import WerTe.OrderLines
import WerTe.ReadCommitted.Alone
import WerTe.VariantLinks

/-!
# What the catalog offers

Customers pick from the catalog what they put into their cart. The catalog is put together by the
menus module, of everything that belongs to the branch; what is picked is checked by the cart,
query by query, and a combination of variants is looked up there by its signature, which the
catalog does not know. Both come to the same: of an item that the catalog shows, the cart accepts
what the catalog offers, and nothing else (`offers_iff`).
-/

namespace WerTe

open ReadCommitted MenusRepository BranchCatalog VariantLinks CartsRepository CartPricing Checked

/-! ## What is offered -/

/-- The picked options that are of the group. -/
def CatalogOptionGroup.picked (group : CatalogOptionGroup) (optionIds : List Id) : List Id :=
  optionIds.filter fun optionId => group.options.any fun option => option.optionId == optionId

namespace CatalogMenuItem

/-- The picked options that select a variant. -/
def pickedVariant (item : CatalogMenuItem) (optionIds : List Id) : List Id :=
  optionIds.filter fun optionId => item.optionGroups.any fun group =>
    group.kind == .variantSelector && group.options.any fun option => option.optionId == optionId

/-- What customers may pick of an item, by what they see of it. -/
structure Offers (item : CatalogMenuItem) (optionIds : List Id) (quantity : ℤ) : Prop where
  /-- no option twice -/
  once : optionIds.Nodup
  /-- every option is shown, and there is enough of it -/
  options : ∀ optionId ∈ optionIds, ∃ group ∈ item.optionGroups, ∃ option ∈ group.options,
    option.optionId = optionId ∧ option.stock.lacks quantity = false
  /-- as many options of every group that is shown as it asks for -/
  groups : ∀ group ∈ item.optionGroups, group.minSelect ≤ (group.picked optionIds).length ∧
    (group.picked optionIds).length ≤ group.maxSelect
  /-- the variants make up a combination that is shown, and there is enough of it -/
  combination : item.pickedVariant optionIds ≠ [] → ∃ combination ∈ item.variantCombinations,
    combination.stock.lacks quantity = false ∧ ∀ optionId,
      optionId ∈ combination.selectedOptions.map (·.optionId) ↔
        optionId ∈ item.pickedVariant optionIds

end CatalogMenuItem

/-! ## What is shown of an item -/

section Shown

variable (layout : MenuLayout) (db : Store)

/-- A group as customers see it. -/
abbrev shownGroup (group : Id × ItemOptionGroup) : CatalogOptionGroup :=
  buildOptionGroup true (includeOptionGroup layout db group)

/-- An item as customers see it. -/
abbrev shownItem (item : Id × MenuItem) : CatalogMenuItem :=
  buildMenuItem true (includeMenuItem layout db item)

end Shown

variable {layout : MenuLayout} {db : Store} {menuItemId : Id} {optionIds : List Id}
  {quantity : ℤ} {item : Id × MenuItem} {group : Id × ItemOptionGroup}

theorem mem_optionGroups {shown : CatalogOptionGroup} :
    shown ∈ (shownItem layout db item).optionGroups ↔
      ∃ group ∈ activeOptionGroups db item.1, shownGroup layout db group = shown := by
  simp only [shownItem, buildMenuItem, includeMenuItem, List.mem_map, List.mem_filter,
    MenuLayout.mem_inOrder]
  constructor
  · rintro ⟨record, ⟨⟨group, hmem, rfl⟩, hactive⟩, rfl⟩
    obtain ⟨hget, hitem⟩ := Db.mem_list.mp hmem
    exact ⟨group, mem_activeOptionGroups.mpr ⟨hget, by simpa using hitem, hactive⟩, rfl⟩
  · rintro ⟨group, hgroup, rfl⟩
    obtain ⟨hget, hitem, hactive⟩ := mem_activeOptionGroups.mp hgroup
    exact ⟨_, ⟨⟨group, Db.mem_list.mpr ⟨hget, by simpa using hitem⟩, rfl⟩, hactive⟩, rfl⟩

theorem mem_options {shown : CatalogOption} : shown ∈ (shownGroup layout db group).options ↔
    ∃ option : ItemOption, db.get (.itemOption, shown.optionId) = some option ∧
      option.groupId = group.1 ∧ option.isActive = true ∧
        buildOption (shown.optionId, option) = shown := by
  simp only [shownGroup, buildOptionGroup, includeOptionGroup, List.mem_map, List.mem_filter,
    MenuLayout.mem_inOrder]
  constructor
  · rintro ⟨option, ⟨hmem, hactive⟩, rfl⟩
    obtain ⟨hget, hgroup⟩ := Db.mem_list.mp hmem
    exact ⟨option.2, hget, by simpa using hgroup, by simpa using hactive, rfl⟩
  · rintro ⟨option, hget, hgroup, hactive, hshown⟩
    exact ⟨(shown.optionId, option),
      ⟨Db.mem_list.mpr ⟨hget, by simpa using hgroup⟩, by simpa using hactive⟩, hshown⟩

theorem findActiveOption_eq_some {groups : List (Id × ItemOptionGroup)} {optionId : Id}
    {option : Id × ItemOption} : findActiveOption db groups optionId = some option ↔
      option.1 = optionId ∧ db.get (.itemOption, optionId) = some option.2 ∧
        option.2.isActive = true ∧ ∃ group ∈ groups, group.1 = option.2.groupId := by
  simp only [findActiveOption, Option.map_eq_some_iff, Option.filter_eq_some_iff, Bool.and_eq_true,
    List.any_eq_true, beq_iff_eq]
  constructor
  · rintro ⟨found, ⟨hget, hactive, hgroup⟩, rfl⟩
    exact ⟨rfl, hget, hactive, hgroup⟩
  · rintro ⟨rfl, hget, hactive, hgroup⟩
    exact ⟨option.2, ⟨hget, hactive, hgroup⟩, rfl⟩

/-- An option that a group shows. -/
theorem any_options {optionId : Id} :
    ((shownGroup layout db group).options.any fun option => option.optionId == optionId) = true ↔
      ∃ option : ItemOption, db.get (.itemOption, optionId) = some option ∧
        option.groupId = group.1 ∧ option.isActive = true := by
  rw [List.any_eq_true]
  constructor
  · rintro ⟨shown, hshown, hid⟩
    obtain ⟨option, hget, hgroup, hactive, -⟩ := mem_options.mp hshown
    rw [eq_of_beq hid] at hget
    exact ⟨option, hget, hgroup, hactive⟩
  · rintro ⟨option, hget, hgroup, hactive⟩
    exact ⟨buildOption (optionId, option), mem_options.mpr ⟨option, hget, hgroup, hactive, rfl⟩,
      beq_self_eq_true optionId⟩

/-! ## The counts -/

/-- An active option of the group, among those of the item. -/
theorem findActiveOption_filter (layout : MenuLayout) {optionId : Id}
    (hgroup : group ∈ activeOptionGroups db menuItemId) :
    ((findActiveOption db (activeOptionGroups db menuItemId) optionId).filter
      fun option => option.2.groupId == group.1).isSome =
        (shownGroup layout db group).options.any fun option => option.optionId == optionId := by
  rw [Bool.eq_iff_iff, any_options, Option.isSome_iff_exists]
  constructor
  · rintro ⟨option, hoption⟩
    obtain ⟨hfind, hid⟩ := Option.filter_eq_some_iff.mp hoption
    obtain ⟨-, hget, hactive, -⟩ := findActiveOption_eq_some.mp hfind
    exact ⟨option.2, hget, eq_of_beq hid, hactive⟩
  · rintro ⟨option, hget, hid, hactive⟩
    refine ⟨(optionId, option), Option.filter_eq_some_iff.mpr
      ⟨findActiveOption_eq_some.mpr ⟨rfl, hget, hactive, group, hgroup, hid.symm⟩, ?_⟩⟩
    exact beq_iff_eq.mpr hid

/-- As many are selected of a group as are picked of it. -/
theorem selectedCount_eq (layout : MenuLayout) (hgroup : group ∈ activeOptionGroups db menuItemId) :
    selectedCount db menuItemId optionIds group.1 =
      ((shownGroup layout db group).picked optionIds).length := by
  rw [selectedCount, selectedOptions, List.filter_filterMap, List.length_filterMap_eq_countP,
    List.countP_eq_length_filter, CatalogOptionGroup.picked]
  simp only [findActiveOption_filter layout hgroup]

/-! ## The variants -/

/-- What is looked up keeps its id. -/
theorem map_fst_filterMap {α : Type} {f : Id → Option (Id × α)}
    (hf : ∀ id a, f id = some a → a.1 = id) (ids : List Id) :
    (ids.filterMap f).map Prod.fst = ids.filter fun id => (f id).isSome := by
  induction ids with
  | nil => rfl
  | cons id ids ih =>
    cases hid : f id with
    | none => simp [hid, ih]
    | some a => simp [hid, ih, hf id a hid]

/-- The same variants are selected as are picked. -/
theorem selectedVariantOptions_shown (layout : MenuLayout) :
    selectedVariantOptions db item.1 optionIds =
      (shownItem layout db item).pickedVariant optionIds := by
  rw [selectedVariantOptions, selectedOptions, List.filter_filterMap, map_fst_filterMap,
    CatalogMenuItem.pickedVariant]
  · refine List.filter_congr fun optionId _ => ?_
    rw [Bool.eq_iff_iff, Option.isSome_iff_exists, List.any_eq_true]
    constructor
    · rintro ⟨option, hoption⟩
      obtain ⟨hfind, hvariant⟩ := Option.filter_eq_some_iff.mp hoption
      obtain ⟨group, hgroup, hkind⟩ := List.any_eq_true.mp hvariant
      obtain ⟨hid, hkind⟩ := Bool.and_eq_true_iff.mp hkind
      obtain ⟨-, hget, hactive, -⟩ := findActiveOption_eq_some.mp hfind
      refine ⟨_, mem_optionGroups.mpr ⟨group, hgroup, rfl⟩, Bool.and_eq_true_iff.mpr ⟨hkind, ?_⟩⟩
      exact any_options.mpr ⟨option.2, hget, (eq_of_beq hid).symm, hactive⟩
    · rintro ⟨shown, hshown, hkind⟩
      obtain ⟨group, hgroup, rfl⟩ := mem_optionGroups.mp hshown
      obtain ⟨hkind, hany⟩ := Bool.and_eq_true_iff.mp hkind
      obtain ⟨option, hget, hid, hactive⟩ := any_options.mp hany
      refine ⟨(optionId, option), Option.filter_eq_some_iff.mpr
        ⟨findActiveOption_eq_some.mpr ⟨rfl, hget, hactive, group, hgroup, hid.symm⟩, ?_⟩⟩
      refine List.any_eq_true.mpr ⟨group, hgroup, Bool.and_eq_true_iff.mpr ⟨?_, hkind⟩⟩
      exact beq_iff_eq.mpr hid.symm
  · intro optionId option hoption
    exact (findActiveOption_eq_some.mp (Option.filter_eq_some_iff.mp hoption).1).1

/-! ## The combinations -/

/-- The options that combinations are of are there, and so are their groups. -/
def LinksThere (db : Store) : Prop :=
  ∀ id (combination : ItemVariantCombination),
    db.get (.itemVariantCombination, id) = some combination →
      ∀ optionId ∈ combination.optionIds, ∃ link, includeOptionLink db optionId = some link

theorem includeOptionLink_eq_some {optionId : Id} {link : CatalogOptionLink} :
    includeOptionLink db optionId = some link ↔ link.optionId = optionId ∧
      db.get (.itemOption, optionId) = some link.option ∧
        db.get (.itemOptionGroup, link.option.groupId) = some link.group := by
  rw [includeOptionLink, Option.bind_eq_bind, Option.bind_eq_some_iff]
  constructor
  · rintro ⟨option, hoption, hlink⟩
    obtain ⟨group, hgroup, hlink⟩ := Option.bind_eq_some_iff.mp hlink
    cases hlink
    exact ⟨rfl, hoption, hgroup⟩
  · rintro ⟨rfl, hoption, hgroup⟩
    exact ⟨link.option, hoption, Option.bind_eq_some_iff.mpr ⟨link.group, hgroup, rfl⟩⟩

theorem mem_optionLinks {combination : Id × ItemVariantCombination} {link : CatalogOptionLink} :
    link ∈ (includeVariantCombination db combination).optionLinks ↔
      link.optionId ∈ combination.2.optionIds ∧
        includeOptionLink db link.optionId = some link := by
  simp only [includeVariantCombination, List.mem_filterMap, List.mem_insertionSort]
  constructor
  · rintro ⟨optionId, hmem, hlink⟩
    rw [(includeOptionLink_eq_some.mp hlink).1]
    exact ⟨hmem, hlink⟩
  · rintro ⟨hmem, hlink⟩
    exact ⟨link.optionId, hmem, hlink⟩

/-- A combination as customers see it is of the options that it is linked to. -/
theorem mem_selectedOptions (hlinks : LinksThere db) {combination : Id × ItemVariantCombination}
    (hget : db.get (.itemVariantCombination, combination.1) = some combination.2) {optionId : Id} :
    optionId ∈ (buildVariantCombination
        (includeVariantCombination db combination)).selectedOptions.map (·.optionId) ↔
      optionId ∈ combination.2.optionIds := by
  simp only [buildVariantCombination, List.map_map, List.mem_map, List.mem_insertionSort,
    mem_optionLinks]
  constructor
  · rintro ⟨link, ⟨hmem, -⟩, rfl⟩
    exact hmem
  · intro hmem
    obtain ⟨link, hlink⟩ := hlinks combination.1 combination.2 hget optionId hmem
    obtain ⟨rfl, -, -⟩ := includeOptionLink_eq_some.mp hlink
    exact ⟨link, ⟨hmem, hlink⟩, rfl⟩

theorem mem_variantCombinations {shown : CatalogVariantCombination} :
    shown ∈ (shownItem layout db item).variantCombinations ↔
      ∃ combination : Id × ItemVariantCombination,
        db.get (.itemVariantCombination, combination.1) = some combination.2 ∧
          combination.2.menuItemId = item.1 ∧ combination.2.isActive = true ∧
          (∀ link ∈ (includeVariantCombination db combination).optionLinks,
            link.option.isActive = true ∧ link.group.isActive = true) ∧
          buildVariantCombination (includeVariantCombination db combination) = shown := by
  simp only [shownItem, buildMenuItem, includeMenuItem, List.mem_map, List.mem_filter,
    MenuLayout.mem_inOrder, isVariantCombinationVisible, Bool.not_true, Bool.false_or,
    Bool.and_eq_true, List.all_eq_true]
  constructor
  · rintro ⟨record, ⟨⟨combination, hmem, rfl⟩, hactive, hlinks⟩, rfl⟩
    obtain ⟨hget, hitem⟩ := Db.mem_list.mp hmem
    exact ⟨combination, hget, by simpa using hitem, hactive, hlinks, rfl⟩
  · rintro ⟨combination, hget, hitem, hactive, hlinks, rfl⟩
    exact ⟨_, ⟨⟨combination, Db.mem_list.mpr ⟨hget, by simpa using hitem⟩, rfl⟩, hactive, hlinks⟩,
      rfl⟩

/-- The combination that is looked up for variants is linked to these, and to no others. -/
theorem findActiveVariantCombination_links (hwell : WellFormed db) {variants : List Id}
    {combination : Id × ItemVariantCombination}
    (hfind : findActiveVariantCombination db menuItemId variants = some combination) :
    db.get (.itemVariantCombination, combination.1) = some combination.2 ∧
      combination.2.menuItemId = menuItemId ∧ combination.2.isActive = true ∧
        ∀ optionId, optionId ∈ combination.2.optionIds ↔ optionId ∈ variants := by
  obtain ⟨hget, hsame⟩ := Db.mem_list.mp (List.mem_of_mem_head? hfind)
  simp only [Bool.and_eq_true, beq_iff_eq] at hsame
  obtain ⟨⟨hitem, hsignature⟩, hactive⟩ := hsame
  rw [hwell.signature _ _ hget, VariantSignatures.idSignature_eq_iff] at hsignature
  exact ⟨hget, hitem, hactive, hsignature⟩

/-- An active combination is looked up for the variants that it is linked to. -/
theorem findActiveVariantCombination_of_links (hwell : WellFormed db) {variants : List Id}
    {combination : Id × ItemVariantCombination}
    (hget : db.get (.itemVariantCombination, combination.1) = some combination.2)
    (hitem : combination.2.menuItemId = menuItemId) (hactive : combination.2.isActive = true)
    (hlinks : ∀ optionId, optionId ∈ combination.2.optionIds ↔ optionId ∈ variants) :
    findActiveVariantCombination db menuItemId variants = some combination := by
  have hsignature : combination.2.signature = buildVariantCombinationSignature variants := by
    rw [hwell.signature _ _ hget, VariantSignatures.idSignature_eq_iff]
    exact hlinks
  have hmem : combination ∈ db.list .itemVariantCombination fun other =>
      other.menuItemId == menuItemId &&
        other.signature == buildVariantCombinationSignature variants && other.isActive :=
    Db.mem_list.mpr ⟨hget, by simp [hitem, hsignature, hactive]⟩
  obtain ⟨found, hfound⟩ := Option.isSome_iff_exists.mp
    (List.isSome_head?.mpr (List.ne_nil_of_mem hmem))
  obtain ⟨hget', hitem', -, hlinks'⟩ := findActiveVariantCombination_links hwell hfound
  have hid : found.1 = combination.1 := hwell.distinct _ _ _ _ hget' hget (hitem'.trans hitem.symm)
    fun optionId => (hlinks' optionId).trans (hlinks optionId).symm
  rw [hid] at hget'
  exact hfound.trans (congrArg some (Prod.ext hid (Option.some.inj (hget'.symm.trans hget))))

/-- A combination is shown for the variants that are picked exactly when one is looked up for
them. -/
theorem combination_shown_iff (layout : MenuLayout) (quantity : ℤ) (hwell : WellFormed db)
    (hlinks : LinksThere db) {variants : List Id}
    (hvariants : ∀ optionId ∈ variants, ∃ group ∈ activeOptionGroups db item.1,
      ∃ option : ItemOption, db.get (.itemOption, optionId) = some option ∧
        option.groupId = group.1 ∧ option.isActive = true) :
    (∃ combination ∈ (shownItem layout db item).variantCombinations,
      combination.stock.lacks quantity = false ∧ ∀ optionId,
        optionId ∈ combination.selectedOptions.map (·.optionId) ↔ optionId ∈ variants) ↔
    ∃ combination, findActiveVariantCombination db item.1 variants = some combination ∧
      combination.2.stock.lacks quantity = false := by
  constructor
  · rintro ⟨shown, hshown, hstock, hpicked⟩
    obtain ⟨combination, hget, hitem, hactive, -, rfl⟩ := mem_variantCombinations.mp hshown
    refine ⟨combination, findActiveVariantCombination_of_links hwell hget hitem hactive ?_, hstock⟩
    exact fun optionId => (mem_selectedOptions hlinks hget).symm.trans (hpicked optionId)
  · rintro ⟨combination, hfind, hstock⟩
    obtain ⟨hget, hitem, hactive, hsame⟩ := findActiveVariantCombination_links hwell hfind
    refine ⟨_, mem_variantCombinations.mpr ⟨combination, hget, hitem, hactive, ?_, rfl⟩, hstock,
      fun optionId => (mem_selectedOptions hlinks hget).trans (hsame optionId)⟩
    -- its options are the variants, which are active
    intro link hlink
    obtain ⟨hmem, hlink⟩ := mem_optionLinks.mp hlink
    obtain ⟨-, hoption, hgroup⟩ := includeOptionLink_eq_some.mp hlink
    obtain ⟨group, hactiveGroup, option, hget', hid, hoptionActive⟩ :=
      hvariants link.optionId ((hsame link.optionId).mp hmem)
    obtain ⟨hgroupGet, -, hgroupActive⟩ := mem_activeOptionGroups.mp hactiveGroup
    obtain rfl : option = link.option := Option.some.inj (hget'.symm.trans hoption)
    rw [hid, hgroupGet] at hgroup
    rw [← Option.some.inj hgroup]
    exact ⟨hoptionActive, hgroupActive⟩

/-! ## The whole selection -/

/-- Every picked option is shown, and there is enough of it. -/
theorem options_shown_iff :
    (∀ optionId ∈ optionIds, ∃ group ∈ (shownItem layout db item).optionGroups,
      ∃ option ∈ group.options, option.optionId = optionId ∧
        option.stock.lacks quantity = false) ↔
    (∀ optionId ∈ optionIds,
      (findActiveOption db (activeOptionGroups db item.1) optionId).isSome) ∧
    ∀ option ∈ selectedOptions db item.1 optionIds, option.2.stock.lacks quantity = false := by
  constructor
  · intro hall
    have hfind : ∀ optionId ∈ optionIds, ∃ option : ItemOption,
        findActiveOption db (activeOptionGroups db item.1) optionId = some (optionId, option) ∧
          option.stock.lacks quantity = false := by
      intro optionId hmem
      obtain ⟨shown, hshown, shownOption, hoption, rfl, hstock⟩ := hall optionId hmem
      obtain ⟨group, hgroup, rfl⟩ := mem_optionGroups.mp hshown
      obtain ⟨option, hget, hid, hactive, hbuilt⟩ := mem_options.mp hoption
      refine ⟨option, findActiveOption_eq_some.mpr
        ⟨rfl, hget, hactive, group, hgroup, hid.symm⟩, ?_⟩
      rw [← hbuilt] at hstock
      exact hstock
    refine ⟨fun optionId hmem => ?_, fun option hmem => ?_⟩
    · obtain ⟨option, hoption, -⟩ := hfind optionId hmem
      rw [hoption]
      rfl
    · obtain ⟨optionId, hid, hoption⟩ := List.mem_filterMap.mp hmem
      obtain ⟨option', hoption', hstock⟩ := hfind optionId hid
      rw [hoption'] at hoption
      cases hoption
      exact hstock
  · rintro ⟨hactive, hstock⟩ optionId hmem
    obtain ⟨option, hfind⟩ := Option.isSome_iff_exists.mp (hactive optionId hmem)
    have hleft := hstock option (List.mem_filterMap.mpr ⟨optionId, hmem, hfind⟩)
    obtain ⟨rfl, hget, hoptionActive, group, hgroup, hid⟩ := findActiveOption_eq_some.mp hfind
    exact ⟨_, mem_optionGroups.mpr ⟨group, hgroup, rfl⟩, buildOption option,
      mem_options.mpr ⟨option.2, hget, hid.symm, hoptionActive, rfl⟩, rfl, hleft⟩

/-- **The catalog offers what the cart accepts.** -/
theorem offers_iff (layout : MenuLayout) (item : Id × MenuItem) (optionIds : List Id)
    (quantity : ℤ) (hwell : WellFormed db) (hlinks : LinksThere db) :
    (shownItem layout db item).Offers optionIds quantity ↔
      optionIds.Nodup ∧ SelectionValid db item.1 optionIds ∧
        InStock db item.1 optionIds quantity := by
  have hvariants : ∀ optionId ∈ (shownItem layout db item).pickedVariant optionIds,
      ∃ group ∈ activeOptionGroups db item.1, ∃ option : ItemOption,
        db.get (.itemOption, optionId) = some option ∧ option.groupId = group.1 ∧
          option.isActive = true := by
    intro optionId hmem
    obtain ⟨shown, hshown, hpicked⟩ := List.any_eq_true.mp (List.mem_filter.mp hmem).2
    obtain ⟨group, hgroup, rfl⟩ := mem_optionGroups.mp hshown
    exact ⟨group, hgroup, any_options.mp (Bool.and_eq_true_iff.mp hpicked).2⟩
  have hshown := combination_shown_iff layout quantity hwell hlinks hvariants
  have hcombination := combination_iff db item.1 optionIds quantity
  rw [selectedVariantOptions_shown layout, ← hshown] at hcombination
  constructor
  · rintro ⟨honce, hoptions, hgroups, hcombinations⟩
    obtain ⟨hactive, hstock⟩ := options_shown_iff.mp hoptions
    obtain ⟨hfound, hleft⟩ := hcombination.mp hcombinations
    refine ⟨honce, ⟨hactive, fun group hgroup => ?_, ?_⟩, hstock, ?_⟩
    · rw [selectedCount_eq layout hgroup]
      exact hgroups _ (mem_optionGroups.mpr ⟨group, hgroup, rfl⟩)
    · rw [selectedVariantOptions_shown layout]
      exact hfound
    · rw [selectedVariantOptions_shown layout]
      exact hleft
  · rintro ⟨honce, ⟨hactive, hgroups, hfound⟩, hstock, hleft⟩
    rw [selectedVariantOptions_shown layout] at hfound hleft
    refine ⟨honce, options_shown_iff.mpr ⟨hactive, hstock⟩, fun shown hshown' => ?_,
      hcombination.mpr ⟨hfound, hleft⟩⟩
    obtain ⟨group, hgroup, rfl⟩ := mem_optionGroups.mp hshown'
    have hcount := hgroups group hgroup
    rwa [selectedCount_eq layout hgroup] at hcount

/-! ## The items of a catalog -/

/-- What the keys of a menu's tables promise. -/
structure MenuKeys (layout : MenuLayout) (db : Store) : Prop where
  links : LinksThere db
  /-- an item is in a category of its branch -/
  categories : ∀ id (item : MenuItem), db.get (.menuItem, id) = some item →
    ∀ category ∈ layout.categories, layout.categoryId id = some category.1 →
      category.2.branchId = item.branchId

theorem mem_buildMenuItems {rules : TextRules} {code : Option String}
    {selected : Id × MenuItem → Bool} {shown : CatalogMenuItem}
    (h : shown ∈ buildMenuItems rules true code (includeMenuItems layout db selected)) :
    ∃ item : Id × MenuItem, db.get (.menuItem, item.1) = some item.2 ∧ selected item = true ∧
      item.2.isAvailable = true ∧ shownItem layout db item = shown := by
  simp only [buildMenuItems, includeMenuItems, List.mem_map, List.mem_filter,
    MenuLayout.mem_inOrder, Bool.not_true, Bool.false_or, Bool.and_eq_true] at h
  obtain ⟨record, ⟨⟨item, ⟨hmem, hselected⟩, rfl⟩, havailable, -⟩, rfl⟩ := h
  exact ⟨item, (Db.mem_list.mp hmem).1, hselected, havailable, rfl⟩

/-- The record of a branch, by what the branch and its merchant are. -/
theorem findBranchCatalogByBranchId_eq_some {branchId : Id} {record : BranchCatalogRecord}
    (h : findBranchCatalogByBranchId layout db branchId = some record) :
    ∃ branch merchant, db.get (.branch, branchId) = some branch ∧
      db.get (.merchant, branch.merchantId) = some merchant ∧
      record.menuCategories = (MenuLayout.inOrder (·.2.sortOrder) (·.2.createdAt)
        (layout.categories.filter fun category => category.2.branchId == branchId)).map
          (includeMenuCategory layout db) ∧
      record.menuItems = includeMenuItems layout db fun item =>
        item.2.branchId == branchId && (layout.categoryId item.1).isNone := by
  rw [findBranchCatalogByBranchId, Option.bind_eq_bind, Option.bind_eq_some_iff] at h
  obtain ⟨branch, hbranch, h⟩ := h
  obtain ⟨merchant, hmerchant, h⟩ := Option.bind_eq_some_iff.mp h
  cases h
  exact ⟨branch, merchant, hbranch, hmerchant, rfl, rfl⟩

/-- An item of a catalog is an available one of the branch, as it is now. -/
theorem mem_catalog_items (hkeys : MenuKeys layout db) {rules : TextRules} {branchId : Id}
    {cached : Option BranchCatalogRecord} {storeTypeCode : Option String} {catalog : BranchCatalog}
    (hcached : ∀ record, cached = some record →
      findBranchCatalogByBranchId layout db branchId = some record)
    (hcatalog : CustomerCatalogRead.getVisibleBranchCatalog rules layout cached db branchId
      storeTypeCode = some catalog) {shown : CatalogMenuItem} (hshown : shown ∈ catalog.items) :
    ∃ item : Id × MenuItem, ∃ record, db.get (.menuItem, item.1) = some item.2 ∧
      findItemById db item.1 = some record ∧ record.item = item.2 ∧ record.id = item.1 ∧
        record.branchId = branchId ∧ item.2.isAvailable = true ∧
          shownItem layout db item = shown := by
  obtain ⟨record, hrecord, -, -, -, rfl⟩ :=
    CustomerCatalogRead.getVisibleBranchCatalog_eq_some.mp hcatalog
  have hfresh : findBranchCatalogByBranchId layout db branchId = some record := by
    cases cached with
    | none => exact hrecord
    | some entry =>
      obtain rfl : entry = record := Option.some.inj hrecord
      exact hcached entry rfl
  obtain ⟨branch, merchant, hbranch, hmerchant, hcategories, hitems⟩ :=
    findBranchCatalogByBranchId_eq_some hfresh
  -- an item of the branch is found with its owner
  have hfind : ∀ item : Id × MenuItem, db.get (.menuItem, item.1) = some item.2 →
      item.2.branchId = branchId → findItemById db item.1 =
        some ⟨item.1, item.2, item.2.branchId, branch.merchantId, merchant.userId⟩ := by
    rintro item hget rfl
    simp [findItemById, hget, hbranch, hmerchant]
  have hinBranch : ∃ item : Id × MenuItem, db.get (.menuItem, item.1) = some item.2 ∧
      item.2.branchId = branchId ∧ item.2.isAvailable = true ∧
        shownItem layout db item = shown := by
    rcases List.mem_append.mp hshown with hcategory | hitem
    · obtain ⟨category, hcategory, hmem⟩ := List.mem_flatMap.mp hcategory
      simp only [buildBranchCatalog, hcategories, List.mem_map, List.mem_filter,
        MenuLayout.mem_inOrder, beq_iff_eq] at hcategory
      obtain ⟨_, ⟨⟨row, ⟨hrow, rfl⟩, rfl⟩, -⟩, rfl⟩ := hcategory
      obtain ⟨item, hget, hplaced, havailable, rfl⟩ := mem_buildMenuItems hmem
      refine ⟨item, hget, ?_, havailable, rfl⟩
      exact (hkeys.categories item.1 item.2 hget row hrow (eq_of_beq hplaced)).symm
    · simp only [buildBranchCatalog, hitems] at hitem
      obtain ⟨item, hget, hplaced, havailable, rfl⟩ := mem_buildMenuItems hitem
      exact ⟨item, hget, eq_of_beq (Bool.and_eq_true_iff.mp hplaced).1, havailable, rfl⟩
  obtain ⟨item, hget, hbelongs, havailable, hsame⟩ := hinBranch
  exact ⟨item, _, hget, hfind item hget hbelongs, rfl, rfl, hbelongs, havailable, hsame⟩

/-! ## The price -/

/-- The price of one, by what is shown of the item and of the options that are picked. -/
def CatalogMenuItem.unitPrice (round : ℚ → ℚ) (item : CatalogMenuItem) (optionIds : List Id) : ℚ :=
  addUp round item.basePrice (optionIds.filterMap fun optionId =>
    ((item.optionGroups.flatMap (·.options)).find? fun option =>
      option.optionId == optionId).map (·.priceDelta))

/-- The price is computed from what is shown. -/
theorem unitPrice_eq (round : ℚ → ℚ) : (shownItem layout db item).unitPrice round optionIds =
    computeUnitPriceSnapshot round item.2 (selectedOptions db item.1 optionIds) := by
  have hdelta : ∀ optionId, (((shownItem layout db item).optionGroups.flatMap (·.options)).find?
      fun option => option.optionId == optionId).map (·.priceDelta) =
        (findActiveOption db (activeOptionGroups db item.1) optionId).map (·.2.priceDelta) := by
    intro optionId
    cases hfind : ((shownItem layout db item).optionGroups.flatMap (·.options)).find?
        fun option => option.optionId == optionId with
    | some shown =>
      have hid := List.find?_some hfind
      obtain ⟨_, hshown, hmem⟩ := List.mem_flatMap.mp (List.mem_of_find?_eq_some hfind)
      obtain ⟨group, hgroup, rfl⟩ := mem_optionGroups.mp hshown
      obtain ⟨option, hget, hgroupId, hactive, hbuilt⟩ := mem_options.mp hmem
      rw [eq_of_beq hid] at hget hbuilt
      have hactive : findActiveOption db (activeOptionGroups db item.1) optionId =
          some (optionId, option) :=
        findActiveOption_eq_some.mpr ⟨rfl, hget, hactive, group, hgroup, hgroupId.symm⟩
      rw [hactive, ← hbuilt]
      rfl
    | none =>
      cases hactive : findActiveOption db (activeOptionGroups db item.1) optionId with
      | none => rfl
      | some option =>
        obtain ⟨rfl, hget, hoption, group, hgroup, hid⟩ := findActiveOption_eq_some.mp hactive
        have hmem : buildOption option ∈
            (shownItem layout db item).optionGroups.flatMap (·.options) :=
          List.mem_flatMap.mpr ⟨_, mem_optionGroups.mpr ⟨group, hgroup, rfl⟩,
            mem_options.mpr ⟨option.2, hget, hid.symm, hoption, rfl⟩⟩
        exact absurd (beq_self_eq_true option.1) (List.find?_eq_none.mp hfind _ hmem)
  simp only [CatalogMenuItem.unitPrice, hdelta, computeUnitPriceSnapshot, selectedOptions,
    List.map_filterMap]
  rfl

/-! ## Adding the line -/

open CartMutation

/-- The ids that a call makes up for a line are new, and enough for its options. -/
structure CartMutation.NewIds.UnusedLine (ids : NewIds) (db : Store) (options : ℕ) : Prop where
  cartItem : db.get (.cartItem, ids.cartItemId) = none
  optionRows : ∀ id ∈ ids.optionRowIds, db.get (.cartItemOption, id) = none
  nodup : ids.optionRowIds.Nodup
  enough : options ≤ ids.optionRowIds.length

/-- So is the one for a cart. -/
structure CartMutation.NewIds.Unused (ids : NewIds) (db : Store) (options : ℕ) : Prop
    extends ids.UnusedLine db options where
  cart : db.get (.cart, ids.cartId) = none

/-- What the keys of a cart's tables promise. -/
structure CartKeys (db : Store) : Prop where
  lines : ∀ id (line : CartItem), db.get (.cartItem, id) = some line →
    ∃ item, db.get (.menuItem, line.menuItemId) = some item
  options : ∀ id (option : CartItemOption), db.get (.cartItemOption, id) = some option →
    ∃ line, db.get (.cartItem, option.cartItemId) = some line

/-- The line is there with its options, beside all that was there of the other lines. -/
structure LineAdded (cartItemId : Id) (line : CartItem) (options : List (Id × CartItemOption))
    (db db' : Store) : Prop where
  cart : ∃ cart, db'.get (.cart, line.cartId) = some cart
  line : db'.get (.cartItem, cartItemId) = some line
  lines : ∀ id, id ≠ cartItemId → db'.get (.cartItem, id) = db.get (.cartItem, id)
  options : ∀ id option, db'.get (.cartItemOption, id) = some option ∧
    option.cartItemId = cartItemId ↔ (id, option) ∈ options
  menu : ∀ id, db'.get (.menuItem, id) = db.get (.menuItem, id)

section Run

variable {ids : NewIds} {selected : List (Id × ItemOption)}

/-- The options of a line that had none are those that are written for it. -/
theorem get_apply_options {options : List (Id × CartItemOption)} {cartItemId : Id}
    (hnodup : (options.map Prod.fst).Nodup) (hline : ∀ o ∈ options, o.2.cartItemId = cartItemId)
    (hnone : ∀ id (option : CartItemOption), db.get (.cartItemOption, id) = some option →
      option.cartItemId ≠ cartItemId) (id : Id) (option : CartItemOption) :
    ((db.apply (options.map fun o => (⟨.cartItemOption, o.1, some o.2⟩ : Write Row))).get
      (.cartItemOption, id) = some option ∧ option.cartItemId = cartItemId) ↔
        (id, option) ∈ options := by
  have hwritten : ∀ r, (⟨.cartItemOption, id, r⟩ : Write Row) ∈
      options.map (fun o => ⟨.cartItemOption, o.1, some o.2⟩) → ∃ o, r = some o ∧
        (id, o) ∈ options := by
    intro r hr
    obtain ⟨o, ho, heq⟩ := List.mem_map.mp hr
    cases heq
    exact ⟨o.2, rfl, ho⟩
  constructor
  · rintro ⟨hget, hid⟩
    by_cases hk : ((.cartItemOption, id) : Key Tbl) ∈ (options.map fun o =>
        (⟨.cartItemOption, o.1, some o.2⟩ : Write Row)).map Write.key
    · obtain ⟨r, hr, hget'⟩ := Db.get_apply_of_mem hk db
      obtain ⟨o, rfl, ho⟩ := hwritten r hr
      rwa [Option.some.inj (hget.symm.trans hget')]
    · rw [Db.get_apply_of_notMem hk] at hget
      exact absurd hid (hnone id option hget)
  · intro hmem
    have hk : ((.cartItemOption, id) : Key Tbl) ∈ (options.map fun o =>
        (⟨.cartItemOption, o.1, some o.2⟩ : Write Row)).map Write.key :=
      List.mem_map.mpr ⟨_, List.mem_map_of_mem hmem, rfl⟩
    obtain ⟨r, hr, hget⟩ := Db.get_apply_of_mem hk db
    obtain ⟨o, rfl, ho⟩ := hwritten r hr
    obtain rfl : o = option :=
      congrArg Prod.snd (List.inj_on_of_nodup_map hnodup ho hmem rfl)
    exact ⟨hget, hline _ hmem⟩

/-- The rows of the selected options. -/
abbrev CartMutation.NewIds.optionRows (ids : NewIds) (selected : List (Id × ItemOption)) :=
  selectedOptionRows ids.optionRowIds ids.createdAt ids.cartItemId selected

/-- The rows of the selected options are new ones, one for each. -/
theorem selectedOptionRows_new (hunused : ids.UnusedLine db selected.length) :
    ((ids.optionRows selected).map Prod.fst).Nodup ∧
    (∀ o ∈ ids.optionRows selected,
      o.2.cartItemId = ids.cartItemId ∧ db.get (.cartItemOption, o.1) = none) ∧
    (ids.optionRows selected).map (·.2.itemOptionId) = selected.map Prod.fst := by
  refine ⟨?_, ?_, ?_⟩
  · simp only [NewIds.optionRows, selectedOptionRows, List.map_map]
    exact hunused.nodup.sublist (Greedy.map_fst_zip_le ..).sublist
  · intro o ho
    obtain ⟨pair, hpair, rfl⟩ := List.mem_map.mp ho
    exact ⟨rfl, hunused.optionRows _ (List.of_mem_zip hpair).1⟩
  · simp only [NewIds.optionRows, selectedOptionRows, List.map_map]
    have hzip := List.map_snd_zip hunused.enough
    conv_rhs => rw [← hzip]
    rw [List.map_map]
    rfl

/-- A line is written into its cart with its options, and the totals after it. -/
theorem createLine_run (round : ℚ → ℚ) (hunused : ids.UnusedLine db selected.length)
    (hkeys : CartKeys db) (line : CartItem) {cart : Cart}
    (hcart : db.get (.cart, line.cartId) = some cart) :
    ∃ db', ((createCartItem ids.cartItemId line).bind fun _ =>
      (createCartItemOptions (ids.optionRows selected)).bind fun _ =>
        (recomputeCartTotals round line.cartId).bind fun _ => .ret line.cartId).run db =
          .ok (line.cartId, db') ∧
      LineAdded ids.cartItemId line (ids.optionRows selected) db db' := by
  obtain ⟨hnodup, hnew, -⟩ := selectedOptionRows_new hunused
  set options := ids.optionRows selected
  have hnone : ∀ id (option : CartItemOption), db.get (.cartItemOption, id) = some option →
      option.cartItemId ≠ ids.cartItemId := by
    intro id option hget hid
    obtain ⟨other, hother⟩ := hkeys.options id option hget
    rw [hid, hunused.cartItem] at hother
    cases hother
  let db₁ := db.put ⟨.cartItem, ids.cartItemId, some line⟩
  let db₂ := db₁.apply (options.map fun o => ⟨.cartItemOption, o.1, some o.2⟩)
  have hline : (createCartItem ids.cartItemId line).run db = .ok ((), db₁) := by
    refine Tx.run_insertRow ?_
    simp [hunused.cartItem, hcart]
  have hother₁ : ∀ k : Key Tbl, k.1 ≠ .cartItem → db₁.get k = db.get k :=
    fun k hk => Db.get_put_ne db fun h => hk (congrArg Prod.fst h)
  have hother₂ : ∀ k : Key Tbl, k.1 ≠ .cartItemOption → db₂.get k = db₁.get k := by
    refine fun k hk => Db.get_apply_of_table fun w hw => ?_
    obtain ⟨o, -, rfl⟩ := List.mem_map.mp hw
    exact hk.symm
  have hoptions : (createCartItemOptions options).run db₁ = .ok ((), db₂) := by
    have hfree : ¬ options.any (fun d => (db₁.get (.cartItemOption, d.1)).isSome ||
        !(db₁.list .cartItemOption fun option =>
          uniqueCollision .cartItemOption option d.2).isEmpty) = true := by
      simp only [List.any_eq_true, Bool.or_eq_true, Bool.not_eq_true', List.isEmpty_eq_false_iff,
        not_exists, not_and, not_or, not_not]
      intro o ho
      refine ⟨?_, List.eq_nil_iff_forall_not_mem.mpr fun other hother => ?_⟩
      · rw [hother₁ _ (by simp), (hnew o ho).2]
        simp
      · obtain ⟨hget, hcollide⟩ := Db.mem_list.mp hother
        rw [hother₁ _ (by simp)] at hget
        simp only [uniqueCollision, sameUnique, Option.isSome_some, Bool.true_and, beq_iff_eq,
          Option.some.injEq, Prod.mk.injEq] at hcollide
        exact hnone _ _ hget (hcollide.1.trans (hnew o ho).1)
    simp only [createCartItemOptions, Tx.attempt, Tx.run]
    rw [if_neg hfree]
  have hcart₂ : db₂.get (.cart, line.cartId) = some cart := by
    rw [hother₂ _ (by simp), hother₁ _ (by simp), hcart]
  let totals := computeCartTotals round ((listCartItemsByCartId db₂ line.cartId).map Prod.snd)
  let db₃ := db₂.put ⟨.cart, line.cartId, some (totals.apply cart)⟩
  have hother₃ : ∀ k : Key Tbl, k.1 ≠ .cart → db₃.get k = db₂.get k :=
    fun k hk => Db.get_put_ne db₂ fun h => hk (congrArg Prod.fst h)
  have htotals : (recomputeCartTotals round line.cartId).run db₂ = .ok ((), db₃) :=
    Tx.run_updateExisting hcart₂
  refine ⟨db₃, ?_, ⟨totals.apply cart, Db.get_put_self ..⟩, ?_, fun id hid => ?_,
    fun id option => ?_, fun id => ?_⟩
  · simp [Tx.run_bind, hline, hoptions, htotals, Except.bind]
  · rw [hother₃ _ (by simp), hother₂ _ (by simp)]
    exact Db.get_put_self ..
  · rw [hother₃ _ (by simp), hother₂ _ (by simp)]
    exact Db.get_put_ne db fun h => hid (congrArg Prod.snd h)
  · rw [hother₃ _ (by simp)]
    refine get_apply_options hnodup (fun o ho => (hnew o ho).1) (fun id option hget => ?_) id option
    rw [hother₁ _ (by simp)] at hget
    exact hnone id option hget
  · rw [hother₃ _ (by simp), hother₂ _ (by simp), hother₁ _ (by simp)]

/-- The line goes into the customer's cart, or into a new one. -/
theorem addLine_run (round : ℚ → ℚ) (hunused : ids.Unused db selected.length)
    (hkeys : CartKeys db) (customerProfileId branchId menuItemId : Id) (quantity : ℤ) (price : ℚ) :
    ∃ cartId db', (addLine round ids customerProfileId branchId menuItemId quantity price
      selected).run db = .ok (cartId, db') ∧
      LineAdded ids.cartItemId {
        cartId, menuItemId, quantity
        unitPriceSnapshot := price
        lineTotal := computeLineTotal round quantity price
        createdAt := ids.createdAt }
      (ids.optionRows selected) db db' := by
  cases hfound : findActiveCartByCustomerProfileIdAndBranchId db customerProfileId branchId with
  | some cart =>
    have hcart := (Db.mem_list.mp (List.mem_of_mem_head? hfound)).1
    obtain ⟨db', hrun, hadded⟩ := createLine_run round hunused.toUnusedLine hkeys {
      cartId := cart.1, menuItemId, quantity, unitPriceSnapshot := price
      lineTotal := computeLineTotal round quantity price, createdAt := ids.createdAt } hcart
    refine ⟨cart.1, db', ?_, hadded⟩
    simpa [addLine, Tx.run_bind, Except.bind, hfound] using hrun
  | none =>
    let db₀ := db.put ⟨.cart, ids.cartId, some ⟨customerProfileId, branchId, .active, 0, 0, 0⟩⟩
    have hother : ∀ k : Key Tbl, k.1 ≠ .cart → db₀.get k = db.get k :=
      fun k hk => Db.get_put_ne db fun h => hk (congrArg Prod.fst h)
    have hcreate : (createCart ids.cartId ⟨customerProfileId, branchId, .active, 0, 0, 0⟩).run db =
        .ok ((), db₀) := Tx.run_insertRow (by simp [hunused.cart])
    have hunused₀ : ids.UnusedLine db₀ selected.length := {
      cartItem := (hother _ (by simp)).trans hunused.cartItem
      optionRows := fun id hid => (hother _ (by simp)).trans (hunused.optionRows id hid)
      nodup := hunused.nodup
      enough := hunused.enough }
    have hkeys₀ : CartKeys db₀ := by
      refine ⟨fun id line hget => ?_, fun id option hget => ?_⟩
      · rw [hother _ (by simp)] at hget
        obtain ⟨item, hitem⟩ := hkeys.lines id line hget
        exact ⟨item, (hother _ (by simp)).trans hitem⟩
      · rw [hother _ (by simp)] at hget
        obtain ⟨line, hline⟩ := hkeys.options id option hget
        exact ⟨line, (hother _ (by simp)).trans hline⟩
    obtain ⟨db', hrun, hadded⟩ := createLine_run round hunused₀ hkeys₀ {
      cartId := ids.cartId, menuItemId, quantity, unitPriceSnapshot := price
      lineTotal := computeLineTotal round quantity price, createdAt := ids.createdAt }
      (Db.get_put_self ..)
    refine ⟨ids.cartId, db', ?_, { hadded with
      lines := fun id hid => (hadded.lines id hid).trans (hother _ (by simp))
      menu := fun id => (hadded.menu id).trans (hother _ (by simp)) }⟩
    simpa [addLine, Tx.run_bind, Except.bind, hfound, hcreate] using hrun

/-! ## The cart that is answered -/

/-- A list of rows is loaded when each of them is. -/
theorem mapM_eq_some {α β : Type} {f : α → Option β} {l : List α}
    (h : ∀ a ∈ l, ∃ b, f a = some b) :
    ∃ l', l.mapM f = some l' ∧ ∀ a ∈ l, ∀ b, f a = some b → b ∈ l' := by
  induction l with
  | nil => exact ⟨[], rfl, by simp⟩
  | cons a l ih =>
    obtain ⟨b, hb⟩ := h a List.mem_cons_self
    obtain ⟨l', hl', hmem⟩ := ih fun a' ha' => h a' (List.mem_cons_of_mem _ ha')
    refine ⟨b :: l', by simp [List.mapM_cons, hb, hl'], fun a' ha' b' hb' => ?_⟩
    rcases List.mem_cons.mp ha' with rfl | ha'
    · obtain rfl := Option.some.inj (hb.symm.trans hb')
      exact List.mem_cons_self
    · exact List.mem_cons_of_mem _ (hmem a' ha' b' hb')

/-- The line of a cart is what the item was shown as: with the options that were picked, at the
price that was shown. -/
structure CartAggregateItem.IsOf (line : CartAggregateItem) (round : ℚ → ℚ)
    (item : CatalogMenuItem) (optionIds : List Id) (quantity : ℤ) : Prop where
  menuItem : line.item.menuItemId = item.itemId
  quantity : line.item.quantity = quantity
  options : line.optionIds.Perm optionIds
  price : line.item.unitPriceSnapshot = item.unitPrice round optionIds

/-- The cart is answered with the line in it. -/
theorem LineAdded.aggregate {cartItemId : Id} {line : CartItem}
    {options : List (Id × CartItemOption)} {db' : Store}
    (h : LineAdded cartItemId line options db db') (hkeys : CartKeys db)
    (hnodup : (options.map Prod.fst).Nodup)
    (hitem : ∃ item, db.get (.menuItem, line.menuItemId) = some item) :
    ∃ cart, findCartAggregateById db' line.cartId = some cart ∧
      ∃ added ∈ cart.items, added.cartItemId = cartItemId ∧ added.item = line ∧
        added.optionIds.Perm (options.map (·.2.itemOptionId)) := by
  obtain ⟨cart, hcart⟩ := h.cart
  have hitems : ∀ row ∈ listCartItemsByCartId db' line.cartId,
      ∃ item, db'.get (.menuItem, row.2.menuItemId) = some item := by
    intro row hrow
    obtain ⟨hget, -⟩ := mem_listCartItemsByCartId.mp hrow
    rw [h.menu]
    by_cases hid : row.1 = cartItemId
    · rw [hid, h.line] at hget
      rwa [← Option.some.inj hget]
    · rw [h.lines row.1 hid] at hget
      exact hkeys.lines row.1 row.2 hget
  let load (row : Id × CartItem) : Option CartAggregateItem :=
    (db'.get (.menuItem, row.2.menuItemId)).bind fun menuItem =>
      some ⟨row.1, row.2, menuItem, listCartItemOptionsByCartItemId db' row.1⟩
  obtain ⟨items, hload, hmem⟩ := mapM_eq_some (f := load) fun row hrow => by
    obtain ⟨item, hget⟩ := hitems row hrow
    exact ⟨_, Option.bind_eq_some_iff.mpr ⟨item, hget, rfl⟩⟩
  have hrow : (cartItemId, line) ∈ listCartItemsByCartId db' line.cartId :=
    mem_listCartItemsByCartId.mpr ⟨h.line, rfl⟩
  obtain ⟨item, hget⟩ := hitems _ hrow
  have hadded : load (cartItemId, line) =
      some ⟨cartItemId, line, item, listCartItemOptionsByCartItemId db' cartItemId⟩ :=
    Option.bind_eq_some_iff.mpr ⟨item, hget, rfl⟩
  refine ⟨⟨line.cartId, cart.branchId, cart.totalQuantity, cart.subtotalAmount, cart.totalAmount,
    items⟩, ?_, _, hmem _ hrow _ hadded, rfl, rfl, ?_⟩
  · rw [findCartAggregateById, hcart]
    exact Option.bind_eq_some_iff.mpr ⟨cart, rfl, Option.bind_eq_some_iff.mpr ⟨items, hload, rfl⟩⟩
  · have hperm : (listCartItemOptionsByCartItemId db' cartItemId).Perm options := by
      refine (List.perm_insertionSort ..).trans ((List.perm_ext_iff_of_nodup
        (.of_map _ (Db.list_nodup ..)) (.of_map _ hnodup)).mpr fun row => ?_)
      rw [Db.mem_list, beq_iff_eq]
      exact h.options row.1 row.2
    exact hperm.map _

end Run

/-! ## The call -/

section Call

variable {round : ℚ → ℚ} {ids : NewIds} {currentUser : AuthenticatedUser} {branchId : Id}

/-- The user is a customer, by the token and by the stored profile. -/
def IsCustomer (db : Store) (currentUser : AuthenticatedUser) : Prop :=
  ∃ profile, findCurrentCustomerProfile db currentUser = some profile ∧
    hasCustomerCartAccess currentUser profile.2.userId profile.1 = true

theorem resolveCurrentCustomerProfile_ends (h : IsCustomer db currentUser) :
    (resolveCurrentCustomerProfile currentUser).Ends db fun r db' =>
      (∃ profileId, r = .ok profileId) ∧ db' = db := by
  obtain ⟨profile, hfind, haccess⟩ := h
  refine .get_bind (.orFail_bind (fun found hfound => ?_) fun hnone => ?_)
  · obtain rfl := Option.some.inj (hfind.symm.trans hfound)
    exact .require_bind (fun _ => .ret ⟨⟨_, rfl⟩, rfl⟩) fun hno => absurd haccess hno
  · cases hfind.symm.trans hnone

theorem resolveMenuItemForBranch_ends {record : MenuItemOwnershipRecord}
    (hfind : findItemById db menuItemId = some record) (hbranch : record.branchId = branchId)
    (havailable : record.item.isAvailable = true) :
    (resolveMenuItemForBranch branchId menuItemId).Ends db fun r db' =>
      r = .ok record ∧ db' = db := by
  have hfilter : (findItemById db menuItemId).filter (fun record => record.branchId == branchId) =
      some record := Option.filter_eq_some_iff.mpr ⟨hfind, beq_iff_eq.mpr hbranch⟩
  refine .get_bind (.orFail_bind (fun found hfound => ?_) fun hnone => ?_)
  · obtain rfl := Option.some.inj (hfilter.symm.trans hfound)
    exact .require_bind (fun _ => .ret ⟨rfl, rfl⟩) fun hno => absurd havailable hno
  · cases hfilter.symm.trans hnone

/-- The options that the cart goes on with are those that are selected, in their order. -/
theorem resolveSelectedOptionsForMenuItem_selected {selected : List (Id × ItemOption)}
    (h : resolveSelectedOptionsForMenuItem db menuItemId optionIds quantity = .ok selected) :
    selected = selectedOptions db menuItemId optionIds ∧ selected.map Prod.fst = optionIds := by
  simp only [resolveSelectedOptionsForMenuItem, bind_ok_iff] at h
  obtain ⟨⟨⟩, -, selected', hmap, -, -, -, -, -, -, ⟨⟩⟩ := h
  rw [mapM_ok_iff (o := findActiveOption db (activeOptionGroups db menuItemId))] at hmap
  · obtain ⟨hoptions, rfl⟩ := hmap
    refine ⟨rfl, ?_⟩
    rw [map_fst_filterMap fun optionId option hoption => (findActiveOption_eq_some.mp hoption).1]
    exact List.filter_eq_self.mpr hoptions
  · intro optionId option
    cases findActiveOption db (activeOptionGroups db menuItemId) optionId <;> simp

/-- How the call ends: with the line in the cart, as it was shown, if it was offered, and with an
error if it was not. -/
def AnswersOffer (round : ℚ → ℚ) (ids : NewIds) (item : CatalogMenuItem) (optionIds : List Id)
    (quantity : ℤ) : Except Failure CartAggregate → Prop
  | .ok cart => (1 ≤ quantity ∧ item.Offers optionIds quantity) ∧
      ∃ line ∈ cart.items, line.cartItemId = ids.cartItemId ∧
        line.IsOf round item optionIds quantity
  | .error _ => ¬ (1 ≤ quantity ∧ item.Offers optionIds quantity)

/-- The call, for an item that is shown. -/
theorem addCurrentCustomerCartItem_ends (hwell : WellFormed db) (hlinks : LinksThere db)
    (hcarts : CartKeys db) (hcustomer : IsCustomer db currentUser)
    (hunused : ids.Unused db optionIds.length)
    (hget : db.get (.menuItem, item.1) = some item.2) {record : MenuItemOwnershipRecord}
    (hfind : findItemById db item.1 = some record) (hrow : record.item = item.2)
    (hid : record.id = item.1) (hbranch : record.branchId = branchId)
    (havailable : item.2.isAvailable = true) (layout : MenuLayout) :
    (addCurrentCustomerCartItem round ids currentUser branchId item.1 quantity optionIds).Ends db
      fun r _ => AnswersOffer round ids (shownItem layout db item) optionIds quantity r := by
  have hoffers := offers_iff layout item optionIds quantity hwell hlinks
  rw [← resolveSelectedOptionsForMenuItem_ok_iff] at hoffers
  refine .require_bind (fun hpositive => ?_) fun hnot h => hnot h.1
  refine .bind ((resolveCurrentCustomerProfile_ends hcustomer).mono fun r db' hr => ?_)
  obtain ⟨⟨profileId, rfl⟩, hdb⟩ := hr
  rw [hdb]
  refine .bind ((resolveMenuItemForBranch_ends hfind hbranch (hrow ▸ havailable)).mono
    fun r db'' hr => ?_)
  obtain ⟨rfl, hdb'⟩ := hr
  rw [hdb']
  refine .get_bind (.bind (.ofExcept ?_))
  rw [← hid] at hoffers
  cases hselected : resolveSelectedOptionsForMenuItem db record.id optionIds quantity with
  | error e =>
    rintro ⟨-, hoffered⟩
    obtain ⟨selected, hok⟩ := hoffers.mp hoffered
    cases hselected.symm.trans hok
  | ok selected =>
    obtain ⟨hsame, hids⟩ := resolveSelectedOptionsForMenuItem_selected hselected
    have hlength : selected.length = optionIds.length := by rw [← hids, List.length_map]
    rw [← hlength] at hunused
    obtain ⟨cartId, db₁, hrun, hadded⟩ := addLine_run round hunused hcarts profileId branchId
      record.id quantity (computeUnitPriceSnapshot round record.item selected)
    obtain ⟨hnodup, -, hrowIds⟩ := selectedOptionRows_new hunused.toUnusedLine
    obtain ⟨cart, hcart, line, hline, hnew, hitem, hoptions⟩ :=
      hadded.aggregate hcarts hnodup ⟨item.2, by rw [hid]; exact hget⟩
    refine .bind (.committed hrun (.get_bind (.orFail (fun answered hanswered => ?_)
      fun hnone => ?_)))
    · obtain rfl := Option.some.inj (hcart.symm.trans hanswered)
      rw [hrowIds, hids] at hoptions
      refine ⟨⟨hpositive, hoffers.mpr ⟨selected, hselected⟩⟩, line, hline, hnew, ?_, ?_, hoptions,
        ?_⟩
      · rw [hitem]
        exact hid
      · rw [hitem]
      · rw [hitem, unitPrice_eq, ← hrow, ← hid, ← hsame]
    · cases hcart.symm.trans hnone

end Call

/-! ## What is shown can be ordered -/

/-- **Customers can add to their cart exactly what the catalog offers them.** Let a customer see the
catalog of a branch as it is now, under one of its store types or as a whole. Adding an item of it
with some options picked succeeds if what is shown of the item offers them, and fails otherwise; the
line that is then in the cart has the picked options, at the price that is shown. -/
theorem catalog_offers_orderable {db : Store} {layout : MenuLayout} {rules : TextRules}
    {cached : Option BranchCatalogRecord} {branchId : Id} {storeTypeCode : Option String}
    {catalog : BranchCatalog} {item : CatalogMenuItem} {currentUser : AuthenticatedUser}
    {ids : NewIds} {optionIds : List Id} (hwell : WellFormed db) (hmenu : MenuKeys layout db)
    (hcarts : CartKeys db)
    (hcached : ∀ record, cached = some record →
      findBranchCatalogByBranchId layout db branchId = some record)
    (hcatalog : CustomerCatalogRead.getVisibleBranchCatalog rules layout cached db branchId
      storeTypeCode = some catalog) (hitem : item ∈ catalog.items)
    (hcustomer : IsCustomer db currentUser) (hunused : ids.Unused db optionIds.length)
    (round : ℚ → ℚ) (quantity : ℤ) :
    AnswersOffer round ids item optionIds quantity ((addCurrentCustomerCartItem round ids
      currentUser branchId item.itemId quantity optionIds).run db).1 := by
  obtain ⟨row, record, hget, hfind, hrow, hid, hbranch, havailable, rfl⟩ :=
    mem_catalog_items hmenu hcached hcatalog hitem
  exact (addCurrentCustomerCartItem_ends hwell hmenu.links hcarts hcustomer hunused hget hfind
    hrow hid hbranch havailable layout).run

/-- The shirts, with a customer who has no cart, and one of them in small and red. -/
def shirtsSold : Store :=
  (VariantCall.create shirtMerchant 1 1 1 [1, 3] none none { stockQuantity := some 2 }).run
    (shirtShop.put ⟨.customerProfile, 1, some { userId := 20 }⟩)

/-- They are in a category of their own. -/
def shirtLayout : MenuLayout where
  categories := [(1, ⟨1, "Shirts", true, 0, 0, []⟩)]
  categoryId := fun _ => some 1
  storeTypeIds := fun _ => []
  sortOrder := fun _ => 0
  createdAt := fun _ => 0

/-- How texts without letters beyond ASCII are compared. -/
def asciiRules : TextRules where
  toLowerCase := String.toLower
  containsInsensitive text part := decide (part.toLower.toList <:+: text.toLower.toList)
  compareNames left right := compare left right

/-- Two small red shirts are shown, and can be put into the cart. -/
theorem catalog_offers_orderable_shirt : ∃ catalog item,
    CustomerCatalogRead.getVisibleBranchCatalog asciiRules shirtLayout none shirtsSold 1 none =
      some catalog ∧ item ∈ catalog.items ∧ item.itemId = 1 ∧
    AnswersOffer id ⟨1, 1, [1, 2], 0⟩ item [1, 3] 2
      ((addCurrentCustomerCartItem id ⟨1, 1, [1, 2], 0⟩ teaCustomer 1 1 2 [1, 3]).run
        shirtsSold).1 ∧
    ((addCurrentCustomerCartItem id ⟨1, 1, [1, 2], 0⟩ teaCustomer 1 1 2 [1, 3]).run
      shirtsSold).1.toOption.isSome := by
  have hwell : WellFormed shirtsSold :=
    VariantCall.run_wellFormed _ (wellFormed_of_none fun _ => rfl)
  have hlinks : LinksThere shirtsSold := by
    have hall : ∀ row ∈ shirtsSold.list .itemVariantCombination (fun _ => true),
        ∀ optionId ∈ row.2.optionIds, (includeOptionLink shirtsSold optionId).isSome := by
      decide +kernel
    exact fun id combination hget optionId hmem => Option.isSome_iff_exists.mp
      (hall (id, combination) (Db.mem_list.mpr ⟨hget, rfl⟩) optionId hmem)
  have hcategories : ∀ row ∈ shirtsSold.list .menuItem (fun _ => true),
      ∀ category ∈ shirtLayout.categories, shirtLayout.categoryId row.1 = some category.1 →
        category.2.branchId = row.2.branchId := by decide +kernel
  have hnoLines : ∀ row ∈ shirtsSold.list .cartItem (fun _ => true), False := by decide +kernel
  have hnoOptions : ∀ row ∈ shirtsSold.list .cartItemOption (fun _ => true), False := by
    decide +kernel
  have hcarts : CartKeys shirtsSold :=
    ⟨fun id line hget => (hnoLines (id, line) (Db.mem_list.mpr ⟨hget, rfl⟩)).elim,
      fun id option hget => (hnoOptions (id, option) (Db.mem_list.mpr ⟨hget, rfl⟩)).elim⟩
  have hcustomer : IsCustomer shirtsSold teaCustomer :=
    ⟨(1, { userId := 20 }), by decide +kernel, by decide⟩
  have hunused : CartMutation.NewIds.Unused ⟨1, 1, [1, 2], 0⟩ shirtsSold
      (List.length [1, 3]) :=
    { cart := by decide +kernel
      cartItem := by decide +kernel
      optionRows := by decide +kernel
      nodup := by decide
      enough := by decide }
  have hshown : (CustomerCatalogRead.getVisibleBranchCatalog asciiRules shirtLayout none
      shirtsSold 1 none).any (fun catalog => catalog.items.any fun item => item.itemId == 1) =
        true := by decide +kernel
  obtain ⟨catalog, hcatalog, hitems⟩ := (Option.any_eq_true _ _).mp hshown
  obtain ⟨item, hitem, hid⟩ := List.any_eq_true.mp hitems
  obtain hid : item.itemId = 1 := eq_of_beq hid
  refine ⟨catalog, item, hcatalog, hitem, hid, ?_, by decide +kernel⟩
  have hmenu : MenuKeys shirtLayout shirtsSold :=
    ⟨hlinks, fun id item hget => hcategories (id, item) (Db.mem_list.mpr ⟨hget, rfl⟩)⟩
  have hanswer := catalog_offers_orderable hwell hmenu hcarts (fun record h => by cases h)
    hcatalog hitem hcustomer hunused id 2
  rwa [hid] at hanswer

end WerTe
