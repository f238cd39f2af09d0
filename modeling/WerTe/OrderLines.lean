import WerTe.CheckoutReplay
import WerTe.Numeral.Texts
import WerTe.Selections

/-!
# The lines of an order

`buildOrderCartItems` makes the lines of an order from those of a cart, with three queries for the
whole cart and maps over what they return. So it looks a variant combination up in a map keyed by
the text of the item's id and the signature, where the validation asks for the combination of each
line.

* `buildOrderCartItems_eq`: the maps find for each line what queries for the line would
* `batched_variants_agree`: for a cart that has been validated, the combination is the one that the
  validation has found, and there is one
-/

namespace WerTe

open ReadCommitted MenusRepository CheckoutValidation Checked Keyed

/-! ## The queries -/

def findActiveVariantCombinationByMenuItemIdAndOptionIds (db : Store) (menuItemId : Id)
    (optionIds : List Id) : Option (Id × ItemVariantCombination) :=
  if (buildVariantCombinationSignature optionIds).length = 0 then none
  else findActiveVariantCombination db menuItemId optionIds

def listItemsByIds (db : Store) (ids : List Id) : List (Id × MenuItem) :=
  (db.list .menuItem fun _ => true).filter fun menuItem => ids.contains menuItem.1

/-- The options of a branch, each with its group. The order of the query does not matter to its
caller, which makes maps of them. -/
def listOptionsByBranchId (db : Store) (branchId : Id) : List (Id × ItemOption × ItemOptionGroup) :=
  (db.list .itemOption fun _ => true).filterMap fun option =>
    (findBranchOption db branchId option.1).map fun found => (option.1, found)

def listVariantCombinationsByMenuItemIds (db : Store) (menuItemIds : List Id) :
    List (Id × ItemVariantCombination) :=
  db.list .itemVariantCombination fun combination =>
    menuItemIds.contains combination.menuItemId && combination.isActive

/-- The key of a combination in the map of all. -/
def combinationKey (menuItemId : Id) (signature : String) : String :=
  toString menuItemId ++ ":" ++ signature

/-! ## The lines -/

/-- The maps that are made of what the queries return. -/
structure CatalogMaps where
  menuItemById : List (Id × MenuItem)
  optionById : List (Id × ItemOption × ItemOptionGroup)
  combinationByKey : List (String × Id × ItemVariantCombination)

def catalogMaps (db : Store) (branchId : Id) (menuItemIds : List Id) : CatalogMaps where
  menuItemById := listItemsByIds db menuItemIds
  optionById := listOptionsByBranchId db branchId
  combinationByKey := (listVariantCombinationsByMenuItemIds db menuItemIds).map fun combination =>
    (combinationKey combination.2.menuItemId combination.2.signature, combination)

/-- A line, from the maps. -/
def CatalogMaps.orderLine (maps : CatalogMaps) (item : CartAggregateItem) :
    Except Failure CheckoutLine :=
  let selectedVariantOptionIds := item.optionIds.filter fun optionId =>
    (lastEntry maps.optionById optionId).any fun option => option.2.kind == .variantSelector
  let signature := buildVariantCombinationSignature selectedVariantOptionIds
  let selectedVariantCombination := if selectedVariantOptionIds = [] then none
    else lastEntry maps.combinationByKey (combinationKey item.item.menuItemId signature)
  if selectedVariantOptionIds ≠ [] ∧ selectedVariantCombination = none then
    .error (fail "The selected variant combination is no longer valid for checkout submission."
      .conflict [("menuItemId", .id item.item.menuItemId),
        ("selectedVariantOptionIds", .ids selectedVariantOptionIds)])
  else .ok {
    line := {
      lineKey := some item.cartItemId
      menuItemId := item.item.menuItemId
      quantity := item.item.quantity
      menuItemStockTrackedSnapshot := (lastEntry maps.menuItemById item.item.menuItemId).any
        fun menuItem => menuItem.stock.isStockTracked
      selectedVariantCombinationId := selectedVariantCombination.map Prod.fst
      variantCombinationStockTrackedSnapshot :=
        selectedVariantCombination.any fun combination => combination.2.stock.isStockTracked
      inventoryLotAllocations := []
      selectedOptions := item.optionIds.map fun optionId => ⟨optionId,
        (lastEntry maps.optionById optionId).any fun option => option.1.stock.isStockTracked⟩ }
    unitPriceSnapshot := item.item.unitPriceSnapshot
    lineTotal := item.item.lineTotal }

def buildOrderCartItems (db : Store) (context : CheckoutContext) :
    Except Failure (List CheckoutLine) :=
  let maps := catalogMaps db context.branchId
    (context.cart.items.map fun item => item.item.menuItemId)
  context.cart.items.mapM maps.orderLine

/-! ## The maps find what the queries would -/

/-- The unique index of combinations: an item has at most one of a signature. -/
def CombinationsUnique (db : Store) : Prop :=
  ∀ i j combination combination', db.get (.itemVariantCombination, i) = some combination →
    db.get (.itemVariantCombination, j) = some combination' →
    uniqueCollision .itemVariantCombination combination combination' = true → i = j

/-- The id of an item has no colon, so the key tells where it ends. -/
theorem combinationKey_inj {menuItemId menuItemId' : Id} {signature signature' : String} :
    combinationKey menuItemId signature = combinationKey menuItemId' signature' ↔
      menuItemId = menuItemId' ∧ signature = signature' := by
  have htoList : ∀ (id : Id) (signature : String), (combinationKey id signature).toList =
      (toString id).toList ++ ':' :: signature.toList := by
    intro id signature
    simp [combinationKey]
  rw [← String.toList_inj, htoList, htoList, Numeral.toString_append_inj rfl, String.toList_inj]

section Maps

variable {db : Store} {branchId menuItemId : Id} {menuItemIds optionIds : List Id}

theorem lastEntry_listItemsByIds (hmem : menuItemId ∈ menuItemIds) :
    lastEntry (listItemsByIds db menuItemIds) menuItemId = db.get (.menuItem, menuItemId) := by
  have hlisted : ∀ menuItem, (menuItemId, menuItem) ∈ listItemsByIds db menuItemIds ↔
      db.get (.menuItem, menuItemId) = some menuItem := by
    intro menuItem
    rw [listItemsByIds, List.mem_filter, Db.mem_list]
    simp [hmem]
  refine Option.ext fun menuItem => (lastEntry_eq_some_iff fun a b ha hb => ?_).trans
    (hlisted menuItem)
  exact Option.some.inj (((hlisted a).mp ha).symm.trans ((hlisted b).mp hb))

theorem lastEntry_listOptionsByBranchId (optionId : Id) :
    lastEntry (listOptionsByBranchId db branchId) optionId =
      findBranchOption db branchId optionId := by
  have hlisted : ∀ option, (optionId, option) ∈ listOptionsByBranchId db branchId ↔
      findBranchOption db branchId optionId = some option := by
    intro option
    simp only [listOptionsByBranchId, List.mem_filterMap, Option.map_eq_some_iff]
    constructor
    · rintro ⟨row, -, found, hfound, heq⟩
      cases heq
      exact hfound
    · intro hfound
      have hget : ∃ row, db.get (.itemOption, optionId) = some row := by
        simp only [findBranchOption, Option.bind_eq_bind, Option.bind_eq_some_iff] at hfound
        obtain ⟨row, hrow, -⟩ := hfound
        exact ⟨row, hrow⟩
      obtain ⟨row, hrow⟩ := hget
      exact ⟨(optionId, row), Db.mem_list.mpr ⟨hrow, rfl⟩, option, hfound, rfl⟩
  refine Option.ext fun option => (lastEntry_eq_some_iff fun a b ha hb => ?_).trans
    (hlisted option)
  exact Option.some.inj (((hlisted a).mp ha).symm.trans ((hlisted b).mp hb))

/-- The index is unique, so whichever query finds a combination finds the only one. -/
theorem lastEntry_combinations (hunique : CombinationsUnique db) (hmem : menuItemId ∈ menuItemIds) :
    lastEntry (catalogMaps db branchId menuItemIds).combinationByKey
        (combinationKey menuItemId (buildVariantCombinationSignature optionIds)) =
      findActiveVariantCombination db menuItemId optionIds := by
  have hlisted : ∀ combination, (combinationKey menuItemId
        (buildVariantCombinationSignature optionIds), combination) ∈
          (catalogMaps db branchId menuItemIds).combinationByKey ↔
      combination ∈ db.list .itemVariantCombination fun row => row.menuItemId == menuItemId &&
        row.signature == buildVariantCombinationSignature optionIds && row.isActive := by
    rintro ⟨i, combination⟩
    simp only [catalogMaps, List.mem_map, Prod.mk.injEq, listVariantCombinationsByMenuItemIds,
      combinationKey_inj, Db.mem_list, Bool.and_eq_true, beq_iff_eq]
    constructor
    · rintro ⟨row, hrow, ⟨hitem, hsignature⟩, rfl⟩
      obtain ⟨hget, -, hactive⟩ := Db.mem_list.mp (show (i, combination) ∈ _ from hrow) |>.imp_right
        (by simpa using ·)
      exact ⟨hget, ⟨hitem, hsignature⟩, hactive⟩
    · rintro ⟨hget, ⟨hitem, hsignature⟩, hactive⟩
      refine ⟨(i, combination), Db.mem_list.mpr ⟨hget, ?_⟩, ⟨hitem, hsignature⟩, rfl⟩
      simp [hitem, hmem, hactive]
  have honly : ∀ a ∈ db.list .itemVariantCombination (fun row => row.menuItemId == menuItemId &&
        row.signature == buildVariantCombinationSignature optionIds && row.isActive),
      ∀ b ∈ db.list .itemVariantCombination (fun row => row.menuItemId == menuItemId &&
        row.signature == buildVariantCombinationSignature optionIds && row.isActive), a = b := by
    rintro ⟨i, a⟩ ha ⟨j, b⟩ hb
    obtain ⟨hgeta, hfilta⟩ := Db.mem_list.mp ha
    obtain ⟨hgetb, hfiltb⟩ := Db.mem_list.mp hb
    simp only [Bool.and_eq_true, beq_iff_eq] at hfilta hfiltb
    have hid : i = j := by
      refine hunique i j a b hgeta hgetb ?_
      rw [uniqueCollision, hfilta.1.1, hfilta.1.2, hfiltb.1.1, hfiltb.1.2]
      simp [sameUnique]
    subst hid
    rw [Option.some.inj (hgeta.symm.trans hgetb)]
  refine Option.ext fun combination => (lastEntry_eq_some_iff fun a b ha hb => ?_).trans
    ((hlisted combination).trans (head?_eq_some_iff honly).symm)
  exact honly a ((hlisted a).mp ha) b ((hlisted b).mp hb)

/-- **The maps find what the queries would.** -/
theorem buildOrderCartItems_eq (hunique : CombinationsUnique db) (context : CheckoutContext) :
    buildOrderCartItems db context = context.cart.items.mapM fun item =>
      buildOrderCartItem db context.branchId item := by
  refine mapM_congr fun item hitem => ?_
  have hmem : item.item.menuItemId ∈ context.cart.items.map fun item => item.item.menuItemId :=
    List.mem_map_of_mem hitem
  have hoption : ∀ optionId, lastEntry (catalogMaps db context.branchId
      (context.cart.items.map fun item => item.item.menuItemId)).optionById optionId =
        findBranchOption db context.branchId optionId := lastEntry_listOptionsByBranchId
  have hmenuItem : lastEntry (catalogMaps db context.branchId
      (context.cart.items.map fun item => item.item.menuItemId)).menuItemById item.item.menuItemId =
        db.get (.menuItem, item.item.menuItemId) := lastEntry_listItemsByIds hmem
  simp only [CatalogMaps.orderLine, buildOrderCartItem, hoption, hmenuItem,
    lastEntry_combinations hunique hmem]
  rfl

end Maps

/-! ## The options of a validated line -/

/-- The options of a line that select a variant. -/
def variantSelectorOptions (db : Store) (optionIds : List Id) : List Id :=
  optionIds.filter fun optionId => (db.get (.itemOption, optionId)).any fun option =>
    (db.get (.itemOptionGroup, option.groupId)).any fun group => group.kind == .variantSelector

section Line

variable {db : Store} {branchId menuItemId optionId : Id} {optionIds : List Id}

theorem mem_activeOptionGroups {groupId : Id} {group : ItemOptionGroup} :
    (groupId, group) ∈ activeOptionGroups db menuItemId ↔
      db.get (.itemOptionGroup, groupId) = some group ∧ group.menuItemId = menuItemId ∧
        group.isActive = true := by
  rw [activeOptionGroups, List.mem_insertionSort, Db.mem_list]
  simp

theorem menuItem_of_checked {item : CartAggregateItem}
    (h : assertMenuItemInventoryRemainsAvailable db item = .ok ()) : ∃ menuItem,
      db.get (.menuItem, item.item.menuItemId) = some menuItem ∧
        menuItem.branchId = item.menuItem.branchId := by
  rw [assertMenuItemInventoryRemainsAvailable] at h
  cases hfind : findItemById db item.item.menuItemId with
  | none =>
    rw [hfind] at h
    cases h
  | some current =>
    simp only [hfind] at h
    split_ifs at h with hgone
    rw [not_or, not_not] at hgone
    simp only [findItemById, Option.bind_eq_bind, Option.bind_eq_some_iff] at hfind
    obtain ⟨menuItem, hget, branch, -, merchant, -, heq⟩ := hfind
    cases heq
    exact ⟨menuItem, hget, hgone.1⟩

/-- What the validation has found for an option, and what the submission finds for it. -/
structure FoundOption (db : Store) (branchId menuItemId optionId : Id) (option : ItemOption)
    (group : ItemOptionGroup) : Prop where
  active : findActiveOption db (activeOptionGroups db menuItemId) optionId = some (optionId, option)
  inBranch : findBranchOption db branchId optionId = some (option, group)
  row : db.get (.itemOption, optionId) = some option
  groupKind : ((activeOptionGroups db menuItemId).any fun row =>
    row.1 == option.groupId && row.2.kind == .variantSelector) = (group.kind == .variantSelector)
  groupRow : db.get (.itemOptionGroup, option.groupId) = some group

/-- An active option of the item is one of its branch. -/
theorem exists_foundOption {menuItem : MenuItem}
    (hmenuItem : db.get (.menuItem, menuItemId) = some menuItem)
    (hof : menuItem.branchId = branchId)
    (hactive : (findActiveOption db (activeOptionGroups db menuItemId) optionId).isSome) :
    ∃ option group, FoundOption db branchId menuItemId optionId option group := by
  obtain ⟨found, hfound⟩ := Option.isSome_iff_exists.mp hactive
  obtain ⟨option, hfilter, rfl⟩ := Option.map_eq_some_iff.mp hfound
  obtain ⟨hrow, hin⟩ := Option.filter_eq_some_iff.mp hfilter
  simp only [Bool.and_eq_true, List.any_eq_true, beq_iff_eq] at hin
  obtain ⟨-, ⟨groupId, group⟩, hgroup, rfl⟩ := hin
  obtain ⟨hget, hitem, -⟩ := mem_activeOptionGroups.mp hgroup
  refine ⟨option, group, hfound, ?_, hrow, ?_, hget⟩
  · simp only [findBranchOption, hrow, hget, Option.bind_eq_bind, Option.bind_some]
    rw [hitem, hmenuItem, Option.bind_some, if_pos hof]
  · rw [Bool.eq_iff_iff, List.any_eq_true]
    constructor
    · rintro ⟨⟨groupId', group'⟩, hmem, hkind⟩
      simp only [Bool.and_eq_true, beq_iff_eq] at hkind
      obtain ⟨rfl, hkind⟩ := hkind
      -- the id of the group is that of one row
      have hsame : group' = group :=
        Option.some.inj ((mem_activeOptionGroups.mp hmem).1.symm.trans hget)
      rw [← hsame, hkind]
      rfl
    · intro hkind
      exact ⟨_, hgroup, by simpa using hkind⟩

/-- What the validation takes for a selection of variants. -/
theorem selectedVariantOptions_eq
    (h : ∀ optionId ∈ optionIds, ∃ option group,
      FoundOption db branchId menuItemId optionId option group) :
    selectedVariantOptions db menuItemId optionIds = variantSelectorOptions db optionIds := by
  refine map_fst_filter_filterMap fun optionId hmem => ?_
  obtain ⟨option, group, hfound⟩ := h optionId hmem
  refine ⟨option, hfound.active, ?_⟩
  rw [hfound.row, Option.any_some, hfound.groupRow, Option.any_some]
  exact hfound.groupKind

/-- What the submission takes for a selection of variants. -/
theorem filter_findBranchOption
    (h : ∀ optionId ∈ optionIds, ∃ option group,
      FoundOption db branchId menuItemId optionId option group) :
    (optionIds.filter fun optionId => (findBranchOption db branchId optionId).any fun option =>
      option.2.kind == .variantSelector) = variantSelectorOptions db optionIds := by
  refine List.filter_congr fun optionId hmem => ?_
  obtain ⟨option, group, hfound⟩ := h optionId hmem
  rw [hfound.inBranch, hfound.row, Option.any_some, Option.any_some, hfound.groupRow,
    Option.any_some]

end Line

/-! ## Signatures -/

/-- Only the selection of nothing has an empty signature. -/
theorem signature_length_eq_zero_iff {optionIds : List Id} :
    (buildVariantCombinationSignature optionIds).length = 0 ↔ optionIds = [] := by
  rw [buildVariantCombinationSignature]
  constructor
  · intro hlength
    cases hsorted : optionIds.dedup.insertionSort (· ≤ ·) with
    | nil =>
      rw [← List.dedup_eq_nil, ← List.perm_nil, ← hsorted]
      exact (List.perm_insertionSort _ _).symm
    | cons i rest =>
      rw [hsorted, List.map_cons] at hlength
      cases rest with
      | nil => simp at hlength
      | cons j rest => simp at hlength
  · rintro rfl
    rfl

/-- The combination that a query for the line finds. -/
theorem variantCombination_eq (db : Store) (menuItemId : Id) (optionIds : List Id) :
    findActiveVariantCombinationByMenuItemIdAndOptionIds db menuItemId optionIds =
      if optionIds = [] then none else findActiveVariantCombination db menuItemId optionIds := by
  rw [findActiveVariantCombinationByMenuItemIdAndOptionIds]
  exact if_congr signature_length_eq_zero_iff rfl rfl

/-! ## Both -/

/-- The line has the combination that a query for the line finds. -/
structure AgreesOn (db : Store) (item : CartAggregateItem) (line : CheckoutLine) : Prop where
  lineKey : line.line.lineKey = some item.cartItemId
  combination : line.line.selectedVariantCombinationId =
    (findActiveVariantCombinationByMenuItemIdAndOptionIds db item.item.menuItemId
      (variantSelectorOptions db item.optionIds)).map Prod.fst
  stockTracked : line.line.variantCombinationStockTrackedSnapshot =
    (findActiveVariantCombinationByMenuItemIdAndOptionIds db item.item.menuItemId
      (variantSelectorOptions db item.optionIds)).any fun combination =>
        combination.2.stock.isStockTracked

/-- A line that has been checked is built. -/
theorem buildOrderCartItem_agrees {db : Store} {branchId : Id} {item : CartAggregateItem}
    (hchecked : checkCartItem db item = .ok ()) (hof : item.menuItem.branchId = branchId) :
    ∃ line, buildOrderCartItem db branchId item = .ok line ∧ AgreesOn db item line := by
  obtain ⟨hitem, hselection⟩ := checkCartItem_ok_iff.mp hchecked
  obtain ⟨hvalid, -⟩ := assertCartItemSelectionsRemainValid_ok_iff.mp hselection
  obtain ⟨menuItem, hmenuItem, hbranch⟩ := menuItem_of_checked hitem
  have hfound : ∀ optionId ∈ item.optionIds, ∃ option group,
      FoundOption db branchId item.item.menuItemId optionId option group := fun optionId hmem =>
    exists_foundOption hmenuItem (hbranch.trans hof) (hvalid.options optionId hmem)
  have hcombination := hvalid.combination
  rw [selectedVariantOptions_eq hfound] at hcombination
  have hids : (item.selectedOptions.map fun option => option.2.itemOptionId) = item.optionIds := rfl
  simp only [buildOrderCartItem, hids, filter_findBranchOption hfound,
    ← variantCombination_eq]
  rw [if_neg]
  · exact ⟨_, rfl, rfl, rfl, rfl⟩
  · rintro ⟨hne, hnone⟩
    rw [variantCombination_eq, if_neg hne] at hnone
    rw [hnone] at hcombination
    cases hcombination hne

/-- **Batched and single look ups agree.** Let the cart have passed the checks, and its items be of
the branch that is ordered from. Then the lines are made, with no conflict, and each has the
combination that is found for its own options, or none. -/
theorem batched_variants_agree {db db' : Store} {context : CheckoutContext} {branch : Branch}
    {merchant : Merchant} {cartId : Id} (hunique : CombinationsUnique db)
    (hready : (assertCartReadyForCheckout context.branchId branch merchant context.cart).run db =
      (.ok cartId, db'))
    (hof : ∀ item ∈ context.cart.items, item.menuItem.branchId = context.branchId) :
    ∃ lines, buildOrderCartItems db context = .ok lines ∧
      List.Forall₂ (AgreesOn db) context.cart.items lines := by
  obtain ⟨-, -, -, -, -, hchecked⟩ := assertCartReadyForCheckout_run_ok.mp hready
  rw [buildOrderCartItems_eq hunique]
  exact mapM_forall₂ fun item hitem =>
    buildOrderCartItem_agrees (hchecked item hitem).2 (hof item hitem)

/-- The shop sells its tea in a large cup too, which it keeps count of. -/
def sizedShop : Store := teaShop.apply [
  ⟨.itemOptionGroup, 2, some {
    menuItemId := 1, kind := .variantSelector, minSelect := 0, maxSelect := 1, sortOrder := 1,
    isActive := true }⟩,
  ⟨.itemOption, 2, some {
    groupId := 2, name := "Large", priceDelta := 500, stock := ⟨false, none, none⟩, sortOrder := 0,
    isActive := true }⟩,
  ⟨.itemVariantCombination, 1, some {
    menuItemId := 1, name := "Large", signature := "2", optionIds := [2], stock := .tracking 3,
    isActive := true }⟩]

theorem combinationsUnique_sizedShop : CombinationsUnique sizedShop := by
  have hlist : (sizedShop.list .itemVariantCombination fun _ => true).map Prod.fst = [1] := by
    decide +kernel
  have honly : ∀ i combination, sizedShop.get (.itemVariantCombination, i) = some combination →
      i = 1 := by
    intro i combination hget
    have hmem := List.mem_map_of_mem (f := Prod.fst)
      (Db.mem_list.mpr ⟨hget, rfl⟩ : (i, combination) ∈
        sizedShop.list .itemVariantCombination fun _ => true)
    rw [hlist] at hmem
    exact List.mem_singleton.mp hmem
  intro i j combination combination' hi hj _
  rw [honly i combination hi, honly j combination' hj]

/-- A large tea with milk, and a tea. -/
def sizedCart : CheckoutContext where
  customer := ⟨1, 20, .customer⟩
  address := none
  branchId := 1
  cart := {
    cartId := some 1
    branchId := 1
    totalQuantity := 3
    items := [
      ⟨1, ⟨1, 1, 2, 2200, 4400, 0⟩, ⟨1, "Tea", 1500, .tracking 5, true⟩,
        [(1, ⟨1, 2, 500, 0⟩), (2, ⟨1, 1, 200, 0⟩)]⟩,
      ⟨2, ⟨1, 1, 1, 1500, 1500, 1⟩, ⟨1, "Tea", 1500, .tracking 5, true⟩, []⟩]
    subtotalAmount := 5900
    totalAmount := 5900 }

/-- The first line has the combination of large cups, the second has none. -/
theorem batched_variants_agree_sizedShop : ∃ lines,
    buildOrderCartItems sizedShop sizedCart = .ok lines ∧
      List.Forall₂ (AgreesOn sizedShop) sizedCart.cart.items lines ∧
      lines.map (fun line => line.line.selectedVariantCombinationId) = [some 1, none] := by
  have hready : (assertCartReadyForCheckout sizedCart.branchId
      { merchantId := 1, status := .active } { userId := 10, status := .active }
        sizedCart.cart).run sizedShop = (.ok 1, sizedShop) := by
    rw [assertCartReadyForCheckout_run_ok]
    exact ⟨rfl, ⟨rfl, rfl⟩, by decide, rfl, rfl, by decide +kernel⟩
  have hof : ∀ item ∈ sizedCart.cart.items, item.menuItem.branchId = sizedCart.branchId := by
    decide
  obtain ⟨lines, hlines, hagree⟩ := batched_variants_agree combinationsUnique_sizedShop hready hof
  refine ⟨lines, hlines, hagree, ?_⟩
  have hids : (buildOrderCartItems sizedShop sizedCart).map
      (fun lines => lines.map fun line => line.line.selectedVariantCombinationId) =
        .ok [some 1, none] := by decide +kernel
  rw [hlines] at hids
  exact Except.ok.inj hids

end WerTe
