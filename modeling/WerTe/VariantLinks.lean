import WerTe.Checked.Sequence
import WerTe.StockTracking
import WerTe.VariantSignatures

/-!
# What variant combinations are linked to

A combination says twice which options it is made of: by the options that it is linked to and by
its signature. Creating a combination and updating one write both or neither, so that they agree,
no two combinations of an item are of the same options, and none is of two options of one group
(`variants_wellFormed`).
-/

namespace WerTe.VariantLinks

open ReadCommitted MenusRepository VariantSignatures

/-! ## Well-formed combinations -/

/-- The options are of different groups. -/
def OnePerGroup (db : Store) (optionIds : List Id) : Prop :=
  ∀ optionId ∈ optionIds, ∀ optionId' ∈ optionIds, ∀ option option' : ItemOption,
    db.get (.itemOption, optionId) = some option → db.get (.itemOption, optionId') = some option' →
      option.groupId = option'.groupId → optionId = optionId'

structure WellFormed (db : Store) : Prop where
  /-- the signature is that of the options it is linked to -/
  signature : ∀ id (combination : ItemVariantCombination),
    db.get (.itemVariantCombination, id) = some combination →
      combination.signature = WerTe.buildVariantCombinationSignature combination.optionIds
  /-- no two combinations of an item are linked to the same options -/
  distinct : ∀ id id' (combination combination' : ItemVariantCombination),
    db.get (.itemVariantCombination, id) = some combination →
      db.get (.itemVariantCombination, id') = some combination' →
        combination.menuItemId = combination'.menuItemId →
          (∀ optionId, optionId ∈ combination.optionIds ↔ optionId ∈ combination'.optionIds) →
            id = id'
  /-- none is linked to two options of a group -/
  onePerGroup : ∀ id (combination : ItemVariantCombination),
    db.get (.itemVariantCombination, id) = some combination →
      OnePerGroup db combination.optionIds

variable {db db' : Store} {menuItemId : Id}

/-- A store without combinations. -/
theorem wellFormed_of_none (h : ∀ id, db.get (.itemVariantCombination, id) = none) :
    WellFormed db where
  signature id _ hget := by cases (h id).symm.trans hget
  distinct id _ _ _ hget := by cases (h id).symm.trans hget
  onePerGroup id _ hget := by cases (h id).symm.trans hget

namespace WellFormed

/-- Combinations of an item with the same signature are the same. -/
theorem id_eq_of_signature (hdb : WellFormed db) {id id' : Id}
    {combination combination' : ItemVariantCombination}
    (hget : db.get (.itemVariantCombination, id) = some combination)
    (hget' : db.get (.itemVariantCombination, id') = some combination')
    (hitem : combination.menuItemId = combination'.menuItemId)
    (hsignature : combination.signature = combination'.signature) : id = id' := by
  rw [hdb.signature id combination hget, hdb.signature id' combination' hget'] at hsignature
  exact hdb.distinct id id' combination combination' hget hget' hitem
    (idSignature_eq_iff.mp hsignature)

/-- A combination is found by its signature. -/
theorem find_of_get (hdb : WellFormed db) {id : Id} {combination : ItemVariantCombination}
    (hget : db.get (.itemVariantCombination, id) = some combination) :
    ∃ found, findVariantCombinationByMenuItemIdAndSignature db combination.menuItemId
      combination.signature = some found ∧ found.1 = id := by
  have hmem : (id, combination) ∈ db.list .itemVariantCombination fun other =>
      other.menuItemId == combination.menuItemId && other.signature == combination.signature :=
    Db.mem_list.mpr ⟨hget, by simp⟩
  have hne : (findVariantCombinationByMenuItemIdAndSignature db combination.menuItemId
      combination.signature).isSome := List.isSome_head?.mpr (List.ne_nil_of_mem hmem)
  obtain ⟨found, hfound⟩ := Option.isSome_iff_exists.mp hne
  refine ⟨found, hfound, ?_⟩
  obtain ⟨hstored, hsame⟩ := Db.mem_list.mp (List.mem_of_mem_head? hfound)
  simp only [Bool.and_eq_true, beq_iff_eq] at hsame
  exact hdb.id_eq_of_signature hstored hget hsame.1 hsame.2

/-- A signature that is free but for one combination is that of no other. -/
theorem eq_of_free (hdb : WellFormed db) {signature : String} {combinationId : Option Id}
    (hfree : ∀ found, findVariantCombinationByMenuItemIdAndSignature db menuItemId signature =
      some found → combinationId = some found.1) {id : Id} {other : ItemVariantCombination}
    (hget : db.get (.itemVariantCombination, id) = some other)
    (hitem : other.menuItemId = menuItemId) (hsignature : other.signature = signature) :
    combinationId = some id := by
  subst hitem hsignature
  obtain ⟨found, hfound, rfl⟩ := hdb.find_of_get hget
  exact hfree found hfound

/-- **One combination is written**, with the signature of its options, which no other combination
of the item has. -/
theorem write (hdb : WellFormed db) (id : Id) {combination : ItemVariantCombination}
    (hsame : ∀ k, k ≠ (.itemVariantCombination, id) → db'.get k = db.get k)
    (hget : db'.get (.itemVariantCombination, id) = some combination)
    (hsignature :
      combination.signature = WerTe.buildVariantCombinationSignature combination.optionIds)
    (hfree : ∀ id' (other : ItemVariantCombination),
      db.get (.itemVariantCombination, id') = some other →
        other.menuItemId = combination.menuItemId → other.signature = combination.signature →
          id' = id)
    (hgroups : OnePerGroup db combination.optionIds) : WellFormed db' := by
  -- a combination that is there is the one that was written, or was there before
  have hcases : ∀ {id'} {other : ItemVariantCombination},
      db'.get (.itemVariantCombination, id') = some other →
        id' = id ∧ other = combination ∨
          id' ≠ id ∧ db.get (.itemVariantCombination, id') = some other := by
    intro id' other hother
    by_cases hid : id' = id
    · subst hid
      exact .inl ⟨rfl, Option.some.inj (hother.symm.trans hget)⟩
    · rw [hsame _ fun hk => hid (congrArg Prod.snd hk)] at hother
      exact .inr ⟨hid, hother⟩
  have hoptions : ∀ optionId, db'.get (.itemOption, optionId) = db.get (.itemOption, optionId) :=
    fun optionId => hsame _ fun hk => by cases congrArg Prod.fst hk
  refine ⟨fun id' other hother => ?_, fun id' id'' other other' hother hother' hitem hset => ?_,
    fun id' other hother => ?_⟩
  · rcases hcases hother with ⟨rfl, rfl⟩ | ⟨-, hother⟩
    · exact hsignature
    · exact hdb.signature id' other hother
  · rcases hcases hother with ⟨rfl, rfl⟩ | ⟨hne, hother⟩ <;>
      rcases hcases hother' with ⟨rfl, rfl⟩ | ⟨hne', hother'⟩
    · rfl
    · refine (hfree id'' other' hother' hitem.symm ?_).symm
      rw [hdb.signature id'' other' hother', hsignature, idSignature_eq_iff.mpr hset]
    · refine hfree id' other hother hitem ?_
      rw [hdb.signature id' other hother, hsignature, idSignature_eq_iff.mpr hset]
    · exact hdb.distinct id' id'' other other' hother hother' hitem hset
  · have hlinks : OnePerGroup db other.optionIds := by
      rcases hcases hother with ⟨-, rfl⟩ | ⟨-, hother⟩
      · exact hgroups
      · exact hdb.onePerGroup id' other hother
    intro optionId hmem optionId' hmem' option option' hoption hoption'
    rw [hoptions] at hoption hoption'
    exact hlinks optionId hmem optionId' hmem' option option' hoption hoption'

/-- The columns are written before the links. -/
theorem write_columns_links (hdb : WellFormed db) (id : Id)
    (columns combination : ItemVariantCombination)
    (hsignature :
      combination.signature = WerTe.buildVariantCombinationSignature combination.optionIds)
    (hfree : ∀ id' (other : ItemVariantCombination),
      db.get (.itemVariantCombination, id') = some other →
        other.menuItemId = combination.menuItemId → other.signature = combination.signature →
          id' = id)
    (hgroups : OnePerGroup db combination.optionIds) :
    WellFormed ((db.put ⟨.itemVariantCombination, id, some columns⟩).put
      ⟨.itemVariantCombination, id, some combination⟩) := by
  refine hdb.write id (fun k hk => ?_) (Db.get_put_self ..) hsignature hfree hgroups
  rw [Db.get_put_ne _ hk, Db.get_put_ne _ hk]

end WellFormed

/-! ## What a selection is -/

/-- Options that are there, of different groups, with their signature. -/
structure Selected (db : Store) (selection : VariantSelection) : Prop where
  signature : selection.signature =
    WerTe.buildVariantCombinationSignature (selection.selectedOptions.map Prod.fst)
  onePerGroup : OnePerGroup db (selection.selectedOptions.map Prod.fst)

theorem selectedVariantOption_ok_iff {optionId : Id} {option : Id × ItemOption} :
    selectedVariantOption db menuItemId optionId = .ok option ↔
      findActiveOption db (variantGroups db menuItemId) optionId = some option := by
  rw [selectedVariantOption]
  cases findActiveOption db (variantGroups db menuItemId) optionId with
  | none => simp
  | some found => simp

theorem get_of_findActiveOption {groups : List (Id × ItemOptionGroup)} {optionId : Id}
    {option : Id × ItemOption} (h : findActiveOption db groups optionId = some option) :
    db.get (.itemOption, option.1) = some option.2 := by
  obtain ⟨row, hrow, rfl⟩ := Option.map_eq_some_iff.mp h
  exact (Option.filter_eq_some_iff.mp hrow).1

/-- Of a group that is not counted twice there are no two options. -/
theorem onePerGroup_of_count {selectedOptions : List (Id × ItemOption)}
    (hstored : ∀ option ∈ selectedOptions, db.get (.itemOption, option.1) = some option.2)
    (hcount : ∀ option ∈ selectedOptions,
      ¬ 1 < groupSelectionCount selectedOptions option.2.groupId) :
    OnePerGroup db (selectedOptions.map Prod.fst) := by
  intro optionId hmem optionId' hmem' option option' hget hget' hgroup
  obtain ⟨selected, hselected, rfl⟩ := List.mem_map.mp hmem
  obtain ⟨selected', hselected', rfl⟩ := List.mem_map.mp hmem'
  obtain rfl := Option.some.inj ((hstored selected hselected).symm.trans hget)
  obtain rfl := Option.some.inj ((hstored selected' hselected').symm.trans hget')
  have hcount := hcount selected hselected
  rw [groupSelectionCount, List.countP_eq_length_filter] at hcount
  have hfirst : selected ∈ selectedOptions.filter fun option =>
      option.2.groupId == selected.2.groupId := List.mem_filter.mpr ⟨hselected, by simp⟩
  have hsecond : selected' ∈ selectedOptions.filter fun option =>
      option.2.groupId == selected.2.groupId := List.mem_filter.mpr ⟨hselected', by simp [hgroup]⟩
  -- what has at most one entry has both of them in it
  generalize selectedOptions.filter (fun option =>
    option.2.groupId == selected.2.groupId) = ofGroup at hcount hfirst hsecond
  cases ofGroup with
  | nil => cases hfirst
  | cons only rest =>
    obtain rfl : rest = [] := List.length_eq_zero_iff.mp (by rw [List.length_cons] at hcount; omega)
    rw [List.mem_singleton.mp hfirst, List.mem_singleton.mp hsecond]

theorem resolveVariantSelection_ends {selectedOptionIds : List Id}
    {Q : Except Failure VariantSelection → Store → Prop}
    (hok : ∀ selection, Selected db selection → Q (.ok selection) db)
    (hfail : ∀ e, Q (.error e) db) :
    (resolveVariantSelection menuItemId selectedOptionIds).Ends db Q := by
  unfold resolveVariantSelection
  refine .require_bind (fun _ => .get_bind (.require_bind (fun _ => .get_bind (.bind
    (.ofExcept ?_))) fun _ => hfail _)) fun _ => hfail _
  cases hfound : selectedOptionIds.mapM (selectedVariantOption db menuItemId) with
  | error e => exact hfail e
  | ok selectedOptions =>
    have hstored : ∀ option ∈ selectedOptions, db.get (.itemOption, option.1) = some option.2 := by
      obtain ⟨-, rfl⟩ :=
        (Checked.mapM_ok_iff (fun _ _ => selectedVariantOption_ok_iff) _ _).mp hfound
      intro option hoption
      obtain ⟨optionId, -, hactive⟩ := List.mem_filterMap.mp hoption
      exact get_of_findActiveOption hactive
    dsimp only
    split
    case h_1 => exact .throw (hfail _)
    case h_2 hnone =>
      refine .ret (hok _ ⟨rfl, onePerGroup_of_count hstored fun option hmem => ?_⟩)
      simpa using List.find?_eq_none.mp hnone option hmem

theorem requireFreeSignature_ends {signature : String} {combinationId : Option Id}
    {Q : Except Failure Unit → Store → Prop}
    (hok : (∀ found, findVariantCombinationByMenuItemIdAndSignature db menuItemId signature =
      some found → combinationId = some found.1) → Q (.ok ()) db)
    (hfail : ∀ e, Q (.error e) db) :
    (requireFreeSignature menuItemId signature combinationId).Ends db Q := by
  unfold requireFreeSignature
  refine .get_bind ?_
  split
  case h_1 => exact .throw (hfail _)
  case h_2 hnone =>
    refine .ret (hok fun found hfound => ?_)
    rw [hfound, Option.filter_eq_none_iff] at hnone
    simpa using hnone found rfl

/-! ## The requests -/

section Calls

variable {currentUser : AuthenticatedUser} {branchId itemId : Id}

/-- The links are replaced, and nothing else. -/
theorem replaceVariantCombinationOptions_run {combinationId : Id} {optionIds : List Id} {u : Unit}
    {combination : ItemVariantCombination}
    (hget : db.get (.itemVariantCombination, combinationId) = some combination)
    (h : (replaceVariantCombinationOptions combinationId optionIds).run db = .ok (u, db')) :
    db' = db.put ⟨.itemVariantCombination, combinationId, some { combination with optionIds }⟩ := by
  obtain ⟨_, db₁, hcheck, hrest⟩ := Tx.run_bind_ok h
  obtain ⟨-, rfl⟩ := Tx.run_check_ok hcheck
  obtain ⟨found, db₂, hupdate, hret⟩ := Tx.run_bind_ok hrest
  rw [Tx.run_updateRow_of_get hget] at hupdate
  cases hupdate
  cases hret
  rfl

theorem resolveItemForCombinations_readOnly :
    (resolveItemForCombinations currentUser branchId itemId).ReadOnly :=
  .bind (.bind (.get _) fun _ => .orFail _ _) fun _ => .bind (.require _ _) fun _ => .ret _

/-- **A combination is created with the signature of its options.** -/
theorem createItemVariantCombination_ends (hdb : WellFormed db) {newId : Id}
    {selectedOptionIds : List Id} {name : Option String} {isActive : Option Bool}
    {inventory : InventoryPayload} :
    (createItemVariantCombination currentUser branchId itemId newId selectedOptionIds name isActive
      inventory).Ends db fun _ db' => WellFormed db' := by
  unfold createItemVariantCombination
  refine .bind (resolveItemForCombinations_readOnly.ends fun r => ?_)
  cases r with
  | error e => exact hdb
  | ok item =>
    refine .bind (resolveVariantSelection_ends (fun selection hselection => ?_) fun _ => hdb)
    refine .bind (requireFreeSignature_ends (fun hfree => ?_) fun _ => hdb)
    refine .transaction_bind (fun combination db' hrun => ?_) fun _ _ => hdb
    obtain ⟨stock, db₁, hstock, hrest₁⟩ := Tx.run_bind_ok hrun
    obtain ⟨-, rfl⟩ := Tx.run_check_ok hstock
    obtain ⟨_, db₂, hcreate, hrest₂⟩ := Tx.run_bind_ok hrest₁
    obtain ⟨-, rfl⟩ := Tx.run_insertRow_ok hcreate
    obtain ⟨_, db₃, hreplace, hread⟩ := Tx.run_bind_ok hrest₂
    cases hread
    obtain rfl := replaceVariantCombinationOptions_run (Db.get_put_self ..) hreplace
    have hunused : ∀ id (other : ItemVariantCombination),
        db₁.get (.itemVariantCombination, id) = some other → other.menuItemId = item.id →
          other.signature = selection.signature → id = newId := by
      intro id other hother hitem hsignature
      cases hdb.eq_of_free hfree hother hitem hsignature
    suffices hdb' : WellFormed _ from .orFail (fun _ _ => hdb') fun _ => hdb'
    exact hdb.write_columns_links newId _ _ hselection.signature hunused hselection.onePerGroup

/-- An update finds the combination with its item. -/
theorem resolveOwnedVariantCombination_item {combinationId : Id}
    {Q : Except Failure ItemVariantCombinationOwnershipRecord → Store → Prop}
    (hok : ∀ combination, combination.id = combinationId →
      db.get (.itemVariantCombination, combinationId) = some combination.combination →
      combination.menuItem.id = combination.combination.menuItemId → Q (.ok combination) db)
    (hfail : ∀ e, Q (.error e) db) :
    (resolveOwnedVariantCombination currentUser branchId itemId combinationId).Ends db Q := by
  unfold resolveOwnedVariantCombination
  refine .get_bind (.orFail_bind (fun combination hfound => .require_bind
    (fun _ => .ret ?_) fun _ => hfail _) fun _ => hfail _)
  have hfound := (Option.filter_eq_some_iff.mp hfound).1
  obtain ⟨hid, hget⟩ := findVariantCombinationById_eq_some hfound
  refine hok combination hid hget ?_
  obtain ⟨row, hrow, hfound⟩ := Option.bind_eq_some_iff.mp hfound
  obtain ⟨menuItem, hitem, hfound⟩ := Option.bind_eq_some_iff.mp hfound
  obtain rfl := Option.some.inj hfound
  obtain ⟨stored, -, hitem⟩ := Option.bind_eq_some_iff.mp hitem
  obtain ⟨branch, -, hitem⟩ := Option.bind_eq_some_iff.mp hitem
  obtain ⟨merchant, -, hitem⟩ := Option.bind_eq_some_iff.mp hitem
  obtain rfl := Option.some.inj hitem
  rfl

/-- **An update without options leaves both as they were.** -/
theorem updateItemVariantCombination_ends (hdb : WellFormed db) {combinationId : Id}
    {name : Option String} {isActive : Option Bool} {inventory : InventoryPayload} :
    (updateItemVariantCombination currentUser branchId itemId combinationId name isActive
      inventory).Ends db fun _ db' => WellFormed db' := by
  unfold updateItemVariantCombination
  refine .bind (resolveOwnedVariantCombination_item (fun combination hid hget _ => ?_)
    fun _ => hdb)
  refine .transaction (fun _ db' hrun => ?_) fun _ _ => hdb
  obtain ⟨data, db₁, hdata, hupdate⟩ := Tx.run_bind_ok hrun
  obtain ⟨-, rfl⟩ := Tx.run_check_ok hdata
  obtain ⟨row, hrow, rfl⟩ := Tx.run_updateExisting_ok hupdate
  refine hdb.write combination.id (fun k hk => Db.get_put_ne _ hk) (Db.get_put_self ..) ?_ ?_ ?_
  · exact hdb.signature combination.id row hrow
  · exact fun id other hother hitem hsignature =>
      hdb.id_eq_of_signature hother hrow hitem hsignature
  · exact hdb.onePerGroup combination.id row hrow

/-- **An update with other options writes their signature too.** -/
theorem reselectItemVariantCombination_ends (hdb : WellFormed db) {combinationId : Id}
    {selectedOptionIds : List Id} {name : Option String} {isActive : Option Bool}
    {inventory : InventoryPayload} :
    (reselectItemVariantCombination currentUser branchId itemId combinationId selectedOptionIds
      name isActive inventory).Ends db fun _ db' => WellFormed db' := by
  unfold reselectItemVariantCombination
  refine .bind (resolveOwnedVariantCombination_item (fun combination hid hget hitem => ?_)
    fun _ => hdb)
  refine .bind (resolveVariantSelection_ends (fun selection hselection => ?_) fun _ => hdb)
  refine .bind (requireFreeSignature_ends (fun hfree => ?_) fun _ => hdb)
  refine .transaction_bind (fun updated db' hrun => ?_) fun _ _ => hdb
  obtain ⟨data, db₁, hdata, hrest₁⟩ := Tx.run_bind_ok hrun
  obtain ⟨-, rfl⟩ := Tx.run_check_ok hdata
  obtain ⟨_, db₂, hunique, hrest₂⟩ := Tx.run_bind_ok hrest₁
  obtain ⟨-, rfl⟩ := Tx.run_check_ok hunique
  obtain ⟨_, db₃, hupdate, hrest₃⟩ := Tx.run_bind_ok hrest₂
  obtain ⟨row, hrow, rfl⟩ := Tx.run_updateExisting_ok hupdate
  obtain ⟨_, db₄, hreplace, hread⟩ := Tx.run_bind_ok hrest₃
  cases hread
  obtain rfl := replaceVariantCombinationOptions_run (Db.get_put_self ..) hreplace
  have hunused : ∀ id (other : ItemVariantCombination),
      db₂.get (.itemVariantCombination, id) = some other →
        other.menuItemId = combination.menuItem.id →
          other.signature = selection.signature → id = combination.id := by
    intro id other hother hsame hsignature
    exact (Option.some.inj (hdb.eq_of_free hfree hother hsame hsignature)).symm
  obtain rfl : row = combination.combination := by
    rw [← hid] at hget
    exact Option.some.inj (hrow.symm.trans hget)
  suffices hdb' : WellFormed _ from .orFail (fun _ _ => hdb') fun _ => hdb'
  exact hdb.write_columns_links combination.id _ _ hselection.signature
    (fun id other hother hsame => hunused id other hother (hsame.trans hitem.symm))
    hselection.onePerGroup

end Calls

/-! ## Requests one after the other -/

/-- A request about the combinations of an item; a combination that is created gets an id. -/
inductive VariantCall
  | create (currentUser : AuthenticatedUser) (branchId itemId newId : Id)
      (selectedOptionIds : List Id) (name : Option String) (isActive : Option Bool)
      (inventory : InventoryPayload)
  /-- the options are selected anew if any are given -/
  | update (currentUser : AuthenticatedUser) (branchId itemId combinationId : Id)
      (selectedOptionIds : Option (List Id)) (name : Option String) (isActive : Option Bool)
      (inventory : InventoryPayload)

namespace VariantCall

def service : VariantCall → StoreService Unit
  | create currentUser branchId itemId newId selectedOptionIds name isActive inventory => do
    let _ ← createItemVariantCombination currentUser branchId itemId newId selectedOptionIds name
      isActive inventory
    pure ()
  | update currentUser branchId itemId combinationId none name isActive inventory =>
    updateItemVariantCombination currentUser branchId itemId combinationId name isActive inventory
  | update currentUser branchId itemId combinationId (some selectedOptionIds) name isActive
      inventory => do
    let _ ← reselectItemVariantCombination currentUser branchId itemId combinationId
      selectedOptionIds name isActive inventory
    pure ()

/-- The store after the request, whether it has succeeded or not. -/
def run (call : VariantCall) (db : Store) : Store := (call.service.run db).2

theorem run_wellFormed (call : VariantCall) (hdb : WellFormed db) : WellFormed (call.run db) := by
  cases call with
  | create =>
    exact (Service.Ends.discard (createItemVariantCombination_ends hdb)).run
  | update currentUser branchId itemId combinationId selectedOptionIds name isActive inventory =>
    cases selectedOptionIds with
    | none => exact (updateItemVariantCombination_ends hdb).run
    | some selectedOptionIds =>
      exact (Service.Ends.discard (reselectItemVariantCombination_ends hdb)).run

end VariantCall

/-- **Whatever requests are made, the combinations stay well formed.** -/
theorem variants_wellFormed (start : Store) (hstart : WellFormed start)
    (calls : List VariantCall) : Always VariantCall.run WellFormed calls start :=
  always_of_inv (fun call _ hdb => call.run_wellFormed hdb) calls hstart

/-- A shirt in two sizes and two colours, with no combinations yet. -/
def shirtShop : Store := Db.empty.apply [
  ⟨.merchant, 1, some { userId := 10, status := .active }⟩,
  ⟨.branch, 1, some { merchantId := 1, status := .active }⟩,
  ⟨.menuItem, 1, some {
    branchId := 1, name := "Shirt", basePrice := 9000, stock := ⟨false, none, none⟩,
    isAvailable := true }⟩,
  ⟨.itemOptionGroup, 1, some {
    menuItemId := 1, kind := .variantSelector, minSelect := 1, maxSelect := 1, sortOrder := 0,
    isActive := true }⟩,
  ⟨.itemOptionGroup, 2, some {
    menuItemId := 1, kind := .variantSelector, minSelect := 1, maxSelect := 1, sortOrder := 1,
    isActive := true }⟩,
  ⟨.itemOption, 1, some ⟨1, "Small", 0, ⟨false, none, none⟩, 0, true⟩⟩,
  ⟨.itemOption, 2, some ⟨1, "Large", 0, ⟨false, none, none⟩, 1, true⟩⟩,
  ⟨.itemOption, 3, some ⟨2, "Red", 0, ⟨false, none, none⟩, 0, true⟩⟩,
  ⟨.itemOption, 4, some ⟨2, "Blue", 0, ⟨false, none, none⟩, 1, true⟩⟩]

def shirtMerchant : AuthenticatedUser where
  userId := 10
  role := .merchant
  merchantId := some 1
  customerProfileId := none
  riderId := none

/-- A small red one and a large red one; the small one is to be large, and then blue. -/
def shirtCalls : List VariantCall := [
  .create shirtMerchant 1 1 1 [1, 3] none none {},
  .create shirtMerchant 1 1 2 [3, 2] none none {},
  .update shirtMerchant 1 1 1 (some [2, 3]) none none {},
  .update shirtMerchant 1 1 1 (some [4, 1]) none none {}]

/-- The small one cannot be made the large one, and is blue in the end. -/
theorem variants_wellFormed_shirts : Always VariantCall.run WellFormed shirtCalls shirtShop ∧
    ((runAll VariantCall.run shirtCalls shirtShop).list .itemVariantCombination
      fun _ => true).map (fun row => (row.1, row.2.signature, row.2.optionIds)) =
        [(1, "1|4", [4, 1]), (2, "2|3", [3, 2])] :=
  ⟨variants_wellFormed shirtShop (wellFormed_of_none fun _ => rfl) shirtCalls, by decide +kernel⟩

end WerTe.VariantLinks
