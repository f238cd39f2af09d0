import Mathlib.Algebra.Order.BigOperators.Group.List
import WerTe.InventoryLifecycle

/-!
# What reserving and restoring do to stock

Every update of the lifecycle adds to or takes from one *stock level*: the
`stockQuantity` of an item, option or combination, or the `remainingQuantity` of a lot.
`take` and `restock` are these two as additive operations on rows, and the
specifications below say that a whole order takes, or gives back, exactly its *demand*,
whatever other transactions commit while it runs.
-/

namespace WerTe

open ReadCommitted MenusRepository

/-! ## Stock levels -/

/-- The stock level in a row, if it has one. -/
def stockLevel : (t : Tbl) → Row t → Option ℤ
  | .menuItem, r => MenuItem.stock r |>.stockQuantity
  | .itemOption, r => ItemOption.stock r |>.stockQuantity
  | .itemVariantCombination, r => ItemVariantCombination.stock r |>.stockQuantity
  | .menuItemInventoryLot, r => some (MenuItemInventoryLot.remainingQuantity r)
  | _, _ => none

/-- Change the level in a row: `onStock` for a nullable stock, `onLot` for a lot. -/
def mapLevel (onStock : Option ℤ → Option ℤ) (onLot : ℤ → ℤ) : (k : Key Tbl) → Row k.1 → Row k.1
  | (.menuItem, _), r =>
    { (r : MenuItem) with stock := { r.stock with stockQuantity := onStock r.stock.stockQuantity } }
  | (.itemOption, _), r =>
    { (r : ItemOption) with
      stock := { r.stock with stockQuantity := onStock r.stock.stockQuantity } }
  | (.itemVariantCombination, _), r =>
    { (r : ItemVariantCombination) with
      stock := { r.stock with stockQuantity := onStock r.stock.stockQuantity } }
  | (.menuItemInventoryLot, _), r =>
    { (r : MenuItemInventoryLot) with remainingQuantity := onLot r.remainingQuantity }
  | _, r => r

theorem mapLevel_mapLevel (f f' : Option ℤ → Option ℤ) (g g' : ℤ → ℤ) (k : Key Tbl) (r : Row k.1) :
    mapLevel f g k (mapLevel f' g' k r) = mapLevel (f ∘ f') (g ∘ g') k r := by
  obtain ⟨t, i⟩ := k
  cases t <;> rfl

/-- Take an amount from the level in a row; a null level stays null. -/
def take (d : ℤ) : (k : Key Tbl) → Row k.1 → Row k.1 :=
  mapLevel (fun level => level.map (· - d)) (· - d)

/-- Add an amount to the level in a row; a null level counts as zero. -/
def restock (d : ℤ) : (k : Key Tbl) → Row k.1 → Row k.1 :=
  mapLevel (fun level => some (level.getD 0 + d)) (· + d)

theorem take_take (a b : ℤ) (k : Key Tbl) (r : Row k.1) :
    take a k (take b k r) = take (b + a) k r := by
  rw [take, take, take, mapLevel_mapLevel]
  refine congrArg₂ (fun f g => mapLevel f g k r) (funext fun level => ?_) (funext fun level => ?_)
  · cases level with
    | none => rfl
    | some level => exact congrArg some (Int.sub_sub level b a)
  · exact Int.sub_sub level b a

theorem restock_restock (a b : ℤ) (k : Key Tbl) (r : Row k.1) :
    restock a k (restock b k r) = restock (b + a) k r := by
  rw [restock, restock, restock, mapLevel_mapLevel]
  refine congrArg₂ (fun f g => mapLevel f g k r) (funext fun level => ?_) (funext fun level => ?_)
  · exact congrArg some (Int.add_assoc (level.getD 0) b a)
  · exact Int.add_assoc level b a

/-- Giving back what was taken restores the row, unless its level is null. -/
theorem restock_take {d : ℤ} {k : Key Tbl} {r : Row k.1} (h : (stockLevel k.1 r).isSome) :
    restock d k (take d k r) = r := by
  rw [restock, take, mapLevel_mapLevel]
  obtain ⟨level, hlevel⟩ := Option.isSome_iff_exists.mp h
  obtain ⟨t, i⟩ := k
  have hback : some ((some level |>.map (· - d)).getD 0 + d) = some level :=
    congrArg some (Int.sub_add_cancel level d)
  cases t <;> simp only [stockLevel] at hlevel <;> simp only [mapLevel, Function.comp_apply]
  case menuItem | itemOption | itemVariantCombination => rw [hlevel, hback, ← hlevel]
  case menuItemInventoryLot => rw [Int.sub_add_cancel]

theorem stockLevel_take (d : ℤ) (k : Key Tbl) (r : Row k.1) :
    stockLevel k.1 (take d k r) = (stockLevel k.1 r).map (· - d) := by
  obtain ⟨t, i⟩ := k
  cases t <;> rfl

theorem stockLevel_restock {d : ℤ} {k : Key Tbl} {r : Row k.1} (h : (stockLevel k.1 r).isSome) :
    stockLevel k.1 (restock d k r) = (stockLevel k.1 r).map (· + d) := by
  obtain ⟨level, hlevel⟩ := Option.isSome_iff_exists.mp h
  obtain ⟨t, i⟩ := k
  cases t <;> simp only [stockLevel] at hlevel
  case menuItem | itemOption | itemVariantCombination =>
    simp only [stockLevel, restock, mapLevel, hlevel, Option.getD_some, Option.map_some]
  case menuItemInventoryLot => rfl
  all_goals cases hlevel

/-! ## Demands -/

/-- An amount for each key that is drawn on, which may be zero, and none for the others. -/
abbrev Amounts : Type := Key Tbl → WithZero ℤ

/-- What a line takes from lots. -/
def lotDemand (allocations : List MenuInventoryLotAllocation) : Amounts :=
  (allocations.map fun a => Pi.single (.menuItemInventoryLot, a.inventoryLotId) (a.quantity : WithZero ℤ)).sum

/-- What a line takes from its item, with the lots it is given. -/
def itemDemand (line : MenuInventoryOrderLineInput)
    (allocations : List MenuInventoryLotAllocation) : Amounts :=
  if line.menuItemStockTrackedSnapshot then
    Pi.single (.menuItem, line.menuItemId) (line.quantity : WithZero ℤ) + lotDemand allocations
  else 0

/-- What a line takes from its variant combination. -/
def variantDemand (line : MenuInventoryOrderLineInput) : Amounts :=
  match line.reservedVariant with
  | none => 0
  | some combinationId =>
    Pi.single (.itemVariantCombination, combinationId) (line.quantity : WithZero ℤ)

/-- What a line takes from its options. -/
def optionDemand (quantity : ℤ) (optionIds : List Id) : Amounts :=
  (optionIds.map fun id => Pi.single (.itemOption, id) (quantity : WithZero ℤ)).sum

/-- What a line takes in all. -/
def lineDemand (line : MenuInventoryOrderLineInput)
    (allocations : List MenuInventoryLotAllocation) : Amounts :=
  itemDemand line allocations + variantDemand line + optionDemand line.quantity line.reservedOptions

/-- What several lines take, each with the lots it is given. -/
def demand (lines : List (MenuInventoryOrderLineInput × List MenuInventoryLotAllocation)) :
    Amounts := (lines.map fun l => lineDemand l.1 l.2).sum

/-! ## Single updates -/

section Updates

open Tx

variable {I : Store → Prop} {d : Amounts}

/-- Stock has been taken, by `d`. -/
abbrev taken (d : Amounts) : Assertion I := .accumulates take d

theorem decrementTrackedStock_taken (t : StockTable) (id : Id) (quantity : ℤ) :
    Triple I (taken d) (decrementTrackedStock t id quantity) fun ok =>
      taken (if ok then d + Pi.single (t.tbl, id) (quantity : WithZero ℤ) else d) :=
  Triple.updateRow_accumulates take_take fun _ _ _ _ _ _ _ => by cases t <;> rfl

theorem decrementItemInventoryLotQuantity_taken (lotId : Id) (quantity : ℤ) :
    Triple I (taken d) (decrementItemInventoryLotQuantity lotId quantity) fun ok =>
      taken (if ok then d + Pi.single (.menuItemInventoryLot, lotId) (quantity : WithZero ℤ) else d) :=
  Triple.updateRow_accumulates take_take fun _ _ _ _ _ _ _ => rfl

/-! ## Lots -/

/-- The allocations come from these lots, and add up to the quantity if the lots have it. -/
structure AllocatedFrom (lots : List (Id × MenuItemInventoryLot)) (quantity : ℤ)
    (allocations : List MenuInventoryLotAllocation) : Prop where
  /-- each allocation names one of the lots -/
  mem : ∀ a ∈ allocations, a.inventoryLotId ∈ lots.map Prod.fst
  /-- each allocation is of something -/
  pos : ∀ a ∈ allocations, 0 < a.quantity
  /-- together they give the quantity -/
  total : 0 ≤ quantity → quantity ≤ (lots.map (·.2.remainingQuantity)).sum →
    (allocations.map (·.quantity)).sum = quantity

/-- No allocations, because nothing is wanted or there is nothing to give. -/
theorem AllocatedFrom.nil {lots : List (Id × MenuItemInventoryLot)} {quantity : ℤ}
    (h : quantity ≤ 0 ∨ lots = []) : AllocatedFrom lots quantity [] := by
  refine ⟨fun _ ha => (nomatch ha), fun _ ha => (nomatch ha), fun h0 hle => ?_⟩
  rcases h with h | rfl
  · exact le_antisymm h0 h
  · exact le_antisymm h0 hle

/-- One lot gives what it can, and the rest comes from the other lots. -/
theorem AllocatedFrom.cons {lot : Id × MenuItemInventoryLot} {lots : List (Id × MenuItemInventoryLot)}
    {quantity : ℤ} {rest : List MenuInventoryLotAllocation} (hquantity : 0 < quantity)
    (hlot : 0 < lot.2.remainingQuantity) (hpos : ∀ l ∈ lots, 0 < l.2.remainingQuantity)
    (h : AllocatedFrom lots (quantity - min lot.2.remainingQuantity quantity) rest) :
    AllocatedFrom (lot :: lots) quantity
      (lotAllocation lot (min lot.2.remainingQuantity quantity) :: rest) := by
  refine ⟨fun a ha => ?_, fun a ha => ?_, fun h0 hle => ?_⟩
  · rcases List.mem_cons.mp ha with rfl | ha
    · exact List.mem_cons_self
    · exact List.mem_cons_of_mem _ (h.mem a ha)
  · rcases List.mem_cons.mp ha with rfl | ha
    · exact lt_min hlot hquantity
    · exact h.pos a ha
  · have hsum : 0 ≤ (lots.map (·.2.remainingQuantity)).sum := by
      refine List.sum_nonneg fun x hx => ?_
      obtain ⟨l, hl, rfl⟩ := List.mem_map.mp hx
      exact (hpos l hl).le
    rw [List.map_cons, List.sum_cons] at hle ⊢
    change min _ _ + _ = _
    rcases le_total lot.2.remainingQuantity quantity with hmin | hmin
    · rw [min_eq_left hmin] at h ⊢
      rw [h.total (by omega) (by omega)]
      omega
    · rw [min_eq_right hmin] at h ⊢
      rw [h.total (by omega) (by omega)]
      omega

theorem reserveFromLots_taken (menuItemId : Id) (lots : List (Id × MenuItemInventoryLot)) :
    ∀ (quantity : ℤ) (d : Amounts), (∀ lot ∈ lots, 0 < lot.2.remainingQuantity) →
      Triple I (taken d) (reserveFromLots menuItemId lots quantity) fun allocations =>
        .given (AllocatedFrom lots quantity allocations) (taken (d + lotDemand allocations)) := by
  induction lots with
  | nil =>
    intro quantity d _
    refine Triple.ret fun seen ws db _ h => ⟨.nil (.inr rfl), ?_⟩
    exact (add_zero d).symm ▸ h
  | cons lot lots ih =>
    intro quantity d hpos
    rw [reserveFromLots]
    by_cases hq : quantity ≤ 0
    · rw [if_pos hq]
      refine Triple.ret fun seen ws db _ h => ⟨.nil (.inl hq), ?_⟩
      exact (add_zero d).symm ▸ h
    · rw [if_neg hq]
      refine Triple.bind (decrementItemInventoryLotQuantity_taken _ _) fun reserved => ?_
      refine Triple.seq (fun _ => taken (d + Pi.single (.menuItemInventoryLot, lot.1)
          ((min lot.2.remainingQuantity quantity : ℤ) : WithZero ℤ)))
        (Triple.require fun hreserved seen ws db _ h => ?_) fun _ => ?_
      · rwa [if_pos hreserved] at h
      · refine Triple.bind (ih _ _ fun l hl => hpos l (List.mem_cons_of_mem _ hl)) fun rest => ?_
        refine Triple.ret fun seen ws db _ h => ⟨.cons (not_le.mp hq) (hpos lot List.mem_cons_self)
          (fun l hl => hpos l (List.mem_cons_of_mem _ hl)) h.1, ?_⟩
        have hsum : d + lotDemand (lotAllocation lot (min lot.2.remainingQuantity quantity) :: rest)
            = d + Pi.single (.menuItemInventoryLot, lot.1)
                ((min lot.2.remainingQuantity quantity : ℤ) : WithZero ℤ)
              + lotDemand rest := by
          rw [lotDemand, List.map_cons, List.sum_cons, ← add_assoc]
          rfl
        rw [hsum]
        exact h.2

/-- The item each lot belongs to. -/
def lotItemOf (db : Store) (i : Id) : Option Id :=
  (db.get (.menuItemInventoryLot, i)).map (·.menuItemId)

/-- `lotItem` tells which item each lot belongs to. -/
def LotsOf (lotItem : Id → Option Id) (db : Store) : Prop := ∀ i, lotItemOf db i = lotItem i

theorem lotsOf_lotItemOf (db : Store) : LotsOf (lotItemOf db) db := fun _ => rfl

/-- An operation that moves no lot to another item leaves every lot with its item. -/
theorem lotItemOf_accumulates {op : ℤ → (k : Key Tbl) → Row k.1 → Row k.1}
    {db : Store} {ws : List (Write Row)}
    (hop : ∀ q i (lot : MenuItemInventoryLot),
      MenuItemInventoryLot.menuItemId (op q (.menuItemInventoryLot, i) lot) = lot.menuItemId)
    (h : Accumulates op d ws db) : lotItemOf (db.apply ws) = lotItemOf db := by
  funext i
  rw [lotItemOf, h.rows, Option.map_map, lotItemOf]
  refine congrArg (fun f => (db.get (.menuItemInventoryLot, i)).map f) (funext fun lot => ?_)
  cases hd : d (.menuItemInventoryLot, i) with
  | zero => rfl
  | coe q => exact hop q i lot

/-- Taking stock moves no lot to another item. -/
theorem LotsOf.taken {lotItem : Id → Option Id} {db : Store} {ws : List (Write Row)}
    (h : LotsOf lotItem db) (hd : Accumulates take d ws db) : LotsOf lotItem (db.apply ws) := by
  intro i
  rw [lotItemOf_accumulates (fun _ _ _ => rfl) hd]
  exact h i

theorem LotsOf.list {lotItem : Id → Option Id} {db : Store} (h : LotsOf lotItem db)
    {menuItemId : Id} {lot : Id × MenuItemInventoryLot}
    (hlot : lot ∈ listItemInventoryLotsByMenuItemId db menuItemId) :
    lotItem lot.1 = some menuItemId := by
  obtain ⟨hget, hitem⟩ := Db.mem_list.mp hlot
  rw [← h lot.1, lotItemOf, hget]
  exact congrArg some (eq_of_beq hitem)

theorem LotsOf.count_pos {lotItem : Id → Option Id} {db : Store} (h : LotsOf lotItem db)
    {menuItemId : Id} :
    0 < countItemInventoryLotsByMenuItemId db menuItemId ↔ ∃ i, lotItem i = some menuItemId := by
  rw [countItemInventoryLotsByMenuItemId, List.length_pos_iff_exists_mem]
  constructor
  · rintro ⟨lot, hlot⟩
    exact ⟨lot.1, h.list hlot⟩
  · rintro ⟨i, hi⟩
    rw [← h i, lotItemOf, Option.map_eq_some_iff] at hi
    obtain ⟨lot, hget, hitem⟩ := hi
    exact ⟨(i, lot), Db.mem_list.mpr ⟨hget, beq_iff_eq.mpr hitem⟩⟩

theorem mem_availableLots {lots : List (Id × MenuItemInventoryLot)}
    {lot : Id × MenuItemInventoryLot} :
    lot ∈ availableLots lots ↔ lot ∈ lots ∧ 0 < lot.2.remainingQuantity := by
  rw [availableLots, List.mem_insertionSort, List.mem_filter, decide_eq_true_iff]

variable {lotItem : Id → Option Id}

theorem reserveTrackedInventoryLots_taken (hlots : ∀ db, I db → LotsOf lotItem db)
    (menuItemId : Id) (quantity : ℤ) :
    Triple I (taken d) (reserveTrackedInventoryLots menuItemId quantity) fun allocations =>
      .given ((∀ a ∈ allocations, lotItem a.inventoryLotId = some menuItemId) ∧
          (∀ a ∈ allocations, 0 < a.quantity) ∧
          (0 ≤ quantity → (allocations.map (·.quantity)).sum = quantity))
        (taken (d + lotDemand allocations)) := by
  refine Triple.seq (fun lots =>
    .given (∀ lot ∈ lots, lotItem lot.1 = some menuItemId) (taken d))
    (Triple.read fun seen ws db hI h => ⟨fun lot hlot => ((hlots db hI).taken h).list hlot, h⟩)
    fun lots => Triple.given fun hitem => ?_
  refine Triple.seq (fun _ => .given
    (quantity ≤ ((availableLots lots).map (·.2.remainingQuantity)).sum) (taken d))
    (Triple.require fun hq seen ws db _ h => ⟨hq, h⟩) fun _ => Triple.given fun hq => ?_
  refine (reserveFromLots_taken menuItemId (availableLots lots) quantity d
    fun lot hlot => (mem_availableLots.mp hlot).2).conseq (fun _ _ _ _ h => h)
    fun allocations seen ws db _ h => ⟨⟨fun a ha => ?_, h.1.pos, fun h0 => h.1.total h0 hq⟩, h.2⟩
  obtain ⟨lot, hlot, hid⟩ := List.mem_map.mp (h.1.mem a ha)
  rw [← hid]
  exact hitem lot (mem_availableLots.mp hlot).1

/-! ## Whole orders -/

/-- The lots a line was given: lots of its item, and, if the item has lots at all, for the
line's whole quantity. -/
structure Allocated (lotItem : Id → Option Id) (line : MenuInventoryOrderLineInput)
    (allocations : List MenuInventoryLotAllocation) : Prop where
  /-- the lots are lots of the line's item -/
  mem : ∀ a ∈ allocations, lotItem a.inventoryLotId = some line.menuItemId
  /-- each lot gives something -/
  pos : ∀ a ∈ allocations, 0 < a.quantity
  /-- together they give what the line takes from its item -/
  total : line.menuItemStockTrackedSnapshot = true → (∃ i, lotItem i = some line.menuItemId) →
    0 ≤ line.quantity → (allocations.map (·.quantity)).sum = line.quantity

theorem reserveItem_taken (hlots : ∀ db, I db → LotsOf lotItem db)
    (line : MenuInventoryOrderLineInput) (result : MenuInventoryReservationResult) :
    Triple I (taken d) (reserveItem line result) fun result' =>
      .ex fun allocations => .given (Allocated lotItem line allocations ∧
          result'.inventoryLotAllocationsByLineKey =
            recordAllocations result.inventoryLotAllocationsByLineKey line.lineKey allocations)
        (taken (d + itemDemand line allocations)) := by
  unfold reserveItem
  by_cases htracked : line.menuItemStockTrackedSnapshot = true
  · rw [if_pos htracked]
    refine Triple.seq (fun _ => taken d) (Triple.read fun _ _ _ _ h => h)
      fun previousItem => ?_
    refine Triple.seq (fun lotCount =>
      .given (0 < lotCount ↔ ∃ i, lotItem i = some line.menuItemId) (taken d))
      (Triple.read fun seen ws db hI h => ⟨((hlots db hI).taken h).count_pos, h⟩)
      fun lotCount => Triple.given fun hcount => ?_
    refine Triple.seq (fun allocations =>
      .given (Allocated lotItem line allocations) (taken (d + lotDemand allocations))) ?_
      fun allocations => Triple.given fun hallocated => ?_
    · by_cases hpos : 0 < lotCount
      · rw [if_pos hpos]
        exact (reserveTrackedInventoryLots_taken hlots _ _).conseq (fun _ _ _ _ h => h)
          fun allocations seen ws db _ h => ⟨⟨h.1.1, h.1.2.1, fun _ _ => h.1.2.2⟩, h.2⟩
      · rw [if_neg hpos]
        refine Triple.ret fun seen ws db _ h =>
          ⟨⟨fun _ ha => (nomatch ha), fun _ ha => (nomatch ha), ?_⟩, ?_⟩
        · exact fun _ hex => absurd (hcount.mpr hex) hpos
        · exact (add_zero d).symm ▸ h
    · refine Triple.bind (decrementTrackedStock_taken .menuItem _ _) fun wasReserved => ?_
      have hsum : d + itemDemand line allocations =
          d + lotDemand allocations + Pi.single (.menuItem, line.menuItemId) (line.quantity : WithZero ℤ) := by
        rw [itemDemand, if_pos htracked, add_assoc, add_comm (lotDemand allocations)]
      refine Triple.seq (fun _ => taken (d + itemDemand line allocations))
        (Triple.require fun hreserved seen ws db _ h => ?_) fun _ => ?_
      · rw [hsum]
        rwa [if_pos hreserved] at h
      · refine Triple.seq (fun _ => taken (d + itemDemand line allocations))
          (Triple.read fun _ _ _ _ h => h) fun nextItem => ?_
        exact Triple.ret fun seen ws db _ h => ⟨allocations, ⟨hallocated, rfl⟩, h⟩
  · rw [if_neg htracked]
    refine Triple.ret fun seen ws db _ h =>
      ⟨[], ⟨⟨fun _ ha => (nomatch ha), fun _ ha => (nomatch ha), ?_⟩, ?_⟩, ?_⟩
    · exact fun ht => absurd ht htracked
    · cases line.lineKey <;> rfl
    · rw [itemDemand, if_neg htracked, add_zero]
      exact h

theorem reserveVariant_taken (line : MenuInventoryOrderLineInput) :
    Triple I (taken d) (reserveVariant line) fun _ => taken (d + variantDemand line) := by
  unfold reserveVariant variantDemand
  cases line.reservedVariant with
  | none => exact Triple.ret fun seen ws db _ h => (add_zero d).symm ▸ h
  | some combinationId =>
    refine Triple.bind (decrementTrackedStock_taken .itemVariantCombination _ _)
      fun wasReserved => Triple.require fun hreserved seen ws db _ h => ?_
    rwa [if_pos hreserved] at h

theorem reserveOptions_taken (quantity : ℤ) (optionIds : List Id) :
    ∀ (d : Amounts) (result : MenuInventoryReservationResult),
      Triple I (taken d) (reserveOptions quantity optionIds result) fun result' =>
        .given (result'.inventoryLotAllocationsByLineKey = result.inventoryLotAllocationsByLineKey)
          (taken (d + optionDemand quantity optionIds)) := by
  induction optionIds with
  | nil =>
    intro d result
    exact Triple.ret fun seen ws db _ h => ⟨rfl, (add_zero d).symm ▸ h⟩
  | cons optionId optionIds ih =>
    intro d result
    refine Triple.seq (fun _ => taken d) (Triple.read fun _ _ _ _ h => h)
      fun previousOption => ?_
    refine Triple.bind (decrementTrackedStock_taken .itemOption _ _) fun wasReserved => ?_
    refine Triple.seq (fun _ => taken (d + Pi.single (.itemOption, optionId) (quantity : WithZero ℤ)))
      (Triple.require fun hreserved seen ws db _ h => ?_) fun _ => ?_
    · rwa [if_pos hreserved] at h
    · refine Triple.seq (fun _ => taken (d + Pi.single (.itemOption, optionId) (quantity : WithZero ℤ)))
        (Triple.read fun _ _ _ _ h => h) fun nextOption => ?_
      refine (ih _ _).conseq (fun _ _ _ _ h => h) fun result' seen ws db _ h => ⟨h.1, ?_⟩
      rw [optionDemand, List.map_cons, List.sum_cons, ← add_assoc]
      exact h.2

/-- The allocations of all lines, as the result notes them. -/
def recordAll (byLineKey : List (Id × List MenuInventoryLotAllocation))
    (lines : List (MenuInventoryOrderLineInput × List MenuInventoryLotAllocation)) :
    List (Id × List MenuInventoryLotAllocation) :=
  lines.foldl (fun byLineKey l => recordAllocations byLineKey l.1.lineKey l.2) byLineKey

theorem reserveLines_taken (hlots : ∀ db, I db → LotsOf lotItem db)
    (lines : List MenuInventoryOrderLineInput) :
    ∀ (d : Amounts) (result : MenuInventoryReservationResult),
      Triple I (taken d) (reserveLines lines result) fun result' =>
        .ex fun allocated : List (MenuInventoryOrderLineInput × List MenuInventoryLotAllocation) =>
          .given (allocated.map Prod.fst = lines ∧ (∀ l ∈ allocated, Allocated lotItem l.1 l.2) ∧
              result'.inventoryLotAllocationsByLineKey =
                recordAll result.inventoryLotAllocationsByLineKey allocated)
            (taken (d + demand allocated)) := by
  induction lines with
  | nil =>
    intro d result
    refine Triple.ret fun seen ws db _ h => ⟨[], ⟨rfl, fun _ hl => (nomatch hl), rfl⟩, ?_⟩
    exact (add_zero d).symm ▸ h
  | cons line lines ih =>
    intro d result
    refine Triple.bind (reserveItem_taken hlots line result) fun result₁ =>
      Triple.ex fun allocations => Triple.given fun ⟨hallocated, hrecord⟩ => ?_
    refine Triple.bind (reserveVariant_taken line) fun _ => ?_
    refine Triple.bind (reserveOptions_taken _ _ _ result₁) fun result₂ =>
      Triple.given fun hresult₂ => ?_
    refine (ih _ result₂).conseq (fun _ _ _ _ h => h) fun result' seen ws db _ h => ?_
    obtain ⟨rest, ⟨hlines, hall, hrest⟩, h⟩ := h
    refine ⟨(line, allocations) :: rest, ⟨by rw [List.map_cons, hlines], ?_, ?_⟩, ?_⟩
    · intro l hl
      rcases List.mem_cons.mp hl with rfl | hl
      · exact hallocated
      · exact hall l hl
    · rw [hrest, hresult₂, hrecord]
      rfl
    · rw [demand, List.map_cons, List.sum_cons, lineDemand, ← add_assoc, ← add_assoc, ← add_assoc]
      exact h

/-- A reservation takes the demand of its lines, and returns the lots it took from. -/
theorem reserveTrackedInventoryForOrder_taken (hlots : ∀ db, I db → LotsOf lotItem db)
    (items : List MenuInventoryOrderLineInput) :
    Triple I .fresh (reserveTrackedInventoryForOrder items) fun result =>
      .ex fun allocated : List (MenuInventoryOrderLineInput × List MenuInventoryLotAllocation) =>
        .given (allocated.map Prod.fst = items ∧ (∀ l ∈ allocated, Allocated lotItem l.1 l.2) ∧
            result.inventoryLotAllocationsByLineKey = recordAll [] allocated)
          (taken (demand allocated)) := by
  refine (reserveLines_taken hlots items 0 ⟨[], []⟩).conseq (fun seen ws db _ h => ?_)
    fun result seen ws db _ h => ?_
  · cases h
    exact .nil db
  · obtain ⟨allocated, hfacts, h⟩ := h
    refine ⟨allocated, hfacts, ?_⟩
    rwa [zero_add] at h

/-! ## The rows a reservation writes -/

/-- A condition on rows that taking stock, as far as there is any, brings about. -/
def TakeCloses (I : Store → Prop) (P : (k : Key Tbl) → Option (Row k.1) → Prop) : Prop :=
  ∀ ws db k r quantity level, I db → (∀ k ∈ ws.map Write.key, P k ((db.apply ws).get k)) →
    (db.apply ws).get k = some r → stockLevel k.1 r = some level → quantity ≤ level →
    P k (some (take quantity k r))

section Rows

variable {P : (k : Key Tbl) → Option (Row k.1) → Prop} (hP : TakeCloses I P)
include hP

theorem decrementTrackedStock_rows (t : StockTable) (id : Id) (quantity : ℤ) :
    KeepsRows I P (decrementTrackedStock t id quantity) := by
  refine .updateRow fun ws db r hI hpre hget hguard => ?_
  obtain ⟨_, hstock⟩ := Bool.and_eq_true_iff.mp hguard
  obtain ⟨level, hlevel, hle⟩ := (Option.any_eq_true _ _).mp hstock
  have hrow := hP ws db _ r quantity level hI hpre hget
    (by cases t <;> exact hlevel) (of_decide_eq_true hle)
  cases t <;> exact hrow

theorem decrementItemInventoryLotQuantity_rows (lotId : Id) (quantity : ℤ) :
    KeepsRows I P (decrementItemInventoryLotQuantity lotId quantity) :=
  .updateRow fun ws db r hI hpre hget hguard =>
    hP ws db _ r quantity _ hI hpre hget rfl (of_decide_eq_true hguard)

theorem reserveFromLots_rows (menuItemId : Id) (lots : List (Id × MenuItemInventoryLot)) :
    ∀ quantity, KeepsRows I P (reserveFromLots menuItemId lots quantity) := by
  induction lots with
  | nil => intro quantity; exact .ret []
  | cons lot lots ih =>
    intro quantity
    rw [reserveFromLots]
    split
    · exact .ret []
    · exact .bind (decrementItemInventoryLotQuantity_rows hP _ _) fun _ =>
        .bind (.require _ _) fun _ => .bind (ih _) fun _ => .ret _

theorem reserveItem_rows (line : MenuInventoryOrderLineInput)
    (result : MenuInventoryReservationResult) : KeepsRows I P (reserveItem line result) := by
  unfold reserveItem
  split
  · refine .bind (.read _) fun _ => .bind (.read _) fun lotCount => .bind ?_ fun _ => ?_
    · split
      · exact .bind (.read _) fun _ => .bind (.require _ _) fun _ => reserveFromLots_rows hP _ _ _
      · exact .ret []
    · exact .bind (decrementTrackedStock_rows hP .menuItem _ _) fun _ =>
        .bind (.require _ _) fun _ => .bind (.read _) fun _ => .ret _
  · exact .ret _

theorem reserveVariant_rows (line : MenuInventoryOrderLineInput) :
    KeepsRows I P (reserveVariant line) := by
  unfold reserveVariant
  split
  · exact .ret ()
  · exact .bind (decrementTrackedStock_rows hP .itemVariantCombination _ _) fun _ => .require _ _

theorem reserveOptions_rows (quantity : ℤ) (optionIds : List Id) :
    ∀ result, KeepsRows I P (reserveOptions quantity optionIds result) := by
  induction optionIds with
  | nil => intro result; exact .ret result
  | cons optionId optionIds ih =>
    intro result
    exact .bind (.read _) fun _ => .bind (decrementTrackedStock_rows hP .itemOption _ _) fun _ =>
      .bind (.require _ _) fun _ => .bind (.read _) fun _ => ih _

theorem reserveLines_rows (lines : List MenuInventoryOrderLineInput) :
    ∀ result, KeepsRows I P (reserveLines lines result) := by
  induction lines with
  | nil => intro result; exact .ret result
  | cons line lines ih =>
    intro result
    exact .bind (reserveItem_rows hP line result) fun _ => .bind (reserveVariant_rows hP line)
      fun _ => .bind (reserveOptions_rows hP _ _ _) fun _ => ih _

/-- Every row a reservation writes meets `P`. -/
theorem reserveTrackedInventoryForOrder_rows (items : List MenuInventoryOrderLineInput) :
    KeepsRows I P (reserveTrackedInventoryForOrder items) := reserveLines_rows hP items ⟨[], []⟩

end Rows

/-- A row with a level that is not null and not negative. -/
def Stocked (k : Key Tbl) (o : Option (Row k.1)) : Prop :=
  ∃ r level, o = some r ∧ stockLevel k.1 r = some level ∧ 0 ≤ level

/-- What a reservation writes is stocked, because it took no more than there was. -/
theorem stocked_takeCloses : TakeCloses I Stocked := by
  intro ws db k r quantity level _ _ _ hlevel hle
  refine ⟨take quantity k r, level - quantity, rfl, ?_, by omega⟩
  rw [stockLevel_take, hlevel, Option.map_some]

/-! ## Restoring -/

/-- Stock has been added, by `d` on the rows known to be there. -/
def restocked (present : Key Tbl → Prop) (d : Amounts) : Assertion I :=
  .ex fun d' => .given (∀ k, present k → d' k = d k) (.accumulates restock d')

section Restore

variable {present : Key Tbl → Prop} (hpresent : ∀ db, I db → ∀ k, present k → (db.get k).isSome)
include hpresent

/-- An update that adds to a row, if the row is there. -/
theorem updateRow_restocked (k : Key Tbl) (quantity : ℤ) {f : Row k.1 → Row k.1}
    (hf : ∀ r, f r = restock quantity k r) :
    Triple I (restocked present d) (Tx.updateRow k (fun _ => true) f : StoreTx Bool) fun _ =>
      restocked present (d + Pi.single k (quantity : WithZero ℤ)) := by
  refine Triple.ex fun d' => Triple.given fun hd' => Triple.updateRow
    (fun seen ws db r _ h hget _ => ?_) fun seen ws db hI h hmiss => ?_
  · refine ⟨d' + Pi.single k (quantity : WithZero ℤ), fun k' hk' => ?_, ?_⟩
    · rw [Pi.add_apply, Pi.add_apply, hd' k' hk']
    · rw [hf]
      exact h.snoc restock_restock hget quantity
  · refine ⟨d', fun k' hk' => ?_, h⟩
    have hne : k' ≠ k := by
      rintro rfl
      have hsome := hpresent db hI k' hk'
      rw [← h.isSome k'] at hsome
      obtain ⟨r, hr⟩ := Option.isSome_iff_exists.mp hsome
      cases hmiss r hr
    rw [Pi.add_apply, Pi.single_eq_of_ne hne, add_zero, hd' k' hk']

theorem incrementStock_restocked (t : StockTable) (id : Id) (quantity : ℤ) :
    Triple I (restocked present d) (incrementStock t id quantity) fun _ =>
      restocked present (d + Pi.single (t.tbl, id) (quantity : WithZero ℤ)) :=
  updateRow_restocked hpresent (t.tbl, id) quantity fun _ => by cases t <;> rfl

theorem restoreLots_restocked (allocations : List MenuInventoryLotAllocation) :
    ∀ d : Amounts, Triple I (restocked present d) (restoreLots allocations) fun _ =>
      restocked present (d + lotDemand allocations) := by
  induction allocations with
  | nil => intro d; exact Triple.ret fun seen ws db _ h => (add_zero d).symm ▸ h
  | cons a allocations ih =>
    intro d
    refine Triple.bind (updateRow_restocked hpresent (.menuItemInventoryLot, a.inventoryLotId)
      a.quantity fun _ => rfl) fun _ => ?_
    rw [lotDemand, List.map_cons, List.sum_cons, ← add_assoc]
    exact ih _

theorem restoreItem_restocked (line : MenuInventoryOrderLineInput) :
    Triple I (restocked present d) (restoreItem line) fun _ =>
      restocked present (d + itemDemand line line.inventoryLotAllocations) := by
  unfold restoreItem itemDemand
  by_cases htracked : line.menuItemStockTrackedSnapshot = true
  · rw [if_pos htracked, if_pos htracked, ← add_assoc]
    exact Triple.bind (incrementStock_restocked hpresent .menuItem _ _) fun _ =>
      restoreLots_restocked hpresent _ _
  · rw [if_neg htracked, if_neg htracked, add_zero]
    exact Triple.ret fun _ _ _ _ h => h

theorem restoreVariant_restocked (line : MenuInventoryOrderLineInput) :
    Triple I (restocked present d) (restoreVariant line) fun _ =>
      restocked present (d + variantDemand line) := by
  unfold restoreVariant variantDemand
  cases line.reservedVariant with
  | none => exact Triple.ret fun seen ws db _ h => (add_zero d).symm ▸ h
  | some combinationId =>
    exact Triple.bind (incrementStock_restocked hpresent .itemVariantCombination _ _) fun _ =>
      Triple.ret fun _ _ _ _ h => h

theorem restoreOptions_restocked (quantity : ℤ) (optionIds : List Id) :
    ∀ d : Amounts, Triple I (restocked present d) (restoreOptions quantity optionIds) fun _ =>
      restocked present (d + optionDemand quantity optionIds) := by
  induction optionIds with
  | nil => intro d; exact Triple.ret fun seen ws db _ h => (add_zero d).symm ▸ h
  | cons optionId optionIds ih =>
    intro d
    refine Triple.bind (incrementStock_restocked hpresent .itemOption _ _) fun _ => ?_
    rw [optionDemand, List.map_cons, List.sum_cons, ← add_assoc]
    exact ih _

theorem restoreLines_restocked (lines : List MenuInventoryOrderLineInput) :
    ∀ d : Amounts, Triple I (restocked present d) (restoreTrackedInventoryForOrder lines)
      fun _ => restocked present
        (d + demand (lines.map fun line => (line, line.inventoryLotAllocations))) := by
  induction lines with
  | nil => intro d; exact Triple.ret fun seen ws db _ h => (add_zero d).symm ▸ h
  | cons line lines ih =>
    intro d
    refine Triple.bind (restoreItem_restocked hpresent line) fun _ => ?_
    refine Triple.bind (restoreVariant_restocked hpresent line) fun _ => ?_
    refine Triple.bind (restoreOptions_restocked hpresent _ _ _) fun _ => ?_
    rw [demand, List.map_cons, List.map_cons, List.sum_cons, lineDemand, ← add_assoc, ← add_assoc,
      ← add_assoc]
    exact ih _

/-- A restoration gives back the demand of its lines, with the lots they carry. -/
theorem restoreTrackedInventoryForOrder_restocked (lines : List MenuInventoryOrderLineInput) :
    Triple I .fresh (restoreTrackedInventoryForOrder lines) fun _ => restocked present
      (demand (lines.map fun line => (line, line.inventoryLotAllocations))) := by
  refine (restoreLines_restocked hpresent lines 0).conseq (fun seen ws db _ h => ?_)
    fun _ seen ws db _ h => (zero_add (demand _)) ▸ h
  cases h
  exact ⟨0, fun _ _ => rfl, .nil db⟩

end Restore

end Updates

end WerTe
