import Mathlib.Algebra.Group.WithOne.Basic
import Mathlib.Algebra.Group.Pi.Lemmas
import Mathlib.Algebra.BigOperators.Group.List.Lemmas
import Mathlib.Algebra.BigOperators.Group.Finset.Piecewise
import WerTe.StockMoves

/-!
# Quantities: what an order draws on each resource, and what its lots add up to

`amountAt k` reads the quantity that a demand has for one key, and `lotTotal` sums an
item's lots. The two meet in `lotTotal_taken`: when an order takes its demand, the lots
of an item lose in total what the order's lines ordered of that item.
-/

namespace WerTe

open ReadCommitted MenusRepository

/-! ## Levels -/

/-- The stock level under a key. -/
def levelAt (db : Store) (k : Key Tbl) : Option ℤ := (db.get k).bind (stockLevel k.1)

/-- The quantity of an amount, zero if there is none. -/
def quantity : WithZero ℤ →+ ℤ := WithZero.lift (AddHom.id ℤ)

@[simp] theorem quantity_coe (q : ℤ) : quantity (q : WithZero ℤ) = q := WithZero.lift_coe ..

theorem stockLevel_amend_take (d : WithZero ℤ) (k : Key Tbl) (r : Row k.1) :
    stockLevel k.1 (amend take d k r) = (stockLevel k.1 r).map (· - quantity d) := by
  cases d with
  | zero => simp only [amend_zero, map_zero, sub_zero, Option.map_id_fun', id]
  | coe q => rw [amend_coe, stockLevel_take, quantity_coe]

theorem stockLevel_amend_restock {k : Key Tbl} {r : Row k.1} {level : ℤ}
    (h : stockLevel k.1 r = some level) (d : WithZero ℤ) :
    stockLevel k.1 (amend restock d k r) = some (level + quantity d) := by
  cases d with
  | zero => rw [amend_zero, h, map_zero, add_zero]
  | coe q => rw [amend_coe, stockLevel_restock (h ▸ rfl), h, Option.map_some, quantity_coe]

/-- The quantity a demand has for one key. -/
def amountAt (k : Key Tbl) : Amounts →+ ℤ := quantity.comp (Pi.evalAddMonoidHom _ k)

theorem amountAt_apply (k : Key Tbl) (d : Amounts) : amountAt k d = quantity (d k) := rfl

theorem amountAt_single (k k' : Key Tbl) (q : ℤ) :
    amountAt k (Pi.single k' (q : WithZero ℤ)) = if k = k' then q else 0 := by
  rw [amountAt_apply]
  by_cases h : k = k'
  · rw [if_pos h, h, Pi.single_eq_same, quantity_coe]
  · rw [if_neg h, Pi.single_eq_of_ne h, map_zero]

/-! ## What the lines of an order draw on a resource -/

/-- What one line orders of an item, an option or a variant combination. -/
def lineOrdered (line : MenuInventoryOrderLineInput) : Key Tbl → ℤ
  | (.menuItem, id) =>
    if line.menuItemStockTrackedSnapshot ∧ id = line.menuItemId then line.quantity else 0
  | (.itemVariantCombination, id) =>
    if line.reservedVariant = some id then line.quantity else 0
  | (.itemOption, id) =>
    (line.reservedOptions.map fun optionId => if id = optionId then line.quantity else 0).sum
  | _ => 0

/-- What the lines order in all. -/
def ordered (lines : List MenuInventoryOrderLineInput) (k : Key Tbl) : ℤ :=
  (lines.map fun line => lineOrdered line k).sum

theorem amountAt_lotDemand {k : Key Tbl} (hk : k.1 ≠ .menuItemInventoryLot)
    (allocations : List MenuInventoryLotAllocation) : amountAt k (lotDemand allocations) = 0 := by
  rw [lotDemand, map_list_sum, List.map_map]
  refine List.sum_eq_zero fun q hq => ?_
  obtain ⟨a, _, rfl⟩ := List.mem_map.mp hq
  exact (amountAt_single ..).trans (if_neg fun h => hk (congrArg Prod.fst h))

theorem amountAt_optionDemand (k : Key Tbl) (q : ℤ) (optionIds : List Id) :
    amountAt k (optionDemand q optionIds) =
      (optionIds.map fun optionId => if k = (.itemOption, optionId) then q else 0).sum := by
  rw [optionDemand, map_list_sum, List.map_map]
  exact congrArg List.sum (List.map_congr_left fun optionId _ => amountAt_single ..)

theorem amountAt_variantDemand (k : Key Tbl) (line : MenuInventoryOrderLineInput) :
    amountAt k (variantDemand line) =
      if k.1 = .itemVariantCombination ∧ line.reservedVariant = some k.2 then line.quantity
      else 0 := by
  unfold variantDemand
  cases line.reservedVariant with
  | none => rw [map_zero, if_neg fun h => (nomatch h.2)]
  | some id =>
    change amountAt k (Pi.single _ _) = _
    rw [amountAt_single]
    refine if_congr ?_ rfl rfl
    rw [Option.some.injEq, Prod.ext_iff, eq_comm (a := id)]

theorem amountAt_itemDemand {k : Key Tbl} (hk : k.1 ≠ .menuItemInventoryLot)
    (line : MenuInventoryOrderLineInput) (allocations : List MenuInventoryLotAllocation) :
    amountAt k (itemDemand line allocations) =
      if line.menuItemStockTrackedSnapshot ∧ k = (.menuItem, line.menuItemId) then line.quantity
      else 0 := by
  unfold itemDemand
  by_cases htracked : line.menuItemStockTrackedSnapshot = true
  · rw [if_pos htracked, map_add, amountAt_single, amountAt_lotDemand hk, add_zero]
    exact if_congr ⟨fun h => ⟨htracked, h⟩, fun h => h.2⟩ rfl rfl
  · rw [if_neg htracked, map_zero, if_neg fun h => htracked h.1]

/-- Apart from lots, a line's demand is what it orders. -/
theorem amountAt_lineDemand {k : Key Tbl} (hk : k.1 ≠ .menuItemInventoryLot)
    (line : MenuInventoryOrderLineInput) (allocations : List MenuInventoryLotAllocation) :
    amountAt k (lineDemand line allocations) = lineOrdered line k := by
  rw [lineDemand, map_add, map_add, amountAt_itemDemand hk, amountAt_variantDemand,
    amountAt_optionDemand]
  obtain ⟨t, id⟩ := k
  cases t <;> simp [lineOrdered] at hk ⊢

/-- Apart from lots, an order's demand is what it orders. -/
theorem amountAt_demand {k : Key Tbl} (hk : k.1 ≠ .menuItemInventoryLot)
    (allocated : List (MenuInventoryOrderLineInput × List MenuInventoryLotAllocation)) :
    amountAt k (demand allocated) = ordered (allocated.map Prod.fst) k := by
  rw [demand, ordered, map_list_sum, List.map_map, List.map_map]
  exact congrArg List.sum (List.map_congr_left fun l _ => amountAt_lineDemand hk l.1 l.2)

/-! ## What the lines of an order draw on at all -/

theorem add_eq_zero_iff (a b : WithZero ℤ) : a + b = 0 ↔ a = 0 ∧ b = 0 := by
  cases a with
  | zero => rw [zero_add, and_iff_right rfl]
  | coe a =>
    cases b with
    | zero => rw [add_zero, and_iff_left rfl]
    | coe b => exact iff_of_false WithZero.coe_ne_zero fun h => WithZero.coe_ne_zero h.1

theorem sum_ne_zero_of_mem {ds : List Amounts} {d : Amounts} (hd : d ∈ ds) {k : Key Tbl}
    (h : d k ≠ 0) : ds.sum k ≠ 0 := by
  induction ds with
  | nil => cases hd
  | cons d' ds ih =>
    rw [List.sum_cons, Pi.add_apply, Ne, add_eq_zero_iff]
    rintro ⟨hzero, hrest⟩
    rcases List.mem_cons.mp hd with rfl | hd
    · exact h hzero
    · exact ih hd hrest

/-- The items, options and variant combinations that a line takes stock from. -/
def MenuInventoryOrderLineInput.drawsOn (line : MenuInventoryOrderLineInput) : List (Key Tbl) :=
  (if line.menuItemStockTrackedSnapshot then [(.menuItem, line.menuItemId)] else []) ++
    line.reservedVariant.toList.map (.itemVariantCombination, ·) ++
    line.reservedOptions.map (.itemOption, ·)

theorem single_ne_zero (k : Key Tbl) (q : ℤ) : (Pi.single k (q : WithZero ℤ) : Amounts) k ≠ 0 := by
  rw [Pi.single_eq_same]
  exact WithZero.coe_ne_zero

/-- What a line draws on is in its demand. -/
theorem lineDemand_ne_zero {line : MenuInventoryOrderLineInput} {k : Key Tbl}
    (hk : k ∈ line.drawsOn) (allocations : List MenuInventoryLotAllocation) :
    lineDemand line allocations k ≠ 0 := by
  rw [lineDemand, Pi.add_apply, Pi.add_apply, Ne, add_eq_zero_iff, add_eq_zero_iff]
  rintro ⟨⟨hitem, hvariant⟩, hoptions⟩
  rw [MenuInventoryOrderLineInput.drawsOn, List.mem_append, List.mem_append] at hk
  obtain (hk | hk) | hk := hk
  · split at hk
    case isTrue htracked =>
      rw [List.mem_singleton.mp hk, itemDemand, if_pos htracked, Pi.add_apply,
        add_eq_zero_iff] at hitem
      exact single_ne_zero _ _ hitem.1
    case isFalse => cases hk
  · obtain ⟨id, hid, rfl⟩ := List.mem_map.mp hk
    rw [Option.mem_toList] at hid
    rw [variantDemand, hid] at hvariant
    exact single_ne_zero _ _ hvariant
  · obtain ⟨id, hid, rfl⟩ := List.mem_map.mp hk
    exact sum_ne_zero_of_mem (List.mem_map_of_mem hid) (single_ne_zero _ _) hoptions

theorem demand_ne_zero
    {allocated : List (MenuInventoryOrderLineInput × List MenuInventoryLotAllocation)}
    {line : MenuInventoryOrderLineInput} (hline : line ∈ allocated.map Prod.fst) {k : Key Tbl}
    (hk : k ∈ line.drawsOn) : demand allocated k ≠ 0 := by
  obtain ⟨l, hl, rfl⟩ := List.mem_map.mp hline
  exact sum_ne_zero_of_mem (List.mem_map_of_mem hl) (lineDemand_ne_zero hk l.2)

/-! ## Lots -/

/-- What the lots of an item have left, in total. -/
def lotTotal (db : Store) (menuItemId : Id) : ℤ :=
  db.sumOver .menuItemInventoryLot fun _ lot =>
    if lot.menuItemId = menuItemId then lot.remainingQuantity else 0

/-- What a demand takes from the lots of an item, in total. -/
def lotDraw (db : Store) (menuItemId : Id) : Amounts →+ ℤ where
  toFun d := db.sumOver .menuItemInventoryLot fun i lot =>
    if lot.menuItemId = menuItemId then amountAt (.menuItemInventoryLot, i) d else 0
  map_zero' := by
    refine (Db.sumOver_congr fun i lot _ => ?_).trans (db.sumOver_zero .menuItemInventoryLot)
    rw [map_zero, ite_self]
  map_add' d d' := by
    refine (Db.sumOver_congr fun i lot _ => ?_).trans (db.sumOver_add .menuItemInventoryLot _ _)
    split
    · exact map_add _ d d'
    · exact (add_zero 0).symm

theorem lotDraw_apply (db : Store) (menuItemId : Id) (d : Amounts) :
    lotDraw db menuItemId d = db.sumOver .menuItemInventoryLot fun i lot =>
      if lot.menuItemId = menuItemId then amountAt (.menuItemInventoryLot, i) d else 0 := rfl

/-- Taking a demand lowers an item's lots by the demand's draw on them. -/
theorem lotTotal_taken {db : Store} {ws : List (Write Row)} {d : Amounts}
    (h : Accumulates take d ws db) (menuItemId : Id) :
    lotTotal (db.apply ws) menuItemId + lotDraw db menuItemId d = lotTotal db menuItemId := by
  rw [lotTotal, Db.sumOver_map _ fun i => h.rows (.menuItemInventoryLot, i), lotDraw_apply,
    ← Db.sumOver_add]
  refine Db.sumOver_congr fun i lot _ => ?_
  -- a lot keeps its item, and loses its amount
  have hitem : (amend take (d (.menuItemInventoryLot, i)) (.menuItemInventoryLot, i) lot).menuItemId
      = lot.menuItemId := by cases d (.menuItemInventoryLot, i) <;> rfl
  have hlevel : (amend take (d (.menuItemInventoryLot, i))
      (.menuItemInventoryLot, i) lot).remainingQuantity =
      lot.remainingQuantity - amountAt (.menuItemInventoryLot, i) d :=
    Option.some.inj (stockLevel_amend_take (d (.menuItemInventoryLot, i)) (.menuItemInventoryLot, i) lot)
  rw [hitem, hlevel]
  split
  · exact sub_add_cancel ..
  · exact add_zero 0

/-- Giving a demand back raises an item's lots by the demand's draw on them. -/
theorem lotTotal_restocked {db : Store} {ws : List (Write Row)} {d : Amounts}
    (h : Accumulates restock d ws db) (menuItemId : Id) :
    lotTotal (db.apply ws) menuItemId = lotTotal db menuItemId + lotDraw db menuItemId d := by
  rw [lotTotal, Db.sumOver_map _ fun i => h.rows (.menuItemInventoryLot, i), lotDraw_apply,
    lotTotal, ← Db.sumOver_add]
  refine Db.sumOver_congr fun i lot _ => ?_
  have hitem : (amend restock (d (.menuItemInventoryLot, i)) (.menuItemInventoryLot, i) lot).menuItemId
      = lot.menuItemId := by cases d (.menuItemInventoryLot, i) <;> rfl
  have hlevel : (amend restock (d (.menuItemInventoryLot, i))
      (.menuItemInventoryLot, i) lot).remainingQuantity =
      lot.remainingQuantity + amountAt (.menuItemInventoryLot, i) d :=
    Option.some.inj (stockLevel_amend_restock (r := lot) rfl (d (.menuItemInventoryLot, i)))
  rw [hitem, hlevel]
  split
  · rfl
  · exact (add_zero 0).symm

theorem lotDraw_single_of_ne {k : Key Tbl} (hk : k.1 ≠ .menuItemInventoryLot) (db : Store)
    (menuItemId : Id) (q : ℤ) : lotDraw db menuItemId (Pi.single k (q : WithZero ℤ)) = 0 := by
  rw [lotDraw_apply]
  refine (Db.sumOver_congr fun i lot _ => ?_).trans (db.sumOver_zero .menuItemInventoryLot)
  rw [amountAt_single, if_neg fun h => hk (congrArg Prod.fst h).symm, ite_self]

/-- Only what a demand has for the lots that are there counts. -/
theorem lotDraw_congr {db : Store} {d d' : Amounts} (h : ∀ k, (db.get k).isSome → d k = d' k)
    (menuItemId : Id) : lotDraw db menuItemId d = lotDraw db menuItemId d' := by
  rw [lotDraw_apply, lotDraw_apply]
  refine Db.sumOver_congr fun i lot hlot => ?_
  rw [amountAt_apply, amountAt_apply, h _ (Option.isSome_iff_exists.mpr ⟨lot, hlot⟩)]

/-- What a demand on one lot draws on the lots of an item. -/
theorem lotDraw_single {lotItem : Id → Option Id} {db : Store} (h : LotsOf lotItem db)
    (menuItemId lotId : Id) (q : ℤ) :
    lotDraw db menuItemId (Pi.single (.menuItemInventoryLot, lotId) (q : WithZero ℤ)) =
      if lotItem lotId = some menuItemId then q else 0 := by
  have hterm : ∀ i (lot : MenuItemInventoryLot), db.get (.menuItemInventoryLot, i) = some lot →
      (if lot.menuItemId = menuItemId then
        amountAt (.menuItemInventoryLot, i) (Pi.single (.menuItemInventoryLot, lotId) (q : WithZero ℤ))
      else 0) = if i = lotId then (if lot.menuItemId = menuItemId then q else 0) else 0 := by
    intro i lot _
    rw [amountAt_single]
    by_cases hi : i = lotId
    · rw [if_pos hi, if_pos (congrArg _ hi)]
    · rw [if_neg hi, if_neg fun h => hi (congrArg Prod.snd h), ite_self]
  rw [lotDraw_apply, Db.sumOver_congr hterm, Db.sumOver_single, ← h lotId, lotItemOf]
  cases db.get (.menuItemInventoryLot, lotId) with
  | none => rfl
  | some lot => exact if_congr (Option.some.injEq ..).to_iff.symm rfl rfl

theorem lotDraw_variantDemand (db : Store) (menuItemId : Id) (line : MenuInventoryOrderLineInput) :
    lotDraw db menuItemId (variantDemand line) = 0 := by
  unfold variantDemand
  cases line.reservedVariant with
  | none => exact map_zero _
  | some id => exact lotDraw_single_of_ne (fun hk => by cases hk) db menuItemId line.quantity

theorem lotDraw_optionDemand (db : Store) (menuItemId : Id) (q : ℤ) (optionIds : List Id) :
    lotDraw db menuItemId (optionDemand q optionIds) = 0 := by
  rw [optionDemand, map_list_sum, List.map_map]
  refine List.sum_eq_zero fun x hx => ?_
  obtain ⟨id, _, rfl⟩ := List.mem_map.mp hx
  exact lotDraw_single_of_ne (fun hk => by cases hk) db menuItemId q

section LotDraw

variable {lotItem : Id → Option Id} {db : Store} (h : LotsOf lotItem db)
include h

/-- Allocations from the lots of one item draw on that item's lots only. -/
theorem lotDraw_lotDemand {lineItemId : Id} {allocations : List MenuInventoryLotAllocation}
    (hmem : ∀ a ∈ allocations, lotItem a.inventoryLotId = some lineItemId) (menuItemId : Id) :
    lotDraw db menuItemId (lotDemand allocations) =
      if menuItemId = lineItemId then (allocations.map (·.quantity)).sum else 0 := by
  have hterm : ∀ a ∈ allocations,
      lotDraw db menuItemId
        (Pi.single (.menuItemInventoryLot, a.inventoryLotId) (a.quantity : WithZero ℤ)) =
      if menuItemId = lineItemId then a.quantity else 0 := by
    intro a ha
    rw [lotDraw_single h, hmem a ha]
    exact if_congr ((Option.some.injEq ..).to_iff.trans eq_comm) rfl rfl
  rw [lotDemand, map_list_sum, List.map_map]
  refine (congrArg List.sum (List.map_congr_left hterm)).trans ?_
  split
  · rfl
  · exact List.sum_eq_zero fun x hx => by
      obtain ⟨_, _, rfl⟩ := List.mem_map.mp hx
      rfl

/-- A line draws on the lots of its item by what it was allocated. -/
theorem lotDraw_lineDemand {line : MenuInventoryOrderLineInput}
    {allocations : List MenuInventoryLotAllocation}
    (hmem : ∀ a ∈ allocations, lotItem a.inventoryLotId = some line.menuItemId) (menuItemId : Id) :
    lotDraw db menuItemId (lineDemand line allocations) =
      if line.menuItemStockTrackedSnapshot ∧ menuItemId = line.menuItemId then
        (allocations.map (·.quantity)).sum else 0 := by
  rw [lineDemand, map_add, map_add, lotDraw_variantDemand, lotDraw_optionDemand, add_zero, add_zero]
  unfold itemDemand
  by_cases htracked : line.menuItemStockTrackedSnapshot = true
  · rw [if_pos htracked, map_add, lotDraw_single_of_ne (fun hk => by cases hk), zero_add,
      lotDraw_lotDemand h hmem]
    exact if_congr ⟨fun hi => ⟨htracked, hi⟩, fun hi => hi.2⟩ rfl rfl
  · rw [if_neg htracked, map_zero, if_neg fun hi => htracked hi.1]

/-- When the lines of an item carry their whole quantity in lots, they draw on the item's
lots what they order of the item. -/
theorem lotDraw_demand {menuItemId : Id}
    {allocated : List (MenuInventoryOrderLineInput × List MenuInventoryLotAllocation)}
    (hmem : ∀ l ∈ allocated, ∀ a ∈ l.2, lotItem a.inventoryLotId = some l.1.menuItemId)
    (htotal : ∀ l ∈ allocated, l.1.menuItemStockTrackedSnapshot = true →
      menuItemId = l.1.menuItemId → (l.2.map (·.quantity)).sum = l.1.quantity) :
    lotDraw db menuItemId (demand allocated) =
      ordered (allocated.map Prod.fst) (.menuItem, menuItemId) := by
  rw [demand, ordered, map_list_sum, List.map_map, List.map_map]
  refine congrArg List.sum (List.map_congr_left fun l hl => ?_)
  refine (lotDraw_lineDemand h (hmem l hl) menuItemId).trans ?_
  exact ite_congr rfl (fun hi => htotal l hl hi.1 hi.2) fun _ => rfl

end LotDraw

end WerTe
