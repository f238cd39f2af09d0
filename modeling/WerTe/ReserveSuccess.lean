import WerTe.Ledger.Withdrawals
import WerTe.LotAllocation
import WerTe.StockTotals

/-!
# When a reservation succeeds

A reservation withdraws what its lines order from the stocks of items, options and combinations,
and from the lots of the items that have any. Alone it succeeds exactly when each of these has what
all the lines together take from it (`reserveTrackedInventoryForOrder_succeeds_iff`).
-/

namespace WerTe

open ReadCommitted MenusRepository Ledger

/-! ## The accounts -/

/-- What stock is taken from: a tracked stock, or the lots of an item together. -/
inductive StockAccount
  | stock (t : StockTable) (id : Id)
  | lots (menuItemId : Id)
deriving DecidableEq

/-- What the lots of an item can give. -/
def availableQuantity (db : Store) (menuItemId : Id) : ℤ :=
  ((availableLots (listItemInventoryLotsByMenuItemId db menuItemId)).map
    (·.2.remainingQuantity)).sum

def balance (db : Store) : StockAccount → Option ℤ
  | .stock t id => (db.get (t.tbl, id)).bind fun r =>
    if (t.stock r).isStockTracked then (t.stock r).stockQuantity else none
  | .lots menuItemId => some (availableQuantity db menuItemId)

def hasLots (db : Store) (menuItemId : Id) : Bool :=
  decide (0 < countItemInventoryLotsByMenuItemId db menuItemId)

/-- What a line withdraws, when `lotted` tells which items have lots. -/
def withdrawals (lotted : Id → Bool) (line : MenuInventoryOrderLineInput) :
    List (StockAccount × ℤ) :=
  (if line.menuItemStockTrackedSnapshot then
    (if lotted line.menuItemId then [(.lots line.menuItemId, line.quantity)] else []) ++
      [(.stock .menuItem line.menuItemId, line.quantity)]
  else []) ++
  line.reservedVariant.toList.map (fun id => (.stock .itemVariantCombination id, line.quantity)) ++
  line.reservedOptions.map fun id => (.stock .itemOption id, line.quantity)

/-- The body succeeds exactly when the amounts can be withdrawn, and then has withdrawn them. -/
def Withdraws {α : Type} (lotted : Id → Bool) (p : StoreTx α) (ws : List (StockAccount × ℤ)) :
    Prop :=
  ∀ db, hasLots db = lotted →
    (∀ balances, withdrawAll (balance db) ws = some balances →
      ∃ a db', p.run db = .ok (a, db') ∧ balance db' = balances ∧ hasLots db' = lotted) ∧
    (withdrawAll (balance db) ws = none → ∃ e, p.run db = .error e)

namespace Withdraws

variable {α β : Type} {lotted : Id → Bool} {ws ws' : List (StockAccount × ℤ)} {p : StoreTx α}
  {f : α → StoreTx β}

theorem ret (a : α) : Withdraws lotted (.ret a : StoreTx α) [] := by
  intro db hlots
  refine ⟨fun balances h => ?_, fun h => by cases h⟩
  cases h
  exact ⟨a, db, rfl, rfl, hlots⟩

theorem bind (hp : Withdraws lotted p ws) (hf : ∀ a, Withdraws lotted (f a) ws') :
    Withdraws lotted (p.bind f) (ws ++ ws') := by
  intro db hlots
  rw [withdrawAll_append]
  cases hfirst : withdrawAll (balance db) ws with
  | none =>
    obtain ⟨e, hrun⟩ := (hp db hlots).2 hfirst
    refine ⟨fun balances h => (by cases h), fun _ => ⟨e, ?_⟩⟩
    rw [Tx.run_bind, hrun]
    rfl
  | some balances =>
    obtain ⟨a, db₁, hrun, rfl, hlots₁⟩ := (hp db hlots).1 balances hfirst
    have hrest : (p.bind f).run db = (f a).run db₁ := by
      rw [Tx.run_bind, hrun]
      rfl
    rw [hrest]
    exact hf a db₁ hlots₁

theorem read {g : Store → α}
    (hf : ∀ db, hasLots db = lotted → Withdraws lotted (f (g db)) ws) :
    Withdraws lotted ((Tx.read g : StoreTx α).bind f) ws :=
  fun db hlots => hf db hlots db hlots

theorem isSome_iff {db : Store} (hp : Withdraws (hasLots db) p ws) :
    (∃ outcome, p.run db = .ok outcome) ↔ (withdrawAll (balance db) ws).isSome := by
  cases hall : withdrawAll (balance db) ws with
  | none =>
    obtain ⟨e, hrun⟩ := (hp db rfl).2 hall
    refine iff_of_false (fun h => ?_) (by simp)
    obtain ⟨outcome, hok⟩ := h
    cases hrun.symm.trans hok
  | some balances =>
    obtain ⟨a, db', hrun, -, -⟩ := (hp db rfl).1 balances hall
    exact iff_of_true ⟨_, hrun⟩ rfl

end Withdraws

/-! ## A stock -/

theorem StockTable.tbl_ne_lots (t : StockTable) : t.tbl ≠ .menuItemInventoryLot := by
  cases t <;> decide

theorem StockTable.tbl_injective : Function.Injective StockTable.tbl := by
  intro t t' h
  cases t <;> cases t' <;> first | rfl | cases h

/-- One row of a stock is written. -/
theorem balance_put {db : Store} {t : StockTable} {id : Id} {r : Row t.tbl} {left : ℤ}
    (htracked : (t.stock r).isStockTracked = true) (hleft : (t.stock r).stockQuantity = some left) :
    balance (db.put ⟨t.tbl, id, some r⟩) =
      Function.update (balance db) (.stock t id) (some left) := by
  funext account
  cases account with
  | stock t' id' =>
    by_cases hsame : StockAccount.stock t' id' = .stock t id
    · cases hsame
      have hget : (db.put ⟨t.tbl, id, some r⟩).get (t.tbl, id) = some r := Db.get_put_self ..
      rw [Function.update_self, balance, hget, Option.bind_some, if_pos htracked, hleft]
    · rw [Function.update_of_ne hsame, balance, Db.get_put_ne, balance]
      intro hkey
      have ht : t' = t := StockTable.tbl_injective (congrArg Prod.fst hkey)
      have hid : id' = id := congrArg Prod.snd hkey
      exact hsame (by rw [ht, hid])
  | lots menuItemId =>
    rw [Function.update_of_ne (by simp), balance, availableQuantity,
      listItemInventoryLotsByMenuItemId, Db.list_put_ne _ (Ne.symm t.tbl_ne_lots)]
    rfl

theorem hasLots_put {db : Store} {w : Write Row} (h : w.table ≠ .menuItemInventoryLot) :
    hasLots (db.put w) = hasLots db := by
  funext menuItemId
  rw [hasLots, countItemInventoryLotsByMenuItemId, listItemInventoryLotsByMenuItemId,
    Db.list_put_ne _ (Ne.symm h)]
  rfl

/-- A stock is taken from, or the body fails. -/
theorem decrementTrackedStock_withdraws {lotted : Id → Bool} {β : Type} (t : StockTable) (id : Id)
    (q : ℤ) {rest : Bool → StoreTx β} {ws : List (StockAccount × ℤ)}
    (hrest : Withdraws lotted (rest true) ws)
    (hfails : ∀ db, ∃ e, (rest false).run db = .error e) :
    Withdraws lotted ((decrementTrackedStock t id q).bind rest) ((.stock t id, q) :: ws) := by
  intro db hlots
  by_cases hleft : ∃ left, balance db (.stock t id) = some left ∧ q ≤ left
  · obtain ⟨left, hbalance, hle⟩ := hleft
    obtain ⟨r, hget, hstock⟩ := Option.bind_eq_some_iff.mp hbalance
    split_ifs at hstock with htracked
    have hguard : ((t.stock r).isStockTracked && (t.stock r).stockQuantity.any (q ≤ ·)) = true := by
      rw [htracked, hstock]
      exact decide_eq_true hle
    have hput : balance (db.put ⟨t.tbl, id, some (t.setStock r { t.stock r with
        stockQuantity := (t.stock r).stockQuantity.map (· - q) })⟩) =
          Function.update (balance db) (.stock t id) (some (left - q)) :=
      balance_put (by rw [StockTable.stock_setStock, htracked])
        (by rw [StockTable.stock_setStock, hstock]; rfl)
    have hrun : ((decrementTrackedStock t id q).bind rest).run db =
        (rest true).run (db.put ⟨t.tbl, id, some (t.setStock r { t.stock r with
          stockQuantity := (t.stock r).stockQuantity.map (· - q) })⟩) := by
      rw [Tx.run_bind, decrementTrackedStock, Tx.run_updateRow_of_get hget, if_pos hguard]
      rfl
    have hwithdraw : withdraw (balance db) (.stock t id, q) =
        some (Function.update (balance db) (.stock t id) (some (left - q))) :=
      withdraw_eq_some_iff.mpr ⟨left, hbalance, hle, rfl⟩
    rw [hrun, withdrawAll, hwithdraw, Option.bind_some, ← hput]
    exact hrest _ ((hasLots_put t.tbl_ne_lots).trans hlots)
  · have hwithdraw : withdraw (balance db) (.stock t id, q) = none := by
      rw [Option.eq_none_iff_forall_ne_some]
      intro balances h
      obtain ⟨left, hbalance, hle, -⟩ := withdraw_eq_some_iff.mp h
      exact hleft ⟨left, hbalance, hle⟩
    rw [withdrawAll, hwithdraw]
    refine ⟨fun balances h => (by cases h), fun _ => ?_⟩
    have htotal : ∃ ok db₁, (decrementTrackedStock t id q).run db = .ok (ok, db₁) :=
      Tx.Total.update _ db
    obtain ⟨ok, db₁, hrun⟩ := htotal
    rcases Tx.run_updateRow hrun with ⟨r, -, hget, hguard, -⟩ | ⟨rfl, rfl, -⟩
    · obtain ⟨htracked, hlevel⟩ := Bool.and_eq_true_iff.mp hguard
      obtain ⟨left, hlevel, hle⟩ := (Option.any_eq_true _ _).mp hlevel
      refine absurd ⟨left, ?_, of_decide_eq_true hle⟩ hleft
      rw [balance, hget, Option.bind_some, if_pos htracked, hlevel]
    · obtain ⟨e, hfails⟩ := hfails db₁
      refine ⟨e, ?_⟩
      rw [Tx.run_bind, hrun]
      exact hfails

/-! ## Lots -/

theorem sum_list (db : Store) (t : Tbl) (p : Row t → Bool) (f : Id × Row t → ℤ) :
    ((db.list t p).map f).sum = db.sumOver t fun i r => if p r then f (i, r) else 0 := by
  rw [Db.list, Db.sumOver]
  induction (db.rows t).entries with
  | nil => rfl
  | cons e entries ih =>
    by_cases hp : p e.2 = true
    · simp [hp, ih]
    · simp [hp, ih]

theorem sum_available (lots : List (Id × MenuItemInventoryLot)) :
    ((availableLots lots).map (·.2.remainingQuantity)).sum =
      (lots.map fun lot => max 0 lot.2.remainingQuantity).sum := by
  rw [((availableLots_perm lots).map _).sum_eq]
  induction lots with
  | nil => rfl
  | cons lot lots ih =>
    by_cases hpos : 0 < lot.2.remainingQuantity
    · rw [List.filter_cons_of_pos (by simpa using hpos), List.map_cons, List.map_cons,
        List.sum_cons, List.sum_cons, ih, max_eq_right hpos.le]
    · rw [List.filter_cons_of_neg (by simpa using hpos), List.map_cons, List.sum_cons, ih,
        max_eq_left (not_lt.mp hpos), zero_add]

theorem availableQuantity_eq (db : Store) (menuItemId : Id) : availableQuantity db menuItemId =
    db.sumOver .menuItemInventoryLot fun _ lot =>
      if lot.menuItemId = menuItemId then max 0 lot.remainingQuantity else 0 := by
  rw [availableQuantity, sum_available]
  refine (sum_list db .menuItemInventoryLot _ fun lot =>
    max 0 (MenuItemInventoryLot.remainingQuantity lot.2)).trans ?_
  simp only [beq_iff_eq]

/-- Taking what is there lowers what the lots can give by what is taken. -/
theorem availableQuantity_taken {db : Store} {ws : List (Write Row)} {d : Amounts}
    (h : Accumulates take d ws db)
    (henough : ∀ i lot, db.get (.menuItemInventoryLot, i) = some lot →
      d (.menuItemInventoryLot, i) ≠ 0 → 0 ≤ amountAt (.menuItemInventoryLot, i) d ∧
        amountAt (.menuItemInventoryLot, i) d ≤ MenuItemInventoryLot.remainingQuantity lot)
    (menuItemId : Id) : availableQuantity (db.apply ws) menuItemId + lotDraw db menuItemId d =
      availableQuantity db menuItemId := by
  rw [availableQuantity_eq, Db.sumOver_map _ fun i => h.rows (.menuItemInventoryLot, i),
    lotDraw_apply, ← Db.sumOver_add, availableQuantity_eq]
  refine Db.sumOver_congr fun i lot hlot => ?_
  have hitem : (amend take (d (.menuItemInventoryLot, i)) (.menuItemInventoryLot, i) lot).menuItemId
      = lot.menuItemId := by cases d (.menuItemInventoryLot, i) <;> rfl
  have hlevel : (amend take (d (.menuItemInventoryLot, i))
      (.menuItemInventoryLot, i) lot).remainingQuantity =
      lot.remainingQuantity - amountAt (.menuItemInventoryLot, i) d :=
    Option.some.inj (stockLevel_amend_take (d (.menuItemInventoryLot, i)) (.menuItemInventoryLot, i)
      lot)
  rw [hitem, hlevel]
  split_ifs
  · by_cases hzero : d (.menuItemInventoryLot, i) = 0
    · rw [amountAt_apply, hzero, map_zero]
      omega
    · obtain ⟨hnonneg, hle⟩ := henough i lot hlot hzero
      omega
  · rfl

theorem hasLots_apply {db : Store} {ws : List (Write Row)} {d : Amounts}
    (h : Accumulates take d ws db) : hasLots (db.apply ws) = hasLots db := by
  funext menuItemId
  rw [hasLots, hasLots, decide_eq_decide, (lotsOf_lotItemOf db).count_pos,
    ((lotsOf_lotItemOf db).taken h).count_pos]

theorem amountAt_lotDemand_nonneg {allocations : List MenuInventoryLotAllocation}
    (hpos : ∀ a ∈ allocations, 0 < a.quantity) (k : Key Tbl) :
    0 ≤ amountAt k (lotDemand allocations) := by
  rw [lotDemand, map_list_sum, List.map_map]
  refine List.sum_nonneg fun x hx => ?_
  obtain ⟨a, ha, rfl⟩ := List.mem_map.mp hx
  have hquantity := hpos a ha
  rw [Function.comp_apply, amountAt_single]
  split_ifs <;> omega

/-- What a reservation from lots leaves. -/
theorem reserveTrackedInventoryLots_left {db db' : Store} {menuItemId : Id} {q : ℤ}
    {allocations : List MenuInventoryLotAllocation} (hq : 0 ≤ q)
    (hrun : (reserveTrackedInventoryLots menuItemId q).run db = .ok (allocations, db')) :
    hasLots db' = hasLots db ∧ ∀ i, availableQuantity db' i =
      availableQuantity db i - if i = menuItemId then q else 0 := by
  have hlots : ∀ db', db' = db → LotsOf (lotItemOf db) db' := fun _ heq i => by rw [heq]
  have hfresh : ∀ seen ws db₀, db₀ = db → (Tx.Assertion.fresh : Tx.Assertion (· = db)).holds
      seen ws db₀ → (taken 0 : Tx.Assertion (· = db)).holds seen ws db₀ := by
    intro seen ws db₀ _ hfresh
    cases hfresh
    exact .nil db₀
  have hrows : Tx.KeepsRows (· = db) Stocked (reserveTrackedInventoryLots menuItemId q) :=
    .bind (.read _) fun _ => .bind (.require _ _) fun _ =>
      reserveFromLots_rows stocked_takeCloses _ _ _
  obtain ⟨_, ws, rfl, ⟨⟨hmem, hpos, htotal⟩, htaken⟩, hstocked⟩ :=
    (((reserveTrackedInventoryLots_taken hlots menuItemId q).conseq hfresh
      fun _ _ _ _ _ hpost => hpost).and hrows.triple).run rfl hrun
  rw [zero_add] at htaken
  refine ⟨hasLots_apply htaken, fun i => ?_⟩
  have henough : ∀ i lot, db.get (.menuItemInventoryLot, i) = some lot →
      lotDemand allocations (.menuItemInventoryLot, i) ≠ 0 →
        0 ≤ amountAt (.menuItemInventoryLot, i) (lotDemand allocations) ∧
          amountAt (.menuItemInventoryLot, i) (lotDemand allocations) ≤
            MenuItemInventoryLot.remainingQuantity lot := by
    intro i lot hlot hne
    refine ⟨amountAt_lotDemand_nonneg hpos _, ?_⟩
    have hwritten : ((.menuItemInventoryLot, i) : Key Tbl) ∈ ws.map Write.key :=
      not_imp_comm.mp (htaken.frame _) hne
    obtain ⟨r, level, hr, hlevel, hnonneg⟩ := hstocked _ hwritten
    have hrow : some r = (some lot).map (amend take (lotDemand allocations
        (.menuItemInventoryLot, i)) (.menuItemInventoryLot, i)) := by
      rw [← hr, htaken.rows, hlot]
    rw [Option.some.inj hrow, stockLevel_amend_take] at hlevel
    have hleft : MenuItemInventoryLot.remainingQuantity lot -
        amountAt (.menuItemInventoryLot, i) (lotDemand allocations) = level :=
      Option.some.inj hlevel
    omega
  have hsum := availableQuantity_taken htaken henough i
  rw [lotDraw_lotDemand (lotsOf_lotItemOf db) hmem, htotal hq] at hsum
  omega

/-- Lots are taken from, or the body fails. -/
theorem reserveTrackedInventoryLots_withdraws {lotted : Id → Bool} (menuItemId : Id) {q : ℤ}
    (hq : 0 ≤ q) : Withdraws lotted (reserveTrackedInventoryLots menuItemId q)
      [(.lots menuItemId, q)] := by
  intro db hlots
  have hrows : ∀ lot ∈ availableLots (listItemInventoryLotsByMenuItemId db menuItemId),
      db.get (.menuItemInventoryLot, lot.1) = some lot.2 := fun lot hlot =>
    (Db.mem_list.mp (mem_availableLots.mp hlot).1).1
  have hnodup : ((availableLots (listItemInventoryLotsByMenuItemId db menuItemId)).map
      Prod.fst).Nodup := availableLots_nodup (Db.list_nodup db .menuItemInventoryLot _)
  by_cases hle : q ≤ availableQuantity db menuItemId
  · have hrun : (reserveTrackedInventoryLots menuItemId q).run db =
        .ok ((lotTakes (availableLots (listItemInventoryLotsByMenuItemId db menuItemId)) q).map
          fun take => lotAllocation take.1 take.2,
          db.apply ((lotTakes (availableLots (listItemInventoryLotsByMenuItemId db menuItemId))
            q).map fun take => lotWrite take.1 take.2)) := by
      rw [availableQuantity] at hle
      simp only [reserveTrackedInventoryLots, Tx.bind_eq, Tx.run_bind, Tx.run_read, Except.bind,
        Tx.require, hle, if_true, Tx.run_ret, reserveFromLots_run menuItemId hnodup hrows]
    obtain ⟨hsame, hleft⟩ := reserveTrackedInventoryLots_left hq hrun
    have hwithdraw : withdraw (balance db) (.lots menuItemId, q) =
        some (Function.update (balance db) (.lots menuItemId)
          (some (availableQuantity db menuItemId - q))) :=
      withdraw_eq_some_iff.mpr ⟨_, rfl, hle, rfl⟩
    rw [withdrawAll, hwithdraw]
    refine ⟨fun balances h => ?_, fun h => (by cases h)⟩
    cases h
    refine ⟨_, _, hrun, funext fun account => ?_, hsame.trans hlots⟩
    cases account with
    | stock t id =>
      rw [Function.update_of_ne (by simp), balance, Db.get_apply_of_table, balance]
      intro w hw
      obtain ⟨_, -, rfl⟩ := List.mem_map.mp hw
      exact Ne.symm t.tbl_ne_lots
    | lots i =>
      rw [balance, hleft]
      by_cases hi : i = menuItemId
      · rw [hi, Function.update_self, if_pos rfl]
      · rw [if_neg hi, sub_zero, Function.update_of_ne (by simpa using hi), balance]
  · have hwithdraw : withdraw (balance db) (.lots menuItemId, q) = none := by
      rw [Option.eq_none_iff_forall_ne_some]
      intro balances h
      obtain ⟨left, hbalance, hle', -⟩ := withdraw_eq_some_iff.mp h
      cases hbalance
      exact hle hle'
    rw [withdrawAll, hwithdraw]
    refine ⟨fun balances h => (by cases h), fun _ => ?_⟩
    rw [availableQuantity] at hle
    refine ⟨notEnoughLots menuItemId q (availableQuantity db menuItemId), ?_⟩
    simp only [reserveTrackedInventoryLots, Tx.bind_eq, Tx.run_bind, Tx.run_read, Except.bind,
      Tx.require, hle, if_false, Tx.run_throw]
    rfl

/-! ## The lines -/

section Lines

variable {lotted : Id → Bool} {line : MenuInventoryOrderLineInput}

theorem reserveItem_withdraws (hq : 0 ≤ line.quantity) (result : MenuInventoryReservationResult) :
    Withdraws lotted (reserveItem line result) (if line.menuItemStockTrackedSnapshot then
      (if lotted line.menuItemId then [(.lots line.menuItemId, line.quantity)] else []) ++
        [(.stock .menuItem line.menuItemId, line.quantity)]
      else []) := by
  unfold reserveItem
  by_cases htracked : line.menuItemStockTrackedSnapshot = true
  · rw [if_pos htracked, if_pos htracked]
    refine .read fun previous _ => .read fun db hlots => .bind ?_ fun allocations => ?_
    · have hcount : 0 < countItemInventoryLotsByMenuItemId db line.menuItemId ↔
          lotted line.menuItemId = true := by
        rw [← hlots, hasLots, decide_eq_true_iff]
      by_cases hlotted : lotted line.menuItemId = true
      · rw [if_pos (hcount.mpr hlotted), if_pos hlotted]
        exact reserveTrackedInventoryLots_withdraws line.menuItemId hq
      · rw [if_neg (hcount.not.mpr hlotted), if_neg hlotted]
        exact .ret _
    · exact decrementTrackedStock_withdraws .menuItem line.menuItemId line.quantity
        (.read fun next _ => .ret _) fun db => ⟨_, rfl⟩
  · rw [if_neg htracked, if_neg htracked]
    exact .ret result

theorem reserveVariant_withdraws : Withdraws lotted (reserveVariant line)
    (line.reservedVariant.toList.map fun id =>
      (.stock .itemVariantCombination id, line.quantity)) := by
  unfold reserveVariant
  cases line.reservedVariant with
  | none => exact .ret ()
  | some combinationId =>
    exact decrementTrackedStock_withdraws .itemVariantCombination combinationId line.quantity
      (.ret ()) fun db => ⟨_, rfl⟩

theorem reserveOptions_withdraws (q : ℤ) {optionIds : List Id} :
    ∀ result, Withdraws lotted (reserveOptions q optionIds result)
      (optionIds.map fun id => (.stock .itemOption id, q)) := by
  induction optionIds with
  | nil => exact fun result => .ret result
  | cons optionId optionIds ih =>
    exact fun result => .read fun previous _ =>
      decrementTrackedStock_withdraws .itemOption optionId q (.read fun next _ => ih _)
        fun db => ⟨_, rfl⟩

theorem reserveLines_withdraws {lines : List MenuInventoryOrderLineInput}
    (hq : ∀ line ∈ lines, 0 ≤ line.quantity) :
    ∀ result, Withdraws lotted (reserveLines lines result)
      (lines.flatMap (withdrawals lotted)) := by
  induction lines with
  | nil => exact fun result => .ret result
  | cons line lines ih =>
    obtain ⟨hline, hlines⟩ := List.forall_mem_cons.mp hq
    intro result
    rw [List.flatMap_cons, withdrawals, List.append_assoc, List.append_assoc]
    exact .bind (reserveItem_withdraws hline result) fun _ => .bind reserveVariant_withdraws
      fun _ => .bind (reserveOptions_withdraws line.quantity _) fun _ => ih hlines _

end Lines

theorem withdrawals_nonneg {lotted : Id → Bool} {lines : List MenuInventoryOrderLineInput}
    (hq : ∀ line ∈ lines, 0 ≤ line.quantity) :
    ∀ w ∈ lines.flatMap (withdrawals lotted), 0 ≤ w.2 := by
  intro w hw
  obtain ⟨line, hline, hw⟩ := List.mem_flatMap.mp hw
  have hquantity : w.2 = line.quantity := by
    simp only [withdrawals, List.mem_append, List.mem_map] at hw
    obtain (hw | ⟨id, -, rfl⟩) | ⟨id, -, rfl⟩ := hw
    · split_ifs at hw
      · obtain rfl | rfl := by simpa using hw
        · rfl
        · rfl
      · rw [List.mem_singleton.mp hw]
      · cases hw
    · rfl
    · rfl
  exact hquantity ▸ hq line hline

/-- **When a reservation succeeds.** -/
theorem reserve_succeeds_iff {db : Store} {lines : List MenuInventoryOrderLineInput}
    (hq : ∀ line ∈ lines, 0 ≤ line.quantity) :
    (∃ outcome, (reserveTrackedInventoryForOrder lines).run db = .ok outcome) ↔
      Covered (balance db) (lines.flatMap (withdrawals (hasLots db))) :=
  (reserveLines_withdraws hq _).isSome_iff.trans (withdrawAll_isSome_iff (withdrawals_nonneg hq))

end WerTe
