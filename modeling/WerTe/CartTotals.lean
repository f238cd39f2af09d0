import Mathlib.Data.Fin.VecNotation
import WerTe.Carts
import WerTe.ReadCommitted.RelyGuarantee
import WerTe.StockRelease

/-!
# The totals of a cart

Every operation on a cart changes lines of it and then writes totals that it has computed from
the lines it sees (`CartCommit`). Two operations may each see the cart without the other's
change, and the totals written last then lack it (`line_not_counted`). As long as the cart has
the lines that were seen when the totals are committed (`CartUpToDate`), the totals are right in
every state that is reached (`cart_totals_right`).
-/

namespace WerTe

open ReadCommitted MenusRepository CartsRepository CartPricing CartMutation Tx

/-! ## Right totals -/

/-- The lines say what they cost, and the cart what its lines cost together. -/
structure CartsRight (db : Store) : Prop where
  totals : ∀ cartId cart, db.get (.cart, cartId) = some cart →
    cart.totalQuantity = ((listCartItemsByCartId db cartId).map (·.2.quantity)).sum ∧
      cart.subtotalAmount = ((listCartItemsByCartId db cartId).map (·.2.lineTotal)).sum
  lines : ∀ i item, db.get (.cartItem, i) = some item →
    item.lineTotal = item.quantity * item.unitPriceSnapshot

/-- Lines stay in their carts: an id, once made up, is not made up again for another cart. -/
def LinesIn (cartOf : Id → Id) (db : Store) : Prop :=
  ∀ i item, db.get (.cartItem, i) = some item → item.cartId = cartOf i

/-- A cart has the same lines in both databases. -/
def SameLines (cartId : Id) (a b : Store) : Prop :=
  ∀ i item, item.cartId = cartId →
    (a.get (.cartItem, i) = some item ↔ b.get (.cartItem, i) = some item)

theorem mem_listCartItemsByCartId {db : Store} {cartId i : Id} {item : CartItem} :
    (i, item) ∈ listCartItemsByCartId db cartId ↔
      db.get (.cartItem, i) = some item ∧ item.cartId = cartId := by
  rw [listCartItemsByCartId, List.mem_insertionSort, Db.mem_list, beq_iff_eq]

theorem listCartItemsByCartId_nodup (db : Store) (cartId : Id) :
    (listCartItemsByCartId db cartId).Nodup := by
  have hnodup := Db.list_nodup db .cartItem fun item => item.cartId == cartId
  exact (List.perm_insertionSort ..).nodup_iff.mpr (.of_map _ hnodup)

theorem SameLines.perm {cartId : Id} {a b : Store} (h : SameLines cartId a b) :
    (listCartItemsByCartId a cartId).Perm (listCartItemsByCartId b cartId) := by
  refine (List.perm_ext_iff_of_nodup (listCartItemsByCartId_nodup a cartId)
    (listCartItemsByCartId_nodup b cartId)).mpr fun ⟨i, item⟩ => ?_
  rw [mem_listCartItemsByCartId, mem_listCartItemsByCartId]
  exact and_congr_left fun hcart => h i item hcart

/-- The same writes leave the same lines. -/
theorem SameLines.apply {cartId : Id} {a b : Store} (h : SameLines cartId a b)
    (ws : List (Write Row)) : SameLines cartId (a.apply ws) (b.apply ws) := by
  intro i item hcart
  by_cases hk : ((.cartItem, i) : Key Tbl) ∈ ws.map Write.key
  · rw [Db.get_apply_congr hk]
  · rw [Db.get_apply_of_notMem hk, Db.get_apply_of_notMem hk]
    exact h i item hcart

/-! ## One commit -/

/-- What a commit writes before the totals. -/
inductive LineWrite (round : ℚ → ℚ) (cartOf : Id → Id) (cartId : Id) : Write Row → Prop
  /-- the cart is created -/
  | cart {cart : Cart} : LineWrite round cartOf cartId ⟨.cart, cartId, some cart⟩
  /-- a line is created or changed -/
  | line {i : Id} {item : CartItem} (hcart : item.cartId = cartId)
      (htotal : item.lineTotal = computeLineTotal round item.quantity item.unitPriceSnapshot) :
      LineWrite round cartOf cartId ⟨.cartItem, i, some item⟩
  /-- a line is removed -/
  | remove {i : Id} (hcart : cartOf i = cartId) :
      LineWrite round cartOf cartId ⟨.cartItem, i, none⟩
  /-- options are created or removed -/
  | option {i : Id} {r : Option CartItemOption} :
      LineWrite round cartOf cartId ⟨.cartItemOption, i, r⟩

/-- A commit changes lines of one cart, and then the totals to those of the lines it has seen. -/
def CartCommit (round : ℚ → ℚ) (cartOf : Id → Id) (seen : Store) (ws : List (Write Row)) : Prop :=
  ∃ cartId cart lines, (∀ w ∈ lines, LineWrite round cartOf cartId w) ∧
    ws = lines ++ [⟨.cart, cartId, some ((computeCartTotals round
      ((listCartItemsByCartId (seen.apply lines) cartId).map Prod.snd)).apply cart)⟩]

section Operations

variable {R : Rely Row} {round : ℚ → ℚ} {cartOf : Id → Id} {cartId : Id} {seen db : Store}
  {ws : List (Write Row)}

/-- Lines are changed, after others were. -/
theorem relies_lines {α β : Type} {p : StoreTx β} {f : β → StoreTx α}
    {Post : α → Store → List (Write Row) → Store → Prop}
    (hp : p.Writes (LineWrite round cartOf cartId))
    (hws : ∀ w ∈ ws, LineWrite round cartOf cartId w) (hinv : R.inv db)
    (hf : ∀ b seen' ws' db', (∀ w ∈ ws', LineWrite round cartOf cartId w) → R.inv db' →
      (f b).Relies R Post seen' ws' db') : (p.bind f).Relies R Post seen ws db := by
  refine .bind_writes hp hinv fun b seen' ws' db' hws' hinv' => hf b seen' _ db' ?_ hinv'
  simpa only [List.forall_mem_append] using ⟨hws, hws'⟩

/-- The totals are recomputed last. -/
theorem recomputeCartTotals_relies {α : Type} {f : Unit → α}
    (hws : ∀ w ∈ ws, LineWrite round cartOf cartId w) :
    ((recomputeCartTotals round cartId).bind fun u => .ret (f u)).Relies R
      (fun _ seen ws _ => CartCommit round cartOf seen ws) seen ws db := by
  refine .read_bind fun db' hrel => .updateExisting_bind (R.inv_right hrel) fun _ cart _ _ => ?_
  exact fun _ _ => ⟨cartId, cart, ws, hws, rfl⟩

/-- Options are not lines. -/
theorem LineWrite.of_table {w : Write Row} (h : w.table = .cartItemOption) :
    LineWrite round cartOf cartId w := by
  obtain ⟨t, i, r⟩ := w
  cases h
  exact .option

theorem createCartItemOptions_writes (data : List (Id × CartItemOption)) :
    (createCartItemOptions data).Writes fun w => w.table = .cartItemOption := by
  refine ⟨fun db b ws hq w hw => ?_, fun _ => True.intro⟩
  dsimp only at hq
  split at hq
  · cases hq
  · cases hq
    obtain ⟨option, -, rfl⟩ := List.mem_map.mp hw
    rfl

theorem deleteCartItemOptions_writes (selected : Store → CartItemOption → Bool) :
    (deleteCartItemOptions selected).Writes fun w => w.table = .cartItemOption := by
  refine .update fun db w hw => ?_
  obtain ⟨option, -, rfl⟩ := List.mem_map.mp hw
  rfl

theorem addLine_relies (ids : NewIds) (customerProfileId branchId menuItemId : Id) (quantity : ℤ)
    (unitPriceSnapshot : ℚ) (selected : List (Id × ItemOption)) :
    (addLine round ids customerProfileId branchId menuItemId quantity unitPriceSnapshot
      selected).Relies R (fun _ seen ws _ => CartCommit round cartOf seen ws) seen [] db := by
  refine .read_bind fun db' hrel => ?_
  have hline : ∀ (cartId : Id) (seen : Store) (ws : List (Write Row)) (db : Store), R.inv db →
      (∀ w ∈ ws, LineWrite round cartOf cartId w) →
      ((createCartItem ids.cartItemId ⟨cartId, menuItemId, quantity, unitPriceSnapshot,
        computeLineTotal round quantity unitPriceSnapshot, ids.createdAt⟩).bind fun _ =>
          (createCartItemOptions (selectedOptionRows ids.optionRowIds ids.createdAt ids.cartItemId
            selected)).bind fun _ => (recomputeCartTotals round cartId).bind fun _ =>
              .ret cartId).Relies R (fun _ seen ws _ => CartCommit round cartOf seen ws) seen ws db :=
    fun cartId _ _ _ hinv hws => relies_lines (.insertRow (.line rfl rfl)) hws hinv
      fun _ _ _ _ hws hinv => relies_lines (.mono (fun _ => .of_table) (createCartItemOptions_writes _)) hws hinv
        fun _ _ _ _ hws _ => recomputeCartTotals_relies hws
  cases findActiveCartByCustomerProfileIdAndBranchId (db'.apply []) customerProfileId branchId with
  | some cart => exact hline cart.1 _ _ _ (R.inv_right hrel) (by simp)
  | none =>
    exact relies_lines (.insertRow .cart) (by simp) (R.inv_right hrel)
      fun _ _ _ _ hws hinv => hline ids.cartId _ _ _ hinv hws

theorem reselectOptions_writes (ids : NewIds) (cartItem : CartItemOwnershipRecord)
    (menuItem : MenuItemOwnershipRecord) (quantity : ℤ) (selectedOptionIds : Option (List Id)) :
    (reselectOptions round ids cartItem menuItem quantity selectedOptionIds).Writes
      fun w => w.table = .cartItemOption := by
  cases selectedOptionIds with
  | some optionIds =>
    exact .bind .check fun _ => .bind (deleteCartItemOptions_writes _) fun _ =>
      .bind (createCartItemOptions_writes _) fun _ => .ret _
  | none => exact .bind .read fun _ => .bind .check fun _ => .ret _

end Operations

/-! ## Every operation -/

/-- The operations on carts. -/
inductive CartCall
  | add (ids : NewIds) (currentUser : AuthenticatedUser) (branchId menuItemId : Id) (quantity : ℤ)
      (selectedOptionIds : List Id)
  | update (ids : NewIds) (currentUser : AuthenticatedUser) (cartItemId : Id) (quantity : ℤ)
      (selectedOptionIds : Option (List Id))
  | remove (currentUser : AuthenticatedUser) (cartItemId : Id)
  | clear (currentUser : AuthenticatedUser) (branchId : Id)
deriving DecidableEq, Repr

/-- The operation. -/
def CartCall.service (round : ℚ → ℚ) : CartCall → StoreService CartAggregate
  | add ids currentUser branchId menuItemId quantity selectedOptionIds =>
    addCurrentCustomerCartItem round ids currentUser branchId menuItemId quantity selectedOptionIds
  | update ids currentUser cartItemId quantity selectedOptionIds =>
    updateCurrentCustomerCartItem round ids currentUser cartItemId quantity selectedOptionIds
  | remove currentUser cartItemId => removeCurrentCustomerCartItem round currentUser cartItemId
  | clear currentUser branchId => clearCurrentCustomerBranchCart round currentUser branchId

section Calls

variable {round : ℚ → ℚ} {cartOf : Id → Id} {reads : List Store}
  {Q : List Store → Store → List (Write Row) → Store → Prop} {R : Rely Row}

theorem resolveCartAggregateOrThrow_guarantees (cartId : Id) :
    (resolveCartAggregateOrThrow cartId).Guarantees R Q reads := .get_bind fun _ _ => .orFail _ _

theorem resolveCurrentCustomerProfile_guarantees (currentUser : AuthenticatedUser) :
    (resolveCurrentCustomerProfile currentUser).Guarantees R Q reads :=
  .get_bind fun _ _ => .orFail_bind fun _ _ => .require_bind fun _ => True.intro

theorem resolveMenuItemForBranch_guarantees (branchId menuItemId : Id) :
    (resolveMenuItemForBranch branchId menuItemId).Guarantees R Q reads :=
  .get_bind fun _ _ => .orFail_bind fun _ _ => .require_bind fun _ => True.intro

/-- The line is read with the cart it is in. -/
theorem resolveOwnedCartItem_bind {α : Type} {currentUser : AuthenticatedUser} {cartItemId : Id}
    {f : CartItemOwnershipRecord → StoreService α}
    (hf : ∀ record reads, record.id = cartItemId → record.item.cartId = cartOf cartItemId →
      (f record).Guarantees (.rows (LinesIn cartOf)) Q reads) :
    ((resolveOwnedCartItem currentUser cartItemId).bind f).Guarantees (.rows (LinesIn cartOf)) Q
      reads := by
  refine .get_bind fun db hinv => .orFail_bind fun record hrecord => ?_
  have hfind := (Option.filter_eq_some_iff.mp hrecord).1
  simp only [findCartItemById, Option.bind_eq_bind, Option.bind_eq_some_iff, Option.pure_def,
    Option.some.injEq] at hfind
  obtain ⟨item, hitem, _, _, _, _, rfl⟩ := hfind
  exact hf _ _ rfl (hinv _ _ hitem)

/-- An operation changes lines of one cart, and then writes the totals of the lines it sees. -/
theorem CartCall.guarantees (call : CartCall) : (call.service round).Guarantees
    (.rows (LinesIn cartOf)) (fun _ seen ws _ => CartCommit round cartOf seen ws) [] := by
  cases call with
  | add ids currentUser branchId menuItemId quantity selectedOptionIds =>
    refine .require_bind fun _ => .bind (fun profileId _ => ?_)
      (resolveCurrentCustomerProfile_guarantees currentUser)
    refine .bind (fun menuItem _ => ?_) (resolveMenuItemForBranch_guarantees branchId menuItemId)
    refine .get_bind fun _ _ => .ofExcept_bind fun selected _ => ?_
    exact .transaction_bind (fun _ _ _ => addLine_relies ids _ _ _ _ _ _)
      fun _ => resolveCartAggregateOrThrow_guarantees _
  | update ids currentUser cartItemId quantity selectedOptionIds =>
    refine .require_bind fun _ => resolveOwnedCartItem_bind fun record _ hid hcart => ?_
    refine .bind (fun menuItem _ => ?_) (resolveMenuItemForBranch_guarantees _ _)
    refine .transaction_bind (fun _ _ hinv => ?_) fun _ => resolveCartAggregateOrThrow_guarantees _
    refine .bind_writes (reselectOptions_writes ..) hinv fun _ _ ws _ hws hinv => ?_
    refine .updateExisting_bind hinv fun db' item hrel hget => ?_
    -- the line is still in the cart it was read in
    rw [List.nil_append, Db.get_apply_of_table fun w hw => by simp [hws w hw]] at hget
    have hitem : item.cartId = record.item.cartId := by
      rw [hcart, ← hid]
      exact hrel.1 _ _ hget
    refine .of_bind_ret (f := fun u => u) _ (recomputeCartTotals_relies fun w hw => ?_)
    rcases List.mem_append.mp hw with hw | hw
    · exact .of_table (hws w hw)
    · rw [List.mem_singleton.mp hw]
      exact .line hitem rfl
  | remove currentUser cartItemId =>
    refine resolveOwnedCartItem_bind fun record _ hid hcart => ?_
    refine .transaction_bind (fun _ _ hinv => ?_) fun _ => resolveCartAggregateOrThrow_guarantees _
    refine relies_lines (.mono (fun _ => .of_table) (deleteCartItemOptions_writes _)) (by simp) hinv
      fun _ _ _ _ hws hinv => relies_lines ?_ hws hinv fun _ _ _ _ hws _ =>
        .of_bind_ret (f := fun u => u) _ (recomputeCartTotals_relies hws)
    refine ⟨fun db b ws hq w hw => ?_, fun _ => True.intro⟩
    dsimp only at hq
    split at hq
    · cases hq
    · cases hq
      rw [List.mem_singleton.mp hw, hid]
      exact .remove hcart.symm
  | clear currentUser branchId =>
    refine .bind (fun profileId _ => ?_) (resolveCurrentCustomerProfile_guarantees currentUser)
    refine .get_bind fun db _ => ?_
    cases findActiveCartByCustomerProfileIdAndBranchId db profileId branchId with
    | none => exact True.intro
    | some cart =>
      refine .transaction_bind (fun _ _ hinv => ?_)
        fun _ => resolveCartAggregateOrThrow_guarantees _
      refine .bind_writes (deleteCartItemOptions_writes _) hinv fun _ _ ws _ hws hinv => ?_
      refine .update_bind fun db' hrel =>
        .of_bind_ret (f := fun u => u) _ (recomputeCartTotals_relies fun w hw => ?_)
      rcases List.mem_append.mp hw with hw | hw
      · exact .of_table (hws w hw)
      · obtain ⟨line, hline, rfl⟩ := List.mem_map.mp hw
        obtain ⟨hget, hcart⟩ := Db.mem_list.mp hline
        rw [List.nil_append, Db.get_apply_of_table fun w hw => by simp [hws w hw]] at hget
        exact .remove ((hrel.1 _ _ hget).symm.trans (eq_of_beq hcart))

end Calls

/-! ## Runs -/

/-- Every sum of the first few amounts is exact. -/
def ExactSums (round : ℚ → ℚ) (amounts : List ℚ) : Prop :=
  ∀ n, round (amounts.take n).sum = (amounts.take n).sum

theorem addUp_eq_sum {round : ℚ → ℚ} {amounts : List ℚ} :
    ∀ {start : ℚ}, (∀ n, round (start + (amounts.take n).sum) = start + (amounts.take n).sum) →
      addUp round start amounts = start + amounts.sum := by
  induction amounts with
  | nil => exact fun _ => (add_zero _).symm
  | cons amount amounts ih =>
    intro start h
    have hfirst : round (start + amount) = start + amount := by simpa using h 1
    have hrest : addUp round (start + amount) amounts = start + amount + amounts.sum :=
      ih fun n => by simpa [add_assoc] using h (n + 1)
    change addUp round (round (start + amount)) amounts = _
    rw [hfirst, hrest, List.sum_cons, add_assoc]

theorem ExactSums.addUp_eq {round : ℚ → ℚ} {amounts : List ℚ} (h : ExactSums round amounts) :
    addUp round 0 amounts = amounts.sum := by
  rw [addUp_eq_sum fun n => ?_, zero_add]
  rw [zero_add]
  exact h n

section Runs

variable {ι : Type} {round : ℚ → ℚ} {cartOf : Id → Id} {e : Event ι Row}

/-- A cart whose totals are written has the lines that were seen when they were computed; and
nothing that was computed had to be rounded. -/
structure CartUpToDate (round : ℚ → ℚ) (e : Event ι Row) : Prop where
  same : ∀ cartId, ((.cart, cartId) : Key Tbl) ∈ e.writes.map Write.key →
    SameLines cartId e.seen e.db
  sums : ∀ cartId, ((.cart, cartId) : Key Tbl) ∈ e.writes.map Write.key →
    ExactSums round ((listCartItemsByCartId (e.seen.apply e.writes) cartId).map (·.2.lineTotal))
  lines : ∀ i (item : CartItem), (⟨.cartItem, i, some item⟩ : Write Row) ∈ e.writes →
    round (item.unitPriceSnapshot * item.quantity) = item.unitPriceSnapshot * item.quantity

section Commit

variable {cartId : Id} {cart : Cart} {lines : List (Write Row)}

/-- A line that is written is of the cart whose totals are. -/
theorem cartOf_eq_of_write (hin : LinesIn cartOf e.result)
    (hlines : ∀ w ∈ lines, LineWrite round cartOf cartId w) {i : Id} {r : Option CartItem}
    (hr : (⟨.cartItem, i, r⟩ : Write Row) ∈ lines) (hget : e.result.get (.cartItem, i) = r) :
    cartOf i = cartId := by
  cases hlines _ hr with
  | line hcart htotal => exact (hin _ _ hget).symm.trans hcart
  | remove hcart => exact hcart

theorem mem_of_cartItem {totals : Cart}
    (hws : e.writes = lines ++ [⟨.cart, cartId, some totals⟩]) {i : Id} {r : Option CartItem}
    (hr : (⟨.cartItem, i, r⟩ : Write Row) ∈ e.writes) : (⟨.cartItem, i, r⟩ : Write Row) ∈ lines := by
  rw [hws] at hr
  rcases List.mem_append.mp hr with hr | hr
  · exact hr
  · cases List.mem_singleton.mp hr

/-- The cart whose totals are written has the lines that they were computed from. -/
theorem CartUpToDate.lists {totals : Cart} (h : CartUpToDate round e)
    (hws : e.writes = lines ++ [⟨.cart, cartId, some totals⟩]) :
    (listCartItemsByCartId (e.seen.apply lines) cartId).Perm
        (listCartItemsByCartId e.result cartId) ∧
      ExactSums round
        ((listCartItemsByCartId (e.seen.apply lines) cartId).map (·.2.lineTotal)) := by
  have hkey : ((Tbl.cart, cartId) : Key Tbl) ∈ e.writes.map Write.key := by simp [hws, Write.key]
  have hlist : listCartItemsByCartId (e.seen.apply e.writes) cartId =
      listCartItemsByCartId (e.seen.apply lines) cartId := by
    rw [hws, Db.apply_append, Db.apply_cons, Db.apply_nil, listCartItemsByCartId,
      listCartItemsByCartId, Db.list_put_ne _ (by simp)]
  rw [← hlist]
  exact ⟨((h.same cartId hkey).apply e.writes).perm, h.sums cartId hkey⟩

/-- No other cart is written, and neither are its lines. -/
theorem other_carts {totals : Cart} (hin : LinesIn cartOf e.db) (hin' : LinesIn cartOf e.result)
    (hlines : ∀ w ∈ lines, LineWrite round cartOf cartId w)
    (hws : e.writes = lines ++ [⟨.cart, cartId, some totals⟩]) {cartId' : Id}
    (hid : cartId' ≠ cartId) : e.result.get (.cart, cartId') = e.db.get (.cart, cartId') ∧
      SameLines cartId' e.db e.result := by
  refine ⟨Db.get_apply_of_notMem fun hk => ?_, fun i item hitem => ?_⟩
  · obtain ⟨w, hw, hkey⟩ := List.mem_map.mp hk
    rw [hws] at hw
    rcases List.mem_append.mp hw with hw | hw
    · cases hlines w hw with
      | cart => exact hid (congrArg Prod.snd hkey).symm
      | line _ _ => cases congrArg Prod.fst hkey
      | remove _ => cases congrArg Prod.fst hkey
      | option => cases congrArg Prod.fst hkey
    · rw [List.mem_singleton.mp hw] at hkey
      exact hid (congrArg Prod.snd hkey).symm
  · rcases Db.get_apply_cases e.writes .cartItem i e.db with hget | ⟨r, hr, hget⟩
    · rw [Event.result, hget]
    · -- a line that is written is not of this cart, before or after
      have hcart := cartOf_eq_of_write hin' hlines (mem_of_cartItem hws hr) hget
      refine iff_of_false (fun hi => hid ?_) fun hi => hid ?_
      · rw [← hitem, hin _ _ hi, hcart]
      · rw [← hitem, hin' _ _ hi, hcart]

theorem CartsRight.commit (h : CartsRight e.db) (hin : LinesIn cartOf e.db)
    (hin' : LinesIn cartOf e.result) (hcommit : CartCommit round cartOf e.seen e.writes)
    (hcurrent : CartUpToDate round e) : CartsRight e.result := by
  obtain ⟨cartId, cart, lines, hlines, hws⟩ := hcommit
  refine ⟨fun cartId' cart' hcart' => ?_, fun i item hitem => ?_⟩
  · by_cases hid : cartId' = cartId
    · subst hid
      obtain ⟨hperm, hsums⟩ := hcurrent.lists hws
      have hget : e.result.get (.cart, cartId') = some ((computeCartTotals round
          ((listCartItemsByCartId (e.seen.apply lines) cartId').map Prod.snd)).apply cart) := by
        rw [Event.result, hws, Db.apply_append]
        exact Db.get_put_self _ (⟨.cart, cartId', _⟩ : Write Row)
      obtain rfl := Option.some.inj (hget.symm.trans hcart')
      refine ⟨?_, ?_⟩
      · rw [← (hperm.map fun line => line.2.quantity).sum_eq]
        simp [Summary.apply, computeCartTotals, Function.comp_def]
      · rw [← (hperm.map fun line => line.2.lineTotal).sum_eq, ← hsums.addUp_eq]
        simp [Summary.apply, computeCartTotals, Function.comp_def]
    · obtain ⟨hkept, hsame⟩ := other_carts hin hin' hlines hws hid
      have htotals := h.totals cartId' cart' (hkept.symm.trans hcart')
      rwa [(hsame.perm.map fun line => line.2.quantity).sum_eq,
        (hsame.perm.map fun line => line.2.lineTotal).sum_eq] at htotals
  · rcases Db.get_apply_cases e.writes .cartItem i e.db with hget | ⟨r, hr, hget⟩
    · exact h.lines i item (hget.symm.trans hitem)
    · obtain rfl : r = some item := hget.symm.trans hitem
      cases hlines _ (mem_of_cartItem hws hr) with
      | line hcart htotal =>
        rw [htotal, computeLineTotal, hcurrent.lines i item hr, mul_comm]

end Commit

variable [Fintype ι] [DecidableEq ι]

/-- However the operations interleave, the totals of all carts are right, as long as each commit
finds the lines that its totals were computed from and nothing is rounded. `cartOf` says which
cart a line is in, as ids are never made up twice. -/
theorem cart_totals_right {db₀ : Store} {calls : ι → CartCall} (hstart : CartsRight db₀)
    (hin : LinesIn cartOf db₀) {m : Machine ι Row Failure CartAggregate} {log : List (Event ι Row)}
    (hrun : Machine.Traced (.start db₀ fun i => (calls i).service round) log m)
    (hids : ∀ e ∈ log, LinesIn cartOf e.result)
    (hcurrent : ∀ e ∈ log, CartUpToDate round e) : CartsRight m.db := by
  obtain ⟨reads, htrace⟩ := hrun
  have hok : ∀ e ∈ log, LinesIn cartOf e.result ∧ CartUpToDate round e :=
    fun e he => ⟨hids e he, hcurrent e he⟩
  refine (htrace.sound (R := .rows (LinesIn cartOf)) (J := fun _ => CartsRight)
    (Q := fun _ _ seen ws _ => CartCommit round cartOf seen ws) ?_ hin
    (fun i => (calls i).guarantees) hstart hok).2
  rintro log e hin hright ⟨hin', hcurrent⟩ hcommit
  exact .rows hin' (hright.commit hin hin' hcommit hcurrent)

/-- The sample shop, with a customer who has an empty cart. -/
def cartShop : Store := orderShop.apply [⟨.cart, 1, some ⟨1, 1, .active, 0, 0, 0⟩⟩]

/-- The customer adds a cup of tea, and two cups. -/
def addTwice : Fin 2 → CartCall :=
  ![.add ⟨2, 1, [], 0⟩ teaCustomer 1 1 1 [], .add ⟨3, 2, [], 0⟩ teaCustomer 1 1 2 []]

theorem cartsRight_cartShop : CartsRight cartShop := by
  have hcarts : ∀ cart ∈ cartShop.list .cart fun _ => true,
      cart.2.totalQuantity = ((listCartItemsByCartId cartShop cart.1).map (·.2.quantity)).sum ∧
        cart.2.subtotalAmount =
          ((listCartItemsByCartId cartShop cart.1).map (·.2.lineTotal)).sum := by decide
  have hlines : cartShop.list .cartItem (fun _ => true) = [] := by decide
  refine ⟨fun cartId cart hcart => hcarts _ (Db.mem_list.mpr ⟨hcart, rfl⟩), fun i item hitem => ?_⟩
  have hmem := (Db.mem_list (p := fun _ => true)).mpr ⟨hitem, rfl⟩
  rw [hlines] at hmem
  cases hmem

/-- When neither sees the line of the other, the cart is for two cups and has lines for three. -/
theorem line_not_counted : CartsRight cartShop ∧ ∃ log m,
    Machine.Traced (.start cartShop fun i => (addTwice i).service id) log m ∧
      (∀ i, (m.threads i).done = true) ∧ ¬ CartsRight m.db := by
  have hexec : ((Machine.start cartShop fun i => (addTwice i).service id).exec (List.map .run
      (List.replicate 8 0 ++ List.replicate 8 1 ++ List.replicate 3 0 ++ List.replicate 3 1))).any
        (fun m => (m.db.get (.cart, 1)).any (fun cart => cart.totalQuantity == 2) &&
          ((listCartItemsByCartId m.db 1).map (·.2.quantity) == [1, 2]) &&
            decide (∀ i, (m.threads i).done = true)) = true := by decide
  obtain ⟨m, hm, hend⟩ := (Option.any_eq_true _ _).mp hexec
  simp only [Bool.and_eq_true, Option.any_eq_true, beq_iff_eq, decide_eq_true_eq] at hend
  obtain ⟨⟨⟨cart, hcart, htwo⟩, hlines⟩, hdone⟩ := hend
  refine ⟨cartsRight_cartShop, _, m, Machine.Traced.exec hm, hdone, fun hright => ?_⟩
  have htotal := (hright.totals 1 cart hcart).1
  rw [htwo, hlines] at htotal
  exact absurd htotal (by decide)

/-- The carts have the same lines when the table is the same. -/
theorem sameLines_of_list {a b : Store} (h : (a.list .cartItem fun _ => true) =
    b.list .cartItem fun _ => true) (cartId : Id) : SameLines cartId a b := by
  intro i item _
  have hmem : ∀ db : Store, db.get (.cartItem, i) = some item ↔
      (i, item) ∈ db.list .cartItem fun _ => true := fun db => by
    rw [Db.mem_list, and_iff_left rfl]
  rw [hmem a, hmem b, h]

/-- When the second begins after the first, the cart is for three cups. -/
theorem cart_totals_right_cartShop : ∃ log m,
    Machine.Traced (.start cartShop fun i => (addTwice i).service id) log m ∧ CartsRight m.db ∧
      ((m.db.get (.cart, 1)).map fun cart => (cart.totalQuantity, cart.subtotalAmount)) =
        some (3, 4500) := by
  have hexec : ((Machine.start cartShop fun i => (addTwice i).service id).exec (List.map .run
      (List.replicate 11 0 ++ List.replicate 11 1))).any (fun m =>
        ((m.db.get (.cart, 1)).map fun cart => (cart.totalQuantity, cart.subtotalAmount)) ==
          some (3, 4500)) = true := by decide +kernel
  have hlog : ∀ e ∈ (Machine.start cartShop fun i => (addTwice i).service id).execEvents
      (List.map .run (List.replicate 11 0 ++ List.replicate 11 1)) fun _ => [],
        (e.seen.list .cartItem fun _ => true) = (e.db.list .cartItem fun _ => true) ∧
          ∀ line ∈ e.result.list .cartItem fun _ => true, line.2.cartId = 1 := by decide +kernel
  have hstart : ∀ line ∈ cartShop.list .cartItem fun _ => true, line.2.cartId = 1 := by decide
  obtain ⟨m, hm, htotals⟩ := (Option.any_eq_true _ _).mp hexec
  have hrun := Machine.Traced.exec hm
  have hin : LinesIn (fun _ => 1) cartShop := fun i item hitem =>
    hstart _ (Db.mem_list.mpr ⟨hitem, rfl⟩)
  refine ⟨_, m, hrun, cart_totals_right cartsRight_cartShop hin hrun (fun e he i item hitem => ?_)
    (fun e he => ⟨fun cartId _ => sameLines_of_list (hlog e he).1 cartId, fun _ _ _ => rfl,
      fun _ _ _ => rfl⟩), eq_of_beq htotals⟩
  exact (hlog e he).2 _ (Db.mem_list.mpr ⟨hitem, rfl⟩)

end Runs

end WerTe
