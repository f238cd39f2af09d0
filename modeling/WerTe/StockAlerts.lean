import WerTe.Reported.Descents
import WerTe.StockTotals

/-!
# The stock alerts of an order

`reserveTrackedInventoryForOrder` compares the stock of an item or an option before and after each
line that takes from it, and keeps the last alert of each. That alert is about the stock that the
line leaves. If the lines after it take more, without reaching the next level, it is out of date.

* `Reports`: what a run takes from each resource, in turn, and the alerts that it leaves
* `reserveLines_reports`: a reservation takes what its lines draw on
* `alerts_net_iff`: the alerts tell what the order has done exactly when each stock that the order
  makes low is still above its threshold before the last line that takes from it
-/

namespace WerTe

open ReadCommitted MenusRepository Reported

/-! ## Alerts -/

/-- What an alert says of an item or an option. -/
structure AlertedResource where
  merchantUserId : Id
  branchId : Id
  resourceType : InventoryResourceType
  resourceId : Id
  resourceLabel : String
  menuItemName : Option String
  stock : TrackedStock
deriving DecidableEq

def MenusRepository.MenuItemOwnershipRecord.alerted (record : MenuItemOwnershipRecord) :
    AlertedResource where
  merchantUserId := record.merchantUserId
  branchId := record.branchId
  resourceType := .menuItem
  resourceId := record.id
  resourceLabel := record.item.name
  menuItemName := none
  stock := record.item.stock

def MenusRepository.ItemOptionOwnershipRecord.alerted (record : ItemOptionOwnershipRecord) :
    AlertedResource where
  merchantUserId := record.menuItem.merchantUserId
  branchId := record.menuItem.branchId
  resourceType := .itemOption
  resourceId := record.id
  resourceLabel := record.option.name
  menuItemName := some record.menuItem.item.name
  stock := record.option.stock

/-- The item or the option under a key. -/
def alertedAt (db : Store) : Key Tbl → Option AlertedResource
  | (.menuItem, id) => (findItemById db id).map (·.alerted)
  | (.itemOption, id) => (findOptionById db id).map (·.alerted)
  | _ => none

/-- The alert about a resource. -/
def AlertedResource.alert (resource : AlertedResource) (attentionLevel : InventoryAttentionLevel) :
    MenuInventoryAlertEvent where
  merchantUserId := resource.merchantUserId
  branchId := resource.branchId
  resourceType := resource.resourceType
  resourceId := resource.resourceId
  resourceLabel := resource.resourceLabel
  attentionLevel := attentionLevel
  stockQuantity := resource.stock.stockQuantity
  lowStockThreshold := resource.stock.lowStockThreshold
  menuItemName := resource.menuItemName

/-- The alert that a change of a resource asks for, if its level is worse than before. -/
def alertBetween (previous next : Option AlertedResource) : Option MenuInventoryAlertEvent :=
  previous.bind fun previous => next.bind fun next =>
    (resolveAttentionLevel next.stock).bind fun attentionLevel =>
      if shouldEmitAlert (resolveAttentionLevel previous.stock) attentionLevel then
        some (next.alert attentionLevel) else none

theorem buildItemAlertEvent_eq (previous next : Option MenuItemOwnershipRecord) :
    buildItemAlertEvent previous next =
      alertBetween (previous.map (·.alerted)) (next.map (·.alerted)) := by
  cases previous with
  | none => rfl
  | some previous =>
    cases next with
    | none => rfl
    | some next =>
      simp only [buildItemAlertEvent, alertBetween, Option.map_some, Option.bind_some,
        MenuItemOwnershipRecord.alerted]
      cases resolveAttentionLevel next.item.stock <;> rfl

theorem buildOptionAlertEvent_eq (previous next : Option ItemOptionOwnershipRecord) :
    buildOptionAlertEvent previous next =
      alertBetween (previous.map (·.alerted)) (next.map (·.alerted)) := by
  cases previous with
  | none => rfl
  | some previous =>
    cases next with
    | none => rfl
    | some next =>
      simp only [buildOptionAlertEvent, alertBetween, Option.map_some, Option.bind_some,
        ItemOptionOwnershipRecord.alerted]
      cases resolveAttentionLevel next.option.stock <;> rfl

/-- The resource that an alert is about. -/
def MenuInventoryAlertEvent.key (alert : MenuInventoryAlertEvent) : Key Tbl :=
  (if alert.resourceType = .menuItem then .menuItem else .itemOption, alert.resourceId)

/-- The alerts about a resource. -/
def alertsOf (k : Key Tbl) (alerts : List MenuInventoryAlertEvent) : List MenuInventoryAlertEvent :=
  alerts.filter fun alert => alert.key = k

theorem key_eq_iff {a b : MenuInventoryAlertEvent} : a.key = b.key ↔
    (a.resourceType == b.resourceType && a.resourceId == b.resourceId) = true := by
  rw [Bool.and_eq_true, beq_iff_eq, beq_iff_eq, MenuInventoryAlertEvent.key,
    MenuInventoryAlertEvent.key, Prod.mk.injEq]
  refine and_congr_left fun _ => ?_
  cases a.resourceType <;> cases b.resourceType <;> decide

/-- An alert takes the place of the one about the same resource, if there is one. -/
theorem alertsOf_setAlert {k : Key Tbl} {alerts : List MenuInventoryAlertEvent}
    {o : Option MenuInventoryAlertEvent} (h : alertsOf k alerts = o.toList)
    (new : Option MenuInventoryAlertEvent) : alertsOf k (setAlert alerts new) =
      ((new.filter fun alert => alert.key = k).or o).toList := by
  cases new with
  | none => exact h
  | some alert =>
    have hsame : ∀ a : MenuInventoryAlertEvent, (a.resourceType == alert.resourceType &&
        a.resourceId == alert.resourceId) = decide (a.key = alert.key) := by
      intro a
      rw [Bool.eq_iff_iff, ← key_eq_iff, decide_eq_true_iff]
    have hmem : ∀ b ∈ o, b ∈ alerts ∧ b.key = k := by
      intro b hb
      have hfilter : b ∈ alertsOf k alerts := h ▸ Option.mem_toList.mpr hb
      simpa [alertsOf] using hfilter
    simp only [setAlert, hsame, decide_eq_true_eq, Option.filter_some]
    by_cases hany : alerts.any fun a => decide (a.key = alert.key)
    · have hkey : (fun a : MenuInventoryAlertEvent => decide (a.key = k)) ∘
          (fun a => if a.key = alert.key then alert else a) = fun a => decide (a.key = k) := by
        funext a
        by_cases ha : a.key = alert.key
        · simp [ha]
        · simp [ha]
      rw [if_pos hany, alertsOf, List.filter_map, hkey, ← alertsOf, h]
      cases o with
      | none =>
        obtain ⟨a, ha, hak⟩ := List.any_eq_true.mp hany
        have hne : alert.key ≠ k := by
          intro heq
          have hfilter : a ∈ alertsOf k alerts :=
            List.mem_filter.mpr ⟨ha, decide_eq_true ((of_decide_eq_true hak).trans heq)⟩
          rw [h] at hfilter
          cases hfilter
        simp [hne]
      | some b =>
        have hb := (hmem b rfl).2
        by_cases heq : alert.key = k
        · simp [heq, hb]
        · simp [heq, hb, Ne.symm heq]
    · rw [if_neg hany, alertsOf, List.filter_append, ← alertsOf, h]
      cases o with
      | none => by_cases heq : alert.key = k <;> simp [heq]
      | some b =>
        obtain ⟨hb, hbk⟩ := hmem b rfl
        have hne : alert.key ≠ k := fun heq =>
          hany (List.any_eq_true.mpr ⟨b, hb, decide_eq_true (hbk.trans heq.symm)⟩)
        simp [hne]

/-! ## What a run takes, and reports -/

/-- The resource with so much less in stock. -/
def AlertedResource.less (resource : AlertedResource) (quantity : ℤ) : AlertedResource :=
  { resource with
    stock.stockQuantity := resource.stock.stockQuantity.map (· - quantity) }

@[simp] theorem AlertedResource.less_zero (resource : AlertedResource) :
    resource.less 0 = resource := by
  simp [AlertedResource.less]

@[simp] theorem AlertedResource.less_less (resource : AlertedResource) (a b : ℤ) :
    (resource.less a).less b = resource.less (a + b) := by
  simp [AlertedResource.less, Function.comp_def, sub_sub]

/-- The last alert about a resource that quantities are taken from, one after the other. -/
def lastAlert : Option AlertedResource → List ℤ → Option MenuInventoryAlertEvent
  | _, [] => none
  | resource, quantity :: quantities =>
    (lastAlert (resource.map (·.less quantity)) quantities).or
      (alertBetween resource (resource.map (·.less quantity)))

theorem lastAlert_append (resource : Option AlertedResource) (quantities quantities' : List ℤ) :
    lastAlert resource (quantities ++ quantities') =
      (lastAlert (resource.map (·.less quantities.sum)) quantities').or
        (lastAlert resource quantities) := by
  induction quantities generalizing resource with
  | nil => cases resource <;> simp [lastAlert]
  | cons quantity quantities ih =>
    rw [List.cons_append, lastAlert, ih, lastAlert, Option.or_assoc, List.sum_cons, Option.map_map]
    simp only [Function.comp_def, AlertedResource.less_less]

/-- What a run takes from each resource, in turn, and the alerts that it leaves. -/
structure Reports (db db' : Store) (alerts alerts' : List MenuInventoryAlertEvent)
    (taken : Key Tbl → List ℤ) : Prop where
  /-- the resources have as much less -/
  less : ∀ k, alertedAt db' k = (alertedAt db k).map (·.less (taken k).sum)
  /-- what is taken was there -/
  enough : ∀ k resource, alertedAt db k = some resource → taken k ≠ [] →
    resource.stock.isStockTracked = true ∧ ∃ level, resource.stock.stockQuantity = some level ∧
      (taken k).sum ≤ level
  /-- the last alert of each is kept -/
  alerts : ∀ k o, alertsOf k alerts = o.toList →
    alertsOf k alerts' = ((lastAlert (alertedAt db k) (taken k)).or o).toList

theorem Reports.refl (db : Store) (alerts : List MenuInventoryAlertEvent) :
    Reports db db alerts alerts fun _ => [] := by
  refine ⟨fun k => ?_, fun k resource _ h => absurd rfl h, fun k o h => h⟩
  cases alertedAt db k <;> simp

theorem Reports.trans {db db₁ db₂ : Store} {alerts alerts₁ alerts₂ : List MenuInventoryAlertEvent}
    {taken taken' : Key Tbl → List ℤ} (h : Reports db db₁ alerts alerts₁ taken)
    (h' : Reports db₁ db₂ alerts₁ alerts₂ taken') :
    Reports db db₂ alerts alerts₂ fun k => taken k ++ taken' k := by
  refine ⟨fun k => ?_, fun k resource hresource hne => ?_, fun k o ho => ?_⟩
  · rw [h'.less, h.less, Option.map_map, List.sum_append]
    simp only [Function.comp_def, AlertedResource.less_less]
  · have hless : alertedAt db₁ k = some (resource.less (taken k).sum) := by
      rw [h.less, hresource, Option.map_some]
    by_cases hnil : taken' k = []
    · rw [hnil, List.append_nil] at hne ⊢
      exact h.enough k resource hresource hne
    · obtain ⟨htracked, level, hlevel, hle⟩ := h'.enough k _ hless hnil
      obtain ⟨start, hstart, rfl⟩ := Option.map_eq_some_iff.mp hlevel
      refine ⟨htracked, start, hstart, ?_⟩
      rw [List.sum_append]
      omega
  · rw [h'.alerts k _ (h.alerts k o ho), h.less, lastAlert_append, Option.or_assoc]

/-! ## The rows that a run leaves -/

section Taken

variable {db : Store} {ws : List (Write Row)} {d : Amounts}

/-- A row without a stock is as it was. -/
theorem get_taken_of_stockless (h : Accumulates take d ws db) {k : Key Tbl}
    (hk : ∀ q r, take q k r = r) : (db.apply ws).get k = db.get k := by
  have hamend : amend take (d k) k = id := by
    funext r
    cases d k with
    | zero => rfl
    | coe q => exact hk q r
  rw [h.rows k, hamend, Option.map_id, id]

/-- The merchant of a branch, with its user. -/
def branchOwner (db : Store) (branchId : Id) : Option (Id × Id) :=
  (db.get (.branch, branchId)).bind fun branch =>
    (db.get (.merchant, branch.merchantId)).map fun merchant => (branch.merchantId, merchant.userId)

theorem findItemById_eq (db : Store) (id : Id) : findItemById db id =
    (db.get (.menuItem, id)).bind fun item => (branchOwner db item.branchId).map fun owner =>
      ⟨id, item, item.branchId, owner.1, owner.2⟩ := by
  simp only [findItemById, branchOwner, Option.bind_eq_bind, Option.map_eq_bind,
    Function.comp_def, Option.bind_assoc, Option.bind_some]
  rfl

theorem findOptionById_eq (db : Store) (id : Id) : findOptionById db id =
    (db.get (.itemOption, id)).bind fun option =>
      (findOptionGroupById db option.groupId).map fun group =>
        ⟨id, option, group.group, group.menuItem⟩ := by
  simp only [findOptionById, findOptionGroupById, Option.bind_eq_bind, Option.map_eq_bind,
    Function.comp_def, Option.bind_assoc]
  rfl

theorem branchOwner_taken (h : Accumulates take d ws db) :
    branchOwner (db.apply ws) = branchOwner db := by
  funext branchId
  rw [branchOwner, get_taken_of_stockless h fun _ _ => rfl, branchOwner]
  refine congrArg _ (funext fun branch => ?_)
  rw [get_taken_of_stockless h fun _ _ => rfl]

theorem findItemById_taken (h : Accumulates take d ws db) (id : Id) :
    findItemById (db.apply ws) id = (findItemById db id).map fun record =>
      { record with item := amend take (d (.menuItem, id)) (.menuItem, id) record.item } := by
  rw [findItemById_eq, findItemById_eq, h.rows, branchOwner_taken h]
  cases db.get (.menuItem, id) with
  | none => rfl
  | some item =>
    have hbranch : MenuItem.branchId (amend take (d (.menuItem, id)) (.menuItem, id) item) =
        item.branchId := by cases d (.menuItem, id) <;> rfl
    simp only [Option.map_some, Option.bind_some, hbranch, Option.map_map]
    rfl

theorem findOptionGroupById_taken (h : Accumulates take d ws db) (id : Id) :
    findOptionGroupById (db.apply ws) id = (findOptionGroupById db id).map fun record =>
      { record with
        menuItem.item := amend take (d (.menuItem, record.group.menuItemId))
          (.menuItem, record.group.menuItemId) record.menuItem.item } := by
  simp only [findOptionGroupById, Option.bind_eq_bind]
  rw [get_taken_of_stockless h fun _ _ => rfl]
  cases db.get (.itemOptionGroup, id) with
  | none => rfl
  | some group =>
    simp only [Option.bind_some, findItemById_taken h]
    cases findItemById db group.menuItemId <;> rfl

theorem less_of_item (record : MenuItemOwnershipRecord) (a : WithZero ℤ) :
    MenuItemOwnershipRecord.alerted
      { record with item := amend take a (.menuItem, record.id) record.item } =
        record.alerted.less (quantity a) := by
  cases a with
  | zero => simp [MenuItemOwnershipRecord.alerted]
  | coe q => rfl

/-- The alert about an option only tells the name of its item. -/
theorem less_of_option (record : ItemOptionOwnershipRecord) (menuItemId : Id) (a a' : WithZero ℤ) :
    ItemOptionOwnershipRecord.alerted
      { record with
        option := amend take a (.itemOption, record.id) record.option
        menuItem.item := amend take a' (.menuItem, menuItemId) record.menuItem.item } =
      record.alerted.less (quantity a) := by
  have hname : MenuItem.name (amend take a' (.menuItem, menuItemId) record.menuItem.item) =
      record.menuItem.item.name := by cases a' <;> rfl
  cases a with
  | zero => simp [ItemOptionOwnershipRecord.alerted, hname]
  | coe q =>
    simp only [ItemOptionOwnershipRecord.alerted, hname]
    rfl

theorem id_of_findItemById {id : Id} {record : MenuItemOwnershipRecord}
    (h : findItemById db id = some record) : record.id = id := by
  rw [findItemById_eq, Option.bind_eq_some_iff] at h
  obtain ⟨item, -, h⟩ := h
  obtain ⟨owner, -, rfl⟩ := Option.map_eq_some_iff.mp h
  rfl

/-- The items and options have as much less in stock as has been taken. -/
theorem alertedAt_taken (h : Accumulates take d ws db) (k : Key Tbl) :
    alertedAt (db.apply ws) k = (alertedAt db k).map (·.less (amountAt k d)) := by
  obtain ⟨t, id⟩ := k
  cases t
  case menuItem =>
    simp only [alertedAt, findItemById_taken h, Option.map_map]
    refine Option.map_congr fun record hrecord => ?_
    obtain rfl := id_of_findItemById hrecord
    exact less_of_item record _
  case itemOption =>
    simp only [alertedAt, findOptionById_eq, h.rows (.itemOption, id)]
    cases db.get (.itemOption, id) with
    | none => rfl
    | some option =>
      have hgroup : ItemOption.groupId (amend take (d (.itemOption, id)) (.itemOption, id) option) =
          option.groupId := by cases d (.itemOption, id) <;> rfl
      simp only [Option.map_some, Option.bind_some, hgroup, findOptionGroupById_taken h,
        Option.map_map]
      refine Option.map_congr fun group _ => ?_
      exact less_of_option ⟨id, option, group.group, group.menuItem⟩ group.group.menuItemId _ _
  all_goals rfl

end Taken

/-! ## What a reservation takes, and reports -/

theorem key_of_alertBetween {db : Store} {k : Key Tbl} {previous : Option AlertedResource}
    {alert : MenuInventoryAlertEvent} (h : alertBetween previous (alertedAt db k) = some alert) :
    alert.key = k := by
  simp only [alertBetween, Option.bind_eq_some_iff] at h
  obtain ⟨previous, rfl, next, hnext, attentionLevel, -, h⟩ := h
  split_ifs at h
  cases h
  obtain ⟨t, id⟩ := k
  cases t
  case menuItem =>
    obtain ⟨record, hrecord, rfl⟩ := Option.map_eq_some_iff.mp hnext
    exact congrArg _ (id_of_findItemById hrecord)
  case itemOption =>
    obtain ⟨record, hrecord, rfl⟩ := Option.map_eq_some_iff.mp hnext
    rw [findOptionById_eq, Option.bind_eq_some_iff] at hrecord
    obtain ⟨option, -, h⟩ := hrecord
    obtain ⟨group, -, rfl⟩ := Option.map_eq_some_iff.mp h
    rfl
  all_goals cases hnext

theorem filter_key {k k' : Key Tbl} {new : Option MenuInventoryAlertEvent}
    (hkey : ∀ alert ∈ new, alert.key = k) :
    (new.filter fun alert => alert.key = k') = if k' = k then new else none := by
  cases new with
  | none => simp
  | some alert => simp [Option.filter_some, hkey alert rfl, eq_comm (a := k)]

theorem stock_of_alertedAt {db : Store} {t : StockTable} {id : Id} {resource : AlertedResource}
    {r : Row t.tbl} (h : alertedAt db (t.tbl, id) = some resource)
    (hget : db.get (t.tbl, id) = some r) : resource.stock = t.stock r := by
  cases t with
  | menuItem =>
    obtain ⟨record, hrecord, rfl⟩ := Option.map_eq_some_iff.mp h
    rw [findItemById_eq, hget, Option.bind_some] at hrecord
    obtain ⟨owner, -, rfl⟩ := Option.map_eq_some_iff.mp hrecord
    rfl
  | itemOption =>
    obtain ⟨record, hrecord, rfl⟩ := Option.map_eq_some_iff.mp h
    rw [findOptionById_eq, hget, Option.bind_some] at hrecord
    obtain ⟨group, -, rfl⟩ := Option.map_eq_some_iff.mp hrecord
    rfl
  | itemVariantCombination => cases h

section Runs

variable {db db' : Store} {alerts : List MenuInventoryAlertEvent}

/-- One resource is taken from, once, and its alert is set. -/
theorem decrementTrackedStock_reports (alerts : List MenuInventoryAlertEvent) {t : StockTable}
    {id : Id} {q : ℤ} (h : (decrementTrackedStock t id q).run db = .ok (true, db')) :
    Reports db db' alerts (setAlert alerts
        (alertBetween (alertedAt db (t.tbl, id)) (alertedAt db' (t.tbl, id))))
      fun k => List.replicate ([((t.tbl, id) : Key Tbl)].count k) q := by
  rcases Tx.run_updateRow h with ⟨r, -, hget, hguard, rfl⟩ | ⟨hfalse, -⟩
  · have htaken : Accumulates take (Pi.single (t.tbl, id) (q : WithZero ℤ))
        [⟨t.tbl, id, some (take q (t.tbl, id) r)⟩] db := by
      have hsnoc := (Accumulates.nil db).snoc take_take hget q
      rwa [zero_add] at hsnoc
    have hrow : t.setStock r { t.stock r with
        stockQuantity := (t.stock r).stockQuantity.map (· - q) } = take q (t.tbl, id) r := by
      cases t <;> rfl
    rw [hrow]
    have hless := alertedAt_taken htaken
    rw [Db.apply_cons, Db.apply_nil] at hless
    refine ⟨fun k => ?_, fun k resource hresource hne => ?_, fun k o ho => ?_⟩
    · rw [hless, amountAt_single]
      by_cases hk : k = (t.tbl, id)
      · simp [hk]
      · simp [hk, Ne.symm hk]
    · by_cases hk : k = (t.tbl, id)
      · subst hk
        obtain ⟨htracked, hlevel⟩ := Bool.and_eq_true_iff.mp hguard
        obtain ⟨level, hlevel, hle⟩ := (Option.any_eq_true _ _).mp hlevel
        rw [stock_of_alertedAt hresource hget]
        exact ⟨htracked, level, hlevel, by simpa using hle⟩
      · simp [Ne.symm hk] at hne
    · rw [alertsOf_setAlert ho, filter_key fun alert halert => key_of_alertBetween halert, hless,
        amountAt_single, if_pos rfl]
      by_cases hk : k = (t.tbl, id)
      · subst hk
        simp [lastAlert]
      · simp [hk, Ne.symm hk, lastAlert]
  · cases hfalse

/-- What is taken from lots is not reported. -/
theorem reserveLots_reports {menuItemId : Id} {q : ℤ} {lotCount : ℕ}
    {allocations : List MenuInventoryLotAllocation}
    (h : (if 0 < lotCount then reserveTrackedInventoryLots menuItemId q
      else pure [] : StoreTx (List MenuInventoryLotAllocation)).run db = .ok (allocations, db')) :
    Reports db db' alerts alerts fun _ => [] := by
  split_ifs at h
  · have hlots : ∀ db', db' = db → LotsOf (lotItemOf db) db' := fun _ heq i => by rw [heq]
    have hfresh : ∀ seen ws db₀, db₀ = db → (Tx.Assertion.fresh : Tx.Assertion (· = db)).holds
        seen ws db₀ → (taken 0 : Tx.Assertion (· = db)).holds seen ws db₀ := by
      intro seen ws db₀ _ hfresh
      cases hfresh
      exact .nil db₀
    obtain ⟨_, ws, rfl, -, htaken⟩ := ((reserveTrackedInventoryLots_taken hlots menuItemId q).conseq
      hfresh fun _ _ _ _ _ hpost => hpost).run rfl h
    rw [zero_add] at htaken
    refine ⟨fun k => ?_, fun k resource _ hne => absurd rfl hne, fun k o ho => ho⟩
    rw [alertedAt_taken htaken]
    by_cases hk : k.1 = .menuItemInventoryLot
    · obtain ⟨t, id⟩ := k
      cases hk
      rfl
    · rw [amountAt_lotDemand hk]
      rfl
  · cases h
    exact .refl db alerts

theorem reserveItem_reports {line : MenuInventoryOrderLineInput}
    {result result' : MenuInventoryReservationResult}
    (h : (reserveItem line result).run db = .ok (result', db')) :
    Reports db db' result.alerts result'.alerts fun k => List.replicate
      ((if line.menuItemStockTrackedSnapshot then [((.menuItem, line.menuItemId) : Key Tbl)]
        else []).count k) line.quantity := by
  unfold reserveItem at h
  split_ifs at h ⊢ with htracked
  · replace h := Tx.run_read_bind_ok h
    replace h := Tx.run_read_bind_ok h
    obtain ⟨allocations, db₁, hlots, h⟩ := Tx.run_bind_ok h
    obtain ⟨wasReserved, db₂, hdecrement, h⟩ := Tx.run_bind_ok h
    obtain ⟨rfl, hrest⟩ := Tx.run_require_bind_ok h
    replace hrest := Tx.run_read_bind_ok hrest
    cases hrest
    have hlots : Reports db db₁ result.alerts result.alerts fun _ => [] :=
      reserveLots_reports hlots
    have hsame : alertedAt db₁ (.menuItem, line.menuItemId) =
        alertedAt db (.menuItem, line.menuItemId) := by
      rw [hlots.less, List.sum_nil]
      cases alertedAt db (.menuItem, line.menuItemId) <;> simp
    have hitem := hlots.trans (decrementTrackedStock_reports result.alerts hdecrement)
    rw [hsame] at hitem
    rw [MenuInventoryReservationResult.setAlert, buildItemAlertEvent_eq]
    exact hitem
  · cases h
    exact .refl db result.alerts

theorem reserveVariant_reports {line : MenuInventoryOrderLineInput} {u : Unit}
    (h : (reserveVariant line).run db = .ok (u, db')) :
    Reports db db' alerts alerts fun k => List.replicate
      ((line.reservedVariant.toList.map fun id => ((.itemVariantCombination, id) : Key Tbl)).count
        k) line.quantity := by
  unfold reserveVariant at h
  cases hvariant : line.reservedVariant with
  | none =>
    rw [hvariant] at h
    cases h
    exact .refl db alerts
  | some combinationId =>
    rw [hvariant] at h
    obtain ⟨wasReserved, db₁, hdecrement, h⟩ := Tx.run_bind_ok h
    obtain ⟨rfl, rfl⟩ := Tx.run_require_ok h
    exact decrementTrackedStock_reports alerts hdecrement

theorem reserveOptions_reports {q : ℤ} {optionIds : List Id} :
    ∀ {db : Store} {result result' : MenuInventoryReservationResult},
      (reserveOptions q optionIds result).run db = .ok (result', db') →
        Reports db db' result.alerts result'.alerts fun k => List.replicate
          ((optionIds.map fun id => ((.itemOption, id) : Key Tbl)).count k) q := by
  induction optionIds with
  | nil =>
    intro db result result' h
    cases h
    exact .refl _ _
  | cons optionId optionIds ih =>
    intro db result result' h
    replace h := Tx.run_read_bind_ok h
    obtain ⟨wasReserved, db₁, hdecrement, h⟩ := Tx.run_bind_ok h
    obtain ⟨rfl, hrequired⟩ := Tx.run_require_bind_ok h
    have hfirst := decrementTrackedStock_reports result.alerts hdecrement
    replace hrequired := Tx.run_read_bind_ok hrequired
    have hrest := ih hrequired
    rw [MenuInventoryReservationResult.setAlert, buildOptionAlertEvent_eq] at hrest
    have hboth := hfirst.trans hrest
    simp only [← List.replicate_add, ← List.count_append, List.singleton_append] at hboth
    exact hboth

/-- The quantities that lines take from a resource, one after the other. -/
def takenFrom (lines : List MenuInventoryOrderLineInput) (k : Key Tbl) : List ℤ :=
  lines.flatMap fun line => List.replicate (line.drawsOn.count k) line.quantity

/-- A reservation takes what its lines draw on, line by line. -/
theorem reserveLines_reports {lines : List MenuInventoryOrderLineInput} :
    ∀ {db : Store} {result result' : MenuInventoryReservationResult},
      (reserveLines lines result).run db = .ok (result', db') →
        Reports db db' result.alerts result'.alerts (takenFrom lines) := by
  induction lines with
  | nil =>
    intro db result result' h
    cases h
    exact .refl _ _
  | cons line lines ih =>
    intro db result result' h
    obtain ⟨result₁, db₁, hitem, h⟩ := Tx.run_bind_ok h
    obtain ⟨u, db₂, hvariant, h⟩ := Tx.run_bind_ok h
    obtain ⟨result₃, db₃, hoptions, h⟩ := Tx.run_bind_ok h
    have hline := ((reserveItem_reports hitem).trans (reserveVariant_reports hvariant)).trans
      (reserveOptions_reports hoptions)
    simp only [← List.replicate_add, ← List.count_append] at hline
    exact hline.trans (ih h)

end Runs

/-! ## When the alerts tell the net effect -/

/-- How bad the level of a stock is. -/
def TrackedStock.severity (stock : TrackedStock) : ℕ :=
  match resolveAttentionLevel stock with
  | none => 0
  | some .lowStock => 1
  | some .outOfStock => 2

/-- The severity of a tracked stock with so much left. -/
def severityAt (lowStockThreshold : Option ℤ) (left : ℤ) : ℕ :=
  TrackedStock.severity ⟨true, some left, lowStockThreshold⟩

theorem severityAt_eq (lowStockThreshold : Option ℤ) (left : ℤ) :
    severityAt lowStockThreshold left = if left ≤ 0 then 2
      else if lowStockThreshold.any (left ≤ ·) then 1 else 0 := by
  cases lowStockThreshold with
  | none =>
    by_cases hout : left ≤ 0
    · simp [severityAt, TrackedStock.severity, resolveAttentionLevel, hout]
    · simp [severityAt, TrackedStock.severity, resolveAttentionLevel, hout]
  | some threshold =>
    by_cases hout : left ≤ 0
    · simp [severityAt, TrackedStock.severity, resolveAttentionLevel, hout]
    · by_cases hlow : left ≤ threshold
      · simp [severityAt, TrackedStock.severity, resolveAttentionLevel, hout, hlow]
      · simp [severityAt, TrackedStock.severity, resolveAttentionLevel, hout, hlow]

theorem severityAt_antitone (lowStockThreshold : Option ℤ) :
    Antitone (severityAt lowStockThreshold) := by
  intro left right hle
  rw [severityAt_eq, severityAt_eq]
  cases lowStockThreshold with
  | none =>
    simp only [Option.any_none, Bool.false_eq_true, if_false]
    split_ifs <;> omega
  | some threshold =>
    simp only [Option.any_some, decide_eq_true_eq]
    split_ifs <;> omega

theorem shouldEmitAlert_iff {previous next : TrackedStock}
    {attentionLevel : InventoryAttentionLevel}
    (h : resolveAttentionLevel next = some attentionLevel) :
    shouldEmitAlert (resolveAttentionLevel previous) attentionLevel = true ↔
      previous.severity < next.severity := by
  simp only [TrackedStock.severity, h]
  rcases resolveAttentionLevel previous with _ | _ | _ <;> cases attentionLevel <;> decide

/-- The alert about a resource with so much left, when there is one. -/
def AlertedResource.alertAt (resource : AlertedResource) (left : ℤ) : MenuInventoryAlertEvent :=
  { resource with stock.stockQuantity := some left : AlertedResource }.alert
    (if left ≤ 0 then .outOfStock else .lowStock)

theorem AlertedResource.alertAt_injective (resource : AlertedResource) :
    Function.Injective resource.alertAt := by
  intro left right h
  exact Option.some.inj (congrArg MenuInventoryAlertEvent.stockQuantity h)

section Alerts

variable {resource : AlertedResource} {level : ℤ} {quantities : List ℤ}

/-- A level that is worse than another is that of the stock. -/
theorem resolveAttentionLevel_of_severity {stock : TrackedStock} {severity : ℕ}
    (hlevel : stock.stockQuantity = some level) (h : severity < stock.severity) :
    resolveAttentionLevel stock = some (if level ≤ 0 then .outOfStock else .lowStock) := by
  rw [TrackedStock.severity] at h
  rw [resolveAttentionLevel] at h ⊢
  simp only [hlevel, Option.getD_some] at h ⊢
  split_ifs at h ⊢
  · exact absurd h (Nat.not_lt_zero _)
  · rfl
  · cases hthreshold : stock.lowStockThreshold with
    | none =>
      simp only [hthreshold] at h
      exact absurd h (Nat.not_lt_zero _)
    | some threshold =>
      simp only [hthreshold] at h ⊢
      split_ifs at h ⊢
      · rfl
      · exact absurd h (Nat.not_lt_zero _)

/-- One quantity is taken. -/
theorem alertBetween_less (htracked : resource.stock.isStockTracked = true)
    (hlevel : resource.stock.stockQuantity = some level) (q : ℤ) :
    alertBetween (some resource) (some (resource.less q)) =
      (report (severityAt resource.stock.lowStockThreshold) level q).map resource.alertAt := by
  have hstock : resource.stock = ⟨true, some level, resource.stock.lowStockThreshold⟩ := by
    rw [← htracked, ← hlevel]
  have hless : (resource.less q).stock =
      ⟨true, some (level - q), resource.stock.lowStockThreshold⟩ := by
    rw [← htracked]
    simp [AlertedResource.less, hlevel]
  have hseverity : (resource.less q).stock.severity =
      severityAt resource.stock.lowStockThreshold (level - q) := by rw [hless, severityAt]
  have hbefore : resource.stock.severity =
      severityAt resource.stock.lowStockThreshold level := by rw [severityAt, ← hstock]
  have hiff : resource.stock.severity < (resource.less q).stock.severity ↔
      severityAt resource.stock.lowStockThreshold level <
        severityAt resource.stock.lowStockThreshold (level - q) := by rw [hbefore, hseverity]
  rw [report, alertBetween, Option.bind_some, Option.bind_some]
  by_cases hworse : resource.stock.severity < (resource.less q).stock.severity
  · have hresolve := resolveAttentionLevel_of_severity (congrArg TrackedStock.stockQuantity hless)
      hworse
    rw [hresolve, Option.bind_some, if_pos ((shouldEmitAlert_iff hresolve).mpr hworse),
      if_pos (hiff.mp hworse), Option.map_some]
    simp only [AlertedResource.alertAt, AlertedResource.less, hlevel, Option.map_some]
  · rw [if_neg (hiff.not.mp hworse), Option.map_none, Option.bind_eq_none_iff]
    intro attentionLevel hresolve
    exact if_neg fun hemit => hworse ((shouldEmitAlert_iff hresolve).mp hemit)

/-- Several are taken. -/
theorem lastAlert_eq (htracked : resource.stock.isStockTracked = true)
    (hlevel : resource.stock.stockQuantity = some level) :
    lastAlert (some resource) quantities =
      (lastReport (severityAt resource.stock.lowStockThreshold) level quantities).map
        resource.alertAt := by
  induction quantities generalizing resource level with
  | nil => rfl
  | cons q quantities ih =>
    have hless : (resource.less q).stock.stockQuantity = some (level - q) := by
      simp [AlertedResource.less, hlevel]
    have hrest : lastAlert (some (resource.less q)) quantities = _ := ih htracked hless
    rw [lastAlert, lastReport, Option.map_some, alertBetween_less htracked hlevel, hrest,
      Option.map_or]
    rfl

/-- A stock that is above its threshold at first, and low but not out at last, is still above the
threshold before the last of the quantities is taken. -/
def LowAtLast (stock : TrackedStock) (quantities : List ℤ) : Prop :=
  ∀ level threshold, stock.stockQuantity = some level → stock.lowStockThreshold = some threshold →
    threshold < level → 0 < level - quantities.sum → level - quantities.sum ≤ threshold →
      ∀ last ∈ quantities.getLast?, threshold < level - quantities.sum + last

theorem lowAtLast_iff {stock : TrackedStock} (hlevel : stock.stockQuantity = some level)
    (hpos : ∀ q ∈ quantities, 0 < q) (henough : quantities.sum ≤ level) :
    LowAtLast stock quantities ↔ (severityAt stock.lowStockThreshold level <
      severityAt stock.lowStockThreshold (level - quantities.sum) → ∀ last ∈ quantities.getLast?,
        severityAt stock.lowStockThreshold (level - quantities.sum + last) <
          severityAt stock.lowStockThreshold (level - quantities.sum)) := by
  have hlast : ∀ last ∈ quantities.getLast?, 0 < last := fun last hmem =>
    hpos last (List.mem_of_getLast? hmem)
  constructor
  · intro h hworse last hmem
    have hstep := hlast last hmem
    cases hthreshold : stock.lowStockThreshold with
    | none =>
      simp only [hthreshold, severityAt_eq, Option.any_none, Bool.false_eq_true, if_false]
        at hworse ⊢
      split_ifs at hworse ⊢ <;> omega
    | some threshold =>
      have habove := h level threshold hlevel hthreshold
      simp only [hthreshold, severityAt_eq, Option.any_some, decide_eq_true_eq] at hworse ⊢
      by_cases hlow : threshold < level ∧ 0 < level - quantities.sum ∧
          level - quantities.sum ≤ threshold
      · have hstill := habove hlow.1 hlow.2.1 hlow.2.2 last hmem
        split_ifs at hworse ⊢ <;> omega
      · split_ifs at hworse ⊢ <;> omega
  · intro h level' threshold hlevel' hthreshold habove hleft hlow last hmem
    obtain rfl := Option.some.inj (hlevel.symm.trans hlevel')
    have hworse := h
    simp only [hthreshold, severityAt_eq, Option.any_some, decide_eq_true_eq] at hworse
    have hfirst := hworse (by split_ifs <;> omega) last hmem
    split_ifs at hfirst <;> omega

theorem alertBetween_self (resource : Option AlertedResource) :
    alertBetween resource resource = none := by
  simp only [alertBetween, Option.bind_eq_none_iff]
  rintro previous rfl next heq attentionLevel hresolve
  obtain rfl := Option.some.inj heq
  exact if_neg fun hemit => lt_irrefl _ ((shouldEmitAlert_iff hresolve).mp hemit)

/-- The last alert about a resource is the one that all that is taken asks for. -/
theorem lastAlert_eq_alertBetween_iff (hpos : ∀ q ∈ quantities, 0 < q)
    (henough : quantities ≠ [] → resource.stock.isStockTracked = true ∧
      ∃ level, resource.stock.stockQuantity = some level ∧ quantities.sum ≤ level) :
    lastAlert (some resource) quantities =
        alertBetween (some resource) (some (resource.less quantities.sum)) ↔
      LowAtLast resource.stock quantities := by
  by_cases hnil : quantities = []
  · subst hnil
    rw [List.sum_nil, AlertedResource.less_zero, alertBetween_self]
    exact iff_of_true rfl fun _ _ _ _ _ _ _ last hlast => by cases hlast
  · obtain ⟨htracked, level, hlevel, hsum⟩ := henough hnil
    rw [lastAlert_eq htracked hlevel, alertBetween_less htracked hlevel,
      (Option.map_injective resource.alertAt_injective).eq_iff,
      lastReport_eq_report_iff (severityAt_antitone _) hpos, lowAtLast_iff hlevel hpos hsum]

end Alerts

/-- The alerts tell what has become of each item and option from one state to another: there is one
alert if its level has become worse, with the level and the stock it has now, and none otherwise. -/
def AlertsNet (db db' : Store) (alerts : List MenuInventoryAlertEvent) : Prop :=
  ∀ k, alertsOf k alerts = (alertBetween (alertedAt db k) (alertedAt db' k)).toList

/-- **When the alerts are right.** Let a reservation of lines, each of one or more, succeed. Its
alerts tell the net effect on every item and option exactly when each stock that goes from above its
threshold to low, but not out, is still above it before the last of what is taken. -/
theorem alerts_net_iff {db db' : Store} {lines : List MenuInventoryOrderLineInput}
    {result : MenuInventoryReservationResult} (hpositive : ∀ line ∈ lines, 1 ≤ line.quantity)
    (hrun : (reserveTrackedInventoryForOrder lines).run db = .ok (result, db')) :
    AlertsNet db db' result.alerts ↔ ∀ k resource, alertedAt db k = some resource →
      LowAtLast resource.stock (takenFrom lines k) := by
  have hreports := reserveLines_reports hrun
  have hpos : ∀ k, ∀ q ∈ takenFrom lines k, 0 < q := by
    intro k q hq
    obtain ⟨line, hline, hq⟩ := List.mem_flatMap.mp hq
    have hone := hpositive line hline
    rw [List.eq_of_mem_replicate hq]
    omega
  refine forall_congr' fun k => ?_
  rw [hreports.alerts k none rfl, Option.or_none, hreports.less]
  cases hresource : alertedAt db k with
  | none =>
    have hnone : ∀ quantities, lastAlert none quantities = none := by
      intro quantities
      induction quantities with
      | nil => rfl
      | cons q quantities ih =>
        rw [lastAlert, Option.map_none, ih]
        rfl
    rw [hnone]
    exact iff_of_true rfl fun resource heq => by cases heq
  | some resource =>
    have htoList : ∀ o o' : Option MenuInventoryAlertEvent, o.toList = o'.toList ↔ o = o' :=
      fun o o' => ⟨fun h => by simpa using congrArg List.head? h, congrArg Option.toList⟩
    rw [htoList, Option.map_some, lastAlert_eq_alertBetween_iff (hpos k)
      (hreports.enough k resource hresource)]
    exact ⟨fun h resource' heq => Option.some.inj heq ▸ h, fun h => h resource rfl⟩

/-- The shop has ten cups, and asks for more when there are five left. -/
def lowShop : Store := Db.empty.apply [
  ⟨.merchant, 1, some { userId := 10, status := .active }⟩,
  ⟨.branch, 1, some { merchantId := 1, status := .active }⟩,
  ⟨.menuItem, 1, some {
    branchId := 1, name := "Tea", basePrice := 1500, stock := ⟨true, some 10, some 5⟩,
    isAvailable := true }⟩]

/-- A line for `quantity` cups of tea. -/
def cupLine (lineKey : Id) (quantity : ℤ) : MenuInventoryOrderLineInput :=
  { teaLine lineKey quantity with selectedOptions := [] }

/-- One cup, then six: the second line makes the stock low, and the alert tells of three cups. -/
theorem alerts_net_iff_lowShop : ∃ result db',
    (reserveTrackedInventoryForOrder [cupLine 1 1, cupLine 2 6]).run lowShop = .ok (result, db') ∧
      AlertsNet lowShop db' result.alerts := by
  have hok : ((reserveTrackedInventoryForOrder [cupLine 1 1, cupLine 2 6]).run
      lowShop).isOk = true := by decide +kernel
  rcases hrun : (reserveTrackedInventoryForOrder [cupLine 1 1, cupLine 2 6]).run lowShop with
    e | ⟨result, db'⟩
  · rw [hrun] at hok
    cases hok
  · refine ⟨result, db', rfl, (alerts_net_iff (by decide) hrun).mpr fun k resource hresource => ?_⟩
    intro level threshold hlevel hthreshold _ _ _ last hlast
    by_cases hk : k = (.menuItem, 1)
    · subst hk
      have htea : (alertedAt lowShop (.menuItem, 1)).map (·.stock) =
          some ⟨true, some 10, some 5⟩ := by decide +kernel
      rw [hresource] at htea
      have hstock : resource.stock = ⟨true, some 10, some 5⟩ := Option.some.inj htea
      rw [hstock] at hlevel hthreshold
      have htaken : takenFrom [cupLine 1 1, cupLine 2 6] (.menuItem, 1) = [1, 6] := by decide
      rw [htaken] at hlast ⊢
      cases hlevel
      cases hthreshold
      cases hlast
      decide
    · have hnil : takenFrom [cupLine 1 1, cupLine 2 6] k = [] := by
        simp [takenFrom, cupLine, teaLine, MenuInventoryOrderLineInput.drawsOn,
          MenuInventoryOrderLineInput.reservedVariant, MenuInventoryOrderLineInput.reservedOptions,
          Ne.symm hk]
      rw [hnil] at hlast
      cases hlast

/-- Six cups, then one: the first line makes the stock low, with four cups left. That is what the
alert tells, although there are three. -/
theorem alert_out_of_date : ∃ result db',
    (reserveTrackedInventoryForOrder [cupLine 1 6, cupLine 2 1]).run lowShop = .ok (result, db') ∧
      result.alerts.map (fun alert => (alert.attentionLevel, alert.stockQuantity)) =
        [(.lowStock, some 4)] ∧
      (db'.get (.menuItem, 1)).map (fun item => MenuItem.stock item) =
        some ⟨true, some 3, some 5⟩ ∧
      ¬ AlertsNet lowShop db' result.alerts := by
  have hrun : ((reserveTrackedInventoryForOrder [cupLine 1 6, cupLine 2 1]).run lowShop).map
      (fun outcome => (
        outcome.1.alerts.map fun alert => (alert.attentionLevel, alert.stockQuantity),
        (outcome.2.get (.menuItem, 1)).map fun item => MenuItem.stock item,
        decide (alertsOf (.menuItem, 1) outcome.1.alerts = (alertBetween
          (alertedAt lowShop (.menuItem, 1)) (alertedAt outcome.2 (.menuItem, 1))).toList))) =
      .ok ([(.lowStock, some 4)], some ⟨true, some 3, some 5⟩, false) := by decide +kernel
  rcases h : (reserveTrackedInventoryForOrder [cupLine 1 6, cupLine 2 1]).run lowShop with
    e | ⟨result, db'⟩
  · rw [h] at hrun
    cases hrun
  · rw [h] at hrun
    have houtcome := Except.ok.inj hrun
    simp only [Prod.mk.injEq, decide_eq_false_iff_not] at houtcome
    obtain ⟨halerts, hrow, hnet⟩ := houtcome
    exact ⟨result, db', rfl, halerts, hrow, fun h => hnet (h _)⟩

end WerTe
