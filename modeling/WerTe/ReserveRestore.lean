import WerTe.StockMoves

/-!
# Restoring undoes reserving

A reservation followed by a restoration of the same lines, carrying the lots the
reservation took from, leaves every row as it was.
-/

namespace WerTe

open ReadCommitted MenusRepository

/-! ## Restorations never fail -/

theorem restoreLots_total (allocations : List MenuInventoryLotAllocation) :
    (restoreLots allocations).Total := by
  induction allocations with
  | nil => exact .ret ()
  | cons a allocations ih => exact .bind (.update _) fun _ => ih

theorem restoreOptions_total (quantity : ℤ) (optionIds : List Id) :
    (restoreOptions quantity optionIds).Total := by
  induction optionIds with
  | nil => exact .ret ()
  | cons optionId optionIds ih => exact .bind (.update _) fun _ => ih

theorem restoreItem_total (line : MenuInventoryOrderLineInput) : (restoreItem line).Total := by
  unfold restoreItem
  split
  · exact .bind (.update _) fun _ => restoreLots_total _
  · exact .ret ()

theorem restoreVariant_total (line : MenuInventoryOrderLineInput) :
    (restoreVariant line).Total := by
  unfold restoreVariant
  split
  · exact .ret ()
  · exact .bind (.update _) fun _ => .ret ()

theorem restoreTrackedInventoryForOrder_total (lines : List MenuInventoryOrderLineInput) :
    (restoreTrackedInventoryForOrder lines).Total := by
  induction lines with
  | nil => exact .ret ()
  | cons line lines ih =>
    exact .bind (restoreItem_total line) fun _ => .bind (restoreVariant_total line) fun _ =>
      .bind (restoreOptions_total _ _) fun _ => ih

/-! ## The recorded allocations -/

theorem lookup_recordAllocations_self (byLineKey : List (Id × List MenuInventoryLotAllocation))
    (key : Id) (allocations : List MenuInventoryLotAllocation)
    (h : byLineKey.lookup key = none) :
    ((recordAllocations byLineKey (some key) allocations).lookup key).getD [] = allocations := by
  cases allocations with
  | nil => rw [recordAllocations, List.isEmpty_nil, if_pos rfl, h, Option.getD_none]
  | cons a allocations =>
    rw [recordAllocations, List.isEmpty_cons, if_neg Bool.false_ne_true, List.lookup_cons_self,
      Option.getD_some]

theorem lookup_recordAllocations_ne (byLineKey : List (Id × List MenuInventoryLotAllocation))
    {key : Id} {lineKey : Option Id} (allocations : List MenuInventoryLotAllocation)
    (h : lineKey ≠ some key) :
    (recordAllocations byLineKey lineKey allocations).lookup key = byLineKey.lookup key := by
  cases lineKey with
  | none => rfl
  | some key' =>
    have hne : (key == key') = false := beq_eq_false_iff_ne.mpr fun he => h (he ▸ rfl)
    rw [recordAllocations]
    split
    · rfl
    · rw [List.lookup_cons, hne]

/-- A key that no line has is not recorded. -/
theorem lookup_recordAll_of_notMem {key : Id}
    (lines : List (MenuInventoryOrderLineInput × List MenuInventoryLotAllocation)) :
    ∀ byLineKey, some key ∉ lines.map (·.1.lineKey) →
      (recordAll byLineKey lines).lookup key = byLineKey.lookup key := by
  induction lines with
  | nil => intro byLineKey _; rfl
  | cons l lines ih =>
    intro byLineKey hkey
    rw [List.map_cons, List.mem_cons, not_or] at hkey
    rw [recordAll, List.foldl_cons, ← recordAll, ih _ hkey.2,
      lookup_recordAllocations_ne _ _ (Ne.symm hkey.1)]

/-- When the keys are distinct, each line finds its own allocations. -/
theorem withAllocations_recordAll
    (lines : List (MenuInventoryOrderLineInput × List MenuInventoryLotAllocation)) :
    ∀ (keys : List Id) (byLineKey : List (Id × List MenuInventoryLotAllocation)),
      lines.map (·.1.lineKey) = keys.map some → keys.Nodup →
      (∀ key ∈ keys, byLineKey.lookup key = none) →
      ∀ l ∈ lines, (l.1.withAllocations (recordAll byLineKey lines)).inventoryLotAllocations = l.2 := by
  induction lines with
  | nil => intro _ _ _ _ _ l hl; cases hl
  | cons l lines ih =>
    intro keys byLineKey hkeys hnodup hnone l' hl'
    cases keys with
    | nil => cases hkeys
    | cons key keys =>
      obtain ⟨hkey, hrest⟩ := List.cons.inj hkeys
      obtain ⟨hnot, hnodup⟩ := List.nodup_cons.mp hnodup
      have hnot' : some key ∉ lines.map (·.1.lineKey) := by
        rw [hrest]
        intro hmem
        obtain ⟨key', hmem', he⟩ := List.mem_map.mp hmem
        exact hnot (Option.some.inj he ▸ hmem')
      rw [recordAll, List.foldl_cons, ← recordAll]
      rcases List.mem_cons.mp hl' with rfl | hl'
      · have hkey : l'.1.lineKey = some key := hkey
        change ((l'.1.lineKey.bind fun key => _).getD []) = _
        rw [hkey, Option.bind_some, lookup_recordAll_of_notMem lines _ hnot']
        exact lookup_recordAllocations_self byLineKey key l'.2 (hnone key List.mem_cons_self)
      · refine ih keys _ hrest hnodup (fun key' hkey' => ?_) l' hl'
        have hne : l.1.lineKey ≠ some key' := fun he =>
          hnot (Option.some.inj (he.symm.trans hkey) ▸ hkey')
        rw [lookup_recordAllocations_ne _ _ hne]
        exact hnone key' (List.mem_cons_of_mem _ hkey')

/-! ## The round trip -/

/-- The restored lines demand what the reservation took. -/
theorem demand_withAllocations
    {allocated : List (MenuInventoryOrderLineInput × List MenuInventoryLotAllocation)}
    {byLineKey : List (Id × List MenuInventoryLotAllocation)}
    (h : ∀ l ∈ allocated, (l.1.withAllocations byLineKey).inventoryLotAllocations = l.2) :
    demand (((allocated.map Prod.fst).map (·.withAllocations byLineKey)).map
      fun line => (line, line.inventoryLotAllocations)) = demand allocated := by
  rw [demand, demand, List.map_map, List.map_map, List.map_map]
  refine congrArg List.sum (List.map_congr_left fun l hl => ?_)
  exact congrArg (fun allocations => lineDemand l.1 allocations) (h l hl)

/-- What a reservation run alone has taken. -/
theorem reserve_run {items : List MenuInventoryOrderLineInput} {db db' : Store}
    {result : MenuInventoryReservationResult}
    (h : (reserveTrackedInventoryForOrder items).run db = .ok (result, db')) :
    ∃ (allocated : List (MenuInventoryOrderLineInput × List MenuInventoryLotAllocation))
      (ws : List (Write Row)), allocated.map Prod.fst = items ∧
        (∀ l ∈ allocated, Allocated (lotItemOf db) l.1 l.2) ∧
        result.inventoryLotAllocationsByLineKey = recordAll [] allocated ∧
        db' = db.apply ws ∧ Accumulates take (demand allocated) ws db ∧
        ∀ k ∈ ws.map Write.key, Stocked k ((db.apply ws).get k) := by
  have hlots : ∀ db', db' = db → LotsOf (lotItemOf db) db' := fun _ h i => by rw [h]
  have hspec := (reserveTrackedInventoryForOrder_taken hlots items).and
    (reserveTrackedInventoryForOrder_rows stocked_takeCloses items).triple
  obtain ⟨_, ws, rfl, ⟨allocated, ⟨hitems, hallocated, hrecord⟩, htaken⟩, hstocked⟩ :=
    hspec.run rfl h
  exact ⟨allocated, ws, hitems, hallocated, hrecord, rfl, htaken, hstocked⟩

/-- What a restoration run alone has given back: the lines' demand, on every row there is. -/
theorem restore_run {lines : List MenuInventoryOrderLineInput} {db db' : Store}
    (h : (restoreTrackedInventoryForOrder lines).run db = .ok ((), db')) :
    ∃ (d : Amounts) (ws : List (Write Row)), db' = db.apply ws ∧
      (∀ k, (db.get k).isSome → d k =
        demand (lines.map fun line => (line, line.inventoryLotAllocations)) k) ∧
      Accumulates restock d ws db := by
  have hpresent : ∀ db', db' = db → ∀ k, (db.get k).isSome → (db'.get k).isSome :=
    fun _ h k hk => h ▸ hk
  obtain ⟨_, ws, rfl, d, hd, hrestocked⟩ :=
    (restoreTrackedInventoryForOrder_restocked hpresent lines).run rfl h
  exact ⟨d, ws, rfl, hd, hrestocked⟩

/-- Reserving lines with distinct keys and then restoring them, with the lots that the
reservation returned for each key, succeeds and leaves every row as it was. -/
theorem restore_reserve {lines : List MenuInventoryOrderLineInput} {keys : List Id}
    (hkeys : lines.map (·.lineKey) = keys.map some) (hnodup : keys.Nodup) {db db₁ : Store}
    {result : MenuInventoryReservationResult}
    (hreserve : (reserveTrackedInventoryForOrder lines).run db = .ok (result, db₁)) :
    ∃ db₂, (restoreTrackedInventoryForOrder (lines.map
        (·.withAllocations result.inventoryLotAllocationsByLineKey))).run db₁ = .ok ((), db₂) ∧
      ∀ k, db₂.get k = db.get k := by
  obtain ⟨allocated, ws, rfl, -, hrecord, rfl, htaken, hstocked⟩ := reserve_run hreserve
  obtain ⟨u, db₂, hrestore⟩ := restoreTrackedInventoryForOrder_total ((allocated.map Prod.fst).map
    (·.withAllocations result.inventoryLotAllocationsByLineKey)) (db.apply ws)
  obtain ⟨d, ws₂, rfl, hd, hrestocked⟩ := restore_run hrestore
  refine ⟨_, hrestore, fun k => ?_⟩
  rw [hrestocked.rows k]
  cases hget : (db.apply ws).get k with
  | none =>
    have hnone := htaken.isSome k
    rw [hget] at hnone
    exact (Option.not_isSome_iff_eq_none.mp (by rw [← hnone]; exact Bool.false_ne_true)).symm
  | some r =>
    have hamount : d k = demand allocated k := by
      rw [hd k (Option.isSome_iff_exists.mpr ⟨r, hget⟩)]
      have hkeys' : allocated.map (·.1.lineKey) = keys.map some := by rw [← hkeys, List.map_map]; rfl
      rw [hrecord]
      exact congrFun (demand_withAllocations
        (withAllocations_recordAll allocated keys [] hkeys' hnodup fun _ _ => rfl)) k
    have hrow := htaken.rows k
    rw [hget, eq_comm, Option.map_eq_some_iff] at hrow
    obtain ⟨r₀, hr₀, rfl⟩ := hrow
    rw [hamount, hr₀, Option.map_some]
    cases hdk : demand allocated k with
    | zero => rfl
    | coe quantity =>
      have hwritten : k ∈ ws.map Write.key := by
        by_contra hk
        rw [htaken.frame k hk] at hdk
        cases hdk
      obtain ⟨r, level, hr, hlevel, -⟩ := hstocked k hwritten
      rw [hget, hdk] at hr
      cases hr
      rw [amend_coe, amend_coe, restock_take]
      rw [amend_coe, stockLevel_take, Option.map_eq_some_iff] at hlevel
      obtain ⟨level₀, hlevel₀, -⟩ := hlevel
      rw [hlevel₀]
      rfl

/-- Two lines over the same item and lots, reserved and restored. -/
theorem restore_reserve_teaShop :
    ∃ result db₁ db₂,
      (reserveTrackedInventoryForOrder [teaLine 1 1, teaLine 2 3]).run teaShop = .ok (result, db₁) ∧
      (restoreTrackedInventoryForOrder ([teaLine 1 1, teaLine 2 3].map
        (·.withAllocations result.inventoryLotAllocationsByLineKey))).run db₁ = .ok ((), db₂) ∧
      ∀ k, db₂.get k = teaShop.get k := by
  have hok : ((reserveTrackedInventoryForOrder [teaLine 1 1, teaLine 2 3]).run teaShop).isOk = true := by
    decide
  rcases hrun : (reserveTrackedInventoryForOrder [teaLine 1 1, teaLine 2 3]).run teaShop with
    e | ⟨result, db₁⟩
  · rw [hrun] at hok
    cases hok
  · obtain ⟨db₂, hrestore, hsame⟩ := restore_reserve (show _ = [1, 2].map some from rfl) (by decide) hrun
    exact ⟨result, db₁, db₂, rfl, hrestore, hsame⟩

end WerTe
