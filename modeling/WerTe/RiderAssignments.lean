import WerTe.DispatchTimeouts
import WerTe.OrderCommits

/-!
# How many deliveries a rider is busy with

Auto-dispatch counts a rider's deliveries under a lock on the rider, and assigns the rider only
if there are none. The administrator's assignment takes no lock and counts nothing, and a rider's
actions write the delivery's status whatever it has become. `StaysSingle` says when such a
commit does no harm; a rider is then never busy with two deliveries, however the operations
interleave (`one_active_delivery`). What auto-dispatch relies on under its lock is `lockRely`.
-/

namespace WerTe

open ReadCommitted DeliveriesRepository Tx

/-! ## Busy riders -/

/-- The rider is busy with the delivery. -/
def Busy (db : Store) (riderId deliveryId : Id) : Prop :=
  ∃ delivery, db.get (.delivery, deliveryId) = some delivery ∧ delivery.riderId = some riderId ∧
    delivery.status ∈ activeDeliveryStatuses

/-- The rider is busy with no delivery. -/
def Free (riderId : Id) (db : Store) : Prop := ∀ deliveryId, ¬ Busy db riderId deliveryId

/-- Every rider is busy with at most one delivery. -/
def OneActive (db : Store) : Prop :=
  ∀ riderId i j, Busy db riderId i → Busy db riderId j → i = j

theorem free_of_count {riderId : Id} {db : Store} (h : countActiveDeliveries db riderId = 0) :
    Free riderId db := by
  rintro deliveryId ⟨delivery, hget, hrider, hactive⟩
  have hmem : (deliveryId, delivery) ∈ db.list .delivery fun d =>
      d.riderId == some riderId && activeDeliveryStatuses.contains d.status :=
    Db.mem_list.mpr ⟨hget, by simp [hrider, hactive]⟩
  rw [List.length_eq_zero_iff.mp h] at hmem
  cases hmem

/-- While a rider's lock is held, no other transaction gives a rider who is free a delivery. -/
def lockRely : Rely Row where
  inv _ := True
  rel (ws : List (Write Row)) (a b : Store) := Db.Agree ws a b ∧
    ∀ riderId, ((Tbl.advisoryLock, riderId) : Key Tbl) ∈ ws.map Write.key →
      Free riderId a → Free riderId b
  refl _ := ⟨.refl _ _, fun _ _ h => h⟩
  trans := by
    rintro ws a b c ⟨hab, hlab⟩ ⟨hbc, hlbc⟩
    exact ⟨hab.trans hbc, fun riderId hlock hfree => hlbc riderId hlock (hlab riderId hlock hfree)⟩
  inv_right _ := True.intro
  agree h := h.1

theorem locks_lockRely : Locks lockRely Free :=
  ⟨fun _ _ h => free_of_count h, fun _ _ _ riderId hrel hlock => hrel.2 riderId hlock⟩

/-! ## One commit -/

section Commits

variable {ι : Type} {call : OrderCall} {e : Event ι Row}

/-- A commit makes no rider busy with a second delivery, if it is the administrator's or a
rider's: the administrator assigns a rider who is busy with no other delivery, while no one
holds the rider's lock, and a rider moves a delivery on that is active still. -/
def StaysSingle (call : OrderCall) (e : Event ι Row) : Prop :=
  match call with
  | .assignRider _ _ _ riderId _ _ =>
    (∀ i, Busy e.db riderId i → (.delivery, i) ∈ e.writes.map Write.key) ∧
      ¬ e.held (.advisoryLock, riderId)
  | .rider action _ input => (.delivery, input.deliveryId) ∈ e.writes.map Write.key →
    ∀ delivery, e.db.get (.delivery, input.deliveryId) = some delivery →
      delivery.riderId.isSome → (action.update delivery).status ∈ activeDeliveryStatuses →
        delivery.status ∈ activeDeliveryStatuses
  | _ => True

/-- The commit gives the delivery to the rider. -/
def Gives (call : OrderCall) (e : Event ι Row) (riderId deliveryId : Id) : Prop :=
  (∃ r, (⟨.delivery, deliveryId, r⟩ : Write Row) ∈ e.writes) ∧
    ((∃ newDeliveryId currentUser orderId reasonCode note,
        call = .assignRider newDeliveryId currentUser orderId riderId reasonCode note) ∨
      (.advisoryLock, riderId) ∈ e.writes.map Write.key ∧ Free riderId e.db)

/-- A rider who is busy after the commit was busy before, or is given the delivery. -/
theorem busy_cases (hcommit : OrderCommit Free call e.reads e.writes e.db)
    (hsingle : StaysSingle call e) {riderId deliveryId : Id}
    (h : Busy e.result riderId deliveryId) :
    Busy e.db riderId deliveryId ∨ Gives call e riderId deliveryId := by
  obtain ⟨delivery', hget', hrider, hactive⟩ := h
  rcases Db.get_apply_cases e.writes .delivery deliveryId e.db with hkept | ⟨r, hr, hget⟩
  · exact .inl ⟨delivery', hkept.symm.trans hget', hrider, hactive⟩
  · obtain rfl : r = some delivery' := hget.symm.trans hget'
    cases hcommit.writes _ hr with
    | @rider action currentUser input delivery hcall hdelivery =>
      subst hcall
      left
      have hkey : (.delivery, input.deliveryId) ∈ e.writes.map Write.key :=
        List.mem_map_of_mem hr
      -- a rider who is still there after the action was there before
      have hrider' : delivery.riderId = some riderId := by
        cases action <;> first | exact hrider | cases hrider
      exact ⟨delivery, hdelivery, hrider',
        hsingle hkey delivery hdelivery (by rw [hrider']; rfl) hactive⟩
    | reset => cases hrider
    | @assign _ orderId riderId' hassigns =>
      obtain rfl : riderId' = riderId := Option.some.inj hrider
      refine .inr ⟨⟨_, hr⟩, hassigns.imp_left ?_⟩
      rintro ⟨newDeliveryId, currentUser, reasonCode, note, rfl⟩
      exact ⟨newDeliveryId, currentUser, orderId, reasonCode, note, rfl⟩
    | other _ hdelivery _ => exact absurd rfl hdelivery

/-- A rider who is given a delivery is busy with no other. -/
theorem Gives.only (hcommit : OrderCommit Free call e.reads e.writes e.db)
    (hsingle : StaysSingle call e) {riderId i j : Id} (h : Gives call e riderId i)
    (hbusy : Busy e.db riderId j) : i = j := by
  obtain ⟨⟨r, hr⟩, ⟨newDeliveryId, currentUser, orderId, reasonCode, note, rfl⟩ | ⟨-, hfree⟩⟩ := h
  · obtain ⟨w, hw, hkey⟩ := List.mem_map.mp (hsingle.1 j hbusy)
    obtain rfl := hcommit.delivery _ hr w hw rfl (congrArg Prod.fst hkey)
    exact congrArg Prod.snd hkey
  · exact absurd hbusy (hfree j)

theorem OneActive.commit (h : OneActive e.db)
    (hcommit : OrderCommit Free call e.reads e.writes e.db) (hsingle : StaysSingle call e) :
    OneActive e.result := by
  intro riderId i j hi hj
  rcases busy_cases hcommit hsingle hi with hi | hi
  · rcases busy_cases hcommit hsingle hj with hj | hj
    · exact h riderId i j hi hj
    · exact (hj.only hcommit hsingle hi).symm
  · rcases busy_cases hcommit hsingle hj with hj | hj
    · exact hi.only hcommit hsingle hj
    · obtain ⟨⟨r, hr⟩, -⟩ := hi
      obtain ⟨⟨r', hr'⟩, -⟩ := hj
      exact congrArg Write.id (hcommit.delivery _ hr _ hr' rfl rfl)

/-- What the commit does is what the transactions in flight rely on. -/
theorem lockRely_commit (hcommit : OrderCommit Free call e.reads e.writes e.db)
    (hsingle : StaysSingle call e) {ws : List (Write Row)}
    (hws : ∀ w ∈ ws, e.held w.key ∧ ∀ w' ∈ e.writes, w.clash w' = false) :
    lockRely.rel ws e.db e.result := by
  refine ⟨Machine.agree_of_not_clash e.db fun w hw => (hws w hw).2, fun riderId hlock hfree => ?_⟩
  intro deliveryId hbusy
  obtain ⟨w, hw, hkey⟩ := List.mem_map.mp hlock
  rcases busy_cases hcommit hsingle hbusy with hbusy | ⟨-, hgives⟩
  · exact hfree deliveryId hbusy
  · rcases hgives with ⟨newDeliveryId, currentUser, orderId, reasonCode, note, rfl⟩ | ⟨hlock', -⟩
    · exact hsingle.2 (hkey ▸ (hws w hw).1)
    · -- two transactions do not hold one lock
      obtain ⟨w', hw', hkey'⟩ := List.mem_map.mp hlock'
      have hclash := Write.clash_of_key_eq (hkey.trans hkey'.symm)
      rw [(hws w hw).2 w' hw'] at hclash
      cases hclash

end Commits

/-! ## Runs -/

/-- However the operations interleave, a rider is busy with at most one delivery, as long as the
administrator assigns riders who are busy with no other and whose lock no one holds, and riders
move on only deliveries that are active still. -/
theorem one_active_delivery {ι : Type} [Fintype ι] [DecidableEq ι] {db₀ : Store}
    {calls : ι → OrderCall} (hstart : OneActive db₀) {m : Machine ι Row Failure Unit}
    {log : List (Event ι Row)}
    (hrun : Machine.Traced (.start db₀ fun i => (calls i).service) log m)
    (hsingle : ∀ e ∈ log, StaysSingle (calls e.call) e) : OneActive m.db := by
  obtain ⟨reads, htrace⟩ := hrun
  exact (htrace.sound (R := lockRely) (J := fun _ => OneActive) (Q := fun i => Commits Free (calls i))
    (fun _ e _ hone hok hcommit =>
      ⟨hone.commit hcommit hok, fun _ hws => lockRely_commit hcommit hok hws⟩)
    True.intro (fun i => (calls i).guarantees locks_lockRely []) hstart hsingle).2

/-- The sample shop with two accepted orders and one rider. -/
def twoOrderShop : Store := riderShop.apply [
  ⟨.order, 1, some { teaOrder with status := .merchantAccepted }⟩,
  ⟨.order, 2, some { teaOrder with
    orderCode := "ORD-00000002", idempotencyKey := some "l", status := .merchantAccepted }⟩]

theorem oneActive_twoOrderShop : OneActive twoOrderShop := by
  rintro riderId i j ⟨delivery, hget, -⟩ -
  have hempty : twoOrderShop.list .delivery (fun _ => true) = [] := by decide
  have hmem := Db.mem_list (p := fun _ => true) |>.mpr ⟨hget, rfl⟩
  rw [hempty] at hmem
  cases hmem

/-- The administrator gives the rider both orders. -/
def assignTwice : Fin 2 → OrderCall :=
  ![.assignRider 1 teaAdmin 1 1 none none, .assignRider 2 teaAdmin 2 1 none none]

/-- One after the other, both assignments go through. -/
theorem two_active_deliveries : OneActive twoOrderShop ∧ ∃ log m,
    Machine.Traced (.start twoOrderShop fun i => (assignTwice i).service) log m ∧
      ¬ OneActive m.db := by
  have hexec : ((Machine.start twoOrderShop fun i => (assignTwice i).service).exec
      (List.map .run (List.replicate 6 0 ++ List.replicate 6 1))).any (fun m =>
        (m.db.get (.delivery, 1) == some ⟨1, some 1, .assigned⟩) &&
          (m.db.get (.delivery, 2) == some ⟨2, some 1, .assigned⟩)) = true := by decide
  obtain ⟨m, hm, hboth⟩ := (Option.any_eq_true _ _).mp hexec
  simp only [Bool.and_eq_true, beq_iff_eq] at hboth
  refine ⟨oneActive_twoOrderShop, _, m, Machine.Traced.exec hm, fun hone => ?_⟩
  exact absurd (hone 1 1 2 ⟨_, hboth.1, rfl, by decide⟩ ⟨_, hboth.2, rfl, by decide⟩) (by decide)

/-- Auto-dispatch of both orders at once, for the one rider. -/
def dispatchBoth : Fin 2 → OrderCall :=
  ![.autoDispatchOrder ⟨1, 1, 0⟩ 1, .autoDispatchOrder ⟨2, 2, 0⟩ 2]

/-- Both find the rider free, and the second gives up when it holds the lock. -/
theorem one_active_delivery_twoOrderShop : ∃ log m,
    Machine.Traced (.start twoOrderShop fun i => (dispatchBoth i).service) log m ∧
      OneActive m.db ∧ m.db.get (.delivery, 1) = some ⟨1, some 1, .assigned⟩ ∧
      statusIn 2 m.db = some .merchantAccepted := by
  have hexec : ((Machine.start twoOrderShop fun i => (dispatchBoth i).service).exec
      (List.map .run (List.replicate 4 1 ++ List.replicate 13 0 ++ List.replicate 10 1))).any (fun m =>
        (m.db.get (.delivery, 1) == some ⟨1, some 1, .assigned⟩) &&
          (statusIn 2 m.db == some .merchantAccepted)) = true := by decide
  obtain ⟨m, hm, hend⟩ := (Option.any_eq_true _ _).mp hexec
  simp only [Bool.and_eq_true, beq_iff_eq] at hend
  have hrun := Machine.Traced.exec hm
  have hcalls : ∀ (i : Fin 2) (e : Event (Fin 2) Row), StaysSingle (dispatchBoth i) e :=
    Fin.forall_fin_two.mpr ⟨fun _ => True.intro, fun _ => True.intro⟩
  exact ⟨_, m, hrun, one_active_delivery oneActive_twoOrderShop hrun fun e _ => hcalls e.call e,
    hend.1, hend.2⟩

end WerTe
