import WerTe.StatusStock

/-!
# Whose time a dispatch timeout takes

An attempt, the delivery it led to and the job that ends it are three things that evolve
apart. `DispatchRun` keeps beside the store the attempt under which each order's delivery is
assigned, if an attempt led to it. As long as no offer is left open behind its rider's back
(`OrderCall.ClosesOffer`), every pending attempt is the one its order is assigned under
(`DispatchRun.Offers`), so a timeout takes an order back only from the rider it was made to
(`timeout_hits_own_rider`).
-/

namespace WerTe

open ReadCommitted OrdersRepository DeliveriesRepository DispatchRepository Tx

/-! ## Attempts and the deliveries they lead to -/

/-- The attempt is recorded and has no outcome yet. -/
def Pending (db : Store) (attemptId : Id) (attempt : OrderDispatchAttempt) : Prop :=
  db.get (.orderDispatchAttempt, attemptId) = some attempt ∧ attempt.outcomeCode = .pending

/-- No attempt at the order is pending. -/
def NoneOffered (db : Store) (orderId : Id) : Prop :=
  ∀ attemptId attempt, Pending db attemptId attempt → attempt.orderId ≠ orderId

/-- No two deliveries are of one order. -/
def DeliveriesUnique (db : Store) : Prop :=
  ∀ i j delivery delivery', db.get (.delivery, i) = some delivery →
    db.get (.delivery, j) = some delivery' → delivery.orderId = delivery'.orderId → i = j

/-- The store, and for each order the attempt that its delivery is assigned under. -/
structure DispatchRun where
  db : Store
  under : Id → Option Id

namespace OrderCall

/-- The id of the attempt that the operation makes, if it makes one. -/
def attemptId : OrderCall → Option Id
  | autoDispatchOrder ids _ => some ids.attemptId
  | autoDispatchForRider ids _ _ => some ids.attemptId
  | dispatchTimeout ids _ _ => some ids.attemptId
  | _ => none

/-- The attempt that the operation made at the order, if it is still open at the end. -/
def offered (call : OrderCall) (db : Store) (orderId : Id) : Option Id :=
  call.attemptId.filter fun attemptId => (db.get (.orderDispatchAttempt, attemptId)).isNone &&
    ((call.run db).get (.orderDispatchAttempt, attemptId)).any fun attempt =>
      attempt.orderId == orderId && attempt.outcomeCode == .pending

/-- The operation run alone. A delivery that it changes is under the attempt it made, or else
under none. -/
def track (call : OrderCall) (s : DispatchRun) : DispatchRun where
  db := call.run s.db
  under orderId := (call.offered s.db orderId).or <|
    if findByOrderId (call.run s.db) orderId = findByOrderId s.db orderId then s.under orderId
    else none

/-- The operations that give orders to riders and take them back. A timeout job is for an
attempt at its own order. -/
def Dispatches (call : OrderCall) (s : DispatchRun) : Prop :=
  match call with
  | rider action _ _ => action = .accept ∨ action = .reject ∨ action = .cancel
  | assignRider .. | autoDispatchOrder .. | autoDispatchForRider .. => True
  | dispatchTimeout _ orderId attemptId => ∀ attempt,
      s.db.get (.orderDispatchAttempt, attemptId) = some attempt → attempt.orderId = orderId
  | _ => False

/-- No attempt is pending at an order that a rider gives up before the pickup, or that an
administrator gives to a rider. -/
def ClosesOffer (call : OrderCall) (s : DispatchRun) : Prop :=
  match call with
  | rider .cancel currentUser input => ∀ record, findById s.db input.deliveryId = some record →
      canRiderCancelPrePickup currentUser record = true → NoneOffered s.db record.delivery.orderId
  | assignRider _ currentUser orderId riderId _ _ => ∀ record rider,
      findOrderDetailById s.db orderId = some record →
      canAdminAssignRider currentUser record = true →
      ¬ (record.order.status = .riderAssigned ∧
        (record.delivery.bind fun d => d.2.riderId) = some riderId) →
      s.db.get (.rider, riderId) = some rider →
      RidersRepository.isDispatchEligibleRider s.db rider riderId = true → NoneOffered s.db orderId
  | _ => True

/-- If the operation is a timeout that changes an order or a delivery, then the delivery is
assigned to the rider of its attempt, under that attempt. -/
def HitsOwnRider (call : OrderCall) (s : DispatchRun) : Prop :=
  match call with
  | dispatchTimeout _ orderId attemptId =>
      (∃ k : Key Tbl, (k.1 = .order ∨ k.1 = .delivery) ∧ (call.run s.db).get k ≠ s.db.get k) →
      ∃ attempt deliveryId, s.db.get (.orderDispatchAttempt, attemptId) = some attempt ∧
        findByOrderId s.db orderId = some (deliveryId, ⟨orderId, some attempt.riderId, .assigned⟩) ∧
        s.under orderId = some attemptId
  | _ => True

end OrderCall

/-- Every pending attempt is the one its order is assigned under. -/
structure DispatchRun.Offers (s : DispatchRun) : Prop where
  /-- `orderId` is a unique column of the deliveries -/
  unique : DeliveriesUnique s.db
  /-- the order waits for the rider of the attempt to answer -/
  assigned : ∀ attemptId attempt, Pending s.db attemptId attempt →
    s.under attempt.orderId = some attemptId ∧
    (∃ order, s.db.get (.order, attempt.orderId) = some order ∧ order.status = .riderAssigned) ∧
    ∃ deliveryId, s.db.get (.delivery, deliveryId) =
      some ⟨attempt.orderId, some attempt.riderId, .assigned⟩

/-! ## What one operation does to the attempts at one order -/

section Effects

variable {db db' db'' : Store} {orderId : Id}

/-- A unique delivery is the one found. -/
theorem findByOrderId_iff (hunique : DeliveriesUnique db) {deliveryId : Id} {delivery : Delivery} :
    findByOrderId db orderId = some (deliveryId, delivery) ↔
      db.get (.delivery, deliveryId) = some delivery ∧ delivery.orderId = orderId := by
  refine ⟨get_of_findByOrderId, fun ⟨hget, hof⟩ => ?_⟩
  cases hfind : findByOrderId db orderId with
  | none => exact absurd hof (findByOrderId_eq_none hfind hget)
  | some found =>
    obtain ⟨hget', hof'⟩ := get_of_findByOrderId hfind
    obtain rfl : found.1 = deliveryId := hunique _ _ _ _ hget' hget (hof'.trans hof.symm)
    obtain rfl : found.2 = delivery := Option.some.inj (hget'.symm.trans hget)
    rfl

/-- Nothing is changed but the order, its delivery and the attempts at it. -/
structure Within (orderId : Id) (db db' : Store) : Prop where
  /-- the other orders -/
  order : ∀ i, i ≠ orderId → db'.get (.order, i) = db.get (.order, i)
  /-- the other orders' deliveries -/
  delivery : ∀ i delivery, delivery.orderId ≠ orderId →
    (db'.get (.delivery, i) = some delivery ↔ db.get (.delivery, i) = some delivery)
  /-- the attempts at other orders -/
  attempt : ∀ i attempt, attempt.orderId ≠ orderId → Pending db' i attempt → Pending db i attempt
  /-- deliveries stay unique -/
  unique : DeliveriesUnique db → DeliveriesUnique db'

theorem Within.refl (db : Store) : Within orderId db db :=
  ⟨fun _ _ => rfl, fun _ _ _ => .rfl, fun _ _ _ h => h, fun h => h⟩

theorem Within.trans (h₁ : Within orderId db db') (h₂ : Within orderId db' db'') :
    Within orderId db db'' :=
  ⟨fun i hi => (h₂.order i hi).trans (h₁.order i hi),
    fun i d hd => (h₂.delivery i d hd).trans (h₁.delivery i d hd),
    fun i a ha h => h₁.attempt i a ha (h₂.attempt i a ha h), fun h => h₂.unique (h₁.unique h)⟩

/-- What an operation on an order makes of the attempts at it; `made` is the one it made. -/
inductive Effect (orderId : Id) (made : Option Id) (db db' : Store) : Prop
  /-- order and delivery stay as they are, and no attempt becomes pending -/
  | kept (horder : db'.get (.order, orderId) = db.get (.order, orderId))
      (hdelivery : ∀ i, db'.get (.delivery, i) = db.get (.delivery, i))
      (hattempt : ∀ i attempt, Pending db' i attempt → Pending db i attempt)
  /-- no attempt at the order is pending any more -/
  | closed (hnone : NoneOffered db' orderId)
  /-- the order is given to the rider of a new attempt, the only one that is pending -/
  | offered {attemptId deliveryId : Id} {attempt : OrderDispatchAttempt} {order : Order}
      (hmade : made = some attemptId)
      (hnew : db.get (.orderDispatchAttempt, attemptId) = none)
      (hpending : Pending db' attemptId attempt) (hof : attempt.orderId = orderId)
      (honly : ∀ i a, Pending db' i a → a.orderId = orderId → i = attemptId)
      (horder : db'.get (.order, orderId) = some order) (hstatus : order.status = .riderAssigned)
      (hdelivery : db'.get (.delivery, deliveryId) =
        some ⟨orderId, some attempt.riderId, .assigned⟩)

/-- What an operation on one order does. -/
def Affects (orderId : Id) (made : Option Id) (db db' : Store) : Prop :=
  Within orderId db db' ∧ Effect orderId made db db'

theorem Affects.refl {made : Option Id} (db : Store) : Affects orderId made db db :=
  ⟨.refl db, .kept rfl (fun _ => rfl) fun _ _ h => h⟩

end Effects

/-! ## The attempts after an operation -/

section Tracking

variable {call : OrderCall} {s : DispatchRun} {orderId : Id}

theorem offered_eq_some {db : Store} {attemptId : Id} :
    call.offered db orderId = some attemptId ↔ call.attemptId = some attemptId ∧
      db.get (.orderDispatchAttempt, attemptId) = none ∧ ∃ attempt,
        Pending (call.run db) attemptId attempt ∧ attempt.orderId = orderId := by
  rw [OrderCall.offered, Option.filter_eq_some_iff, Bool.and_eq_true, Option.isNone_iff_eq_none,
    Option.any_eq_true]
  refine and_congr_right fun _ => and_congr_right fun _ => exists_congr fun attempt => ?_
  rw [Bool.and_eq_true, beq_iff_eq, beq_iff_eq, Pending]
  tauto

/-- An offer that an operation has left as it was is still under its attempt. -/
theorem track_under_kept (hunique : DeliveriesUnique s.db)
    (hunique' : DeliveriesUnique (call.run s.db))
    (hdelivery : ∀ i delivery, delivery.orderId = orderId →
      ((call.run s.db).get (.delivery, i) = some delivery ↔ s.db.get (.delivery, i) = some delivery))
    (hattempt : ∀ i attempt, attempt.orderId = orderId → Pending (call.run s.db) i attempt →
      Pending s.db i attempt) : (call.track s).under orderId = s.under orderId := by
  have hnone : call.offered s.db orderId = none := by
    rw [Option.eq_none_iff_forall_ne_some]
    intro attemptId hoffered
    obtain ⟨-, hnew, attempt, hpending, hof⟩ := offered_eq_some.mp hoffered
    rw [(hattempt _ _ hof hpending).1] at hnew
    cases hnew
  have hsame : findByOrderId (call.run s.db) orderId = findByOrderId s.db orderId := by
    refine Option.ext fun found => ?_
    obtain ⟨i, delivery⟩ := found
    rw [findByOrderId_iff hunique', findByOrderId_iff hunique]
    exact and_congr_left fun hof => hdelivery i delivery hof
  simp only [OrderCall.track, hnone, Option.none_or, if_pos hsame]

/-- Whatever an operation does to one order, every pending attempt is still the one its order is
assigned under. -/
theorem DispatchRun.Offers.track (h : s.Offers)
    (haffects : Affects orderId call.attemptId s.db (call.run s.db)) : (call.track s).Offers := by
  obtain ⟨hwithin, heffect⟩ := haffects
  have hunique := hwithin.unique h.unique
  refine ⟨hunique, fun i attempt hpending => ?_⟩
  by_cases hof : attempt.orderId = orderId
  · subst hof
    cases heffect with
    | kept horder hdelivery hattempt =>
      obtain ⟨hunder, ⟨order, hget, hstatus⟩, deliveryId, hassigned⟩ :=
        h.assigned i attempt (hattempt i attempt hpending)
      refine ⟨?_, ⟨order, horder.trans hget, hstatus⟩, deliveryId,
        (hdelivery deliveryId).trans hassigned⟩
      rw [← hunder]
      exact track_under_kept h.unique hunique (fun i _ _ => by rw [hdelivery i])
        fun i a _ => hattempt i a
    | closed hnone => exact absurd rfl (hnone i attempt hpending)
    | offered hmade hnew hpending' hof' honly horder hstatus hdelivery =>
      obtain rfl := honly i attempt hpending rfl
      obtain rfl := Option.some.inj (hpending.1.symm.trans hpending'.1)
      refine ⟨?_, ⟨_, horder, hstatus⟩, _, hdelivery⟩
      simp only [OrderCall.track, offered_eq_some.mpr ⟨hmade, hnew, _, hpending', rfl⟩,
        Option.some_or]
  · obtain ⟨hunder, ⟨order, hget, hstatus⟩, deliveryId, hassigned⟩ :=
      h.assigned i attempt (hwithin.attempt i attempt hof hpending)
    refine ⟨?_, ⟨order, (hwithin.order _ hof).trans hget, hstatus⟩, deliveryId,
      (hwithin.delivery _ _ hof).mpr hassigned⟩
    rw [← hunder]
    exact track_under_kept h.unique hunique
      (fun i d hd => hwithin.delivery i d (by rw [hd]; exact hof))
      fun i a ha => hwithin.attempt i a (by rw [ha]; exact hof)

end Tracking

/-! ## The writes -/

section Writes

variable {db : Store} {orderId : Id}

theorem pending_resolved {attemptId i : Id} {attempt : OrderDispatchAttempt}
    {outcomeCode : DispatchOutcomeCode} (hcode : outcomeCode ≠ .pending) :
    Pending (resolved db attemptId outcomeCode) i attempt ↔
      Pending db i attempt ∧ i ≠ attemptId := by
  unfold resolved
  split
  · next old hold =>
    by_cases hi : i = attemptId
    · subst hi
      have hself : (db.put ⟨.orderDispatchAttempt, i, some { old with outcomeCode := outcomeCode }⟩).get
          (.orderDispatchAttempt, i) = some { old with outcomeCode := outcomeCode } :=
        Db.get_put_self ..
      simp only [Pending, hself, not_true, and_false, iff_false, not_and, ne_eq]
      rintro hsame
      obtain rfl := Option.some.inj hsame
      exact hcode
    · have hother : (db.put ⟨.orderDispatchAttempt, attemptId,
          some { old with outcomeCode := outcomeCode }⟩).get (.orderDispatchAttempt, i) =
            db.get (.orderDispatchAttempt, i) :=
        Db.get_put_ne _ fun hkey => hi (congrArg Prod.snd hkey)
      simp only [Pending, hother, ne_eq, hi, not_false_iff, and_true]
  · next hnone =>
    refine ⟨fun h => ⟨h, ?_⟩, And.left⟩
    rintro rfl
    rw [h.1] at hnone
    cases hnone

theorem get_resolved {attemptId : Id} {outcomeCode : DispatchOutcomeCode} {k : Key Tbl}
    (hk : k.1 ≠ .orderDispatchAttempt) : (resolved db attemptId outcomeCode).get k = db.get k := by
  unfold resolved
  split
  · exact Db.get_put_ne _ fun hkey => hk (congrArg Prod.fst hkey)
  · rfl

/-- No delivery is written. -/
theorem Within.of_get {db' : Store}
    (horder : ∀ i, i ≠ orderId → db'.get (.order, i) = db.get (.order, i))
    (hdelivery : ∀ i, db'.get (.delivery, i) = db.get (.delivery, i))
    (hattempt : ∀ i attempt, attempt.orderId ≠ orderId → Pending db' i attempt →
      Pending db i attempt) : Within orderId db db' := by
  refine ⟨horder, fun i d _ => by rw [hdelivery i], hattempt, fun hunique i j d d' hi hj => ?_⟩
  rw [hdelivery] at hi hj
  exact hunique i j d d' hi hj

theorem resolved_within {attemptId : Id} {outcomeCode : DispatchOutcomeCode}
    (hcode : outcomeCode ≠ .pending) : Within orderId db (resolved db attemptId outcomeCode) :=
  .of_get (fun _ _ => get_resolved (by simp)) (fun _ => get_resolved (by simp))
    fun _ _ _ h => ((pending_resolved hcode).mp h).1

theorem resolved_affects {attemptId : Id} {made : Option Id} {outcomeCode : DispatchOutcomeCode}
    (hcode : outcomeCode ≠ .pending) :
    Affects orderId made db (resolved db attemptId outcomeCode) :=
  ⟨resolved_within hcode, .kept (get_resolved (by simp)) (fun _ => get_resolved (by simp))
    fun _ _ h => ((pending_resolved hcode).mp h).1⟩

/-- The store after an order and its delivery are written. -/
def moved (db : Store) (deliveryId orderId : Id) (delivery : Delivery) (order : Order) : Store :=
  (db.put ⟨.delivery, deliveryId, some delivery⟩).put ⟨.order, orderId, some order⟩

variable {deliveryId : Id} {delivery : Delivery} {order : Order}

theorem moved_delivery (i : Id) : (moved db deliveryId orderId delivery order).get (.delivery, i) =
    if i = deliveryId then some delivery else db.get (.delivery, i) := by
  have horder : ∀ d : Store, (d.put ⟨.order, orderId, some order⟩).get (.delivery, i) =
      d.get (.delivery, i) := fun d => Db.get_put_ne _ fun hkey => by cases hkey
  rw [moved, horder]
  by_cases hi : i = deliveryId
  · subst hi
    rw [if_pos rfl]
    exact Db.get_put_self db ⟨.delivery, i, some delivery⟩
  · rw [if_neg hi, Db.get_put_ne _ fun hkey => hi (congrArg Prod.snd hkey)]

theorem moved_order (i : Id) : (moved db deliveryId orderId delivery order).get (.order, i) =
    if i = orderId then some order else db.get (.order, i) := by
  by_cases hi : i = orderId
  · subst hi
    rw [if_pos rfl]
    exact Db.get_put_self (db.put ⟨.delivery, deliveryId, some delivery⟩) ⟨.order, i, some order⟩
  · rw [if_neg hi, moved, Db.get_put_ne _ fun hkey => hi (congrArg Prod.snd hkey),
      Db.get_put_ne _ fun hkey => by cases hkey]

theorem moved_other {k : Key Tbl} (hdelivery : k.1 ≠ .delivery) (horder : k.1 ≠ .order) :
    (moved db deliveryId orderId delivery order).get k = db.get k := by
  rw [moved, Db.get_put_ne _ fun hkey => horder (congrArg Prod.fst hkey),
    Db.get_put_ne _ fun hkey => hdelivery (congrArg Prod.fst hkey)]

theorem pending_moved {i : Id} {attempt : OrderDispatchAttempt} :
    Pending (moved db deliveryId orderId delivery order) i attempt ↔ Pending db i attempt := by
  have hattempt : (moved db deliveryId orderId delivery order).get (.orderDispatchAttempt, i) =
      db.get (.orderDispatchAttempt, i) := moved_other (by simp) (by simp)
  rw [Pending, hattempt, Pending]

/-- An order's own delivery is written, or its first one. -/
theorem moved_within (hof : delivery.orderId = orderId)
    (hold : (∃ d, db.get (.delivery, deliveryId) = some d ∧ d.orderId = orderId) ∨
      db.get (.delivery, deliveryId) = none ∧
        ∀ i d, db.get (.delivery, i) = some d → d.orderId ≠ orderId) :
    Within orderId db (moved db deliveryId orderId delivery order) := by
  have hothers : ∀ i d, d.orderId ≠ orderId →
      ((moved db deliveryId orderId delivery order).get (.delivery, i) = some d ↔
        db.get (.delivery, i) = some d) := by
    intro i d hd
    rw [moved_delivery]
    split
    · next hi =>
      subst hi
      refine ⟨?_, fun hget => ?_⟩
      · rintro ⟨rfl⟩
        exact absurd hof hd
      · rcases hold with ⟨d', hget', hof'⟩ | ⟨hnone, -⟩
        · obtain rfl := Option.some.inj (hget.symm.trans hget')
          exact absurd hof' hd
        · rw [hget] at hnone
          cases hnone
    · rfl
  have hown : DeliveriesUnique db → ∀ i d, db.get (.delivery, i) = some d → d.orderId = orderId →
      i = deliveryId := by
    rintro hunique i d hget hd
    rcases hold with ⟨d', hget', hof'⟩ | ⟨-, hnone⟩
    · exact hunique _ _ _ _ hget hget' (hd.trans hof'.symm)
    · exact absurd hd (hnone i d hget)
  refine ⟨fun i hi => by rw [moved_order, if_neg hi], hothers, fun i a _ => pending_moved.mp,
    fun hunique i j d d' hi hj hsame => ?_⟩
  rw [moved_delivery] at hi hj
  split at hi
  · split at hj
    · next hi' hj' => exact hi'.trans hj'.symm
    · next hi' _ =>
      obtain rfl := Option.some.inj hi
      exact hi'.trans (hown hunique j d' hj (hsame.symm.trans hof)).symm
  · split at hj
    · next _ hj' =>
      obtain rfl := Option.some.inj hj
      exact (hown hunique i d hi (hsame.trans hof)).trans hj'.symm
    · exact hunique i j d d' hi hj hsame

end Writes

/-! ## What each operation does -/

section Riders

variable {db : Store}

theorem findPendingAttempt_some {orderId riderId attemptId : Id} {attempt : OrderDispatchAttempt}
    (h : findPendingAttempt db orderId riderId = some (attemptId, attempt)) :
    Pending db attemptId attempt ∧ attempt.orderId = orderId := by
  have hmem := (List.mem_insertionSort _).mp (List.mem_of_mem_head? h)
  obtain ⟨hget, hpending⟩ := Db.mem_list.mp hmem
  simp only [Bool.and_eq_true, beq_iff_eq] at hpending
  exact ⟨⟨hget, hpending.2⟩, hpending.1.1⟩

theorem findPendingAttempt_none {attemptId : Id} {attempt : OrderDispatchAttempt}
    (h : findPendingAttempt db attempt.orderId attempt.riderId = none) :
    ¬ Pending db attemptId attempt := by
  rintro ⟨hget, hpending⟩
  have hmem : (attemptId, attempt) ∈ db.list .orderDispatchAttempt fun a =>
      a.orderId == attempt.orderId && a.riderId == attempt.riderId && a.outcomeCode == .pending :=
    Db.mem_list.mpr ⟨hget, by simp [hpending]⟩
  have hsorted := (List.mem_insertionSort
    fun left right : Id × OrderDispatchAttempt => right.2.attemptedAt ≤ left.2.attemptedAt).mpr hmem
  rw [List.head?_eq_none_iff.mp h] at hsorted
  cases hsorted

theorem resolveDispatchAttempt_ends (orderId riderId : Id) (outcomeCode : DispatchOutcomeCode) :
    (resolveDispatchAttempt orderId riderId outcomeCode).Ends db fun _ db' =>
      findPendingAttempt db orderId riderId = none ∧ db' = db ∨
        ∃ attemptId attempt, findPendingAttempt db orderId riderId = some (attemptId, attempt) ∧
          db' = resolved db attemptId outcomeCode := by
  refine .get_bind ?_
  cases hfind : findPendingAttempt db orderId riderId with
  | none => exact .ret (.inl ⟨rfl, rfl⟩)
  | some found =>
    obtain ⟨attemptId, attempt⟩ := found
    obtain ⟨hpending, -⟩ := findPendingAttempt_some hfind
    refine .tx (fun _ db' h => .ret (.inr ⟨attemptId, attempt, rfl, resolveAttempt_run h⟩))
      fun e h => ?_
    rw [resolveAttempt, run_updateExisting hpending.1] at h
    cases h

/-- A transition other than to `delivered` moves the delivery and its order, and returns; or it
changes nothing. -/
theorem handleTransition_ends {currentUser : AuthenticatedUser} {input : RiderDeliveryActionInput}
    {config : RiderDeliveryTransitionConfig} (hdelivered : config.targetOrderStatus ≠ .delivered)
    (hof : ∀ delivery, (config.buildDeliveryUpdate delivery).orderId = delivery.orderId)
    (hreload : config.reloadUnscoped = true ∨
      ∀ delivery, (config.buildDeliveryUpdate delivery).riderId = delivery.riderId) :
    (handleTransition currentUser input config).Ends db fun r db' => db' = db ∨
      ∃ riderId record order, currentUser.riderId = some riderId ∧
        findRiderDeliveryById db input.deliveryId riderId = some record ∧
        (∃ reloaded, r = .ok reloaded) ∧ db' = moved db input.deliveryId record.delivery.orderId
          (config.buildDeliveryUpdate record.delivery) order := by
  refine .orFail_bind (fun riderId hrider => .get_bind (.orFail_bind (fun record hrecord => ?_)
    fun _ => .inl rfl)) fun _ => .inl rfl
  have hfind := find_of_findRiderDeliveryById hrecord
  obtain ⟨hid, -⟩ := get_of_findById hfind
  split
  · exact .ret (.inl rfl)
  refine .require_bind (fun _ => ?_) fun _ => .inl rfl
  refine .bind (.mono (Q := fun _ db' => db' = db) ?_ ?_)
  · unfold riderReasonCode
    split
    · split
      · exact .ret rfl
      · exact .throw rfl
    · exact .ret rfl
  rintro (e | reasonCode) db' rfl
  · exact .inl rfl
  refine .transaction_bind (fun u db₁ h => .get_bind ?_) fun _ _ => .inl rfl
  obtain ⟨u', db₂, hmove, hnothing⟩ := run_bind_ok h
  cases hnothing
  rw [← hid] at hfind
  obtain ⟨order, -, -, -, rfl⟩ := moveDelivery_run hfind hmove
  rw [hid]
  -- the delivery just written is found again
  change (Service.orFail (if config.reloadUnscoped = true then
      findById (moved db' input.deliveryId record.delivery.orderId _ _) input.deliveryId
    else findRiderDeliveryById (moved db' input.deliveryId record.delivery.orderId _ _)
      input.deliveryId riderId) _ : StoreService _).Ends _ _
  have hreloaded : ∀ o : Order, findById (moved db' input.deliveryId record.delivery.orderId
      (config.buildDeliveryUpdate record.delivery) o) input.deliveryId =
        some ⟨input.deliveryId, config.buildDeliveryUpdate record.delivery, o.status⟩ := by
    intro o
    simp only [findById, moved_delivery, moved_order, if_true, Option.bind_eq_bind,
      Option.bind_some, hof, Option.pure_def]
  refine .orFail (fun reloaded _ => .inr ⟨riderId, record, _, hrider, hrecord, ⟨reloaded, rfl⟩,
    rfl⟩) fun hnone => ?_
  have hscope : record.delivery.riderId = some riderId :=
    eq_of_beq (Option.filter_eq_some_iff.mp hrecord).2
  split at hnone
  · cases hnone.symm.trans (hreloaded _)
  · next hscoped =>
    rw [findRiderDeliveryById, hreloaded] at hnone
    simp [hreload.resolve_left hscoped, hscope] at hnone

/-- What a rider answers closes the offer. -/
theorem answerRequest_affects {s : DispatchRun} {currentUser : AuthenticatedUser}
    {input : RiderDeliveryActionInput} {config : RiderDeliveryTransitionConfig}
    {outcomeCode : DispatchOutcomeCode} (hdelivered : config.targetOrderStatus ≠ .delivered)
    (hof : ∀ delivery, (config.buildDeliveryUpdate delivery).orderId = delivery.orderId)
    (hreload : config.reloadUnscoped = true ∨
      ∀ delivery, (config.buildDeliveryUpdate delivery).riderId = delivery.riderId)
    (hcode : outcomeCode ≠ .pending) (h : s.Offers) {made : Option Id} :
    (answerRequest currentUser input config outcomeCode).Ends s.db fun _ db' =>
      ∃ orderId, Affects orderId made s.db db' := by
  refine .orFail_bind (fun riderId hrider => .get_bind (.bind
    ((handleTransition_ends hdelivered hof hreload).mono ?_))) fun _ => ⟨0, .refl _⟩
  rintro r db' (rfl | ⟨riderId', record, order, hrider', hrecord, ⟨reloaded, rfl⟩, rfl⟩)
  · cases r with
    | error e => exact ⟨0, .refl _⟩
    | ok reloaded =>
      cases hrecord : findRiderDeliveryById s.db input.deliveryId riderId with
      | none => exact .ret ⟨0, .refl _⟩
      | some record =>
        refine (resolveDispatchAttempt_ends _ _ _).mono fun _ db' hresolved => ?_
        rcases hresolved with ⟨-, rfl⟩ | ⟨attemptId, attempt, -, rfl⟩
        · exact ⟨0, .refl _⟩
        · exact ⟨attempt.orderId, resolved_affects hcode⟩
  · obtain rfl : riderId' = riderId := Option.some.inj (hrider'.symm.trans hrider)
    obtain ⟨-, hdelivery, -⟩ := get_of_findById (find_of_findRiderDeliveryById hrecord)
    have hscope : record.delivery.riderId = some riderId' :=
      eq_of_beq (Option.filter_eq_some_iff.mp hrecord).2
    have hwithin : Within record.delivery.orderId s.db (moved s.db input.deliveryId
        record.delivery.orderId (config.buildDeliveryUpdate record.delivery) order) :=
      moved_within (hof _) (.inl ⟨_, hdelivery, rfl⟩)
    -- a pending attempt at the order is one made to this rider
    have hown : ∀ i attempt, Pending s.db i attempt →
        attempt.orderId = record.delivery.orderId → attempt.riderId = riderId' := by
      intro i attempt hpending hsame
      obtain ⟨-, -, j, hassigned⟩ := h.assigned i attempt hpending
      obtain rfl := h.unique _ _ _ _ hassigned hdelivery hsame
      have hrow := Option.some.inj (hassigned.symm.trans hdelivery)
      rw [← hrow] at hscope
      exact Option.some.inj hscope
    rw [hrecord]
    refine (resolveDispatchAttempt_ends _ _ _).mono fun _ db' hresolved =>
      ⟨record.delivery.orderId, ?_⟩
    rcases hresolved with ⟨hnone, rfl⟩ | ⟨attemptId, attempt, hfound, rfl⟩
    · refine ⟨hwithin, .closed fun i attempt hpending hsame => ?_⟩
      rw [← hsame, ← hown i attempt (pending_moved.mp hpending) hsame] at hnone
      exact findPendingAttempt_none hnone hpending
    · refine ⟨hwithin.trans (resolved_within hcode), .closed fun i a hpending hsame => ?_⟩
      obtain ⟨hpending', hne⟩ := (pending_resolved hcode).mp hpending
      obtain ⟨hfirst, hsame'⟩ := findPendingAttempt_some hfound
      have hunder := (h.assigned _ _ (pending_moved.mp hpending')).1
      have hunder' := (h.assigned _ _ (pending_moved.mp hfirst)).1
      rw [hsame', ← hsame, hunder] at hunder'
      exact hne (Option.some.inj hunder')

theorem NoneOffered.moved {deliveryId orderId : Id} {delivery : Delivery} {order : Order}
    (h : NoneOffered db orderId) :
    NoneOffered (moved db deliveryId orderId delivery order) orderId :=
  fun i attempt hpending => h i attempt (pending_moved.mp hpending)

theorem cancelCurrentRiderDelivery_affects {currentUser : AuthenticatedUser}
    {input : RiderDeliveryActionInput} {made : Option Id}
    (hcloses : ∀ record, findById db input.deliveryId = some record →
      canRiderCancelPrePickup currentUser record = true → NoneOffered db record.delivery.orderId) :
    (cancelCurrentRiderDelivery currentUser input).Ends db fun _ db' =>
      ∃ orderId, Affects orderId made db db' := by
  refine .orFail_bind (fun riderId _ => .get_bind (.orFail_bind (fun record hrecord => ?_)
    fun _ => ⟨0, .refl db⟩)) fun _ => ⟨0, .refl db⟩
  have hfind := find_of_findRiderDeliveryById hrecord
  obtain ⟨hid, hdelivery, -⟩ := get_of_findById hfind
  refine .require_bind (fun hallowed => .transaction (fun u db' h => ?_) fun _ _ => ⟨0, .refl db⟩)
    fun _ => ⟨0, .refl db⟩
  have hnone := hcloses record hfind hallowed
  rw [← hid] at hfind
  obtain ⟨order, -, -, -, rfl⟩ := moveDelivery_run hfind h
  rw [hid]
  exact ⟨record.delivery.orderId, moved_within rfl (.inl ⟨_, hdelivery, rfl⟩), .closed hnone.moved⟩

end Riders

section Dispatch

variable {db : Store} {orderId : Id}

theorem assigned_within {deliveryId riderId : Id} {order : Order}
    (hdelivery : (∃ delivery, findByOrderId db orderId = some (deliveryId, delivery)) ∨
      findByOrderId db orderId = none ∧ db.get (.delivery, deliveryId) = none) :
    Within orderId db (moved db deliveryId orderId ⟨orderId, some riderId, .assigned⟩ order) := by
  refine moved_within rfl ?_
  rcases hdelivery with ⟨delivery, hfind⟩ | ⟨hnone, hnew⟩
  · exact .inl ⟨delivery, get_of_findByOrderId hfind⟩
  · exact .inr ⟨hnew, fun i d => findByOrderId_eq_none hnone⟩

theorem assignRiderToOrder_affects {newDeliveryId riderId : Id} {currentUser : AuthenticatedUser}
    {reasonCode note : Option String} {made : Option Id}
    (hcloses : ∀ record rider, findOrderDetailById db orderId = some record →
      canAdminAssignRider currentUser record = true →
      ¬ (record.order.status = .riderAssigned ∧
        (record.delivery.bind fun d => d.2.riderId) = some riderId) →
      db.get (.rider, riderId) = some rider →
      RidersRepository.isDispatchEligibleRider db rider riderId = true → NoneOffered db orderId) :
    (assignRiderToOrder newDeliveryId currentUser orderId riderId reasonCode note).Ends db
      fun _ db' => ∃ orderId, Affects orderId made db db' := by
  refine .require_bind (fun _ => .get_bind (.orFail_bind (fun record hrecord => ?_)
    fun _ => ⟨0, .refl db⟩)) fun _ => ⟨0, .refl db⟩
  split
  · exact .ret ⟨0, .refl db⟩
  next hother =>
  refine .require_bind (fun hcan => .get_bind (.orFail_bind (fun eligible heligible => ?_)
    fun _ => ⟨0, .refl db⟩)) fun _ => ⟨0, .refl db⟩
  refine .require_bind (fun htrue => .transaction (fun u db' h => ?_) fun _ _ => ⟨0, .refl db⟩)
    fun _ => ⟨0, .refl db⟩
  obtain ⟨rider, hrider, rfl⟩ := Option.map_eq_some_iff.mp heligible
  obtain ⟨deliveryId, order, hdelivery, -, rfl⟩ := assignDelivery_run h
  have hnone : NoneOffered db orderId := hcloses record rider hrecord hcan hother hrider htrue
  exact ⟨orderId, assigned_within hdelivery, .closed hnone.moved⟩

/-- The rider's lock is taken, and the order and its delivery are written. -/
theorem autoAssign_run {newDeliveryId riderId : Id} {db' : Store} {u : Unit}
    (h : (autoAssign newDeliveryId orderId riderId).run db = .ok (u, db')) :
    ∃ deliveryId order, order.status = .riderAssigned ∧ Within orderId db db' ∧
      db' = moved (db.put ⟨.advisoryLock, riderId, some ()⟩) deliveryId orderId
        ⟨orderId, some riderId, .assigned⟩ order := by
  obtain ⟨_, db₁, hlock, hrest⟩ := run_bind_ok h
  cases hlock
  obtain ⟨-, hassign⟩ := run_require_bind_ok (run_read_bind_ok hrest)
  obtain ⟨deliveryId, order, hdelivery, -, rfl⟩ := assignDelivery_run hassign
  have hlocked : ∀ k : Key Tbl, k.1 ≠ .advisoryLock →
      (db.put ⟨.advisoryLock, riderId, some ()⟩).get k = db.get k :=
    fun k hk => Db.get_put_ne _ fun hkey => hk (congrArg Prod.fst hkey)
  have hwithin : Within orderId db (db.put ⟨.advisoryLock, riderId, some ()⟩) := by
    refine .of_get (fun i _ => hlocked (.order, i) (by simp))
      (fun i => hlocked (.delivery, i) (by simp)) fun i a _ hpending => ?_
    rw [Pending, hlocked (.orderDispatchAttempt, i) (by simp)] at hpending
    exact hpending
  exact ⟨deliveryId, _, rfl, hwithin.trans (assigned_within hdelivery), rfl⟩

/-- An offer of an order that no one is offered. -/
theorem assignAndNotify_affects {ids : AssignmentIds} {riderId : Id} (hnone : NoneOffered db orderId) :
    (assignAndNotify ids orderId riderId).Ends db fun _ db' =>
      Affects orderId (some ids.attemptId) db db' := by
  refine .transaction_bind (fun _ db₁ hcreate => ?_) fun _ _ => .refl db
  obtain ⟨hfresh, rfl⟩ := run_insertRow_ok hcreate
  have hnew : db.get (.orderDispatchAttempt, ids.attemptId) = none := by
    by_contra hsome
    simp [Option.isSome_iff_ne_none.mpr hsome] at hfresh
  obtain ⟨attempt, hattempt⟩ : ∃ attempt : OrderDispatchAttempt,
      attempt = ⟨orderId, riderId, .pending, ids.assignedAt⟩ := ⟨_, rfl⟩
  rw [← hattempt]
  have hself : (db.put ⟨.orderDispatchAttempt, ids.attemptId, some attempt⟩).get
      (.orderDispatchAttempt, ids.attemptId) = some attempt := Db.get_put_self ..
  have hother : ∀ k : Key Tbl, k ≠ (.orderDispatchAttempt, ids.attemptId) →
      (db.put ⟨.orderDispatchAttempt, ids.attemptId, some attempt⟩).get k = db.get k :=
    fun k hk => Db.get_put_ne _ hk
  have hpending : ∀ i a, Pending (db.put ⟨.orderDispatchAttempt, ids.attemptId, some attempt⟩) i a →
      i ≠ ids.attemptId → Pending db i a := by
    intro i a hpending hi
    rw [Pending, hother (.orderDispatchAttempt, i) fun hkey => hi (congrArg Prod.snd hkey)] at hpending
    exact hpending
  have hwithin : Within orderId db (db.put ⟨.orderDispatchAttempt, ids.attemptId, some attempt⟩) := by
    refine .of_get (fun i _ => hother (.order, i) (by simp))
      (fun i => hother (.delivery, i) (by simp)) fun i a ha h => hpending i a h ?_
    rintro rfl
    obtain rfl := Option.some.inj (hself.symm.trans h.1)
    exact ha (congrArg OrderDispatchAttempt.orderId hattempt)
  refine .tx (fun _ db₂ hassign => .ret ?_) fun _ _ => .tx (fun _ db₂ hresolve => .ret ?_)
    fun _ hfailed => ?_
  · obtain ⟨deliveryId, order, hstatus, hwithin', rfl⟩ := autoAssign_run hassign
    have hlocked : ∀ i a, Pending (moved ((db.put ⟨.orderDispatchAttempt, ids.attemptId,
        some attempt⟩).put ⟨.advisoryLock, riderId, some ()⟩) deliveryId orderId
          ⟨orderId, some riderId, .assigned⟩ order) i a ↔
        Pending (db.put ⟨.orderDispatchAttempt, ids.attemptId, some attempt⟩) i a := by
      intro i a
      rw [pending_moved, Pending, Pending, Db.get_put_ne _ fun hkey => by cases hkey]
    refine ⟨hwithin.trans hwithin', .offered rfl hnew ((hlocked _ _).mpr ⟨hself, ?_⟩) ?_ ?_
      (by rw [moved_order, if_pos rfl]) hstatus (by rw [moved_delivery, if_pos rfl, hattempt])⟩
    · rw [hattempt]
    · rw [hattempt]
    · intro i a h hsame
      by_contra hi
      exact hnone i a (hpending i a ((hlocked i a).mp h) hi) hsame
  · obtain rfl := resolveAttempt_run hresolve
    refine ⟨hwithin.trans (resolved_within (by simp)), .kept ?_ (fun i => ?_) fun i a h => ?_⟩
    · rw [get_resolved (by simp), hother _ (by simp)]
    · rw [get_resolved (by simp), hother _ (by simp)]
    · obtain ⟨h', hi⟩ := (pending_resolved (by simp)).mp h
      exact hpending i a h' hi
  · rw [resolveAttempt, run_updateExisting hself] at hfailed
    cases hfailed

/-- A change of an order's status leaves alone what holds no stock. -/
theorem orderChanged_get {payload : UpdateOrderStatusInput} {d : Amounts} {db' : Store}
    (h : OrderChanged (fun k => (db.get k).isSome) orderId payload d db db') {k : Key Tbl}
    (hk : k ≠ (.order, orderId)) (hamend : ∀ r, amend restock (d k) k r = r) :
    db'.get k = db.get k := by
  cases hrow : db.get k with
  | none => rw [← Option.not_isSome_iff_eq_none, h.isSome, hrow]; simp
  | some r => rw [h.rows k hk (by rw [hrow]; rfl), hrow, Option.map_some, hamend]

theorem orderChanged_dispatch {payload : UpdateOrderStatusInput} {d : Amounts} {db' : Store}
    (h : OrderChanged (fun k => (db.get k).isSome) orderId payload d db db') :
    (∀ i, db'.get (.orderDispatchAttempt, i) = db.get (.orderDispatchAttempt, i)) ∧
      ∀ i, db'.get (.delivery, i) = db.get (.delivery, i) := by
  refine ⟨fun i => orderChanged_get h (by simp) fun r => ?_,
    fun i => orderChanged_get h (by simp) fun r => ?_⟩
  · cases d (.orderDispatchAttempt, i) <;> rfl
  · cases d (.delivery, i) <;> rfl

/-- A change of an order's status alone. -/
theorem orderChanged_within {payload : UpdateOrderStatusInput} {d : Amounts} {db' : Store}
    (h : OrderChanged (fun k => (db.get k).isSome) orderId payload d db db') :
    Within orderId db db' ∧ ∀ i attempt, Pending db' i attempt → Pending db i attempt := by
  obtain ⟨hattempt, hdelivery⟩ := orderChanged_dispatch h
  have hpending : ∀ i attempt, Pending db' i attempt → Pending db i attempt := by
    intro i a hpending
    rw [Pending, hattempt] at hpending
    exact hpending
  exact ⟨.of_get (fun i hi => orderChanged_get h (fun hkey => hi (congrArg Prod.snd hkey))
    fun r => amend_restock_order _ i r) hdelivery fun i a _ => hpending i a, hpending⟩

theorem dispatchNext_affects {ids : AssignmentIds} {township : Option String}
    (hnone : NoneOffered db orderId) : (dispatchNext ids orderId township).Ends db fun _ db' =>
      Affects orderId (some ids.attemptId) db db' := by
  refine .get_bind ?_
  split
  · refine .get_bind ?_
    cases hrecord : findOrderDetailById db orderId with
    | none => exact .ret (.refl db)
    | some record =>
      obtain ⟨-, rfl⟩ := get_of_findOrderDetailById hrecord
      dsimp only
      split
      · exact .ret (.refl db)
      · refine .transaction (fun u db' h => ?_) fun _ _ => .refl db
        obtain ⟨hwithin, hattempt⟩ := orderChanged_within (changeOrderStatus_run hrecord rfl h)
        exact ⟨hwithin, .closed fun i a hpending => hnone i a (hattempt i a hpending)⟩
  · refine .get_bind (.bind ((pickEligibleRider_ends _ _).mono ?_))
    rintro (e | rider) db' rfl
    · exact .refl db'
    · cases rider with
      | none => exact .ret (.refl db')
      | some riderId => exact assignAndNotify_affects hnone

/-- What is done to an order after the attempts at it were closed. -/
theorem Affects.after_closed {made : Option Id} {db₁ db' : Store} (hwithin : Within orderId db db₁)
    (hnone : NoneOffered db₁ orderId)
    (hids : ∀ i, db₁.get (.orderDispatchAttempt, i) = none →
      db.get (.orderDispatchAttempt, i) = none)
    (h : Affects orderId made db₁ db') : Affects orderId made db db' := by
  obtain ⟨hwithin', heffect⟩ := h
  refine ⟨hwithin.trans hwithin', ?_⟩
  cases heffect with
  | kept _ _ hattempt => exact .closed fun i a hpending => hnone i a (hattempt i a hpending)
  | closed hnone' => exact .closed hnone'
  | offered hmade hnew hpending hof honly horder hstatus hdelivery =>
    exact .offered hmade (hids _ hnew) hpending hof honly horder hstatus hdelivery

theorem DispatchRun.Offers.noneOffered {s : DispatchRun} (h : s.Offers) {order : Order}
    (horder : s.db.get (.order, orderId) = some order) (hstatus : order.status ≠ .riderAssigned) :
    NoneOffered s.db orderId := by
  rintro i attempt hpending rfl
  obtain ⟨-, ⟨order', horder', hstatus'⟩, -⟩ := h.assigned i attempt hpending
  obtain rfl := Option.some.inj (horder'.symm.trans horder)
  exact hstatus hstatus'

theorem handleAutoDispatchOrder_affects {s : DispatchRun} (h : s.Offers) (ids : AssignmentIds)
    (orderId : Id) : (handleAutoDispatchOrder ids orderId).Ends s.db fun _ db' =>
      ∃ orderId, Affects orderId (some ids.attemptId) s.db db' := by
  refine .get_bind ?_
  cases hfind : findOrderToDispatch s.db orderId with
  | none => exact .ret ⟨0, .refl _⟩
  | some order =>
    obtain ⟨horder, hready⟩ := Option.filter_eq_some_iff.mp hfind
    simp only [Bool.and_eq_true, beq_iff_eq] at hready
    exact (dispatchNext_affects (h.noneOffered horder (by simp [hready.1.1]))).mono
      fun _ _ haffects => ⟨orderId, haffects⟩

theorem handleAutoDispatchForRider_affects {s : DispatchRun} (h : s.Offers) (ids : AssignmentIds)
    (riderId : Id) (township : Option String) :
    (handleAutoDispatchForRider ids riderId township).Ends s.db fun _ db' =>
      ∃ orderId, Affects orderId (some ids.attemptId) s.db db' := by
  have hassign : ∀ (township' : Option String) (order : Id × Order) (orders : List (Id × Order)),
      findReadyOrdersWithoutRider s.db township' 1 = order :: orders →
      (assignAndNotify ids order.1 riderId).Ends s.db fun _ db' =>
        ∃ orderId, Affects orderId (some ids.attemptId) s.db db' := by
    intro township' order orders hfind
    obtain ⟨horder, hstatus, -⟩ :=
      mem_findReadyOrdersWithoutRider (hfind ▸ List.mem_cons_self : order ∈ _)
    exact (assignAndNotify_affects (h.noneOffered horder (by simp [hstatus]))).mono
      fun _ _ haffects => ⟨order.1, haffects⟩
  refine .get_bind ?_
  split
  · exact .ret ⟨0, .refl _⟩
  · refine .get_bind ?_
    cases hfind : findReadyOrdersWithoutRider s.db township 1 with
    | cons order orders => exact hassign township order orders hfind
    | nil =>
      refine .get_bind ?_
      cases hfallback : findReadyOrdersWithoutRider s.db none 1 with
      | cons order orders => exact hassign none order orders hfallback
      | nil => exact .ret ⟨0, .refl _⟩

theorem handleRiderDispatchTimeout_affects {s : DispatchRun} (h : s.Offers) (ids : AssignmentIds)
    {attemptId : Id} (hjob : ∀ attempt,
      s.db.get (.orderDispatchAttempt, attemptId) = some attempt → attempt.orderId = orderId) :
    (handleRiderDispatchTimeout ids orderId attemptId).Ends s.db fun _ db' =>
      Affects orderId (some ids.attemptId) s.db db' := by
  refine .get_bind ?_
  split
  · exact .ret (.refl _)
  next hpending =>
  obtain ⟨attempt, hattempt⟩ : ∃ attempt, Pending s.db attemptId attempt := by
    rw [Option.all_eq_true, not_forall] at hpending
    obtain ⟨attempt, hattempt⟩ := hpending
    simp only [bne_iff_ne, ne_eq, Classical.not_imp, not_not] at hattempt
    exact ⟨attempt, hattempt⟩
  have hof := hjob attempt hattempt.1
  refine .transaction_bind (fun _ db₁ hresolve => .get_bind ?_) fun _ _ => .refl _
  obtain rfl := resolveAttempt_run hresolve
  -- the attempt was the only one pending at the order
  have hnone : NoneOffered (resolved s.db attemptId .timeout) orderId := by
    intro i a hpending' hsame
    obtain ⟨hpending', hi⟩ := (pending_resolved (by simp)).mp hpending'
    have hunder := (h.assigned _ _ hattempt).1
    rw [hof, ← hsame, (h.assigned _ _ hpending').1] at hunder
    exact hi (Option.some.inj hunder)
  have hids : ∀ i, (resolved s.db attemptId .timeout).get (.orderDispatchAttempt, i) = none →
      s.db.get (.orderDispatchAttempt, i) = none := by
    intro i hi
    have hput : resolved s.db attemptId .timeout = s.db.put ⟨.orderDispatchAttempt, attemptId,
        some { attempt with outcomeCode := .timeout }⟩ := by rw [resolved, hattempt.1]
    by_contra hsome
    rw [hput, ← Option.not_isSome_iff_eq_none] at hi
    exact hi (Db.isSome_put _ (Option.isSome_iff_ne_none.mpr hsome))
  have hwithin : Within orderId s.db (resolved s.db attemptId .timeout) := resolved_within (by simp)
  cases hfind : findAssignedOrder (resolved s.db attemptId .timeout) orderId with
  | none => exact .ret ⟨hwithin, .closed hnone⟩
  | some found =>
    obtain ⟨order, deliveryId⟩ := found
    obtain ⟨horder, -, delivery, hdelivery, hof', -⟩ := findAssignedOrder_some hfind
    refine .transaction_bind (fun _ db₂ hreset => ?_) fun _ _ => ⟨hwithin, .closed hnone⟩
    obtain rfl := resetAssignment_run horder hdelivery hreset
    have hreset : Within orderId (resolved s.db attemptId .timeout)
        (moved (resolved s.db attemptId .timeout) deliveryId orderId
          { delivery with riderId := none, status := .pendingAssignment } (order.changeStatus
            ⟨.merchantAccepted, .riderAssigned, some "rider_dispatch_timeout", none⟩)) :=
      moved_within hof' (.inl ⟨delivery, hdelivery, hof'⟩)
    refine (dispatchNext_affects hnone.moved).mono fun _ db' haffects =>
      haffects.after_closed (hwithin.trans hreset) hnone.moved fun i hi => hids i ?_
    rwa [moved_other (by simp) (by simp)] at hi

/-- Whatever one of the operations does, it does to one order. -/
theorem OrderCall.affects {call : OrderCall} {s : DispatchRun} (h : s.Offers)
    (hdispatches : call.Dispatches s) (hcloses : call.ClosesOffer s) :
    ∃ orderId, Affects orderId call.attemptId s.db (call.run s.db) := by
  refine Service.Ends.run (Q := fun _ db' => ∃ orderId, Affects orderId call.attemptId s.db db') ?_
  cases call with
  | rider action currentUser input =>
    rcases hdispatches with rfl | rfl | rfl
    · exact answerRequest_affects (by simp [acceptRequestConfig]) (fun _ => rfl)
        (.inr fun _ => rfl) (by simp) h
    · exact answerRequest_affects (by simp [rejectRequestConfig]) (fun _ => rfl) (.inl rfl)
        (by simp) h
    · exact cancelCurrentRiderDelivery_affects hcloses
  | assignRider newDeliveryId currentUser orderId riderId reasonCode note =>
    exact assignRiderToOrder_affects hcloses
  | autoDispatchOrder ids orderId => exact handleAutoDispatchOrder_affects h ids orderId
  | autoDispatchForRider ids riderId township =>
    exact handleAutoDispatchForRider_affects h ids riderId township
  | dispatchTimeout ids orderId attemptId =>
    exact (handleRiderDispatchTimeout_affects h ids hdispatches).mono
      fun _ _ haffects => ⟨orderId, haffects⟩
  | _ => exact hdispatches.elim

/-- The timeout of an attempt that has its outcome already does nothing. -/
theorem handleRiderDispatchTimeout_of_not_pending {ids : AssignmentIds} {attemptId : Id}
    (h : ∀ attempt, ¬ Pending db attemptId attempt) :
    (handleRiderDispatchTimeout ids orderId attemptId).Ends db fun _ db' => db' = db := by
  refine .get_bind ?_
  split
  · exact .ret rfl
  · next hpending =>
    rw [Option.all_eq_true, not_forall] at hpending
    obtain ⟨attempt, hattempt⟩ := hpending
    simp only [bne_iff_ne, ne_eq, Classical.not_imp, not_not] at hattempt
    exact absurd hattempt (h attempt)

/-- While every pending attempt is the one its order is assigned under, a timeout hits only the
rider of its attempt. -/
theorem DispatchRun.Offers.hitsOwnRider {s : DispatchRun} (h : s.Offers) {call : OrderCall}
    (hdispatches : call.Dispatches s) : call.HitsOwnRider s := by
  cases call with
  | dispatchTimeout ids orderId attemptId =>
    rintro ⟨k, -, hchanged⟩
    by_cases hpending : ∃ attempt, Pending s.db attemptId attempt
    · obtain ⟨attempt, hattempt⟩ := hpending
      obtain rfl := hdispatches attempt hattempt.1
      obtain ⟨hunder, -, deliveryId, hdelivery⟩ := h.assigned attemptId attempt hattempt
      exact ⟨attempt, deliveryId, hattempt.1, (findByOrderId_iff h.unique).mpr ⟨hdelivery, rfl⟩,
        hunder⟩
    · have hnothing : (handleRiderDispatchTimeout ids orderId attemptId).Ends s.db
          fun _ db' => db' = s.db :=
        handleRiderDispatchTimeout_of_not_pending (not_exists.mp hpending)
      have hsame : OrderCall.run (.dispatchTimeout ids orderId attemptId) s.db = s.db := hnothing.run
      exact absurd (by rw [hsame]) hchanged
  | _ => exact True.intro

end Dispatch

/-! ## A timeout hits its own rider -/

/-- In every run in which offers are closed as they should be, a dispatch timeout changes an order
or a delivery only while the delivery is assigned to the rider of the attempt under that very
attempt. -/
theorem timeout_hits_own_rider {db : Store} (hunique : DeliveriesUnique db)
    (hnone : ∀ attemptId attempt, ¬ Pending db attemptId attempt) (cs : List OrderCall)
    (hdispatches : MeetAll OrderCall.track OrderCall.Dispatches cs ⟨db, fun _ => none⟩)
    (hcloses : MeetAll OrderCall.track OrderCall.ClosesOffer cs ⟨db, fun _ => none⟩) :
    MeetAll OrderCall.track OrderCall.HitsOwnRider cs ⟨db, fun _ => none⟩ := by
  refine MeetAll.of_inv (J := DispatchRun.Offers) (fun call s hoffers hcall hok => ?_)
    (fun call s hoffers hcall => hoffers.hitsOwnRider hcall) cs
    ⟨hunique, fun attemptId attempt hpending => absurd hpending (hnone attemptId attempt)⟩
    hdispatches hcloses
  obtain ⟨orderId, haffects⟩ := OrderCall.affects hoffers hcall hok
  exact hoffers.track haffects

/-- The sample shop with an accepted order and two riders who are free. -/
def twoRiderShop : Store := riderShop.apply [
  ⟨.user, 41, some { status := .active, role := .rider }⟩,
  ⟨.rider, 2, some { userId := 41, currentTownship := none, status := .active }⟩,
  ⟨.riderAvailability, 2, some { isOnline := true, isAvailable := true, lastStatusChangedAt := 1 }⟩,
  ⟨.order, 1, some { teaOrder with status := .merchantAccepted }⟩]

def teaRider : AuthenticatedUser where
  userId := 40
  role := .rider
  merchantId := none
  customerProfileId := none
  riderId := some 1

theorem twoRiderShop_fresh : DeliveriesUnique twoRiderShop ∧
    ∀ attemptId attempt, ¬ Pending twoRiderShop attemptId attempt := by
  have hempty : twoRiderShop.list .delivery (fun _ => true) = [] ∧
      twoRiderShop.list .orderDispatchAttempt (fun _ => true) = [] := by decide
  refine ⟨fun i j delivery delivery' hi _ _ => ?_, fun i attempt hpending => ?_⟩
  · have hmem := Db.mem_list (p := fun _ => true) |>.mpr ⟨hi, rfl⟩
    rw [hempty.1] at hmem
    cases hmem
  · have hmem := Db.mem_list (p := fun _ => true) |>.mpr ⟨hpending.1, rfl⟩
    rw [hempty.2] at hmem
    cases hmem

/-- A rider is offered the order and gives it up, the administrator gives it to another, and then
the first offer times out. -/
def staleTimeout : List OrderCall := [
  .autoDispatchOrder ⟨1, 1, 0⟩ 1,
  .rider .cancel teaRider ⟨1, none, none⟩,
  .assignRider 2 teaAdmin 1 2 none none,
  .dispatchTimeout ⟨2, 2, 100⟩ 1 1]

/-- The timeout of the first rider's offer takes the order from the second. -/
theorem timeout_hits_other_rider :
    (DeliveriesUnique twoRiderShop ∧ ∀ attemptId attempt, ¬ Pending twoRiderShop attemptId attempt) ∧
      MeetAll OrderCall.track OrderCall.Dispatches staleTimeout ⟨twoRiderShop, fun _ => none⟩ ∧
      ¬ MeetAll OrderCall.track OrderCall.HitsOwnRider staleTimeout
        ⟨twoRiderShop, fun _ => none⟩ := by
  have hattempt : ∀ attempt ∈ (runAll OrderCall.run (staleTimeout.take 3) twoRiderShop).get
      (.orderDispatchAttempt, 1), attempt.orderId = 1 := by decide
  refine ⟨twoRiderShop_fresh, ⟨True.intro, .inr (.inr rfl), True.intro, hattempt, True.intro⟩, ?_⟩
  rintro ⟨-, -, -, hhits, -⟩
  have hchanged : (runAll OrderCall.run staleTimeout twoRiderShop).get (.order, 1) ≠
      (runAll OrderCall.run (staleTimeout.take 3) twoRiderShop).get (.order, 1) := by decide
  have hother : ∀ attempt ∈ (runAll OrderCall.run (staleTimeout.take 3) twoRiderShop).get
      (.orderDispatchAttempt, 1), ∀ delivery ∈ findByOrderId
        (runAll OrderCall.run (staleTimeout.take 3) twoRiderShop) 1,
          delivery.2.riderId ≠ some attempt.riderId := by decide
  obtain ⟨attempt, deliveryId, hget, hfind, -⟩ := hhits ⟨(.order, 1), .inl rfl, hchanged⟩
  exact hother attempt hget _ hfind rfl

/-- A timeout that takes the order back from the rider it was offered to, delivered twice. -/
theorem timeout_hits_own_rider_twice :
    MeetAll OrderCall.track OrderCall.HitsOwnRider [.autoDispatchOrder ⟨1, 1, 0⟩ 1,
      .dispatchTimeout ⟨2, 2, 100⟩ 1 1, .dispatchTimeout ⟨3, 3, 101⟩ 1 1]
        ⟨twoRiderShop, fun _ => none⟩ := by
  have hfirst : ∀ attempt ∈ (runAll OrderCall.run [.autoDispatchOrder ⟨1, 1, 0⟩ 1]
      twoRiderShop).get (.orderDispatchAttempt, 1), attempt.orderId = 1 := by decide
  have hsecond : ∀ attempt ∈ (runAll OrderCall.run [.autoDispatchOrder ⟨1, 1, 0⟩ 1,
      .dispatchTimeout ⟨2, 2, 100⟩ 1 1] twoRiderShop).get (.orderDispatchAttempt, 1),
        attempt.orderId = 1 := by decide
  exact timeout_hits_own_rider twoRiderShop_fresh.1 twoRiderShop_fresh.2 _
    ⟨True.intro, hfirst, hsecond, True.intro⟩ ⟨True.intro, True.intro, True.intro, True.intro⟩

end WerTe
