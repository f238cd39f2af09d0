import WerTe.DispatchTimeouts
import WerTe.ReadCommitted.Frame

/-!
# Who is asked again

An order is offered to riders from two sides: for the order, when it is accepted or an offer of it
times out, and for a rider who comes online. Only the first side looks at the attempts made so far;
the second takes nothing but orders that never had a delivery. A delivery stays when its rider is
taken away, and an attempt that reaches its rider makes one, so the second side never meets an
order that anyone was asked about (`Dispatched`). No one who turned an order down is asked again,
and nothing is offered after three refusals (`auto_dispatch_never_repeats`).
-/

namespace WerTe

open ReadCommitted OrdersRepository DeliveriesRepository DispatchRepository Tx

/-! ## Riders go online and offline -/

/-- `ErrorCodes` of accounts that may not be used. -/
def accountError (message code : String) : Failure := .app ⟨message, .forbidden, some code, []⟩

namespace RiderAvailabilityService

/-- `riderPolicyService.canAccessRider`. -/
def canAccessRider (currentUser : AuthenticatedUser) (riderId : Id) (rider : Rider) : Bool :=
  hasOwnedResourceAccess currentUser .rider rider.userId riderId currentUser.riderId

/-- The caller's rider: the one of its token, or else the one of its user. -/
def findCurrentRider (db : Store) (currentUser : AuthenticatedUser) : Option (Id × Rider) :=
  match currentUser.riderId with
  | some riderId => ((db.get (.rider, riderId)).filter fun rider =>
      rider.userId == currentUser.userId).map fun rider => (riderId, rider)
  | none => (db.list .rider fun rider => rider.userId == currentUser.userId).head?

def resolveOwnedRider (currentUser : AuthenticatedUser) : StoreService (Id × Rider) := do
  let found ← .get fun db => findCurrentRider db currentUser
  let rider ← .orFail found
    (fail "Rider profile was not found for the authenticated user." .notFound)
  .require (rider.2.status ≠ .pending)
    (accountError "Your rider account is pending admin approval." "ACCOUNT_PENDING")
  .require (rider.2.status ≠ .suspended)
    (accountError "Your rider account has been suspended." "ACCOUNT_SUSPENDED")
  .require (canAccessRider currentUser rider.1 rider.2 = true)
    (fail "You are not allowed to access this rider profile." .forbidden)
  pure rider

/-- The rider's availability is written, or created. -/
def upsertAvailability (riderId : Id) (availability : RiderAvailability) : StoreTx Unit :=
  .attempt fun db =>
    if (db.get (.rider, riderId)).isSome then
      .ok ((), [⟨.riderAvailability, riderId, some availability⟩])
    else .error .recordNotFound

/-- What is put on the queue is a call of its own. -/
def markCurrentRiderOnline (currentUser : AuthenticatedUser) (now : Date) : StoreService Unit := do
  let rider ← resolveOwnedRider currentUser
  let active ← .get fun db => rider.2.status == .active &&
    (db.get (.user, rider.2.userId)).any fun user => user.status == .active
  .require (active = true)
    (fail "Only active rider accounts can go online for dispatch." .conflict)
  let online ← .get fun db => (db.get (.riderAvailability, rider.1)).any fun availability =>
    availability.isOnline && availability.isAvailable
  if online = true then pure ()
  else .transaction (upsertAvailability rider.1 ⟨true, true, now⟩)

def markCurrentRiderOffline (currentUser : AuthenticatedUser) (now : Date) : StoreService Unit := do
  let rider ← resolveOwnedRider currentUser
  let offline ← .get fun db => (db.get (.riderAvailability, rider.1)).any fun availability =>
    !availability.isOnline && !availability.isAvailable
  if offline = true then pure ()
  else .transaction (upsertAvailability rider.1 ⟨false, false, now⟩)

end RiderAvailabilityService

/-! ## The operations -/

/-- The operations that offer orders and answer offers, and what decides who can be asked. -/
inductive DispatchCall
  | autoDispatchOrder (ids : AssignmentIds) (orderId : Id)
  | autoDispatchForRider (ids : AssignmentIds) (riderId : Id) (township : Option String)
  | dispatchTimeout (ids : AssignmentIds) (orderId attemptId : Id)
  | rider (action : RiderAction) (currentUser : AuthenticatedUser)
      (input : RiderDeliveryActionInput)
  | assignRider (newDeliveryId : Id) (currentUser : AuthenticatedUser) (orderId riderId : Id)
      (reasonCode note : Option String)
  | markOnline (currentUser : AuthenticatedUser) (now : Date)
  | markOffline (currentUser : AuthenticatedUser) (now : Date)

/-- The store, and who has turned which order down so far. -/
structure DispatchLog where
  db : Store
  declined : List (Id × Id)

namespace DispatchCall

def service : DispatchCall → StoreService Unit
  | autoDispatchOrder ids orderId => handleAutoDispatchOrder ids orderId
  | autoDispatchForRider ids riderId township => handleAutoDispatchForRider ids riderId township
  | dispatchTimeout ids orderId attemptId => handleRiderDispatchTimeout ids orderId attemptId
  | rider action currentUser input => action.service currentUser input
  | assignRider newDeliveryId currentUser orderId riderId reasonCode note =>
    assignRiderToOrder newDeliveryId currentUser orderId riderId reasonCode note
  | markOnline currentUser now => RiderAvailabilityService.markCurrentRiderOnline currentUser now
  | markOffline currentUser now => RiderAvailabilityService.markCurrentRiderOffline currentUser now

/-- The store after the operation has run alone. -/
def run (call : DispatchCall) (db : Store) : Store := (call.service.run db).2

/-- The order and the rider of an offer that the operation rejects or lets time out. -/
def declines (call : DispatchCall) (db : Store) : Option (Id × Id) :=
  match call with
  | rider .reject currentUser input => currentUser.riderId.bind fun riderId =>
      ((findRiderDeliveryById db input.deliveryId riderId).filter
        (canRiderRejectDeliveryRequest currentUser)).map fun record =>
          (record.delivery.orderId, riderId)
  | dispatchTimeout _ _ attemptId => ((db.get (.orderDispatchAttempt, attemptId)).filter
      fun attempt => attempt.outcomeCode == .pending).map fun attempt =>
        (attempt.orderId, attempt.riderId)
  | _ => none

/-- The operation run alone, with what it says about who has turned what down. -/
def track (call : DispatchCall) (s : DispatchLog) : DispatchLog where
  db := call.run s.db
  declined := (call.declines s.db).toList ++ s.declined

/-- The operation records an attempt to give the order to the rider, or gives it to the rider. -/
def Offers (call : DispatchCall) (db : Store) (orderId riderId : Id) : Prop :=
  (∃ i attempt, db.get (.orderDispatchAttempt, i) = none ∧
    (call.run db).get (.orderDispatchAttempt, i) = some attempt ∧ attempt.orderId = orderId ∧
      attempt.riderId = riderId) ∨
  ∃ i delivery, (call.run db).get (.delivery, i) = some delivery ∧ delivery.orderId = orderId ∧
    delivery.riderId = some riderId ∧
      ∀ delivery', db.get (.delivery, i) = some delivery' → delivery'.riderId ≠ some riderId

/-- If the operation offers the order to a rider, then neither before nor by this operation did the
rider turn the order down, and fewer than three attempts at it were rejected or timed out. -/
def OffersAfresh (orderId : Id) (call : DispatchCall) (s : DispatchLog) : Prop :=
  ∀ riderId, call.Offers s.db orderId riderId →
    (orderId, riderId) ∉ (call.track s).declined ∧
    (∀ i attempt, (call.run s.db).get (.orderDispatchAttempt, i) = some attempt →
      attempt.orderId = orderId → attempt.riderId = riderId →
        attempt.outcomeCode ≠ .rejected ∧ attempt.outcomeCode ≠ .timeout) ∧
    countFailedAttempts (call.run s.db) orderId < maxFailedAttempts

/-- An administrator gives the order to a rider. -/
def Assigns (orderId : Id) : DispatchCall → Prop
  | assignRider _ _ orderId' _ _ _ => orderId' = orderId
  | _ => False

end DispatchCall

/-! ## Attempts and deliveries of one order -/

/-- The rider was asked about the order, and the offer did not fail before reaching the rider. -/
def Asked (db : Store) (orderId riderId : Id) : Prop :=
  ∃ i attempt, db.get (.orderDispatchAttempt, i) = some attempt ∧ attempt.orderId = orderId ∧
    attempt.riderId = riderId ∧ attempt.outcomeCode ≠ .failed

/-- The order has a delivery. -/
def HasDelivery (db : Store) (orderId : Id) : Prop :=
  ∃ i delivery, db.get (.delivery, i) = some delivery ∧ delivery.orderId = orderId

/-- Whoever was asked about the order has left it a delivery, and its delivery is with someone who
was asked. -/
structure Dispatched (db : Store) (orderId : Id) : Prop where
  delivered : ∀ riderId, Asked db orderId riderId → HasDelivery db orderId
  asked : ∀ i delivery riderId, db.get (.delivery, i) = some delivery →
    delivery.orderId = orderId → delivery.riderId = some riderId → Asked db orderId riderId

/-- No one is asked about the order, and its delivery goes to no other rider. -/
structure AsksNoOne (orderId : Id) (db db' : Store) : Prop where
  asked : ∀ riderId, Asked db' orderId riderId ↔ Asked db orderId riderId
  attempt : ∀ i attempt, db'.get (.orderDispatchAttempt, i) = some attempt →
    attempt.orderId = orderId → ∃ attempt', db.get (.orderDispatchAttempt, i) = some attempt' ∧
      attempt'.orderId = orderId
  delivered : HasDelivery db orderId → HasDelivery db' orderId
  rider : ∀ i delivery riderId, db'.get (.delivery, i) = some delivery →
    delivery.orderId = orderId → delivery.riderId = some riderId →
      ∃ delivery', db.get (.delivery, i) = some delivery' ∧ delivery'.orderId = orderId ∧
        delivery'.riderId = some riderId

/-- The order's delivery is given to the rider, or its first one is. -/
def DeliveryGiven (orderId riderId : Id) (db db' : Store) : Prop :=
  ∃ deliveryId, (∀ delivery, db.get (.delivery, deliveryId) = some delivery →
      delivery.orderId = orderId) ∧
    ∀ i, db'.get (.delivery, i) = if i = deliveryId then some ⟨orderId, some riderId, .assigned⟩
      else db.get (.delivery, i)

/-- The order is offered to the rider: the attempt reaches the rider and the order's delivery is
theirs, or it fails and the deliveries stay as they are. -/
structure Offered (orderId attemptId riderId : Id) (db db' : Store) : Prop where
  new : db.get (.orderDispatchAttempt, attemptId) = none
  others : ∀ i, i ≠ attemptId →
    db'.get (.orderDispatchAttempt, i) = db.get (.orderDispatchAttempt, i)
  attempt : ∃ attempt, db'.get (.orderDispatchAttempt, attemptId) = some attempt ∧
    attempt.orderId = orderId ∧ attempt.riderId = riderId ∧
    (attempt.outcomeCode = .failed ∧ (∀ i, db'.get (.delivery, i) = db.get (.delivery, i)) ∨
      attempt.outcomeCode = .pending ∧ DeliveryGiven orderId riderId db db')

/-- The rider was not asked about the order, and fewer than three attempts at it came to
nothing. -/
structure Untried (db : Store) (orderId riderId : Id) : Prop where
  notAsked : ¬ Asked db orderId riderId
  count : countFailedAttempts db orderId < maxFailedAttempts

/-- What an operation does about an order: it asks no one, or after that it offers the order to a
rider who was not tried. -/
def Dispatching (orderId : Id) (db db' : Store) : Prop :=
  AsksNoOne orderId db db' ∨ ∃ db₁ attemptId riderId, AsksNoOne orderId db db₁ ∧
    Untried db₁ orderId riderId ∧ Offered orderId attemptId riderId db₁ db'

section Relations

variable {db db₁ db' : Store} {orderId orderId' attemptId riderId : Id}

theorem AsksNoOne.refl (db : Store) : AsksNoOne orderId db db :=
  ⟨fun _ => .rfl, fun _ attempt hget hof => ⟨attempt, hget, hof⟩, fun h => h,
    fun _ delivery _ hget hof hrider => ⟨delivery, hget, hof, hrider⟩⟩

theorem AsksNoOne.trans (h : AsksNoOne orderId db db₁) (h' : AsksNoOne orderId db₁ db') :
    AsksNoOne orderId db db' := by
  refine ⟨fun r => (h'.asked r).trans (h.asked r), fun i attempt hget hof => ?_,
    fun hd => h'.delivered (h.delivered hd), fun i delivery r hget hof hrider => ?_⟩
  · obtain ⟨attempt₁, hget₁, hof₁⟩ := h'.attempt i attempt hget hof
    exact h.attempt i attempt₁ hget₁ hof₁
  · obtain ⟨delivery₁, hget₁, hof₁, hrider₁⟩ := h'.rider i delivery r hget hof hrider
    exact h.rider i delivery₁ r hget₁ hof₁ hrider₁

/-- The order's own attempts and deliveries stay as they are. -/
theorem AsksNoOne.of_own
    (hattempt : ∀ i attempt, attempt.orderId = orderId →
      (db'.get (.orderDispatchAttempt, i) = some attempt ↔
        db.get (.orderDispatchAttempt, i) = some attempt))
    (hdelivery : ∀ i delivery, delivery.orderId = orderId →
      (db'.get (.delivery, i) = some delivery ↔ db.get (.delivery, i) = some delivery)) :
    AsksNoOne orderId db db' := by
  refine ⟨fun r => ?_, fun i a hget ha => ⟨a, (hattempt i a ha).mp hget, ha⟩, ?_,
    fun i d r hget hd hr => ⟨d, (hdelivery i d hd).mp hget, hd, hr⟩⟩
  · refine exists_congr fun i => exists_congr fun a => ?_
    constructor
    · rintro ⟨hget, ha, hr⟩
      exact ⟨(hattempt i a ha).mp hget, ha, hr⟩
    · rintro ⟨hget, ha, hr⟩
      exact ⟨(hattempt i a ha).mpr hget, ha, hr⟩
  · rintro ⟨i, d, hget, hd⟩
    exact ⟨i, d, (hdelivery i d hd).mpr hget, hd⟩

/-- Neither attempts nor deliveries are written. -/
theorem AsksNoOne.of_get
    (hattempt : ∀ i, db'.get (.orderDispatchAttempt, i) = db.get (.orderDispatchAttempt, i))
    (hdelivery : ∀ i, db'.get (.delivery, i) = db.get (.delivery, i)) :
    AsksNoOne orderId db db' :=
  .of_own (fun i a _ => by rw [hattempt]) fun i d _ => by rw [hdelivery]

/-- A pending attempt gets an outcome. -/
theorem asksNoOne_resolved {attempt : OrderDispatchAttempt} {outcomeCode : DispatchOutcomeCode}
    (hpending : Pending db attemptId attempt) (hcode : outcomeCode ≠ .failed) :
    AsksNoOne orderId db (resolved db attemptId outcomeCode) := by
  have hrow : resolved db attemptId outcomeCode = db.put ⟨.orderDispatchAttempt, attemptId,
      some { attempt with outcomeCode := outcomeCode }⟩ := by rw [resolved, hpending.1]
  have hself : (resolved db attemptId outcomeCode).get (.orderDispatchAttempt, attemptId) =
      some { attempt with outcomeCode := outcomeCode } := by
    rw [hrow]
    exact Db.get_put_self ..
  have hother : ∀ i, i ≠ attemptId → (resolved db attemptId outcomeCode).get
      (.orderDispatchAttempt, i) = db.get (.orderDispatchAttempt, i) := by
    intro i hi
    rw [hrow, Db.get_put_ne _ fun hkey => hi (congrArg Prod.snd hkey)]
  have hdelivery : ∀ i, (resolved db attemptId outcomeCode).get (.delivery, i) =
      db.get (.delivery, i) := fun i => get_resolved (by simp)
  refine ⟨fun r => ?_, fun i a hget hof => ?_, fun hd => ?_, fun i d r hget hof hrider => ?_⟩
  · constructor
    · rintro ⟨i, a, hget, hof, hrider, hreached⟩
      by_cases hi : i = attemptId
      · subst hi
        cases hself.symm.trans hget
        exact ⟨i, attempt, hpending.1, hof, hrider, by rw [hpending.2]; simp⟩
      · exact ⟨i, a, (hother i hi).symm.trans hget, hof, hrider, hreached⟩
    · rintro ⟨i, a, hget, hof, hrider, hreached⟩
      by_cases hi : i = attemptId
      · subst hi
        cases hpending.1.symm.trans hget
        exact ⟨i, _, hself, hof, hrider, hcode⟩
      · exact ⟨i, a, (hother i hi).trans hget, hof, hrider, hreached⟩
  · by_cases hi : i = attemptId
    · subst hi
      cases hself.symm.trans hget
      exact ⟨attempt, hpending.1, hof⟩
    · exact ⟨a, (hother i hi).symm.trans hget, hof⟩
  · simpa only [HasDelivery, hdelivery] using hd
  · rw [hdelivery] at hget
    exact ⟨d, hget, hof, hrider⟩

/-- A delivery is written that keeps its order, and its rider unless it loses it. -/
theorem asksNoOne_moved {deliveryId : Id} {delivery delivery' : Delivery} {order : Order}
    (hget : db.get (.delivery, deliveryId) = some delivery)
    (hof : delivery'.orderId = delivery.orderId)
    (hrider : delivery'.riderId = delivery.riderId ∨ delivery'.riderId = none) :
    AsksNoOne orderId db (moved db deliveryId orderId' delivery' order) := by
  have hattempt : ∀ i, (moved db deliveryId orderId' delivery' order).get
      (.orderDispatchAttempt, i) = db.get (.orderDispatchAttempt, i) :=
    fun i => moved_other (by simp) (by simp)
  refine ⟨fun r => by simp only [Asked, hattempt], fun i a hget' hof' => ?_, ?_,
    fun i d r hget' hof' hrider' => ?_⟩
  · rw [hattempt] at hget'
    exact ⟨a, hget', hof'⟩
  · rintro ⟨i, d, hget', hof'⟩
    by_cases hi : i = deliveryId
    · subst hi
      cases hget.symm.trans hget'
      exact ⟨i, delivery', by rw [moved_delivery, if_pos rfl], hof.trans hof'⟩
    · exact ⟨i, d, by rw [moved_delivery, if_neg hi, hget'], hof'⟩
  · rw [moved_delivery] at hget'
    split at hget'
    · next hi =>
      subst hi
      cases hget'
      refine ⟨delivery, hget, hof.symm.trans hof', ?_⟩
      rcases hrider with hsame | hnone
      · exact hsame.symm.trans hrider'
      · cases hnone.symm.trans hrider'
    · exact ⟨d, hget', hof', hrider'⟩

/-- The deliveries of other orders are not given away. -/
theorem DeliveryGiven.other (h : DeliveryGiven orderId' riderId db db') (hne : orderId' ≠ orderId)
    (i : Id) (delivery : Delivery) (hof : delivery.orderId = orderId) :
    db'.get (.delivery, i) = some delivery ↔ db.get (.delivery, i) = some delivery := by
  obtain ⟨deliveryId, hold, hwritten⟩ := h
  rw [hwritten]
  split
  · next hi =>
    subst hi
    refine iff_of_false ?_ fun hget => hne ((hold delivery hget).symm.trans hof)
    rintro ⟨⟩
    exact hne hof
  · rfl

/-- An offer of one order asks no one about another. -/
theorem Offered.other (h : Offered orderId' attemptId riderId db db') (hne : orderId' ≠ orderId) :
    AsksNoOne orderId db db' := by
  obtain ⟨attempt, hget, hof, -, houtcome⟩ := h.attempt
  refine .of_own (fun i a ha => ?_) fun i d hd => ?_
  · by_cases hi : i = attemptId
    · subst hi
      rw [hget, h.new]
      refine iff_of_false ?_ (by simp)
      rintro ⟨⟩
      exact hne (hof.symm.trans ha)
    · rw [h.others i hi]
  · rcases houtcome with ⟨-, hsame⟩ | ⟨-, hgiven⟩
    · rw [hsame]
    · exact hgiven.other hne i d hd

/-- What an operation does about the order after it has asked no one. -/
theorem Dispatching.after (h : AsksNoOne orderId db db₁) (h' : Dispatching orderId db₁ db') :
    Dispatching orderId db db' := by
  rcases h' with hnone | ⟨db₂, attemptId, riderId, hnone, huntried, hoffered⟩
  · exact .inl (h.trans hnone)
  · exact .inr ⟨db₂, attemptId, riderId, h.trans hnone, huntried, hoffered⟩

theorem Dispatching.refl (db : Store) : Dispatching orderId db db := .inl (.refl db)

theorem AsksNoOne.dispatched (h : AsksNoOne orderId db db') (hd : Dispatched db orderId) :
    Dispatched db' orderId := by
  refine ⟨fun r hasked => h.delivered (hd.delivered r ((h.asked r).mp hasked)),
    fun i delivery r hget hof hrider => ?_⟩
  obtain ⟨delivery', hget', hof', hrider'⟩ := h.rider i delivery r hget hof hrider
  exact (h.asked r).mpr (hd.asked i delivery' r hget' hof' hrider')

/-- Who was asked before an offer was asked after it. -/
theorem Offered.asked_of (h : Offered orderId' attemptId riderId db db') {r : Id}
    (hasked : Asked db orderId r) : Asked db' orderId r := by
  obtain ⟨i, attempt, hget, hattempt⟩ := hasked
  refine ⟨i, attempt, (h.others i ?_).trans hget, hattempt⟩
  rintro rfl
  cases h.new.symm.trans hget

theorem Offered.dispatched (h : Offered orderId attemptId riderId db db')
    (hd : Dispatched db orderId) : Dispatched db' orderId := by
  obtain ⟨attempt, hget, hof, hrider, houtcome⟩ := h.attempt
  refine ⟨?_, fun i delivery r hdelivery hsame hr => ?_⟩
  · rintro r ⟨i, a, hget', ha, -, hreached⟩
    rcases houtcome with ⟨hfailed, hkept⟩ | ⟨-, deliveryId, -, hwritten⟩
    · have hi : i ≠ attemptId := by
        rintro rfl
        cases hget.symm.trans hget'
        exact hreached hfailed
      obtain ⟨j, d, hj, hdof⟩ := hd.delivered _ ⟨i, a, (h.others i hi).symm.trans hget', ha, rfl,
        hreached⟩
      exact ⟨j, d, (hkept j).trans hj, hdof⟩
    · exact ⟨deliveryId, _, by rw [hwritten, if_pos rfl], rfl⟩
  · rcases houtcome with ⟨-, hkept⟩ | ⟨hpending, deliveryId, -, hwritten⟩
    · exact h.asked_of (hd.asked i delivery r ((hkept i).symm.trans hdelivery) hsame hr)
    · rw [hwritten] at hdelivery
      split at hdelivery
      · cases hdelivery
        cases hr
        exact ⟨attemptId, attempt, hget, hof, hrider, by rw [hpending]; simp⟩
      · exact h.asked_of (hd.asked i delivery r hdelivery hsame hr)

theorem Dispatching.dispatched (h : Dispatching orderId db db') (hd : Dispatched db orderId) :
    Dispatched db' orderId := by
  rcases h with hnone | ⟨db₁, attemptId, riderId, hnone, -, hoffered⟩
  · exact hnone.dispatched hd
  · exact hoffered.dispatched (hnone.dispatched hd)

theorem Dispatching.asked_of (h : Dispatching orderId db db') {r : Id}
    (hasked : Asked db orderId r) : Asked db' orderId r := by
  rcases h with hnone | ⟨db₁, attemptId, riderId, hnone, -, hoffered⟩
  · exact (hnone.asked r).mpr hasked
  · exact hoffered.asked_of ((hnone.asked r).mpr hasked)

/-- The attempt counts against the order. -/
def Refused (db : Store) (orderId : Id) (i : Id) (attempt : OrderDispatchAttempt) : Prop :=
  db.get (.orderDispatchAttempt, i) = some attempt ∧ attempt.orderId = orderId ∧
    (attempt.outcomeCode = .timeout ∨ attempt.outcomeCode = .rejected)

/-- Only the refused attempts are counted. -/
theorem countFailedAttempts_le (h : ∀ i attempt, Refused db' orderId i attempt →
    Refused db orderId i attempt) : countFailedAttempts db' orderId ≤ countFailedAttempts db orderId := by
  have hmem : ∀ (d : Store) (p : Id × OrderDispatchAttempt),
      p ∈ ((findAttempts d orderId).filter fun a =>
        a.2.outcomeCode == .timeout || a.2.outcomeCode == .rejected) ↔ Refused d orderId p.1 p.2 := by
    intro d p
    rw [List.mem_filter, findAttempts, Refused]
    have hlisted : p ∈ d.list .orderDispatchAttempt (fun attempt => attempt.orderId == orderId) ↔
        d.get (.orderDispatchAttempt, p.1) = some p.2 ∧ (p.2.orderId == orderId) = true :=
      Db.mem_list
    rw [hlisted, and_assoc]
    simp only [beq_iff_eq, Bool.or_eq_true]
  have hnodup : ((findAttempts db' orderId).filter fun a =>
      a.2.outcomeCode == .timeout || a.2.outcomeCode == .rejected).Nodup :=
    List.Nodup.filter _ (.of_map Prod.fst (Db.list_nodup db' .orderDispatchAttempt _))
  refine (hnodup.subperm fun p hp => ?_).length_le
  exact (hmem db p).mpr (h p.1 p.2 ((hmem db' p).mp hp))

theorem countFailedAttempts_eq_zero (h : ∀ riderId, ¬ Asked db orderId riderId) :
    countFailedAttempts db orderId = 0 := by
  have hempty : ∀ i attempt, Refused db orderId i attempt → Refused Db.empty orderId i attempt := by
    rintro i attempt ⟨hget, hof, houtcome⟩
    refine absurd ⟨i, attempt, hget, hof, rfl, ?_⟩ (h attempt.riderId)
    rcases houtcome with houtcome | houtcome <;> simp [houtcome]
  exact Nat.le_zero.mp (countFailedAttempts_le hempty)

/-- An offer is not counted. -/
theorem Offered.count (h : Offered orderId attemptId riderId db db') :
    countFailedAttempts db' orderId ≤ countFailedAttempts db orderId := by
  obtain ⟨attempt, hget, -, -, houtcome⟩ := h.attempt
  refine countFailedAttempts_le fun i a ⟨hget', hof, hrefused⟩ => ⟨?_, hof, hrefused⟩
  rw [← h.others i, hget']
  rintro rfl
  cases hget.symm.trans hget'
  rcases houtcome with ⟨hfailed, -⟩ | ⟨hpending, -⟩
  · simp [hfailed] at hrefused
  · simp [hpending] at hrefused

end Relations

/-! ## What each operation does about an order -/

section Operations

variable {db : Store} {orderId orderId' : Id}

/-- The rider's attempt at an order is resolved. -/
theorem resolveDispatchAttempt_asksNoOne (riderId : Id) {outcomeCode : DispatchOutcomeCode}
    (hcode : outcomeCode ≠ .failed) : (resolveDispatchAttempt orderId' riderId outcomeCode).Ends db
      fun _ db' => AsksNoOne orderId db db' := by
  refine (resolveDispatchAttempt_ends _ _ _).mono fun _ db' hresolved => ?_
  rcases hresolved with ⟨-, rfl⟩ | ⟨attemptId, attempt, hfound, rfl⟩
  · exact .refl _
  · exact asksNoOne_resolved (findPendingAttempt_some hfound).1 hcode

/-- Cash is settled in the payments alone. -/
theorem settleCashOnDelivery_asksNoOne {db' : Store} {u : Unit}
    (h : (settleCashOnDelivery orderId').run db = .ok (u, db')) : AsksNoOne orderId db db' := by
  cases h
  refine .of_get (fun i => ?_) fun i => ?_
  · exact Db.get_apply_of_notMem (by simp [Write.key])
  · exact Db.get_apply_of_notMem (by simp [Write.key])

/-- No transition of a rider's gives the delivery to another. -/
theorem handleTransition_asksNoOne {currentUser : AuthenticatedUser}
    {input : RiderDeliveryActionInput} {config : RiderDeliveryTransitionConfig}
    (hof : ∀ delivery, (config.buildDeliveryUpdate delivery).orderId = delivery.orderId)
    (hrider : ∀ delivery, (config.buildDeliveryUpdate delivery).riderId = delivery.riderId ∨
      (config.buildDeliveryUpdate delivery).riderId = none) :
    (handleTransition currentUser input config).Ends db fun _ db' => AsksNoOne orderId db db' := by
  refine .orFail_bind (fun riderId _ => .get_bind (.orFail_bind (fun record hrecord => ?_)
    fun _ => .refl db)) fun _ => .refl db
  have hfind := find_of_findRiderDeliveryById hrecord
  obtain ⟨hid, hdelivery, -⟩ := get_of_findById hfind
  split
  · exact .ret (.refl db)
  refine .require_bind (fun _ => ?_) fun _ => .refl db
  refine .bind (.mono (Q := fun _ db' => db' = db) ?_ ?_)
  · unfold riderReasonCode
    split
    · split
      · exact .ret rfl
      · exact .throw rfl
    · exact .ret rfl
  rintro (e | reasonCode) db' rfl
  · exact .refl _
  refine .transaction_bind (fun u db₁ h => .get_bind ?_) fun _ _ => .refl _
  have hmoved : AsksNoOne orderId db' db₁ := by
    obtain ⟨u', db₂, hmove, hsettle⟩ := run_bind_ok h
    rw [← hid] at hfind
    obtain ⟨order, -, -, -, rfl⟩ := moveDelivery_run hfind hmove
    rw [hid] at hsettle
    have hwritten : ∀ o : Order, AsksNoOne orderId db' (moved db' input.deliveryId
        record.delivery.orderId (config.buildDeliveryUpdate record.delivery) o) :=
      fun o => asksNoOne_moved hdelivery (hof _) (hrider _)
    split at hsettle
    · exact (hwritten _).trans (settleCashOnDelivery_asksNoOne hsettle)
    · cases hsettle
      exact hwritten _
  exact .orFail (fun _ _ => hmoved) fun _ => hmoved

theorem answerRequest_asksNoOne {currentUser : AuthenticatedUser} {input : RiderDeliveryActionInput}
    {config : RiderDeliveryTransitionConfig} {outcomeCode : DispatchOutcomeCode}
    (hof : ∀ delivery, (config.buildDeliveryUpdate delivery).orderId = delivery.orderId)
    (hrider : ∀ delivery, (config.buildDeliveryUpdate delivery).riderId = delivery.riderId ∨
      (config.buildDeliveryUpdate delivery).riderId = none) (hcode : outcomeCode ≠ .failed) :
    (answerRequest currentUser input config outcomeCode).Ends db fun _ db' =>
      AsksNoOne orderId db db' := by
  refine .orFail_bind (fun riderId _ => .get_bind (.bind (.mono
    (Q := fun _ db₁ => AsksNoOne orderId db db₁) (handleTransition_asksNoOne hof hrider)
      fun r db₁ hmoved => ?_))) fun _ => .refl db
  cases r with
  | error e => exact hmoved
  | ok reloaded =>
    cases findRiderDeliveryById db input.deliveryId riderId with
    | none => exact .ret hmoved
    | some record =>
      exact (resolveDispatchAttempt_asksNoOne riderId hcode).mono fun _ _ h => hmoved.trans h

theorem cancelCurrentRiderDelivery_asksNoOne (currentUser : AuthenticatedUser)
    (input : RiderDeliveryActionInput) : (cancelCurrentRiderDelivery currentUser input).Ends db
      fun _ db' => AsksNoOne orderId db db' := by
  refine .orFail_bind (fun riderId _ => .get_bind (.orFail_bind (fun record hrecord => ?_)
    fun _ => .refl db)) fun _ => .refl db
  have hfind := find_of_findRiderDeliveryById hrecord
  obtain ⟨hid, hdelivery, -⟩ := get_of_findById hfind
  refine .require_bind (fun _ => .transaction (fun u db' h => ?_) fun _ _ => .refl db)
    fun _ => .refl db
  rw [← hid] at hfind
  obtain ⟨order, -, -, -, rfl⟩ := moveDelivery_run hfind h
  rw [hid]
  exact asksNoOne_moved hdelivery rfl (.inr rfl)

/-- Nothing a rider does asks anyone. -/
theorem riderAction_asksNoOne (action : RiderAction) (currentUser : AuthenticatedUser)
    (input : RiderDeliveryActionInput) : (action.service currentUser input).Ends db
      fun _ db' => AsksNoOne orderId db db' := by
  have hmark : ∀ {config : RiderDeliveryTransitionConfig},
      (∀ delivery, (config.buildDeliveryUpdate delivery).orderId = delivery.orderId) →
      (∀ delivery, (config.buildDeliveryUpdate delivery).riderId = delivery.riderId) →
      ((handleTransition currentUser input config).bind fun _ => Service.ret ()).Ends db
        fun _ db' => AsksNoOne orderId db db' := by
    intro config hof hrider
    refine .bind (.mono (Q := fun _ db₁ => AsksNoOne orderId db db₁)
      (handleTransition_asksNoOne hof fun d => .inl (hrider d)) fun r db₁ hmoved => ?_)
    cases r with
    | error e => exact hmoved
    | ok record => exact .ret hmoved
  cases action with
  | accept => exact answerRequest_asksNoOne (fun _ => rfl) (fun _ => .inl rfl) (by simp)
  | reject => exact answerRequest_asksNoOne (fun _ => rfl) (fun _ => .inr rfl) (by simp)
  | pickedUp => exact hmark (fun _ => rfl) fun _ => rfl
  | onTheWay => exact hmark (fun _ => rfl) fun _ => rfl
  | delivered => exact hmark (fun _ => rfl) fun _ => rfl
  | fail => exact hmark (fun _ => rfl) fun _ => rfl
  | cancel => exact cancelCurrentRiderDelivery_asksNoOne currentUser input

theorem assignDelivery_given {newDeliveryId riderId : Id} {payload : UpdateOrderStatusInput}
    {db' : Store} {u : Unit}
    (h : (assignDelivery newDeliveryId orderId riderId payload).run db = .ok (u, db')) :
    (∀ i, db'.get (.orderDispatchAttempt, i) = db.get (.orderDispatchAttempt, i)) ∧
      DeliveryGiven orderId riderId db db' := by
  obtain ⟨deliveryId, order, hdelivery, -, rfl⟩ := assignDelivery_run h
  refine ⟨fun i => moved_other (by simp) (by simp), deliveryId, fun delivery hget => ?_,
    fun i => moved_delivery i⟩
  rcases hdelivery with ⟨found, hfind⟩ | ⟨-, hnew⟩
  · obtain ⟨hget', hof⟩ := get_of_findByOrderId hfind
    cases hget.symm.trans hget'
    exact hof
  · cases hget.symm.trans hnew

theorem autoAssign_given {newDeliveryId riderId : Id} {db' : Store} {u : Unit}
    (h : (autoAssign newDeliveryId orderId riderId).run db = .ok (u, db')) :
    (∀ i, db'.get (.orderDispatchAttempt, i) = db.get (.orderDispatchAttempt, i)) ∧
      DeliveryGiven orderId riderId db db' := by
  obtain ⟨_, db₁, hlock, hrest⟩ := run_bind_ok h
  cases hlock
  obtain ⟨-, hassign⟩ := run_require_bind_ok (run_read_bind_ok hrest)
  have hlocked : ∀ k : Key Tbl, k.1 ≠ .advisoryLock →
      (db.put ⟨.advisoryLock, riderId, some ()⟩).get k = db.get k :=
    fun k hk => Db.get_put_ne _ fun hkey => hk (congrArg Prod.fst hkey)
  obtain ⟨hattempt, deliveryId, hold, hwritten⟩ := assignDelivery_given hassign
  refine ⟨fun i => (hattempt i).trans (hlocked (.orderDispatchAttempt, i) (by simp)), deliveryId,
    fun delivery hget => hold delivery ((hlocked (.delivery, deliveryId) (by simp)).trans hget),
    fun i => (hwritten i).trans ?_⟩
  split
  · rfl
  · exact hlocked (.delivery, i) (by simp)

/-- What the administrator gives to a rider is no other order's. -/
theorem assignRiderToOrder_asksNoOne {newDeliveryId riderId : Id} {currentUser : AuthenticatedUser}
    {reasonCode note : Option String} (hne : orderId' ≠ orderId) :
    (assignRiderToOrder newDeliveryId currentUser orderId' riderId reasonCode note).Ends db
      fun _ db' => AsksNoOne orderId db db' := by
  refine .require_bind (fun _ => .get_bind (.orFail_bind (fun record _ => ?_)
    fun _ => .refl db)) fun _ => .refl db
  split
  · exact .ret (.refl db)
  refine .require_bind (fun _ => .get_bind (.orFail_bind (fun eligible _ => .require_bind
    (fun _ => .transaction (fun u db' h => ?_) fun _ _ => .refl db) fun _ => .refl db)
      fun _ => .refl db)) fun _ => .refl db
  obtain ⟨hattempt, hgiven⟩ := assignDelivery_given h
  exact .of_own (fun i a _ => by rw [hattempt]) (hgiven.other hne)

/-- The order is offered to the rider, unless the attempt's id is taken. -/
theorem assignAndNotify_offered (ids : AssignmentIds) (orderId riderId : Id) :
    (assignAndNotify ids orderId riderId).Ends db fun _ db' =>
      db' = db ∨ Offered orderId ids.attemptId riderId db db' := by
  refine .transaction_bind (fun _ db₁ hcreate => ?_) fun _ _ => .inl rfl
  obtain ⟨hfresh, rfl⟩ := run_insertRow_ok hcreate
  have hnew : db.get (.orderDispatchAttempt, ids.attemptId) = none := by
    by_contra hsome
    simp [Option.isSome_iff_ne_none.mpr hsome] at hfresh
  obtain ⟨attempt, hattempt⟩ : ∃ attempt : OrderDispatchAttempt,
      attempt = ⟨orderId, riderId, .pending, ids.assignedAt⟩ := ⟨_, rfl⟩
  rw [← hattempt]
  have hself : (db.put ⟨.orderDispatchAttempt, ids.attemptId, some attempt⟩).get
      (.orderDispatchAttempt, ids.attemptId) = some attempt := Db.get_put_self ..
  have hother : ∀ k : Key Tbl, k ≠ (.orderDispatchAttempt, ids.attemptId) →
      (db.put ⟨.orderDispatchAttempt, ids.attemptId, some attempt⟩).get k = db.get k :=
    fun k hk => Db.get_put_ne _ hk
  refine .tx (fun _ db₂ hassign => .ret (.inr ?_)) fun _ _ => .tx
    (fun _ db₂ hresolve => .ret (.inr ?_)) fun _ hfailed => ?_
  · -- the rider is free
    obtain ⟨hkept, deliveryId, hold, hwritten⟩ := autoAssign_given hassign
    refine ⟨hnew, fun i hi => (hkept i).trans (hother _ fun hkey => hi (congrArg Prod.snd hkey)),
      attempt, (hkept _).trans hself, by rw [hattempt], by rw [hattempt], .inr ⟨by rw [hattempt],
        deliveryId, fun delivery hget => hold delivery ((hother _ (by simp)).trans hget),
        fun i => (hwritten i).trans ?_⟩⟩
    rw [hother (.delivery, i) (by simp)]
  · -- the rider has got another delivery in the meantime
    obtain ⟨attempt', hget', rfl⟩ := run_updateExisting_ok hresolve
    cases hself.symm.trans hget'
    refine ⟨hnew, fun i hi => ?_, _, Db.get_put_self .., by rw [hattempt], by rw [hattempt],
      .inl ⟨rfl, fun i => ?_⟩⟩
    · rw [Db.get_put_ne _ fun hkey => hi (congrArg Prod.snd hkey),
        hother _ fun hkey => hi (congrArg Prod.snd hkey)]
    · exact (Db.get_put_ne _ (by simp [Write.key])).trans (hother _ (by simp))
  · rw [resolveAttempt, run_updateExisting hself] at hfailed
    cases hfailed

/-- An offer to a rider who was not tried. -/
theorem assignAndNotify_dispatching (ids : AssignmentIds) {riderId : Id}
    (h : orderId' = orderId → Untried db orderId riderId) :
    (assignAndNotify ids orderId' riderId).Ends db fun _ db' => Dispatching orderId db db' := by
  refine (assignAndNotify_offered ids orderId' riderId).mono fun _ db' hoffered => ?_
  rcases hoffered with rfl | hoffered
  · exact .refl _
  · by_cases hne : orderId' = orderId
    · subst hne
      exact .inr ⟨db, ids.attemptId, riderId, .refl db, h rfl, hoffered⟩
    · exact .inl (hoffered.other hne)

/-- A rider who is picked is not one of those to leave out. -/
theorem pickEligibleRider_untried (township : Option String) (excludeRiderIds : List Id) :
    (pickEligibleRider township excludeRiderIds).Ends db fun r db' => db' = db ∧
      ∀ riderId, r = .ok (some riderId) → riderId ∉ excludeRiderIds := by
  have hhead : ∀ (riders : List (Id × Rider)) (rider : Id × Rider),
      (riders.filter fun r => !excludeRiderIds.contains r.1).head? = some rider →
        rider.1 ∉ excludeRiderIds := by
    intro riders rider h
    simpa using (List.mem_filter.mp (List.mem_of_head? h)).2
  have hany : (Service.bind (Service.get fun db : Store =>
      (RidersRepository.findEligibleRiders db none).filter fun r => !excludeRiderIds.contains r.1)
        fun any => (Service.ret (any.head?.map Prod.fst) : StoreService (Option Id))).Ends db
          fun r db' => db' = db ∧ ∀ riderId, r = .ok (some riderId) → riderId ∉ excludeRiderIds := by
    refine .get_bind (.ret ⟨rfl, fun riderId h => ?_⟩)
    obtain ⟨rider, hfirst, rfl⟩ := Option.map_eq_some_iff.mp (Except.ok.inj h)
    exact hhead _ rider hfirst
  cases township with
  | none => exact .bind (.ret hany)
  | some t =>
    refine .get_bind ?_
    dsimp only
    split
    · next rider riders hmatched =>
      refine .ret ⟨rfl, fun riderId h => ?_⟩
      obtain rfl := Option.some.inj (Except.ok.inj h)
      exact hhead _ rider (by rw [hmatched]; rfl)
    · exact hany

theorem dispatchNext_dispatching (ids : AssignmentIds) (township : Option String) :
    (dispatchNext ids orderId' township).Ends db fun _ db' => Dispatching orderId db db' := by
  refine .get_bind ?_
  split
  · refine .get_bind ?_
    cases hrecord : findOrderDetailById db orderId' with
    | none => exact .ret (.refl db)
    | some record =>
      obtain ⟨-, rfl⟩ := get_of_findOrderDetailById hrecord
      dsimp only
      split
      · exact .ret (.refl db)
      · refine .transaction (fun u db' h => ?_) fun _ _ => .refl db
        obtain ⟨hattempt, hdelivery⟩ := orderChanged_dispatch (changeOrderStatus_run hrecord rfl h)
        exact .inl (.of_get hattempt hdelivery)
  · next hcount =>
    refine .get_bind (.bind ((pickEligibleRider_untried _ _).mono ?_))
    rintro (e | rider) db' ⟨rfl, huntried⟩
    · exact .refl db'
    · cases rider with
      | none => exact .ret (.refl db')
      | some riderId =>
        refine assignAndNotify_dispatching ids ?_
        rintro rfl
        refine ⟨?_, not_le.mp hcount⟩
        rintro ⟨i, attempt, hget, hof, rfl, -⟩
        exact huntried attempt.riderId rfl (List.mem_map.mpr
          ⟨(i, attempt), Db.mem_list.mpr ⟨hget, beq_iff_eq.mpr hof⟩, rfl⟩)

theorem handleAutoDispatchOrder_dispatching (ids : AssignmentIds) (orderId' : Id) :
    (handleAutoDispatchOrder ids orderId').Ends db fun _ db' => Dispatching orderId db db' := by
  refine .get_bind ?_
  cases findOrderToDispatch db orderId' with
  | none => exact .ret (.refl db)
  | some order => exact dispatchNext_dispatching ids order.deliveryTownship

/-- No one was asked about an order without a delivery. -/
theorem Dispatched.untried (h : Dispatched db orderId) (hnone : findByOrderId db orderId = none)
    (riderId : Id) : Untried db orderId riderId := by
  have hnotAsked : ∀ r, ¬ Asked db orderId r := by
    intro r hasked
    obtain ⟨i, delivery, hget, hof⟩ := h.delivered r hasked
    exact findByOrderId_eq_none hnone hget hof
  exact ⟨hnotAsked riderId, by rw [countFailedAttempts_eq_zero hnotAsked]; decide⟩

theorem handleAutoDispatchForRider_dispatching (h : Dispatched db orderId) (ids : AssignmentIds)
    (riderId : Id) (township : Option String) :
    (handleAutoDispatchForRider ids riderId township).Ends db
      fun _ db' => Dispatching orderId db db' := by
  have hassign : ∀ (township' : Option String) (order : Id × Order) (orders : List (Id × Order)),
      findReadyOrdersWithoutRider db township' 1 = order :: orders →
      (assignAndNotify ids order.1 riderId).Ends db fun _ db' => Dispatching orderId db db' := by
    intro township' order orders hfind
    obtain ⟨-, -, -, hnone⟩ :=
      mem_findReadyOrdersWithoutRider (hfind ▸ List.mem_cons_self : order ∈ _)
    refine assignAndNotify_dispatching ids fun hsame => h.untried ?_ riderId
    rw [← hsame]
    exact hnone
  refine .get_bind ?_
  split
  · exact .ret (.refl db)
  · refine .get_bind ?_
    cases hfind : findReadyOrdersWithoutRider db township 1 with
    | cons order orders => exact hassign township order orders hfind
    | nil =>
      refine .get_bind ?_
      cases hfallback : findReadyOrdersWithoutRider db none 1 with
      | cons order orders => exact hassign none order orders hfallback
      | nil => exact .ret (.refl db)

theorem handleRiderDispatchTimeout_dispatching (ids : AssignmentIds) (orderId' attemptId : Id) :
    (handleRiderDispatchTimeout ids orderId' attemptId).Ends db
      fun _ db' => Dispatching orderId db db' := by
  refine .get_bind ?_
  split
  · exact .ret (.refl db)
  next hpending =>
  obtain ⟨attempt, hattempt⟩ : ∃ attempt, Pending db attemptId attempt := by
    rw [Option.all_eq_true, not_forall] at hpending
    obtain ⟨attempt, hattempt⟩ := hpending
    simp only [bne_iff_ne, ne_eq, Classical.not_imp, not_not] at hattempt
    exact ⟨attempt, hattempt⟩
  refine .transaction_bind (fun _ db₁ hresolve => .get_bind ?_) fun _ _ => .refl db
  obtain rfl := resolveAttempt_run hresolve
  have hresolved : AsksNoOne orderId db (resolved db attemptId .timeout) :=
    asksNoOne_resolved hattempt (by simp)
  cases hfind : findAssignedOrder (resolved db attemptId .timeout) orderId' with
  | none => exact .ret (.inl hresolved)
  | some found =>
    obtain ⟨order, deliveryId⟩ := found
    obtain ⟨horder, -, delivery, hdelivery, -, -⟩ := findAssignedOrder_some hfind
    refine .transaction_bind (fun _ db₂ hreset => ?_) fun _ _ => .inl hresolved
    obtain rfl := resetAssignment_run horder hdelivery hreset
    refine (dispatchNext_dispatching ids order.deliveryTownship).mono fun _ db' hnext =>
      hnext.after (hresolved.trans ?_)
    exact asksNoOne_moved hdelivery rfl (.inr rfl)

theorem resolveOwnedRider_readOnly (currentUser : AuthenticatedUser) :
    (RiderAvailabilityService.resolveOwnedRider currentUser).ReadOnly :=
  .bind (.get _) fun _ => .bind (.orFail _ _) fun _ => .bind (.require _ _) fun _ =>
    .bind (.require _ _) fun _ => .bind (.require _ _) fun _ => .ret _

/-- Neither an attempt nor a delivery is written. -/
def Elsewhere (w : Write Row) : Prop := w.table ≠ .orderDispatchAttempt ∧ w.table ≠ .delivery

theorem AsksNoOne.put {db' : Store} {w : Write Row} (h : AsksNoOne orderId db db')
    (hw : Elsewhere w) : AsksNoOne orderId db (db'.put w) :=
  h.trans (.of_get (fun _ => Db.get_put_ne _ fun hkey => hw.1 (congrArg Prod.fst hkey).symm)
    fun _ => Db.get_put_ne _ fun hkey => hw.2 (congrArg Prod.fst hkey).symm)

theorem upsertAvailability_elsewhere (riderId : Id) (availability : RiderAvailability) :
    (RiderAvailabilityService.upsertAvailability riderId availability).Writes Elsewhere := by
  refine ⟨fun db b ws hws w hw => ?_, fun _ => True.intro⟩
  beta_reduce at hws
  split at hws <;> cases hws
  rw [List.mem_singleton.mp hw]
  constructor <;> simp

theorem markCurrentRiderOnline_elsewhere (currentUser : AuthenticatedUser) (now : Date) :
    (RiderAvailabilityService.markCurrentRiderOnline currentUser now).Writes Elsewhere := by
  refine .bind (resolveOwnedRider_readOnly currentUser).writes fun rider => .bind (.get _)
    fun active => .bind (.require _ _) fun _ => .bind (.get _) fun online => ?_
  split
  · exact .ret ()
  · exact .transaction (upsertAvailability_elsewhere _ _)

theorem markCurrentRiderOffline_elsewhere (currentUser : AuthenticatedUser) (now : Date) :
    (RiderAvailabilityService.markCurrentRiderOffline currentUser now).Writes Elsewhere := by
  refine .bind (resolveOwnedRider_readOnly currentUser).writes fun rider => .bind (.get _)
    fun offline => ?_
  split
  · exact .ret ()
  · exact .transaction (upsertAvailability_elsewhere _ _)

/-- An operation that writes neither asks no one. -/
theorem asksNoOne_of_writes {α : Type} {p : StoreService α} (hp : p.Writes Elsewhere) :
    AsksNoOne orderId db (p.run db).2 :=
  hp.run (I := fun db' => AsksNoOne orderId db db') (fun _ _ h hw => h.put hw) (.refl db)

/-- What any of the operations does about an order that the administrator leaves alone. -/
theorem DispatchCall.dispatching (call : DispatchCall) (h : Dispatched db orderId)
    (hassigns : ¬ call.Assigns orderId) : Dispatching orderId db (call.run db) := by
  cases call with
  | autoDispatchOrder ids orderId' => exact (handleAutoDispatchOrder_dispatching ids orderId').run
  | autoDispatchForRider ids riderId township =>
    exact (handleAutoDispatchForRider_dispatching h ids riderId township).run
  | dispatchTimeout ids orderId' attemptId =>
    exact (handleRiderDispatchTimeout_dispatching ids orderId' attemptId).run
  | rider action currentUser input => exact .inl (riderAction_asksNoOne action currentUser input).run
  | assignRider newDeliveryId currentUser orderId' riderId reasonCode note =>
    exact .inl (assignRiderToOrder_asksNoOne hassigns).run
  | markOnline currentUser now =>
    exact .inl (asksNoOne_of_writes (markCurrentRiderOnline_elsewhere currentUser now))
  | markOffline currentUser now =>
    exact .inl (asksNoOne_of_writes (markCurrentRiderOffline_elsewhere currentUser now))

end Operations

/-! ## Runs -/

section Runs

variable {orderId : Id}

/-- The order is dispatched as it should be, and whoever turned it down was asked about it. -/
structure DispatchLog.Sound (orderId : Id) (s : DispatchLog) : Prop where
  dispatched : Dispatched s.db orderId
  declined : ∀ riderId, (orderId, riderId) ∈ s.declined → Asked s.db orderId riderId

/-- Only who was asked can turn an order down. -/
theorem DispatchCall.declines_asked {call : DispatchCall} {db : Store} {riderId : Id}
    (h : Dispatched db orderId) (hdeclines : call.declines db = some (orderId, riderId)) :
    Asked db orderId riderId := by
  cases call with
  | rider action currentUser input =>
    cases action with
    | reject =>
      obtain ⟨riderId', -, hfound⟩ := Option.bind_eq_some_iff.mp hdeclines
      obtain ⟨record, hrecord, hpair⟩ := Option.map_eq_some_iff.mp hfound
      obtain ⟨hof, rfl⟩ := Prod.mk.inj hpair
      have hfind := (Option.filter_eq_some_iff.mp hrecord).1
      obtain ⟨-, hdelivery, -⟩ := get_of_findById (find_of_findRiderDeliveryById hfind)
      have hscope : record.delivery.riderId = some riderId' :=
        eq_of_beq (Option.filter_eq_some_iff.mp hfind).2
      exact h.asked _ _ _ hdelivery hof hscope
    | _ => cases hdeclines
  | dispatchTimeout ids orderId' attemptId =>
    obtain ⟨attempt, hattempt, hpair⟩ := Option.map_eq_some_iff.mp hdeclines
    obtain ⟨hget, hpending⟩ := Option.filter_eq_some_iff.mp hattempt
    obtain ⟨hof, hrider⟩ := Prod.mk.inj hpair
    exact ⟨attemptId, attempt, hget, hof, hrider, by rw [eq_of_beq hpending]; simp⟩
  | _ => cases hdeclines

/-- Before and after what the operation says, whoever has turned the order down was asked before
it. -/
theorem DispatchLog.Sound.asked_of_declined {s : DispatchLog} (h : s.Sound orderId)
    {call : DispatchCall} {riderId : Id} (hmem : (orderId, riderId) ∈ (call.track s).declined) :
    Asked s.db orderId riderId := by
  rcases List.mem_append.mp hmem with hnow | hbefore
  · exact DispatchCall.declines_asked h.dispatched (Option.mem_toList.mp hnow)
  · exact h.declined riderId hbefore

theorem DispatchLog.Sound.track {s : DispatchLog} (h : s.Sound orderId) {call : DispatchCall}
    (hassigns : ¬ call.Assigns orderId) : (call.track s).Sound orderId := by
  have hcall := call.dispatching h.dispatched hassigns
  exact ⟨hcall.dispatched h.dispatched,
    fun riderId hmem => hcall.asked_of (h.asked_of_declined hmem)⟩

/-- An offer is one to a rider who was not tried. -/
theorem DispatchLog.Sound.offersAfresh {s : DispatchLog} (h : s.Sound orderId)
    {call : DispatchCall} (hassigns : ¬ call.Assigns orderId) : call.OffersAfresh orderId s := by
  intro riderId hoffers
  rcases call.dispatching h.dispatched hassigns with hnone | ⟨db₁, attemptId, riderId', hnone,
    huntried, hoffered⟩
  · -- the operation asks no one
    rcases hoffers with ⟨i, attempt, hnew, hget, hof, -⟩ | ⟨i, delivery, hget, hof, hrider, hnot⟩
    · obtain ⟨attempt', hget', -⟩ := hnone.attempt i attempt hget hof
      cases hnew.symm.trans hget'
    · obtain ⟨delivery', hget', -, hrider'⟩ := hnone.rider i delivery riderId hget hof hrider
      exact absurd hrider' (hnot delivery' hget')
  · obtain ⟨attempt, hattempt, hof, hrider, houtcome⟩ := hoffered.attempt
    -- the rider of the offer is the one asked
    have hsame : riderId' = riderId := by
      rcases hoffers with ⟨i, a, hnew, hget, ha, hr⟩ | ⟨i, delivery, hget, hd, hr, hnot⟩
      · by_cases hi : i = attemptId
        · subst hi
          cases hattempt.symm.trans hget
          exact hrider.symm.trans hr
        · obtain ⟨a', hget', -⟩ :=
            hnone.attempt i a ((hoffered.others i hi).symm.trans hget) ha
          cases hnew.symm.trans hget'
      · have hkept : ∀ d, db₁.get (.delivery, i) = some d → d.orderId = orderId →
            d.riderId ≠ some riderId := by
          intro d hd' hdof hdr
          obtain ⟨d', hd'', -, hdr'⟩ := hnone.rider i d riderId hd' hdof hdr
          exact hnot d' hd'' hdr'
        rcases houtcome with ⟨-, hsame⟩ | ⟨-, deliveryId, -, hwritten⟩
        · exact absurd hr (hkept delivery ((hsame i).symm.trans hget) hd)
        · rw [hwritten] at hget
          split at hget
          · cases hget
            exact Option.some.inj hr
          · exact absurd hr (hkept delivery hget hd)
    subst hsame
    refine ⟨fun hmem => huntried.notAsked ((hnone.asked _).mpr (h.asked_of_declined hmem)),
      fun i a hget ha hr => ?_, hoffered.count.trans_lt huntried.count⟩
    by_cases hi : i = attemptId
    · subst hi
      cases hattempt.symm.trans hget
      rcases houtcome with ⟨hfailed, -⟩ | ⟨hpending, -⟩
      · simp [hfailed]
      · simp [hpending]
    · have hfailed : a.outcomeCode = .failed := by
        by_contra hreached
        exact huntried.notAsked ⟨i, a, (hoffered.others i hi).symm.trans hget, ha, hr, hreached⟩
      simp [hfailed]

/-- An order that no one was asked about and that has no delivery. -/
theorem dispatched_of_new {db : Store}
    (hattempt : ∀ i attempt, db.get (.orderDispatchAttempt, i) = some attempt →
      attempt.orderId ≠ orderId)
    (hdelivery : ∀ i delivery, db.get (.delivery, i) = some delivery →
      delivery.orderId ≠ orderId) : Dispatched db orderId where
  delivered := fun _ ⟨i, attempt, hget, hof, _⟩ => absurd hof (hattempt i attempt hget)
  asked := fun i delivery _ hget hof _ => absurd hof (hdelivery i delivery hget)

/-- **Auto-dispatch does not repeat itself.** However the jobs, the timeouts and the riders'
answers follow one another, an order is never offered to a rider who has turned it down, nor once
three attempts at it have come to nothing. Other orders may be dispatched in between, also by an
administrator. -/
theorem auto_dispatch_never_repeats {db : Store} (h : Dispatched db orderId)
    (calls : List DispatchCall) (hassigns : ∀ call ∈ calls, ¬ call.Assigns orderId) :
    MeetAll DispatchCall.track (DispatchCall.OffersAfresh orderId) calls ⟨db, []⟩ := by
  have hrun : ∀ (calls : List DispatchCall) (s : DispatchLog), s.Sound orderId →
      (∀ call ∈ calls, ¬ call.Assigns orderId) →
        MeetAll DispatchCall.track (DispatchCall.OffersAfresh orderId) calls s := by
    intro calls
    induction calls with
    | nil => exact fun _ _ _ => True.intro
    | cons call calls ih =>
      intro s hs hothers
      obtain ⟨hcall, hrest⟩ := List.forall_mem_cons.mp hothers
      exact ⟨hs.offersAfresh hcall, ih _ (hs.track hcall) hrest⟩
  exact hrun calls ⟨db, []⟩ ⟨h, fun _ hmem => absurd hmem List.not_mem_nil⟩ hassigns

/-- The first rider rejects the order and comes online again; the second lets it time out. -/
def twoRefusals : List DispatchCall := [
  .autoDispatchOrder ⟨1, 1, 0⟩ 1,
  .rider .reject teaRider ⟨1, none, none⟩,
  .markOffline teaRider 1,
  .markOnline teaRider 2,
  .autoDispatchForRider ⟨2, 2, 3⟩ 1 none,
  .autoDispatchOrder ⟨3, 3, 4⟩ 1,
  .dispatchTimeout ⟨4, 4, 5⟩ 1 3]

/-- The order was offered to each of the riders once. -/
theorem auto_dispatch_never_repeats_twoRiderShop :
    MeetAll DispatchCall.track (DispatchCall.OffersAfresh 1) twoRefusals ⟨twoRiderShop, []⟩ ∧
      (findAttempts (runAll DispatchCall.run twoRefusals twoRiderShop) 1).map
        (fun a => (a.2.riderId, a.2.outcomeCode)) = [(2, .timeout), (1, .rejected)] := by
  have hnew : twoRiderShop.list .orderDispatchAttempt (fun _ => true) = [] ∧
      twoRiderShop.list .delivery (fun _ => true) = [] := by decide
  refine ⟨auto_dispatch_never_repeats (dispatched_of_new (fun i attempt hget => ?_)
    fun i delivery hget => ?_) _ (by simp [twoRefusals, DispatchCall.Assigns]), by decide +kernel⟩
  · have hmem := Db.mem_list (p := fun _ => true) |>.mpr ⟨hget, rfl⟩
    rw [hnew.1] at hmem
    cases hmem
  · have hmem := Db.mem_list (p := fun _ => true) |>.mpr ⟨hget, rfl⟩
    rw [hnew.2] at hmem
    cases hmem

end Runs

end WerTe
