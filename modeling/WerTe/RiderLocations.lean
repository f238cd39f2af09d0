import Mathlib.Data.Set.Finite.Lemmas
import WerTe.Cached.ReadThrough
import WerTe.DispatchHistory

/-!
# Where a rider is

`rider-location.service.ts`: a rider's phone sends where it is, with the time at which it was
there. The place that came before is written over whatever its time was; only a request that says
what is stored already is passed over.

So what is stored is what the last request said that was accepted (`ingest_shows`), and it is the
newest place just when no earlier request was about a later time (`rider_position_iff`).
-/

namespace WerTe.RiderLocationService

open ReadCommitted Cached RiderAvailabilityService

/-! ## Numbers -/

/-- JavaScript's numbers `ν` and the database's decimals `δ`: how they are written as texts, and
what a column keeps of a number. -/
structure NumberRules (ν δ : Type) where
  numberText : ν → String
  decimalText : δ → String
  column : ν → δ

/-! ## `ingest-rider-location.dto.ts`, `rider-location.dto.ts` -/

structure IngestRiderLocationDto (ν : Type) where
  latitude : ν
  longitude : ν
  heading : Option ν := none
  speed : Option ν := none
  accuracyMeters : Option ν := none
  recordedAt : Date
deriving DecidableEq

/-- `RiderCurrentLocation`; the key, which is the rider's id, is left out. `RiderLocationHistory`
keeps the same. -/
structure RiderCurrentLocation (δ : Type) where
  deliveryId : Option Id
  latitude : δ
  longitude : δ
  heading : Option δ
  speed : Option δ
  accuracyMeters : Option δ
  recordedAt : Date
deriving DecidableEq

structure RiderLocationDto where
  riderId : Id
  deliveryId : Option Id
  latitude : String
  longitude : String
  heading : Option String
  speed : Option String
  accuracyMeters : Option String
  recordedAt : Date
  duplicate : Bool
deriving DecidableEq

/-- The places of riders, and where they have been, the last first. -/
structure RiderLocations (δ : Type) where
  current : Id → Option (RiderCurrentLocation δ)
  history : List (Id × RiderCurrentLocation δ)

section Service

variable {ν δ : Type} (rules : NumberRules ν δ)

/-! ## `rider-location-policy.helper.ts` -/

def canIngestRiderLocation (data : Store) (riderId : Id) (rider : Rider)
    (hasActiveDelivery : Bool) : Bool :=
  if ((data.get (.user, rider.userId)).any fun user => user.status != .active) ||
      rider.status != .active then false
  else hasActiveDelivery ||
    (data.get (.riderAvailability, riderId)).any fun availability => availability.isOnline

def sameOptionalDecimal : Option δ → Option ν → Bool
  | none, none => true
  | some currentValue, some nextValue =>
    rules.decimalText currentValue == rules.numberText nextValue
  | _, _ => false

def isDuplicateRiderLocation (location : RiderCurrentLocation δ) (deliveryId : Option Id)
    (payload : IngestRiderLocationDto ν) : Bool :=
  location.deliveryId == deliveryId &&
    rules.decimalText location.latitude == rules.numberText payload.latitude &&
    rules.decimalText location.longitude == rules.numberText payload.longitude &&
    sameOptionalDecimal rules location.heading payload.heading &&
    sameOptionalDecimal rules location.speed payload.speed &&
    sameOptionalDecimal rules location.accuracyMeters payload.accuracyMeters &&
    location.recordedAt == payload.recordedAt

/-! ## `rider-location.service.ts` -/

/-- `findRiderActiveDelivery`, the one that was changed last. -/
def findRiderActiveDelivery (data : Store) (riderId : Id) : Option Id :=
  ((data.list .delivery fun delivery => delivery.riderId == some riderId &&
    activeDeliveryStatuses.contains delivery.status).head?).map Prod.fst

/-- What the columns keep of a payload. -/
def stored (deliveryId : Option Id) (payload : IngestRiderLocationDto ν) :
    RiderCurrentLocation δ where
  deliveryId
  latitude := rules.column payload.latitude
  longitude := rules.column payload.longitude
  heading := payload.heading.map rules.column
  speed := payload.speed.map rules.column
  accuracyMeters := payload.accuracyMeters.map rules.column
  recordedAt := payload.recordedAt

def toRiderLocationDto (riderId : Id) (location : RiderCurrentLocation δ) (duplicate : Bool) :
    RiderLocationDto where
  riderId
  deliveryId := location.deliveryId
  latitude := rules.decimalText location.latitude
  longitude := rules.decimalText location.longitude
  heading := location.heading.map rules.decimalText
  speed := location.speed.map rules.decimalText
  accuracyMeters := location.accuracyMeters.map rules.decimalText
  recordedAt := location.recordedAt
  duplicate

/-- `upsertCurrentLocation` and `createLocationHistory`, in one transaction. -/
def saveLocation (riderId : Id) (location : RiderCurrentLocation δ) :
    EStateM Failure (RiderLocations δ) Unit :=
  modify fun locations => {
    current := Function.update locations.current riderId (some location)
    history := (riderId, location) :: locations.history }

/-- A request, when the other tables hold `data`. -/
def ingestCurrentRiderLocation (data : Store) (currentUser : AuthenticatedUser)
    (payload : IngestRiderLocationDto ν) :
    EStateM Failure (RiderLocations δ) RiderLocationDto := do
  let rider ← Cached.ofExcept ((resolveOwnedRider currentUser).run data).1
  let activeDelivery := findRiderActiveDelivery data rider.1
  Cached.require (canIngestRiderLocation data rider.1 rider.2 activeDelivery.isSome = true)
    (fail ("Rider location updates require an active rider account that is online or actively " ++
      "delivering an order.") .conflict)
  let locations ← get
  match (locations.current rider.1).filter fun location =>
      isDuplicateRiderLocation rules location activeDelivery payload with
  | some currentLocation => pure (toRiderLocationDto rules rider.1 currentLocation true)
  | none => do
    saveLocation rider.1 (stored rules activeDelivery payload)
    pure (toRiderLocationDto rules rider.1 (stored rules activeDelivery payload) false)

end Service

/-! ## Runs -/

/-- A request of a rider's phone, with what the other tables hold when it comes. -/
structure LocationRequest (ν : Type) where
  data : Store
  currentUser : AuthenticatedUser
  payload : IngestRiderLocationDto ν

section Runs

variable {ν δ : Type} (rules : NumberRules ν δ)

def LocationRequest.run (request : LocationRequest ν) (locations : RiderLocations δ) :
    RiderLocations δ :=
  match ingestCurrentRiderLocation rules request.data request.currentUser request.payload
      locations with
  | .ok _ locations' => locations'
  | .error _ locations' => locations'

/-- The request is the rider's, who has this active delivery, and it is accepted. -/
def Accepts (riderId : Id) (deliveryId : Option Id) (request : LocationRequest ν)
    (locations : RiderLocations δ) : Prop :=
  findRiderActiveDelivery request.data riderId = deliveryId ∧
    Cached.Ends (ingestCurrentRiderLocation rules request.data request.currentUser request.payload)
      locations fun r _ => ∃ dto, r = .ok dto ∧ dto.riderId = riderId

end Runs

section Steps

variable {ν δ : Type} {rules : NumberRules ν δ} {riderId : Id} {deliveryId : Option Id}
  {request : LocationRequest ν} {locations : RiderLocations δ}

/-- What a request that is accepted leaves. -/
theorem ingest_ends (data : Store) (currentUser : AuthenticatedUser)
    (payload : IngestRiderLocationDto ν) :
    Cached.Ends (ingestCurrentRiderLocation rules data currentUser payload) locations
      fun r locations' => ∀ dto, r = .ok dto →
        locations'.current dto.riderId =
            some (stored rules (findRiderActiveDelivery data dto.riderId) payload) ∨
          locations' = locations ∧ ∃ location, locations.current dto.riderId = some location ∧
            isDuplicateRiderLocation rules location (findRiderActiveDelivery data dto.riderId)
              payload = true := by
  refine .bind (.ofExcept ?_)
  cases ((resolveOwnedRider currentUser).run data).1 with
  | error e => exact fun dto h => by cases h
  | ok rider =>
    refine .require_bind (fun _ => .bind (.get ?_)) fun _ dto h => by cases h
    dsimp only
    cases hsame : (locations.current rider.1).filter fun location => isDuplicateRiderLocation rules
        location (findRiderActiveDelivery data rider.1) payload with
    | some location =>
      obtain ⟨hlocation, hduplicate⟩ := Option.filter_eq_some_iff.mp hsame
      refine .ret fun dto h => .inr ⟨rfl, location, ?_⟩
      cases h
      exact ⟨hlocation, hduplicate⟩
    | none =>
      refine .bind (.modify (.ret fun dto h => .inl ?_))
      cases h
      exact Function.update_self ..

/-- An accepted request is stored, or says what is stored already. -/
theorem Accepts.cases (h : Accepts rules riderId deliveryId request locations) :
    (request.run rules locations).current riderId =
        some (stored rules deliveryId request.payload) ∨
      request.run rules locations = locations ∧ ∃ location,
        locations.current riderId = some location ∧
          isDuplicateRiderLocation rules location deliveryId request.payload = true := by
  obtain ⟨rfl, haccepted⟩ := h
  have hends : Cached.Ends (ingestCurrentRiderLocation rules request.data request.currentUser
      request.payload) locations _ := ingest_ends request.data request.currentUser request.payload
  obtain ⟨_, locations', hok, dto, hdto, rfl⟩ | ⟨_, _, _, _, herror, _⟩ := haccepted.result
  · cases hdto
    obtain ⟨_, _, hok', hshows⟩ | ⟨_, _, herror, _⟩ := hends.result
    · obtain ⟨rfl, rfl⟩ := EStateM.Result.ok.inj (hok.symm.trans hok')
      rw [LocationRequest.run, hok]
      exact hshows _ rfl
    · cases hok.symm.trans herror
  · cases herror

/-- When a request is accepted. -/
theorem accepts_of {rider : Rider}
    (hrider : ((resolveOwnedRider request.currentUser).run request.data).1 = .ok (riderId, rider))
    (hmay : canIngestRiderLocation request.data riderId rider
      (findRiderActiveDelivery request.data riderId).isSome = true) :
    Accepts rules riderId (findRiderActiveDelivery request.data riderId) request locations := by
  refine ⟨rfl, .bind (.ofExcept ?_)⟩
  rw [hrider]
  refine .require_bind (fun _ => .bind (.get ?_)) fun hnot => absurd hmay hnot
  dsimp only
  split
  · exact .ret ⟨_, rfl, rfl⟩
  · exact .bind (.modify (.ret ⟨_, rfl, rfl⟩))

/-- One accepted request: its place is stored, if places with the time of a request are its own. -/
theorem Accepts.current_eq (h : Accepts rules riderId deliveryId request locations)
    (hsame : ∀ location, locations.current riderId = some location →
      location.recordedAt = request.payload.recordedAt →
        location = stored rules deliveryId request.payload) :
    (request.run rules locations).current riderId =
      some (stored rules deliveryId request.payload) := by
  obtain hstored | ⟨hkept, location, hlocation, hduplicate⟩ := h.cases
  · exact hstored
  · have htime : location.recordedAt = request.payload.recordedAt := by
      rw [isDuplicateRiderLocation, Bool.and_eq_true] at hduplicate
      exact eq_of_beq hduplicate.2
    rw [hkept, hlocation, hsame location hlocation htime]

/-- What has been stored is what some request said. -/
theorem ingest_shows (requests : List (LocationRequest ν)) (said : IngestRiderLocationDto ν → Prop)
    (hdistinct : ∀ payload payload', said payload → said payload' →
      payload.recordedAt = payload'.recordedAt → payload = payload')
    (hsaid : ∀ request ∈ requests, said request.payload) :
    ∀ {locations : RiderLocations δ},
      MeetAll (LocationRequest.run rules) (Accepts rules riderId deliveryId) requests locations →
      (∀ location, locations.current riderId = some location →
        (∀ payload, said payload → payload.recordedAt ≠ location.recordedAt) ∨
          ∃ payload, said payload ∧ location = stored rules deliveryId payload) →
      ∀ hne : requests ≠ [],
        (runAll (LocationRequest.run rules) requests locations).current riderId =
          some (stored rules deliveryId (requests.getLast hne).payload) := by
  induction requests with
  | nil => exact fun _ _ hne => absurd rfl hne
  | cons request requests ih =>
    intro locations haccepts hstart hne
    -- what the request finds stored with its own time is what it says itself
    have hcurrent := haccepts.1.current_eq fun location hlocation htime => by
      obtain hnone | ⟨payload, hpayload, rfl⟩ := hstart location hlocation
      · exact absurd htime.symm (hnone _ (hsaid request List.mem_cons_self))
      · rw [hdistinct payload request.payload hpayload (hsaid request List.mem_cons_self) htime]
    cases requests with
    | nil => exact hcurrent
    | cons next requests =>
      refine ih (fun request hmem => hsaid request (List.mem_cons_of_mem _ hmem)) haccepts.2
        (fun location hlocation => .inr ?_) (List.cons_ne_nil _ _)
      exact ⟨request.payload, hsaid request List.mem_cons_self,
        Option.some.inj (hlocation.symm.trans hcurrent)⟩

/-- After requests of a rider whose active delivery does not change, which have different times
unless they say the same, the newest place is stored if and only if the last request has it. -/
theorem rider_position_iff (rules : NumberRules ν δ) (riderId : Id) (deliveryId : Option Id)
    (requests : List (LocationRequest ν)) (hne : requests ≠ []) (locations : RiderLocations δ)
    (haccepts : MeetAll (LocationRequest.run rules) (Accepts rules riderId deliveryId) requests
      locations)
    (hdistinct : ∀ request ∈ requests, ∀ request' ∈ requests,
      request.payload.recordedAt = request'.payload.recordedAt →
        request.payload = request'.payload)
    (hstart : ∀ location, locations.current riderId = some location →
      ∀ request ∈ requests, request.payload.recordedAt ≠ location.recordedAt) :
    (∀ newest ∈ requests,
      (∀ request ∈ requests, request.payload.recordedAt ≤ newest.payload.recordedAt) →
        (runAll (LocationRequest.run rules) requests locations).current riderId =
          some (stored rules deliveryId newest.payload)) ↔
      ∀ request ∈ requests,
        request.payload.recordedAt ≤ (requests.getLast hne).payload.recordedAt := by
  have hlast : (runAll (LocationRequest.run rules) requests locations).current riderId =
      some (stored rules deliveryId (requests.getLast hne).payload) := by
    refine ingest_shows requests (fun payload => ∃ request ∈ requests, request.payload = payload)
      ?_ (fun request hmem => ⟨request, hmem, rfl⟩) haccepts (fun location hlocation => .inl ?_) hne
    · rintro _ _ ⟨request, hmem, rfl⟩ ⟨request', hmem', rfl⟩ htime
      exact hdistinct request hmem request' hmem' htime
    · rintro _ ⟨request, hmem, rfl⟩
      exact hstart location hlocation request hmem
  rw [hlast]
  constructor
  · intro h
    obtain ⟨newest, hmem, hnewest⟩ :=
      Set.exists_max_image {request | request ∈ requests}
        (fun request => request.payload.recordedAt) requests.finite_toSet
        (List.exists_mem_of_ne_nil requests hne)
    have hsame := Option.some.inj (h newest hmem hnewest)
    have htime : (requests.getLast hne).payload.recordedAt = newest.payload.recordedAt :=
      congrArg RiderCurrentLocation.recordedAt hsame
    exact fun request hrequest => htime ▸ hnewest request hrequest
  · intro h newest hmem hnewest
    have htime := le_antisymm (h newest hmem) (hnewest _ (List.getLast_mem hne))
    rw [hdistinct newest hmem _ (List.getLast_mem hne) htime]

end Steps

/-! ## Two requests -/

/-- Numbers as they are written, which is how a column of decimals keeps those below. -/
def sampleNumbers : NumberRules String String := ⟨id, id, id⟩

/-- A rider who is online and delivers nothing. -/
def onlineRider : Store := Db.empty.apply [
  ⟨.user, 40, some { status := .active, role := .rider }⟩,
  ⟨.rider, 1, some { userId := 40, currentTownship := none, status := .active }⟩,
  ⟨.riderAvailability, 1, some { isOnline := true, isAvailable := true, lastStatusChangedAt := 0 }⟩]

def atTen : LocationRequest String :=
  ⟨onlineRider, teaRider, { latitude := "16.834", longitude := "96.176", recordedAt := 36000000 }⟩

def aMinuteLater : LocationRequest String :=
  ⟨onlineRider, teaRider, { latitude := "16.835", longitude := "96.177", recordedAt := 36060000 }⟩

def nowhere : RiderLocations String := ⟨fun _ => none, []⟩

theorem accepts_sample {locations : RiderLocations String} {request : LocationRequest String}
    (h : request = atTen ∨ request = aMinuteLater) :
    Accepts sampleNumbers 1 none request locations := by
  have hnone : findRiderActiveDelivery onlineRider 1 = none := by decide
  obtain rfl | rfl := h <;> exact hnone ▸ accepts_of rfl (by decide)

/-- Three requests in their order, one of which comes twice. -/
theorem position_of_three : (∀ newest ∈ [atTen, aMinuteLater, aMinuteLater],
      (∀ request ∈ [atTen, aMinuteLater, aMinuteLater],
        request.payload.recordedAt ≤ newest.payload.recordedAt) →
      (runAll (LocationRequest.run sampleNumbers) [atTen, aMinuteLater, aMinuteLater]
        nowhere).current 1 = some (stored sampleNumbers none newest.payload)) ↔
    ∀ request ∈ [atTen, aMinuteLater, aMinuteLater],
      request.payload.recordedAt ≤ aMinuteLater.payload.recordedAt := by
  refine rider_position_iff sampleNumbers 1 none [atTen, aMinuteLater, aMinuteLater] (by simp)
    nowhere ⟨accepts_sample (.inl rfl), accepts_sample (.inr rfl), accepts_sample (.inr rfl),
      True.intro⟩ ?_ fun location h => by cases h
  decide +kernel

/-- The first request comes again after the second, and the rider is shown where it was before. -/
theorem late_request_wins : ¬ ∀ (requests : List (LocationRequest String)), requests ≠ [] →
    ∀ locations : RiderLocations String,
    MeetAll (LocationRequest.run sampleNumbers) (Accepts sampleNumbers 1 none) requests
      locations →
    (∀ request ∈ requests, ∀ request' ∈ requests,
      request.payload.recordedAt = request'.payload.recordedAt →
        request.payload = request'.payload) →
    (∀ location, locations.current 1 = some location →
      ∀ request ∈ requests, request.payload.recordedAt ≠ location.recordedAt) →
    ∀ newest ∈ requests,
      (∀ request ∈ requests, request.payload.recordedAt ≤ newest.payload.recordedAt) →
        (runAll (LocationRequest.run sampleNumbers) requests locations).current 1 =
          some (stored sampleNumbers none newest.payload) := by
  intro h
  have hfinal := h [atTen, aMinuteLater, atTen] (by simp) nowhere
    ⟨accepts_sample (.inl rfl), accepts_sample (.inr rfl), accepts_sample (.inl rfl), True.intro⟩
    (by decide +kernel) (fun location h => by cases h) aMinuteLater (by simp) (by decide +kernel)
  exact absurd hfinal (by decide +kernel)

end WerTe.RiderLocationService
