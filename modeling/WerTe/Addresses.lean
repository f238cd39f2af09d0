import Mathlib.Data.List.Sort
import WerTe.ReadCommitted.Flags
import WerTe.ReadCommitted.Sequential
import WerTe.Carts

/-!
# The addresses of a customer

`customer-addresses.service.ts` and `addresses.repository.ts`. A customer's addresses are to have
exactly one default address among them, which checkout falls back on: the first one created is
it, it moves when another is made the default, and when it is deleted the latest one left takes
its place.

An update that sets `isDefault` to `null`, as `@IsOptional` lets it, takes the flag from the
default address and gives it to none; nothing else does (`one_default_address`).
-/

namespace WerTe

open ReadCommitted

/-! ## Requests -/

structure CreateAddressDto where
  label : String
  line1 : String
  line2 : Field String
  landmark : Field String
  township : String
  city : Field String
  postalCode : Field String
  deliveryInstructions : Field String
  latitude : ℚ
  longitude : ℚ
  isDefault : Field Bool
deriving DecidableEq

structure UpdateAddressDto where
  label : Field String := .undefined
  line1 : Field String := .undefined
  line2 : Field String := .undefined
  landmark : Field String := .undefined
  township : Field String := .undefined
  city : Field String := .undefined
  postalCode : Field String := .undefined
  deliveryInstructions : Field String := .undefined
  latitude : Field ℚ := .undefined
  longitude : Field ℚ := .undefined
  isDefault : Field Bool := .undefined
deriving DecidableEq

/-- The row that is created. -/
def CreateAddressDto.row (payload : CreateAddressDto) (customerProfileId : Id) (isDefault : Bool)
    (createdAt : Date) : CustomerAddress where
  customerProfileId := customerProfileId
  label := payload.label
  line1 := payload.line1
  line2 := payload.line2.toOption
  landmark := payload.landmark.toOption
  township := payload.township
  city := payload.city.toOption
  postalCode := payload.postalCode.toOption
  deliveryInstructions := payload.deliveryInstructions.toOption
  isDefault := isDefault
  latitude := payload.latitude
  longitude := payload.longitude
  createdAt := createdAt

/-- What an update changes a row to, unless it sets a required column to `null`. -/
def UpdateAddressDto.data (payload : UpdateAddressDto) (isDefault : Bool) :
    Except Failure (CustomerAddress → CustomerAddress) := do
  let label ← payload.label.required "label"
  let line1 ← payload.line1.required "line1"
  let township ← payload.township.required "township"
  let latitude ← payload.latitude.required "latitude"
  let longitude ← payload.longitude.required "longitude"
  return fun address => { address with
    label := label.getD address.label
    line1 := line1.getD address.line1
    line2 := payload.line2.setNullable address.line2
    landmark := payload.landmark.setNullable address.landmark
    township := township.getD address.township
    city := payload.city.setNullable address.city
    postalCode := payload.postalCode.setNullable address.postalCode
    deliveryInstructions := payload.deliveryInstructions.setNullable address.deliveryInstructions
    isDefault := isDefault
    latitude := latitude.getD address.latitude
    longitude := longitude.getD address.longitude }

/-- The update sets a required column to `null`. -/
def UpdateAddressDto.NullsColumn (payload : UpdateAddressDto) : Prop :=
  payload.label = .null ∨ payload.line1 = .null ∨ payload.township = .null ∨
    payload.latitude = .null ∨ payload.longitude = .null

instance (payload : UpdateAddressDto) : Decidable payload.NullsColumn :=
  inferInstanceAs (Decidable (_ ∨ _))

theorem UpdateAddressDto.data_ok {payload : UpdateAddressDto} {isDefault : Bool} :
    (∃ data, payload.data isDefault = .ok data) ↔ ¬ payload.NullsColumn := by
  simp only [data, except_bind_ok, NullsColumn, not_or, ← ne_eq]
  constructor
  · rintro ⟨_, _, hlabel, _, hline1, _, htownship, _, hlatitude, _, hlongitude, -⟩
    exact ⟨Field.required_ok.mp ⟨_, hlabel⟩, Field.required_ok.mp ⟨_, hline1⟩,
      Field.required_ok.mp ⟨_, htownship⟩, Field.required_ok.mp ⟨_, hlatitude⟩,
      Field.required_ok.mp ⟨_, hlongitude⟩⟩
  · rintro ⟨hlabel, hline1, htownship, hlatitude, hlongitude⟩
    obtain ⟨_, hlabel⟩ := Field.required_ok.mpr hlabel
    obtain ⟨_, hline1⟩ := Field.required_ok.mpr hline1
    obtain ⟨_, htownship⟩ := Field.required_ok.mpr htownship
    obtain ⟨_, hlatitude⟩ := Field.required_ok.mpr hlatitude
    obtain ⟨_, hlongitude⟩ := Field.required_ok.mpr hlongitude
    exact ⟨_, _, hlabel, _, hline1, _, htownship, _, hlatitude, _, hlongitude, rfl⟩

/-- An update changes the flag as it is told to, and the owner never. -/
theorem UpdateAddressDto.data_row {payload : UpdateAddressDto} {isDefault : Bool}
    {data : CustomerAddress → CustomerAddress} (h : payload.data isDefault = .ok data)
    (address : CustomerAddress) : (data address).isDefault = isDefault ∧
      (data address).customerProfileId = address.customerProfileId := by
  simp only [UpdateAddressDto.data, except_bind_ok] at h
  obtain ⟨_, _, _, _, _, _, _, _, _, _, hdata⟩ := h
  cases hdata
  exact ⟨rfl, rfl⟩

/-! ## `addresses.repository.ts` -/

/-- An address with its profile, as `addressOwnershipInclude` loads it. -/
structure AddressOwnershipRecord where
  id : Id
  address : CustomerAddress
  ownerUserId : Id
deriving DecidableEq

namespace AddressesRepository

def findById (db : Store) (id : Id) : Option AddressOwnershipRecord := do
  let address ← db.get (.customerAddress, id)
  let customerProfile ← db.get (.customerProfile, address.customerProfileId)
  return ⟨id, address, customerProfile.userId⟩

/-- The address is one of the customer's. -/
def ofCustomer (customerProfileId : Id) (address : CustomerAddress) : Bool :=
  address.customerProfileId == customerProfileId

def countByCustomerProfileId (customerProfileId : Id) : StoreTx ℕ :=
  .read fun db => (db.list .customerAddress (ofCustomer customerProfileId)).length

def clearDefaultByCustomerProfileId (customerProfileId : Id) : StoreTx Unit :=
  .updateAll .customerAddress
    (fun address => ofCustomer customerProfileId address && address.isDefault)
    fun address => { address with isDefault := false }

def create (id : Id) (data : CustomerAddress) : StoreTx Unit :=
  .insertRow (.customerAddress, id) data fun db =>
    if (db.get (.customerAddress, id)).isSome then some (.uniqueConstraint "id") else none

def update (id : Id) (data : CustomerAddress → CustomerAddress) : StoreTx CustomerAddress :=
  .updateReturning ((.customerAddress, id) : Key Tbl) data .recordNotFound

def delete (id : Id) : StoreTx CustomerAddress :=
  .deleteExisting ((.customerAddress, id) : Key Tbl) .recordNotFound

def findLatestByCustomerProfileId (customerProfileId : Id) : StoreTx (Option (Id × CustomerAddress)) :=
  .read fun db => ((db.list .customerAddress (ofCustomer customerProfileId)).insertionSort
    fun left right => right.2.createdAt ≤ left.2.createdAt).head?

end AddressesRepository

open AddressesRepository

/-! ## `customer-addresses.service.ts` -/

namespace CustomerAddresses

def resolveCurrentCustomerProfile (currentUser : AuthenticatedUser) : StoreService Id := do
  let found ← .get fun db => findCurrentCustomerProfile db currentUser
  let profile ← .orFail found
    (fail "Customer profile was not found for the authenticated user." .notFound)
  .require (hasOwnedResourceAccess currentUser .customer profile.2.userId profile.1
      currentUser.customerProfileId = true)
    (fail "You are not allowed to manage addresses for this customer profile." .forbidden)
  pure profile.1

def canManageAddress (currentUser : AuthenticatedUser) (record : AddressOwnershipRecord) : Bool :=
  hasOwnedResourceAccess currentUser .customer record.ownerUserId record.address.customerProfileId
    currentUser.customerProfileId

def resolveOwnedAddress (currentUser : AuthenticatedUser) (addressId : Id) :
    StoreService AddressOwnershipRecord := do
  let found ← .get fun db => findById db addressId
  let record ← .orFail found (fail "Address was not found." .notFound)
  .require (canManageAddress currentUser record = true)
    (fail "You are not allowed to manage this address." .forbidden)
  pure record

/-- `clearDefaultByCustomerProfileId` under the `if` that is around it. -/
def clearDefaultIf (condition : Bool) (customerProfileId : Id) : StoreTx Unit :=
  if condition then clearDefaultByCustomerProfileId customerProfileId else pure ()

/-- The transaction that creates an address. -/
def createAddress (addressId : Id) (createdAt : Date) (customerProfileId : Id)
    (payload : CreateAddressDto) : StoreTx CustomerAddress :=
  (countByCustomerProfileId customerProfileId).bind fun existingCount =>
    let shouldBecomeDefault := payload.isDefault == .value true || existingCount == 0
    do
      clearDefaultIf shouldBecomeDefault customerProfileId
      create addressId (payload.row customerProfileId shouldBecomeDefault createdAt)
      pure (payload.row customerProfileId shouldBecomeDefault createdAt)

def createCurrentCustomerAddress (addressId : Id) (createdAt : Date)
    (currentUser : AuthenticatedUser) (payload : CreateAddressDto) :
    StoreService CustomerAddress := do
  let customerProfileId ← resolveCurrentCustomerProfile currentUser
  .transaction (createAddress addressId createdAt customerProfileId payload)

/-- Whether the address is the default after the update: it takes `undefined` for no change, but
not `null`. -/
def shouldBecomeDefault (payload : UpdateAddressDto) (address : CustomerAddress) : Bool :=
  payload.isDefault == .value true || (payload.isDefault == .undefined && address.isDefault)

/-- The transaction that updates an address. -/
def updateAddress (record : AddressOwnershipRecord) (payload : UpdateAddressDto) :
    StoreTx CustomerAddress := do
  clearDefaultIf (payload.isDefault == .value true && !record.address.isDefault)
    record.address.customerProfileId
  let data ← .ofExcept (payload.data (shouldBecomeDefault payload record.address))
  update record.id data

def updateCurrentCustomerAddress (currentUser : AuthenticatedUser) (addressId : Id)
    (payload : UpdateAddressDto) : StoreService CustomerAddress := do
  let record ← resolveOwnedAddress currentUser addressId
  .require (¬ (payload.isDefault = .value false ∧ record.address.isDefault = true)) (fail
    "A customer must always keep one default address. Set another address as default before unsetting this one."
    .unprocessableEntity)
  .transaction (updateAddress record payload)

/-- Make the latest address that is left the default. -/
def promoteLatest (customerProfileId : Id) : StoreTx Unit := do
  let fallbackAddress ← findLatestByCustomerProfileId customerProfileId
  match fallbackAddress with
  | some (fallbackId, _) => do
    let _ ← update fallbackId fun address => { address with isDefault := true }
    pure ()
  | none => pure ()

def promoteLatestIf (condition : Bool) (customerProfileId : Id) : StoreTx Unit :=
  if condition then promoteLatest customerProfileId else pure ()

/-- The transaction that deletes an address. -/
def deleteAddress (addressId : Id) : StoreTx Id := do
  let removedAddress ← delete addressId
  promoteLatestIf removedAddress.isDefault removedAddress.customerProfileId
  pure addressId

def deleteCurrentCustomerAddress (currentUser : AuthenticatedUser) (addressId : Id) :
    StoreService Id := do
  let record ← resolveOwnedAddress currentUser addressId
  .transaction (deleteAddress record.id)

end CustomerAddresses

/-! ## When the operations return -/

namespace CustomerAddresses

variable {db db' : Store} {currentUser : AuthenticatedUser}

theorem resolveCurrentCustomerProfile_readOnly (currentUser : AuthenticatedUser) :
    (resolveCurrentCustomerProfile currentUser).ReadOnly :=
  .bind (.get _) fun _ => .bind (.orFail ..) fun _ => .bind (.require ..) fun _ => .ret _

theorem resolveOwnedAddress_readOnly (addressId : Id) :
    (resolveOwnedAddress currentUser addressId).ReadOnly :=
  .bind (.get _) fun _ => .bind (.orFail ..) fun _ => .bind (.require ..) fun _ => .ret _

theorem resolveOwnedAddress_run_ok {addressId : Id} {record : AddressOwnershipRecord} :
    (resolveOwnedAddress currentUser addressId).run db = (.ok record, db') ↔
      (findById db addressId = some record ∧ canManageAddress currentUser record = true) ∧
        db' = db := by
  simp only [resolveOwnedAddress, Service.bind_eq, Service.pure_eq, Service.run_bind_ok,
    Service.run_get_ok, Service.run_orFail_ok, Service.run_require_ok, Service.run_ret_ok]
  constructor
  · rintro ⟨_, _, ⟨rfl, rfl⟩, _, _, ⟨hfind, rfl⟩, _, _, ⟨hmanage, rfl⟩, rfl, rfl⟩
    exact ⟨⟨hfind, hmanage⟩, rfl⟩
  · rintro ⟨⟨hfind, hmanage⟩, rfl⟩
    exact ⟨_, _, ⟨rfl, rfl⟩, record, _, ⟨hfind, rfl⟩, (), _, ⟨hmanage, rfl⟩, rfl, rfl⟩

/-- An update is carried out on an address of the caller's own, unless it sets the default
address's flag to `false`. -/
theorem updateCurrentCustomerAddress_run_ok {addressId : Id} {payload : UpdateAddressDto}
    {address : CustomerAddress} :
    (updateCurrentCustomerAddress currentUser addressId payload).run db = (.ok address, db') ↔
      ∃ record, findById db addressId = some record ∧ canManageAddress currentUser record = true ∧
        ¬ (payload.isDefault = .value false ∧ record.address.isDefault = true) ∧
        (updateAddress record payload).run db = .ok (address, db') := by
  simp only [updateCurrentCustomerAddress, Service.bind_eq, Service.run_bind_ok,
    resolveOwnedAddress_run_ok, Service.run_require_ok, Service.run_transaction_ok]
  constructor
  · rintro ⟨record, _, ⟨⟨hfind, hmanage⟩, rfl⟩, _, _, ⟨hkeep, rfl⟩, hupdate⟩
    exact ⟨record, hfind, hmanage, hkeep, hupdate⟩
  · rintro ⟨record, hfind, hmanage, hkeep, hupdate⟩
    exact ⟨record, db, ⟨⟨hfind, hmanage⟩, rfl⟩, (), db, ⟨hkeep, rfl⟩, hupdate⟩

theorem createCurrentCustomerAddress_atomic (addressId : Id) (createdAt : Date)
    (payload : CreateAddressDto) :
    (createCurrentCustomerAddress addressId createdAt currentUser payload).Atomic :=
  .bind (resolveCurrentCustomerProfile_readOnly currentUser) fun _ => .transaction _

theorem updateCurrentCustomerAddress_atomic (addressId : Id) (payload : UpdateAddressDto) :
    (updateCurrentCustomerAddress currentUser addressId payload).Atomic :=
  .bind (resolveOwnedAddress_readOnly addressId) fun _ =>
    .bind (.require ..) fun _ => .transaction _

theorem deleteCurrentCustomerAddress_atomic (addressId : Id) :
    (deleteCurrentCustomerAddress currentUser addressId).Atomic :=
  .bind (resolveOwnedAddress_readOnly addressId) fun _ => .transaction _

/-! ## One default address -/

/-- If the customer has any address, then exactly one of them is the default. -/
def OneDefault (db : Store) (customerProfileId : Id) : Prop :=
  db.OneFlagged .customerAddress (ofCustomer customerProfileId) (·.isDefault)

instance (db : Store) (customerProfileId : Id) : Decidable (OneDefault db customerProfileId) :=
  inferInstanceAs (Decidable (_ = _))

/-- The address is the customer's, and the default. -/
def defaultOf (customerProfileId : Id) (address : CustomerAddress) : Bool :=
  ofCustomer customerProfileId address && address.isDefault

/-- The database in which no address of the customer is the default. -/
def cleared (db : Store) (customerProfileId : Id) : Store :=
  db.apply (db.updates .customerAddress (defaultOf customerProfileId)
    fun address => { address with isDefault := false })

theorem run_clearDefault (customerProfileId : Id) :
    (clearDefaultByCustomerProfileId customerProfileId).run db =
      .ok ((), cleared db customerProfileId) := rfl

section Cleared

variable {c c' : Id} {i : Id}

theorem has_ofCustomer_cleared : (cleared db c').Has .customerAddress (ofCustomer c) i ↔
    db.Has .customerAddress (ofCustomer c) i := Db.has_updates_of_eq fun _ => rfl

theorem has_defaultOf_cleared : (cleared db c').Has .customerAddress (defaultOf c) i ↔
    c ≠ c' ∧ db.Has .customerAddress (defaultOf c) i := by
  rw [cleared, Db.has_updates]
  constructor
  · rintro ⟨address, hget, hdefault⟩
    by_cases hclear : defaultOf c' address = true
    · rw [if_pos hclear] at hdefault
      simp [defaultOf] at hdefault
    · rw [if_neg hclear] at hdefault
      refine ⟨?_, address, hget, hdefault⟩
      rintro rfl
      exact hclear hdefault
  · rintro ⟨hne, address, hget, hdefault⟩
    refine ⟨address, hget, ?_⟩
    have hother : ¬ defaultOf c' address = true := by
      simp only [defaultOf, ofCustomer, Bool.and_eq_true, beq_iff_eq] at hdefault ⊢
      exact fun h => hne (hdefault.1.symm.trans h.1)
    rwa [if_neg hother]

theorem get_cleared_of_not_default {address : CustomerAddress}
    (hget : db.get (.customerAddress, i) = some address) (h : address.isDefault = false) :
    (cleared db c').get (.customerAddress, i) = some address := by
  rw [cleared, Db.get_apply_updates, hget, Option.map_some, defaultOf, h, Bool.and_false,
    if_neg Bool.false_ne_true]

/-- The others keep their default address. -/
theorem OneDefault.clear (h : OneDefault db c) (hne : c ≠ c') : OneDefault (cleared db c') c :=
  h.congr (fun _ => has_ofCustomer_cleared) fun _ => has_defaultOf_cleared.trans (and_iff_right hne)

end Cleared

/-! ### One address written or deleted -/

section Write

variable {c : Id} {i : Id} {address : CustomerAddress}

/-- The row under `i`, if there is one, is another customer's. -/
def OfOther (db : Store) (c i : Id) : Prop := ¬ db.Has .customerAddress (ofCustomer c) i

theorem OneDefault.put_other (h : OneDefault db c) (hold : OfOther db c i)
    (hnew : address.customerProfileId ≠ c) :
    OneDefault (db.put ⟨.customerAddress, i, some address⟩) c := by
  have hkept : ∀ p : CustomerAddress → Bool, (∀ a, p a = true → ofCustomer c a = true) → ∀ j,
      (db.put ⟨.customerAddress, i, some address⟩).Has .customerAddress p j ↔
        db.Has .customerAddress p j := by
    intro p hp j
    rw [Db.has_put]
    constructor
    · rintro (⟨-, hnew'⟩ | ⟨-, hhas⟩)
      · exact (hnew (beq_iff_eq.mp (hp _ hnew'))).elim
      · exact hhas
    · intro hhas
      refine .inr ⟨?_, hhas⟩
      rintro rfl
      exact hold (hhas.mono hp)
  exact h.congr (hkept _ fun _ ha => ha) (hkept _ fun _ ha => (Bool.and_eq_true_iff.mp ha).1)

theorem OneDefault.erase_other (h : OneDefault db c) (hold : OfOther db c i) :
    OneDefault (db.put ⟨.customerAddress, i, none⟩) c := by
  have hkept : ∀ p : CustomerAddress → Bool, (∀ a, p a = true → ofCustomer c a = true) → ∀ j,
      (db.put ⟨.customerAddress, i, none⟩).Has .customerAddress p j ↔
        db.Has .customerAddress p j := by
    intro p hp j
    rw [Db.has_erase]
    refine and_iff_right_of_imp fun hhas => ?_
    rintro rfl
    exact hold (hhas.mono hp)
  exact h.congr (hkept _ fun _ ha => ha) (hkept _ fun _ ha => (Bool.and_eq_true_iff.mp ha).1)

/-- An address becomes the default when no other is. -/
theorem oneDefault_put (hnone : ∀ j, j ≠ i → ¬ db.Has .customerAddress (defaultOf c) j)
    (hdefault : defaultOf c address = true) :
    OneDefault (db.put ⟨.customerAddress, i, some address⟩) c := by
  refine Db.oneFlagged_of_iff (j := i) fun j => ?_
  change (db.put ⟨.customerAddress, i, some address⟩).Has .customerAddress (defaultOf c) j ↔ _
  rw [Db.has_put]
  constructor
  · rintro (⟨hj, -⟩ | ⟨hj, hhas⟩)
    · exact hj
    · exact (hnone j hj hhas).elim
  · exact fun hj => .inl ⟨hj, hdefault⟩

/-- An address that was not the default is written and is not the default, while the customer has
one already. -/
theorem OneDefault.put_plain (h : OneDefault db c) {k : Id}
    (hsome : db.Has .customerAddress (ofCustomer c) k)
    (hold : ¬ db.Has .customerAddress (defaultOf c) i) (hnew : address.isDefault = false) :
    OneDefault (db.put ⟨.customerAddress, i, some address⟩) c := by
  have hdefaults : ∀ j, (db.put ⟨.customerAddress, i, some address⟩).Has .customerAddress
      (defaultOf c) j ↔ db.Has .customerAddress (defaultOf c) j := by
    intro j
    rw [Db.has_put]
    constructor
    · rintro (⟨-, hdefault⟩ | ⟨-, hhas⟩)
      · simp [defaultOf, hnew] at hdefault
      · exact hhas
    · intro hhas
      refine .inr ⟨?_, hhas⟩
      rintro rfl
      exact hold hhas
  obtain ⟨hexists, hunique⟩ := Db.oneFlagged_iff.mp h
  obtain ⟨j, hj⟩ := hexists k hsome
  exact Db.oneFlagged_iff.mpr ⟨fun _ _ => ⟨j, (hdefaults j).mpr hj⟩,
    fun i' j' hi' hj' => hunique i' j' ((hdefaults i').mp hi') ((hdefaults j').mp hj')⟩

/-- The default address is written and remains the default. -/
theorem OneDefault.put_default (h : OneDefault db c)
    (hold : db.Has .customerAddress (defaultOf c) i) (hnew : defaultOf c address = true) :
    OneDefault (db.put ⟨.customerAddress, i, some address⟩) c := by
  refine oneDefault_put (fun j hj hhas => hj ?_) hnew
  exact (Db.oneFlagged_iff.mp h).2 j i hhas hold

/-- The default address is written and loses the flag. -/
theorem OneDefault.unset (h : OneDefault db c) (hold : db.Has .customerAddress (defaultOf c) i)
    (hnew : ofCustomer c address = true) (hplain : address.isDefault = false) :
    ¬ OneDefault (db.put ⟨.customerAddress, i, some address⟩) c := by
  intro hone
  have hthere : (db.put ⟨.customerAddress, i, some address⟩).Has .customerAddress
      (ofCustomer c) i := Db.has_put.mpr (.inl ⟨rfl, hnew⟩)
  obtain ⟨j, hj⟩ := (Db.oneFlagged_iff.mp hone).1 i hthere
  rcases Db.has_put.mp hj with ⟨-, hdefault⟩ | ⟨hne, hhas⟩
  · simp [hplain] at hdefault
  · exact hne ((Db.oneFlagged_iff.mp h).2 j i hhas hold)

/-- An address that was not the default is deleted. -/
theorem OneDefault.erase_plain (h : OneDefault db c)
    (hold : ¬ db.Has .customerAddress (defaultOf c) i) :
    OneDefault (db.put ⟨.customerAddress, i, none⟩) c := by
  obtain ⟨hexists, hunique⟩ := Db.oneFlagged_iff.mp h
  refine Db.oneFlagged_iff.mpr ⟨fun k hk => ?_, fun i' j' hi' hj' =>
    hunique i' j' (Db.has_erase.mp hi').2 (Db.has_erase.mp hj').2⟩
  obtain ⟨j, hj⟩ := hexists k (Db.has_erase.mp hk).2
  refine ⟨j, Db.has_erase.mpr ⟨?_, hj⟩⟩
  rintro rfl
  exact hold hj

/-- After the default address is deleted, none of the customer's is the default. -/
theorem OneDefault.none_after_erase (h : OneDefault db c)
    (hold : db.Has .customerAddress (defaultOf c) i) (j : Id) :
    ¬ (db.put ⟨.customerAddress, i, none⟩).Has .customerAddress (defaultOf c) j := by
  intro hhas
  obtain ⟨hne, hhas⟩ := Db.has_erase.mp hhas
  exact hne ((Db.oneFlagged_iff.mp h).2 j i hhas hold)

end Write

/-! ### The transactions -/

section Transactions

variable {c : Id}

theorem OneDefault.createAddress (h : OneDefault db c) {addressId customerProfileId : Id}
    {createdAt : Date} {payload : CreateAddressDto} {address : CustomerAddress}
    (hrun : (createAddress addressId createdAt customerProfileId payload).run db =
      .ok (address, db')) : OneDefault db' c := by
  obtain ⟨_, db₁, hclear, hcreate⟩ := Tx.run_bind_ok (Tx.run_read_bind_ok hrun)
  obtain ⟨_, db₂, hinsert, hret⟩ := Tx.run_bind_ok hcreate
  cases hret
  obtain ⟨hfresh, rfl⟩ := Tx.run_insertRow_ok hinsert
  have habsent : db₁.get (.customerAddress, addressId) = none := by
    by_contra hsome
    simp [Option.isSome_iff_ne_none.mpr hsome] at hfresh
  have hother : ∀ c', OfOther db₁ c' addressId := by
    rintro c' ⟨address, hget, -⟩
    rw [habsent] at hget
    cases hget
  rw [clearDefaultIf] at hclear
  generalize hbecomes : (payload.isDefault == Field.value true ||
    (db.list .customerAddress (ofCustomer customerProfileId)).length == 0) = becomes at hclear ⊢
  cases becomes with
  | true =>
    obtain rfl : cleared db customerProfileId = db₁ := by
      simpa [run_clearDefault] using hclear
    by_cases hc : c = customerProfileId
    · subst hc
      refine oneDefault_put (fun j _ hhas => ?_) (by simp [defaultOf, ofCustomer,
        CreateAddressDto.row])
      exact (has_defaultOf_cleared.mp hhas).1 rfl
    · exact (h.clear hc).put_other (hother c) fun heq => hc heq.symm
  | false =>
    obtain rfl : db = db₁ := by simpa using hclear
    by_cases hc : c = customerProfileId
    · subst hc
      have hexists : ¬ db.list .customerAddress (ofCustomer c) = [] := by
        intro hnil
        simp [hnil] at hbecomes
      obtain ⟨k, hk⟩ := not_forall_not.mp (mt Db.list_eq_nil_iff.mpr hexists)
      exact h.put_plain hk (fun hhas => hother c (hhas.mono fun _ ha =>
        (Bool.and_eq_true_iff.mp ha).1)) rfl
    · exact h.put_other (hother c) fun heq => hc heq.symm

/-- The update of an address, from the row that was read. -/
theorem updateAddress_run_ok {record : AddressOwnershipRecord} {payload : UpdateAddressDto}
    (hget : db.get (.customerAddress, record.id) = some record.address)
    {address : CustomerAddress} : (updateAddress record payload).run db = .ok (address, db') ↔
      ∃ data, payload.data (shouldBecomeDefault payload record.address) = .ok data ∧
        address = data record.address ∧
        db' = (if payload.isDefault = .value true ∧ record.address.isDefault = false then
          cleared db record.address.customerProfileId else db).put
            ⟨.customerAddress, record.id, some (data record.address)⟩ := by
  generalize hstart : (if payload.isDefault = .value true ∧ record.address.isDefault = false then
    cleared db record.address.customerProfileId else db) = start
  have hclear : (clearDefaultIf (payload.isDefault == .value true && !record.address.isDefault)
      record.address.customerProfileId).run db = .ok ((), start) := by
    subst hstart
    by_cases hcond : payload.isDefault = .value true ∧ record.address.isDefault = false
    · simp [clearDefaultIf, hcond.1, hcond.2, run_clearDefault]
    · rw [if_neg hcond, clearDefaultIf, if_neg (by simpa using hcond)]
      rfl
  -- clearing leaves the address itself as it was read: it is not the default then
  have hget' : start.get (.customerAddress, record.id) = some record.address := by
    subst hstart
    split
    · exact get_cleared_of_not_default hget (by simp_all)
    · exact hget
  simp only [CustomerAddresses.updateAddress, Tx.bind_eq, Tx.run_bind, hclear, Except.bind]
  cases hdata : payload.data (shouldBecomeDefault payload record.address) with
  | error e => simp [Tx.ofExcept]
  | ok data =>
    simp only [Tx.ofExcept, Tx.run_ret, update,
      Tx.run_updateReturning (k := ((.customerAddress, record.id) : Key Tbl)) hget',
      Except.ok.injEq, Prod.mk.injEq]
    constructor
    · rintro ⟨rfl, rfl⟩
      exact ⟨data, rfl, rfl, rfl⟩
    · rintro ⟨_, rfl, rfl, rfl⟩
      exact ⟨rfl, rfl⟩

/-- **An update keeps the one default address**, unless it sets the default address's flag to
`null`. -/
theorem OneDefault.updateAddress (h : OneDefault db c) {record : AddressOwnershipRecord}
    {payload : UpdateAddressDto}
    (hget : db.get (.customerAddress, record.id) = some record.address)
    (hkeep : ¬ (payload.isDefault = .value false ∧ record.address.isDefault = true))
    {address : CustomerAddress} (hrun : (updateAddress record payload).run db = .ok (address, db')) :
    OneDefault db' c ↔ ¬ (payload.isDefault = .null ∧ record.address.customerProfileId = c ∧
      record.address.isDefault = true) := by
  obtain ⟨data, hdata, rfl, rfl⟩ := (updateAddress_run_ok hget).mp hrun
  obtain ⟨hflag, howner⟩ := UpdateAddressDto.data_row hdata record.address
  by_cases hc : record.address.customerProfileId = c
  · subst hc
    have hmine : ofCustomer record.address.customerProfileId (data record.address) = true := by
      simp [ofCustomer, howner]
    cases hdefault : record.address.isDefault with
    | true =>
      have hold : db.Has .customerAddress (defaultOf record.address.customerProfileId)
          record.id := ⟨_, hget, by simp [defaultOf, ofCustomer, hdefault]⟩
      cases hfield : payload.isDefault with
      | undefined =>
        simp only [reduceCtorEq, false_and, if_false, not_false_eq_true, iff_true]
        exact h.put_default hold (by simp [defaultOf, hmine, hflag, shouldBecomeDefault, hfield,
          hdefault])
      | null =>
        simp only [reduceCtorEq, if_false, and_self, not_true, iff_false]
        exact h.unset hold hmine (by simp [hflag, shouldBecomeDefault, hfield])
      | value flag =>
        cases flag with
        | true =>
          simp only [reduceCtorEq, and_false, if_false, false_and, not_false_eq_true, iff_true]
          exact h.put_default hold (by simp [defaultOf, hmine, hflag, shouldBecomeDefault, hfield])
        | false => exact (hkeep ⟨hfield, hdefault⟩).elim
    | false =>
      simp only [Bool.false_eq_true, and_false, not_false_eq_true, iff_true, and_true]
      by_cases hfield : payload.isDefault = .value true
      · rw [if_pos hfield]
        refine oneDefault_put (fun j _ hhas => (has_defaultOf_cleared.mp hhas).1 rfl) ?_
        simp [defaultOf, hmine, hflag, shouldBecomeDefault, hfield]
      · rw [if_neg hfield]
        have hthere : db.Has .customerAddress (ofCustomer record.address.customerProfileId)
            record.id := ⟨_, hget, by simp [ofCustomer]⟩
        refine h.put_plain hthere ?_ (by simp [hflag, shouldBecomeDefault, hfield, hdefault])
        rintro ⟨address, hget', hdefault'⟩
        obtain rfl : record.address = address := Option.some.inj (hget.symm.trans hget')
        simp [defaultOf, hdefault] at hdefault'
  · simp only [hc, false_and, and_false, not_false_eq_true, iff_true]
    have hnew : (data record.address).customerProfileId ≠ c := howner ▸ hc
    have hother : OfOther db c record.id := by
      rintro ⟨address, hget', hmine⟩
      obtain rfl : record.address = address := Option.some.inj (hget.symm.trans hget')
      exact hc (beq_iff_eq.mp hmine)
    split
    · exact (h.clear (Ne.symm hc)).put_other (fun hhas => hother (has_ofCustomer_cleared.mp hhas))
        hnew
    · exact h.put_other hother hnew

/-- The customer has no address, or one of them is made the default. -/
theorem promoteLatest_run_ok (hrun : (promoteLatest c).run db = .ok ((), db')) :
    (db' = db ∧ ∀ j, ¬ db.Has .customerAddress (ofCustomer c) j) ∨
      ∃ i address, db.get (.customerAddress, i) = some address ∧ ofCustomer c address = true ∧
        db' = db.put ⟨.customerAddress, i, some { address with isDefault := true }⟩ := by
  have hrun := Tx.run_read_bind_ok hrun
  rcases hlatest : ((db.list .customerAddress (ofCustomer c)).insertionSort
      fun left right => right.2.createdAt ≤ left.2.createdAt).head? with _ | ⟨fallbackId, fallback⟩
  · rw [hlatest] at hrun
    cases hrun
    have hperm := List.perm_insertionSort
      (fun left right : Id × CustomerAddress => right.2.createdAt ≤ left.2.createdAt)
      (db.list .customerAddress (ofCustomer c))
    rw [List.head?_eq_none_iff.mp hlatest] at hperm
    exact .inl ⟨rfl, Db.list_eq_nil_iff.mp hperm.nil_eq.symm⟩
  · rw [hlatest] at hrun
    obtain ⟨_, _, hupdate, hret⟩ := Tx.run_bind_ok hrun
    cases hret
    obtain ⟨address, hget, -, rfl⟩ := Tx.run_updateReturning_ok hupdate
    have hmem : (fallbackId, fallback) ∈ db.list .customerAddress (ofCustomer c) :=
      (List.perm_insertionSort _ _).mem_iff.mp (List.mem_of_mem_head? hlatest)
    obtain ⟨hget', hmine⟩ := Db.mem_list.mp hmem
    obtain rfl : fallback = address := Option.some.inj (hget'.symm.trans hget)
    exact .inr ⟨fallbackId, fallback, hget, hmine, rfl⟩

theorem OneDefault.deleteAddress (h : OneDefault db c) {addressId deletedId : Id}
    (hrun : (deleteAddress addressId).run db = .ok (deletedId, db')) : OneDefault db' c := by
  obtain ⟨removed, db₁, hdelete, hrest⟩ := Tx.run_bind_ok hrun
  obtain ⟨_, db₂, hpromote, hret⟩ := Tx.run_bind_ok hrest
  cases hret
  obtain ⟨hget, rfl⟩ := Tx.run_deleteExisting_ok hdelete
  rw [promoteLatestIf] at hpromote
  by_cases hc : ofCustomer c removed = true
  · obtain rfl : removed.customerProfileId = c := beq_iff_eq.mp hc
    cases hdefault : removed.isDefault with
    | true =>
      rw [hdefault, if_pos rfl] at hpromote
      have hnone := h.none_after_erase ⟨removed, hget, by simp [defaultOf, hc, hdefault]⟩
      rcases promoteLatest_run_ok hpromote with ⟨rfl, hempty⟩ | ⟨i, address, -, hmine, rfl⟩
      · exact Db.oneFlagged_of_empty hempty
      · exact oneDefault_put (fun j _ => hnone j) (by simpa [defaultOf, ofCustomer] using hmine)
    | false =>
      rw [hdefault, if_neg Bool.false_ne_true] at hpromote
      cases hpromote
      refine h.erase_plain ?_
      rintro ⟨address, hget', hdefault'⟩
      obtain rfl : removed = address := Option.some.inj (hget.symm.trans hget')
      simp [defaultOf, hdefault] at hdefault'
  · have hother : OfOther db c addressId := by
      rintro ⟨address, hget', hmine⟩
      obtain rfl : removed = address := Option.some.inj (hget.symm.trans hget')
      exact hc hmine
    have herased := h.erase_other hother
    by_cases hdefault : removed.isDefault = true
    · rw [if_pos hdefault] at hpromote
      rcases promoteLatest_run_ok hpromote with ⟨rfl, -⟩ | ⟨i, address, hget', hmine, rfl⟩
      · exact herased
      · have hne : address.customerProfileId ≠ c := by
          intro heq
          exact hc (by rw [ofCustomer, ← heq, beq_iff_eq]; exact (beq_iff_eq.mp hmine).symm)
        refine herased.put_other ?_ hne
        rintro ⟨address', hget'', hmine'⟩
        obtain rfl : address = address' := Option.some.inj (hget'.symm.trans hget'')
        exact hne (beq_iff_eq.mp hmine')
    · rw [if_neg hdefault] at hpromote
      cases hpromote
      exact herased

end Transactions

/-! ## Runs -/

/-- A request of a customer; the id and the time of a new address are made up. An address is
set as the default by an update. -/
inductive AddressCall
  | create (addressId : Id) (createdAt : Date) (currentUser : AuthenticatedUser)
      (payload : CreateAddressDto)
  | update (currentUser : AuthenticatedUser) (addressId : Id) (payload : UpdateAddressDto)
  | delete (currentUser : AuthenticatedUser) (addressId : Id)
deriving DecidableEq

/-- The database after a request. -/
def AddressCall.run : AddressCall → Store → Store
  | .create addressId createdAt currentUser payload, db =>
    ((createCurrentCustomerAddress addressId createdAt currentUser payload).run db).2
  | .update currentUser addressId payload, db =>
    ((updateCurrentCustomerAddress currentUser addressId payload).run db).2
  | .delete currentUser addressId, db => ((deleteCurrentCustomerAddress currentUser addressId).run db).2

/-- The request is an update of the customer's default address, by a caller who may make it,
that sets `isDefault` to `null`, and no required column. -/
def AddressCall.UnsetsDefault (customerProfileId : Id) : AddressCall → Store → Prop
  | .update currentUser addressId payload, db =>
    payload.isDefault = .null ∧ ¬ payload.NullsColumn ∧
      ∃ record, findById db addressId = some record ∧ canManageAddress currentUser record = true ∧
        record.address.customerProfileId = customerProfileId ∧ record.address.isDefault = true
  | _, _ => False

theorem get_of_findById {addressId : Id} {record : AddressOwnershipRecord}
    (h : findById db addressId = some record) :
    record.id = addressId ∧ db.get (.customerAddress, addressId) = some record.address := by
  simp only [findById, Option.bind_eq_bind, Option.bind_eq_some_iff, Option.pure_def,
    Option.some.injEq] at h
  obtain ⟨address, hget, _, -, rfl⟩ := h
  exact ⟨rfl, hget⟩

/-- One request: the customer keeps one default address unless the request unsets it. -/
theorem AddressCall.run_oneDefault {c : Id} (call : AddressCall) (h : OneDefault db c) :
    OneDefault (call.run db) c ↔ ¬ call.UnsetsDefault c db := by
  cases call with
  | create addressId createdAt currentUser payload =>
    simp only [UnsetsDefault, not_false_eq_true, iff_true, AddressCall.run]
    rcases (createCurrentCustomerAddress_atomic addressId createdAt payload).cases db with
      hsame | ⟨address, hrun⟩
    · rwa [hsame]
    · obtain ⟨_, db₁, hprofile, htx⟩ := Service.run_bind_ok.mp hrun
      have hread := (resolveCurrentCustomerProfile_readOnly currentUser).run db
      rw [hprofile] at hread
      obtain rfl : db₁ = db := hread
      exact h.createAddress (Service.run_transaction_ok.mp htx)
  | update currentUser addressId payload =>
    simp only [UnsetsDefault, AddressCall.run]
    constructor
    · rintro hone ⟨hnull, hcolumns, record, hfind, hmanage, hmine, hdefault⟩
      have hget := get_of_findById hfind
      obtain rfl : record.id = addressId := hget.1
      obtain ⟨data, hdata⟩ := UpdateAddressDto.data_ok.mpr hcolumns
      have hkeep : ¬ (payload.isDefault = .value false ∧ record.address.isDefault = true) := by
        simp [hnull]
      have htx := (updateAddress_run_ok hget.2).mpr ⟨data, hdata, rfl, rfl⟩
      rw [updateCurrentCustomerAddress_run_ok.mpr ⟨record, hfind, hmanage, hkeep, htx⟩] at hone
      exact (h.updateAddress hget.2 hkeep htx).mp hone ⟨hnull, hmine, hdefault⟩
    · intro hunset
      rcases (updateCurrentCustomerAddress_atomic addressId payload).cases db with
        hsame | ⟨address, hrun⟩
      · rwa [hsame]
      · obtain ⟨record, hfind, hmanage, hkeep, htx⟩ :=
          updateCurrentCustomerAddress_run_ok.mp hrun
        have hget := get_of_findById hfind
        obtain rfl : record.id = addressId := hget.1
        obtain ⟨data, hdata, -⟩ := (updateAddress_run_ok hget.2).mp htx
        refine (h.updateAddress hget.2 hkeep htx).mpr fun ⟨hnull, hmine, hdefault⟩ => ?_
        exact hunset ⟨hnull, UpdateAddressDto.data_ok.mp ⟨data, hdata⟩, record, hfind, hmanage,
          hmine, hdefault⟩
  | delete currentUser addressId =>
    simp only [UnsetsDefault, not_false_eq_true, iff_true, AddressCall.run]
    rcases (deleteCurrentCustomerAddress_atomic addressId).cases db with hsame | ⟨_, hrun⟩
    · rwa [hsame]
    · obtain ⟨record, _, hrecord, htx⟩ := Service.run_bind_ok.mp hrun
      obtain ⟨-, rfl⟩ := resolveOwnedAddress_run_ok.mp hrecord
      exact h.deleteAddress (Service.run_transaction_ok.mp htx)

/-- **One default address.** From any addresses among which a customer has exactly one default,
if any, the same holds in every state of a run of requests if and only if none of them is an
update that sets the flag of that default address to `null`. -/
theorem one_default_address {db : Store} {c : Id} (h : OneDefault db c) (calls : List AddressCall) :
    Always AddressCall.run (OneDefault · c) calls db ↔
      MeetAll AddressCall.run (fun call db => ¬ call.UnsetsDefault c db) calls db := by
  exact always_iff_of_step (fun call _ hone => call.run_oneDefault hone) calls h

/-! ## The flag set to `null` -/

/-- A customer who has no address yet. -/
def newCustomer : Store := Db.empty.apply [
  ⟨.user, 1, some { status := .active, role := .customer }⟩,
  ⟨.customerProfile, 1, some { userId := 1 }⟩]

/-- The customer, logged in. -/
def addressOwner : AuthenticatedUser :=
  { userId := 1, role := .customer, merchantId := none, customerProfileId := some 1, riderId := none }

/-- The first address is created. -/
def createHome : AddressCall := .create 5 0 addressOwner {
  label := "Home", line1 := "No. 1, Main Road", line2 := .undefined, landmark := .undefined
  township := "Thingangyun", city := .undefined, postalCode := .undefined
  deliveryInstructions := .undefined, latitude := 0, longitude := 0, isDefault := .undefined }

/-- It is updated with `{ "isDefault": null }`. -/
def nullFlag : AddressCall := .update addressOwner 5 { isDefault := .null }

theorem null_unsets_default : OneDefault newCustomer 1 ∧ OneDefault (createHome.run newCustomer) 1 ∧
    ¬ OneDefault (runAll AddressCall.run [createHome, nullFlag] newCustomer) 1 := by
  decide +kernel

theorem one_default_address_created :
    Always AddressCall.run (OneDefault · 1) [createHome] newCustomer ↔
      MeetAll AddressCall.run (fun call db => ¬ call.UnsetsDefault 1 db) [createHome] newCustomer :=
  one_default_address (by decide +kernel) [createHome]

end CustomerAddresses

end WerTe
