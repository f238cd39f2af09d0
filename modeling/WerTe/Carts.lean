import Mathlib.Data.List.Sort
import WerTe.MenusRepository

/-!
# Carts

`carts.repository.ts`, `cart-pricing.service.ts` and `cart-mutation.service.ts`: a customer adds
an item to the cart of a branch, changes it, removes it, or clears the cart. Every change of the
items is followed, in its transaction, by a recomputation of the cart's totals.

Amounts are `Decimal` values of a library; `round` is what it does to the result of each
addition and multiplication.
-/

namespace WerTe

open ReadCommitted MenusRepository

/-! ## `carts.repository.ts` -/

/-- A line of a cart with the item and the options that `cartAggregateInclude` loads with it. -/
structure CartAggregateItem where
  cartItemId : Id
  item : CartItem
  menuItem : MenuItem
  selectedOptions : List (Id × CartItemOption)
deriving DecidableEq

/-- `CartAggregateEntity`; a customer who has no cart yet has an empty one without an id. -/
structure CartAggregate where
  cartId : Option Id
  branchId : Id
  totalQuantity : ℤ
  subtotalAmount : ℚ
  totalAmount : ℚ
  items : List CartAggregateItem
deriving DecidableEq

def buildEmptyCartAggregate (branchId : Id) : CartAggregate := ⟨none, branchId, 0, 0, 0, []⟩

/-- A line with the cart it belongs to and the cart's owner. -/
structure CartItemOwnershipRecord where
  id : Id
  item : CartItem
  cart : Cart
  ownerUserId : Id
deriving DecidableEq

namespace CartsRepository

/-- A table lists first the row that was written last, which has the latest `updatedAt`. -/
def findActiveCartByCustomerProfileIdAndBranchId (db : Store) (customerProfileId branchId : Id) :
    Option (Id × Cart) :=
  (db.list .cart fun cart => cart.customerProfileId == customerProfileId &&
    cart.branchId == branchId && cart.status == .active).head?

def findActiveCartByUserIdAndBranchId (db : Store) (userId branchId : Id) : Option (Id × Cart) :=
  (db.list .cart fun cart => cart.branchId == branchId && cart.status == .active &&
    (db.get (.customerProfile, cart.customerProfileId)).any fun profile =>
      profile.userId == userId).head?

def findCartItemById (db : Store) (cartItemId : Id) : Option CartItemOwnershipRecord := do
  let item ← db.get (.cartItem, cartItemId)
  let cart ← db.get (.cart, item.cartId)
  let customerProfile ← db.get (.customerProfile, cart.customerProfileId)
  return ⟨cartItemId, item, cart, customerProfile.userId⟩

/-- Oldest first, and then by id. -/
def createdBefore {α : Type} (createdAt : α → Date) (left right : Id × α) : Bool :=
  ((compare (createdAt left.2) (createdAt right.2)).then (compare left.1 right.1)) != .gt

def listCartItemsByCartId (db : Store) (cartId : Id) : List (Id × CartItem) :=
  (db.list .cartItem fun item => item.cartId == cartId).insertionSort
    fun l r => createdBefore (·.createdAt) l r

def listCartItemOptionsByCartItemId (db : Store) (cartItemId : Id) : List (Id × CartItemOption) :=
  (db.list .cartItemOption fun option => option.cartItemId == cartItemId).insertionSort
    fun l r => createdBefore (·.createdAt) l r

def findCartAggregateById (db : Store) (cartId : Id) : Option CartAggregate := do
  let cart ← db.get (.cart, cartId)
  let items ← (listCartItemsByCartId db cartId).mapM fun line => do
    let menuItem ← db.get (.menuItem, line.2.menuItemId)
    return ⟨line.1, line.2, menuItem, listCartItemOptionsByCartItemId db line.1⟩
  return ⟨cartId, cart.branchId, cart.totalQuantity, cart.subtotalAmount, cart.totalAmount, items⟩

def createCart (cartId : Id) (cart : Cart) : StoreTx Unit :=
  .insertRow (.cart, cartId) cart fun db =>
    if (db.get (.cart, cartId)).isSome then some (.uniqueConstraint "id") else none

def updateCart (cartId : Id) (data : Cart → Cart) : StoreTx Unit :=
  .updateExisting (.cart, cartId) data .recordNotFound

def createCartItem (cartItemId : Id) (item : CartItem) : StoreTx Unit :=
  .insertRow (.cartItem, cartItemId) item fun db =>
    if (db.get (.cartItem, cartItemId)).isSome then some (.uniqueConstraint "id")
    else if (db.get (.cart, item.cartId)).isNone then some (.foreignKeyConstraint "cartId")
    else none

def updateCartItem (cartItemId : Id) (data : CartItem → CartItem) : StoreTx Unit :=
  .updateExisting (.cartItem, cartItemId) data .recordNotFound

def deleteCartItem (cartItemId : Id) : StoreTx Unit :=
  .attempt fun db =>
    if (db.get (.cartItem, cartItemId)).isNone then .error .recordNotFound
    else .ok ((), [⟨.cartItem, cartItemId, none⟩])

def deleteCartItemsByCartId (cartId : Id) : StoreTx Unit :=
  .update fun db => ((), (db.list .cartItem fun item => item.cartId == cartId).map fun line =>
    ⟨.cartItem, line.1, none⟩)

/-- `createMany`: all rows, or none. -/
def createCartItemOptions (data : List (Id × CartItemOption)) : StoreTx Unit :=
  .attempt fun db =>
    if data.any fun d => (db.get (.cartItemOption, d.1)).isSome ||
        !(db.list .cartItemOption fun option => uniqueCollision .cartItemOption option d.2).isEmpty
    then .error (.uniqueConstraint "cartItemId_itemOptionId")
    else .ok ((), data.map fun d => ⟨.cartItemOption, d.1, some d.2⟩)

def deleteCartItemOptions (selected : Store → CartItemOption → Bool) : StoreTx Unit :=
  .update fun db => ((), (db.list .cartItemOption (selected db)).map fun option =>
    ⟨.cartItemOption, option.1, none⟩)

def deleteCartItemOptionsByCartItemId (cartItemId : Id) : StoreTx Unit :=
  deleteCartItemOptions fun _ option => option.cartItemId == cartItemId

def deleteCartItemOptionsByCartId (cartId : Id) : StoreTx Unit :=
  deleteCartItemOptions fun db option =>
    (db.get (.cartItem, option.cartItemId)).any fun item => item.cartId == cartId

end CartsRepository

open CartsRepository

/-! ## `cart-pricing.service.ts` -/

namespace CartPricing

section Pricing

variable (round : ℚ → ℚ)

/-- Add amounts up, one after the other. -/
def addUp (start : ℚ) (amounts : List ℚ) : ℚ :=
  amounts.foldl (fun total amount => round (total + amount)) start

def computeUnitPriceSnapshot (menuItem : MenuItem) (selectedOptions : List (Id × ItemOption)) : ℚ :=
  addUp round menuItem.basePrice (selectedOptions.map fun option => option.2.priceDelta)

def computeLineTotal (quantity : ℤ) (unitPriceSnapshot : ℚ) : ℚ :=
  round (unitPriceSnapshot * quantity)

/-- `CartPricingSummary`. -/
structure Summary where
  totalQuantity : ℤ
  subtotalAmount : ℚ
  totalAmount : ℚ
deriving DecidableEq

def computeCartTotals (cartItems : List CartItem) : Summary :=
  let subtotalAmount := addUp round 0 (cartItems.map (·.lineTotal))
  ⟨(cartItems.map (·.quantity)).sum, subtotalAmount, subtotalAmount⟩

/-- The cart with its totals replaced. -/
def Summary.apply (totals : Summary) (cart : Cart) : Cart :=
  { cart with
    totalQuantity := totals.totalQuantity
    subtotalAmount := totals.subtotalAmount
    totalAmount := totals.totalAmount }

def recomputeCartTotals (cartId : Id) : StoreTx Unit := do
  let cartItems ← .read fun db => (listCartItemsByCartId db cartId).map Prod.snd
  updateCart cartId (computeCartTotals round cartItems).apply

end Pricing

end CartPricing

open CartPricing

/-! ## `cart-mutation.service.ts` -/

def hasCustomerCartAccess (currentUser : AuthenticatedUser) (ownerUserId customerProfileId : Id) :
    Bool :=
  hasOwnedResourceAccess currentUser .customer ownerUserId customerProfileId
    currentUser.customerProfileId

/-- The customer's profile: the one the token is scoped to, if it is the user's own. -/
def findCurrentCustomerProfile (db : Store) (currentUser : AuthenticatedUser) :
    Option (Id × CustomerProfile) :=
  match currentUser.customerProfileId with
  | some profileId => ((db.get (.customerProfile, profileId)).filter fun profile =>
      profile.userId == currentUser.userId).map fun profile => (profileId, profile)
  | none => (db.list .customerProfile fun profile => profile.userId == currentUser.userId).head?

/-- `buildVariantCombinationSignature`. -/
def buildVariantCombinationSignature (optionIds : List Id) : String :=
  "|".intercalate ((optionIds.dedup.insertionSort (· ≤ ·)).map toString)

def findActiveVariantCombination (db : Store) (menuItemId : Id) (optionIds : List Id) :
    Option (Id × ItemVariantCombination) :=
  (db.list .itemVariantCombination fun combination => combination.menuItemId == menuItemId &&
    combination.signature == buildVariantCombinationSignature optionIds &&
      combination.isActive).head?

/-- An item's active option groups, in their order. -/
def activeOptionGroups (db : Store) (menuItemId : Id) : List (Id × ItemOptionGroup) :=
  (db.list .itemOptionGroup fun group => group.menuItemId == menuItemId && group.isActive).insertionSort
    fun left right => left.2.sortOrder ≤ right.2.sortOrder

/-- An active option of one of the groups. -/
def findActiveOption (db : Store) (groups : List (Id × ItemOptionGroup)) (optionId : Id) :
    Option (Id × ItemOption) :=
  ((db.get (.itemOption, optionId)).filter fun option =>
    option.isActive && groups.any fun group => group.1 == option.groupId).map fun option =>
      (optionId, option)

/-- A tracked row has less left than is asked for; a row without a stock has none left. -/
def TrackedStock.lacks (stock : TrackedStock) (quantity : ℤ) : Bool :=
  stock.isStockTracked && stock.stockQuantity.getD 0 < quantity

namespace CartMutation

def assertPositiveQuantity (quantity : ℤ) : StoreService Unit :=
  .require (1 ≤ quantity) (fail "Cart item quantity must be a positive integer."
    .unprocessableEntity [("quantity", .num quantity)])

def resolveCurrentCustomerProfile (currentUser : AuthenticatedUser) : StoreService Id := do
  let found ← .get fun db => findCurrentCustomerProfile db currentUser
  let profile ← .orFail found
    (fail "Customer profile was not found for the authenticated user." .notFound)
  .require (hasCustomerCartAccess currentUser profile.2.userId profile.1 = true)
    (fail "You are not allowed to access this customer cart context." .forbidden)
  pure profile.1

def resolveOwnedCartItem (currentUser : AuthenticatedUser) (cartItemId : Id) :
    StoreService CartItemOwnershipRecord := do
  let found ← .get fun db => findCartItemById db cartItemId
  .orFail (found.filter fun record => hasCustomerCartAccess currentUser record.ownerUserId
    record.cart.customerProfileId) (fail "Cart item was not found." .notFound)

def resolveMenuItemForBranch (branchId menuItemId : Id) : StoreService MenuItemOwnershipRecord := do
  let found ← .get fun db => findItemById db menuItemId
  let menuItem ← .orFail (found.filter fun record => record.branchId == branchId)
    (fail "Menu item was not found for the requested branch." .notFound)
  .require (menuItem.item.isAvailable = true)
    (fail "The requested menu item is not currently available." .unprocessableEntity)
  pure menuItem

/-! ### The selection of options -/

def assertNoDuplicateOptionSelection (selectedOptionIds : List Id) : Except Failure Unit :=
  if selectedOptionIds.Nodup then .ok ()
  else .error (fail "Each selected item option must be unique within a cart item."
    .unprocessableEntity)

def assertGroupSelection (selected : List (Id × ItemOption)) (group : Id × ItemOptionGroup) :
    Except Failure Unit :=
  let selectedCount : ℤ := (selected.filter fun option => option.2.groupId == group.1).length
  if group.2.minSelect ≤ selectedCount ∧ selectedCount ≤ group.2.maxSelect then .ok ()
  else .error (fail "Selected item options do not satisfy the option group selection rules."
    .unprocessableEntity [("optionGroupId", .id group.1), ("minSelect", .num group.2.minSelect),
      ("maxSelect", .num group.2.maxSelect), ("selectedCount", .num selectedCount)])

def assertSelectedOptionsHaveAvailableStock (selected : List (Id × ItemOption)) (quantity : ℤ) :
    Except Failure Unit :=
  match selected.find? fun option => option.2.stock.lacks quantity with
  | none => .ok ()
  | some unavailable => .error (fail
      "One or more selected item variants or add-ons do not have enough stock for the requested quantity."
      .unprocessableEntity [("optionId", .id unavailable.1),
        ("stockQuantity", .num (unavailable.2.stock.stockQuantity.getD 0)),
        ("requestedQuantity", .num quantity)])

def assertSelectedVariantCombinationIsValid (db : Store) (menuItemId : Id)
    (groups : List (Id × ItemOptionGroup)) (selected : List (Id × ItemOption)) (quantity : ℤ) :
    Except Failure Unit :=
  let selectedVariantOptionIds := (selected.filter fun option => groups.any fun group =>
    group.1 == option.2.groupId && group.2.kind == .variantSelector).map Prod.fst
  if selectedVariantOptionIds = [] then .ok ()
  else
    match findActiveVariantCombination db menuItemId selectedVariantOptionIds with
    | none => .error (fail
        "Selected variant options do not match an active variant combination for the requested menu item."
        .unprocessableEntity [("menuItemId", .id menuItemId),
          ("selectedVariantOptionIds", .ids selectedVariantOptionIds)])
    | some combination =>
      if combination.2.stock.lacks quantity then .error (fail
        "The selected variant combination does not have enough remaining stock."
        .unprocessableEntity [("combinationId", .id combination.1),
          ("stockQuantity", .num (combination.2.stock.stockQuantity.getD 0)),
          ("requestedQuantity", .num quantity)])
      else .ok ()

/-- Its queries, of the groups, of their options and of the combination, are one here: nothing
that these operations write is read by them. -/
def resolveSelectedOptionsForMenuItem (db : Store) (menuItemId : Id) (selectedOptionIds : List Id)
    (quantity : ℤ) : Except Failure (List (Id × ItemOption)) := do
  assertNoDuplicateOptionSelection selectedOptionIds
  let groups := activeOptionGroups db menuItemId
  let selected ← selectedOptionIds.mapM fun optionId =>
    match findActiveOption db groups optionId with
    | some option => .ok option
    | none => .error (fail
        "One or more selected item options are not valid for the requested menu item."
        .unprocessableEntity)
  groups.forM fun group => assertGroupSelection selected group
  assertSelectedOptionsHaveAvailableStock selected quantity
  assertSelectedVariantCombinationIsValid db menuItemId groups selected quantity
  return selected

/-- The selected options as they are stored with a line; the ids are made up. -/
def selectedOptionRows (optionRowIds : List Id) (createdAt : Date) (cartItemId : Id)
    (selected : List (Id × ItemOption)) : List (Id × CartItemOption) :=
  (optionRowIds.zip selected).map fun option =>
    (option.1, ⟨cartItemId, option.2.1, option.2.2.priceDelta, createdAt⟩)

/-- The ids and the time that a call makes up. -/
structure NewIds where
  cartId : Id
  cartItemId : Id
  /-- as many as options are selected, at least -/
  optionRowIds : List Id
  createdAt : Date
deriving DecidableEq, Repr

/-! ### The four operations -/

def resolveCartAggregateOrThrow (cartId : Id) : StoreService CartAggregate := do
  let aggregate ← .get fun db => findCartAggregateById db cartId
  .orFail aggregate (fail "Cart aggregate was not found after the requested mutation."
    .internalServerError)

section Operations

variable (round : ℚ → ℚ)

/-- The transaction that adds a line, to a new cart if the customer has none. -/
def addLine (ids : NewIds) (customerProfileId branchId menuItemId : Id) (quantity : ℤ)
    (unitPriceSnapshot : ℚ) (selected : List (Id × ItemOption)) : StoreTx Id := do
  let found ← .read fun db =>
    findActiveCartByCustomerProfileIdAndBranchId db customerProfileId branchId
  let cartId ← match found with
    | some cart => pure cart.1
    | none => do
      createCart ids.cartId ⟨customerProfileId, branchId, .active, 0, 0, 0⟩
      pure ids.cartId
  createCartItem ids.cartItemId {
    cartId := cartId
    menuItemId := menuItemId
    quantity := quantity
    unitPriceSnapshot := unitPriceSnapshot
    lineTotal := computeLineTotal round quantity unitPriceSnapshot
    createdAt := ids.createdAt }
  createCartItemOptions (selectedOptionRows ids.optionRowIds ids.createdAt ids.cartItemId selected)
  recomputeCartTotals round cartId
  pure cartId

def addCurrentCustomerCartItem (ids : NewIds) (currentUser : AuthenticatedUser)
    (branchId menuItemId : Id) (quantity : ℤ) (selectedOptionIds : List Id) :
    StoreService CartAggregate := do
  assertPositiveQuantity quantity
  let customerProfileId ← resolveCurrentCustomerProfile currentUser
  let menuItem ← resolveMenuItemForBranch branchId menuItemId
  let resolved ← .get fun db =>
    resolveSelectedOptionsForMenuItem db menuItem.id selectedOptionIds quantity
  let selected ← .ofExcept resolved
  let cartId ← .transaction (addLine round ids customerProfileId branchId menuItem.id quantity
    (computeUnitPriceSnapshot round menuItem.item selected) selected)
  resolveCartAggregateOrThrow cartId

/-- The line's price: recomputed if the options are selected anew, and otherwise the one it had
when it was read. The options are then checked again all the same. -/
def reselectOptions (ids : NewIds) (cartItem : CartItemOwnershipRecord)
    (menuItem : MenuItemOwnershipRecord) (quantity : ℤ) (selectedOptionIds : Option (List Id)) :
    StoreTx ℚ := do
  match selectedOptionIds with
  | some optionIds => do
    let selected ← .check fun db =>
      resolveSelectedOptionsForMenuItem db menuItem.id optionIds quantity
    deleteCartItemOptionsByCartItemId cartItem.id
    createCartItemOptions (selectedOptionRows ids.optionRowIds ids.createdAt cartItem.id selected)
    pure (computeUnitPriceSnapshot round menuItem.item selected)
  | none => do
    let existing ← .read fun db =>
      (listCartItemOptionsByCartItemId db cartItem.id).map fun option => option.2.itemOptionId
    let _ ← .check fun db => resolveSelectedOptionsForMenuItem db menuItem.id existing quantity
    pure cartItem.item.unitPriceSnapshot

def updateCurrentCustomerCartItem (ids : NewIds) (currentUser : AuthenticatedUser)
    (cartItemId : Id) (quantity : ℤ) (selectedOptionIds : Option (List Id)) :
    StoreService CartAggregate := do
  assertPositiveQuantity quantity
  let cartItem ← resolveOwnedCartItem currentUser cartItemId
  let menuItem ← resolveMenuItemForBranch cartItem.cart.branchId cartItem.item.menuItemId
  .transaction (do
    let unitPriceSnapshot ← reselectOptions round ids cartItem menuItem quantity selectedOptionIds
    updateCartItem cartItem.id fun item => { item with
      quantity := quantity
      unitPriceSnapshot := unitPriceSnapshot
      lineTotal := computeLineTotal round quantity unitPriceSnapshot }
    recomputeCartTotals round cartItem.item.cartId)
  resolveCartAggregateOrThrow cartItem.item.cartId

def removeCurrentCustomerCartItem (currentUser : AuthenticatedUser) (cartItemId : Id) :
    StoreService CartAggregate := do
  let cartItem ← resolveOwnedCartItem currentUser cartItemId
  .transaction (do
    deleteCartItemOptionsByCartItemId cartItem.id
    deleteCartItem cartItem.id
    recomputeCartTotals round cartItem.item.cartId)
  resolveCartAggregateOrThrow cartItem.item.cartId

def clearCurrentCustomerBranchCart (currentUser : AuthenticatedUser) (branchId : Id) :
    StoreService CartAggregate := do
  let customerProfileId ← resolveCurrentCustomerProfile currentUser
  let cart ← .get fun db =>
    findActiveCartByCustomerProfileIdAndBranchId db customerProfileId branchId
  match cart with
  | none => pure (buildEmptyCartAggregate branchId)
  | some (cartId, _) => do
    .transaction (do
      deleteCartItemOptionsByCartId cartId
      deleteCartItemsByCartId cartId
      recomputeCartTotals round cartId)
    resolveCartAggregateOrThrow cartId

end Operations

end CartMutation

end WerTe
