import Mathlib.Algebra.Order.Field.Rat
import WerTe.Numeral.Decimal
import WerTe.ReadCommitted.Machine

/-!
# The store's schema

The tables of `schema.prisma` that the modelled services read or write, one row type
for each, with the columns those services use. Ids, and the strings that are only ever
compared, are natural numbers; times are milliseconds; money is rational, with the
rounding of the `Decimal` columns left to the services where it matters. Child rows
that are only written together with their parent (order items and their lot
allocations, status history, payment attempts) are lists in the parent's row.
-/

namespace WerTe

open ReadCommitted

/-- A row id. -/
abbrev Id := ℕ

/-- A point in time, in milliseconds. -/
abbrev Date := ℤ

/-! ## Enumerations -/

inductive UserRole
  | admin | customer | rider | merchant | merchantStaff | support
deriving DecidableEq, Repr

inductive UserStatus
  | active | suspended | pending
deriving DecidableEq, Repr

inductive RiderStatus
  | active | suspended | pending
deriving DecidableEq, Repr

inductive MerchantStatus
  | active | suspended | pending
deriving DecidableEq, Repr

inductive BranchStatus
  | active | inactive | suspended
deriving DecidableEq, Repr

inductive BranchStoreTypeStatus
  | pending | approved | rejected | hidden
deriving DecidableEq, Repr

inductive OrderStatus
  | placed | merchantAccepted | preparing | ready | riderAssigned | riderAccepted | pickedUp
  | onTheWay | delivered | cancelled | merchantRejected | failedDelivery
deriving DecidableEq, Repr

inductive DeliveryType
  | delivery | pickup
deriving DecidableEq, Repr

inductive DeliveryStatus
  | pendingAssignment | assigned | accepted | pickedUp | onTheWay | delivered | failed | cancelled
deriving DecidableEq, Repr

inductive CartStatus
  | active | checkedOut | abandoned | expired
deriving DecidableEq, Repr

inductive ItemOptionGroupKind
  | addOn | variantSelector
deriving DecidableEq, Repr

inductive PromotionDiscountType
  | fixedAmount | percentage | freeDelivery
deriving DecidableEq, Repr

inductive PaymentMethod
  | cashOnDelivery | digitalWallet | card | bankTransfer | manual
deriving DecidableEq, Repr

inductive PaymentProvider
  | cod | manual | stripe | kbzPay | wavePay | ayaPay
deriving DecidableEq, Repr

inductive PaymentStatus
  | pending | requiresAction | processing | succeeded | failed | cancelled | expired
  | partiallyRefunded | refunded
deriving DecidableEq, Repr

inductive RefundStatus
  | pending | processing | succeeded | failed | cancelled
deriving DecidableEq, Repr

inductive ProviderEventVerificationStatus
  | pending | verified | failed | skipped
deriving DecidableEq, Repr

inductive ProviderEventProcessingStatus
  | received | processed | failed | ignored
deriving DecidableEq, Repr

inductive ConversationType
  | orderChat | customerMerchant | customerRider | merchantRider | customerOperations
  | merchantOperations | riderOperations
deriving DecidableEq, Repr

inductive ConversationParticipantRole
  | customer | merchant | rider | admin | support | system
deriving DecidableEq, Repr

inductive MessageType
  | text | systemEvent | image | file | orderStatusCard | proofOfHandoff | proofOfDelivery
deriving DecidableEq, Repr

inductive MessageSenderKind
  | user | system
deriving DecidableEq, Repr

inductive MessageAttachmentType
  | image | file | proofOfHandoff | proofOfDelivery
deriving DecidableEq, Repr

inductive MessageAttachmentVisibility
  | allParticipants | operationsOnly | merchantRiderAdmin | riderCustomerAdmin | adminSupportOnly
deriving DecidableEq, Repr

inductive MessageDeliveryStatus
  | pending | delivered | read | failed
deriving DecidableEq, Repr

inductive SystemMessageCode
  | orderPlaced | orderAccepted | orderRejected | orderPreparing | orderReady | riderAssigned
  | riderAccepted | riderRejectedAssignment | orderPickedUp | orderOnTheWay | orderDelivered
  | orderCancelled | failedDelivery | merchantHandoffConfirmed | deliveryProofSubmitted
  | adminIntervention | paymentPending | paymentSucceeded | paymentFailed | paymentCancelled
  | refundRequested | refundSucceeded | refundFailed
deriving DecidableEq, Repr

inductive SupportTicketStatus
  | opened | inProgress | pendingCustomer | resolved | closed
deriving DecidableEq, Repr

inductive SupportTicketPriority
  | low | normal | high | urgent
deriving DecidableEq, Repr

inductive SupportTicketCategory
  | orderIssue | paymentIssue | deliveryIssue | accountIssue | merchantIssue | appBug | other
deriving DecidableEq, Repr

inductive NotificationType
  | orderStatusUpdated | orderAssigned | deliveryStatusUpdated | messageReceived | supportUpdate
  | systemAlert | paymentStatusUpdated | refundStatusUpdated
deriving DecidableEq, Repr

inductive NotificationChannel
  | inApp | push | sms
deriving DecidableEq, Repr

inductive NotificationDeliveryStatus
  | pending | queued | sent | delivered | failed
deriving DecidableEq, Repr

/-! ## People -/

structure User where
  status : UserStatus
  role : UserRole
deriving DecidableEq, Repr

structure UserSession where
  userId : Id
  refreshTokenHash : String
  expiresAt : Date
  revokedAt : Option Date
  lastUsedAt : Option Date
deriving DecidableEq, Repr

structure CustomerProfile where
  userId : Id
  fullName : Option String := none
deriving DecidableEq, Repr

structure CustomerAddress where
  customerProfileId : Id
  label : String
  line1 : String
  line2 : Option String
  landmark : Option String
  township : String
  city : Option String
  postalCode : Option String
  deliveryInstructions : Option String
  isDefault : Bool
  latitude : ℚ
  longitude : ℚ
  createdAt : Date
deriving DecidableEq

/-! ## Catalog -/

/-- The stock columns that items, options and variant combinations share. -/
structure TrackedStock where
  isStockTracked : Bool
  stockQuantity : Option ℤ
  lowStockThreshold : Option ℤ
deriving DecidableEq, Repr

structure Merchant where
  userId : Id
  status : MerchantStatus
  name : String := ""
deriving DecidableEq, Repr

structure Branch where
  merchantId : Id
  status : BranchStatus
  name : String := ""
  storeType : String := "restaurant"
  primaryStoreTypeId : Option Id := none
  township : String := ""
  createdAt : Date := 0
deriving DecidableEq, Repr

structure StoreType where
  code : String
  name : String
  isActive : Bool
  description : Option String := none
  iconUrl : Option String := none
  isSystem : Bool := false
  sortOrder : ℤ := 0
  deletedAt : Option Date := none
deriving DecidableEq, Repr

/-- A store type of a branch; its primary key is the pair of the two. -/
structure BranchStoreType where
  branchId : Id
  storeTypeId : Id
  status : BranchStoreTypeStatus
  isPrimary : Bool
  sortOrder : ℤ
  requestedByUserId : Option Id
  approvedByUserId : Option Id
  approvedAt : Option Date
  rejectedAt : Option Date
  hiddenAt : Option Date
  reason : Option String
  createdAt : Date
deriving DecidableEq, Repr

structure MenuItem where
  branchId : Id
  name : String
  basePrice : ℚ
  stock : TrackedStock
  isAvailable : Bool
deriving DecidableEq

structure ItemOptionGroup where
  menuItemId : Id
  kind : ItemOptionGroupKind
  minSelect : ℤ
  maxSelect : ℤ
  sortOrder : ℤ
  isActive : Bool
deriving DecidableEq, Repr

structure ItemOption where
  groupId : Id
  name : String
  priceDelta : ℚ
  stock : TrackedStock
  sortOrder : ℤ
  isActive : Bool
deriving DecidableEq

structure ItemVariantCombination where
  menuItemId : Id
  name : String
  signature : String
  optionIds : List Id
  stock : TrackedStock
  isActive : Bool
deriving DecidableEq, Repr

structure MenuItemInventoryLot where
  menuItemId : Id
  batchNo : String
  expiryDate : Option Date
  receivedAt : Date
  createdAt : Date
  receivedQuantity : ℤ
  remainingQuantity : ℤ
deriving DecidableEq, Repr

structure Promotion where
  branchId : Id
  code : String
  name : String
  description : Option String
  discountType : PromotionDiscountType
  discountValue : ℚ
  minimumSubtotalAmount : ℚ
  maximumDiscountAmount : Option ℚ
  perCustomerLimit : Option ℤ
  startsAt : Option Date
  endsAt : Option Date
  isActive : Bool
  isDeleted : Bool
deriving DecidableEq

structure PromotionUsage where
  promotionId : Id
  customerProfileId : Id
  orderId : Id
deriving DecidableEq, Repr

/-! ## Carts -/

structure Cart where
  customerProfileId : Id
  branchId : Id
  status : CartStatus
  totalQuantity : ℤ
  subtotalAmount : ℚ
  totalAmount : ℚ
deriving DecidableEq

structure CartItem where
  cartId : Id
  menuItemId : Id
  quantity : ℤ
  unitPriceSnapshot : ℚ
  lineTotal : ℚ
  createdAt : Date
deriving DecidableEq

structure CartItemOption where
  cartItemId : Id
  itemOptionId : Id
  priceDeltaSnapshot : ℚ
  createdAt : Date
deriving DecidableEq

/-! ## Orders -/

/-- What an order line takes from one lot. -/
structure MenuInventoryLotAllocation where
  inventoryLotId : Id
  batchNoSnapshot : String
  expiryDateSnapshot : Option Date
  quantity : ℤ
deriving DecidableEq, Repr

structure OrderItemOption where
  itemOptionId : Id
  itemOptionStockTrackedSnapshot : Bool
deriving DecidableEq, Repr

structure OrderItem where
  menuItemId : Id
  quantity : ℤ
  menuItemStockTrackedSnapshot : Bool
  selectedVariantCombinationId : Option Id
  variantCombinationStockTrackedSnapshot : Bool
  inventoryLotAllocations : List MenuInventoryLotAllocation
  selectedOptions : List OrderItemOption
  unitPriceSnapshot : ℚ
  lineTotal : ℚ
deriving DecidableEq

structure OrderStatusHistory where
  fromStatus : Option OrderStatus
  toStatus : OrderStatus
  reasonCode : Option String
  note : Option String
deriving DecidableEq, Repr

structure Order where
  orderCode : String
  customerProfileId : Id
  branchId : Id
  cartId : Option Id
  idempotencyKey : Option String
  promotionId : Option Id
  status : OrderStatus
  deliveryType : DeliveryType
  subtotalAmount : ℚ
  discountAmount : ℚ
  deliveryFee : ℚ
  totalAmount : ℚ
  deliveryTownship : Option String
  placedAt : Date
  items : List OrderItem
  statusHistory : List OrderStatusHistory
deriving DecidableEq

/-! ## Riders and deliveries -/

structure Rider where
  userId : Id
  currentTownship : Option String
  status : RiderStatus
  displayName : String := ""
deriving DecidableEq, Repr

/-- A rider's availability; its id is the rider's. -/
structure RiderAvailability where
  isOnline : Bool
  isAvailable : Bool
  lastStatusChangedAt : Date
deriving DecidableEq, Repr

structure Delivery where
  orderId : Id
  riderId : Option Id
  status : DeliveryStatus
deriving DecidableEq, Repr

/-- The values `outcomeCode` takes. -/
inductive DispatchOutcomeCode
  | pending | timeout | rejected | accepted | failed
deriving DecidableEq, Repr

structure OrderDispatchAttempt where
  orderId : Id
  riderId : Id
  outcomeCode : DispatchOutcomeCode
  attemptedAt : Date
deriving DecidableEq, Repr

/-! ## Payments -/

structure PaymentAttempt where
  provider : PaymentProvider
  status : PaymentStatus
  providerReference : Option String
  failureCode : Option String
  failureMessage : Option String
deriving DecidableEq, Repr

structure Payment where
  orderId : Id
  customerProfileId : Id
  method : PaymentMethod
  provider : PaymentProvider
  status : PaymentStatus
  amount : ℚ
  refundedAmount : ℚ
  idempotencyKey : Option String
  providerReference : Option String
  providerReceiptId : Option String
  failureCode : Option String
  failureMessage : Option String
  attempts : List PaymentAttempt
deriving DecidableEq

structure RefundAttempt where
  provider : PaymentProvider
  status : RefundStatus
  providerReference : Option String
  failureCode : Option String
  failureMessage : Option String
deriving DecidableEq, Repr

/-- What the column of an amount holds need not be a number. -/
structure Refund where
  paymentId : Id
  orderId : Id
  status : RefundStatus
  amount : Numeral.Decimal
  idempotencyKey : Option String
  providerReference : Option String
  reasonCode : Option String
  note : Option String
  failureCode : Option String
  failureMessage : Option String
  requestedAt : Date
  attempts : List RefundAttempt
deriving DecidableEq

/-- A webhook event; `Ids` are the rows that it names, and `Status` is what it reports. -/
structure ProviderEvent (Ids Status : Type) where
  provider : PaymentProvider
  providerEventId : Option String
  eventType : String
  ids : Ids
  providerReference : Option String
  normalizedStatus : Option Status
  verificationStatus : ProviderEventVerificationStatus
  processingStatus : ProviderEventProcessingStatus
  failureCode : Option String
  failureMessage : Option String
  receivedAt : Date
deriving DecidableEq, Repr

/-- The unique index of a provider's events, which events without an id are not in. -/
def ProviderEvent.uniqueKey {Ids Status : Type} (event : ProviderEvent Ids Status) :
    Option (PaymentProvider × String) := event.providerEventId.map fun id => (event.provider, id)

structure PaymentEventIds where
  paymentId : Option Id
  orderId : Option Id
deriving DecidableEq, Repr

structure RefundEventIds where
  refundId : Option Id
  paymentId : Option Id
  orderId : Option Id
deriving DecidableEq, Repr

abbrev PaymentProviderEvent := ProviderEvent PaymentEventIds PaymentStatus

abbrev RefundProviderEvent := ProviderEvent RefundEventIds RefundStatus

/-! ## Messaging -/

/-- A row's id stands for its order and its type, which are unique together. -/
structure Conversation where
  orderId : Id
  type : ConversationType
  title : Option String
  lastMessageId : Option Id
  lastMessageAt : Option Date
  createdAt : Date
  updatedAt : Date
deriving DecidableEq, Repr

/-- The texts `user:<id>` and `system:<name>`. -/
inductive ParticipantKey
  | user (userId : Id)
  | system (name : String)
deriving DecidableEq, Repr

structure ConversationParticipant where
  conversationId : Id
  participantKey : ParticipantKey
  userId : Option Id
  roleAtJoin : ConversationParticipantRole
  canSendMessages : Bool
  canSendAttachments : Bool
  canSendProofs : Bool
  canModerate : Bool
  lastReadMessageId : Option Id
  lastReadAt : Option Date
  joinedAt : Date
  leftAt : Option Date
deriving DecidableEq, Repr

structure MessageAttachment where
  type : MessageAttachmentType
  visibility : MessageAttachmentVisibility
  storageKey : String
  fileName : Option String
  mimeType : Option String
  fileSizeBytes : Option ℕ
  width : Option ℕ
  height : Option ℕ
  createdAt : Date
deriving DecidableEq, Repr

structure MessageReceipt where
  userId : Id
  status : MessageDeliveryStatus
  deliveredAt : Option Date
  readAt : Option Date
deriving DecidableEq, Repr

/-- A message with its attachments and receipts, in the order of their ids. -/
structure Message where
  conversationId : Id
  senderKind : MessageSenderKind
  senderId : Option Id
  type : MessageType
  systemEventCode : Option SystemMessageCode
  body : String
  metadataJson : Option String
  deletedAt : Option Date
  createdAt : Date
  attachments : List MessageAttachment
  receipts : List MessageReceipt
deriving DecidableEq, Repr

/-! ## Notifications -/

inductive InventoryResourceType
  | menuItem | itemOption
deriving DecidableEq, Repr

inductive InventoryAttentionLevel
  | lowStock | outOfStock
deriving DecidableEq, Repr

/-- What an inventory alert is about. -/
structure InventoryAlertSubject where
  branchId : Id
  branchName : Option String
  resourceType : InventoryResourceType
  resourceId : Id
  resourceLabel : String
  stockQuantity : Option ℤ
  lowStockThreshold : Option ℤ
  menuItemName : Option String
deriving DecidableEq, Repr

/-- The `metadataJson` that the kinds of notifications are created with. -/
inductive NotificationMetadata
  | order (orderCode : String) (conversationId messageId : Id)
      (systemMessageCode : SystemMessageCode)
  /-- `alertKind` is `ATTENTION` -/
  | attention (subject : InventoryAlertSubject) (attentionLevel : InventoryAttentionLevel)
  /-- `alertKind` is `COMPENSATION` -/
  | compensation (subject : InventoryAlertSubject) (restoredQuantity : ℤ) (orderId : Id)
      (orderCode : String) (reasonCode note : Option String)
  /-- any other -/
  | other
deriving DecidableEq, Repr

structure Notification where
  userId : Id
  type : NotificationType
  title : String
  body : String
  navigationPath : Option String
  metadataJson : NotificationMetadata
  orderId : Option Id
  deliveryId : Option Id
  conversationId : Option Id
  messageId : Option Id
  createdAt : Date
  readAt : Option Date := none
deriving DecidableEq, Repr

structure NotificationDelivery where
  notificationId : Id
  channel : NotificationChannel
  status : NotificationDeliveryStatus
  queuedAt : Option Date
  deliveredAt : Option Date
deriving DecidableEq, Repr

/-- The texts `inventory_alerts.acknowledged` and so on. -/
inductive InventoryAlertAction
  | acknowledged | resolved | dismissed
deriving DecidableEq, Repr

/-- An audit log of an inventory alert's life, whose `resourceId` is the notification's. -/
structure AuditLog where
  actorUserId : Option Id
  actorRole : Option UserRole
  action : InventoryAlertAction
  resourceId : Id
  resourceLabel : Option String
  targetUserId : Option Id
  orderId : Option Id
  branchId : Option Id
  note : Option String
  createdAt : Date
deriving DecidableEq, Repr

/-! ## Support tickets -/

/-- `SupportTicketStatusHistory`. -/
structure SupportTicketStatusHistory where
  fromStatus : Option SupportTicketStatus
  toStatus : SupportTicketStatus
  changedByUserId : Option Id
  note : Option String
deriving DecidableEq, Repr

/-- A ticket with its status history, the oldest entry first. -/
structure SupportTicket where
  ticketNumber : String
  customerId : Id
  assignedAgentId : Option Id
  orderId : Option Id
  category : SupportTicketCategory
  priority : SupportTicketPriority
  status : SupportTicketStatus
  subject : String
  resolvedAt : Option Date
  closedAt : Option Date
  createdAt : Date
  updatedAt : Date
  statusHistory : List SupportTicketStatusHistory
deriving DecidableEq, Repr

structure SupportTicketMessage where
  ticketId : Id
  senderUserId : Id
  body : String
  isInternal : Bool
  storageKey : Option String
  createdAt : Date
deriving DecidableEq, Repr

/-! ## The tables -/

inductive Tbl
  | merchant | branch | menuItem | itemOptionGroup | itemOption | itemVariantCombination
  | menuItemInventoryLot | order | user | customerProfile | rider | riderAvailability | delivery
  | orderDispatchAttempt | payment | advisoryLock
  | customerAddress | promotion | promotionUsage | cart | cartItem | cartItemOption | refund
  | paymentProviderEvent | refundProviderEvent | storeType | branchStoreType | userSession
  | conversation | conversationParticipant | message | supportTicket | supportTicketMessage
  | notification | notificationDelivery | auditLog
deriving DecidableEq, Repr

/-- The row type of each table. -/
abbrev Row : Tbl → Type
  | .merchant => Merchant
  | .branch => Branch
  | .menuItem => MenuItem
  | .itemOptionGroup => ItemOptionGroup
  | .itemOption => ItemOption
  | .itemVariantCombination => ItemVariantCombination
  | .menuItemInventoryLot => MenuItemInventoryLot
  | .order => Order
  | .user => User
  | .customerProfile => CustomerProfile
  | .rider => Rider
  | .riderAvailability => RiderAvailability
  | .delivery => Delivery
  | .orderDispatchAttempt => OrderDispatchAttempt
  | .payment => Payment
  | .customerAddress => CustomerAddress
  | .promotion => Promotion
  | .promotionUsage => PromotionUsage
  | .cart => Cart
  | .cartItem => CartItem
  | .cartItemOption => CartItemOption
  | .refund => Refund
  | .paymentProviderEvent => PaymentProviderEvent
  | .refundProviderEvent => RefundProviderEvent
  | .storeType => StoreType
  | .branchStoreType => BranchStoreType
  | .userSession => UserSession
  | .conversation => Conversation
  | .conversationParticipant => ConversationParticipant
  | .message => Message
  | .supportTicket => SupportTicket
  | .supportTicketMessage => SupportTicketMessage
  | .notification => Notification
  | .notificationDelivery => NotificationDelivery
  | .auditLog => AuditLog
  -- not a table: the advisory locks a transaction takes, as rows it holds until it ends
  | .advisoryLock => Unit

/-- Two values of a nullable unique column collide when they are equal and not null. -/
def sameUnique {α : Type} [DecidableEq α] (a b : Option α) : Bool := a.isSome && a == b

theorem sameUnique_comm {α : Type} [DecidableEq α] (a b : Option α) :
    sameUnique a b = sameUnique b a := by
  unfold sameUnique
  by_cases h : a = b
  · rw [h]
  · rw [beq_eq_false_iff_ne.mpr h, beq_eq_false_iff_ne.mpr (Ne.symm h), Bool.and_false,
      Bool.and_false]

/-- The `@unique` and `@@unique` columns. -/
def uniqueCollision : (t : Tbl) → Row t → Row t → Bool
  | .itemVariantCombination, r, r' =>
    sameUnique (some (r.menuItemId, r.signature)) (some (r'.menuItemId, r'.signature))
  | .menuItemInventoryLot, r, r' =>
    sameUnique (some (r.menuItemId, r.batchNo)) (some (r'.menuItemId, r'.batchNo))
  | .order, r, r' =>
    sameUnique (some r.orderCode) (some r'.orderCode) ||
      sameUnique r.idempotencyKey r'.idempotencyKey
  | .customerProfile, r, r' => sameUnique (some r.userId) (some r'.userId)
  | .rider, r, r' => sameUnique (some r.userId) (some r'.userId)
  | .delivery, r, r' => sameUnique (some r.orderId) (some r'.orderId)
  | .payment, r, r' => sameUnique r.idempotencyKey r'.idempotencyKey
  | .promotion, r, r' => sameUnique (some (r.branchId, r.code)) (some (r'.branchId, r'.code))
  | .promotionUsage, r, r' => sameUnique (some r.orderId) (some r'.orderId)
  | .cartItemOption, r, r' =>
    sameUnique (some (r.cartItemId, r.itemOptionId)) (some (r'.cartItemId, r'.itemOptionId))
  | .refund, r, r' => sameUnique r.idempotencyKey r'.idempotencyKey
  | .storeType, r, r' => sameUnique (some r.code) (some r'.code)
  | .branchStoreType, r, r' =>
    sameUnique (some (r.branchId, r.storeTypeId)) (some (r'.branchId, r'.storeTypeId))
  | .conversation, r, r' => sameUnique (some (r.orderId, r.type)) (some (r'.orderId, r'.type))
  | .conversationParticipant, r, r' =>
    sameUnique (some (r.conversationId, r.participantKey))
      (some (r'.conversationId, r'.participantKey))
  | .paymentProviderEvent, r, r' => sameUnique r.uniqueKey r'.uniqueKey
  | .refundProviderEvent, r, r' => sameUnique r.uniqueKey r'.uniqueKey
  | .supportTicket, r, r' => sameUnique (some r.ticketNumber) (some r'.ticketNumber)
  | _, _, _ => false

instance : UniqueIndexes Row where
  collide := uniqueCollision
  collide_comm t r r' := by
    cases t <;> simp only [uniqueCollision, sameUnique_comm]

/-- A database of the store. -/
abbrev Store := Db Row

/-! ## Callers and failures -/

/-- The authenticated caller, with the resources its token is scoped to. -/
structure AuthenticatedUser where
  userId : Id
  role : UserRole
  merchantId : Option Id
  customerProfileId : Option Id
  riderId : Option Id
  /-- a job of the system rather than a person, `isSystemAuthenticatedActor` -/
  isSystemActor : Bool := false
deriving DecidableEq, Repr

/-- `hasOwnedResourceAccess`: the right role, the owner, and no narrower token scope. -/
def hasOwnedResourceAccess (currentUser : AuthenticatedUser) (expectedRole : UserRole)
    (ownerUserId resourceId : Id) (actorScopedResourceId : Option Id) : Bool :=
  currentUser.role == expectedRole && currentUser.userId == ownerUserId &&
    (actorScopedResourceId.isNone || actorScopedResourceId == some resourceId)

inductive HttpStatus
  | badRequest | unauthorized | forbidden | notFound | conflict | unprocessableEntity | internalServerError
deriving DecidableEq, Repr

/-- A value in an error's `details`. -/
inductive Detail
  /-- an id -/
  | id (i : Id)
  /-- a number -/
  | num (z : ℤ)
  /-- an enumeration's or a column's text -/
  | text (s : String)
  /-- a list of ids -/
  | ids (is : List Id)
  /-- an amount of money -/
  | amount (q : ℚ)
deriving DecidableEq

/-- `AppException`. Every one the modelled services throw has the error code that belongs
to its HTTP status, unless `code` says otherwise. -/
structure AppException where
  message : String
  status : HttpStatus
  code : Option String := none
  details : List (String × Detail) := []
deriving DecidableEq

/-- How a call fails. -/
inductive Failure
  /-- an exception of the application -/
  | app (e : AppException)
  /-- the database's unique constraint on the named column, Prisma's `P2002` -/
  | uniqueConstraint (target : String)
  /-- an update of a row that is not there, Prisma's `P2025` -/
  | recordNotFound
  /-- the database's foreign key on the named column, Prisma's `P2003` -/
  | foreignKeyConstraint (column : String)
  /-- a value that Prisma's validation rejects for the named column: `null` where it is
  required, or an invalid date -/
  | invalidArgument (column : String)
  /-- JavaScript's `TypeError`, of a property of `undefined` -/
  | typeError
deriving DecidableEq

/-- A transaction body against the store. -/
abbrev StoreTx := Tx Row Failure

/-- A service call against the store. -/
abbrev StoreService := Service Row Failure

/-- Throw an application exception. -/
def fail (message : String) (status : HttpStatus) (details : List (String × Detail) := []) :
    Failure := .app { message, status, details }

/-! ## Request bodies -/

/-- An optional field of a request body. `@IsOptional` lets `null` through, whatever else the
field's validators ask for. -/
inductive Field (α : Type)
  | undefined
  | null
  | value (a : α)
deriving DecidableEq, Repr

namespace Field

variable {α : Type}

/-- What `??` goes on with. -/
def toOption : Field α → Option α
  | value a => some a
  | undefined | null => none

/-- The new value of a nullable column whose value was `old`. -/
def setNullable (old : Option α) : Field α → Option α
  | undefined => old
  | null => none
  | value a => some a

/-- The new value of a required column, if there is one. -/
def required (column : String) : Field α → Except Failure (Option α)
  | undefined => .ok none
  | null => .error (.invalidArgument column)
  | value a => .ok (some a)

/-- What the field is set to, if to anything but `null`, satisfies `p`. -/
def All (p : α → Prop) (field : Field α) : Prop := ∀ a, field = .value a → p a

theorem required_ok {column : String} {field : Field α} :
    (∃ a, field.required column = .ok a) ↔ field ≠ .null := by
  cases field <;> simp [Field.required]

end Field

/-! ## JavaScript strings -/

/-- White space and line terminators, as `String.prototype.trim` strips them. -/
def isJsSpace (c : Char) : Bool :=
  c.val ∈ [0x9, 0xA, 0xB, 0xC, 0xD, 0x20, 0xA0, 0x1680, 0x2028, 0x2029, 0x202F, 0x205F, 0x3000,
    0xFEFF] || (0x2000 ≤ c.val && c.val ≤ 0x200A)

/-- `String.prototype.trim`. -/
def trim (s : String) : String :=
  .ofList ((s.toList.dropWhile isJsSpace).reverse.dropWhile isJsSpace).reverse

/-- `normalizeOptionalString`: trimmed, and `null` when nothing is left. -/
def normalizeOptionalString (value : Option String) : Option String :=
  value.bind fun s => if (trim s).length = 0 then none else some (trim s)

end WerTe
