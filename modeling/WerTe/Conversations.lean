import Mathlib.Data.Nat.Pairing
import WerTe.OrdersRepository
import WerTe.ReadCommitted.Flags
import WerTe.ReadCommitted.Sequential

/-!
# Conversations about an order

`conversation.service.ts`, `conversation.repository.ts` and the policies they use. A conversation
is resolved by whoever may take part in it: its row and those of its participants are created, or
brought up to date.

* `ConversationOrderContext`: the people of an order
* `buildConversationParticipants`: who belongs to a conversation
* `ConversationRepository.resolve`: what a resolution writes
* `getActiveConversationParticipant`: what access rests on
-/

namespace WerTe

open ReadCommitted

/-! ## `conversation-order-context.entity.ts` -/

structure ConversationRider where
  riderId : Id
  userId : Id
  displayName : String
deriving DecidableEq, Repr

/-- `ConversationOrderContextEntity`. -/
structure ConversationOrderContext where
  orderId : Id
  orderCode : String
  status : OrderStatus
  customerProfileId : Id
  customerUserId : Id
  merchantId : Id
  merchantUserId : Id
  merchantName : String
  branchName : String
  deliveryId : Option Id
  rider : Option ConversationRider
deriving DecidableEq, Repr

/-- The rider of an order's delivery. -/
def findAssignedRider (db : Store) (orderId : Id) : Option ConversationRider := do
  let delivery ← DeliveriesRepository.findByOrderId db orderId
  let riderId ← delivery.2.riderId
  let rider ← db.get (.rider, riderId)
  return ⟨riderId, rider.userId, rider.displayName⟩

def supportsAssignedRiderConversation (type : ConversationType) : Bool :=
  type matches .orderChat | .customerRider | .merchantRider | .riderOperations

/-! ## `conversation-lane-policy.helper.ts` -/

def requiresAssignedRiderConversationType (type : ConversationType) : Bool :=
  type matches .orderChat | .customerRider | .merchantRider | .riderOperations

def isOperationsConversationType (type : ConversationType) : Bool :=
  type matches .customerOperations | .merchantOperations | .riderOperations

def includesSystemParticipant (type : ConversationType) : Bool := type matches .orderChat

/-! ## `conversation-resolution-policy.helper.ts` -/

/-- `ConversationParticipantSpec`. -/
structure ConversationParticipantSpec where
  participantKey : ParticipantKey
  userId : Option Id
  roleAtJoin : ConversationParticipantRole
  canSendMessages : Bool
  canSendAttachments : Bool
  canSendProofs : Bool
  canModerate : Bool
deriving DecidableEq, Repr

def isCustomerOwner (currentUser : AuthenticatedUser) (order : ConversationOrderContext) : Bool :=
  currentUser.role == .customer && currentUser.userId == order.customerUserId &&
    currentUser.customerProfileId == some order.customerProfileId

def isMerchantOwner (currentUser : AuthenticatedUser) (order : ConversationOrderContext) : Bool :=
  currentUser.role == .merchant && currentUser.userId == order.merchantUserId &&
    currentUser.merchantId == some order.merchantId

def isAssignedRider (currentUser : AuthenticatedUser) (order : ConversationOrderContext) : Bool :=
  order.rider.any fun rider => currentUser.role == .rider && currentUser.userId == rider.userId &&
    currentUser.riderId == some rider.riderId

def isOperationsActor (currentUser : AuthenticatedUser) : Bool :=
  currentUser.role == .admin || currentUser.role == .support

def shouldAddOperationsParticipant (currentUser : AuthenticatedUser) : Bool :=
  isOperationsActor currentUser && !currentUser.isSystemActor

def canResolveConversationForOrder (currentUser : AuthenticatedUser)
    (order : ConversationOrderContext) (type : ConversationType) : Bool :=
  !(requiresAssignedRiderConversationType type && order.rider.isNone) &&
    match type with
    | .customerOperations => isCustomerOwner currentUser order || isOperationsActor currentUser
    | .merchantOperations => isMerchantOwner currentUser order || isOperationsActor currentUser
    | .riderOperations => isAssignedRider currentUser order || isOperationsActor currentUser
    | .orderChat => isCustomerOwner currentUser order || isMerchantOwner currentUser order ||
      isAssignedRider currentUser order || isOperationsActor currentUser
    | .customerMerchant => isCustomerOwner currentUser order || isMerchantOwner currentUser order
    | .customerRider => isCustomerOwner currentUser order || isAssignedRider currentUser order
    | .merchantRider => isMerchantOwner currentUser order || isAssignedRider currentUser order

def toParticipantRole : UserRole → ConversationParticipantRole
  | .admin => .admin
  | .support => .support
  | .customer => .customer
  | .merchant => .merchant
  | .rider => .rider
  | .merchantStaff => .system

def buildUserParticipant (userId : Id) (roleAtJoin : ConversationParticipantRole) :
    ConversationParticipantSpec where
  participantKey := .user userId
  userId := some userId
  roleAtJoin := roleAtJoin
  canSendMessages := true
  canSendAttachments := true
  canSendProofs := roleAtJoin == .merchant || roleAtJoin == .rider
  canModerate := roleAtJoin == .admin || roleAtJoin == .support

def buildSystemParticipant (name : String) : ConversationParticipantSpec where
  participantKey := .system name
  userId := none
  roleAtJoin := .system
  canSendMessages := false
  canSendAttachments := false
  canSendProofs := false
  canModerate := false

/-- `Map.set`: a participant takes the place of an earlier one with its key. -/
def setParticipant (entries : List ConversationParticipantSpec)
    (participant : ConversationParticipantSpec) : List ConversationParticipantSpec :=
  if entries.any (·.participantKey == participant.participantKey) then
    entries.map fun entry =>
      if entry.participantKey = participant.participantKey then participant else entry
  else entries ++ [participant]

def dedupeParticipants (participants : List ConversationParticipantSpec) :
    List ConversationParticipantSpec := participants.foldl setParticipant []

section

variable (currentUser : AuthenticatedUser) (order : ConversationOrderContext)

def customerParticipant : ConversationParticipantSpec :=
  buildUserParticipant order.customerUserId .customer

def merchantParticipant : ConversationParticipantSpec :=
  buildUserParticipant order.merchantUserId .merchant

def riderParticipant (rider : ConversationRider) : ConversationParticipantSpec :=
  { buildUserParticipant rider.userId .rider with canSendProofs := true }

/-- Whoever of the operations resolves the conversation joins it. -/
def operationsParticipant : List ConversationParticipantSpec :=
  if shouldAddOperationsParticipant currentUser then
    [{ buildUserParticipant currentUser.userId (toParticipantRole currentUser.role) with
      canModerate := true }]
  else []

/-- The participants in the order in which they are pushed. -/
def pushedParticipants (type : ConversationType) : Option (List ConversationParticipantSpec) :=
  match type, order.rider with
  | .orderChat, some rider => some ([customerParticipant order, merchantParticipant order] ++
      (if includesSystemParticipant type then [buildSystemParticipant "order-chat"] else []) ++
      [riderParticipant rider] ++ operationsParticipant currentUser)
  | .customerMerchant, _ => some [customerParticipant order, merchantParticipant order]
  | .customerRider, some rider => some [customerParticipant order, riderParticipant rider]
  | .merchantRider, some rider =>
    some [{ merchantParticipant order with canSendProofs := true }, riderParticipant rider]
  | .customerOperations, _ => some (customerParticipant order :: operationsParticipant currentUser)
  | .merchantOperations, _ => some (merchantParticipant order :: operationsParticipant currentUser)
  | .riderOperations, some rider =>
    some (riderParticipant rider :: operationsParticipant currentUser)
  | _, none => none

/-- `null` when the conversation needs a rider and there is none. -/
def buildConversationParticipants (type : ConversationType) :
    Option (List ConversationParticipantSpec) :=
  if requiresAssignedRiderConversationType type ∧ order.rider = none then none
  else (pushedParticipants currentUser order type).map dedupeParticipants

end

/-- The type's name in lower case. -/
def ConversationType.lowerCase : ConversationType → String
  | orderChat => "order_chat"
  | customerMerchant => "customer_merchant"
  | customerRider => "customer_rider"
  | merchantRider => "merchant_rider"
  | customerOperations => "customer_operations"
  | merchantOperations => "merchant_operations"
  | riderOperations => "rider_operations"

def ConversationType.index : ConversationType → ℕ
  | orderChat => 0
  | customerMerchant => 1
  | customerRider => 2
  | merchantRider => 3
  | customerOperations => 4
  | merchantOperations => 5
  | riderOperations => 6

def buildConversationTitle (order : ConversationOrderContext) (type : ConversationType) : String :=
  order.orderCode ++ " " ++ type.lowerCase

/-! ## `conversation.repository.ts` -/

/-- `ResolvedConversationEntity`. -/
structure ResolvedConversation where
  conversationId : Id
  orderId : Id
  type : ConversationType
  title : Option String
  lastMessageId : Option Id
  lastMessageAt : Option Date
  createdAt : Date
  updatedAt : Date
  participants : List ConversationParticipant
deriving DecidableEq

namespace ConversationRepository

/-- `orderId_type`. -/
def conversationId (orderId : Id) (type : ConversationType) : Id :=
  Nat.pair orderId type.index

/-- The number of a key: even ones are users'. The only system participant is the order chat's. -/
def participantIndex : ParticipantKey → ℕ
  | .user userId => 2 * userId
  | .system _ => 1

/-- `conversationId_participantKey`. -/
def participantId (conversationId : Id) (key : ParticipantKey) : Id :=
  Nat.pair conversationId (participantIndex key)

def findOrderContextById (db : Store) (orderId : Id) : Option ConversationOrderContext := do
  let order ← db.get (.order, orderId)
  let customerProfile ← db.get (.customerProfile, order.customerProfileId)
  let branch ← db.get (.branch, order.branchId)
  let merchant ← db.get (.merchant, branch.merchantId)
  return {
    orderId, orderCode := order.orderCode, status := order.status
    customerProfileId := order.customerProfileId, customerUserId := customerProfile.userId
    merchantId := branch.merchantId, merchantUserId := merchant.userId
    merchantName := merchant.name, branchName := branch.name
    deliveryId := (DeliveriesRepository.findByOrderId db orderId).map Prod.fst
    rider := findAssignedRider db orderId }

/-- The oldest first. -/
def joinedBefore (left right : Id × ConversationParticipant) : Bool :=
  ((compare left.2.joinedAt right.2.joinedAt).then (compare left.1 right.1)) != .gt

def listParticipants (db : Store) (conversationId : Id) : List ConversationParticipant :=
  ((db.list .conversationParticipant (·.conversationId == conversationId)).insertionSort
    fun left right => joinedBefore left right).map Prod.snd

def buildResolvedConversation (db : Store) (conversationId : Id) (conversation : Conversation) :
    ResolvedConversation where
  conversationId := conversationId
  orderId := conversation.orderId
  type := conversation.type
  title := conversation.title
  lastMessageId := conversation.lastMessageId
  lastMessageAt := conversation.lastMessageAt
  createdAt := conversation.createdAt
  updatedAt := conversation.updatedAt
  participants := listParticipants db conversationId

def findResolvedById (db : Store) (conversationId : Id) : Option ResolvedConversation :=
  (db.get (.conversation, conversationId)).map (buildResolvedConversation db conversationId)

/-- `conversation.upsert`. -/
def upsertedConversation (orderId : Id) (type : ConversationType) (title : String) (now : Date) :
    Option Conversation → Conversation
  | some conversation => { conversation with title := some title, updatedAt := now }
  | none => {
    orderId, type, title := some title, lastMessageId := none, lastMessageAt := none
    createdAt := now, updatedAt := now }

/-- `conversationParticipant.upsert`: the participant is there again if it has left. -/
def upsertedParticipant (conversationId : Id) (spec : ConversationParticipantSpec) (now : Date)
    (old : Option ConversationParticipant) : ConversationParticipant where
  conversationId := conversationId
  participantKey := spec.participantKey
  userId := spec.userId
  roleAtJoin := spec.roleAtJoin
  canSendMessages := spec.canSendMessages
  canSendAttachments := spec.canSendAttachments
  canSendProofs := spec.canSendProofs
  canModerate := spec.canModerate
  lastReadMessageId := old.bind (·.lastReadMessageId)
  lastReadAt := old.bind (·.lastReadAt)
  joinedAt := (old.map (·.joinedAt)).getD now
  leftAt := none

def upsertParticipant (conversationId : Id) (now : Date) (spec : ConversationParticipantSpec) :
    StoreTx Unit :=
  let id := participantId conversationId spec.participantKey
  .update fun db => ((), [⟨.conversationParticipant, id,
    some (upsertedParticipant conversationId spec now (db.get (.conversationParticipant, id)))⟩])

def upsertParticipants (conversationId : Id) (now : Date) :
    List ConversationParticipantSpec → StoreTx Unit
  | [] => .ret ()
  | spec :: specs => do
    upsertParticipant conversationId now spec
    upsertParticipants conversationId now specs

def resolve (orderId : Id) (type : ConversationType) (title : String)
    (participants : List ConversationParticipantSpec) (now : Date) :
    StoreTx ResolvedConversation := do
  let id := conversationId orderId type
  .update fun db => ((), [⟨.conversation, id,
    some (upsertedConversation orderId type title now (db.get (.conversation, id)))⟩])
  upsertParticipants id now participants
  let conversation ← .read fun db => findResolvedById db id
  .orFail conversation .recordNotFound

end ConversationRepository

/-! ## `conversation.service.ts` -/

namespace ConversationService

def resolve (currentUser : AuthenticatedUser) (orderId : Id) (type : ConversationType)
    (now : Date) : StoreService ResolvedConversation := do
  let found ← .get fun db => ConversationRepository.findOrderContextById db orderId
  let order ← .orFail found (fail "Order was not found." .notFound)
  .require (¬ (supportsAssignedRiderConversation type ∧ order.rider = none ∧ type ≠ .orderChat))
    (fail "This conversation lane is not available until a rider is assigned."
      .unprocessableEntity)
  .require (canResolveConversationForOrder currentUser order type)
    (fail "You are not allowed to resolve this conversation lane." .forbidden)
  let participants ← .orFail
    ((buildConversationParticipants currentUser order type).filter (· ≠ []))
    (fail "The conversation lane could not be resolved for this order." .unprocessableEntity)
  .transaction (ConversationRepository.resolve order.orderId type
    (buildConversationTitle order type) participants now)

end ConversationService

/-! ## `message-access-policy.helper.ts` -/

def getActiveConversationParticipant (userId : Id) (conversation : ResolvedConversation) :
    Option ConversationParticipant :=
  conversation.participants.find? fun participant =>
    participant.userId == some userId && participant.leftAt.isNone

def canAccessConversation (userId : Id) (conversation : ResolvedConversation) : Bool :=
  (getActiveConversationParticipant userId conversation).isSome

def isProofMessageType (messageType : MessageType) : Bool :=
  messageType matches .proofOfHandoff | .proofOfDelivery

def isProofAttachmentType (attachmentType : MessageAttachmentType) : Bool :=
  attachmentType matches .proofOfHandoff | .proofOfDelivery

def canSendMessage (userId : Id) (conversation : ResolvedConversation)
    (messageType : MessageType) : Bool :=
  (getActiveConversationParticipant userId conversation).any fun participant =>
    participant.canSendMessages &&
      (!isProofMessageType messageType || participant.canSendProofs)

def canSendAttachment (userId : Id) (conversation : ResolvedConversation)
    (attachmentType : MessageAttachmentType) : Bool :=
  (getActiveConversationParticipant userId conversation).any fun participant =>
    participant.canSendAttachments &&
      (!isProofAttachmentType attachmentType || participant.canSendProofs)

end WerTe
