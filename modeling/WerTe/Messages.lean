import Mathlib.Data.PNat.Defs
import WerTe.Conversations
import WerTe.ReadCommitted.Redaction

/-!
# Messages

`message.service.ts`, `message-read.service.ts`, `system-message.service.ts` and
`message.repository.ts`: messages with attachments, which are meant for some roles only, the
pages in which they are read, and the events of an order that are posted in its chat.

* `canParticipantViewAttachment`: what a role may see
* `MessageService.send`, `MessageReadService.listCurrentUserConversationMessages`
-/

namespace WerTe

open ReadCommitted

/-! ## `message-attachment-visibility.helper.ts` -/

def canParticipantViewAttachment (role : ConversationParticipantRole) :
    MessageAttachmentVisibility → Bool
  | .allParticipants => true
  | .operationsOnly => role == .admin || role == .support
  | .merchantRiderAdmin =>
    role == .merchant || role == .rider || role == .admin || role == .support
  | .riderCustomerAdmin =>
    role == .rider || role == .customer || role == .admin || role == .support
  | .adminSupportOnly => role == .admin || role == .support

/-! ## Requests -/

inductive SendMessageTypeValue
  | text | image | file | proofOfHandoff | proofOfDelivery
deriving DecidableEq, Repr

inductive SendMessageAttachmentTypeValue
  | image | file | proofOfHandoff | proofOfDelivery
deriving DecidableEq, Repr

def messageTypeMap : SendMessageTypeValue → MessageType
  | .text => .text
  | .image => .image
  | .file => .file
  | .proofOfHandoff => .proofOfHandoff
  | .proofOfDelivery => .proofOfDelivery

def attachmentTypeMap : SendMessageAttachmentTypeValue → MessageAttachmentType
  | .image => .image
  | .file => .file
  | .proofOfHandoff => .proofOfHandoff
  | .proofOfDelivery => .proofOfDelivery

structure SendMessageAttachmentDto where
  type : SendMessageAttachmentTypeValue
  storageKey : String
  fileName : Option String := none
  mimeType : Option String := none
  fileSizeBytes : Option ℕ := none
  width : Option ℕ+ := none
  height : Option ℕ+ := none
deriving DecidableEq

structure SendMessageDto where
  conversationId : Id
  type : Field SendMessageTypeValue := .undefined
  body : Option String := none
  attachments : List SendMessageAttachmentDto := []
  body_max : ∀ text ∈ body, text.length ≤ 1000
  attachments_max : attachments.length ≤ 10

/-! ## `message.repository.ts` -/

structure CreateMessageInput where
  conversationId : Id
  senderKind : MessageSenderKind
  senderId : Option Id
  type : MessageType
  systemEventCode : Option SystemMessageCode
  body : String
  metadataJson : Option String
  attachments : List MessageAttachment
  receiptUserIds : List Id

/-- `SentMessageEntity`. -/
structure SentMessage where
  messageId : Id
  message : Message
deriving DecidableEq

structure MessageSender where
  id : Id
  role : UserRole
  fullName : Option String
  displayName : Option String
  name : Option String
deriving DecidableEq

/-- A message with its sender, as `conversationMessageSelect` loads it. -/
structure ConversationMessageRecord where
  id : Id
  message : Message
  sender : Option MessageSender
deriving DecidableEq

structure MessagePage where
  records : List ConversationMessageRecord
  nextCursor : Option Id
  hasMore : Bool

namespace MessageRepository

/-- A receipt of the sender's own message is read from the start. -/
def newReceipt (senderId : Option Id) (now : Date) (userId : Id) : MessageReceipt where
  userId := userId
  status := if senderId = some userId then .read else .delivered
  deliveredAt := some now
  readAt := if senderId = some userId then some now else none

def newMessage (payload : CreateMessageInput) (now : Date) : Message where
  conversationId := payload.conversationId
  senderKind := payload.senderKind
  senderId := payload.senderId
  type := payload.type
  systemEventCode := payload.systemEventCode
  body := payload.body
  metadataJson := payload.metadataJson
  deletedAt := none
  createdAt := now
  attachments := payload.attachments
  receipts := payload.receiptUserIds.map (newReceipt payload.senderId now)

def create (messageId : Id) (now : Date) (payload : CreateMessageInput) : StoreTx SentMessage := do
  let message := newMessage payload now
  .insertRow (.message, messageId) message fun db =>
    if (db.get (.message, messageId)).isSome then some (.uniqueConstraint "id") else none
  .updateExisting (.conversation, payload.conversationId)
    (fun conversation => { conversation with
      lastMessageId := some messageId, lastMessageAt := some now, updatedAt := now })
    .recordNotFound
  .ret ⟨messageId, message⟩

/-- The newest first. -/
def newerThan (left right : Id × Message) : Bool :=
  ((compare right.2.createdAt left.2.createdAt).then (compare right.1 left.1)) != .gt

/-- The messages of a conversation, the newest first. -/
def messagesOf (db : Store) (conversationId : Id) : List (Id × Message) :=
  (db.list .message (·.conversationId == conversationId)).insertionSort fun left right =>
    newerThan left right

/-- A cursor stands for its message's place in the order. -/
def afterCursor (db : Store) (messages : List (Id × Message)) : Option Id → List (Id × Message)
  | none => messages
  | some id =>
    match db.get (.message, id) with
    | none => []
    | some message => (messages.filter (newerThan (id, message))).drop 1

def findSender (db : Store) (senderId : Id) : Option MessageSender :=
  (db.get (.user, senderId)).map fun user => {
    id := senderId
    role := user.role
    fullName := (db.list .customerProfile (·.userId == senderId)).head?.bind (·.2.fullName)
    displayName := (db.list .rider (·.userId == senderId)).head?.map (·.2.displayName)
    name := (db.list .merchant (·.userId == senderId)).head?.map (·.2.name) }

def messageRecord (db : Store) (row : Id × Message) : ConversationMessageRecord :=
  ⟨row.1, row.2, row.2.senderId.bind (findSender db)⟩

def pageLimit (limit : Option ℕ) : ℕ := min (max (limit.getD 20) 1) 100

def listConversationMessages (db : Store) (conversationId : Id) (cursor : Option Id)
    (limit : Option ℕ) : MessagePage :=
  let messages := ((afterCursor db (messagesOf db conversationId) cursor).take
    (pageLimit limit + 1)).map (messageRecord db)
  let hasMore := pageLimit limit < messages.length
  let ordered := (messages.take (pageLimit limit)).reverse
  { records := ordered
    nextCursor := if hasMore then ordered.head?.map (·.id) else none
    hasMore }

/-- The messages beyond the newest `keep`, but for those some conversation shows as its last. -/
def staleMessages (db : Store) (conversationId : Id) (keep : ℕ) : List Id :=
  (((messagesOf db conversationId).map Prod.fst).filter fun id =>
    (db.list .conversation (·.lastMessageId == some id)).isEmpty).drop keep

/-- A message that has receipts cannot be deleted, and then none is. -/
def deleteMessages (messageIds : List Id) : StoreTx Unit := .attempt fun db =>
  if ∀ id ∈ messageIds, ∀ message ∈ db.get (.message, id), message.receipts = [] then
    .ok ((), messageIds.map fun id => ⟨.message, id, none⟩)
  else .error (.foreignKeyConstraint "messageId")

def pruneOldMessages (conversationId : Id) (keep : ℕ) : StoreService Unit := do
  let stale ← .get fun db => staleMessages db conversationId keep
  .transaction (deleteMessages stale)

end MessageRepository

/-! ## `message.service.ts` -/

namespace MessageService

/-- `null` passes the request's validation and is the type of no message. -/
def resolveMessageType : Field SendMessageTypeValue → Option MessageType
  | .undefined => some .text
  | .null => none
  | .value type => some (messageTypeMap type)

def resolveExpectedAttachmentType : Option MessageType → MessageAttachmentType
  | some .image => .image
  | some .proofOfHandoff => .proofOfHandoff
  | some .proofOfDelivery => .proofOfDelivery
  | _ => .file

def resolveAttachmentVisibility : MessageAttachmentType → MessageAttachmentVisibility
  | .proofOfHandoff => .merchantRiderAdmin
  | .proofOfDelivery => .riderCustomerAdmin
  | _ => .allParticipants

def mapAttachment (now : Date) (attachment : SendMessageAttachmentDto) : MessageAttachment where
  type := attachmentTypeMap attachment.type
  visibility := resolveAttachmentVisibility (attachmentTypeMap attachment.type)
  storageKey := attachment.storageKey
  fileName := attachment.fileName
  mimeType := attachment.mimeType
  fileSizeBytes := attachment.fileSizeBytes
  width := attachment.width.map (↑)
  height := attachment.height.map (↑)
  createdAt := now

/-- `body?.trim() ?? ''`. -/
def trimmedBody (body : Option String) : String := (body.map trim).getD ""

def assertValidPayload (messageType : Option MessageType) (body : Option String)
    (attachmentTypes : List MessageAttachmentType) : StoreService Unit :=
  if messageType = some .text then do
    .require ((trimmedBody body).length ≠ 0)
      (fail "Text messages require a non-empty body." .unprocessableEntity)
    .require (attachmentTypes = [])
      (fail "Text messages cannot include attachments." .unprocessableEntity)
  else do
    .require (attachmentTypes ≠ [])
      (fail "This message type requires at least one attachment." .unprocessableEntity)
    .require (∀ type ∈ attachmentTypes, type = resolveExpectedAttachmentType messageType)
      (fail "Attachment type does not match the selected message type." .unprocessableEntity)

/-- The checks of `send`, which look at the attachments' types only. -/
def assertCanSend (currentUser : AuthenticatedUser) (conversationId : Id)
    (messageType : Option MessageType) (body : Option String)
    (attachmentTypes : List MessageAttachmentType) : StoreService ResolvedConversation := do
  let found ← .get fun db => ConversationRepository.findResolvedById db conversationId
  let conversation ← .orFail found (fail "Conversation was not found." .notFound)
  .require (canAccessConversation currentUser.userId conversation)
    (fail "You are not allowed to access this conversation." .forbidden)
  .require (canSendMessage currentUser.userId conversation (messageType.getD .text))
    (fail "You are not allowed to send this message type in the conversation." .forbidden)
  assertValidPayload messageType body attachmentTypes
  .require (∀ type ∈ attachmentTypes, canSendAttachment currentUser.userId conversation type)
    (fail "You are not allowed to send this attachment type in the conversation." .forbidden)
  .ret conversation

/-- Everyone who has not left. -/
def receiptUserIds (conversation : ResolvedConversation) : List Id :=
  (conversation.participants.filter (·.leftAt.isNone)).filterMap (·.userId)

def send (messageId : Id) (now : Date) (currentUser : AuthenticatedUser) (dto : SendMessageDto) :
    StoreService SentMessage := do
  let messageType := resolveMessageType dto.type
  let conversation ← assertCanSend currentUser dto.conversationId messageType dto.body
    (dto.attachments.map fun attachment => attachmentTypeMap attachment.type)
  .transaction (MessageRepository.create messageId now {
    conversationId := conversation.conversationId
    senderKind := .user
    senderId := some currentUser.userId
    type := messageType.getD .text
    systemEventCode := none
    body := trimmedBody dto.body
    metadataJson := none
    attachments := dto.attachments.map (mapAttachment now)
    receiptUserIds := receiptUserIds conversation })

end MessageService

/-! ## `system-message.service.ts` -/

namespace SystemMessageService

/-- `body` is the code's template as it is rendered for the order. -/
structure PublishOrderEventInput where
  orderId : Id
  code : SystemMessageCode
  metadata : Option String := none
  body : String
deriving DecidableEq

/-- `createSystemEvent`. -/
def systemEvent (input : PublishOrderEventInput) (conversation : ResolvedConversation) :
    CreateMessageInput where
  conversationId := conversation.conversationId
  senderKind := .system
  senderId := none
  type := .systemEvent
  systemEventCode := some input.code
  body := input.body
  metadataJson := input.metadata
  attachments := []
  receiptUserIds := MessageService.receiptUserIds conversation

/-- The conversation is resolved and the event posted in it. A failure is logged. -/
def publishToParticipants (messageId : Id) (now : Date) (input : PublishOrderEventInput)
    (order : ConversationOrderContext) (participants : List ConversationParticipantSpec) :
    StoreService Unit :=
  .tx (ConversationRepository.resolve order.orderId .orderChat
    (buildConversationTitle order .orderChat) participants now) fun
  | .error _ => .ret ()
  | .ok conversation =>
    .tx (MessageRepository.create messageId now (systemEvent input conversation)) fun _ => .ret ()

/-- Whom an event of the order is published to: the participants of its chat, if it has them. -/
def eventParticipants (currentUser : AuthenticatedUser) (order : Option ConversationOrderContext) :
    Option (ConversationOrderContext × List ConversationParticipantSpec) := do
  let order ← order
  let participants ←
    (buildConversationParticipants currentUser order .orderChat).filter (· ≠ [])
  return (order, participants)

def publishOrderEvent (messageId : Id) (now : Date) (currentUser : AuthenticatedUser)
    (input : PublishOrderEventInput) : StoreService Unit := do
  let order ← .get fun db => ConversationRepository.findOrderContextById db input.orderId
  match eventParticipants currentUser order with
  | none => .ret ()
  | some (order, participants) => publishToParticipants messageId now input order participants

end SystemMessageService

/-! ## `notification-event.service.ts` -/

/-- Everyone who has not left, but for whoever acts. -/
def resolveRecipientUserIds (conversation : ResolvedConversation) (actorUserId : Id) : List Id :=
  (conversation.participants.filter fun participant => participant.leftAt.isNone &&
    participant.userId.isSome && participant.userId != some actorUserId).filterMap (·.userId)

/-! ## `message-read.service.ts` -/

/-- A role of a user, or `SYSTEM`. -/
inductive MessageSenderRole
  | system
  | user (role : UserRole)
deriving DecidableEq, Repr

structure ConversationMessage where
  messageId : Id
  conversationId : Id
  senderKind : MessageSenderKind
  senderId : Option Id
  senderRole : Option MessageSenderRole
  senderDisplayName : Option String
  type : MessageType
  systemEventCode : Option SystemMessageCode
  body : String
  metadataJson : Option String
  deletedAt : Option Date
  createdAt : Date
  isOwnMessage : Bool
  attachments : List MessageAttachment
  receipts : List MessageReceipt
deriving DecidableEq

structure ConversationMessageList where
  conversationId : Id
  nextCursor : Option Id
  hasMore : Bool
  messages : List ConversationMessage
deriving DecidableEq

namespace MessageReadService

def resolveSenderDisplayName (sender : Option MessageSender) : Option String :=
  sender.bind fun sender =>
    match sender.role with
    | .customer => some (sender.fullName.getD "Customer")
    | .merchant => some (sender.name.getD "Merchant")
    | .rider => some (sender.displayName.getD "Rider")
    | .admin => some "Admin"
    | .support => some "Support"
    | .merchantStaff => none

def buildConversationMessage (currentUserId : Id) (viewerRole : ConversationParticipantRole)
    (record : ConversationMessageRecord) : ConversationMessage where
  messageId := record.id
  conversationId := record.message.conversationId
  senderKind := record.message.senderKind
  senderId := record.message.senderId
  senderRole :=
    if record.message.senderKind = .system then some .system
    else record.sender.map fun sender => .user sender.role
  senderDisplayName :=
    if record.message.senderKind = .system then some "System"
    else resolveSenderDisplayName record.sender
  type := record.message.type
  systemEventCode := record.message.systemEventCode
  body := record.message.body
  metadataJson := record.message.metadataJson
  deletedAt := record.message.deletedAt
  createdAt := record.message.createdAt
  isOwnMessage :=
    record.message.senderKind == .user && record.message.senderId == some currentUserId
  attachments := record.message.attachments.filter fun attachment =>
    canParticipantViewAttachment viewerRole attachment.visibility
  receipts := record.message.receipts

def listCurrentUserConversationMessages (currentUser : AuthenticatedUser) (conversationId : Id)
    (cursor : Option Id) (limit : Option ℕ) : StoreService ConversationMessageList := do
  let found ← .get fun db => ConversationRepository.findResolvedById db conversationId
  let conversation ← .orFail found (fail "Conversation was not found." .notFound)
  .require (canAccessConversation currentUser.userId conversation)
    (fail "You are not allowed to access this conversation." .forbidden)
  let participant ← .orFail (getActiveConversationParticipant currentUser.userId conversation)
    (fail "The authenticated actor is not an active participant in the conversation." .forbidden)
  .get fun db =>
    let page := MessageRepository.listConversationMessages db conversationId cursor limit
    { conversationId
      nextCursor := page.nextCursor
      hasMore := page.hasMore
      messages := page.records.map
        (buildConversationMessage currentUser.userId participant.roleAtJoin) }

end MessageReadService

end WerTe
