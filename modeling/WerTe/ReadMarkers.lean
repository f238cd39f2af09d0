import WerTe.AttachmentVisibility
import WerTe.ConversationHead
import WerTe.ReadCommitted.Flags

/-!
# How far a participant has read

`message-receipt.service.ts`: whoever reads a message of a conversation has read the older ones as
well. There are two records of this, the messages' receipts and the participant's marker. A
receipt that is read stays so; the marker is set to whatever message the call is about, also when
that is an older one than the marker has been at.

* `Reading`: the database, with the messages that a participant's marker has been at
* `read_marker_forward_iff`: exactly when the marker only moves forward and what is read is all of
  the conversation up to some message
-/

namespace WerTe

open ReadCommitted MessageRepository

/-! ## Receipts -/

def MessageReceipt.isUnreadBy (userId : Id) (receipt : MessageReceipt) : Bool :=
  receipt.userId == userId && receipt.status != .read

def MessageReceipt.readBy (userId : Id) (readAt : Date) (receipt : MessageReceipt) :
    MessageReceipt :=
  if receipt.isUnreadBy userId then { receipt with status := .read, readAt := some readAt }
  else receipt

namespace Message

def isUnreadBy (userId : Id) (message : Message) : Bool :=
  message.receipts.any (·.isUnreadBy userId)

def readBy (userId : Id) (readAt : Date) (message : Message) : Message :=
  { message with receipts := message.receipts.map (·.readBy userId readAt) }

/-- The user has read it, and has not sent it. -/
def isReadBy (userId : Id) (message : Message) : Bool :=
  message.senderId != some userId &&
    message.receipts.any fun receipt => receipt.userId == userId && receipt.status == .read

end Message

/-! ## `message.repository.ts` -/

structure MarkedMessageRead where
  conversationId : Id
  messageId : Id
  readAt : Date

structure MessageReadContext where
  id : Id
  conversationId : Id

namespace MessageRepository

def findMessageReadContextById (db : Store) (messageId : Id) : Option MessageReadContext :=
  (db.get (.message, messageId)).map fun message => ⟨messageId, message.conversationId⟩

/-- `messageReceipt.updateMany`, for the receipts of some of the messages. -/
def readReceipts (userId : Id) (readAt : Date) (p : Id × Message → Bool) (db : Store) :
    List (Write Row) :=
  ((db.list .message (·.isUnreadBy userId)).filter p).map fun row =>
    ⟨.message, row.1, some (row.2.readBy userId readAt)⟩

/-- The messages of the conversation up to the target, the oldest first. -/
def messagesUpTo (db : Store) (conversationId targetMessageId : Id) : Option (List Id) :=
  let orderedMessages := ((messagesOf db conversationId).map Prod.fst).reverse
  (orderedMessages.findIdx? (· == targetMessageId)).map fun targetIndex =>
    orderedMessages.take (targetIndex + 1)

/-- `conversationParticipant.updateMany`. -/
def setMarker (conversationId userId messageId : Id) (readAt : Date) : StoreTx Unit :=
  .updateAll .conversationParticipant
    (fun participant => participant.conversationId == conversationId &&
      participant.userId == some userId && participant.leftAt.isNone)
    fun participant => { participant with
      lastReadMessageId := some messageId, lastReadAt := some readAt }

def markConversationReadUpTo (conversationId targetMessageId userId : Id) (readAt : Date) :
    StoreTx MarkedMessageRead := do
  let upTo ← .read fun db => messagesUpTo db conversationId targetMessageId
  match upTo with
  | none => .ret ⟨conversationId, targetMessageId, readAt⟩
  | some messageIds => do
    .update fun db => ((), readReceipts userId readAt (fun row => row.1 ∈ messageIds) db)
    setMarker conversationId userId targetMessageId readAt
    .ret ⟨conversationId, targetMessageId, readAt⟩

/-- The conversations with a message that the user has not read. -/
def unreadConversations (db : Store) (userId : Id) : List Id :=
  ((db.list .message (·.isUnreadBy userId)).map (·.2.conversationId)).dedup

def setMarkers (userId : Id) (readAt : Date) : List (Id × Conversation) → StoreTx Unit
  | [] => .ret ()
  | (conversationId, conversation) :: conversations =>
    match conversation.lastMessageId with
    | none => setMarkers userId readAt conversations
    | some lastMessageId => do
      setMarker conversationId userId lastMessageId readAt
      setMarkers userId readAt conversations

def markAllConversationsReadForUser (userId : Id) (readAt : Date) : StoreTx (List Id) := do
  let conversationIds ← .read fun db => unreadConversations db userId
  if conversationIds = [] then .ret []
  else do
    .update fun db => ((), readReceipts userId readAt
      (fun row => row.2.conversationId ∈ conversationIds) db)
    let conversations ← .read fun db => conversationIds.filterMap fun id =>
      (db.get (.conversation, id)).map fun conversation => (id, conversation)
    setMarkers userId readAt conversations
    .ret conversationIds

end MessageRepository

/-! ## `message-receipt.service.ts` -/

namespace MessageReceiptService

def markMessageRead (currentUser : AuthenticatedUser) (messageId : Id) (readAt : Date) :
    StoreService MarkedMessageRead := do
  let context ← .get fun db => findMessageReadContextById db messageId
  let context ← .orFail context (fail "Message was not found." .notFound)
  let found ← .get fun db => ConversationRepository.findResolvedById db context.conversationId
  let conversation ← .orFail found (fail "Conversation was not found." .notFound)
  .require (canAccessConversation currentUser.userId conversation)
    (fail "You are not allowed to access this conversation." .forbidden)
  .require (getActiveConversationParticipant currentUser.userId conversation ≠ none)
    (fail "The authenticated actor is not an active participant in the conversation."
      .forbidden)
  .transaction
    (markConversationReadUpTo context.conversationId context.id currentUser.userId readAt)

def markAllConversationsRead (currentUser : AuthenticatedUser) (readAt : Date) :
    StoreService (List Id) :=
  .transaction (markAllConversationsReadForUser currentUser.userId readAt)

end MessageReceiptService

/-! ## Runs -/

inductive ReceiptCall
  | markMessageRead (currentUser : AuthenticatedUser) (messageId : Id) (readAt : Date)
  | markAllConversationsRead (currentUser : AuthenticatedUser) (readAt : Date)
  | create (call : CreateCall)

/-- The database, with the messages that the participant's marker has been at so far. -/
structure Reading where
  db : Store
  markedSoFar : List (Id × Message)

section

variable (participantId : Id)

def lastReadMessageId (db : Store) : Option Id :=
  (db.get (.conversationParticipant, participantId)).bind (·.lastReadMessageId)

/-- The message that the marker is at. -/
def markedMessage (db : Store) : Option (Id × Message) :=
  (lastReadMessageId participantId db).bind fun id =>
    (db.get (.message, id)).map fun message => (id, message)

def Reading.start (db : Store) : Reading := ⟨db, (markedMessage participantId db).toList⟩

namespace ReceiptCall

def run : ReceiptCall → Store → Store
  | .markMessageRead currentUser messageId readAt, db =>
    ((MessageReceiptService.markMessageRead currentUser messageId readAt).run db).2
  | .markAllConversationsRead currentUser readAt, db =>
    ((MessageReceiptService.markAllConversationsRead currentUser readAt).run db).2
  | .create call, db => (call.service.run db).2

def step (call : ReceiptCall) (s : Reading) : Reading :=
  ⟨call.run s.db, s.markedSoFar ++ (markedMessage participantId (call.run s.db)).toList⟩

/-- The marker stays, or moves to a message that none of those it has been at is newer than. -/
def MarkerForward (call : ReceiptCall) (s : Reading) : Prop :=
  lastReadMessageId participantId (call.run s.db) = lastReadMessageId participantId s.db ∨
    ∀ row ∈ markedMessage participantId (call.run s.db), ∀ old ∈ s.markedSoFar,
      newerThan row old = true

end ReceiptCall

/-- If the user has read a message that somebody else has sent, it has read all that are older. -/
def ReceiptsClosed (conversationId userId : Id) (db : Store) : Prop :=
  ∀ row ∈ db.list .message (·.conversationId == conversationId), row.2.isReadBy userId = true →
    ∀ older ∈ db.list .message (·.conversationId == conversationId),
      newerThan row older = true → older.2.isUnreadBy userId = false

/-- A message that the participant's marker is to be set to is not older than those it has been
at. -/
def NotOlder (s : Reading) (participant : ConversationParticipant) (messageId : Id) : Prop :=
  participant.lastReadMessageId ≠ some messageId →
    ∀ message ∈ s.db.get (.message, messageId), ∀ old ∈ s.markedSoFar,
      newerThan (messageId, message) old = true

namespace ReceiptCall

/-- Who reads a message has not been at a newer one; no conversation shows a message as its last
that is older than one its readers have been at; and a message is not created behind one that the
user has read. -/
def KeepsOrder (conversationId userId : Id) (s : Reading) : ReceiptCall → Prop
  | .markMessageRead currentUser messageId _ =>
    ∀ participant ∈ s.db.get (.conversationParticipant, participantId),
      participant.userId = some currentUser.userId → participant.leftAt = none →
      (s.db.get (.conversation, participant.conversationId)).isSome →
      (∀ message ∈ s.db.get (.message, messageId),
        message.conversationId = participant.conversationId) →
      NotOlder s participant messageId
  | .markAllConversationsRead currentUser _ =>
    ∀ participant ∈ s.db.get (.conversationParticipant, participantId),
      participant.userId = some currentUser.userId → participant.leftAt = none →
      participant.conversationId ∈ unreadConversations s.db currentUser.userId →
      ∀ conversation ∈ s.db.get (.conversation, participant.conversationId),
        ∀ lastMessageId ∈ conversation.lastMessageId, NotOlder s participant lastMessageId
  | .create call =>
    call.conversationId = conversationId → call.payload.senderId ≠ some userId →
      userId ∈ call.payload.receiptUserIds → s.db.get (.message, call.messageId) = none →
      (s.db.get (.conversation, conversationId)).isSome →
      ∀ row ∈ s.db.list .message (·.conversationId == conversationId),
        row.2.isReadBy userId = true → newerThan (call.messageId, call.message) row = true

end ReceiptCall

end

/-! ## Reading receipts -/

section Receipts

variable {userId userId' : Id} {readAt : Date} {message : Message} {db : Store}

theorem MessageReceipt.isUnreadBy_readBy (receipt : MessageReceipt) :
    (receipt.readBy userId readAt).isUnreadBy userId = false := by
  unfold MessageReceipt.readBy
  split
  · simp [MessageReceipt.isUnreadBy]
  · next h => exact Bool.eq_false_iff.mpr h

/-- The receipts of other users stay as they are. -/
theorem MessageReceipt.readBy_of_ne {receipt : MessageReceipt} (h : receipt.userId ≠ userId) :
    receipt.readBy userId readAt = receipt := by
  simp [MessageReceipt.readBy, MessageReceipt.isUnreadBy, h]

namespace Message

theorem isUnreadBy_readBy : (message.readBy userId readAt).isUnreadBy userId = false := by
  simp only [isUnreadBy, readBy, List.any_map, List.any_eq_false]
  exact fun receipt _ => by simp [MessageReceipt.isUnreadBy_readBy]

theorem readBy_of_read (h : message.isUnreadBy userId = false) :
    message.readBy userId readAt = message := by
  rw [isUnreadBy, List.any_eq_false] at h
  have hreceipts : message.receipts.map (·.readBy userId readAt) = message.receipts := by
    refine (List.map_congr_left fun receipt hreceipt => ?_).trans (List.map_id _)
    exact if_neg (h receipt hreceipt)
  rw [readBy, hreceipts]

/-- Whether another user has read it is as before. -/
theorem any_readBy_of_ne (hne : userId' ≠ userId) (q : MessageReceipt → Bool) :
    ((message.readBy userId readAt).receipts.any fun receipt =>
        receipt.userId == userId' && q receipt) =
      message.receipts.any fun receipt => receipt.userId == userId' && q receipt := by
  rw [readBy, List.any_map]
  refine List.any_congr rfl fun receipt => ?_
  by_cases hreceipt : receipt.userId = userId
  · have hafter : (receipt.readBy userId readAt).userId = userId := by
      unfold MessageReceipt.readBy
      split <;> exact hreceipt
    have huser : (userId == userId') = false := beq_eq_false_iff_ne.mpr (Ne.symm hne)
    rw [Function.comp_apply, hafter, hreceipt, huser, Bool.false_and, Bool.false_and]
  · rw [Function.comp_apply, MessageReceipt.readBy_of_ne hreceipt]

theorem isUnreadBy_readBy_of_ne (hne : userId' ≠ userId) :
    (message.readBy userId readAt).isUnreadBy userId' = message.isUnreadBy userId' :=
  any_readBy_of_ne hne fun receipt => receipt.status != .read

theorem isReadBy_readBy_of_ne (hne : userId' ≠ userId) :
    (message.readBy userId readAt).isReadBy userId' = message.isReadBy userId' := by
  rw [isReadBy, isReadBy, any_readBy_of_ne hne fun receipt => receipt.status == .read]
  rfl

/-- Only a message with receipts has been read, or has not. -/
theorem receipts_ne_nil (h : message.isReadBy userId = true ∨ message.isUnreadBy userId = true) :
    message.receipts ≠ [] := by
  intro hnil
  simp [isReadBy, isUnreadBy, hnil] at h

end Message

namespace MessageRepository

/-- A message after some have been read. -/
theorem get_readReceipts {p : Id × Message → Bool} (id : Id) :
    (db.apply (readReceipts userId readAt p db)).get (.message, id) =
      (db.get (.message, id)).map fun message =>
        if p (id, message) then message.readBy userId readAt else message := by
  by_cases hid : ((.message, id) : Key Tbl) ∈ (readReceipts userId readAt p db).map Write.key
  · obtain ⟨row, hrow, hget⟩ := Db.get_apply_of_mem hid db
    obtain ⟨⟨id', message⟩, hmem, heq⟩ := List.mem_map.mp hrow
    obtain ⟨hlist, hp⟩ := List.mem_filter.mp hmem
    cases heq
    rw [hget, (Db.mem_list.mp hlist).1, Option.map_some, if_pos hp]
  · rw [Db.get_apply_of_notMem hid]
    rcases hget : db.get (.message, id) with _ | message
    · rfl
    · -- what is passed over has no unread receipt
      rw [Option.map_some]
      split
      · next hp =>
        have hread : message.isUnreadBy userId = false := by
          rw [← Bool.not_eq_true]
          intro hunread
          refine hid (List.mem_map.mpr ⟨_, List.mem_map.mpr ⟨(id, message), ?_, rfl⟩, rfl⟩)
          exact List.mem_filter.mpr ⟨Db.mem_list.mpr ⟨hget, hunread⟩, hp⟩
        rw [Message.readBy_of_read hread]
      · rfl

theorem get_readReceipts_ne {p : Id × Message → Bool} {t : Tbl} (ht : t ≠ .message) (id : ℕ) :
    (db.apply (readReceipts userId readAt p db)).get (t, id) = db.get (t, id) := by
  refine Db.get_apply_of_table fun w hw => ?_
  obtain ⟨_, -, rfl⟩ := List.mem_map.mp hw
  exact ht.symm

end MessageRepository

end Receipts

/-! ## Moving markers -/

section Markers

variable {conversationId userId messageId id : Id} {readAt : Date} {db : Store}

/-- The participant is the user, and has not left. -/
def ConversationParticipant.isActive (userId : Id) (participant : ConversationParticipant) : Prop :=
  participant.userId = some userId ∧ participant.leftAt = none

instance (participant : ConversationParticipant) : Decidable (participant.isActive userId) :=
  inferInstanceAs (Decidable (_ ∧ _))

/-- The participant, once its marker has been set. -/
def ConversationParticipant.markAt (participant : ConversationParticipant) (messageId : Id)
    (readAt : Date) : ConversationParticipant :=
  { participant with lastReadMessageId := some messageId, lastReadAt := some readAt }

namespace MessageRepository

theorem setMarker_run (conversationId userId messageId : Id) (readAt : Date) (db : Store) :
    ∃ db', (setMarker conversationId userId messageId readAt).run db = .ok ((), db') ∧
    (∀ t ≠ .conversationParticipant, ∀ id, db'.get (t, id) = db.get (t, id)) ∧
    ∀ id, db'.get (.conversationParticipant, id) =
      (db.get (.conversationParticipant, id)).map fun participant =>
        if participant.conversationId = conversationId ∧ participant.isActive userId then
          participant.markAt messageId readAt
        else participant := by
  refine ⟨_, rfl, fun t ht id => Db.get_apply_updates_ne ht, fun id => ?_⟩
  refine Db.get_apply_updates.trans (congrArg (fun f => Option.map f _) ?_)
  funext participant
  refine if_congr ?_ rfl rfl
  simp [ConversationParticipant.isActive, and_assoc]

/-- Every active participant of one of the conversations gets to its last message. -/
theorem setMarkers_run (userId : Id) (readAt : Date) (conversations : List (Id × Conversation)) :
    ∀ db : Store, (conversations.map Prod.fst).Nodup →
    ∃ db', (setMarkers userId readAt conversations).run db = .ok ((), db') ∧
      (∀ t ≠ .conversationParticipant, ∀ id, db'.get (t, id) = db.get (t, id)) ∧
      ∀ id, db'.get (.conversationParticipant, id) =
        (db.get (.conversationParticipant, id)).map fun participant =>
          if participant.isActive userId then
            ((conversations.lookup participant.conversationId).bind (·.lastMessageId)).elim
              participant (participant.markAt · readAt)
          else participant := by
  induction conversations with
  | nil =>
    intro db _
    exact ⟨db, rfl, fun _ _ _ => rfl, fun id => by simp⟩
  | cons row conversations ih =>
    obtain ⟨conversationId, conversation⟩ := row
    intro db hnodup
    rw [List.map_cons, List.nodup_cons] at hnodup
    obtain ⟨hnew, hnodup⟩ := hnodup
    have hlater : conversations.lookup conversationId = none := by
      rw [List.lookup_eq_none_iff]
      intro row hrow
      simpa using fun heq => hnew (List.mem_map.mpr ⟨row, hrow, heq.symm⟩)
    unfold setMarkers
    rcases hlast : conversation.lastMessageId with _ | lastMessageId
    · -- the conversation has no messages
      obtain ⟨db', hrun, hother, hget⟩ := ih db hnodup
      refine ⟨db', hrun, hother, fun id => (hget id).trans ?_⟩
      congr 1
      funext participant
      by_cases hhere : participant.conversationId = conversationId
      · simp [hhere, hlater, hlast]
      · simp [List.lookup_cons, beq_eq_false_iff_ne.mpr hhere]
    · obtain ⟨db₁, hset, hother₁, hget₁⟩ := setMarker_run conversationId userId lastMessageId
        readAt db
      obtain ⟨db', hrun, hother, hget⟩ := ih db₁ hnodup
      refine ⟨db', ?_, fun t ht id => (hother t ht id).trans (hother₁ t ht id), fun id => ?_⟩
      · dsimp only
        rw [Tx.bind_eq, Tx.run_bind, hset]
        exact hrun
      · rw [hget, hget₁, Option.map_map]
        congr 1
        funext participant
        by_cases hhere : participant.conversationId = conversationId
        · by_cases hactive : participant.isActive userId
          · have hafter : (participant.markAt lastMessageId readAt).conversationId =
              conversationId := hhere
            simp [hhere, hactive, hafter, hlater, hlast]
          · simp [hactive]
        · simp [List.lookup_cons, hhere, beq_eq_false_iff_ne.mpr hhere]

end MessageRepository

end Markers

/-! ## What the calls do -/

section Calls

variable {conversationId userId messageId id : Id} {readAt : Date} {message : Message} {db : Store}

namespace MessageRepository

/-- The messages up to the target are those of its conversation that it is newer than. -/
theorem messagesUpTo_spec (hget : db.get (.message, messageId) = some message) :
    ∃ ids, messagesUpTo db message.conversationId messageId = some ids ∧
      ∀ id other, db.get (.message, id) = some other → (id ∈ ids ↔
        other.conversationId = message.conversationId ∧
          newerThan (messageId, message) (id, other) = true) := by
  set ordered := (messagesOf db message.conversationId).reverse with hordered
  have hmem : ∀ id other, (id, other) ∈ ordered ↔ db.get (.message, id) = some other ∧
      other.conversationId = message.conversationId := by
    intro id other
    rw [hordered, List.mem_reverse, mem_messagesOf]
  have hnodup : (ordered.map Prod.fst).Nodup := by
    rw [hordered, List.map_reverse, List.nodup_reverse]
    exact messagesOf_nodup db _
  have hsorted : ordered.Pairwise fun left right => newerThan right left = true := by
    rw [hordered, List.pairwise_reverse]
    exact messagesOf_sorted db _
  obtain ⟨before, after, hsplit⟩ := List.append_of_mem ((hmem _ _).mpr ⟨hget, rfl⟩)
  rw [hsplit, List.map_append, List.map_cons] at hnodup
  rw [hsplit, List.pairwise_append, List.pairwise_cons] at hsorted
  have hfirst : messageId ∉ before.map Prod.fst := fun h =>
    (List.nodup_append.mp hnodup).2.2 _ h _ (List.mem_cons_self ..) rfl
  refine ⟨before.map Prod.fst ++ [messageId], ?_, fun id other hother => ?_⟩
  · have hindex : (before.map Prod.fst ++ messageId :: after.map Prod.fst).findIdx?
        (· == messageId) = some before.length := by
      rw [List.findIdx?_append, List.findIdx?_eq_none_iff.mpr fun id hid => ?_]
      · simp [List.findIdx?_cons]
      · exact beq_eq_false_iff_ne.mpr fun heq => hfirst (heq ▸ hid)
    rw [messagesUpTo, ← List.map_reverse, ← hordered, hsplit, List.map_append, List.map_cons,
      hindex]
    simp [List.take_append]
  · rw [List.mem_append, List.mem_singleton]
    constructor
    · rintro (hid | rfl)
      · obtain ⟨⟨id', other'⟩, hrow, rfl⟩ := List.mem_map.mp hid
        obtain ⟨hget', hconversation⟩ :=
          (hmem id' other').mp (hsplit ▸ List.mem_append_left _ hrow)
        obtain rfl := Option.some.inj (hget'.symm.trans hother)
        exact ⟨hconversation, hsorted.2.2 _ hrow _ (List.mem_cons_self ..)⟩
      · obtain rfl := Option.some.inj (hget.symm.trans hother)
        exact ⟨rfl, newerThan_refl _⟩
    · rintro ⟨hconversation, hnewer⟩
      have hrow : (id, other) ∈ before ++ (messageId, message) :: after :=
        hsplit ▸ (hmem id other).mpr ⟨hother, hconversation⟩
      rcases List.mem_append.mp hrow with hbefore | hrow
      · exact .inl (List.mem_map.mpr ⟨_, hbefore, rfl⟩)
      · rcases List.mem_cons.mp hrow with heq | hafter
        · exact .inr (congrArg Prod.fst heq)
        · -- what comes after the target is newer than it
          have hne : id ≠ messageId := by
            rintro rfl
            exact (List.nodup_cons.mp (List.nodup_append.mp hnodup).2.1).1
              (List.mem_map.mpr ⟨_, hafter, rfl⟩)
          have holder := not_newerThan_of_ne (a := (id, other)) (b := (messageId, message)) hne
            (hsorted.2.1.1 _ hafter)
          rw [holder] at hnewer
          cases hnewer

theorem markConversationReadUpTo_run (userId : Id) (readAt : Date)
    (hget : db.get (.message, messageId) = some message) :
    ∃ read db', (markConversationReadUpTo message.conversationId messageId userId readAt).run db =
        .ok (read, db') ∧
      (∀ id, db'.get (.message, id) = (db.get (.message, id)).map fun other =>
        if other.conversationId = message.conversationId ∧
            newerThan (messageId, message) (id, other) = true then other.readBy userId readAt
        else other) ∧
      ∀ id, db'.get (.conversationParticipant, id) =
        (db.get (.conversationParticipant, id)).map fun participant =>
          if participant.conversationId = message.conversationId ∧ participant.isActive userId then
            participant.markAt messageId readAt
          else participant := by
  obtain ⟨ids, hupTo, hids⟩ := messagesUpTo_spec hget
  obtain ⟨db', hset, hother, hmarked⟩ := setMarker_run message.conversationId userId messageId
    readAt (db.apply (readReceipts userId readAt (fun row => row.1 ∈ ids) db))
  refine ⟨⟨message.conversationId, messageId, readAt⟩, db', ?_, fun id => ?_, fun id => ?_⟩
  · simp only [markConversationReadUpTo, Tx.bind_eq, Tx.run_bind, Tx.run_read, Except.bind, hupTo,
      Tx.run_update, hset, Tx.run_ret]
  · rw [hother _ (by decide), get_readReceipts]
    refine Option.map_congr fun other hother => if_congr ?_ rfl rfl
    rw [decide_eq_true_iff]
    exact hids id other hother
  · rw [hmarked, get_readReceipts_ne (by decide)]

/-- The conversations that are read of some ids. -/
theorem lookup_conversations (db : Store) (id : Id) (ids : List Id) :
    (ids.filterMap fun id => (db.get (.conversation, id)).map fun conversation =>
      (id, conversation)).lookup id = if id ∈ ids then db.get (.conversation, id) else none := by
  induction ids with
  | nil => rfl
  | cons first ids ih =>
    rcases hget : db.get (.conversation, first) with _ | conversation
    · rw [List.filterMap_cons_none (by rw [hget]; rfl), ih]
      by_cases hid : id = first
      · subst hid
        simp [hget]
      · simp [hid]
    · rw [List.filterMap_cons_some (by rw [hget]; rfl), List.lookup_cons, ih]
      by_cases hid : id = first
      · subst hid
        simp [hget]
      · simp [hid, beq_eq_false_iff_ne.mpr hid]

theorem conversations_sublist (db : Store) (ids : List Id) :
    ((ids.filterMap fun id => (db.get (.conversation, id)).map fun conversation =>
      (id, conversation)).map Prod.fst).Sublist ids := by
  induction ids with
  | nil => exact .slnil
  | cons first ids ih =>
    rcases hget : db.get (.conversation, first) with _ | conversation
    · rw [List.filterMap_cons_none (by rw [hget]; rfl)]
      exact ih.cons first
    · rw [List.filterMap_cons_some (by rw [hget]; rfl), List.map_cons]
      exact ih.cons_cons first

theorem markAllConversationsReadForUser_run (userId : Id) (readAt : Date) (db : Store) :
    ∃ ids db', (markAllConversationsReadForUser userId readAt).run db = .ok (ids, db') ∧
      (∀ id, db'.get (.message, id) = (db.get (.message, id)).map fun other =>
        if other.conversationId ∈ unreadConversations db userId then other.readBy userId readAt
        else other) ∧
      ∀ id, db'.get (.conversationParticipant, id) =
        (db.get (.conversationParticipant, id)).map fun participant =>
          if participant.isActive userId ∧
              participant.conversationId ∈ unreadConversations db userId then
            ((db.get (.conversation, participant.conversationId)).bind (·.lastMessageId)).elim
              participant (participant.markAt · readAt)
          else participant := by
  by_cases hnone : unreadConversations db userId = []
  · refine ⟨[], db, ?_, fun id => by simp [hnone], fun id => by simp [hnone]⟩
    simp only [markAllConversationsReadForUser, Tx.bind_eq, Tx.run_bind, Tx.run_read, Except.bind,
      if_pos hnone, Tx.run_ret]
  · set ids := unreadConversations db userId with hids
    set db₁ := db.apply (readReceipts userId readAt (fun row => row.2.conversationId ∈ ids) db)
      with hdb₁
    have hkept : ∀ id, db₁.get (.conversation, id) = db.get (.conversation, id) := fun id =>
      get_readReceipts_ne (by decide) id
    set conversations := ids.filterMap fun id =>
      (db₁.get (.conversation, id)).map fun conversation => (id, conversation) with hconversations
    have hnodup : (conversations.map Prod.fst).Nodup :=
      (conversations_sublist db₁ ids).nodup (List.nodup_dedup _)
    obtain ⟨db', hset, hother, hmarked⟩ := setMarkers_run userId readAt conversations db₁ hnodup
    refine ⟨ids, db', ?_, fun id => ?_, fun id => ?_⟩
    · simp only [markAllConversationsReadForUser, Tx.bind_eq, Tx.run_bind, Tx.run_read,
        Except.bind, ← hids, if_neg hnone, Tx.run_update, ← hdb₁, ← hconversations, hset,
        Tx.run_ret]
    · rw [hother _ (by decide), get_readReceipts]
      exact Option.map_congr fun other _ => if_congr (decide_eq_true_iff) rfl rfl
    · rw [hmarked, get_readReceipts_ne (by decide)]
      refine Option.map_congr fun participant _ => ?_
      rw [hconversations, lookup_conversations, hkept]
      by_cases hactive : participant.isActive userId
      · by_cases hunread : participant.conversationId ∈ ids
        · simp [hactive, hunread]
        · simp [hactive, hunread]
      · simp [hactive]

end MessageRepository

namespace MessageReceiptService

/-- The message is there, and the user is an active participant of its conversation. -/
def Accepts (db : Store) (userId : Id) (message : Message) : Prop :=
  ∃ conversation, ConversationRepository.findResolvedById db message.conversationId =
    some conversation ∧ canAccessConversation userId conversation = true

theorem markMessageRead_accepted {currentUser : AuthenticatedUser} (readAt : Date)
    (hget : db.get (.message, messageId) = some message)
    (haccepts : Accepts db currentUser.userId message) :
    ∃ read db', (markConversationReadUpTo message.conversationId messageId currentUser.userId
        readAt).run db = .ok (read, db') ∧
      ((markMessageRead currentUser messageId readAt).run db).2 = db' := by
  obtain ⟨conversation, hfound, haccess⟩ := haccepts
  obtain ⟨read, db', hrun, -⟩ := markConversationReadUpTo_run currentUser.userId readAt hget
  refine ⟨read, db', hrun, ?_⟩
  have hactive : getActiveConversationParticipant currentUser.userId conversation ≠ none :=
    Option.isSome_iff_ne_none.mp haccess
  simp only [markMessageRead, findMessageReadContextById, hget, Option.map_some, Service.bind_eq,
    Service.run_bind, Service.get, Service.run, Service.orFail, hfound, Service.require,
    if_pos haccess, if_pos hactive, Service.transaction, hrun, Service.ofExcept]

theorem markMessageRead_rejected {currentUser : AuthenticatedUser}
    (h : ∀ message, db.get (.message, messageId) = some message →
      ¬ Accepts db currentUser.userId message) :
    ((markMessageRead currentUser messageId readAt).run db).2 = db := by
  have hends : (markMessageRead currentUser messageId readAt).Ends db fun _ db' => db' = db := by
    refine .get_bind (.orFail_bind (fun context hcontext => ?_) fun _ => rfl)
    obtain ⟨message, hget, rfl⟩ := Option.map_eq_some_iff.mp hcontext
    refine .get_bind (.orFail_bind (fun conversation hfound => ?_) fun _ => rfl)
    refine .require_bind (fun haccess => ?_) fun _ => rfl
    exact absurd ⟨conversation, hfound, haccess⟩ (h message hget)
  exact hends.run

end MessageReceiptService

end Calls

/-! ## New messages -/

section Create

variable {db : Store} {call : CreateCall}

/-- Messages with receipts are not pruned. -/
theorem pruneOldMessages_keeps (conversationId : Id) (keep : ℕ) {id : Id} {message : Message}
    (hreceipts : message.receipts ≠ []) :
    ((pruneOldMessages conversationId keep).run db).2.get (.message, id) = some message ↔
      db.get (.message, id) = some message := by
  have hends : (pruneOldMessages conversationId keep).Ends db fun _ db' =>
      db'.get (.message, id) = some message ↔ db.get (.message, id) = some message := by
    refine .get_bind (.transaction (fun _ db' hrun => ?_) fun _ _ => Iff.rfl)
    simp only [deleteMessages, Tx.attempt, Tx.run] at hrun
    split at hrun
    · cases hrun
    · next heq =>
      split at heq
      · next hnone =>
        cases heq
        cases hrun
        constructor
        · intro hget
          have hcases := Db.get_apply_cases ((staleMessages db conversationId keep).map
            fun id => (⟨.message, id, none⟩ : Write Row)) .message id db
          rcases hcases with hkept | ⟨r, hr, hrow⟩
          · exact hkept.symm.trans hget
          · obtain ⟨_, -, hdelete⟩ := List.mem_map.mp hr
            cases hdelete
            rw [hget] at hrow
            cases hrow
        · intro hget
          refine (Db.get_apply_of_notMem fun hkey => ?_).trans hget
          obtain ⟨w, hw, hid⟩ := List.mem_map.mp hkey
          obtain ⟨id', hstale, rfl⟩ := List.mem_map.mp hw
          obtain rfl : id' = id := congrArg Prod.snd hid
          exact hreceipts (hnone _ hstale _ hget)
      · cases heq
  exact hends.run

namespace CreateCall

def Accepted (call : CreateCall) (db : Store) : Prop :=
  db.get (.message, call.messageId) = none ∧
    (db.get (.conversation, call.conversationId)).isSome

theorem create_ok_iff : (∃ sent db', (create call.messageId call.now call.payload).run db =
    .ok (sent, db')) ↔ call.Accepted db := by
  constructor
  · rintro ⟨sent, db', hrun⟩
    obtain ⟨_, db₁, hinsert, hrun⟩ := Tx.run_bind_ok hrun
    obtain ⟨_, db₂, hupdate, -⟩ := Tx.run_bind_ok hrun
    obtain ⟨hviolation, rfl⟩ := Tx.run_insertRow_ok hinsert
    obtain ⟨conversation, hget, -⟩ := Tx.run_updateExisting_ok hupdate
    rw [Db.get_put_ne _ (by simp [Write.key])] at hget
    refine ⟨?_, Option.isSome_iff_exists.mpr ⟨conversation, hget⟩⟩
    split at hviolation
    · cases hviolation
    · next habsent => exact Option.not_isSome_iff_eq_none.mp habsent
  · rintro ⟨hfresh, hconversation⟩
    obtain ⟨conversation, hget⟩ := Option.isSome_iff_exists.mp hconversation
    set db₁ := db.put ⟨.message, call.messageId, some call.message⟩ with hdb₁
    have hkept : db₁.get (.conversation, call.conversationId) = some conversation :=
      (Db.get_put_ne _ (by simp [Write.key])).trans hget
    refine ⟨⟨call.messageId, call.message⟩, db₁.put ⟨.conversation, call.conversationId,
      some (call.shownIn conversation)⟩, ?_⟩
    have hinsert : (Tx.insertRow (.message, call.messageId) call.message fun db =>
        if (db.get (.message, call.messageId)).isSome then some (.uniqueConstraint "id")
        else none : StoreTx Unit).run db = .ok ((), db₁) := by
      simp [Tx.insertRow, Tx.attempt, Tx.run, hfresh, hdb₁]
    have hshow : (Tx.updateExisting (.conversation, call.conversationId) call.shownIn
        .recordNotFound : StoreTx Unit).run db₁ = .ok ((), db₁.put ⟨.conversation,
          call.conversationId, some (call.shownIn conversation)⟩) := Tx.run_updateExisting hkept
    rw [create, Tx.bind_eq, Tx.run_bind]
    refine (congrArg (Except.bind · _) hinsert).trans ?_
    exact (Tx.run_bind _ _ db₁).trans (congrArg (Except.bind · _) hshow)

theorem run_rejected (h : ¬ call.Accepted db) : (call.service.run db).2 = db := by
  have hends : call.service.Ends db fun _ db' => db' = db :=
    .transaction_bind (fun sent db' hrun => absurd (create_ok_iff.mp ⟨sent, db', hrun⟩) h)
      fun _ _ => rfl
  exact hends.run

theorem run_accepted (h : call.Accepted db) {id : Id} {message : Message}
    (hreceipts : message.receipts ≠ []) :
    (call.service.run db).2.get (.message, id) = some message ↔
      id = call.messageId ∧ message = call.message ∨ db.get (.message, id) = some message := by
  have hends : call.service.Ends db fun _ db' => db'.get (.message, id) = some message ↔
      id = call.messageId ∧ message = call.message ∨ db.get (.message, id) = some message := by
    refine .transaction_bind (fun sent db₁ hrun => .bind ?_) fun e hrun => ?_
    · obtain ⟨conversation, rfl⟩ := create_run_ok hrun
      refine .of_run (Service.run_attempt _ _) (.ret ?_)
      rw [pruneOldMessages_keeps _ _ hreceipts, Db.get_put_ne _ (by simp [Write.key])]
      by_cases hid : id = call.messageId
      · subst hid
        have hnew : (db.put ⟨.message, call.messageId,
            some (newMessage call.payload call.now)⟩).get (.message, call.messageId) =
              some (newMessage call.payload call.now) := Db.get_put_self db _
        rw [hnew]
        simp [h.1, CreateCall.message, eq_comm]
      · rw [Db.get_put_ne _ (by simpa [Write.key] using hid)]
        simp [hid]
    · obtain ⟨sent, db', hok⟩ := create_ok_iff.mpr h
      rw [hok] at hrun
      cases hrun
  exact hends.run

theorem run_participant (id : ℕ) : (call.service.run db).2.get (.conversationParticipant, id) =
    db.get (.conversationParticipant, id) := by
  have hends : call.service.Ends db fun _ db' => db'.get (.conversationParticipant, id) =
      db.get (.conversationParticipant, id) := by
    refine .transaction_bind (fun sent db₁ hrun => .bind ?_) fun e hrun => rfl
    obtain ⟨conversation, rfl⟩ := create_run_ok hrun
    refine .of_run (Service.run_attempt _ _) (.ret ?_)
    have hprune := pruneOldMessages_sameOn call.payload.conversationId 20
      ((db.put ⟨.message, call.messageId, some (newMessage call.payload call.now)⟩).put
        ⟨.conversation, call.payload.conversationId, some conversation⟩)
    rw [← hprune.get (k := (.conversationParticipant, id)) (by simp),
      Db.get_put_ne _ (by simp [Write.key]), Db.get_put_ne _ (by simp [Write.key])]
  exact hends.run

/-- The message is not read yet by those it is for, but for its sender. -/
theorem isUnreadBy_message {userId : Id} : call.message.isUnreadBy userId = true ↔
    userId ∈ call.payload.receiptUserIds ∧ call.payload.senderId ≠ some userId := by
  simp only [Message.isUnreadBy, CreateCall.message, newMessage, List.any_map, List.any_eq_true,
    Function.comp_apply, MessageReceipt.isUnreadBy, newReceipt, Bool.and_eq_true, beq_iff_eq,
    bne_iff_ne]
  constructor
  · rintro ⟨_, hmem, rfl, hstatus⟩
    refine ⟨hmem, fun hsender => hstatus ?_⟩
    rw [if_pos hsender]
  · rintro ⟨hmem, hsender⟩
    refine ⟨userId, hmem, rfl, ?_⟩
    rw [if_neg hsender]
    decide

theorem isReadBy_message (userId : Id) : call.message.isReadBy userId = false := by
  rw [← Bool.not_eq_true]
  simp only [Message.isReadBy, CreateCall.message, newMessage, List.any_map, List.any_eq_true,
    Function.comp_apply, newReceipt, Bool.and_eq_true, beq_iff_eq, bne_iff_ne]
  rintro ⟨hsender, _, _, rfl, hstatus⟩
  rw [if_neg hsender] at hstatus
  cases hstatus

end CreateCall

end Create

/-! ## What a call keeps -/

section Steps

variable {participantId conversationId userId : Id} {db db' : Store} {s : Reading}

theorem receiptsClosed_iff : ReceiptsClosed conversationId userId db ↔
    ∀ id message, db.get (.message, id) = some message →
      message.conversationId = conversationId → message.isReadBy userId = true →
      ∀ id' older, db.get (.message, id') = some older →
        older.conversationId = conversationId → newerThan (id, message) (id', older) = true →
        older.isUnreadBy userId = false := by
  constructor
  · intro h id message hget hhere hread id' older hget' hhere' hnewer
    exact h (id, message) (Db.mem_list.mpr ⟨hget, beq_iff_eq.mpr hhere⟩) hread (id', older)
      (Db.mem_list.mpr ⟨hget', beq_iff_eq.mpr hhere'⟩) hnewer
  · intro h row hrow hread older holder hnewer
    obtain ⟨hget, hhere⟩ := Db.mem_list.mp hrow
    obtain ⟨hget', hhere'⟩ := Db.mem_list.mp holder
    exact h row.1 row.2 hget (eq_of_beq hhere) hread older.1 older.2 hget' (eq_of_beq hhere') hnewer

/-- Reading messages, with all that are older in the conversation. -/
theorem ReceiptsClosed.read {reader : Id} {readAt : Date} {p : Id → Message → Prop}
    [∀ id message, Decidable (p id message)] (h : ReceiptsClosed conversationId userId db)
    (hread : ∀ id, db'.get (.message, id) = (db.get (.message, id)).map fun message =>
      if p id message then message.readBy reader readAt else message)
    (hdown : ∀ id message id' older, message.conversationId = conversationId →
      older.conversationId = conversationId → newerThan (id, message) (id', older) = true →
      p id message → p id' older) : ReceiptsClosed conversationId userId db' := by
  rw [receiptsClosed_iff] at h ⊢
  intro id message' hget hhere hisRead id' older' hget' hhere' hnewer
  rw [hread, Option.map_eq_some_iff] at hget hget'
  obtain ⟨message, hget, rfl⟩ := hget
  obtain ⟨older, hget', rfl⟩ := hget'
  -- reading changes neither a message's conversation nor its place
  have hconversation : ∀ id (message : Message), (if p id message then
      message.readBy reader readAt else message).conversationId = message.conversationId := by
    intro id message
    split <;> rfl
  have hplace : newerThan (id, message) (id', older) = true := by
    have hcreated : ∀ id (message : Message), (if p id message then
        message.readBy reader readAt else message).createdAt = message.createdAt := by
      intro id message
      split <;> rfl
    rw [newerThan_iff] at hnewer ⊢
    simpa only [hcreated] using hnewer
  rw [hconversation] at hhere hhere'
  by_cases hreader : reader = userId
  · subst hreader
    by_cases hp : p id' older
    · rw [if_pos hp]
      exact Message.isUnreadBy_readBy
    · rw [if_neg fun hp' => hp (hdown id message id' older hhere hhere' hplace hp')] at hisRead
      rw [if_neg hp]
      exact h id message hget hhere hisRead id' older hget' hhere' hplace
  · have hsame : message.isReadBy userId = true := by
      split at hisRead
      · rwa [Message.isReadBy_readBy_of_ne (Ne.symm hreader)] at hisRead
      · exact hisRead
    have holder := h id message hget hhere hsame id' older hget' hhere' hplace
    split
    · rwa [Message.isUnreadBy_readBy_of_ne (Ne.symm hreader)]
    · exact holder

/-- The marker is set to a message of the database. -/
theorem forward_iff_notOlder {participant : ConversationParticipant} {messageId : Id}
    (hget : s.db.get (.conversationParticipant, participantId) = some participant)
    (hmarked : lastReadMessageId participantId db' = some messageId)
    (hcreated : (db'.get (.message, messageId)).map (·.createdAt) =
      (s.db.get (.message, messageId)).map (·.createdAt)) :
    (lastReadMessageId participantId db' = lastReadMessageId participantId s.db ∨
      ∀ row ∈ markedMessage participantId db', ∀ old ∈ s.markedSoFar, newerThan row old = true) ↔
      NotOlder s participant messageId := by
  have hbefore : lastReadMessageId participantId s.db = participant.lastReadMessageId := by
    rw [lastReadMessageId, hget, Option.bind_some]
  rw [hmarked, hbefore, NotOlder, markedMessage, hmarked, Option.bind_some, eq_comm,
    or_iff_not_imp_left]
  refine imp_congr_right fun _ => ?_
  rcases hthere : s.db.get (.message, messageId) with _ | message
  · rw [hthere, Option.map_none, Option.map_eq_none_iff] at hcreated
    simp [hcreated]
  · rw [hthere, Option.map_some, Option.map_eq_some_iff] at hcreated
    obtain ⟨message', hthere', hsame⟩ := hcreated
    simp [hthere', newerThan_iff, hsame]

/-- Whom the marker is of may read the conversation's messages. -/
theorem MessageReceiptService.accepts_of_participant {participant : ConversationParticipant}
    {message : Message}
    (hget : db.get (.conversationParticipant, participantId) = some participant)
    (hactive : participant.isActive userId)
    (hconversation : (db.get (.conversation, participant.conversationId)).isSome)
    (hhere : message.conversationId = participant.conversationId) :
    Accepts db userId message := by
  obtain ⟨conversation, hfound⟩ := Option.isSome_iff_exists.mp hconversation
  refine ⟨_, by rw [ConversationRepository.findResolvedById, hhere, hfound, Option.map_some], ?_⟩
  rw [canAccessConversation, getActiveConversationParticipant, List.find?_isSome]
  refine ⟨participant, List.mem_map.mpr ⟨(participantId, participant), ?_, rfl⟩, ?_⟩
  · exact (List.perm_insertionSort _ _).mem_iff.mpr
      (Db.mem_list.mpr ⟨hget, beq_self_eq_true _⟩)
  · simp [hactive.1, hactive.2]

namespace ReceiptCall

theorem markMessageRead_keeps {currentUser : AuthenticatedUser} {messageId : Id} {readAt : Date}
    (h : ReceiptsClosed conversationId userId s.db) :
    (MarkerForward participantId (.markMessageRead currentUser messageId readAt) s ∧
      ReceiptsClosed conversationId userId
        (run (.markMessageRead currentUser messageId readAt) s.db)) ↔
      KeepsOrder participantId conversationId userId s
        (.markMessageRead currentUser messageId readAt) := by
  by_cases haccepts : ∃ message, s.db.get (.message, messageId) = some message ∧
      MessageReceiptService.Accepts s.db currentUser.userId message
  · obtain ⟨message, hget, haccepts⟩ := haccepts
    obtain ⟨read, db', hrun, hafter⟩ := MessageReceiptService.markMessageRead_accepted
      readAt hget haccepts
    obtain ⟨_, _, hrun', hmessages, hmarkers⟩ := markConversationReadUpTo_run
      currentUser.userId readAt hget
    obtain ⟨-, rfl⟩ := Prod.mk.inj (Except.ok.inj (hrun.symm.trans hrun'))
    have hclosed : ReceiptsClosed conversationId userId db' := by
      refine h.read hmessages fun id row id' older hhere hhere' hnewer hp => ?_
      exact ⟨hhere'.trans (hhere.symm.trans hp.1), newerThan_trans hp.2 hnewer⟩
    have hrun : run (.markMessageRead currentUser messageId readAt) s.db = db' := hafter
    rw [MarkerForward, hrun, and_iff_left hclosed]
    rcases hparticipant : s.db.get (.conversationParticipant, participantId) with _ | participant
    · -- there is no marker
      refine iff_of_true (.inl ?_) fun participant hget => ?_
      · rw [lastReadMessageId, lastReadMessageId, hmarkers, hparticipant, Option.map_none]
      · rw [hparticipant] at hget
        cases hget
    by_cases hmoves : participant.conversationId = message.conversationId ∧
        participant.isActive currentUser.userId
    · have hmarked : lastReadMessageId participantId db' = some messageId := by
        rw [lastReadMessageId, hmarkers, hparticipant, Option.map_some, if_pos hmoves]
        rfl
      have hcreated : (db'.get (.message, messageId)).map (·.createdAt) =
          (s.db.get (.message, messageId)).map (·.createdAt) := by
        rw [hmessages, Option.map_map]
        refine Option.map_congr fun other _ => ?_
        rw [Function.comp_apply]
        split <;> rfl
      rw [forward_iff_notOlder hparticipant hmarked hcreated]
      obtain ⟨conversation, hfound, -⟩ := haccepts
      constructor
      · intro hnotOlder participant' hget _ _ _ _
        obtain rfl := Option.some.inj (hparticipant.symm.trans hget)
        exact hnotOlder
      · intro hkeeps
        refine hkeeps participant hparticipant hmoves.2.1 hmoves.2.2 ?_ ?_
        · rw [ConversationRepository.findResolvedById] at hfound
          rw [hmoves.1, ← Option.isSome_map, hfound]
          rfl
        · intro other hother
          obtain rfl := Option.some.inj (hget.symm.trans hother)
          exact hmoves.1.symm
    · refine iff_of_true (.inl ?_) fun participant' hget' huser hleft _ hhere => ?_
      · rw [lastReadMessageId, lastReadMessageId, hmarkers, hparticipant, Option.map_some,
          if_neg hmoves]
      · obtain rfl := Option.some.inj (hparticipant.symm.trans hget')
        exact absurd ⟨(hhere message hget).symm, huser, hleft⟩ hmoves
  · have hsame : run (.markMessageRead currentUser messageId readAt) s.db = s.db :=
      MessageReceiptService.markMessageRead_rejected fun message hget haccepts' =>
        haccepts ⟨message, hget, haccepts'⟩
    rw [hsame]
    refine iff_of_true ⟨.inl (congrArg _ hsame), h⟩ ?_
    intro participant hget huser hleft hconversation hhere _ message hmessage
    exact absurd ⟨message, hmessage, MessageReceiptService.accepts_of_participant hget
      ⟨huser, hleft⟩ hconversation (hhere message hmessage)⟩ haccepts

theorem markAllConversationsRead_keeps {currentUser : AuthenticatedUser} {readAt : Date}
    (h : ReceiptsClosed conversationId userId s.db) :
    (MarkerForward participantId (.markAllConversationsRead currentUser readAt) s ∧
      ReceiptsClosed conversationId userId
        (run (.markAllConversationsRead currentUser readAt) s.db)) ↔
      KeepsOrder participantId conversationId userId s
        (.markAllConversationsRead currentUser readAt) := by
  obtain ⟨ids, db', hmark, hmessages, hmarkers⟩ := markAllConversationsReadForUser_run
    currentUser.userId readAt s.db
  have hrun : run (.markAllConversationsRead currentUser readAt) s.db = db' := by
    simp only [run, MessageReceiptService.markAllConversationsRead, Service.transaction,
      Service.run, hmark, Service.ofExcept]
  have hclosed : ReceiptsClosed conversationId userId db' := by
    refine h.read hmessages fun id row id' older hhere hhere' _ hp => ?_
    rwa [hhere', ← hhere]
  rw [MarkerForward, hrun, and_iff_left hclosed]
  rcases hparticipant : s.db.get (.conversationParticipant, participantId) with _ | participant
  · refine iff_of_true (.inl ?_) fun participant hget => ?_
    · rw [lastReadMessageId, lastReadMessageId, hmarkers, hparticipant, Option.map_none]
    · rw [hparticipant] at hget
      cases hget
  by_cases hmoves : participant.isActive currentUser.userId ∧
      participant.conversationId ∈ unreadConversations s.db currentUser.userId
  · rcases hlast : (s.db.get (.conversation, participant.conversationId)).bind (·.lastMessageId)
      with _ | lastMessageId
    · -- the conversation has no last message
      refine iff_of_true (.inl ?_) fun participant' hget' _ _ _ conversation hconversation id hid =>
        ?_
      · rw [lastReadMessageId, lastReadMessageId, hmarkers, hparticipant, Option.map_some,
          if_pos hmoves, hlast, Option.elim_none]
      · obtain rfl := Option.some.inj (hparticipant.symm.trans hget')
        rw [hconversation, Option.bind_some, hid] at hlast
        cases hlast
    · have hmarked : lastReadMessageId participantId db' = some lastMessageId := by
        rw [lastReadMessageId, hmarkers, hparticipant, Option.map_some, if_pos hmoves, hlast,
          Option.elim_some]
        rfl
      have hcreated : (db'.get (.message, lastMessageId)).map (·.createdAt) =
          (s.db.get (.message, lastMessageId)).map (·.createdAt) := by
        rw [hmessages, Option.map_map]
        refine Option.map_congr fun other _ => ?_
        rw [Function.comp_apply]
        split <;> rfl
      rw [forward_iff_notOlder hparticipant hmarked hcreated]
      obtain ⟨conversation, hfound, hid⟩ := Option.bind_eq_some_iff.mp hlast
      constructor
      · intro hnotOlder participant' hget' _ _ _ conversation' hconversation' id hid'
        obtain rfl := Option.some.inj (hparticipant.symm.trans hget')
        obtain rfl := Option.some.inj (hfound.symm.trans hconversation')
        obtain rfl := Option.some.inj (hid.symm.trans hid')
        exact hnotOlder
      · intro hkeeps
        exact hkeeps participant hparticipant hmoves.1.1 hmoves.1.2 hmoves.2 conversation hfound
          lastMessageId hid
  · refine iff_of_true (.inl ?_) fun participant' hget' huser hleft hunread => ?_
    · rw [lastReadMessageId, lastReadMessageId, hmarkers, hparticipant, Option.map_some,
        if_neg hmoves]
    · obtain rfl := Option.some.inj (hparticipant.symm.trans hget')
      exact absurd ⟨⟨huser, hleft⟩, hunread⟩ hmoves

theorem create_keeps {call : CreateCall} (h : ReceiptsClosed conversationId userId s.db) :
    (MarkerForward participantId (.create call) s ∧
      ReceiptsClosed conversationId userId (run (.create call) s.db)) ↔
      KeepsOrder participantId conversationId userId s (.create call) := by
  have hforward : MarkerForward participantId (.create call) s := by
    refine .inl ?_
    rw [lastReadMessageId, lastReadMessageId, run, CreateCall.run_participant]
  rw [and_iff_right hforward, run]
  by_cases haccepted : call.Accepted s.db
  · have hmessages : ∀ {id : Id} {message : Message}, message.receipts ≠ [] →
        ((call.service.run s.db).2.get (.message, id) = some message ↔
          id = call.messageId ∧ message = call.message ∨
            s.db.get (.message, id) = some message) := CreateCall.run_accepted haccepted
    rw [receiptsClosed_iff] at h ⊢
    constructor
    · intro hclosed hhere hsender hreceipt _ _ row hrow hread
      obtain ⟨hget, hrowHere⟩ := Db.mem_list.mp hrow
      have hunread : call.message.isUnreadBy userId = true :=
        CreateCall.isUnreadBy_message.mpr ⟨hreceipt, hsender⟩
      rcases newerThan_total (call.messageId, call.message) row with hnewer | holder
      · exact hnewer
      · have hrowAfter := (hmessages (Message.receipts_ne_nil (.inl hread))).mpr (.inr hget)
        have hnewAfter := (hmessages (Message.receipts_ne_nil (.inr hunread))).mpr
          (.inl ⟨rfl, rfl⟩)
        rw [hclosed _ _ hrowAfter (eq_of_beq hrowHere) hread _ _ hnewAfter hhere holder] at hunread
        cases hunread
    · intro hkeeps id message hget hhere hread id' older hget' hhere' hnewer
      rw [hmessages (Message.receipts_ne_nil (.inl hread))] at hget
      rcases hget with ⟨rfl, rfl⟩ | hget
      · rw [CreateCall.isReadBy_message] at hread
        cases hread
      rw [← Bool.not_eq_true]
      intro hunread
      rw [hmessages (Message.receipts_ne_nil (.inr hunread))] at hget'
      rcases hget' with ⟨rfl, rfl⟩ | hget'
      · -- the new message is not older than what has been read
        obtain ⟨hreceipt, hsender⟩ := CreateCall.isUnreadBy_message.mp hunread
        have hconversation : (s.db.get (.conversation, conversationId)).isSome :=
          hhere' ▸ haccepted.2
        have hnew := hkeeps hhere' hsender hreceipt haccepted.1 hconversation (id, message)
          (Db.mem_list.mpr ⟨hget, beq_iff_eq.mpr hhere⟩) hread
        have hne : id ≠ call.messageId := by
          rintro rfl
          rw [haccepted.1] at hget
          cases hget
        rw [not_newerThan_of_ne (a := (id, message)) (b := (call.messageId, call.message)) hne
          hnewer] at hnew
        cases hnew
      · rw [h id message hget hhere hread id' older hget' hhere' hnewer] at hunread
        cases hunread
  · rw [CreateCall.run_rejected haccepted]
    refine iff_of_true h fun hhere _ _ hfresh hconversation => ?_
    exact absurd ⟨hfresh, hhere ▸ hconversation⟩ haccepted

theorem keeps_iff (call : ReceiptCall) (h : ReceiptsClosed conversationId userId s.db) :
    (call.MarkerForward participantId s ∧
      ReceiptsClosed conversationId userId (call.run s.db)) ↔
      call.KeepsOrder participantId conversationId userId s := by
  cases call with
  | markMessageRead currentUser messageId readAt => exact markMessageRead_keeps h
  | markAllConversationsRead currentUser readAt => exact markAllConversationsRead_keeps h
  | create call => exact create_keeps h

end ReceiptCall

end Steps

/-! ## Runs of calls -/

/-- **Exactly when a read marker only moves forward.** In every run of calls that read a message,
calls that read everything and new messages: the marker of a participant moves to no message that
is older than one it has been at, and whatever the user has read, it has read all that is older,
just when the user reads no message that is older than one the marker has been at, no conversation
that it reads shows such a message as its last, and no message is created behind one that the user
has read. -/
theorem read_marker_forward_iff (participantId conversationId userId : Id)
    (calls : List ReceiptCall) (db : Store) (hstart : ReceiptsClosed conversationId userId db) :
    (MeetAll (ReceiptCall.step participantId) (ReceiptCall.MarkerForward participantId) calls
          (.start participantId db) ∧
        Always (ReceiptCall.step participantId)
          (fun s => ReceiptsClosed conversationId userId s.db) calls (.start participantId db)) ↔
      MeetAll (ReceiptCall.step participantId)
        (fun call s => call.KeepsOrder participantId conversationId userId s) calls
        (.start participantId db) :=
  meetAll_and_always_iff (P := fun s : Reading => ReceiptsClosed conversationId userId s.db)
    (fun call _ h => call.keeps_iff h) calls hstart

/-! ## Two messages, read in turn -/

/-- A customer in the chat. -/
def readShop : Store := chatShop.apply [⟨.conversationParticipant, 5, some {
  conversationId := 1
  participantKey := .user 20
  userId := some 20
  roleAtJoin := .customer
  canSendMessages := true
  canSendAttachments := true
  canSendProofs := false
  canModerate := false
  lastReadMessageId := none
  lastReadAt := none
  joinedAt := 0
  leftAt := none }⟩]

def chatCustomer : AuthenticatedUser where
  userId := 20
  role := .customer
  merchantId := none
  customerProfileId := some 1
  riderId := none

/-- Two messages of the shop to the customer. -/
def twoEvents : List ReceiptCall := [
  .create ⟨11, 1, ⟨1, .system, none, .systemEvent, some .orderPlaced, "Placed.", none, [], [20]⟩⟩,
  .create ⟨12, 2, ⟨1, .system, none, .systemEvent, some .riderAssigned, "Assigned.", none, [],
    [20]⟩⟩]

theorem receiptsClosed_readShop : ReceiptsClosed 1 20 readShop := by
  have hnone : readShop.list .message (·.conversationId == 1) = [] := by decide
  rw [ReceiptsClosed, hnone]
  exact fun _ h => absurd h List.not_mem_nil

/-- The customer reads the newer message and then, on another phone, the older one. Now the marker
is at the older one. -/
theorem marker_moves_back : ReceiptsClosed 1 20 readShop ∧
    ¬ MeetAll (ReceiptCall.step 5) (ReceiptCall.MarkerForward 5)
      (twoEvents ++ [.markMessageRead chatCustomer 12 3, .markMessageRead chatCustomer 11 4])
      (.start 5 readShop) := by
  refine ⟨receiptsClosed_readShop, fun h => ?_⟩
  rw [meetAll_append] at h
  obtain ⟨-, -, hback, -⟩ := h
  rcases hback with hsame | hforward
  · exact absurd hsame (by decide +kernel)
  · exact absurd hforward (by decide +kernel)

theorem read_marker_forward_readShop :
    MeetAll (ReceiptCall.step 5) (ReceiptCall.MarkerForward 5)
        (twoEvents ++ [.markMessageRead chatCustomer 11 3, .markMessageRead chatCustomer 12 4])
        (.start 5 readShop) ∧
      Always (ReceiptCall.step 5) (fun s => ReceiptsClosed 1 20 s.db)
        (twoEvents ++ [.markMessageRead chatCustomer 11 3, .markMessageRead chatCustomer 12 4])
        (.start 5 readShop) := by
  refine (read_marker_forward_iff 5 1 20 _ _ receiptsClosed_readShop).mpr ?_
  refine ⟨?_, ?_, ?_, ?_, True.intro⟩
  · simp only [ReceiptCall.KeepsOrder]
    decide +kernel
  · simp only [ReceiptCall.KeepsOrder]
    decide +kernel
  · simp only [ReceiptCall.KeepsOrder, NotOlder]
    decide +kernel
  · simp only [ReceiptCall.KeepsOrder, NotOlder]
    decide +kernel

end WerTe
