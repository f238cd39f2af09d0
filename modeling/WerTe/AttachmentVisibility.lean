import WerTe.Messages

/-!
# Who sees a message's attachments

`message-delivery.service.ts` tells everyone in a conversation's room of each new message. Here a
participant watches a run of sends and of pages of one conversation; what it is told must not
depend on the attachments that its role may not view.

The pages leave such attachments out (`listOutcome_congr`), but the event has the message as it is
stored. So a run is right just when every message that is sent has nothing to hide from the
participant (`unchanged_iff`).

* `MessagingCall.received`: what a call tells a user
* `MessageAttachment.redact`: an attachment as far as a role may view it
* `Alike`: calls that differ in what the role may not view
-/

namespace WerTe

open ReadCommitted MessageRepository MessageService MessageReadService

/-! ## What a call tells a user -/

inductive MessagingCall
  | send (messageId : Id) (now : Date) (currentUser : AuthenticatedUser) (dto : SendMessageDto)
  | list (currentUser : AuthenticatedUser) (conversationId : Id) (cursor : Option Id)
      (limit : Option ℕ)
  /-- what follows a message's creation, at some later time -/
  | prune (conversationId : Id)

inductive Received
  | messageCreated (message : SentMessage)
  | conversationUpdated (conversationId : Id)
  | sendResponse (outcome : Except Failure SentMessage)
  | pageResponse (outcome : Except Failure ConversationMessageList)

/-- The room of a conversation, which its active participants have joined. -/
def inRoom (db : Store) (conversationId viewer : Id) : Bool :=
  (ConversationRepository.findResolvedById db conversationId).any (canAccessConversation viewer)

namespace MessagingCall

def run : MessagingCall → Store → Store
  | .send messageId now currentUser dto, db =>
    ((MessageService.send messageId now currentUser dto).run db).2
  | .list currentUser conversationId cursor limit, db =>
    ((listCurrentUserConversationMessages currentUser conversationId cursor limit).run db).2
  | .prune conversationId, db => ((pruneOldMessages conversationId 20).run db).2

/-- `emitMessageCreated` and `emitConversationUpdated`, as a user gets them. -/
def emitted (db : Store) (viewer : Id) (message : SentMessage) : List Received :=
  if inRoom db message.message.conversationId viewer then
    [.messageCreated message, .conversationUpdated message.message.conversationId]
  else []

def received (viewer : Id) : MessagingCall → Store → List Received
  | .send messageId now currentUser dto, db =>
    let outcome := ((MessageService.send messageId now currentUser dto).run db).1
    (match outcome with
      | .ok message => emitted db viewer message
      | .error _ => []) ++
      if currentUser.userId = viewer then [.sendResponse outcome] else []
  | .list currentUser conversationId cursor limit, db =>
    if currentUser.userId = viewer then
      [.pageResponse
        ((listCurrentUserConversationMessages currentUser conversationId cursor limit).run db).1]
    else []
  | .prune _, _ => []

/-- What each call of a run tells a user. -/
def receivedAll (viewer : Id) : List MessagingCall → Store → List (List Received)
  | [], _ => []
  | call :: calls, db => call.received viewer db :: receivedAll viewer calls (call.run db)

end MessagingCall

/-! ## What a role may view -/

section

variable (role : ConversationParticipantRole)

def MessageAttachment.redact (attachment : MessageAttachment) : MessageAttachment :=
  if canParticipantViewAttachment role attachment.visibility then attachment
  else { attachment with
    storageKey := "", fileName := none, mimeType := none, fileSizeBytes := none, width := none
    height := none }

/-- The role may view what the attachment will be. -/
def SendMessageAttachmentDto.Visible (attachment : SendMessageAttachmentDto) : Prop :=
  canParticipantViewAttachment role
    (resolveAttachmentVisibility (attachmentTypeMap attachment.type)) = true

instance (attachment : SendMessageAttachmentDto) : Decidable (attachment.Visible role) :=
  inferInstanceAs (Decidable (_ = true))

def SendMessageAttachmentDto.redact (attachment : SendMessageAttachmentDto) :
    SendMessageAttachmentDto :=
  if attachment.Visible role then attachment else { type := attachment.type, storageKey := "" }

def Message.redact (message : Message) : Message :=
  { message with attachments := message.attachments.map (·.redact role) }

/-- The messages of one conversation, as far as the role may view them. -/
def conversationView (conversationId : Id) : (t : Tbl) → Row t → Row t
  | .message, message =>
    if message.conversationId = conversationId then message.redact role else message
  | _, row => row

/-- Two messages to the conversation that differ in what the role may not view. -/
structure SendMessageDto.Alike (conversationId : Id) (dto dto' : SendMessageDto) : Prop where
  here : dto.conversationId = conversationId
  conversationId : dto'.conversationId = dto.conversationId
  type : dto'.type = dto.type
  body : dto'.body = dto.body
  attachments : dto'.attachments.map (·.redact role) = dto.attachments.map (·.redact role)

/-- Two calls that differ in what the role may not view. -/
inductive MessagingCall.Alike (conversationId : Id) : MessagingCall → MessagingCall → Prop
  | same (call : MessagingCall) : Alike conversationId call call
  | send (messageId : Id) (now : Date) (currentUser : AuthenticatedUser)
      {dto dto' : SendMessageDto} (h : dto.Alike role conversationId dto') :
    Alike conversationId (.send messageId now currentUser dto)
      (.send messageId now currentUser dto')

/-- What a run tells the viewer does not depend on what the role may not view. -/
def Unchanged (viewer conversationId : Id) (calls : List MessagingCall) (db : Store) : Prop :=
  ∀ calls' db', List.Forall₂ (MessagingCall.Alike role conversationId) calls calls' →
    Db.SameView (conversationView role conversationId) db db' →
    MessagingCall.receivedAll viewer calls db = MessagingCall.receivedAll viewer calls' db'

/-- If the call sends a message to the conversation, the role may view all of it. -/
def MessagingCall.AllVisible (conversationId : Id) (db : Store) : MessagingCall → Prop
  | .send messageId now currentUser dto => dto.conversationId = conversationId →
    (∃ message, ((MessageService.send messageId now currentUser dto).run db).1 = .ok message) →
      ∀ attachment ∈ dto.attachments, attachment.Visible role
  | .list .. | .prune _ => True

/-- The user is an active participant of the conversation, in the role. -/
def Participates (viewer conversationId : Id) (db : Store) : Prop :=
  ∃ conversation participant,
    ConversationRepository.findResolvedById db conversationId = some conversation ∧
    getActiveConversationParticipant viewer conversation = some participant ∧
    participant.roleAtJoin = role

end

/-! ## Reading through a role's eyes -/

section

variable {role : ConversationParticipantRole} {conversationId : Id} {db db' : Store}

theorem redact_visibility (attachment : MessageAttachment) :
    (attachment.redact role).visibility = attachment.visibility := by
  unfold MessageAttachment.redact
  split <;> rfl

/-- What is left out of a page is all that the redaction blanks. -/
theorem filter_redact (attachments : List MessageAttachment) :
    (attachments.map (·.redact role)).filter
        (fun attachment => canParticipantViewAttachment role attachment.visibility) =
      attachments.filter fun attachment =>
        canParticipantViewAttachment role attachment.visibility := by
  induction attachments with
  | nil => rfl
  | cons attachment attachments ih =>
    rw [List.map_cons, List.filter_cons, List.filter_cons, redact_visibility, ih]
    by_cases hvisible : canParticipantViewAttachment role attachment.visibility
    · simp [hvisible, MessageAttachment.redact]
    · simp [hvisible]

/-- A row of the message table, seen in the role. -/
def viewRow (role : ConversationParticipantRole) (conversationId : Id) (row : Id × Message) :
    Id × Message := (row.1, conversationView role conversationId .message row.2)

theorem viewRow_conversationId (row : Id × Message) :
    (viewRow role conversationId row).2.conversationId = row.2.conversationId := by
  simp only [viewRow, conversationView]
  split <;> rfl

theorem viewRow_createdAt (row : Id × Message) :
    (viewRow role conversationId row).2.createdAt = row.2.createdAt := by
  simp only [viewRow, conversationView]
  split <;> rfl

theorem newerThan_viewRow (left right : Id × Message) :
    newerThan (viewRow role conversationId left) (viewRow role conversationId right) =
      newerThan left right := by
  simp only [newerThan, viewRow_createdAt]
  rfl

variable (h : Db.SameView (conversationView role conversationId) db db')

include h

theorem findResolvedById_congr (id : Id) :
    ConversationRepository.findResolvedById db id =
      ConversationRepository.findResolvedById db' id := by
  have hconversation : db.get (.conversation, id) = db'.get (.conversation, id) :=
    h.get_eq fun _ => rfl
  have hparticipants : ConversationRepository.listParticipants db id =
      ConversationRepository.listParticipants db' id := by
    rw [ConversationRepository.listParticipants, ConversationRepository.listParticipants,
      h.list_eq (t := .conversationParticipant) fun _ => rfl]
  rw [ConversationRepository.findResolvedById, ConversationRepository.findResolvedById,
    hconversation]
  congr 1
  funext conversation
  rw [ConversationRepository.buildResolvedConversation,
    ConversationRepository.buildResolvedConversation, hparticipants]

theorem findSender_congr : findSender db = findSender db' := by
  funext senderId
  have huser : db.get (.user, senderId) = db'.get (.user, senderId) := h.get_eq fun _ => rfl
  rw [findSender, findSender, huser, h.list_eq (t := .customerProfile) fun _ => rfl,
    h.list_eq (t := .rider) fun _ => rfl, h.list_eq (t := .merchant) fun _ => rfl]

theorem messagesOf_congr (id : Id) :
    (messagesOf db id).map (viewRow role conversationId) =
      (messagesOf db' id).map (viewRow role conversationId) := by
  have hlist : (db.list .message (·.conversationId == id)).map (viewRow role conversationId) =
      (db'.list .message (·.conversationId == id)).map (viewRow role conversationId) :=
    h.list (t := .message) (p := (·.conversationId == id)) fun message =>
      congrArg (· == id) (viewRow_conversationId (0, message))
  have hsort : ∀ db : Store, (messagesOf db id).map (viewRow role conversationId) =
      ((db.list .message (·.conversationId == id)).map
        (viewRow role conversationId)).insertionSort fun left right => newerThan left right := by
    intro db
    refine List.map_insertionSort _ _ _ _ fun left _ right _ => ?_
    rw [newerThan_viewRow]
  rw [hsort, hsort, hlist]

/-- The rows of a page look the same. -/
theorem afterCursor_congr (id : Id) (cursor : Option Id) :
    (afterCursor db (messagesOf db id) cursor).map (viewRow role conversationId) =
      (afterCursor db' (messagesOf db' id) cursor).map (viewRow role conversationId) := by
  cases cursor with
  | none => exact messagesOf_congr h id
  | some cursorId =>
    have hcursor := h.get (.message, cursorId)
    simp only [afterCursor]
    rcases hget : db.get (.message, cursorId) with _ | message
    · rw [hget, Option.map_none, eq_comm, Option.map_eq_none_iff] at hcursor
      rw [hcursor]
    · rw [hget, Option.map_some, eq_comm, Option.map_eq_some_iff] at hcursor
      obtain ⟨message', hget', hview⟩ := hcursor
      rw [hget']
      -- the cursor's place in the order is the same too
      have hplace : viewRow role conversationId (cursorId, message') =
          viewRow role conversationId (cursorId, message) := Prod.ext rfl hview
      have hfilter : ∀ (start : Message) (rows : List (Id × Message)),
          (rows.filter (newerThan (cursorId, start))).map (viewRow role conversationId) =
            (rows.map (viewRow role conversationId)).filter
              (newerThan (viewRow role conversationId (cursorId, start))) := by
        intro start rows
        rw [List.filter_map]
        congr 1
        refine List.filter_congr fun row _ => ?_
        exact (newerThan_viewRow _ _).symm
      rw [List.map_drop, List.map_drop, hfilter, hfilter, hplace, messagesOf_congr h id]

omit h in
theorem mem_afterCursor {id : Id} {cursor : Option Id} {row : Id × Message}
    (hrow : row ∈ afterCursor db (messagesOf db id) cursor) : row.2.conversationId = id := by
  have hsublist : row ∈ messagesOf db id := by
    cases cursor with
    | none => exact hrow
    | some cursorId =>
      simp only [afterCursor] at hrow
      split at hrow
      · cases hrow
      · exact List.mem_of_mem_filter (List.mem_of_mem_drop hrow)
  obtain ⟨messageId, message⟩ := row
  have hlist : (messageId, message) ∈ db.list .message (·.conversationId == id) :=
    (List.perm_insertionSort _ _).mem_iff.mp hsublist
  exact eq_of_beq (Db.mem_list.mp hlist).2

/-- A message of a page, read in a role that has the conversation's messages redacted. -/
theorem buildConversationMessage_viewRow {viewerRole : ConversationParticipantRole}
    {row : Id × Message} (hrole : row.2.conversationId = conversationId → viewerRole = role)
    (currentUserId : Id) :
    buildConversationMessage currentUserId viewerRole (messageRecord db row) =
      buildConversationMessage currentUserId viewerRole
        (messageRecord db' (viewRow role conversationId row)) := by
  have hrecord : messageRecord db' (viewRow role conversationId row) =
      messageRecord db (viewRow role conversationId row) := by
    rw [messageRecord, messageRecord, findSender_congr h]
  rw [hrecord]
  by_cases hhere : row.2.conversationId = conversationId
  · have hview : viewRow role conversationId row = (row.1, row.2.redact role) := by
      simp only [viewRow, conversationView, if_pos hhere]
    rw [hrole hhere, hview]
    simp only [buildConversationMessage, messageRecord, Message.redact, filter_redact]
    rfl
  · have hview : viewRow role conversationId row = row := by
      simp only [viewRow, conversationView, if_neg hhere]
    rw [hview]

theorem listConversationMessages_congr {viewerRole : ConversationParticipantRole} {id : Id}
    (hrole : id = conversationId → viewerRole = role) (currentUserId : Id) (cursor : Option Id)
    (limit : Option ℕ) :
    let page := listConversationMessages db id cursor limit
    let page' := listConversationMessages db' id cursor limit
    page.records.map (buildConversationMessage currentUserId viewerRole) =
        page'.records.map (buildConversationMessage currentUserId viewerRole) ∧
      page.nextCursor = page'.nextCursor ∧ page.hasMore = page'.hasMore := by
  set build := buildConversationMessage currentUserId viewerRole with hbuild
  set rows := (afterCursor db (messagesOf db id) cursor).take (pageLimit limit + 1) with hrows
  set rows' := (afterCursor db' (messagesOf db' id) cursor).take (pageLimit limit + 1) with hrows'
  have hview :
      rows.map (viewRow role conversationId) = rows'.map (viewRow role conversationId) := by
    rw [hrows, hrows', List.map_take, List.map_take, afterCursor_congr h id cursor]
  -- what is built of a row is built of what the role sees of it
  have hsame : rows.map (fun row => build (messageRecord db row)) =
      rows'.map fun row => build (messageRecord db' row) := by
    calc rows.map (fun row => build (messageRecord db row))
        = (rows.map (viewRow role conversationId)).map
            fun row => build (messageRecord db' row) := by
          rw [List.map_map]
          refine List.map_congr_left fun row hrow => ?_
          refine buildConversationMessage_viewRow h (fun hhere => hrole ?_) _
          rw [← mem_afterCursor (List.mem_of_mem_take hrow), hhere]
      _ = rows'.map fun row => build (messageRecord db' row) := by
          rw [hview, List.map_map]
          refine List.map_congr_left fun row hrow => Eq.symm ?_
          refine buildConversationMessage_viewRow (Db.SameView.refl _ _) (fun hhere => hrole ?_) _
          rw [← mem_afterCursor (List.mem_of_mem_take hrow), hhere]
  have hids : rows.map Prod.fst = rows'.map Prod.fst := by
    have hfst := congrArg (List.map Prod.fst) hview
    rw [List.map_map, List.map_map] at hfst
    exact hfst
  have hlength : rows.length = rows'.length := by
    have := congrArg List.length hids
    rwa [List.length_map, List.length_map] at this
  have hhead : ∀ (db : Store) (rows : List (Id × Message)) (n : ℕ),
      ((((rows.map (messageRecord db)).take n).reverse).head?).map (·.id) =
        (((rows.map Prod.fst).take n).reverse).head? := by
    intro db rows n
    rw [← List.head?_map, List.map_reverse, List.map_take, List.map_map]
    rfl
  refine ⟨?_, ?_, ?_⟩
  · simp only [listConversationMessages, ← hrows, ← hrows', List.map_reverse, List.map_take,
      List.map_map]
    exact congrArg (fun l => (l.take (pageLimit limit)).reverse) hsame
  · simp only [listConversationMessages, ← hrows, ← hrows', List.length_map, hlength, hhead, hids]
  · simp only [listConversationMessages, ← hrows, ← hrows', List.length_map, hlength]

end

/-! ## Pages -/

section

variable {role : ConversationParticipantRole} {conversationId : Id} {db db' : Store}

theorem listCurrentUserConversationMessages_readOnly (currentUser : AuthenticatedUser) (id : Id)
    (cursor : Option Id) (limit : Option ℕ) :
    (listCurrentUserConversationMessages currentUser id cursor limit).ReadOnly :=
  .bind (.get _) fun _ => .bind (.orFail _ _) fun _ => .bind (.require _ _) fun _ =>
    .bind (.orFail _ _) fun _ => .get _

/-- A participant in the role reads the same page. -/
theorem listOutcome_congr (h : Db.SameView (conversationView role conversationId) db db')
    {currentUser : AuthenticatedUser}
    (hrole : Participates role currentUser.userId conversationId db) (id : Id) (cursor : Option Id)
    (limit : Option ℕ) :
    ((listCurrentUserConversationMessages currentUser id cursor limit).run db).1 =
      ((listCurrentUserConversationMessages currentUser id cursor limit).run db').1 := by
  obtain ⟨conversation, participant, hfound, hactive, rfl⟩ := hrole
  simp only [listCurrentUserConversationMessages, Service.bind_eq, Service.run_bind, Service.get,
    Service.run, ← findResolvedById_congr h id]
  rcases hid : ConversationRepository.findResolvedById db id with _ | conversation'
  · rfl
  simp only [Service.orFail, Service.run, Service.require]
  by_cases haccess : canAccessConversation currentUser.userId conversation'
  · rcases hactive' : getActiveConversationParticipant currentUser.userId conversation' with
      _ | participant'
    · simp [haccess, Service.run]
    · have hhere : id = conversationId → participant'.roleAtJoin = participant.roleAtJoin := by
        rintro rfl
        obtain rfl : conversation' = conversation := Option.some.inj (hid.symm.trans hfound)
        rw [Option.some.inj (hactive'.symm.trans hactive)]
      obtain ⟨hrecords, hcursor, hmore⟩ :=
        listConversationMessages_congr h hhere currentUser.userId cursor limit
      simp only [if_pos haccess, Service.run, hrecords, hcursor, hmore]
  · simp [haccess, Service.run]

/-! ## Sending -/

theorem assertValidPayload_readOnly (messageType : Option MessageType) (body : Option String)
    (attachmentTypes : List MessageAttachmentType) :
    (assertValidPayload messageType body attachmentTypes).ReadOnly := by
  unfold assertValidPayload
  split
  · exact .bind (.require _ _) fun _ => .require _ _
  · exact .bind (.require _ _) fun _ => .require _ _

theorem assertCanSend_readOnly (currentUser : AuthenticatedUser) (id : Id)
    (messageType : Option MessageType) (body : Option String)
    (attachmentTypes : List MessageAttachmentType) :
    (assertCanSend currentUser id messageType body attachmentTypes).ReadOnly :=
  .bind (.get _) fun _ => .bind (.orFail _ _) fun _ => .bind (.require _ _) fun _ =>
    .bind (.require _ _) fun _ => .bind (assertValidPayload_readOnly _ _ _) fun _ =>
      .bind (.require _ _) fun _ => .ret _

theorem assertValidPayload_respects (E : Store → Store → Prop) (messageType : Option MessageType)
    (body : Option String) (attachmentTypes : List MessageAttachmentType) :
    (assertValidPayload messageType body attachmentTypes).Respects E := by
  unfold assertValidPayload
  split
  · exact .bind (.require _ _) fun _ => .require _ _
  · exact .bind (.require _ _) fun _ => .require _ _

theorem assertCanSend_respects (currentUser : AuthenticatedUser) (id : Id)
    (messageType : Option MessageType) (body : Option String)
    (attachmentTypes : List MessageAttachmentType) :
    (assertCanSend currentUser id messageType body attachmentTypes).Respects
      (Db.SameView (conversationView role conversationId)) :=
  .bind (.get fun _ _ h => findResolvedById_congr h id) fun _ =>
    .bind (.orFail _ _) fun _ => .bind (.require _ _) fun _ => .bind (.require _ _) fun _ =>
      .bind (assertValidPayload_respects _ _ _ _) fun _ => .bind (.require _ _) fun _ => .ret _

/-- What `send` creates. -/
def createInput (now : Date) (currentUser : AuthenticatedUser) (dto : SendMessageDto)
    (conversation : ResolvedConversation) : CreateMessageInput where
  conversationId := conversation.conversationId
  senderKind := .user
  senderId := some currentUser.userId
  type := (resolveMessageType dto.type).getD .text
  systemEventCode := none
  body := trimmedBody dto.body
  metadataJson := none
  attachments := dto.attachments.map (mapAttachment now)
  receiptUserIds := receiptUserIds conversation

/-- Messages that look the same, stored in databases that do. -/
theorem create_alike (h : Db.SameView (conversationView role conversationId) db db')
    (messageId : Id) (now : Date) {payload payload' : CreateMessageInput}
    (hconversation : payload'.conversationId = payload.conversationId)
    (hview : conversationView role conversationId .message (newMessage payload now) =
      conversationView role conversationId .message (newMessage payload' now)) :
    (∃ e, (create messageId now payload).run db = .error e ∧
      (create messageId now payload').run db' = .error e) ∨
    ∃ after after',
      (create messageId now payload).run db =
        .ok (⟨messageId, newMessage payload now⟩, after) ∧
      (create messageId now payload').run db' =
        .ok (⟨messageId, newMessage payload' now⟩, after') ∧
      Db.SameView (conversationView role conversationId) after after' := by
  have hfresh : (db.get (.message, messageId)).isSome = (db'.get (.message, messageId)).isSome := by
    have hget := congrArg Option.isSome (h.get (.message, messageId))
    rwa [Option.isSome_map, Option.isSome_map] at hget
  have hmessage : Db.SameView (conversationView role conversationId)
      (db.put ⟨.message, messageId, some (newMessage payload now)⟩)
      (db'.put ⟨.message, messageId, some (newMessage payload' now)⟩) := h.put (by simp [hview])
  have hsame : (db.put ⟨.message, messageId, some (newMessage payload now)⟩).get
      (.conversation, payload.conversationId) =
      (db'.put ⟨.message, messageId, some (newMessage payload' now)⟩).get
        (.conversation, payload'.conversationId) := by
    rw [hconversation]
    exact hmessage.get_eq fun _ => rfl
  by_cases htaken : (db.get (.message, messageId)).isSome
  · refine .inl ⟨.uniqueConstraint "id", ?_, ?_⟩
    · simp [create, Tx.insertRow, Tx.attempt, Tx.run_bind, Tx.run, htaken, Except.bind]
    · simp [create, Tx.insertRow, Tx.attempt, Tx.run_bind, Tx.run, ← hfresh, htaken, Except.bind]
  · have htaken' : ¬ (db'.get (.message, messageId)).isSome := hfresh ▸ htaken
    rcases hconv : (db.put ⟨.message, messageId, some (newMessage payload now)⟩).get
      (.conversation, payload.conversationId) with _ | conversation
    · rw [hconv, eq_comm] at hsame
      refine .inl ⟨.recordNotFound, ?_, ?_⟩
      · simp [create, Tx.insertRow, Tx.attempt, Tx.run_bind, Tx.run, htaken, Except.bind,
          Tx.updateExisting, Tx.updateRow, hconv, Tx.require]
      · simp [create, Tx.insertRow, Tx.attempt, Tx.run_bind, Tx.run, htaken', Except.bind,
          Tx.updateExisting, Tx.updateRow, hsame, Tx.require]
    · rw [hconv, eq_comm] at hsame
      let last : Conversation := { (conversation : Conversation) with
        lastMessageId := some messageId, lastMessageAt := some now, updatedAt := now }
      refine .inr ⟨_, _, ?_, ?_, hmessage.put (t := .conversation) (i := payload.conversationId)
        (r := some last) rfl⟩
      · simp [create, Tx.insertRow, Tx.attempt, Tx.run_bind, Tx.run, htaken, Except.bind,
          Tx.run_updateExisting hconv]
        rfl
      · simp [create, Tx.insertRow, Tx.attempt, Tx.run_bind, Tx.run, htaken', Except.bind,
          Tx.run_updateExisting hsame, hconversation]
        rfl

theorem assertCanSend_run_ok {currentUser : AuthenticatedUser} {id : Id}
    {messageType : Option MessageType} {body : Option String}
    {attachmentTypes : List MessageAttachmentType} {conversation : ResolvedConversation}
    (h : (assertCanSend currentUser id messageType body attachmentTypes).run db =
      (.ok conversation, db')) :
    ConversationRepository.findResolvedById db id = some conversation := by
  obtain ⟨found, h₁, h⟩ := (Service.ReadOnly.get _).run_bind_ok h
  obtain ⟨conversation', h₂, h⟩ := (Service.ReadOnly.orFail _ _).run_bind_ok h
  obtain ⟨_, -, h⟩ := (Service.ReadOnly.require _ _).run_bind_ok h
  obtain ⟨_, -, h⟩ := (Service.ReadOnly.require _ _).run_bind_ok h
  obtain ⟨_, -, h⟩ := (assertValidPayload_readOnly _ _ _).run_bind_ok h
  obtain ⟨_, -, h⟩ := (Service.ReadOnly.require _ _).run_bind_ok h
  rw [(Service.run_get_ok.mp h₁).1, (Service.run_orFail_ok.mp h₂).1, (Service.run_ret_ok.mp h).1]

theorem redact_type (attachment : SendMessageAttachmentDto) :
    (attachment.redact role).type = attachment.type := by
  unfold SendMessageAttachmentDto.redact
  split <;> rfl

theorem mapAttachment_redact (now : Date) (attachment : SendMessageAttachmentDto) :
    (mapAttachment now attachment).redact role = mapAttachment now (attachment.redact role) := by
  unfold MessageAttachment.redact SendMessageAttachmentDto.redact
  have hsame : canParticipantViewAttachment role (mapAttachment now attachment).visibility = true ↔
      attachment.Visible role := Iff.rfl
  by_cases hvisible : attachment.Visible role
  · rw [if_pos hvisible, if_pos (hsame.mpr hvisible)]
  · rw [if_neg hvisible, if_neg (mt hsame.mp hvisible)]
    rfl

namespace SendMessageDto.Alike

variable {dto dto' : SendMessageDto} (halike : dto.Alike role conversationId dto')

include halike

theorem types : (dto'.attachments.map fun attachment => attachmentTypeMap attachment.type) =
    dto.attachments.map fun attachment => attachmentTypeMap attachment.type := by
  have hmap := congrArg (List.map fun attachment => attachmentTypeMap attachment.type)
    halike.attachments
  simpa only [List.map_map, Function.comp_def, redact_type] using hmap

theorem view (now : Date) (currentUser : AuthenticatedUser) {conversation : ResolvedConversation}
    (hhere : conversation.conversationId = conversationId) :
    conversationView role conversationId .message
        (newMessage (createInput now currentUser dto conversation) now) =
      conversationView role conversationId .message
        (newMessage (createInput now currentUser dto' conversation) now) := by
  have hattachments : (dto.attachments.map (mapAttachment now)).map (·.redact role) =
      (dto'.attachments.map (mapAttachment now)).map (·.redact role) := by
    have hmap := congrArg (List.map (mapAttachment now)) halike.attachments
    simpa only [List.map_map, Function.comp_def, mapAttachment_redact] using hmap.symm
  simp only [conversationView, newMessage, createInput, hhere, if_true, Message.redact,
    hattachments, halike.type, halike.body]

end SendMessageDto.Alike

theorem conversationId_of_findResolvedById {id : Id} {conversation : ResolvedConversation}
    (h : ConversationRepository.findResolvedById db id = some conversation) :
    conversation.conversationId = id := by
  obtain ⟨row, -, rfl⟩ := Option.map_eq_some_iff.mp h
  rfl

/-- Two sends that look the same: both fail alike, or both store what looks the same. -/
theorem send_alike (h : Db.SameView (conversationView role conversationId) db db')
    (messageId : Id) (now : Date) (currentUser : AuthenticatedUser) {dto dto' : SendMessageDto}
    (halike : dto' = dto ∨ dto.Alike role conversationId dto') :
    (∃ e, (send messageId now currentUser dto).run db = (.error e, db) ∧
      (send messageId now currentUser dto').run db' = (.error e, db')) ∨
    ∃ conversation after after', conversation.conversationId = dto.conversationId ∧
      (send messageId now currentUser dto).run db = (.ok ⟨messageId,
        newMessage (createInput now currentUser dto conversation) now⟩, after) ∧
      (send messageId now currentUser dto').run db' = (.ok ⟨messageId,
        newMessage (createInput now currentUser dto' conversation) now⟩, after') ∧
      Db.SameView (conversationView role conversationId) after after' := by
  set check := assertCanSend currentUser dto.conversationId (resolveMessageType dto.type) dto.body
    (dto.attachments.map fun attachment => attachmentTypeMap attachment.type) with hcheck
  have hsend : send messageId now currentUser dto = check.bind fun conversation =>
      .transaction (create messageId now (createInput now currentUser dto conversation)) := rfl
  have hsend' : send messageId now currentUser dto' = check.bind fun conversation =>
      .transaction (create messageId now (createInput now currentUser dto' conversation)) := by
    rcases halike with rfl | halike
    · rfl
    · rw [hcheck, ← halike.types, ← halike.type, ← halike.body, ← halike.conversationId]
      rfl
  have hsame : (check.run db).1 = (check.run db').1 :=
    ((assertCanSend_respects currentUser _ _ _ _).run h).1
  have hdb : (check.run db).2 = db := (assertCanSend_readOnly currentUser _ _ _ _).run db
  have hdb' : (check.run db').2 = db' := (assertCanSend_readOnly currentUser _ _ _ _).run db'
  rcases hrun : check.run db with ⟨e | conversation, after⟩
  · rw [hrun] at hsame hdb
    have hrun' : check.run db' = (.error e, db') := Prod.ext hsame.symm hdb'
    refine .inl ⟨e, ?_, ?_⟩
    · rw [hsend, Service.run_bind, hrun, ← hdb]
    · rw [hsend', Service.run_bind, hrun']
  · rw [hrun] at hsame hdb
    obtain rfl : after = db := hdb
    have hrun' : check.run db' = (.ok conversation, db') := Prod.ext hsame.symm hdb'
    have hid := conversationId_of_findResolvedById (assertCanSend_run_ok hrun)
    have hview : conversationView role conversationId .message
          (newMessage (createInput now currentUser dto conversation) now) =
        conversationView role conversationId .message
          (newMessage (createInput now currentUser dto' conversation) now) := by
      rcases halike with rfl | halike
      · rfl
      · exact halike.view now currentUser (hid.trans halike.here)
    have hconversation : (createInput now currentUser dto' conversation).conversationId =
        (createInput now currentUser dto conversation).conversationId := rfl
    rcases create_alike h messageId now hconversation hview with
      ⟨e, hcreate, hcreate'⟩ | ⟨after, after', hcreate, hcreate', hafter⟩
    · refine .inl ⟨e, ?_, ?_⟩
      · rw [hsend, Service.run_bind, hrun]
        simp [Service.transaction, Service.run, hcreate, Service.ofExcept]
      · rw [hsend', Service.run_bind, hrun']
        simp [Service.transaction, Service.run, hcreate', Service.ofExcept]
    · refine .inr ⟨conversation, after, after', hid, ?_, ?_, hafter⟩
      · rw [hsend, Service.run_bind, hrun]
        simp [Service.transaction, Service.run, hcreate, Service.ofExcept]
      · rw [hsend', Service.run_bind, hrun']
        simp [Service.transaction, Service.run, hcreate', Service.ofExcept]

/-! ## The viewer stays a participant -/

theorem participates_iff {viewer : Id} : Participates role viewer conversationId db ↔
    (db.get (.conversation, conversationId)).isSome ∧
      ∃ participant, (ConversationRepository.listParticipants db conversationId).find?
        (fun participant => participant.userId == some viewer && participant.leftAt.isNone) =
          some participant ∧ participant.roleAtJoin = role := by
  constructor
  · rintro ⟨conversation, participant, hfound, hactive, hrole⟩
    obtain ⟨row, hrow, rfl⟩ := Option.map_eq_some_iff.mp hfound
    exact ⟨Option.isSome_of_eq_some hrow, participant, hactive, hrole⟩
  · rintro ⟨hrow, participant, hactive, hrole⟩
    obtain ⟨row, hrow⟩ := Option.isSome_iff_exists.mp hrow
    exact ⟨_, participant, Option.map_eq_some_iff.mpr ⟨row, hrow, rfl⟩, hactive, hrole⟩

theorem Participates.congr {viewer : Id} (hrole : Participates role viewer conversationId db)
    (hrow : (db.get (.conversation, conversationId)).isSome →
      (db'.get (.conversation, conversationId)).isSome)
    (hrows : db'.rows .conversationParticipant = db.rows .conversationParticipant) :
    Participates role viewer conversationId db' := by
  rw [participates_iff] at hrole ⊢
  refine ⟨hrow hrole.1, ?_⟩
  rw [ConversationRepository.listParticipants, Db.list, hrows]
  exact hrole.2

theorem create_run_ok {messageId : Id} {now : Date} {payload : CreateMessageInput}
    {message : SentMessage} (h : (create messageId now payload).run db = .ok (message, db')) :
    ∃ conversation : Conversation,
      db' = (db.put ⟨.message, messageId, some (newMessage payload now)⟩).put
        ⟨.conversation, payload.conversationId, some conversation⟩ := by
  obtain ⟨_, db₁, h₁, h⟩ := Tx.run_bind_ok h
  obtain ⟨_, db₂, h₂, h⟩ := Tx.run_bind_ok h
  obtain ⟨-, hdb₁⟩ := Tx.run_insertRow_ok h₁
  obtain ⟨conversation, -, hdb₂⟩ := Tx.run_updateExisting_ok h₂
  have hdb' : db₂ = db' := by
    rw [Tx.run_ret] at h
    exact congrArg Prod.snd (Except.ok.inj h)
  rw [hdb₁] at hdb₂
  exact ⟨_, hdb'.symm.trans hdb₂⟩

theorem deleteMessages_writes (ids : List Id) :
    (deleteMessages ids).Writes fun w => w.table = .message := by
  refine ⟨fun db b ws hws w hw => ?_, fun _ => True.intro⟩
  beta_reduce at hws
  split at hws
  · cases hws
    obtain ⟨id, -, rfl⟩ := List.mem_map.mp hw
    rfl
  · cases hws

/-- What the deletion asks of the messages, the viewer can tell. -/
theorem deleteMessages_respects (ids : List Id) :
    (deleteMessages ids).Respects (Db.SameView (conversationView role conversationId)) := by
  refine ⟨fun db db' h => ?_, fun _ => True.intro⟩
  have hreceipts : ∀ message : Message,
      (conversationView role conversationId .message message).receipts = message.receipts := by
    intro message
    simp only [conversationView]
    split <;> rfl
  have hget : ∀ id, (db.get (.message, id)).map (·.receipts) =
      (db'.get (.message, id)).map (·.receipts) := by
    intro id
    have hview := congrArg (Option.map fun message : Message => message.receipts)
      (h.get (.message, id))
    simpa only [Option.map_map, Function.comp_def, hreceipts] using hview
  have hnone : ∀ (db : Store) id, (∀ message ∈ db.get (.message, id), message.receipts = []) ↔
      ∀ receipts ∈ (db.get (.message, id)).map (·.receipts), receipts = [] := by
    intro db id
    cases db.get (.message, id) <;> simp
  have hcond : (∀ id ∈ ids, ∀ message ∈ db.get (.message, id), message.receipts = []) ↔
      ∀ id ∈ ids, ∀ message ∈ db'.get (.message, id), message.receipts = [] := by
    refine forall₂_congr fun id _ => ?_
    exact (hnone db id).trans (hget id ▸ (hnone db' id).symm)
  refine ⟨?_, fun b ws _ => h.apply ws⟩
  simp only [hcond]

/-- A message writes itself and its conversation. -/
theorem send_sameOn (messageId : Id) (now : Date) (currentUser : AuthenticatedUser)
    (dto : SendMessageDto) (db : Store) :
    Db.SameOn (fun t => t ≠ .message ∧ t ≠ .conversation) db
        ((send messageId now currentUser dto).run db).2 ∧
      ∀ k, (db.get k).isSome → (((send messageId now currentUser dto).run db).2.get k).isSome := by
  have hatomic : (send messageId now currentUser dto).Atomic :=
    .bind (assertCanSend_readOnly _ _ _ _ _) fun _ => .transaction _
  rcases hatomic.cases db with hsame | ⟨message, hrun⟩
  · rw [hsame]
    exact ⟨.refl db, fun _ h => h⟩
  · obtain ⟨conversation, h₁, h₂⟩ := (assertCanSend_readOnly _ _ _ _ _).run_bind_ok hrun
    obtain ⟨row, hrow⟩ := create_run_ok (Service.run_transaction_ok.mp h₂)
    rw [hrow]
    refine ⟨fun t ht => ?_, fun k h => Db.isSome_put _ (Db.isSome_put _ h)⟩
    rw [Db.rows_put_ne _ ht.2, Db.rows_put_ne _ ht.1]

/-- Pruning deletes messages. -/
theorem pruneOldMessages_sameOn (id : Id) (keep : ℕ) (db : Store) :
    Db.SameOn (· ≠ .message) db ((pruneOldMessages id keep).run db).2 := by
  rcases hdelete : (deleteMessages (staleMessages db id keep)).run db with e | ⟨u, after⟩
  · simp only [pruneOldMessages, Service.bind_eq, Service.run_bind, Service.get, Service.run,
      Service.transaction, hdelete, Service.ofExcept]
    exact .refl db
  · simp only [pruneOldMessages, Service.bind_eq, Service.run_bind, Service.get, Service.run,
      Service.transaction, hdelete, Service.ofExcept]
    exact (deleteMessages_writes _).sameOn_ne hdelete

/-- No call makes the viewer leave, or changes its role. -/
theorem Participates.run {viewer : Id} (call : MessagingCall)
    (hrole : Participates role viewer conversationId db) :
    Participates role viewer conversationId (call.run db) := by
  cases call with
  | send messageId now currentUser dto =>
    obtain ⟨hsame, hsome⟩ := send_sameOn messageId now currentUser dto db
    exact hrole.congr (hsome (.conversation, conversationId))
      (hsame .conversationParticipant (by simp)).symm
  | list currentUser id cursor limit =>
    rw [MessagingCall.run, (listCurrentUserConversationMessages_readOnly _ _ _ _).run db]
    exact hrole
  | prune id =>
    have hsame := pruneOldMessages_sameOn id 20 db
    refine hrole.congr (fun h => ?_) ?_
    · rwa [MessagingCall.run, ← hsame.get (by simp)]
    · rw [MessagingCall.run, ← hsame _ (by simp)]

/-! ## Two runs side by side -/

theorem pruneOldMessages_respects (id : Id) (keep : ℕ) :
    (pruneOldMessages id keep).Respects (Db.SameView (conversationView role conversationId)) := by
  refine .bind (.get fun db db' h => ?_) fun _ => .transaction (deleteMessages_respects _)
  have hids : (messagesOf db id).map Prod.fst = (messagesOf db' id).map Prod.fst := by
    have hfst := congrArg (List.map Prod.fst) (messagesOf_congr h id)
    rw [List.map_map, List.map_map] at hfst
    exact hfst
  have hlast : ∀ messageId : Id, db.list .conversation (·.lastMessageId == some messageId) =
      db'.list .conversation (·.lastMessageId == some messageId) :=
    fun _ => h.list_eq fun _ => rfl
  rw [staleMessages, staleMessages, hids]
  congr 2
  funext messageId
  rw [hlast]

theorem inRoom_congr (h : Db.SameView (conversationView role conversationId) db db')
    (id viewer : Id) : inRoom db id viewer = inRoom db' id viewer := by
  rw [inRoom, inRoom, findResolvedById_congr h]

/-- A message of which the role may view everything has nothing that could be changed. -/
theorem SendMessageDto.Alike.attachments_eq {dto dto' : SendMessageDto}
    (halike : dto.Alike role conversationId dto')
    (hvisible : ∀ attachment ∈ dto.attachments, attachment.Visible role) :
    dto'.attachments = dto.attachments := by
  have hid : ∀ attachments : List SendMessageAttachmentDto,
      (∀ attachment ∈ attachments, attachment.Visible role) →
        attachments.map (·.redact role) = attachments := by
    intro attachments hall
    conv_rhs => rw [← List.map_id attachments]
    refine List.map_congr_left fun attachment hattachment => ?_
    rw [SendMessageAttachmentDto.redact, if_pos (hall attachment hattachment), id]
  -- whether an attachment is visible depends on its type
  have htypes : ∀ attachment' ∈ dto'.attachments, ∃ attachment ∈ dto.attachments,
      attachmentTypeMap attachment.type = attachmentTypeMap attachment'.type := by
    intro attachment' hattachment'
    have hmem := List.mem_map_of_mem
      (f := fun attachment : SendMessageAttachmentDto => attachmentTypeMap attachment.type)
      hattachment'
    rw [halike.types] at hmem
    exact List.mem_map.mp hmem
  have hvisible' : ∀ attachment' ∈ dto'.attachments, attachment'.Visible role := by
    intro attachment' hattachment'
    obtain ⟨attachment, hattachment, htype⟩ := htypes attachment' hattachment'
    have hview := hvisible attachment hattachment
    rwa [SendMessageAttachmentDto.Visible, htype] at hview
  rw [← hid _ hvisible, ← halike.attachments, hid _ hvisible']

/-- Calls that look the same leave databases that do, and tell the viewer the same if there is
nothing to hide from it. -/
theorem MessagingCall.Alike.step {viewer : Id} {call call' : MessagingCall}
    (halike : MessagingCall.Alike role conversationId call call')
    (h : Db.SameView (conversationView role conversationId) db db')
    (hrole : Participates role viewer conversationId db) :
    Db.SameView (conversationView role conversationId) (call.run db) (call'.run db') ∧
      (call.AllVisible role conversationId db →
        call.received viewer db = call'.received viewer db') := by
  cases halike with
  | same =>
    cases call with
    | send messageId now currentUser dto =>
      rcases send_alike h messageId now currentUser (.inl (rfl : dto = dto)) with
        ⟨e, hrun, hrun'⟩ | ⟨conversation, after, after', -, hrun, hrun', hafter⟩
      · simp only [MessagingCall.run, MessagingCall.received, hrun, hrun']
        exact ⟨h, fun _ => trivial⟩
      · simp only [MessagingCall.run, MessagingCall.received, hrun, hrun', MessagingCall.emitted,
          inRoom_congr h]
        exact ⟨hafter, fun _ => trivial⟩
    | list currentUser id cursor limit =>
      simp only [MessagingCall.run, MessagingCall.received]
      rw [(listCurrentUserConversationMessages_readOnly _ _ _ _).run db,
        (listCurrentUserConversationMessages_readOnly _ _ _ _).run db']
      refine ⟨h, fun _ => ?_⟩
      by_cases hviewer : currentUser.userId = viewer
      · rw [if_pos hviewer, if_pos hviewer, listOutcome_congr h (hviewer ▸ hrole)]
      · rw [if_neg hviewer, if_neg hviewer]
    | prune id =>
      exact ⟨((pruneOldMessages_respects id 20).run h).2, fun _ => rfl⟩
  | @send messageId now currentUser dto dto' halike =>
    rcases send_alike h messageId now currentUser (.inr halike) with
      ⟨e, hrun, hrun'⟩ | ⟨conversation, after, after', -, hrun, hrun', hafter⟩
    · simp only [MessagingCall.run, MessagingCall.received, hrun, hrun']
      exact ⟨h, fun _ => trivial⟩
    · refine ⟨?_, fun hvisible => ?_⟩
      · simp only [MessagingCall.run, hrun, hrun']
        exact hafter
      · have hattachments := halike.attachments_eq
          (hvisible halike.here ⟨_, by rw [hrun]⟩)
        have hinput : createInput now currentUser dto conversation =
            createInput now currentUser dto' conversation := by
          simp only [createInput, hattachments, halike.type, halike.body]
        simp only [MessagingCall.received, hrun, hrun', MessagingCall.emitted, hinput,
          inRoom_congr h]

/-- A run whose messages have nothing to hide tells the viewer nothing it may not know. -/
theorem unchanged_of_allVisible {viewer : Id} (calls : List MessagingCall) :
    ∀ {db : Store}, Participates role viewer conversationId db →
      MeetAll MessagingCall.run (fun call db => call.AllVisible role conversationId db) calls db →
        Unchanged role viewer conversationId calls db := by
  induction calls with
  | nil =>
    intro db _ _ calls' db' halike _
    cases halike
    rfl
  | cons call calls ih =>
    intro db hrole hmeet calls' db' halike h
    cases halike with
    | cons hfirst hrest =>
      obtain ⟨hnext, hsame⟩ := hfirst.step h hrole
      rw [MessagingCall.receivedAll, MessagingCall.receivedAll, hsame hmeet.1,
        ih (hrole.run call) hmeet.2 _ _ hrest hnext]

/-- The attachments the role may not view, stored under other keys. -/
def rekey (role : ConversationParticipantRole) (attachment : SendMessageAttachmentDto) :
    SendMessageAttachmentDto :=
  if attachment.Visible role then attachment
  else { attachment with storageKey := attachment.storageKey ++ "x" }

theorem rekey_redact (attachment : SendMessageAttachmentDto) :
    (rekey role attachment).redact role = attachment.redact role := by
  by_cases hvisible : attachment.Visible role
  · rw [rekey, if_pos hvisible]
  · have hvisible' : ¬ (rekey role attachment).Visible role := by
      rw [rekey, if_neg hvisible]
      exact hvisible
    rw [SendMessageAttachmentDto.redact, if_neg hvisible', SendMessageAttachmentDto.redact,
      if_neg hvisible, rekey, if_neg hvisible]

def SendMessageDto.rekeyed (role : ConversationParticipantRole) (dto : SendMessageDto) :
    SendMessageDto :=
  { dto with
    attachments := dto.attachments.map (rekey role)
    attachments_max := by rw [List.length_map]; exact dto.attachments_max }

theorem SendMessageDto.rekeyed_alike {dto : SendMessageDto}
    (hhere : dto.conversationId = conversationId) :
    dto.Alike role conversationId (dto.rekeyed role) where
  here := hhere
  conversationId := rfl
  type := rfl
  body := rfl
  attachments := by
    rw [SendMessageDto.rekeyed, List.map_map]
    exact List.map_congr_left fun attachment _ => rekey_redact attachment

/-- A message with something to hide can be changed so that the viewer is told of it. -/
theorem received_rekeyed {viewer : Id} {call : MessagingCall}
    (hrole : Participates role viewer conversationId db)
    (hcall : ¬ call.AllVisible role conversationId db) :
    ∃ call', MessagingCall.Alike role conversationId call call' ∧
      call.received viewer db ≠ call'.received viewer db := by
  cases call with
  | list currentUser id cursor limit => exact absurd trivial hcall
  | prune id => exact absurd trivial hcall
  | send messageId now currentUser dto =>
    simp only [MessagingCall.AllVisible, not_forall] at hcall
    obtain ⟨hhere, ⟨message, hok⟩, attachment, hattachment, hhidden⟩ := hcall
    have halike : dto.Alike role conversationId (dto.rekeyed role) :=
      SendMessageDto.rekeyed_alike hhere
    refine ⟨_, .send messageId now currentUser halike, ?_⟩
    rcases send_alike (.refl _ db) messageId now currentUser (.inr halike) with
      ⟨e, hrun, -⟩ | ⟨conversation, after, after', hid, hrun, hrun', -⟩
    · rw [hrun] at hok
      cases hok
    -- the viewer is in the room, and gets the message as it is stored
    have hroom : inRoom db conversation.conversationId viewer = true := by
      obtain ⟨found, participant, hfound, hactive, -⟩ := hrole
      rw [hid, hhere, inRoom, hfound, Option.any_some, canAccessConversation, hactive]
      rfl
    intro hsame
    simp only [MessagingCall.received, hrun, hrun', MessagingCall.emitted, newMessage, createInput,
      hroom, if_true, List.cons_append, List.cons.injEq, Received.messageCreated.injEq,
      SentMessage.mk.injEq, Message.mk.injEq] at hsame
    have hkeys := congrArg (List.map MessageAttachment.storageKey)
      hsame.1.2.2.2.2.2.2.2.2.2.2.1
    rw [SendMessageDto.rekeyed, List.map_map, List.map_map, List.map_map] at hkeys
    have hkey := List.map_inj_left.mp hkeys attachment hattachment
    have hlength := congrArg String.length hkey
    simp only [Function.comp_def, mapAttachment, rekey, if_neg hhidden, String.length_append]
      at hlength
    exact absurd hlength (by simp)

/-- A run that sends something to hide from the viewer can be changed so that it is told. -/
theorem exists_told_of_not_allVisible {viewer : Id} (calls : List MessagingCall) :
    ∀ {db : Store}, Participates role viewer conversationId db →
      ¬ MeetAll MessagingCall.run (fun call db => call.AllVisible role conversationId db) calls db →
        ∃ calls', List.Forall₂ (MessagingCall.Alike role conversationId) calls calls' ∧
          MessagingCall.receivedAll viewer calls db ≠
            MessagingCall.receivedAll viewer calls' db := by
  induction calls with
  | nil => exact fun _ hmeet => absurd trivial hmeet
  | cons call calls ih =>
    intro db hrole hmeet
    by_cases hcall : call.AllVisible role conversationId db
    · obtain ⟨calls', halike, hdiffer⟩ :=
        ih (hrole.run call) fun hrest => hmeet ⟨hcall, hrest⟩
      exact ⟨call :: calls', .cons (.same call) halike, fun hsame =>
        hdiffer (List.cons.inj hsame).2⟩
    · obtain ⟨call', halike, hdiffer⟩ := received_rekeyed hrole hcall
      exact ⟨call' :: calls, .cons halike (List.forall₂_same.mpr fun call _ => .same call),
        fun hsame => hdiffer (List.cons.inj hsame).1⟩

/-- What a run tells a participant of a conversation is independent of the attachments that its
role may not view, just when every message that the run sends to the conversation has none. -/
theorem unchanged_iff {viewer : Id} (hrole : Participates role viewer conversationId db)
    (calls : List MessagingCall) :
    Unchanged role viewer conversationId calls db ↔ MeetAll MessagingCall.run
      (fun call db => call.AllVisible role conversationId db) calls db := by
  refine ⟨fun hunchanged => ?_, unchanged_of_allVisible calls hrole⟩
  by_contra hmeet
  obtain ⟨calls', halike, hdiffer⟩ := exists_told_of_not_allVisible calls hrole hmeet
  exact hdiffer (hunchanged calls' db halike (.refl _ db))

end

/-! ## A proof of handoff in an order's chat -/

/-- An order chat of a customer, a merchant and a rider. -/
def chatStore : Store := Db.empty.apply [
  ⟨.conversation, 70, some {
    orderId := 5, type := .orderChat, title := some "WT-5 order_chat", lastMessageId := none
    lastMessageAt := none, createdAt := 0, updatedAt := 0 }⟩,
  ⟨.conversationParticipant, 1, some (ConversationRepository.upsertedParticipant 70
    (buildUserParticipant 20 .customer) 0 none)⟩,
  ⟨.conversationParticipant, 2, some (ConversationRepository.upsertedParticipant 70
    (buildUserParticipant 10 .merchant) 0 none)⟩,
  ⟨.conversationParticipant, 3, some (ConversationRepository.upsertedParticipant 70
    (buildUserParticipant 40 .rider) 0 none)⟩]

def chatRider : AuthenticatedUser where
  userId := 40
  role := .rider
  merchantId := none
  customerProfileId := none
  riderId := some 1

/-- The rider sends a photo of the handoff. -/
def sendProof : MessagingCall := .send 100 1 chatRider {
  conversationId := 70
  type := .value .proofOfHandoff
  attachments := [{ type := .proofOfHandoff, storageKey := "proofs/handoff.jpg" }]
  body_max := by simp
  attachments_max := by simp }

theorem chatStore_participates {role : ConversationParticipantRole} {viewer : Id}
    (h : ((ConversationRepository.listParticipants chatStore 70).find? fun participant =>
      participant.userId == some viewer && participant.leftAt.isNone).map (·.roleAtJoin) =
        some role) : Participates role viewer 70 chatStore :=
  participates_iff.mpr ⟨rfl, Option.map_eq_some_iff.mp h⟩

/-- The customer is told where the photo is stored, which its role may not view. -/
theorem customer_told_of_handoff : Participates .customer 20 70 chatStore ∧
    ¬ Unchanged .customer 20 70 [sendProof] chatStore := by
  have hrole : Participates .customer 20 70 chatStore := chatStore_participates (by decide +kernel)
  refine ⟨hrole, fun hunchanged => ?_⟩
  obtain ⟨calls', halike, hdiffer⟩ := exists_told_of_not_allVisible [sendProof] hrole
    fun hmeet => absurd (hmeet.1 rfl ⟨_, rfl⟩ _ List.mem_cons_self) (by decide)
  exact hdiffer (hunchanged calls' chatStore halike (.refl _ _))

/-- The merchant may view it. -/
theorem unchanged_iff_merchant : Participates .merchant 10 70 chatStore ∧
    (Unchanged .merchant 10 70 [sendProof] chatStore ↔ MeetAll MessagingCall.run
      (fun call db => call.AllVisible .merchant 70 db) [sendProof] chatStore) :=
  have hrole : Participates .merchant 10 70 chatStore := chatStore_participates (by decide +kernel)
  ⟨hrole, unchanged_iff hrole _⟩

end WerTe
