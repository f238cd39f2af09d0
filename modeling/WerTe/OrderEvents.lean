import WerTe.ConversationRiders

/-!
# Events of an order

`system-message.service.ts` and `notification-event.service.ts`: an event of an order is posted in
the order's chat, and everyone in the chat but whoever acts is notified of it.

The chat is resolved first, and whom a chat lets join is known only once the order has a rider
(`requiresAssignedRiderConversationType`). So an event reaches the order's people just when the
order has one (`order_event_reaches_iff`).

* `NotificationEventService.publishOrderEvent`: a notification for each recipient
* `SystemMessageService.publishOrderEventOrThrow`: the whole event
-/

namespace WerTe

open ReadCommitted ConversationRepository

/-! ## `notifications.repository.ts` -/

structure CreateNotificationInput where
  userId : Id
  type : NotificationType
  title : String
  body : String
  navigationPath : Option String
  metadataJson : NotificationMetadata
  orderId : Option Id := none
  deliveryId : Option Id := none
  conversationId : Option Id := none
  messageId : Option Id := none

namespace NotificationsRepository

def newNotification (now : Date) (payload : CreateNotificationInput) : Notification where
  userId := payload.userId
  type := payload.type
  title := payload.title
  body := payload.body
  navigationPath := payload.navigationPath
  metadataJson := payload.metadataJson
  orderId := payload.orderId
  deliveryId := payload.deliveryId
  conversationId := payload.conversationId
  messageId := payload.messageId
  createdAt := now

def create (now : Date) (payload : CreateNotificationInput) : StoreTx Id :=
  .update fun db => (db.fresh .notification,
    [⟨.notification, db.fresh .notification, some (newNotification now payload)⟩])

def createDeliveryAttempt (delivery : NotificationDelivery) : StoreTx Unit :=
  .update fun db => ((), [⟨.notificationDelivery, db.fresh .notificationDelivery, some delivery⟩])

end NotificationsRepository

/-! ## `notification-event.service.ts` -/

namespace NotificationEventService

def mapSystemMessageCodeToNotificationType : SystemMessageCode → NotificationType
  | .paymentPending | .paymentSucceeded | .paymentFailed | .paymentCancelled =>
    .paymentStatusUpdated
  | .refundRequested | .refundSucceeded | .refundFailed => .refundStatusUpdated
  | .riderAssigned => .orderAssigned
  | .riderAccepted | .riderRejectedAssignment | .orderPickedUp | .orderOnTheWay | .orderDelivered
  | .failedDelivery | .merchantHandoffConfirmed | .deliveryProofSubmitted =>
    .deliveryStatusUpdated
  | .adminIntervention => .supportUpdate
  | _ => .orderStatusUpdated

def buildOrderNotificationTitle (code : SystemMessageCode) (orderCode : String) : String :=
  match code with
  | .paymentPending | .paymentSucceeded | .paymentFailed | .paymentCancelled =>
    "Payment update: " ++ orderCode
  | .refundRequested | .refundSucceeded | .refundFailed => "Refund update: " ++ orderCode
  | .riderAssigned => "Rider assigned for " ++ orderCode
  | .orderDelivered => "Order delivered: " ++ orderCode
  | .orderCancelled => "Order cancelled: " ++ orderCode
  | .adminIntervention => "Support updated " ++ orderCode
  | _ => "Order update: " ++ orderCode

structure OrderEvent where
  order : ConversationOrderContext
  conversationId : Id
  message : SentMessage
  code : SystemMessageCode

def orderNotification (event : OrderEvent) (userId : Id) : CreateNotificationInput where
  userId := userId
  type := mapSystemMessageCodeToNotificationType event.code
  title := buildOrderNotificationTitle event.code event.order.orderCode
  body := event.message.message.body
  navigationPath := some ("/orders/" ++ toString event.order.orderId)
  metadataJson :=
    .order event.order.orderCode event.conversationId event.message.messageId event.code
  orderId := some event.order.orderId
  deliveryId := event.order.deliveryId
  conversationId := some event.conversationId
  messageId := some event.message.messageId

/-- What is queued beside is no row. -/
def recordDefaultDeliveries (now : Date) (notificationId : Id) : StoreService Unit := do
  .transaction (NotificationsRepository.createDeliveryAttempt
    ⟨notificationId, .inApp, .delivered, none, some now⟩)
  .transaction (NotificationsRepository.createDeliveryAttempt
    ⟨notificationId, .push, .queued, some now, none⟩)

def publishOrderEvent (now : Date) (event : OrderEvent) : List Id → StoreService Unit
  | [] => .ret ()
  | userId :: userIds => do
    let notificationId ←
      .transaction (NotificationsRepository.create now (orderNotification event userId))
    recordDefaultDeliveries now notificationId
    publishOrderEvent now event userIds

end NotificationEventService

/-! ## `system-message.service.ts` -/

namespace SystemMessageService

/-- The chat is resolved, the event is posted in it, and the recipients are notified. -/
def publishToChat (messageId : Id) (now : Date) (currentUser : AuthenticatedUser)
    (input : PublishOrderEventInput) (order : ConversationOrderContext)
    (participants : List ConversationParticipantSpec) : StoreService Unit := do
  let conversation ← .transaction (ConversationRepository.resolve order.orderId .orderChat
    (buildConversationTitle order .orderChat) participants now)
  let message ← .transaction
    (MessageRepository.create messageId now (systemEvent input conversation))
  NotificationEventService.publishOrderEvent now
    ⟨order, conversation.conversationId, message, input.code⟩
    (resolveRecipientUserIds conversation currentUser.userId)

def publishOrderEventOrThrow (messageId : Id) (now : Date) (currentUser : AuthenticatedUser)
    (input : PublishOrderEventInput) : StoreService Unit := do
  let order ← .get fun db => ConversationRepository.findOrderContextById db input.orderId
  match eventParticipants currentUser order with
  | none => .ret ()
  | some (order, participants) =>
    publishToChat messageId now currentUser input order participants

end SystemMessageService

/-! ## Everyone is told -/

/-- The customer, the merchant and the rider, if there is one. -/
def orderParties (order : ConversationOrderContext) : List Id :=
  [order.customerUserId, order.merchantUserId] ++ (order.rider.map (·.userId)).toList

/-- One notification of the event is new to the user, and no other. -/
def NotifiedOnce (event : SystemMessageService.PublishOrderEventInput) (messageId userId : Id)
    (db db' : Store) : Prop :=
  ∃ notificationId notification,
    db'.list .notification (·.userId == userId) =
      (notificationId, notification) :: db.list .notification (·.userId == userId) ∧
    notification.type =
      NotificationEventService.mapSystemMessageCodeToNotificationType event.code ∧
    notification.body = event.body ∧ notification.orderId = some event.orderId ∧
    notification.messageId = some messageId

/-- The event is one new message in the order's chat, and every party to the order but the acting
user is notified of it. -/
structure EventReaches (event : SystemMessageService.PublishOrderEventInput)
    (currentUser : AuthenticatedUser) (messageId : Id) (order : ConversationOrderContext)
    (db db' : Store) : Prop where
  posted : ∃ message, db'.list .message (fun _ => true) =
      (messageId, message) :: db.list .message (fun _ => true) ∧
    message.conversationId = conversationId event.orderId .orderChat ∧
    message.senderKind = .system ∧ message.type = .systemEvent ∧
    message.systemEventCode = some event.code ∧ message.body = event.body
  notified : ∀ userId ∈ orderParties order, userId ≠ currentUser.userId →
    NotifiedOnce event messageId userId db db'

/-- The user that a key names. -/
def ParticipantKey.userId : ParticipantKey → Option Id
  | .user userId => some userId
  | .system _ => none

theorem ParticipantKey.eq_user_of_userId {key : ParticipantKey} {userId : Id}
    (h : key.userId = some userId) : key = .user userId := by
  cases key with
  | user userId' => rw [Option.some.inj h]
  | system name => cases h

/-- Every participant takes part as the user of its key. -/
def ParticipantsNamed (db : Store) : Prop :=
  ∀ id participant, db.get (.conversationParticipant, id) = some participant →
    participant.userId = participant.participantKey.userId

/-! ## Notifications -/

section Notifications

open NotificationEventService

variable (now : Date) (event : OrderEvent)

/-- The store after one recipient's notification and its two deliveries. -/
def notifiedOf (db : Store) (userId : Id) : Store :=
  let id := db.fresh .notification
  let db₁ := db.put ⟨.notification, id,
    some (NotificationsRepository.newNotification now (orderNotification event userId))⟩
  let db₂ := db₁.put ⟨.notificationDelivery, db₁.fresh .notificationDelivery,
    some ⟨id, .inApp, .delivered, none, some now⟩⟩
  db₂.put ⟨.notificationDelivery, db₂.fresh .notificationDelivery,
    some ⟨id, .push, .queued, some now, none⟩⟩

theorem publishOrderEvent_cons (userId : Id) (userIds : List Id) (db : Store) :
    (publishOrderEvent now event (userId :: userIds)).run db =
      (publishOrderEvent now event userIds).run (notifiedOf now event db userId) := rfl

theorem notifiedOf_sameOn (db : Store) (userId : Id) :
    Db.SameOn (fun t => t ≠ .notification ∧ t ≠ .notificationDelivery) db
      (notifiedOf now event db userId) := by
  intro t ht
  rw [notifiedOf, Db.rows_put_ne _ ht.2, Db.rows_put_ne _ ht.2, Db.rows_put_ne _ ht.1]

theorem list_notifiedOf (db : Store) (userId other : Id) :
    (notifiedOf now event db userId).list .notification (·.userId == other) =
      if userId = other then (db.fresh .notification,
        NotificationsRepository.newNotification now (orderNotification event userId)) ::
          db.list .notification (·.userId == other)
      else db.list .notification (·.userId == other) := by
  rw [notifiedOf, Db.list_put_ne _ (by simp), Db.list_put_ne _ (by simp),
    Db.list_put_new (Db.get_fresh db .notification)]
  simp [NotificationsRepository.newNotification, orderNotification]

/-- Every recipient who is named once gets one notification, and nobody else gets any. -/
theorem publishOrderEvent_run (userIds : List Id) : ∀ db : Store, ∃ db',
    (publishOrderEvent now event userIds).run db = (.ok (), db') ∧
      Db.SameOn (fun t => t ≠ .notification ∧ t ≠ .notificationDelivery) db db' ∧
      ∀ other, (userIds.count other = 0 → db'.list .notification (·.userId == other) =
          db.list .notification (·.userId == other)) ∧
        (userIds.count other = 1 → ∃ id, db'.list .notification (·.userId == other) =
          (id, NotificationsRepository.newNotification now (orderNotification event other)) ::
            db.list .notification (·.userId == other)) := by
  induction userIds with
  | nil => exact fun db => ⟨db, rfl, .refl db, fun _ => ⟨fun _ => rfl, fun h => by cases h⟩⟩
  | cons userId userIds ih =>
    intro db
    obtain ⟨db', hrun, hsame, hlists⟩ := ih (notifiedOf now event db userId)
    refine ⟨db', (publishOrderEvent_cons now event userId userIds db).trans hrun,
      (notifiedOf_sameOn now event db userId).trans hsame, fun other => ?_⟩
    obtain ⟨hzero, hone⟩ := hlists other
    rw [list_notifiedOf] at hzero hone
    by_cases hother : userId = other
    · subst hother
      rw [List.count_cons_self]
      refine ⟨fun h => by omega, fun h => ⟨db.fresh .notification, ?_⟩⟩
      rw [hzero (by omega), if_pos rfl]
    · rw [List.count_cons_of_ne hother]
      rw [if_neg hother] at hzero hone
      exact ⟨hzero, hone⟩

end Notifications

/-! ## Recipients -/

section Recipients

variable {db : Store} {userId actorUserId : Id}

/-- A user with one row in the conversation, who has not left, is a recipient once. -/
theorem count_resolveRecipientUserIds {row : Conversation} {conversationId id : Id}
    {participant : ConversationParticipant}
    (hget : db.get (.conversationParticipant, id) = some participant)
    (hconversation : participant.conversationId = conversationId)
    (huser : participant.userId = some userId) (hleft : participant.leftAt = none)
    (hne : userId ≠ actorUserId)
    (huniq : ∀ id' other, db.get (.conversationParticipant, id') = some other →
      other.conversationId = conversationId → other.userId = some userId → id' = id) :
    (resolveRecipientUserIds (buildResolvedConversation db conversationId row)
      actorUserId).count userId = 1 := by
  have hlist : db.list .conversationParticipant (fun p => p.conversationId == conversationId &&
      (p.userId == some userId && (p.leftAt.isNone && p.userId.isSome &&
        p.userId != some actorUserId))) = [(id, participant)] := by
    refine Db.list_eq_singleton_iff.mpr ⟨⟨hget, by simp [hconversation, huser, hleft, hne]⟩, ?_⟩
    rintro id' ⟨other, hother, hp⟩
    simp only [Bool.and_eq_true, beq_iff_eq] at hp
    exact huniq id' other hother hp.1 hp.2.1
  have hlength := congrArg List.length hlist
  rw [resolveRecipientUserIds, List.count_filterMap, List.countP_filter, buildResolvedConversation,
    listParticipants, List.countP_map, (List.perm_insertionSort _ _).countP_eq,
    List.countP_eq_length_filter, Db.list, List.filter_filter]
  refine (congrArg List.length (List.filter_congr fun e _ => ?_)).trans hlength
  simp only [Function.comp_apply, Bool.and_comm]

end Recipients

/-! ## Participants -/

section Participants

variable {db db' : Store} {conversationId userId : Id} {now : Date}
  {participants : List ConversationParticipantSpec}

/-- A participant takes the place of one with its key only. -/
theorem mem_keys_foldl_setParticipant {key : ParticipantKey}
    (pushed : List ConversationParticipantSpec) :
    ∀ {entries : List ConversationParticipantSpec},
      key ∈ entries.map (·.participantKey) ∨ key ∈ pushed.map (·.participantKey) →
        key ∈ (pushed.foldl setParticipant entries).map (·.participantKey) := by
  induction pushed with
  | nil => exact fun h => h.resolve_right (by simp)
  | cons participant pushed ih =>
    intro entries h
    refine ih ?_
    rw [List.map_cons, List.mem_cons, ← or_assoc] at h
    refine h.imp_left fun h => ?_
    rw [setParticipant]
    split
    · next hany =>
      obtain ⟨entry, hentry, hkey⟩ := List.any_eq_true.mp hany
      have hentryKey : participant.participantKey ∈ entries.map (·.participantKey) :=
        List.mem_map.mpr ⟨entry, hentry, eq_of_beq hkey⟩
      have hsame : (entries.map fun entry =>
          if entry.participantKey = participant.participantKey then participant else entry).map
            (·.participantKey) = entries.map (·.participantKey) := by
        rw [List.map_map]
        refine List.map_congr_left fun entry _ => ?_
        by_cases hkey : entry.participantKey = participant.participantKey
        · simp [hkey]
        · simp [hkey]
      rw [hsame]
      rcases h with h | rfl
      · exact h
      · exact hentryKey
    · rw [List.map_append, List.mem_append, List.map_singleton, List.mem_singleton]
      exact h

/-- Whom the policies let join takes part as the user of its key. -/
theorem named_of_pushed {currentUser : AuthenticatedUser} {order : ConversationOrderContext}
    {type : ConversationType} {pushed : List ConversationParticipantSpec}
    (hpushed : pushedParticipants currentUser order type = some pushed) :
    ∀ spec ∈ pushed, spec.userId = spec.participantKey.userId := by
  have hops : ∀ spec ∈ operationsParticipant currentUser,
      spec.userId = spec.participantKey.userId := by
    intro spec hspec
    rw [operationsParticipant] at hspec
    split at hspec
    · rw [List.mem_singleton.mp hspec]
      rfl
    · cases hspec
  unfold pushedParticipants at hpushed
  split at hpushed <;> cases hpushed <;>
    simp [customerParticipant, merchantParticipant, riderParticipant, buildUserParticipant,
      buildSystemParticipant, includesSystemParticipant, ParticipantKey.userId, or_imp,
      forall_and]
  all_goals exact hops

theorem named_of_build {currentUser : AuthenticatedUser} {order : ConversationOrderContext}
    {type : ConversationType}
    (hbuild : buildConversationParticipants currentUser order type = some participants) :
    ∀ spec ∈ participants, spec.userId = spec.participantKey.userId := by
  rw [buildConversationParticipants] at hbuild
  split at hbuild
  · cases hbuild
  · obtain ⟨pushed, hpushed, rfl⟩ := Option.map_eq_some_iff.mp hbuild
    intro spec hspec
    rcases mem_foldl_setParticipant pushed hspec with h | h
    · cases h
    · exact named_of_pushed hpushed spec h

/-- Whoever joins is a participant of the conversation, with one row. -/
theorem Joined.count_recipients (hjoined : Joined conversationId participants now db db')
    (hkey : ∀ id participant, db.get (.conversationParticipant, id) = some participant →
      id = participantId participant.conversationId participant.participantKey)
    (hnamed : ParticipantsNamed db)
    (hspecs : ∀ spec ∈ participants, spec.userId = spec.participantKey.userId)
    (huser : .user userId ∈ participants.map (·.participantKey)) {actorUserId : Id}
    (hne : userId ≠ actorUserId) (row : Conversation) :
    (resolveRecipientUserIds (buildResolvedConversation db' conversationId row)
      actorUserId).count userId = 1 := by
  obtain ⟨joining, hjoining, hjoiningKey⟩ := List.mem_map.mp huser
  rcases hjoined.rows (participantId conversationId (.user userId)) with
    ⟨-, hno⟩ | ⟨spec, hspec, hid, old, hrow⟩
  · exact absurd (by rw [hjoiningKey]) (hno joining hjoining)
  · have hspecKey : .user userId = spec.participantKey := participantId_user_inj hid
    have hspecUser : spec.userId = some userId := by
      rw [hspecs spec hspec, ← hspecKey]
      rfl
    refine count_resolveRecipientUserIds hrow rfl hspecUser rfl hne fun id' other hother hof hu => ?_
    rcases hjoined.rows id' with ⟨hkept, -⟩ | ⟨spec', hspec', hid', old', hrow'⟩
    · have hget := hkept.symm.trans hother
      have hotherKey := ParticipantKey.eq_user_of_userId ((hnamed id' other hget).symm.trans hu)
      rw [hkey id' other hget, hof, hotherKey]
    · obtain rfl := Option.some.inj (hother.symm.trans hrow')
      rw [hid', ParticipantKey.eq_user_of_userId ((hspecs spec' hspec').symm.trans hu)]

theorem Joined.named (hjoined : Joined conversationId participants now db db')
    (hspecs : ∀ spec ∈ participants, spec.userId = spec.participantKey.userId)
    (h : ParticipantsNamed db) : ParticipantsNamed db' := by
  intro id participant hget
  rcases hjoined.rows id with ⟨hkept, -⟩ | ⟨spec, hspec, -, old, hrow⟩
  · exact h id participant (hkept.symm.trans hget)
  · obtain rfl := Option.some.inj (hget.symm.trans hrow)
    exact hspecs spec hspec

theorem ParticipantsNamed.run (h : ParticipantsNamed db) (call : ConversationCall) :
    ParticipantsNamed (call.run db) := by
  cases hresolves : call.resolves db with
  | none =>
    intro id participant hget
    exact h id participant ((ConversationCall.participant hresolves id).symm.trans hget)
  | some p =>
    obtain ⟨lane, participants⟩ := p
    obtain ⟨now, hjoined⟩ := ConversationCall.joined hresolves
    obtain ⟨currentUser, order, -, hbuild⟩ := ConversationCall.resolves_eq_some hresolves
    exact hjoined.named (named_of_build hbuild) h

end Participants

/-! ## The event -/

section Events

variable {db : Store} {messageId : Id} {now : Date} {currentUser : AuthenticatedUser}
  {input : SystemMessageService.PublishOrderEventInput} {order : ConversationOrderContext}

/-- The chat of an order without a rider lets nobody join. -/
theorem eventParticipants_none (horder : order.rider = none) :
    SystemMessageService.eventParticipants currentUser (some order) = none := by
  have hnone : buildConversationParticipants currentUser order .orderChat = none := by
    rw [buildConversationParticipants, if_pos ⟨rfl, horder⟩]
  simp [SystemMessageService.eventParticipants, hnone]

/-- The chat of an order with a rider lets all its parties join. -/
theorem eventParticipants_some (currentUser : AuthenticatedUser) {rider : ConversationRider} (horder : order.rider = some rider) :
    ∃ participants,
      SystemMessageService.eventParticipants currentUser (some order) = some (order, participants) ∧
      buildConversationParticipants currentUser order .orderChat = some participants ∧
      ∀ userId ∈ orderParties order, .user userId ∈ participants.map (·.participantKey) := by
  set pushed := [customerParticipant order, merchantParticipant order] ++
    [buildSystemParticipant "order-chat"] ++ [riderParticipant rider] ++
      operationsParticipant currentUser with hpushedEq
  have hpushed : pushedParticipants currentUser order .orderChat = some pushed := by
    simp [pushedParticipants, horder, includesSystemParticipant, hpushedEq]
  have hkeys : ∀ userId ∈ orderParties order, .user userId ∈ pushed.map (·.participantKey) := by
    intro userId huser
    simp only [orderParties, horder, Option.map_some, Option.toList_some, List.mem_append,
      List.mem_cons, List.not_mem_nil, or_false] at huser
    rcases huser with (rfl | rfl) | rfl <;>
      simp [hpushedEq, customerParticipant, merchantParticipant, riderParticipant,
        buildUserParticipant]
  have hbuild : buildConversationParticipants currentUser order .orderChat =
      some (dedupeParticipants pushed) := by
    rw [buildConversationParticipants, if_neg (by simp [horder]), hpushed, Option.map_some]
  have hparties : ∀ userId ∈ orderParties order,
      .user userId ∈ (dedupeParticipants pushed).map (·.participantKey) :=
    fun userId huser => mem_keys_foldl_setParticipant pushed (.inr (hkeys userId huser))
  refine ⟨dedupeParticipants pushed, ?_, hbuild, hparties⟩
  have hne : dedupeParticipants pushed ≠ [] := by
    intro hnil
    have := hparties order.customerUserId (by simp [orderParties])
    rw [hnil] at this
    cases this
  simp [SystemMessageService.eventParticipants, hbuild, Option.filter, hne]

/-- A message is created in a conversation that is there. -/
theorem create_run_found (now : Date) (payload : CreateMessageInput) {row : Conversation}
    (hfound : db.get (.conversation, payload.conversationId) = some row)
    (hnew : db.get (.message, messageId) = none) :
    ∃ row', (MessageRepository.create messageId now payload).run db =
      .ok (⟨messageId, MessageRepository.newMessage payload now⟩,
        (db.put ⟨.message, messageId, some (MessageRepository.newMessage payload now)⟩).put
          ⟨.conversation, payload.conversationId, some row'⟩) := by
  have hkept : (db.put ⟨.message, messageId,
      some (MessageRepository.newMessage payload now)⟩).get (.conversation, payload.conversationId) =
        some row := (Db.get_put_ne db (by simp [Write.key])).trans hfound
  refine ⟨{ row with lastMessageId := some messageId, lastMessageAt := some now, updatedAt := now },
    ?_⟩
  simp only [MessageRepository.create, Tx.bind_eq, Tx.run_bind]
  simp [Tx.insertRow, Tx.attempt, Tx.run, hnew, Except.bind, Tx.updateExisting, Tx.updateRow,
    Tx.update, Tx.bind, Tx.require, hkept]

/-- The event of an order that has a rider reaches its parties. -/
theorem publishToChat_reaches (hkeyed : ParticipantsKeyed db) (hnamed : ParticipantsNamed db)
    (hnew : db.get (.message, messageId) = none) (horder : order.orderId = input.orderId)
    {participants : List ConversationParticipantSpec}
    (hbuild : buildConversationParticipants currentUser order .orderChat = some participants)
    (hparties : ∀ userId ∈ orderParties order, .user userId ∈ participants.map (·.participantKey)) :
    EventReaches input currentUser messageId order db ((SystemMessageService.publishToChat messageId
      now currentUser input order participants).run db).2 := by
  obtain ⟨row, db₁, hresolve, hfound, hjoined, hsame₁⟩ := resolve_run_found
    (order.orderId, .orderChat) (buildConversationTitle order .orderChat) now participants db
  set conversation := buildResolvedConversation db₁
    (Lane.conversationId (order.orderId, .orderChat)) row
  set payload := SystemMessageService.systemEvent input conversation
  have hnew₁ : db₁.get (.message, messageId) = none :=
    (hsame₁.get (k := (.message, messageId)) (by simp)).symm.trans hnew
  obtain ⟨row', hcreate⟩ := create_run_found now payload hfound hnew₁
  set message := MessageRepository.newMessage payload now
  set db₂ := (db₁.put ⟨.message, messageId, some message⟩).put
    ⟨.conversation, payload.conversationId, some row'⟩
  obtain ⟨db', hpublish, hsame', hlists⟩ := publishOrderEvent_run now
    ⟨order, conversation.conversationId, ⟨messageId, message⟩, input.code⟩
    (resolveRecipientUserIds conversation currentUser.userId) db₂
  have hrun : (SystemMessageService.publishToChat messageId now currentUser input order
      participants).run db = (.ok (), db') :=
    Service.run_bind_ok.mpr ⟨_, _, Service.run_transaction_ok.mpr hresolve,
      Service.run_bind_ok.mpr ⟨_, _, Service.run_transaction_ok.mpr hcreate, hpublish⟩⟩
  rw [hrun]
  refine ⟨⟨message, ?_, ?_, rfl, rfl, rfl, rfl⟩, fun userId huser hne => ?_⟩
  · rw [← hsame'.list (by simp), Db.list_put_ne _ (by simp), Db.list_put_new hnew₁, if_pos rfl,
      hsame₁.list (by simp)]
  · rw [← horder]
    rfl
  · have hcount := hjoined.count_recipients (hkeyed.key) hnamed (named_of_build hbuild)
      (hparties userId huser) hne row
    obtain ⟨id, hlist⟩ := (hlists userId).2 hcount
    refine ⟨id, NotificationsRepository.newNotification now
      (NotificationEventService.orderNotification ⟨order, conversation.conversationId,
        ⟨messageId, message⟩, input.code⟩ userId), ?_, rfl, rfl, congrArg some horder, rfl⟩
    rw [hlist, Db.list_put_ne _ (by simp), Db.list_put_ne _ (by simp), hsame₁.list (by simp)]

theorem participants_runAll (calls : List ConversationCall) : ∀ {db : Store},
    ParticipantsKeyed db → ParticipantsNamed db →
      ParticipantsKeyed (runAll ConversationCall.run calls db) ∧
        ParticipantsNamed (runAll ConversationCall.run calls db) := by
  induction calls with
  | nil => exact fun hkeyed hnamed => ⟨hkeyed, hnamed⟩
  | cons call calls ih => exact fun hkeyed hnamed => ih (hkeyed.run call) (hnamed.run call)

/-- In every store that is reached by operations on orders and conversations: an event of an
order reaches the order's chat and everyone it is to reach just when the order has a rider. -/
theorem order_event_reaches_iff {db₀ : Store} (hkeyed : ParticipantsKeyed db₀)
    (hnamed : ParticipantsNamed db₀) (calls : List ConversationCall)
    (horder : findOrderContextById (runAll ConversationCall.run calls db₀) input.orderId =
      some order)
    (hnew : (runAll ConversationCall.run calls db₀).get (.message, messageId) = none) :
    EventReaches input currentUser messageId order (runAll ConversationCall.run calls db₀)
        ((SystemMessageService.publishOrderEventOrThrow messageId now currentUser input).run
          (runAll ConversationCall.run calls db₀)).2 ↔
      order.rider.isSome = true := by
  obtain ⟨hkeyed, hnamed⟩ := participants_runAll calls hkeyed hnamed
  set db := runAll ConversationCall.run calls db₀
  have hpublish : (SystemMessageService.publishOrderEventOrThrow messageId now currentUser
      input).run db = (match SystemMessageService.eventParticipants currentUser (some order) with
        | none => .ret ()
        | some (order, participants) => SystemMessageService.publishToChat messageId now currentUser
          input order participants : StoreService Unit).run db := by
    rw [← horder]
    rfl
  rw [hpublish]
  cases hrider : order.rider with
  | none =>
    rw [eventParticipants_none hrider]
    refine ⟨fun h => ?_, fun h => by cases h⟩
    obtain ⟨message, hlist, -⟩ := h.posted
    have hlength := congrArg List.length hlist
    simp [Service.run] at hlength
  | some rider =>
    obtain ⟨participants, hevent, hbuild, hparties⟩ := eventParticipants_some currentUser hrider
    rw [hevent]
    exact ⟨fun _ => rfl, fun _ => publishToChat_reaches hkeyed hnamed hnew
      (of_findOrderContextById horder).1 hbuild hparties⟩

end Events

/-! ## An order before and after it has a rider -/

def acceptedEvent : SystemMessageService.PublishOrderEventInput where
  orderId := 1
  code := .orderAccepted
  body := "The merchant has accepted the order."

theorem twoRiderShop_named : ParticipantsNamed twoRiderShop := by
  intro id participant hget
  have hlist : twoRiderShop.list .conversationParticipant (fun _ => true) = [] := by decide
  have hmem := Db.mem_list (p := fun _ => true) |>.mpr ⟨hget, rfl⟩
  rw [hlist] at hmem
  cases hmem

/-- Nobody is told that the merchant has accepted the order, which has no rider yet. -/
theorem event_before_rider_dropped :
    ∃ order, findOrderContextById twoRiderShop 1 = some order ∧
      ¬ EventReaches acceptedEvent teaMerchant 1 order twoRiderShop
        ((SystemMessageService.publishOrderEventOrThrow 1 5 teaMerchant acceptedEvent).run
          twoRiderShop).2 := by
  have hsome : (findOrderContextById twoRiderShop 1).isSome = true := by decide +kernel
  have hempty : ((SystemMessageService.publishOrderEventOrThrow 1 5 teaMerchant acceptedEvent).run
      twoRiderShop).2.list .message (fun _ => true) = [] := by decide +kernel
  obtain ⟨order, horder⟩ := Option.isSome_iff_exists.mp hsome
  refine ⟨order, horder, fun h => ?_⟩
  obtain ⟨message, hlist, -⟩ := h.posted
  rw [hempty] at hlist
  cases hlist

/-- Once a rider is assigned, the event reaches everyone. -/
theorem order_event_reaches_twoRiderShop : ∃ order,
    findOrderContextById (runAll ConversationCall.run
      [.order (.assignRider 1 teaAdmin 1 1 none none)] twoRiderShop) 1 = some order ∧
    EventReaches acceptedEvent teaMerchant 1 order
      (runAll ConversationCall.run [.order (.assignRider 1 teaAdmin 1 1 none none)] twoRiderShop)
      ((SystemMessageService.publishOrderEventOrThrow 1 5 teaMerchant acceptedEvent).run
        (runAll ConversationCall.run [.order (.assignRider 1 teaAdmin 1 1 none none)]
          twoRiderShop)).2 := by
  have hrider : (findOrderContextById (runAll ConversationCall.run
      [.order (.assignRider 1 teaAdmin 1 1 none none)] twoRiderShop) 1).any (·.rider.isSome) =
        true := by decide +kernel
  obtain ⟨order, horder, hsome⟩ := (Option.any_eq_true _ _).mp hrider
  exact ⟨order, horder, (order_event_reaches_iff twoRiderShop_keyed twoRiderShop_named _ horder
    (by decide +kernel)).mpr hsome⟩

end WerTe
