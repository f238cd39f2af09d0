import WerTe.AttachmentVisibility
import WerTe.DispatchTimeouts

/-!
# Which rider takes part in a conversation

An order's rider changes when a delivery is rejected, cancelled, timed out or assigned anew. A
resolution of a conversation lets the current rider join it, and leaves everyone in it who has
joined before: nothing ever sets the time at which a participant left. So the conversations that
have been resolved since their order's rider changed follow the current rider exactly as long as
no conversation is resolved that a former rider has joined (`rider_access_iff`).
-/

namespace WerTe

open ReadCommitted ConversationRepository

/-! ## Runs -/

/-- The operations on an order, its conversations and their messages. -/
inductive ConversationCall
  | order (call : OrderCall)
  | resolve (currentUser : AuthenticatedUser) (orderId : Id) (type : ConversationType) (now : Date)
  | publish (messageId : Id) (now : Date) (currentUser : AuthenticatedUser)
      (input : SystemMessageService.PublishOrderEventInput)
  | send (messageId : Id) (now : Date) (currentUser : AuthenticatedUser) (dto : SendMessageDto)
  | prune (conversationId : Id)

/-- An order's conversation of a type. -/
abbrev Lane := Id × ConversationType

def Lane.conversationId (lane : Lane) : Id :=
  ConversationRepository.conversationId lane.1 lane.2

namespace ConversationCall

def run : ConversationCall → Store → Store
  | order call, db => call.run db
  | resolve currentUser orderId type now, db =>
    ((ConversationService.resolve currentUser orderId type now).run db).2
  | publish messageId now currentUser input, db =>
    ((SystemMessageService.publishOrderEvent messageId now currentUser input).run db).2
  | send messageId now currentUser dto, db =>
    ((MessageService.send messageId now currentUser dto).run db).2
  | prune conversationId, db => ((MessageRepository.pruneOldMessages conversationId 20).run db).2

/-- The conversation that the call resolves, and whom it lets join. -/
def resolves (db : Store) : ConversationCall → Option (Lane × List ConversationParticipantSpec)
  | resolve currentUser orderId type _ =>
    (findOrderContextById db orderId).bind fun order =>
      if ¬ (supportsAssignedRiderConversation type ∧ order.rider = none ∧ type ≠ .orderChat) ∧
          canResolveConversationForOrder currentUser order type then
        ((buildConversationParticipants currentUser order type).filter (· ≠ [])).map
          fun participants => ((orderId, type), participants)
      else none
  | publish _ _ currentUser input =>
    (SystemMessageService.eventParticipants currentUser
      (findOrderContextById db input.orderId)).map fun p => ((input.orderId, .orderChat), p.2)
  | _ => none

end ConversationCall

/-- The store, and the conversations resolved since their order's rider changed. -/
structure LaneState where
  db : Store
  resolved : Lane → Prop

def LaneState.start (db : Store) : LaneState := ⟨db, fun _ => False⟩

def ConversationCall.step (call : ConversationCall) (s : LaneState) : LaneState where
  db := call.run s.db
  resolved lane := (call.resolves s.db).map Prod.fst = some lane ∨
    s.resolved lane ∧ findAssignedRider (call.run s.db) lane.1 = findAssignedRider s.db lane.1

/-! ## Following the rider -/

/-- The user is the rider that the order is assigned to. -/
def IsCurrentRider (db : Store) (orderId : Id) (userId : Option Id) : Prop :=
  ∃ rider, findAssignedRider db orderId = some rider ∧ userId = some rider.userId

/-- The only rider who takes part in the conversation is the current one. -/
def OnlyCurrentRider (db : Store) (lane : Lane) : Prop :=
  ∀ participant ∈ listParticipants db lane.conversationId, participant.roleAtJoin = .rider →
    participant.leftAt = none → IsCurrentRider db lane.1 participant.userId

/-- The user has no access to the conversation, can send nothing to it and is told of nothing
in it. -/
structure ShutOut (conversation : ResolvedConversation) (userId : Id) : Prop where
  access : canAccessConversation userId conversation = false
  message : ∀ messageType, canSendMessage userId conversation messageType = false
  attachment : ∀ attachmentType, canSendAttachment userId conversation attachmentType = false
  receipt : userId ∉ MessageService.receiptUserIds conversation
  notification : ∀ actorUserId, userId ∉ resolveRecipientUserIds conversation actorUserId

/-- The conversation follows the rider: nobody else takes part as a rider, and whoever takes part
in no other role and is not the current rider is shut out. -/
structure FollowsRider (db : Store) (lane : Lane) : Prop where
  only : OnlyCurrentRider db lane
  shut : ∀ conversation userId, findResolvedById db lane.conversationId = some conversation →
    ¬ IsCurrentRider db lane.1 (some userId) →
    (∀ participant ∈ conversation.participants, participant.userId = some userId →
      participant.leftAt = none → participant.roleAtJoin = .rider) → ShutOut conversation userId

/-- Every conversation that has been resolved since its order's rider changed follows the rider. -/
def LaneState.FollowRiders (s : LaneState) : Prop := ∀ lane, s.resolved lane → FollowsRider s.db lane

/-- Every rider who takes part in the conversation that the call resolves is the current one, or
has a row that the call writes anew. -/
def ConversationCall.NoFormerRider (call : ConversationCall) (s : LaneState) : Prop :=
  ∀ lane participants, call.resolves s.db = some (lane, participants) →
    ∀ participant ∈ listParticipants s.db lane.conversationId, participant.roleAtJoin = .rider →
      participant.leftAt = none → IsCurrentRider s.db lane.1 participant.userId ∨
        participant.participantKey ∈ participants.map (·.participantKey)

/-- The participants' rows are where their keys say, and riders take part as users. -/
structure ParticipantsKeyed (db : Store) : Prop where
  key : ∀ id participant, db.get (.conversationParticipant, id) = some participant →
    id = participantId participant.conversationId participant.participantKey
  rider : ∀ id participant, db.get (.conversationParticipant, id) = some participant →
    participant.roleAtJoin = .rider → ∃ userId, participant.participantKey = .user userId

theorem mem_listParticipants {db : Store} {conversationId : Id}
    {participant : ConversationParticipant} :
    participant ∈ listParticipants db conversationId ↔
      ∃ id, db.get (.conversationParticipant, id) = some participant ∧
        participant.conversationId = conversationId := by
  simp only [listParticipants, List.mem_map, List.mem_insertionSort, Prod.exists, Db.mem_list,
    beq_iff_eq, exists_eq_right]

section Policies

variable {db : Store} {lane : Lane} {conversation : ResolvedConversation} {userId : Id}

/-- A user who does not take part is shut out. -/
theorem shutOut_of_absent (h : ∀ participant ∈ conversation.participants,
    participant.userId = some userId → participant.leftAt ≠ none) : ShutOut conversation userId := by
  have hactive : getActiveConversationParticipant userId conversation = none := by
    refine List.find?_eq_none.mpr fun participant hmem hfound => ?_
    rw [Bool.and_eq_true, beq_iff_eq, Option.isNone_iff_eq_none] at hfound
    exact h participant hmem hfound.1 hfound.2
  refine ⟨?_, fun _ => ?_, fun _ => ?_, fun hmem => ?_, fun actorUserId hmem => ?_⟩
  · rw [canAccessConversation, hactive, Option.isSome_none]
  · rw [canSendMessage, hactive, Option.any_none]
  · rw [canSendAttachment, hactive, Option.any_none]
  · obtain ⟨participant, hparticipant, huser⟩ := List.mem_filterMap.mp hmem
    obtain ⟨hmem', hleft⟩ := List.mem_filter.mp hparticipant
    exact h participant hmem' huser (Option.isNone_iff_eq_none.mp hleft)
  · obtain ⟨participant, hparticipant, huser⟩ := List.mem_filterMap.mp hmem
    obtain ⟨hmem', hleft⟩ := List.mem_filter.mp hparticipant
    rw [Bool.and_eq_true, Bool.and_eq_true, Option.isNone_iff_eq_none] at hleft
    exact h participant hmem' huser hleft.1.1

theorem OnlyCurrentRider.follows (h : OnlyCurrentRider db lane) : FollowsRider db lane := by
  refine ⟨h, fun conversation userId hfound hnot hrider => ?_⟩
  obtain ⟨row, -, rfl⟩ := Option.map_eq_some_iff.mp hfound
  refine shutOut_of_absent fun participant hmem huser hleft => hnot ?_
  rw [← huser]
  exact h participant hmem (hrider participant hmem huser hleft) hleft

end Policies

/-! ## Who is let join -/

theorem mem_foldl_setParticipant {spec : ConversationParticipantSpec}
    (participants : List ConversationParticipantSpec) :
    ∀ {entries : List ConversationParticipantSpec},
      spec ∈ participants.foldl setParticipant entries → spec ∈ entries ∨ spec ∈ participants := by
  induction participants with
  | nil => exact fun h => .inl h
  | cons participant participants ih =>
    intro entries h
    rw [List.mem_cons]
    rcases ih h with h | h
    · rw [setParticipant] at h
      split at h
      · obtain ⟨entry, hentry, rfl⟩ := List.mem_map.mp h
        by_cases hkey : entry.participantKey = participant.participantKey
        · exact .inr (.inl (if_pos hkey))
        · rw [if_neg hkey]
          exact .inl hentry
      · rcases List.mem_append.mp h with h | h
        · exact .inl h
        · exact .inr (.inl (List.mem_singleton.mp h))
    · exact .inr (.inr h)

/-- Whoever of the operations joins, joins as what the account is. -/
theorem operationsParticipant_role {currentUser : AuthenticatedUser}
    {spec : ConversationParticipantSpec} (h : spec ∈ operationsParticipant currentUser) :
    spec.roleAtJoin = .admin ∨ spec.roleAtJoin = .support := by
  rw [operationsParticipant] at h
  split at h
  · next hadd =>
    obtain rfl := List.mem_singleton.mp h
    simp only [shouldAddOperationsParticipant, isOperationsActor, Bool.and_eq_true, Bool.or_eq_true,
      beq_iff_eq] at hadd
    rcases hadd.1 with hrole | hrole
    · exact .inl (congrArg toParticipantRole hrole)
    · exact .inr (congrArg toParticipantRole hrole)
  · cases h

/-- Whoever joins as a rider is the order's rider. -/
theorem rider_of_pushed {currentUser : AuthenticatedUser} {order : ConversationOrderContext}
    {type : ConversationType} {participants : List ConversationParticipantSpec}
    (hpushed : pushedParticipants currentUser order type = some participants)
    {spec : ConversationParticipantSpec} (hspec : spec ∈ participants)
    (hrole : spec.roleAtJoin = .rider) :
    ∃ rider, order.rider = some rider ∧ spec = riderParticipant rider := by
  have hops : spec ∉ operationsParticipant currentUser := fun hmem => by
    rcases operationsParticipant_role hmem with h | h <;> rw [hrole] at h <;> cases h
  have hno : ∀ other : ConversationParticipantSpec, other.roleAtJoin ≠ .rider → spec ≠ other := by
    rintro other hother rfl
    exact hother hrole
  unfold pushedParticipants at hpushed
  split at hpushed <;> cases hpushed <;>
    simp [hops, hno, customerParticipant, merchantParticipant, buildUserParticipant,
      buildSystemParticipant, includesSystemParticipant] at hspec
  all_goals exact ⟨_, by assumption, hspec⟩

theorem rider_of_build {currentUser : AuthenticatedUser} {order : ConversationOrderContext}
    {type : ConversationType} {participants : List ConversationParticipantSpec}
    (hbuild : buildConversationParticipants currentUser order type = some participants)
    {spec : ConversationParticipantSpec} (hspec : spec ∈ participants)
    (hrole : spec.roleAtJoin = .rider) :
    ∃ rider, order.rider = some rider ∧ spec = riderParticipant rider := by
  rw [buildConversationParticipants] at hbuild
  split at hbuild
  · cases hbuild
  · obtain ⟨pushed, hpushed, rfl⟩ := Option.map_eq_some_iff.mp hbuild
    rcases mem_foldl_setParticipant pushed hspec with h | h
    · cases h
    · exact rider_of_pushed hpushed h hrole

theorem of_findOrderContextById {db : Store} {orderId : Id}
    {order : ConversationOrderContext} (h : findOrderContextById db orderId = some order) :
    order.orderId = orderId ∧ order.rider = findAssignedRider db orderId := by
  simp only [findOrderContextById, Option.bind_eq_bind, Option.bind_eq_some_iff, Option.pure_def,
    Option.some.injEq] at h
  obtain ⟨_, _, _, _, _, _, _, _, rfl⟩ := h
  exact ⟨rfl, rfl⟩

theorem eventParticipants_eq_some {currentUser : AuthenticatedUser}
    {found : Option ConversationOrderContext} {order : ConversationOrderContext}
    {participants : List ConversationParticipantSpec}
    (h : SystemMessageService.eventParticipants currentUser found = some (order, participants)) :
    found = some order ∧
      buildConversationParticipants currentUser order .orderChat = some participants := by
  simp only [SystemMessageService.eventParticipants, Option.bind_eq_bind,
    Option.bind_eq_some_iff, Option.pure_def, Option.some.injEq, Prod.mk.injEq] at h
  obtain ⟨order, hfound, participants, hbuild, rfl, rfl⟩ := h
  exact ⟨hfound, (Option.filter_eq_some_iff.mp hbuild).1⟩

/-- Whom a resolution lets join are the participants of the order as it is. -/
theorem ConversationCall.resolves_eq_some {call : ConversationCall} {db : Store} {lane : Lane}
    {participants : List ConversationParticipantSpec}
    (h : call.resolves db = some (lane, participants)) :
    ∃ currentUser order, order.rider = findAssignedRider db lane.1 ∧
      buildConversationParticipants currentUser order lane.2 = some participants := by
  cases call with
  | resolve currentUser orderId type now =>
    obtain ⟨order, horder, h⟩ := Option.bind_eq_some_iff.mp h
    split at h
    · obtain ⟨participants, hbuild, hpair⟩ := Option.map_eq_some_iff.mp h
      cases hpair
      exact ⟨currentUser, order, (of_findOrderContextById horder).2,
        (Option.filter_eq_some_iff.mp hbuild).1⟩
    · cases h
  | publish messageId now currentUser input =>
    obtain ⟨⟨order, participants⟩, hevent, hpair⟩ := Option.map_eq_some_iff.mp h
    cases hpair
    obtain ⟨horder, hbuild⟩ := eventParticipants_eq_some hevent
    exact ⟨currentUser, order, (of_findOrderContextById horder).2, hbuild⟩
  | order call => cases h
  | send messageId now currentUser dto => cases h
  | prune conversationId => cases h

/-! ## What a resolution writes -/

/-- The tables of the conversations. -/
def IsChatTable (t : Tbl) : Prop := t = .conversation ∨ t = .conversationParticipant ∨ t = .message

/-- Everyone in the list has joined the conversation, and nothing else has changed. -/
structure Joined (conversationId : Id) (participants : List ConversationParticipantSpec) (now : Date)
    (db db' : Store) : Prop where
  rows : ∀ id, db'.get (.conversationParticipant, id) = db.get (.conversationParticipant, id) ∧
      (∀ spec ∈ participants, id ≠ participantId conversationId spec.participantKey) ∨
    ∃ spec ∈ participants, id = participantId conversationId spec.participantKey ∧ ∃ old,
      db'.get (.conversationParticipant, id) =
        some (upsertedParticipant conversationId spec now old)
  others : Db.SameOn (fun t => ¬ IsChatTable t) db db'

section Resolution

variable {db db' : Store} {conversationId : Id} {now : Date}
  {participants : List ConversationParticipantSpec}

theorem upsertParticipants_run (conversationId : Id) (now : Date)
    (participants : List ConversationParticipantSpec) :
    ∀ db : Store, ∃ db', (upsertParticipants conversationId now participants).run db =
      .ok ((), db') ∧ Joined conversationId participants now db db' ∧
        Db.SameOn (· ≠ .conversationParticipant) db db' := by
  induction participants with
  | nil =>
    exact fun db => ⟨db, rfl, ⟨fun _ => .inl ⟨rfl, fun _ h => by cases h⟩, .refl _⟩, .refl _⟩
  | cons spec participants ih =>
    intro db
    set id₀ := participantId conversationId spec.participantKey with hid₀
    set old := db.get (.conversationParticipant, id₀) with hold
    set db₁ := db.put ⟨.conversationParticipant, id₀,
      some (upsertedParticipant conversationId spec now old)⟩ with hdb₁
    obtain ⟨db', hrun, hjoined, hsame⟩ := ih db₁
    have hfirst : Db.SameOn (· ≠ .conversationParticipant) db db₁ :=
      fun t ht => (Db.rows_put_ne db ht).symm
    refine ⟨db', hrun, ⟨fun id => ?_, fun t ht => ?_⟩, hfirst.trans hsame⟩
    · rcases hjoined.rows id with ⟨hkept, hno⟩ | ⟨other, hother, hid, hrow⟩
      · by_cases hid : id = id₀
        · subst hid
          refine .inr ⟨spec, List.mem_cons_self, rfl, old, ?_⟩
          rw [hkept]
          exact Db.get_put_self db ⟨.conversationParticipant, id₀, some _⟩
        · refine .inl ⟨?_, List.forall_mem_cons.mpr ⟨hid, hno⟩⟩
          rw [hkept]
          exact Db.get_put_ne _ fun hkey => hid (congrArg Prod.snd hkey)
      · exact .inr ⟨other, List.mem_cons_of_mem _ hother, hid, hrow⟩
    · have hne : t ≠ .conversationParticipant := fun h => ht (.inr (.inl h))
      exact (hfirst t hne).trans (hjoined.others t ht)

/-- A resolution commits, and returns the conversation as it is then. -/
theorem resolve_run_found (lane : Lane) (title : String) (now : Date)
    (participants : List ConversationParticipantSpec) (db : Store) :
    ∃ row db', (ConversationRepository.resolve lane.1 lane.2 title participants now).run db =
        .ok (buildResolvedConversation db' lane.conversationId row, db') ∧
      db'.get (.conversation, lane.conversationId) = some row ∧
      Joined lane.conversationId participants now db db' ∧
      Db.SameOn (fun t => t ≠ .conversation ∧ t ≠ .conversationParticipant) db db' := by
  set row := upsertedConversation lane.1 lane.2 title now
    (db.get (.conversation, lane.conversationId)) with hrow
  set db₁ := db.put ⟨.conversation, lane.conversationId, some row⟩ with hdb₁
  obtain ⟨db', hrun, hjoined, hsame⟩ :=
    upsertParticipants_run lane.conversationId now participants db₁
  have hfound : db'.get (.conversation, lane.conversationId) = some row := by
    rw [← hsame.get (k := (.conversation, lane.conversationId)) (by simp)]
    exact Db.get_put_self db ⟨.conversation, lane.conversationId, some row⟩
  refine ⟨row, db', ?_, hfound, ⟨fun id => ?_, fun t ht => ?_⟩, fun t ht => ?_⟩
  · have hread : findResolvedById db' lane.conversationId =
        some (buildResolvedConversation db' lane.conversationId row) := by
      rw [findResolvedById, hfound, Option.map_some]
    have hrest : (do
        upsertParticipants lane.conversationId now participants
        let conversation ← .read fun db => findResolvedById db lane.conversationId
        .orFail conversation .recordNotFound : StoreTx ResolvedConversation).run db₁ =
        .ok (buildResolvedConversation db' lane.conversationId row, db') := by
      rw [Tx.bind_eq, Tx.run_bind, hrun, Except.bind, Tx.bind_eq, Tx.run_bind, Tx.run_read,
        Except.bind, hread]
      rfl
    exact hrest
  · rcases hjoined.rows id with ⟨hkept, hno⟩ | hrow
    · refine .inl ⟨hkept.trans ?_, hno⟩
      exact Db.get_put_ne _ fun hkey => by cases hkey
    · exact .inr hrow
  · have hne : t ≠ .conversation := fun h => ht (.inl h)
    exact (Db.rows_put_ne db hne).symm.trans (hjoined.others t ht)
  · exact (Db.rows_put_ne db ht.1).symm.trans (hsame t ht.2)

/-- A resolution commits. -/
theorem resolve_run (lane : Lane) (title : String) (now : Date)
    (participants : List ConversationParticipantSpec) (db : Store) :
    ∃ conversation db', (ConversationRepository.resolve lane.1 lane.2 title participants now).run db =
      .ok (conversation, db') ∧ Joined lane.conversationId participants now db db' := by
  obtain ⟨row, db', hrun, -, hjoined, -⟩ := resolve_run_found lane title now participants db
  exact ⟨_, db', hrun, hjoined⟩

/-- A user's resolution lets join whom the policies let, or changes nothing. -/
theorem resolve_ends (currentUser : AuthenticatedUser) (orderId : Id) (type : ConversationType)
    (now : Date) (db : Store) :
    (ConversationService.resolve currentUser orderId type now).Ends db fun _ db' =>
      match (ConversationCall.resolve currentUser orderId type now).resolves db with
      | some (lane, participants) => Joined lane.conversationId participants now db db'
      | none => db' = db := by
  refine .get_bind (.orFail_bind (fun order horder => .require_bind (fun hlane =>
    .require_bind (fun hcan => .orFail_bind (fun participants hbuild => ?_) fun hbuild => ?_)
      fun hcan => ?_) fun hlane => ?_) fun horder => ?_) <;>
    simp only [ConversationCall.resolves, horder, Option.bind_some, Option.bind_none]
  · obtain ⟨conversation, after, hrun, hjoined⟩ := resolve_run (orderId, type)
      (buildConversationTitle order type) now participants db
    rw [if_pos ⟨hlane, hcan⟩, hbuild, (of_findOrderContextById horder).1]
    refine .transaction (fun a db' h => ?_) fun e h => ?_
    · cases h.symm.trans hrun
      exact hjoined
    · cases h.symm.trans hrun
  · rw [if_pos ⟨hlane, hcan⟩, hbuild]
    exact True.intro
  · rw [if_neg fun h => hcan h.2]
    exact True.intro
  · rw [if_neg fun h => hlane h.1]
    exact True.intro

/-- A message in the conversation is no participant's row. -/
theorem Joined.create (h : Joined conversationId participants now db db') {messageId : Id}
    {payload : CreateMessageInput} {message : SentMessage} {after : Store}
    (hcreate : (MessageRepository.create messageId now payload).run db' = .ok (message, after)) :
    Joined conversationId participants now db after := by
  obtain ⟨conversation, rfl⟩ := create_run_ok hcreate
  have hsame : Db.SameOn (fun t => t ≠ .message ∧ t ≠ .conversation) db'
      ((db'.put ⟨.message, messageId, some (MessageRepository.newMessage payload now)⟩).put
        ⟨.conversation, payload.conversationId, some conversation⟩) := fun t ht => by
    rw [Db.rows_put_ne _ ht.2, Db.rows_put_ne _ ht.1]
  refine ⟨fun id => ?_, fun t ht => (h.others t ht).trans
    (hsame t ⟨fun heq => ht (.inr (.inr heq)), fun heq => ht (.inl heq)⟩)⟩
  rw [← hsame.get (by simp)]
  exact h.rows id

/-- An event of an order lets join whom the policies let, or changes nothing. The message that
follows is no participant's row. -/
theorem publishOrderEvent_ends (messageId : Id) (now : Date) (currentUser : AuthenticatedUser)
    (input : SystemMessageService.PublishOrderEventInput) (db : Store) :
    (SystemMessageService.publishOrderEvent messageId now currentUser input).Ends db fun _ db' =>
      match (ConversationCall.publish messageId now currentUser input).resolves db with
      | some (lane, participants) => Joined lane.conversationId participants now db db'
      | none => db' = db := by
  refine .get_bind ?_
  rw [ConversationCall.resolves]
  rcases hevent : SystemMessageService.eventParticipants currentUser
    (findOrderContextById db input.orderId) with _ | ⟨order, participants⟩
  · exact .ret rfl
  · have horder : order.orderId = input.orderId :=
      (of_findOrderContextById (eventParticipants_eq_some hevent).1).1
    obtain ⟨conversation, after, hrun, hjoined⟩ := resolve_run
      (input.orderId, .orderChat) (buildConversationTitle order .orderChat) now participants db
    simp only [Option.map_some]
    rw [SystemMessageService.publishToParticipants, horder]
    refine .tx (fun a db₁ h => ?_) fun e h => ?_
    · cases h.symm.trans hrun
      refine .tx (fun message db' hcreate => .ret ?_) fun e _ => .ret hjoined
      exact hjoined.create hcreate
    · cases h.symm.trans hrun

end Resolution

/-! ## One operation -/

section Steps

variable {db db' : Store} {lane : Lane} {participants : List ConversationParticipantSpec}

theorem amend_restock_participant (d : WithZero ℤ) (id : Id) (participant : ConversationParticipant) :
    amend restock d (.conversationParticipant, id) participant = participant := by
  cases d <;> rfl

/-- The operations on an order and its delivery leave the participants as they are. -/
theorem OrderStep.participant {call : OrderCall} {start : Store} (h : OrderStep call start db db')
    (id : Id) :
    db'.get (.conversationParticipant, id) = db.get (.conversationParticipant, id) := by
  cases h with
  | status horder hfrom hmoves hchanged =>
    cases hget : db.get (.conversationParticipant, id) with
    | none =>
      have hsome := hchanged.isSome (.conversationParticipant, id)
      rwa [hget, Option.isSome_none, Option.isSome_eq_false_iff, Option.isNone_iff_eq_none] at hsome
    | some participant =>
      have hrow := hchanged.rows (.conversationParticipant, id) (by simp) (by rw [hget]; rfl)
      rwa [hget, Option.map_some, amend_restock_participant] at hrow
  | rider => rw [Db.get_put_ne _ (by simp [Write.key]), Db.get_put_ne _ (by simp [Write.key])]
  | reset => rw [Db.get_put_ne _ (by simp [Write.key]), Db.get_put_ne _ (by simp [Write.key])]
  | assign => rw [Db.get_put_ne _ (by simp [Write.key]), Db.get_put_ne _ (by simp [Write.key])]
  | attempt => exact Db.get_put_ne _ (by simp [Write.key])
  | rest hrest _ => exact hrest _ (by simp) (by simp)

theorem OrderCall.participant (call : OrderCall) (db : Store) (id : Id) :
    (call.run db).get (.conversationParticipant, id) =
      db.get (.conversationParticipant, id) := by
  have hsteps : ∀ {db'}, OrderSteps call db db db' →
      db'.get (.conversationParticipant, id) = db.get (.conversationParticipant, id) := by
    intro db' h
    induction h with
    | refl => rfl
    | tail _ hstep ih => exact (hstep.participant id).trans ih
  exact hsteps (call.run_steps db)

/-- A call that resolves a conversation lets its people join. -/
theorem ConversationCall.joined {call : ConversationCall}
    (h : call.resolves db = some (lane, participants)) :
    ∃ now, Joined lane.conversationId participants now db (call.run db) := by
  cases call with
  | resolve currentUser orderId type now =>
    have hends := (resolve_ends currentUser orderId type now db).run
    rw [h] at hends
    exact ⟨now, hends⟩
  | publish messageId now currentUser input =>
    have hends := (publishOrderEvent_ends messageId now currentUser input db).run
    rw [h] at hends
    exact ⟨now, hends⟩
  | order call => cases h
  | send messageId now currentUser dto => cases h
  | prune conversationId => cases h

/-- Any other call leaves the participants as they are. -/
theorem ConversationCall.participant {call : ConversationCall} (h : call.resolves db = none)
    (id : Id) : (call.run db).get (.conversationParticipant, id) =
      db.get (.conversationParticipant, id) := by
  cases call with
  | resolve currentUser orderId type now =>
    have hends := (resolve_ends currentUser orderId type now db).run
    rw [h] at hends
    exact congrArg (fun db : Store => db.get (.conversationParticipant, id)) hends
  | publish messageId now currentUser input =>
    have hends := (publishOrderEvent_ends messageId now currentUser input db).run
    rw [h] at hends
    exact congrArg (fun db : Store => db.get (.conversationParticipant, id)) hends
  | order call => exact call.participant db id
  | send messageId now currentUser dto =>
    exact ((send_sameOn messageId now currentUser dto db).1.get (by simp)).symm
  | prune conversationId => exact ((pruneOldMessages_sameOn conversationId 20 db).get (by simp)).symm

/-- The rows stay where their keys say. -/
theorem ParticipantsKeyed.run (h : ParticipantsKeyed db) (call : ConversationCall) :
    ParticipantsKeyed (call.run db) := by
  cases hresolves : call.resolves db with
  | none =>
    have hsame := ConversationCall.participant hresolves
    refine ⟨fun id participant hget => ?_, fun id participant hget => ?_⟩
    · exact h.key id participant ((hsame id).symm.trans hget)
    · exact h.rider id participant ((hsame id).symm.trans hget)
  | some p =>
    obtain ⟨lane, participants⟩ := p
    obtain ⟨now, hjoined⟩ := ConversationCall.joined hresolves
    obtain ⟨currentUser, order, -, hbuild⟩ := ConversationCall.resolves_eq_some hresolves
    refine ⟨fun id participant hget => ?_, fun id participant hget hrole => ?_⟩ <;>
      rcases hjoined.rows id with ⟨hkept, -⟩ | ⟨spec, hspec, hid, old, hrow⟩
    · exact h.key id participant (hkept.symm.trans hget)
    · cases hget.symm.trans hrow
      exact hid
    · exact h.rider id participant (hkept.symm.trans hget) hrole
    · cases hget.symm.trans hrow
      obtain ⟨rider, -, rfl⟩ := rider_of_build hbuild hspec hrole
      exact ⟨rider.userId, rfl⟩

theorem OnlyCurrentRider.congr (h : OnlyCurrentRider db lane)
    (hrows : ∀ id participant, db'.get (.conversationParticipant, id) = some participant →
      participant.conversationId = lane.conversationId →
        db.get (.conversationParticipant, id) = some participant)
    (hrider : findAssignedRider db' lane.1 = findAssignedRider db lane.1) :
    OnlyCurrentRider db' lane := by
  intro participant hmem hrole hleft
  obtain ⟨id, hget, hof⟩ := mem_listParticipants.mp hmem
  rw [IsCurrentRider, hrider]
  exact h participant (mem_listParticipants.mpr ⟨id, hrows id participant hget hof, hof⟩) hrole hleft

theorem Lane.conversationId_inj {lane lane' : Lane}
    (h : lane.conversationId = lane'.conversationId) : lane = lane' := by
  obtain ⟨horder, htype⟩ := Nat.pair_eq_pair.mp h
  refine Prod.ext horder ?_
  cases htypes : lane.2 <;> cases htypes' : lane'.2 <;> rw [htypes, htypes'] at htype <;>
    first | rfl | cases htype

theorem participantId_user_inj {conversationId userId : Id} {key : ParticipantKey}
    (h : participantId conversationId (.user userId) = participantId conversationId key) :
    .user userId = key := by
  have hindex := (Nat.pair_eq_pair.mp h).2
  cases key with
  | user userId' =>
    have hdouble : 2 * userId = 2 * userId' := hindex
    exact congrArg ParticipantKey.user (Nat.eq_of_mul_eq_mul_left two_pos hdouble)
  | system name =>
    have hodd : (2 * userId : ℕ) = (1 : ℕ) := hindex
    omega

theorem findAssignedRider_congr (h : Db.SameOn (fun t => ¬ IsChatTable t) db db') (orderId : Id) :
    findAssignedRider db' orderId = findAssignedRider db orderId := by
  have hget : ∀ riderId : Id, db'.get (.rider, riderId) = db.get (.rider, riderId) :=
    fun _ => (h.get (by simp [IsChatTable])).symm
  rw [findAssignedRider, findAssignedRider, DeliveriesRepository.findByOrderId,
    DeliveriesRepository.findByOrderId, h.list (by simp [IsChatTable])]
  simp only [hget]

/-- After a resolution, the rider is the only one who takes part as a rider if and only if every
other rider before had a row that was written anew. -/
theorem Joined.onlyCurrentRider_iff {call : ConversationCall} (hkeyed : ParticipantsKeyed db)
    (h : call.resolves db = some (lane, participants)) {now : Date}
    (hjoined : Joined lane.conversationId participants now db db') :
    OnlyCurrentRider db' lane ↔ ∀ participant ∈ listParticipants db lane.conversationId,
      participant.roleAtJoin = .rider → participant.leftAt = none →
        IsCurrentRider db lane.1 participant.userId ∨
          participant.participantKey ∈ participants.map (·.participantKey) := by
  obtain ⟨currentUser, order, horder, hbuild⟩ := ConversationCall.resolves_eq_some h
  have hrider : findAssignedRider db' lane.1 = findAssignedRider db lane.1 :=
    findAssignedRider_congr hjoined.others lane.1
  constructor
  · intro honly participant hmem hrole hleft
    obtain ⟨id, hget, hof⟩ := mem_listParticipants.mp hmem
    rcases hjoined.rows id with ⟨hkept, -⟩ | ⟨spec, hspec, hid, -⟩
    · left
      rw [IsCurrentRider, ← hrider]
      exact honly participant (mem_listParticipants.mpr ⟨id, hkept.trans hget, hof⟩) hrole hleft
    · right
      obtain ⟨userId, hkey⟩ := hkeyed.rider id participant hget hrole
      refine List.mem_map.mpr ⟨spec, hspec, ?_⟩
      -- the row is at the place of the participant's key and of the other's
      rw [hkeyed.key id participant hget, hof, hkey] at hid
      rw [hkey]
      exact (participantId_user_inj hid).symm
  · intro hall participant hmem hrole hleft
    rw [IsCurrentRider, hrider]
    obtain ⟨id, hget, hof⟩ := mem_listParticipants.mp hmem
    rcases hjoined.rows id with ⟨hkept, hno⟩ | ⟨spec, hspec, -, old, hrow⟩
    · have hget' := hkept.symm.trans hget
      refine (hall participant (mem_listParticipants.mpr ⟨id, hget', hof⟩) hrole hleft).resolve_right
        fun hkey => ?_
      obtain ⟨spec, hspec, hkey⟩ := List.mem_map.mp hkey
      exact hno spec hspec (by rw [hkeyed.key id participant hget', hof, hkey])
    · cases hget.symm.trans hrow
      obtain ⟨rider, hassigned, rfl⟩ := rider_of_build hbuild hspec hrole
      exact ⟨rider, horder.symm.trans hassigned, rfl⟩

theorem LaneState.FollowRiders.step_iff {s : LaneState} (hkeyed : ParticipantsKeyed s.db)
    (hfollow : s.FollowRiders) (call : ConversationCall) :
    (call.step s).FollowRiders ↔ call.NoFormerRider s := by
  cases hresolves : call.resolves s.db with
  | none =>
    have hsame := ConversationCall.participant hresolves
    refine iff_of_true (fun lane hlane => ?_) fun lane participants h => ?_
    · simp only [ConversationCall.step, hresolves, Option.map_none, reduceCtorEq, false_or] at hlane
      exact ((hfollow lane hlane.1).only.congr
        (fun id participant hget _ => (hsame id).symm.trans hget) hlane.2).follows
    · rw [hresolves] at h
      cases h
  | some p =>
    obtain ⟨lane, participants⟩ := p
    obtain ⟨now, hjoined⟩ := ConversationCall.joined hresolves
    have hlane := hjoined.onlyCurrentRider_iff hkeyed hresolves
    have hresolved : (call.step s).resolved lane :=
      .inl (by rw [hresolves, Option.map_some])
    constructor
    · intro h lane' participants' h'
      rw [hresolves] at h'
      cases h'
      exact hlane.mp (h lane hresolved).only
    · intro hno lane' hlane'
      refine OnlyCurrentRider.follows ?_
      by_cases heq : lane' = lane
      · subst heq
        exact hlane.mpr (hno lane' participants hresolves)
      · -- the rows of another conversation are as they were
        simp only [ConversationCall.step, hresolves, Option.map_some, Option.some.injEq,
          Ne.symm heq, false_or] at hlane'
        refine (hfollow lane' hlane'.1).only.congr (fun id participant hget hof => ?_) hlane'.2
        rcases hjoined.rows id with ⟨hkept, -⟩ | ⟨spec, -, -, old, hrow⟩
        · exact hkept.symm.trans hget
        · cases hget.symm.trans hrow
          exact absurd (Lane.conversationId_inj hof).symm heq

end Steps

/-! ## Runs -/

/-- Every conversation resolved since its order's rider changed follows the rider, in every state
that a sequence of operations goes through, if and only if none of them resolves a conversation
that a former rider has joined, but for riders whose rows it writes anew. -/
theorem rider_access_iff {db : Store} (hkeyed : ParticipantsKeyed db)
    (calls : List ConversationCall) :
    Always ConversationCall.step LaneState.FollowRiders calls (.start db) ↔
      MeetAll ConversationCall.step ConversationCall.NoFormerRider calls (.start db) := by
  have hkeep : ∀ (call : ConversationCall) (s : LaneState), ParticipantsKeyed s.db → True →
      ParticipantsKeyed (call.step s).db := fun call _ hkeyed _ => hkeyed.run call
  exact always_iff_meetAll hkeep
    (fun call _ hkeyed _ hfollow => LaneState.FollowRiders.step_iff hkeyed hfollow call) calls
    hkeyed (fun _ h => h.elim) (.of_forall (fun _ _ => True.intro) calls _)

theorem twoRiderShop_keyed : ParticipantsKeyed twoRiderShop := by
  have hempty : ∀ id, twoRiderShop.get (.conversationParticipant, id) = none := by
    intro id
    have hlist : twoRiderShop.list .conversationParticipant (fun _ => true) = [] := by decide
    rw [Option.eq_none_iff_forall_not_mem]
    intro participant hget
    have hmem := Db.mem_list (p := fun _ => true) |>.mpr ⟨hget, rfl⟩
    rw [hlist] at hmem
    cases hmem
  refine ⟨fun id participant hget => ?_, fun id participant hget => ?_⟩ <;>
    · rw [hempty id] at hget
      cases hget

/-- The customer opens the order's chat, the rider rejects the delivery and another rider is
assigned, and the customer opens the chat again. -/
def chatUnderTwoRiders : List ConversationCall := [
  .order (.assignRider 1 teaAdmin 1 1 none none),
  .resolve teaCustomer 1 .orderChat 5,
  .order (.rider .reject teaRider ⟨1, none, none⟩),
  .order (.assignRider 1 teaAdmin 1 2 none none),
  .resolve teaCustomer 1 .orderChat 6]

/-- The rider who rejected the delivery still takes part in the chat. -/
theorem former_rider_stays : ParticipantsKeyed twoRiderShop ∧
    ¬ Always ConversationCall.step LaneState.FollowRiders chatUnderTwoRiders
      (.start twoRiderShop) := by
  refine ⟨twoRiderShop_keyed, fun halways => ?_⟩
  set db := runAll ConversationCall.run chatUnderTwoRiders twoRiderShop
  have hlast := halways.2.2.2.2.2 (1, .orderChat) (.inl (by decide +kernel))
  have hmem : upsertedParticipant (Lane.conversationId (1, .orderChat))
      (riderParticipant ⟨1, 40, ""⟩) 5 none ∈
        listParticipants db (Lane.conversationId (1, .orderChat)) := by decide +kernel
  obtain ⟨rider, hrider, huser⟩ := hlast.only _ hmem rfl rfl
  have hcurrent : (findAssignedRider db 1).map (·.userId) = some 41 := by decide +kernel
  have hrider' : findAssignedRider db 1 = some rider := hrider
  rw [hrider', Option.map_some] at hcurrent
  exact absurd (huser.trans hcurrent) (by decide)

/-- While one rider has the delivery, the chat follows the rider. -/
theorem rider_access_iff_oneRider : ParticipantsKeyed twoRiderShop ∧
    (Always ConversationCall.step LaneState.FollowRiders (chatUnderTwoRiders.take 2)
        (.start twoRiderShop) ↔
      MeetAll ConversationCall.step ConversationCall.NoFormerRider (chatUnderTwoRiders.take 2)
        (.start twoRiderShop)) :=
  ⟨twoRiderShop_keyed, rider_access_iff twoRiderShop_keyed _⟩

end WerTe
