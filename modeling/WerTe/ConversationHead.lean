import Mathlib.Data.Fin.VecNotation
import WerTe.ReadCommitted.History
import WerTe.Messages

/-!
# The newest message of a conversation

A message is created and shown as its conversation's last in one transaction, with the time it was
created at. Then the conversation's old messages are pruned: they are read, and deleted afterwards.

* `HeadLog`: what holds however creations and prunes interleave. The message that is shown is
  there, and so are the newest messages
* `conversation_head_newest_iff`: what is shown is the newest message just when the transaction that
  was last to commit had the newest message
-/

namespace WerTe

open ReadCommitted MessageRepository

/-! ## Creating and pruning -/

namespace MessageRepository

/-- `create`, with the prune that it sets off. What becomes of the prune is not looked at. -/
def createThenPrune (messageId : Id) (now : Date) (payload : CreateMessageInput) :
    StoreService SentMessage := do
  let sent ← .transaction (create messageId now payload)
  let _ ← (pruneOldMessages payload.conversationId 20).attempt
  .ret sent

end MessageRepository

structure CreateCall where
  messageId : Id
  now : Date
  payload : CreateMessageInput

namespace CreateCall

def message (call : CreateCall) : Message := newMessage call.payload call.now

def conversationId (call : CreateCall) : Id := call.payload.conversationId

def service (call : CreateCall) : StoreService SentMessage :=
  createThenPrune call.messageId call.now call.payload

/-- The conversation with the message as its last. -/
def shownIn (call : CreateCall) (conversation : Conversation) : Conversation :=
  { conversation with
    lastMessageId := some call.messageId, lastMessageAt := some call.now, updatedAt := call.now }

end CreateCall

/-! ## What has been sent -/

/-- The messages that a commit writes. -/
def insertedMessages (ws : List (Write Row)) : List (Id × Message) :=
  ws.filterMap fun
    | ⟨.message, id, row⟩ => row.map fun message => (id, message)
    | _ => none

/-- The messages ever sent in a conversation, whether they have been pruned or not. -/
def sentMessages {ι : Type} (db₀ : Store) (log : List (Event ι Row)) (conversationId : Id) :
    List (Id × Message) :=
  db₀.list .message (·.conversationId == conversationId) ++
    (log.flatMap fun e => insertedMessages e.writes).filter (·.2.conversationId == conversationId)

/-- The conversation shows the newest of the messages, and that message is there. -/
def HeadNewest (sent : List (Id × Message)) (conversationId : Id) (db : Store) : Prop :=
  ∀ conversation, db.get (.conversation, conversationId) = some conversation →
    (conversation.lastMessageId = none ∧ sent = []) ∨
      ∃ headId head, conversation.lastMessageId = some headId ∧
        db.get (.message, headId) = some head ∧ (headId, head) ∈ sent ∧
        ∀ row ∈ sent, newerThan (headId, head) row = true

/-- The 20 newest of the messages are there. -/
def NewestKept (sent : List (Id × Message)) (db : Store) : Prop :=
  ∀ row ∈ sent, (sent.countP fun other => !newerThan row other) < 20 →
    db.get (.message, row.1) = some row.2

/-- A commit that changes what a conversation shows. -/
def shows {ι : Type} (conversationId : Id) (e : Event ι Row) : Bool :=
  e.writes.any fun w => w.key == (.conversation, conversationId)

/-- The message is newer than those that its conversation has. -/
def SendsNewest (call : CreateCall) (db : Store) : Prop :=
  ∀ row ∈ db.list .message (·.conversationId == call.conversationId),
    newerThan (call.messageId, call.message) row = true

instance (call : CreateCall) (db : Store) : Decidable (SendsNewest call db) :=
  inferInstanceAs (Decidable (∀ row ∈ _, _))

/-! ## The order of messages -/

section Order

variable {a b c : Id × Message}

theorem newerThan_iff : newerThan a b = true ↔
    b.2.createdAt < a.2.createdAt ∨ b.2.createdAt = a.2.createdAt ∧ b.1 ≤ a.1 := by
  rw [newerThan, bne_iff_ne, Ne, Ordering.then_eq_gt, compare_gt_iff_gt, compare_gt_iff_gt,
    compare_eq_iff_eq]
  grind

theorem newerThan_refl (a : Id × Message) : newerThan a a = true :=
  newerThan_iff.mpr (.inr ⟨rfl, le_rfl⟩)

theorem newerThan_trans (hab : newerThan a b = true) (hbc : newerThan b c = true) :
    newerThan a c = true := by
  rw [newerThan_iff] at hab hbc ⊢
  grind

theorem newerThan_total (a b : Id × Message) : newerThan a b = true ∨ newerThan b a = true := by
  rw [newerThan_iff, newerThan_iff]
  grind

/-- No two messages with ids of their own are newer than each other. -/
theorem not_newerThan_of_ne (hne : a.1 ≠ b.1) (hab : newerThan a b = true) :
    newerThan b a = false := by
  rw [Bool.eq_false_iff, Ne, newerThan_iff]
  rw [newerThan_iff] at hab
  grind

/-- Some message is the newest. -/
theorem exists_newest {rows : List (Id × Message)} : rows ≠ [] →
    ∃ newest ∈ rows, ∀ row ∈ rows, newerThan newest row = true := by
  induction rows with
  | nil => exact fun h => absurd rfl h
  | cons first rest ih =>
    intro _
    by_cases hrest : rest = []
    · exact ⟨first, by simp, by simp [hrest, newerThan_refl]⟩
    · obtain ⟨newest, hmem, hnewest⟩ := ih hrest
      rcases newerThan_total first newest with h | h
      · refine ⟨first, by simp, List.forall_mem_cons.mpr ⟨newerThan_refl first, fun row hrow => ?_⟩⟩
        exact newerThan_trans h (hnewest row hrow)
      · exact ⟨newest, by simp [hmem], List.forall_mem_cons.mpr ⟨h, hnewest⟩⟩

theorem messagesOf_sorted (db : Store) (conversationId : Id) :
    (messagesOf db conversationId).Pairwise fun left right => newerThan left right = true := by
  have htotal : Std.Total fun left right : Id × Message => newerThan left right = true :=
    ⟨newerThan_total⟩
  have htrans : IsTrans (Id × Message) fun left right => newerThan left right = true :=
    ⟨fun _ _ _ => newerThan_trans⟩
  exact List.pairwise_insertionSort _ _

theorem mem_messagesOf {db : Store} {conversationId id : Id} {message : Message} :
    (id, message) ∈ messagesOf db conversationId ↔
      db.get (.message, id) = some message ∧ message.conversationId = conversationId := by
  rw [messagesOf, List.mem_insertionSort, Db.mem_list, beq_iff_eq]

theorem messagesOf_nodup (db : Store) (conversationId : Id) :
    ((messagesOf db conversationId).map Prod.fst).Nodup :=
  ((List.perm_insertionSort _ _).map _).nodup_iff.mpr (Db.list_nodup db .message _)

end Order

/-! ## Commits -/

/-- What a creation commits, and its prune by what it has read. -/
inductive HeadCommit (call : CreateCall) (reads : List Store) (db : Store) :
    List (Write Row) → Prop
  | create {conversation : Conversation} (hnew : db.get (.message, call.messageId) = none)
      (hget : db.get (.conversation, call.conversationId) = some conversation) :
    HeadCommit call reads db [⟨.message, call.messageId, some call.message⟩,
      ⟨.conversation, call.conversationId, some (call.shownIn conversation)⟩]
  | prune {read : Store} (hread : read ∈ reads) :
    HeadCommit call reads db ((staleMessages read call.conversationId 20).map fun id =>
      ⟨.message, id, none⟩)

/-- The write of a new message. -/
def IsNewMessage (w : Write Row) : Prop := w.table = .message ∧ w.row.isSome = true

section Commits

variable {R : Rely Row} {call : CreateCall} {reads : List Store} {seen db : Store}

theorem create_commits : (create call.messageId call.now call.payload).Relies R
    (fun _ _ ws db => HeadCommit call reads db ws) seen [] db := by
  refine .insertRow_bind fun db₁ hrel₁ hviolation => .updateExisting_bind (R.inv_right hrel₁)
    fun db₂ conversation hrel₂ hget => .ret fun db₃ hrel₃ => ?_
  have hnew : db₁.get (.message, call.messageId) = none := by
    rw [Db.apply_nil] at hviolation
    split at hviolation
    · cases hviolation
    · next habsent => exact Option.not_isSome_iff_eq_none.mp habsent
  have hkeep : db₁.get (.message, call.messageId) = db₃.get (.message, call.messageId) :=
    (R.agree hrel₂).trans (Db.Agree.left (R.agree hrel₃)) (Tbl.message, call.messageId)
      (by simp [Write.key])
  have hconversation : db₂.get (.conversation, call.conversationId) = some conversation :=
    (Db.get_apply_of_table (by simp)).symm.trans hget
  have hlocked : db₂.get (.conversation, call.conversationId) =
      db₃.get (.conversation, call.conversationId) :=
    R.agree hrel₃ (Tbl.conversation, call.conversationId) (by
      simp [Write.key, CreateCall.conversationId])
  exact .create (hkeep.symm.trans hnew) (hlocked.symm.trans hconversation)

theorem deleteMessages_commits {read : Store} (hread : read ∈ reads) :
    (deleteMessages (staleMessages read call.conversationId 20)).Relies R
      (fun _ _ ws db => HeadCommit call reads db ws) seen [] db := by
  intro db₁ _ b ws hq db₂ _
  dsimp only at hq
  split at hq
  · cases hq
    exact .prune hread
  · cases hq

/-- This is all that a creation and its prune commit. -/
theorem CreateCall.guarantees (call : CreateCall) :
    call.service.Guarantees R (fun reads _ ws db => HeadCommit call reads db ws) [] := by
  refine .transaction_bind (fun _ _ _ => create_commits) fun sent => .bind_ret (.attempt ?_)
  refine .get_bind fun read _ => .transaction fun _ _ _ => ?_
  exact deleteMessages_commits (List.mem_singleton_self read)

theorem deleteMessages_creates_none (ids : List Id) :
    (deleteMessages ids).Writes fun w => ¬ IsNewMessage w := by
  refine ⟨fun db b ws hq w hw => ?_, fun _ => True.intro⟩
  dsimp only at hq
  split at hq
  · cases hq
    obtain ⟨id, -, rfl⟩ := List.mem_map.mp hw
    simp [IsNewMessage]
  · cases hq

/-- A call creates one message. -/
theorem CreateCall.writesOnce (call : CreateCall) : call.service.WritesOnce IsNewMessage := by
  refine fun r => .bind (Service.ReadOnly.ofExcept r).writes fun sent => ?_
  refine .bind (.attempt (.bind (.get _) fun stale => ?_)) fun _ => .ret _
  exact .transaction (deleteMessages_creates_none stale)

end Commits

/-! ## After the commits so far -/

section Sent

variable {ι : Type} {db₀ : Store} {log : List (Event ι Row)} {e : Event ι Row}
  {call : CreateCall} {conversation : Conversation} {id : Id}

theorem sentMessages_snoc (conversationId : Id) :
    sentMessages db₀ (log ++ [e]) conversationId = sentMessages db₀ log conversationId ++
      (insertedMessages e.writes).filter (·.2.conversationId == conversationId) := by
  simp [sentMessages]

theorem conversationId_of_sent {row : Id × Message} {conversationId : Id}
    (h : row ∈ sentMessages db₀ log conversationId) : row.2.conversationId = conversationId := by
  rcases List.mem_append.mp h with h | h
  · exact eq_of_beq (Db.mem_list.mp h).2
  · exact eq_of_beq (List.mem_filter.mp h).2

theorem insertedMessages_create :
    insertedMessages [⟨.message, call.messageId, some call.message⟩,
      ⟨.conversation, call.conversationId, some (call.shownIn conversation)⟩] =
        [(call.messageId, call.message)] := rfl

theorem insertedMessages_prune (ids : List Id) :
    insertedMessages (ids.map fun id => ⟨.message, id, none⟩) = [] := by
  rw [insertedMessages, List.filterMap_map, List.filterMap_eq_nil_iff]
  exact fun _ _ => rfl

/-- A creation adds its message to those of its conversation. -/
theorem sentMessages_create (hwrites : e.writes = [⟨.message, call.messageId, some call.message⟩,
    ⟨.conversation, call.conversationId, some (call.shownIn conversation)⟩]) (conversationId : Id) :
    sentMessages db₀ (log ++ [e]) conversationId =
      if call.conversationId = conversationId then
        sentMessages db₀ log conversationId ++ [(call.messageId, call.message)]
      else sentMessages db₀ log conversationId := by
  rw [sentMessages_snoc, hwrites, insertedMessages_create]
  by_cases h : call.conversationId = conversationId
  · rw [if_pos h, List.filter_cons_of_pos (by exact beq_iff_eq.mpr h), List.filter_nil]
  · rw [if_neg h, List.filter_cons_of_neg (by exact fun hb => h (eq_of_beq hb)), List.filter_nil,
      List.append_nil]

theorem sentMessages_prune {ids : List Id}
    (hwrites : e.writes = ids.map fun id => ⟨.message, id, none⟩) (conversationId : Id) :
    sentMessages db₀ (log ++ [e]) conversationId = sentMessages db₀ log conversationId := by
  rw [sentMessages_snoc, hwrites, insertedMessages_prune, List.filter_nil, List.append_nil]

end Sent

/-- No conversation shows the message as its last. -/
def NotShown (id : Id) (db : Store) : Prop :=
  ∀ conversationId conversation, db.get (.conversation, conversationId) = some conversation →
    conversation.lastMessageId ≠ some id

/-- What conversations show is a message of theirs that is there. -/
def HeadThere (sent : List (Id × Message)) (conversationId : Id) (db : Store) : Prop :=
  ∀ conversation, db.get (.conversation, conversationId) = some conversation →
    (conversation.lastMessageId = none ∧ sent = []) ∨
      ∃ headId head, conversation.lastMessageId = some headId ∧
        db.get (.message, headId) = some head ∧ (headId, head) ∈ sent

theorem HeadNewest.there {sent : List (Id × Message)} {conversationId : Id} {db : Store}
    (h : HeadNewest sent conversationId db) : HeadThere sent conversationId db :=
  fun conversation hget => (h conversation hget).imp_right
    fun ⟨headId, head, hshown, hthere, hsent, _⟩ => ⟨headId, head, hshown, hthere, hsent⟩

/-- The last transaction that changed what a conversation shows had the newest message. -/
def LastSendNewest {ι : Type} (calls : ι → CreateCall) (log : List (Event ι Row))
    (conversationId : Id) : Prop :=
  ∀ e ∈ (log.filter (shows conversationId)).getLast?, SendsNewest (calls e.call) e.db

/-- After the commits so far. -/
structure HeadLog {ι : Type} (calls : ι → CreateCall) (db₀ : Store) (log : List (Event ι Row))
    (db : Store) : Prop where
  /-- a message is one of db₀ or of a call that has committed it -/
  ids : ∀ c, ∀ row ∈ sentMessages db₀ log c, (db₀.get (.message, row.1)).isSome ∨
    ∃ e ∈ log, e.Marks IsNewMessage ∧ row.1 = (calls e.call).messageId
  /-- no two messages have one id -/
  unique : ∀ c c', ∀ row ∈ sentMessages db₀ log c, ∀ row' ∈ sentMessages db₀ log c',
    row.1 = row'.1 → row = row'
  /-- whatever was there at some time has been sent -/
  past : ∀ old, Past db₀ log old → ∀ id message, old.get (.message, id) = some message →
    (id, message) ∈ sentMessages db₀ log message.conversationId
  /-- a message that was not shown at some time is not shown any more -/
  passed : ∀ old, Past db₀ log old → ∀ id, (old.get (.message, id)).isSome = true →
    NotShown id old → NotShown id db
  there : ∀ c, HeadThere (sentMessages db₀ log c) c db
  kept : ∀ c, NewestKept (sentMessages db₀ log c) db
  newest : ∀ c, HeadNewest (sentMessages db₀ log c) c db ↔ LastSendNewest calls log c

theorem HeadLog.start {ι : Type} {calls : ι → CreateCall} {db₀ : Store}
    (hstart : ∀ c, HeadNewest (sentMessages db₀ ([] : List (Event ι Row)) c) c db₀) :
    HeadLog calls db₀ [] db₀ := by
  have hsent : ∀ c row, row ∈ sentMessages db₀ ([] : List (Event ι Row)) c ↔
      db₀.get (.message, row.1) = some row.2 ∧ row.2.conversationId = c := by
    intro c row
    rw [sentMessages, List.flatMap_nil, List.filter_nil, List.append_nil, Db.mem_list, beq_iff_eq]
  have hpast : ∀ {old : Store}, Past db₀ ([] : List (Event ι Row)) old → old = db₀ :=
    fun h => h.resolve_right (by simp)
  refine ⟨fun c row hrow => ?_, fun c c' row hrow row' hrow' hid => ?_, ?_, ?_,
    fun c => (hstart c).there, fun c row hrow _ => ((hsent c row).mp hrow).1, fun c => ?_⟩
  · exact .inl (by rw [((hsent c row).mp hrow).1]; rfl)
  · have hget := ((hsent c row).mp hrow).1
    rw [hid] at hget
    exact Prod.ext hid (Option.some.inj (hget.symm.trans ((hsent c' row').mp hrow').1))
  · rintro old hold id message hget
    rw [hpast hold] at hget
    exact (hsent _ _).mpr ⟨hget, rfl⟩
  · rintro old hold id - hnot
    rwa [hpast hold] at hnot
  · exact iff_of_true (hstart c) (by simp [LastSendNewest])

section Steps

variable {ι : Type} {calls : ι → CreateCall} {db₀ : Store} {log : List (Event ι Row)} {db : Store}

/-- Every message sent is no newer than one that is there. -/
theorem HeadLog.newest_there (h : HeadLog calls db₀ log db) {c : Id} {row : Id × Message}
    (hrow : row ∈ sentMessages db₀ log c) :
    ∃ newest ∈ db.list .message (·.conversationId == c), newerThan newest row = true := by
  obtain ⟨newest, hmem, hnewest⟩ := exists_newest (List.ne_nil_of_mem hrow)
  have hthere : db.get (.message, newest.1) = some newest.2 := by
    refine h.kept c newest hmem ?_
    rw [List.countP_eq_zero.mpr fun other hother => by simp [hnewest other hother]]
    decide
  exact ⟨newest, Db.mem_list.mpr ⟨hthere, beq_iff_eq.mpr (conversationId_of_sent hmem)⟩,
    hnewest row hrow⟩

theorem lastSendNewest_shows {e : Event ι Row} {c : Id} (he : shows c e = true) :
    LastSendNewest calls (log ++ [e]) c ↔ SendsNewest (calls e.call) e.db := by
  rw [LastSendNewest, List.filter_append, List.filter_cons_of_pos he, List.filter_nil,
    List.getLast?_concat]
  simp

theorem lastSendNewest_not_shows {e : Event ι Row} {c : Id} (he : shows c e = false) :
    LastSendNewest calls (log ++ [e]) c ↔ LastSendNewest calls log c := by
  rw [LastSendNewest, LastSendNewest, List.filter_append, List.filter_cons_of_neg (by simp [he]),
    List.filter_nil, List.append_nil]

/-- A commit that leaves a conversation alone and the message that it shows. -/
theorem headNewest_congr {sent : List (Id × Message)} {c : Id} {db' : Store}
    (hconversation : db'.get (.conversation, c) = db.get (.conversation, c))
    (hshown : ∀ conversation, db.get (.conversation, c) = some conversation → ∀ row ∈ sent,
      conversation.lastMessageId = some row.1 →
        db'.get (.message, row.1) = db.get (.message, row.1)) :
    HeadNewest sent c db' ↔ HeadNewest sent c db := by
  rw [HeadNewest, HeadNewest, hconversation]
  refine forall₂_congr fun conversation hget => or_congr_right ?_
  refine exists₂_congr fun headId head => and_congr_right fun hid => ?_
  constructor
  · rintro ⟨hhead, hmem, hall⟩
    exact ⟨(hshown conversation hget _ hmem hid).symm.trans hhead, hmem, hall⟩
  · rintro ⟨hhead, hmem, hall⟩
    exact ⟨(hshown conversation hget _ hmem hid).trans hhead, hmem, hall⟩

/-- A message that a prune found to be stale has 20 newer ones, and is not shown. -/
theorem HeadLog.stale (h : HeadLog calls db₀ log db) {old : Store} (hold : Past db₀ log old)
    {c id : Id} (hstale : id ∈ staleMessages old c 20) : NotShown id db ∧
      ∀ c', ∀ row ∈ sentMessages db₀ log c', row.1 = id →
        20 ≤ (sentMessages db₀ log c').countP fun other => !newerThan row other := by
  set unshown := (messagesOf old c).filter fun row =>
    (old.list .conversation (·.lastMessageId == some row.1)).isEmpty with hunshown
  have hids : staleMessages old c 20 = (unshown.drop 20).map Prod.fst := by
    rw [staleMessages, List.map_drop, hunshown, List.filter_map]
    rfl
  rw [hids, List.mem_map] at hstale
  obtain ⟨⟨id', message⟩, hdrop, rfl⟩ := hstale
  obtain ⟨hmem, hempty⟩ := List.mem_filter.mp (List.mem_of_mem_drop hdrop)
  obtain ⟨hget, hof⟩ := mem_messagesOf.mp hmem
  have hnot : NotShown id' old := by
    intro conversationId conversation hconversation hshown
    have hlisted : (conversationId, conversation) ∈
        old.list .conversation (·.lastMessageId == some id') :=
      Db.mem_list.mpr ⟨hconversation, beq_iff_eq.mpr hshown⟩
    rw [List.isEmpty_iff.mp hempty] at hlisted
    cases hlisted
  refine ⟨h.passed old hold id' (by rw [hget]; rfl) hnot, fun c' row hrow hid => ?_⟩
  have hsent := h.past old hold id' message hget
  obtain rfl : row = (id', message) := h.unique c' _ row hrow _ hsent hid
  obtain rfl : c' = message.conversationId := (conversationId_of_sent hrow).symm
  -- the first 20 of those that are not shown are newer, and have been sent
  have hsublist : unshown.Sublist (messagesOf old c) := List.filter_sublist
  have hnodup : (unshown.map Prod.fst).Nodup :=
    (messagesOf_nodup old c).sublist (hsublist.map _)
  have hsorted := (messagesOf_sorted old c).sublist hsublist
  have hlength : (unshown.take 20).length = 20 := by
    rw [List.length_take]
    have := List.length_pos_of_mem hdrop
    rw [List.length_drop] at this
    omega
  rw [← List.take_append_drop 20 unshown] at hsorted hnodup
  rw [List.map_append, List.nodup_append] at hnodup
  have hnewer : ∀ other ∈ unshown.take 20, newerThan (id', message) other = false := by
    intro other hother
    refine not_newerThan_of_ne (fun hid => ?_)
      ((List.pairwise_append.mp hsorted).2.2 other hother _ hdrop)
    exact hnodup.2.2 _ (List.mem_map_of_mem hother) _ (List.mem_map_of_mem hdrop) hid
  have hall : (unshown.take 20).Subperm
      ((sentMessages db₀ log message.conversationId).filter fun other =>
        !newerThan (id', message) other) := by
    refine List.subperm_of_subset hnodup.1.of_map fun other hother => ?_
    obtain ⟨otherId, otherMessage⟩ := other
    obtain ⟨hother', hof'⟩ := mem_messagesOf.mp
      (hsublist.subset (List.mem_of_mem_take hother))
    refine List.mem_filter.mpr ⟨?_, by rw [hnewer _ hother]; rfl⟩
    have := h.past old hold otherId otherMessage hother'
    rwa [hof', ← hof] at this
  rw [List.countP_eq_length_filter, ← hlength]
  exact hall.length_le

section Create

variable {e : Event ι Row} {conversation : Conversation}

/-- The calls have ids of their own. -/
def OwnIds (calls : ι → CreateCall) (db₀ : Store) : Prop :=
  (∀ i j, (calls i).messageId = (calls j).messageId → i = j) ∧
    ∀ i, db₀.get (.message, (calls i).messageId) = none

/-- A message that is created has not been sent before. -/
theorem HeadLog.unsent (h : HeadLog calls db₀ log e.db) (hids : OwnIds calls db₀)
    (honce : MarksOnce IsNewMessage (log ++ [e])) (hmarks : e.Marks IsNewMessage) {c : Id}
    {row : Id × Message} (hrow : row ∈ sentMessages db₀ log c) :
    row.1 ≠ (calls e.call).messageId := by
  intro hid
  rcases h.ids c row hrow with hthere | ⟨e', he', hmarks', hid'⟩
  · rw [hid, hids.2 e.call] at hthere
    cases hthere
  · have hcall := hids.1 _ _ (hid'.symm.trans hid)
    exact (List.pairwise_append.mp honce).2.2 e' he' e (List.mem_singleton_self e) hcall
      ⟨hmarks', hmarks⟩

/-! The rows after a creation. -/

section Rows

variable {call : CreateCall} (hwrites : e.writes =
  [⟨.message, call.messageId, some call.message⟩,
    ⟨.conversation, call.conversationId, some (call.shownIn conversation)⟩])

include hwrites

theorem mem_sentMessages_create {c : Id} {row : Id × Message} :
    row ∈ sentMessages db₀ (log ++ [e]) c ↔ row ∈ sentMessages db₀ log c ∨
      call.conversationId = c ∧ row = (call.messageId, call.message) := by
  rw [sentMessages_create hwrites]
  by_cases h : call.conversationId = c <;> simp [h]

theorem get_message_create :
    e.result.get (.message, call.messageId) = some call.message := by
  rw [Event.result, hwrites, Db.apply_cons, Db.get_apply_of_table (by simp)]
  exact Db.get_put_self e.db ⟨.message, call.messageId, some call.message⟩

theorem get_message_create_ne {id : Id} (hid : id ≠ call.messageId) :
    e.result.get (.message, id) = e.db.get (.message, id) := by
  rw [Event.result, hwrites, Db.apply_cons, Db.get_apply_of_table (by simp)]
  exact Db.get_put_ne e.db fun hkey => hid (congrArg Prod.snd hkey)

theorem get_conversation_create : e.result.get (.conversation, call.conversationId) =
    some (call.shownIn conversation) := by
  rw [Event.result, hwrites, Db.apply_cons, Db.apply_cons, Db.apply_nil]
  exact Db.get_put_self (e.db.put ⟨.message, call.messageId, some call.message⟩)
    ⟨.conversation, call.conversationId, some (call.shownIn conversation)⟩

theorem get_conversation_create_ne {c : Id} (hc : c ≠ call.conversationId) :
    e.result.get (.conversation, c) = e.db.get (.conversation, c) := by
  rw [Event.result, hwrites, Db.apply_cons, Db.apply_cons, Db.apply_nil,
    Db.get_put_ne _ fun hkey => hc (congrArg Prod.snd hkey), Db.get_put_ne _ (by simp [Write.key])]

theorem shows_create (c : Id) : shows c e = true ↔ c = call.conversationId := by
  rw [shows, hwrites, List.any_cons, List.any_cons, List.any_nil, Bool.or_false, Bool.or_eq_true,
    beq_iff_eq, beq_iff_eq]
  constructor
  · rintro (h | h)
    · exact absurd (congrArg Prod.fst h) (by simp [Write.key])
    · exact (congrArg Prod.snd h).symm
  · rintro rfl
    exact .inr rfl

end Rows

/-- After a creation. -/
theorem HeadLog.create (h : HeadLog calls db₀ log e.db) (hnow : Past db₀ log e.db)
    (hids : OwnIds calls db₀) (honce : MarksOnce IsNewMessage (log ++ [e]))
    (hwrites : e.writes = [⟨.message, (calls e.call).messageId, some (calls e.call).message⟩,
      ⟨.conversation, (calls e.call).conversationId,
        some ((calls e.call).shownIn conversation)⟩]) :
    HeadLog calls db₀ (log ++ [e]) e.result := by
  have hmarks : e.Marks IsNewMessage := ⟨_, by rw [hwrites]; exact List.mem_cons_self, rfl, rfl⟩
  have hunsent : ∀ {c row}, row ∈ sentMessages db₀ log c → row.1 ≠ (calls e.call).messageId :=
    fun hrow => h.unsent hids honce hmarks hrow
  have hsent : ∀ {c row}, row ∈ sentMessages db₀ (log ++ [e]) c ↔ row ∈ sentMessages db₀ log c ∨
      (calls e.call).conversationId = c ∧
        row = ((calls e.call).messageId, (calls e.call).message) :=
    mem_sentMessages_create hwrites
  have hsame : ∀ {c}, c ≠ (calls e.call).conversationId →
      sentMessages db₀ (log ++ [e]) c = sentMessages db₀ log c := by
    intro c hc
    rw [sentMessages_create hwrites, if_neg (Ne.symm hc)]
  refine ⟨fun c row hrow => ?ids, fun c c' row hrow row' hrow' hid => ?unique,
    fun old hold id message hold' => ?past, fun old hold id hthere hnot => ?passed,
    fun c conversation' hget => ?there, fun c row hrow hcount => ?kept, fun c => ?newest⟩
  case ids =>
    rcases hsent.mp hrow with hrow | ⟨-, rfl⟩
    · exact (h.ids c row hrow).imp_right fun ⟨e', he', hid⟩ => ⟨e', List.mem_append_left _ he', hid⟩
    · exact .inr ⟨e, by simp, hmarks, rfl⟩
  case unique =>
    rcases hsent.mp hrow with hrow | ⟨-, rfl⟩
    · rcases hsent.mp hrow' with hrow' | ⟨-, rfl⟩
      · exact h.unique c c' row hrow row' hrow' hid
      · exact absurd hid (hunsent hrow)
    · rcases hsent.mp hrow' with hrow' | ⟨-, rfl⟩
      · exact absurd hid.symm (hunsent hrow')
      · rfl
  case past =>
    rcases past_snoc_iff.mp hold with hold | rfl
    · exact hsent.mpr (.inl (h.past old hold id message hold'))
    · by_cases hid : id = (calls e.call).messageId
      · subst hid
        obtain rfl := Option.some.inj ((get_message_create hwrites).symm.trans hold')
        exact hsent.mpr (.inr ⟨rfl, rfl⟩)
      · rw [get_message_create_ne hwrites hid] at hold'
        exact hsent.mpr (.inl (h.past _ hnow id message hold'))
  case passed =>
    rcases past_snoc_iff.mp hold with hold | rfl
    · obtain ⟨message, hmessage⟩ := Option.isSome_iff_exists.mp hthere
      intro c conversation' hget hshown
      by_cases hc : c = (calls e.call).conversationId
      · subst hc
        obtain rfl := Option.some.inj ((get_conversation_create hwrites).symm.trans hget)
        exact hunsent (h.past old hold id message hmessage) (Option.some.inj hshown).symm
      · rw [get_conversation_create_ne hwrites hc] at hget
        exact h.passed old hold id hthere hnot c conversation' hget hshown
    · exact hnot
  case there =>
    by_cases hc : c = (calls e.call).conversationId
    · subst hc
      obtain rfl := Option.some.inj ((get_conversation_create hwrites).symm.trans hget)
      exact .inr ⟨_, _, rfl, get_message_create hwrites, hsent.mpr (.inr ⟨rfl, rfl⟩)⟩
    · rw [get_conversation_create_ne hwrites hc] at hget
      rw [hsame hc]
      refine (h.there c conversation' hget).imp_right ?_
      rintro ⟨headId, head, hshown, hhead, hmem⟩
      exact ⟨headId, head, hshown, (get_message_create_ne hwrites (hunsent hmem)).trans hhead, hmem⟩
  case kept =>
    rcases hsent.mp hrow with hold | ⟨-, rfl⟩
    · rw [get_message_create_ne hwrites (hunsent hold)]
      refine h.kept c row hold (lt_of_le_of_lt ?_ hcount)
      rw [sentMessages_snoc, List.countP_append]
      exact Nat.le_add_right _ _
    · exact get_message_create hwrites
  case newest =>
    by_cases hc : c = (calls e.call).conversationId
    · subst hc
      rw [lastSendNewest_shows ((shows_create hwrites _).mpr rfl)]
      have hshown := get_conversation_create hwrites
      have hhead := get_message_create hwrites
      constructor
      · intro hnewest row hrow
        obtain ⟨hget, hof⟩ := Db.mem_list.mp hrow
        have hmem := h.past _ hnow row.1 row.2 hget
        rw [eq_of_beq hof] at hmem
        rcases hnewest _ hshown with ⟨hnone, -⟩ | ⟨headId, head, hid, hget', -, hall⟩
        · cases hnone
        · obtain rfl := Option.some.inj hid
          obtain rfl := Option.some.inj (hhead.symm.trans hget')
          exact hall row (hsent.mpr (.inl hmem))
      · intro hsends conversation' hget
        obtain rfl := Option.some.inj (hshown.symm.trans hget)
        refine .inr ⟨_, _, rfl, hhead, hsent.mpr (.inr ⟨rfl, rfl⟩), fun row hrow => ?_⟩
        rcases hsent.mp hrow with hold | ⟨-, rfl⟩
        · obtain ⟨newest, hmem, hnewer⟩ := h.newest_there hold
          exact newerThan_trans (hsends newest hmem) hnewer
        · exact newerThan_refl _
    · rw [lastSendNewest_not_shows (Bool.eq_false_iff.mpr fun hshows =>
        hc ((shows_create hwrites c).mp hshows)), ← h.newest c, hsame hc]
      exact headNewest_congr (get_conversation_create_ne hwrites hc)
        fun _ _ row hrow _ => get_message_create_ne hwrites (hunsent hrow)

end Create

/-- After a prune. -/
theorem HeadLog.prune {e : Event ι Row} (h : HeadLog calls db₀ log e.db)
    (hnow : Past db₀ log e.db) {read : Store} (hread : Past db₀ log read) {c₀ : Id}
    (hwrites : e.writes = (staleMessages read c₀ 20).map fun id => ⟨.message, id, none⟩) :
    HeadLog calls db₀ (log ++ [e]) e.result := by
  have hsame : ∀ c, sentMessages db₀ (log ++ [e]) c = sentMessages db₀ log c :=
    sentMessages_prune hwrites
  have hconversation : ∀ c, e.result.get (.conversation, c) = e.db.get (.conversation, c) := by
    intro c
    rw [Event.result, hwrites]
    refine Db.get_apply_of_table fun w hw => ?_
    obtain ⟨id, -, rfl⟩ := List.mem_map.mp hw
    simp
  have hfresh : ∀ id, id ∉ staleMessages read c₀ 20 →
      e.result.get (.message, id) = e.db.get (.message, id) := by
    intro id hid
    rw [Event.result, hwrites]
    refine Db.get_apply_of_notMem fun hkey => ?_
    obtain ⟨w, hw, hkey⟩ := List.mem_map.mp hkey
    obtain ⟨id', hid', rfl⟩ := List.mem_map.mp hw
    obtain rfl := congrArg Prod.snd hkey
    exact hid hid'
  have hthere : ∀ id message, e.result.get (.message, id) = some message →
      e.db.get (.message, id) = some message := by
    intro id message hget
    rcases Db.get_apply_cases e.writes .message id e.db with hkept | ⟨r, hr, hrow⟩
    · exact hkept.symm.trans hget
    · rw [hwrites] at hr
      obtain ⟨id', -, hdelete⟩ := List.mem_map.mp hr
      cases hdelete
      exact absurd (hrow.symm.trans hget) (by simp)
  -- what is shown is not stale, and so it is not deleted
  have hshown : ∀ {c conversation id}, e.db.get (.conversation, c) = some conversation →
      conversation.lastMessageId = some id →
        e.result.get (.message, id) = e.db.get (.message, id) :=
    fun hget hid => hfresh _ fun hstale => (h.stale hread hstale).1 _ _ hget hid
  refine ⟨fun c row hrow => ?ids, fun c c' row hrow row' hrow' hid => ?unique,
    fun old hold id message hold' => ?past, fun old hold id hthere hnot => ?passed,
    fun c conversation hget => ?there, fun c row hrow hcount => ?kept, fun c => ?newest⟩
  case ids =>
    rw [hsame] at hrow
    exact (h.ids c row hrow).imp_right fun ⟨e', he', hid⟩ => ⟨e', List.mem_append_left _ he', hid⟩
  case unique =>
    rw [hsame] at hrow hrow'
    exact h.unique c c' row hrow row' hrow' hid
  case past =>
    rw [hsame]
    rcases past_snoc_iff.mp hold with hold | rfl
    · exact h.past old hold id message hold'
    · exact h.past _ hnow id message (hthere id message hold')
  case passed =>
    rcases past_snoc_iff.mp hold with hold | rfl
    · intro c conversation hget
      rw [hconversation] at hget
      exact h.passed old hold id hthere hnot c conversation hget
    · exact hnot
  case there =>
    rw [hconversation] at hget
    rw [hsame]
    refine (h.there c conversation hget).imp_right ?_
    rintro ⟨headId, head, hid, hhead, hmem⟩
    exact ⟨headId, head, hid, (hshown hget hid).trans hhead, hmem⟩
  case kept =>
    rw [hsame] at hrow hcount
    rw [hfresh row.1 fun hstale => ?_]
    · exact h.kept c row hrow hcount
    · exact absurd ((h.stale hread hstale).2 c row hrow rfl) (by omega)
  case newest =>
    rw [hsame, headNewest_congr (hconversation c) fun _ hget row _ hid => hshown hget hid,
      h.newest c, lastSendNewest_not_shows]
    rw [shows, hwrites, List.any_map, List.any_eq_false]
    rintro id - hkey
    exact absurd (congrArg Prod.fst (eq_of_beq hkey)) (by simp [Write.key])

/-- However the creations and prunes have interleaved. -/
theorem History.headLog (hids : OwnIds calls db₀) (hstart : ∀ c, HeadNewest
      (sentMessages db₀ ([] : List (Event ι Row)) c) c db₀) (h : History db₀ log db) :
    (∀ e ∈ log, HeadCommit (calls e.call) e.reads e.db e.writes) → MarksOnce IsNewMessage log →
      HeadLog calls db₀ log db := by
  induction h with
  | start => exact fun _ _ => .start hstart
  | @commit log e hlog hreads ih =>
    intro hcommits honce
    have hbefore : HeadLog calls db₀ log e.db :=
      ih (fun e' he' => hcommits e' (List.mem_append_left _ he')) (List.pairwise_append.mp honce).1
    have hcommit := hcommits e (by simp)
    generalize hwrites : e.writes = ws at hcommit
    cases hcommit with
    | create hnew hget => exact hbefore.create hlog.past hids honce hwrites
    | prune hread => exact hbefore.prune hlog.past (hreads _ hread) hwrites

end Steps

/-! ## Runs -/

/-- **Exactly when a conversation shows its newest message.** However creations of messages and
the prunes that follow them interleave, every conversation shows the newest message sent in it,
that message is there and so are the 20 newest, just when for each conversation the creation that
was last to commit had a message newer than those that the conversation had. -/
theorem conversation_head_newest_iff {ι : Type} [Fintype ι] [DecidableEq ι] {db₀ : Store}
    {calls : ι → CreateCall} (hids : OwnIds calls db₀)
    (hstart : ∀ c, HeadNewest (sentMessages db₀ ([] : List (Event ι Row)) c) c db₀)
    {m : Machine ι Row Failure SentMessage} {log : List (Event ι Row)}
    (hrun : Machine.Traced (.start db₀ fun i => (calls i).service) log m) :
    (∀ c, HeadNewest (sentMessages db₀ log c) c m.db ∧
        NewestKept (sentMessages db₀ log c) m.db) ↔
      ∀ c, LastSendNewest calls log c := by
  obtain ⟨reads, htrace⟩ := hrun
  have hcommits : ∀ e ∈ log, HeadCommit (calls e.call) e.reads e.db e.writes := (htrace.sound
    (R := .rows fun _ => True) (Q := fun i reads _ ws db => HeadCommit (calls i) reads db ws)
    (J := fun log _ => ∀ e ∈ log, HeadCommit (calls e.call) e.reads e.db e.writes)
    (fun log e _ h _ hcommit => .rows True.intro
      (List.forall_mem_append.mpr ⟨h, List.forall_mem_singleton.mpr hcommit⟩)) True.intro
    (fun i => (calls i).guarantees) (by simp) fun _ _ => True.intro).2
  have honce : MarksOnce IsNewMessage log := (htrace.once fun i => (calls i).writesOnce).1
  have hlog : HeadLog calls db₀ log m.db :=
    History.headLog hids hstart htrace.history.1 hcommits honce
  exact ⟨fun h c => (hlog.newest c).mp (h c).1,
    fun h c => ⟨(hlog.newest c).mpr (h c), hlog.kept c⟩⟩

/-! ## Two messages at once -/

def quietChat : Conversation where
  orderId := 1
  type := .orderChat
  title := none
  lastMessageId := none
  lastMessageAt := none
  createdAt := 0
  updatedAt := 0

def chatShop : Store := Db.empty.apply [⟨.conversation, 1, some quietChat⟩]

/-- Two messages of the shop itself, which nobody gets a receipt for. -/
def twoMessages : Fin 2 → CreateCall :=
  ![⟨11, 1, ⟨1, .system, none, .systemEvent, some .orderPlaced, "Placed.", none, [], []⟩⟩,
    ⟨12, 2, ⟨1, .system, none, .systemEvent, some .riderAssigned, "Assigned.", none, [], []⟩⟩]

theorem ownIds_twoMessages : OwnIds twoMessages chatShop := by
  unfold OwnIds
  decide

theorem headNewest_chatShop (c : Id) :
    HeadNewest (sentMessages chatShop ([] : List (Event (Fin 2) Row)) c) c chatShop := by
  intro conversation hget
  have hmem : (c, conversation) ∈ chatShop.list .conversation fun _ => true :=
    Db.mem_list.mpr ⟨hget, rfl⟩
  have hlist : (chatShop.list .conversation fun _ => true) = [(1, quietChat)] := by decide
  rw [hlist, List.mem_singleton, Prod.mk.injEq] at hmem
  exact .inl ⟨congrArg Conversation.lastMessageId hmem.2, rfl⟩

/-- The first message is created before the second and committed after it. When both calls have
ended, the conversation shows the first message. -/
theorem older_message_shown : OwnIds twoMessages chatShop ∧
    (∀ c, HeadNewest (sentMessages chatShop ([] : List (Event (Fin 2) Row)) c) c chatShop) ∧
    ∃ log m, Machine.Traced (.start chatShop fun i => (twoMessages i).service) log m ∧
      (∀ i, (m.threads i).done = true) ∧
      ¬ ∀ c, HeadNewest (sentMessages chatShop log c) c m.db ∧
        NewestKept (sentMessages chatShop log c) m.db := by
  have hexec : ((Machine.start chatShop fun i => (twoMessages i).service).exec
      (List.map .run ([0, 0] ++ List.replicate 8 1 ++ List.replicate 6 0))).any (fun m =>
        decide (∀ i, (m.threads i).done = true) &&
        ((m.db.get (.conversation, 1)).any fun conversation =>
          conversation.lastMessageId == some 11) &&
        m.db.get (.message, 11) == some (twoMessages 0).message) = true := by decide
  have hsent : (12, (twoMessages 1).message) ∈ sentMessages chatShop
      ((Machine.start chatShop fun i => (twoMessages i).service).execEvents
        (List.map .run ([0, 0] ++ List.replicate 8 1 ++ List.replicate 6 0)) fun _ => []) 1 := by
    decide
  obtain ⟨m, hm, hall⟩ := (Option.any_eq_true _ _).mp hexec
  simp only [Bool.and_eq_true, decide_eq_true_eq, beq_iff_eq] at hall
  obtain ⟨⟨hdone, hshown⟩, hmessage⟩ := hall
  obtain ⟨conversation, hget, hlast⟩ := (Option.any_eq_true _ _).mp hshown
  refine ⟨ownIds_twoMessages, headNewest_chatShop, _, m, Machine.Traced.exec hm, hdone, fun h => ?_⟩
  rcases (h 1).1 conversation hget with ⟨-, hempty⟩ | ⟨headId, head, hid, hhead, -, hnewest⟩
  · rw [hempty] at hsent
    cases hsent
  · obtain rfl := Option.some.inj ((eq_of_beq hlast).symm.trans hid)
    obtain rfl := Option.some.inj (hmessage.symm.trans hhead)
    exact absurd (hnewest _ hsent) (by decide)

/-- When the second message is created after the first has been committed, it is shown. -/
theorem conversation_head_newest_chatShop :
    ∃ log m, Machine.Traced (.start chatShop fun i => (twoMessages i).service) log m ∧
      (∀ i, (m.threads i).done = true) ∧
      ∀ c, HeadNewest (sentMessages chatShop log c) c m.db ∧
        NewestKept (sentMessages chatShop log c) m.db := by
  have hexec : ((Machine.start chatShop fun i => (twoMessages i).service).exec
      (List.map .run (List.replicate 8 0 ++ List.replicate 8 1))).any (fun m =>
        decide (∀ i, (m.threads i).done = true)) = true := by decide
  have hinOrder : ∀ e ∈ (Machine.start chatShop fun i => (twoMessages i).service).execEvents
      (List.map .run (List.replicate 8 0 ++ List.replicate 8 1)) fun _ => [],
        SendsNewest (twoMessages e.call) e.db := by decide
  obtain ⟨m, hm, hdone⟩ := (Option.any_eq_true _ _).mp hexec
  have hrun := Machine.Traced.exec hm
  refine ⟨_, m, hrun, of_decide_eq_true hdone, ?_⟩
  refine (conversation_head_newest_iff ownIds_twoMessages headNewest_chatShop hrun).mpr ?_
  exact fun c e he => hinOrder e (List.mem_filter.mp (List.mem_of_getLast? he)).1

end WerTe
