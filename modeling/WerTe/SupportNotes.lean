import WerTe.ReadCommitted.Maintains
import WerTe.TicketHistory

/-!
# Internal notes of a support ticket

An agent's reply may be a note that only agents should see. The flag is stored with the message,
and `getTicket` reads all messages for whoever calls it.

Two runs that differ in their notes only (`SameButNotes`) keep stores that differ in internal
messages only (`NotesApart`), and the customer gets the same from both, unless it reads a ticket
of its own that has a note (`notes_stay_internal_iff`).
-/

namespace WerTe

open ReadCommitted SupportTicketsRepository SupportTicketsService

/-! ## What a customer gets -/

namespace SupportCall

/-- An agent's reply with `isInternal = true`. -/
def isNote : SupportCall → Bool
  | replyToTicket _ _ currentUser _ dto => isAgent currentUser && dto.isInternal.getD false
  | _ => false

/-- The id of the message that the call stores. -/
def messageId : SupportCall → Option Id
  | createTicket _ messageId .. | replyToTicket messageId .. => some messageId
  | _ => none

def run (call : SupportCall) (db : Store) : Store := (call.service.run db).2

/-- The customer calls. -/
def isBy (customerId : Id) (call : SupportCall) : Bool :=
  !isAgent call.caller && call.caller.userId == customerId

/-- The responses that a run sends to a customer. -/
def received (customerId : Id) : List SupportCall → Store → List (Except Failure SupportResponse)
  | [], _ => []
  | call :: calls, db =>
    (if call.isBy customerId then [(call.service.run db).1] else []) ++
      received customerId calls (call.run db)

/-- If the call reads a ticket of the customer's for the customer, the ticket has no note. -/
def ShowsNoNote (customerId : Id) (call : SupportCall) (db : Store) : Prop :=
  match call with
  | getTicket currentUser ticketId => (getTicket currentUser ticketId).isBy customerId = true →
    (findById db ticketId).any (·.ticket.customerId == customerId) = true →
      ∀ row ∈ db.list .supportTicketMessage (·.ticketId == ticketId), row.2.isInternal = false
  | _ => True

/-- The two runs are the same but for notes, which either may have where the other has none. -/
inductive SameButNotes : List SupportCall → List SupportCall → Prop
  | nil : SameButNotes [] []
  | same (call : SupportCall) {calls calls' : List SupportCall} (h : SameButNotes calls calls') :
    SameButNotes (call :: calls) (call :: calls')
  | left {note : SupportCall} {calls calls' : List SupportCall} (hnote : note.isNote = true)
      (h : SameButNotes calls calls') : SameButNotes (note :: calls) calls'
  | right {note : SupportCall} {calls calls' : List SupportCall} (hnote : note.isNote = true)
      (h : SameButNotes calls calls') : SameButNotes calls (note :: calls')

end SupportCall

/-- The stores differ in internal messages only, which have certain ids. -/
structure NotesApart (noteIds : Id → Prop) (db db' : Store) : Prop where
  others : Db.SameOn (· ≠ .supportTicketMessage) db db'
  messages : ∀ id, ¬ noteIds id →
    db.get (.supportTicketMessage, id) = db'.get (.supportTicketMessage, id)
  listed : ∀ p : SupportTicketMessage → Bool,
    (db.list .supportTicketMessage fun message => p message && !message.isInternal) =
      db'.list .supportTicketMessage fun message => p message && !message.isInternal

namespace NotesApart

variable {noteIds : Id → Prop} {db db' : Store}

theorem refl (db : Store) : NotesApart noteIds db db := ⟨.refl db, fun _ _ => rfl, fun _ => rfl⟩

theorem symm (h : NotesApart noteIds db db') : NotesApart noteIds db' db :=
  ⟨h.others.symm, fun id hid => (h.messages id hid).symm, fun p => (h.listed p).symm⟩

theorem trans {db'' : Store} (h : NotesApart noteIds db db') (h' : NotesApart noteIds db' db'') :
    NotesApart noteIds db db'' :=
  ⟨h.others.trans h'.others, fun id hid => (h.messages id hid).trans (h'.messages id hid),
    fun p => (h.listed p).trans (h'.listed p)⟩

/-- Another row is written in both. -/
theorem put (h : NotesApart noteIds db db') {w : Write Row} (hw : w.table ≠ .supportTicketMessage) :
    NotesApart noteIds (db.put w) (db'.put w) where
  others := h.others.apply [w]
  messages id hid := by
    have hkey : (Tbl.supportTicketMessage, id) ≠ w.key := fun hk => hw (congrArg Prod.fst hk).symm
    rw [Db.get_put_ne db hkey, Db.get_put_ne db' hkey]
    exact h.messages id hid
  listed p := by
    rw [Db.list_put_ne db hw.symm, Db.list_put_ne db' hw.symm]
    exact h.listed p

/-- The same message is stored in both. -/
theorem putMessage (h : NotesApart noteIds db db') {id : Id} {message : SupportTicketMessage}
    (hnew : db.get (.supportTicketMessage, id) = none)
    (hnew' : db'.get (.supportTicketMessage, id) = none) :
    NotesApart noteIds (db.put ⟨.supportTicketMessage, id, some message⟩)
      (db'.put ⟨.supportTicketMessage, id, some message⟩) where
  others := h.others.apply [_]
  messages id' hid' := by
    by_cases hid : id' = id
    · subst hid
      exact (Db.get_put_self db ⟨.supportTicketMessage, _, some message⟩).trans
        (Db.get_put_self db' ⟨.supportTicketMessage, _, some message⟩).symm
    · have hkey : (Tbl.supportTicketMessage, id') ≠
          Write.key (⟨.supportTicketMessage, id, some message⟩ : Write Row) :=
        fun hk => hid (congrArg Prod.snd hk)
      rw [Db.get_put_ne db hkey, Db.get_put_ne db' hkey]
      exact h.messages id' hid'
  listed p := by rw [Db.list_put_new hnew, Db.list_put_new hnew', h.listed p]

/-- A note is stored in one. -/
theorem of_note {id : Id} {message : SupportTicketMessage} (hid : noteIds id)
    (hmessage : message.isInternal = true) (hnew : db.get (.supportTicketMessage, id) = none) :
    NotesApart noteIds db (db.put ⟨.supportTicketMessage, id, some message⟩) where
  others := by
    have hsame : Db.SameOn (· ≠ .supportTicketMessage) db
        (db.apply [⟨.supportTicketMessage, id, some message⟩]) := .of_writes (by simp)
    exact hsame
  messages id' hid' := by
    have hkey : (Tbl.supportTicketMessage, id') ≠
        Write.key (⟨.supportTicketMessage, id, some message⟩ : Write Row) := by
      intro hk
      obtain rfl : id' = id := congrArg Prod.snd hk
      exact hid' hid
    rw [Db.get_put_ne db hkey]
  listed p := by rw [Db.list_put_new hnew, if_neg (by simp [hmessage])]

/-- Where neither shows a note, they list the same messages. -/
theorem list_eq (h : NotesApart noteIds db db') {p : SupportTicketMessage → Bool}
    (hdb : ∀ row ∈ db.list .supportTicketMessage p, row.2.isInternal = false)
    (hdb' : ∀ row ∈ db'.list .supportTicketMessage p, row.2.isInternal = false) :
    db.list .supportTicketMessage p = db'.list .supportTicketMessage p := by
  have hfilter : ∀ {d : Store}, (∀ row ∈ d.list .supportTicketMessage p, row.2.isInternal = false) →
      d.list .supportTicketMessage p =
        d.list .supportTicketMessage fun message => p message && !message.isInternal := by
    intro d hd
    refine List.filter_congr fun row hrow => ?_
    by_cases hp : p row.2 = true
    · simp [hp, hd row (List.mem_filter.mpr ⟨hrow, hp⟩)]
    · simp [hp]
  rw [hfilter hdb, hfilter hdb', h.listed p]

end NotesApart

/-! ## One call -/

section Calls

variable {noteIds : Id → Prop} {db db' : Store}

theorem messageViolation_none {id ticketId : Id} (h : messageViolation id ticketId db = none) :
    db.get (.supportTicketMessage, id) = none := by
  rw [messageViolation] at h
  split at h
  · cases h
  · rename_i habsent
    exact Option.not_isSome_iff_eq_none.mp habsent

/-- A new message that is no note. -/
theorem insertMessage_respects {id ticketId : Id} {message : SupportTicketMessage}
    (hid : ¬ noteIds id) :
    (Tx.insertRow (.supportTicketMessage, id) message (messageViolation id ticketId) :
      StoreTx Unit).Respects (NotesApart noteIds) := by
  refine .insertRow (fun db db' h => ?_) fun db db' h hnone => ?_
  · rw [messageViolation, messageViolation, h.messages id hid, h.others.get (by simp)]
  · have hnew := messageViolation_none hnone
    exact h.putMessage hnew ((h.messages id hid).symm.trans hnew)

theorem update_respects {ticketId : Id} {now : Date} {data : UpdateSupportTicketInput}
    {entry : Option SupportTicketStatusHistory} :
    (update ticketId now data entry).Respects (NotesApart noteIds) := by
  refine ⟨fun db db' h => ?_, fun _ => True.intro⟩
  have hticket : db.get (.supportTicket, ticketId) = db'.get (.supportTicket, ticketId) :=
    h.others.get (by simp)
  have huser : ∀ agentId : Id, db.get (.user, agentId) = db'.get (.user, agentId) :=
    fun _ => h.others.get (by simp)
  dsimp only
  simp only [← hticket, ← huser]
  refine ⟨trivial, fun b ws hq => ?_⟩
  cases hget : db.get (.supportTicket, ticketId) with
  | none =>
    rw [hget] at hq
    cases hq
  | some ticket =>
    rw [hget] at hq
    dsimp only at hq
    split at hq
    · cases hq
      exact h.put (by simp)
    · cases hq

theorem findById_congr (h : NotesApart noteIds db db') (ticketId : Id) :
    findById db ticketId = findById db' ticketId := by
  rw [findById, h.others.get (by simp), findById]

theorem listPage_respects {matching : SupportTicket → Bool}
    {before : SupportTicketRecord → SupportTicketRecord → Bool}
    {query : ListSupportTicketsQueryDto} :
    (listPage matching before query).Respects (NotesApart noteIds) := by
  refine .bind (.get fun db db' h => ?_) fun _ => .bind (.get fun db db' h => ?_) fun _ => .ret _
  · rw [findPage, findPage, h.others.list (by simp)]
  · rw [h.others.list (by simp)]

theorem assertTicketAccess_respects {E : Store → Store → Prop} {currentUser : AuthenticatedUser}
    {found : Option SupportTicketRecord} :
    (assertTicketAccess currentUser found).Respects E :=
  .bind (.orFail _ _) fun _ => .bind (.require _ _) fun _ => .ret _

theorem assertTicketAccess_readOnly {currentUser : AuthenticatedUser}
    {found : Option SupportTicketRecord} : (assertTicketAccess currentUser found).ReadOnly :=
  .bind (.orFail _ _) fun _ => .bind (.require _ _) fun _ => .ret _

/-- No call but `getTicket` and the notes depends on notes. -/
theorem SupportCall.respects {call : SupportCall} (hnote : call.isNote = false)
    (hid : ∀ id ∈ call.messageId, ¬ noteIds id)
    (hget : ∀ currentUser ticketId, call ≠ .getTicket currentUser ticketId) :
    call.service.Respects (NotesApart noteIds) := by
  cases call with
  | createTicket ticketId messageId ticketNumber now currentUser dto =>
    refine .bind (.transaction (.bind (.insertRow (fun db db' h => ?_) fun db db' h _ =>
      h.put (by simp)) fun _ => .bind (insertMessage_respects (hid _ rfl)) fun _ => .ret _))
      fun _ => .ret _
    have horder : ∀ orderId : Id, db.get (.order, orderId) = db'.get (.order, orderId) :=
      fun _ => h.others.get (by simp)
    have hticket : db.get (.supportTicket, ticketId) = db'.get (.supportTicket, ticketId) :=
      h.others.get (by simp)
    simp only [ticketViolation, horder, hticket, h.others.list (t := .supportTicket) (by simp)]
  | listCustomerTickets currentUser query => exact .bind listPage_respects fun _ => .ret _
  | getTicket currentUser ticketId => exact absurd rfl (hget currentUser ticketId)
  | replyToTicket messageId now currentUser ticketId dto =>
    refine .bind (.bind (.get fun db db' h => findById_congr h ticketId) fun found =>
      .bind assertTicketAccess_respects fun ticket => .bind (.require _ _) fun _ =>
        .bind (.transaction (.bind (insertMessage_respects (hid _ rfl)) fun _ => .ret _))
          fun message => ?_) fun _ => .ret _
    split
    · exact .bind (.transaction update_respects) fun _ => .ret _
    · exact .ret _
  | updateTicket now currentUser ticketId dto =>
    exact .bind (.bind (.get fun db db' h => findById_congr h ticketId) fun _ =>
      .bind (.orFail _ _) fun _ => .transaction update_respects) fun _ => .ret _
  | listAgentTickets currentUser query => exact .bind listPage_respects fun _ => .ret _

/-- A note leaves all else as it is. -/
theorem SupportCall.note_apart {call : SupportCall} (hnote : call.isNote = true)
    (hid : ∀ id ∈ call.messageId, noteIds id) (db : Store) :
    NotesApart noteIds db (call.run db) := by
  cases call with
  | replyToTicket messageId now currentUser ticketId dto =>
    have hagent : isAgent currentUser = true := ((Bool.and_eq_true ..).mp hnote).1
    have hends : (SupportCall.replyToTicket messageId now currentUser ticketId dto).service.Ends db
        fun _ db' => NotesApart noteIds db db' := by
      refine .bind (.get_bind (.bind (assertTicketAccess_readOnly.ends fun r => ?_)))
      cases r with
      | error e => exact .refl db
      | ok ticket =>
        refine .require_bind (fun _ => .transaction_bind (fun message db₁ hrun => ?_)
          fun _ _ => .refl db) fun _ => .refl db
        rw [if_neg (by simp [shouldReopen, hagent])]
        obtain ⟨u, db₂, hinsert, hret⟩ := Tx.run_bind_ok hrun
        cases hret
        obtain ⟨hnone, rfl⟩ := Tx.run_insertRow_ok hinsert
        have hnew : db.get (.supportTicketMessage, messageId) = none := messageViolation_none hnone
        have hapart : NotesApart noteIds db (db.put ⟨.supportTicketMessage, messageId,
            some (replyMessage ticketId now currentUser dto)⟩) := .of_note (hid _ rfl) hnote hnew
        unfold Service.Ends
        exact hapart
    unfold Service.Ends at hends
    exact hends
  | _ => cases hnote

/-- A customer reads a ticket of its own. -/
theorem getTicket_run_own {currentUser : AuthenticatedUser} {ticketId : Id}
    {ticket : SupportTicketRecord} (hfound : findById db ticketId = some ticket)
    (hown : ticket.ticket.customerId = currentUser.userId) :
    ((SupportCall.getTicket currentUser ticketId).service.run db).1 =
      .ok (.ticketWithMessages ⟨ticket, listMessages db ticketId⟩) := by
  simp [SupportCall.service, SupportTicketsService.getTicket, assertTicketAccess, Service.run_bind,
    Service.get, Service.run, Service.orFail, Service.require, hfound, hown]

/-- A customer reads another ticket. -/
theorem getTicket_run_other {currentUser : AuthenticatedUser} {ticketId : Id}
    (hagent : isAgent currentUser = false)
    (hown : (findById db ticketId).any (·.ticket.customerId == currentUser.userId) = false) :
    ((SupportCall.getTicket currentUser ticketId).service.run db).1 =
      .error (if (findById db ticketId).isSome then fail "Access denied." .forbidden
        else fail "Support ticket not found." .notFound) := by
  cases hfound : findById db ticketId with
  | none =>
    simp [SupportCall.service, SupportTicketsService.getTicket, assertTicketAccess,
      Service.run_bind, Service.get, Service.run, Service.orFail, hfound]
  | some ticket =>
    rw [hfound, Option.any_some, beq_eq_false_iff_ne] at hown
    simp [SupportCall.service, SupportTicketsService.getTicket, assertTicketAccess,
      Service.run_bind, Service.get, Service.run, Service.orFail, Service.require, hfound, hagent,
      hown]

/-- Two lists of messages of which one has a note and the other has not. -/
theorem isInternal_of_listMessages_eq {ticketId : Id}
    (h : listMessages db ticketId = listMessages db' ticketId)
    (hdb' : ∀ row ∈ db'.list .supportTicketMessage (·.ticketId == ticketId),
      row.2.isInternal = false) :
    ∀ row ∈ db.list .supportTicketMessage (·.ticketId == ticketId), row.2.isInternal = false := by
  have hmem : ∀ {d : Store} {record : SupportTicketMessageRecord},
      record ∈ listMessages d ticketId ↔ (record.id, record.message) ∈
        d.list .supportTicketMessage (·.ticketId == ticketId) := by
    intro d record
    simp only [listMessages, List.mem_insertionSort, List.mem_map, List.mem_reverse]
    exact ⟨fun ⟨row, hrow, hrecord⟩ => hrecord ▸ hrow, fun hrow => ⟨_, hrow, rfl⟩⟩
  intro row hrow
  have hrecord : (⟨row.1, row.2⟩ : SupportTicketMessageRecord) ∈ listMessages db ticketId :=
    hmem.mpr hrow
  rw [h] at hrecord
  exact hdb' _ (hmem.mp hrecord)

/-- Where the other run shows no note, the customer gets the same just when this one shows none. -/
theorem getTicket_received_iff (h : NotesApart noteIds db db') {customerId : Id}
    {currentUser : AuthenticatedUser} {ticketId : Id}
    (hby : (SupportCall.getTicket currentUser ticketId).isBy customerId = true)
    (hshows' : (SupportCall.getTicket currentUser ticketId).ShowsNoNote customerId db') :
    ((SupportCall.getTicket currentUser ticketId).service.run db).1 =
        ((SupportCall.getTicket currentUser ticketId).service.run db').1 ↔
      (SupportCall.getTicket currentUser ticketId).ShowsNoNote customerId db := by
  have hfound := findById_congr h ticketId
  simp only [SupportCall.isBy, SupportCall.caller, Bool.and_eq_true, Bool.not_eq_true',
    beq_iff_eq] at hby
  obtain ⟨hagent, rfl⟩ := hby
  have hby : (SupportCall.getTicket currentUser ticketId).isBy currentUser.userId = true := by
    simp [SupportCall.isBy, SupportCall.caller, hagent]
  by_cases hown : (findById db ticketId).any (·.ticket.customerId == currentUser.userId) = true
  · have hdb' := hshows' hby (hfound ▸ hown)
    obtain ⟨ticket, hticket, hcustomer⟩ := (Option.any_eq_true _ _).mp hown
    rw [getTicket_run_own hticket (eq_of_beq hcustomer),
      getTicket_run_own (hfound.symm.trans hticket) (eq_of_beq hcustomer)]
    simp only [Except.ok.injEq, SupportResponse.ticketWithMessages.injEq,
      TicketWithMessages.mk.injEq, true_and]
    constructor
    · exact fun hsame _ _ => isInternal_of_listMessages_eq hsame hdb'
    · intro hshows
      rw [listMessages, h.list_eq (hshows hby hown) hdb', listMessages]
  · have hnot := Bool.eq_false_iff.mpr hown
    rw [getTicket_run_other hagent hnot, getTicket_run_other hagent (hfound ▸ hnot), hfound]
    exact ⟨fun _ _ hown' => absurd hown' hown, fun _ => rfl⟩

end Calls

/-! ## Runs -/

section Runs

variable {noteIds : Id → Prop} {customerId : Id}

/-- No other message has the id of a note. -/
def NoteIdsApart (calls : List SupportCall) : Prop :=
  ∀ note ∈ calls, note.isNote = true → ∀ other ∈ calls, other.isNote = false →
    ∀ id ∈ note.messageId, id ∉ other.messageId

/-- The messages of a run have ids as `noteIds` says. -/
def HasIds (noteIds : Id → Prop) (calls : List SupportCall) : Prop :=
  ∀ call ∈ calls, ∀ id ∈ call.messageId, noteIds id ↔ call.isNote = true

theorem SupportCall.isBy_of_isNote {call : SupportCall} (h : call.isNote = true) :
    call.isBy customerId = false := by
  cases call with
  | replyToTicket messageId now currentUser ticketId dto =>
    have hagent : isAgent currentUser = true := ((Bool.and_eq_true ..).mp h).1
    simp [isBy, caller, hagent]
  | _ => cases h

theorem SupportCall.showsNoNote_of_ne {call : SupportCall} {db : Store}
    (h : ∀ currentUser ticketId, call ≠ .getTicket currentUser ticketId) :
    call.ShowsNoNote customerId db := by
  cases call with
  | getTicket currentUser ticketId => exact absurd rfl (h currentUser ticketId)
  | _ => exact True.intro

theorem SupportCall.showsNoNote_of_isNote {call : SupportCall} (h : call.isNote = true)
    {db : Store} : call.ShowsNoNote customerId db := by
  refine showsNoNote_of_ne ?_
  rintro currentUser ticketId rfl
  cases h

theorem SupportCall.getTicket_run_db {currentUser : AuthenticatedUser} {ticketId : Id}
    (db : Store) : (getTicket currentUser ticketId).run db = db :=
  Service.ReadOnly.run (.bind (.bind (.get _) fun _ => .bind assertTicketAccess_readOnly
    fun _ => .ret _) fun _ => .ret _) db

/-- What a call that is no note sends to the customer in either run, and what it leaves. -/
theorem NotesApart.step {db db' : Store} (h : NotesApart noteIds db db') {call : SupportCall}
    (hnote : call.isNote = false) (hid : ∀ id ∈ call.messageId, ¬ noteIds id)
    (hshows' : call.ShowsNoNote customerId db') :
    NotesApart noteIds (call.run db) (call.run db') ∧
      ((call.isBy customerId = true → (call.service.run db).1 = (call.service.run db').1) ↔
        call.ShowsNoNote customerId db) := by
  by_cases hget : ∃ currentUser ticketId, call = .getTicket currentUser ticketId
  · obtain ⟨currentUser, ticketId, rfl⟩ := hget
    rw [SupportCall.getTicket_run_db, SupportCall.getTicket_run_db]
    refine ⟨h, fun hout hby => ?_, fun hshows hby => ?_⟩
    · exact (getTicket_received_iff h hby hshows').mp (hout hby) hby
    · exact (getTicket_received_iff h hby hshows').mpr hshows
  · simp only [not_exists] at hget
    obtain ⟨hout, hrun⟩ := (SupportCall.respects hnote hid hget).run h
    exact ⟨hrun, fun _ => SupportCall.showsNoNote_of_ne hget, fun _ _ => hout⟩

/-- Against a run that shows no note, a run sends the customer the same just when it shows none
either. -/
theorem received_iff {calls calls' : List SupportCall}
    (halike : SupportCall.SameButNotes calls calls') (hids : HasIds noteIds calls)
    (hids' : HasIds noteIds calls') : ∀ {db db' : Store}, NotesApart noteIds db db' →
      MeetAll SupportCall.run (SupportCall.ShowsNoNote customerId) calls' db' →
      (SupportCall.received customerId calls db = SupportCall.received customerId calls' db' ↔
        MeetAll SupportCall.run (SupportCall.ShowsNoNote customerId) calls db) := by
  induction halike with
  | nil => exact fun _ _ => ⟨fun _ => True.intro, fun _ => rfl⟩
  | @same call calls calls' halike ih =>
    rintro db db' h ⟨hshows', hrest'⟩
    obtain ⟨hid, hids⟩ := List.forall_mem_cons.mp hids
    have hids' := (List.forall_mem_cons.mp hids').2
    cases hnote : call.isNote with
    | true =>
      have hid : ∀ id ∈ call.messageId, noteIds id := fun id hmem => (hid id hmem).mpr hnote
      have hapart := ((SupportCall.note_apart hnote hid db).symm.trans h).trans
        (SupportCall.note_apart hnote hid db')
      simp only [SupportCall.received, SupportCall.isBy_of_isNote hnote, Bool.false_eq_true,
        if_false, List.nil_append, MeetAll, SupportCall.showsNoNote_of_isNote hnote, true_and]
      exact ih hids hids' hapart hrest'
    | false =>
      have hid : ∀ id ∈ call.messageId, ¬ noteIds id := fun id hmem hnoteId => by
        have := (hid id hmem).mp hnoteId
        rw [hnote] at this
        cases this
      obtain ⟨hapart, hout⟩ := h.step hnote hid hshows'
      rw [MeetAll, ← ih hids hids' hapart hrest', ← hout]
      by_cases hby : call.isBy customerId = true <;> simp [SupportCall.received, hby]
  | @left note calls calls' hnote halike ih =>
    intro db db' h hshows'
    obtain ⟨hid, hids⟩ := List.forall_mem_cons.mp hids
    have hid : ∀ id ∈ note.messageId, noteIds id := fun id hmem => (hid id hmem).mpr hnote
    have hapart := (SupportCall.note_apart hnote hid db).symm.trans h
    simp only [SupportCall.received, SupportCall.isBy_of_isNote hnote, Bool.false_eq_true,
      if_false, List.nil_append, MeetAll, SupportCall.showsNoNote_of_isNote hnote, true_and]
    exact ih hids hids' hapart hshows'
  | @right note calls calls' hnote halike ih =>
    rintro db db' h ⟨-, hrest'⟩
    obtain ⟨hid', hids'⟩ := List.forall_mem_cons.mp hids'
    have hid' : ∀ id ∈ note.messageId, noteIds id := fun id hmem => (hid' id hmem).mpr hnote
    have hapart := h.trans (SupportCall.note_apart hnote hid' db')
    simp only [SupportCall.received, SupportCall.isBy_of_isNote hnote, Bool.false_eq_true,
      if_false, List.nil_append]
    exact ih hids hids' hapart hrest'

/-- In two runs that differ in notes only, of which one reads no ticket of the customer's that has
a note to it, the customer gets the same just when the other reads none either. -/
theorem notes_stay_internal_iff {calls calls' : List SupportCall} {db : Store}
    (halike : SupportCall.SameButNotes calls calls') (hids : NoteIdsApart (calls ++ calls'))
    (hshows' : MeetAll SupportCall.run (SupportCall.ShowsNoNote customerId) calls' db) :
    SupportCall.received customerId calls db = SupportCall.received customerId calls' db ↔
      MeetAll SupportCall.run (SupportCall.ShowsNoNote customerId) calls db := by
  have hnoteIds : HasIds (fun id => ∃ note ∈ calls ++ calls', note.isNote = true ∧
      id ∈ note.messageId) (calls ++ calls') := by
    refine fun call hcall id hid => ⟨fun ⟨note, hmem, hnote, hnoteId⟩ => ?_, fun hnote =>
      ⟨call, hcall, hnote, hid⟩⟩
    by_contra hcallNote
    exact hids note hmem hnote call hcall (Bool.eq_false_iff.mpr hcallNote) id hnoteId hid
  obtain ⟨hleft, hright⟩ := List.forall_mem_append.mp hnoteIds
  exact received_iff halike hleft hright (.refl db) hshows'

/-- An agent leaves a note in the ticket, and the customer reads the ticket. -/
def readAfterNote : List SupportCall := [
  .replyToTicket 1 5 ticketAgent 1
    { body := "Refund only if asked.", isInternal := some true, body_length := by decide },
  .getTicket ticketCustomer 1]

def readWithoutNote : List SupportCall := [.getTicket ticketCustomer 1]

/-- The customer reads the note. -/
theorem customer_reads_note :
    SupportCall.SameButNotes readAfterNote readWithoutNote ∧
      NoteIdsApart (readAfterNote ++ readWithoutNote) ∧
      SupportCall.received 20 readAfterNote ticketDesk ≠
        SupportCall.received 20 readWithoutNote ticketDesk :=
  ⟨.left rfl (.same _ .nil), by simp [NoteIdsApart, readAfterNote, readWithoutNote,
    SupportCall.isNote, SupportCall.messageId], by decide⟩

/-- An agent leaves a note in the ticket, and the customer lists its tickets. -/
def listAfterNote : List SupportCall := [
  .replyToTicket 1 5 ticketAgent 1
    { body := "Refund only if asked.", isInternal := some true, body_length := by decide },
  .listCustomerTickets ticketCustomer { limit_max := by simp }]

def listWithoutNote : List SupportCall :=
  [.listCustomerTickets ticketCustomer { limit_max := by simp }]

/-- The list has nothing of the note. -/
theorem notes_stay_internal_ticketDesk :
    SupportCall.received 20 listAfterNote ticketDesk =
      SupportCall.received 20 listWithoutNote ticketDesk := by
  have halike : SupportCall.SameButNotes listAfterNote listWithoutNote := .left rfl (.same _ .nil)
  have hids : NoteIdsApart (listAfterNote ++ listWithoutNote) := by
    simp [NoteIdsApart, listAfterNote, listWithoutNote, SupportCall.isNote, SupportCall.messageId]
  exact (notes_stay_internal_iff halike hids ⟨True.intro, True.intro⟩).mpr
    ⟨True.intro, True.intro, True.intro⟩

end Runs

end WerTe
