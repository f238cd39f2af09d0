import Mathlib.Data.Fin.VecNotation
import WerTe.ReadCommitted.RelyGuarantee
import WerTe.SupportTickets

/-!
# The status history of a support ticket

A reply and an update decide on the ticket they have read, and write afterwards, whatever the
ticket is like by then. Each commit is one of those of `TicketCommit`, and moves the ticket away
from the status that was read (`SupportCall.movesFrom`). The history stays a chain just when the
ticket still has that status (`UpToDate`), and then a reply leaves a ticket alone that was
resolved or closed (`ticket_history_chain_iff`).
-/

namespace WerTe

open ReadCommitted Tx SupportTicketsRepository SupportTicketsService

/-! ## The history -/

/-- The last entry of the history leads to the ticket's status. -/
def SupportTicket.LastEntry (ticket : SupportTicket) : Prop :=
  ticket.statusHistory.getLast?.map (·.toStatus) = some ticket.status

/-- Every entry of the history comes from where the one before it led to, and the last one leads
to the ticket's status. -/
structure SupportTicket.Chained (ticket : SupportTicket) : Prop where
  links : ticket.statusHistory.IsChain fun entry next => next.fromStatus = some entry.toStatus
  last : ticket.LastEntry

/-- The ticket's status in a database. -/
def ticketStatusIn (ticketId : Id) (db : Store) : Option SupportTicketStatus :=
  (db.get (.supportTicket, ticketId)).map (·.status)

theorem newTicket_chained (now : Date) (data : CreateSupportTicketInput) :
    (newTicket now data).Chained := ⟨.singleton _, rfl⟩

/-- A change without an entry. -/
theorem changed_lastEntry_iff {now : Date} {data : UpdateSupportTicketInput}
    (hdata : data.status = none) (ticket : SupportTicket) :
    (changed now data none ticket).LastEntry ↔ ticket.LastEntry := by
  simp [SupportTicket.LastEntry, changed, hdata]

theorem changed_chained_iff {now : Date} {data : UpdateSupportTicketInput}
    (hdata : data.status = none) (ticket : SupportTicket) :
    (changed now data none ticket).Chained ↔ ticket.Chained := by
  have hlast : (changed now data none ticket).LastEntry ↔ ticket.LastEntry :=
    changed_lastEntry_iff hdata ticket
  have hhistory : (changed now data none ticket).statusHistory = ticket.statusHistory := by
    simp [changed]
  constructor
  · rintro ⟨hlinks, h⟩
    exact ⟨by rwa [hhistory] at hlinks, hlast.mp h⟩
  · rintro ⟨hlinks, h⟩
    exact ⟨by rwa [hhistory], hlast.mpr h⟩

/-- An entry leads to the new status. -/
theorem changed_entry_lastEntry {now : Date} {data : UpdateSupportTicketInput}
    {entry : SupportTicketStatusHistory} (hdata : data.status = some entry.toStatus)
    (ticket : SupportTicket) :
    (changed now data (some entry) ticket).LastEntry := by
  simp [SupportTicket.LastEntry, changed, hdata]

/-- An entry keeps a history a chain just when it comes from the status that the ticket has. -/
theorem changed_entry_chained_iff {now : Date} {data : UpdateSupportTicketInput}
    {entry : SupportTicketStatusHistory} {status : SupportTicketStatus}
    (hdata : data.status = some entry.toStatus) (hfrom : entry.fromStatus = some status)
    {ticket : SupportTicket}
    (hlast : ticket.LastEntry) :
    (changed now data (some entry) ticket).Chained ↔ ticket.Chained ∧ ticket.status = status := by
  obtain ⟨lastEntry, hlastEntry, hto⟩ := Option.map_eq_some_iff.mp hlast
  constructor
  · rintro ⟨hlinks, -⟩
    obtain ⟨hbefore, -, hlink⟩ := List.isChain_append.mp hlinks
    have hnext := hlink lastEntry hlastEntry entry rfl
    rw [hfrom, hto] at hnext
    exact ⟨⟨hbefore, hlast⟩, (Option.some.inj hnext).symm⟩
  · rintro ⟨⟨hlinks, -⟩, rfl⟩
    refine ⟨List.isChain_append.mpr ⟨hlinks, .singleton _, ?_⟩, changed_entry_lastEntry hdata ticket⟩
    intro e he next hnext
    obtain rfl := Option.some.inj (hlastEntry.symm.trans he)
    obtain rfl := Option.some.inj hnext
    rw [hfrom, hto]

/-! ## What an operation goes by -/

namespace SupportCall

/-- The status that the operation moves its ticket away from, by what it has read. -/
def movesFrom (reads : List Store) : SupportCall → Option SupportTicketStatus
  | replyToTicket _ _ currentUser ticketId _ => do
    let record ← reads.head?.bind (findById · ticketId)
    if shouldReopen currentUser record.ticket then some record.ticket.status else none
  | updateTicket _ _ ticketId dto => do
    let record ← reads.head?.bind (findById · ticketId)
    (nextStatus dto record.ticket).map fun _ => record.ticket.status
  | _ => none

/-- A reply, but not an agent's. -/
def isCustomerReply : SupportCall → Bool
  | replyToTicket _ _ currentUser _ _ => !isAgent currentUser
  | _ => false

end SupportCall

/-- A ticket that the operation moves still has the status that it was read with. -/
def UpToDateTicket (call : SupportCall) (reads : List Store) (ws : List (Write Row))
    (db : Store) : Prop :=
  ∀ key ∈ ws.map Write.key, key.1 = .supportTicket →
    ∀ status ∈ call.movesFrom reads, ticketStatusIn key.2 db = some status

instance (call : SupportCall) (reads : List Store) (ws : List (Write Row)) (db : Store) :
    Decidable (UpToDateTicket call reads ws db) :=
  inferInstanceAs (Decidable (∀ key ∈ _, _ → ∀ status ∈ _, _))

/-- What an operation commits, to a ticket or beside it. -/
inductive TicketCommit (call : SupportCall) (reads : List Store) (db : Store) :
    List (Write Row) → Prop
  | other {ws : List (Write Row)} (h : ∀ w ∈ ws, w.table ≠ .supportTicket) :
    TicketCommit call reads db ws
  | create {ticketId : Id} {ticket : SupportTicket} {ws : List (Write Row)}
      (hnone : db.get (.supportTicket, ticketId) = none) (hticket : ticket.Chained)
      (hmoves : call.movesFrom reads = none) (h : ∀ w ∈ ws, w.table ≠ .supportTicket) :
    TicketCommit call reads db (⟨.supportTicket, ticketId, some ticket⟩ :: ws)
  | change {ticketId : Id} {ticket : SupportTicket} {now : Date} {data : UpdateSupportTicketInput}
      {entry : Option SupportTicketStatusHistory}
      (hget : db.get (.supportTicket, ticketId) = some ticket)
      (hdata : data.status = entry.map (·.toStatus))
      (hentry : entry.map (·.fromStatus) = (call.movesFrom reads).map some) :
    TicketCommit call reads db [⟨.supportTicket, ticketId, some (changed now data entry ticket)⟩]

/-! ## What each operation commits -/

section Guarantees

variable {R : Rely Row} {call : SupportCall} {reads : List Store} {seen db : Store}

theorem create_relies {ticketId messageId : Id} {now : Date} {data : CreateSupportTicketInput}
    (hmoves : call.movesFrom reads = none) :
    (create ticketId messageId now data).Relies R
      (fun _ _ ws db => TicketCommit call reads db ws) seen [] db := by
  refine .insertRow_bind fun db₁ _ hticket => .insertRow_bind fun db₂ hrel₂ _ => .ret
    fun db₃ hrel₃ => ?_
  have hnone : db₁.get (.supportTicket, ticketId) = none := by
    rw [Db.apply_nil, ticketViolation] at hticket
    split at hticket
    · cases hticket
    · rename_i habsent
      exact Option.not_isSome_iff_eq_none.mp habsent
  have hkeep : db₁.get (.supportTicket, ticketId) = db₃.get (.supportTicket, ticketId) :=
    (R.agree hrel₂).trans (Db.Agree.left (R.agree hrel₃)) (Tbl.supportTicket, ticketId)
      (by simp [Write.key])
  refine .create (hkeep.symm.trans hnone) (newTicket_chained now data) hmoves fun w hw => ?_
  rw [List.mem_singleton.mp hw]
  simp

theorem update_relies {ticketId : Id} {now : Date} {data : UpdateSupportTicketInput}
    {entry : Option SupportTicketStatusHistory} (hdata : data.status = entry.map (·.toStatus))
    (hentry : entry.map (·.fromStatus) = (call.movesFrom reads).map some) :
    (update ticketId now data entry).Relies R
      (fun _ _ ws db => TicketCommit call reads db ws) seen [] db := by
  intro db₁ _ b ws hq db₂ hrel₂
  dsimp only at hq
  cases hget : (db₁.apply []).get (.supportTicket, ticketId) with
  | none =>
    rw [hget] at hq
    cases hq
  | some ticket =>
    rw [hget] at hq
    dsimp only at hq
    split at hq
    · cases hq
      have hkeep := R.agree hrel₂ (.supportTicket, ticketId) (by simp [Write.key])
      exact .change (hkeep.symm.trans hget) hdata hentry
    · cases hq

theorem addMessage_relies {messageId : Id} {message : SupportTicketMessage} :
    (addMessage messageId message).Relies R
      (fun _ _ ws db => TicketCommit call reads db ws) seen [] db := by
  refine .insertRow_bind fun _ _ _ => .ret fun _ _ => .other fun w hw => ?_
  rw [List.mem_singleton.mp hw]
  simp

theorem listPage_guarantees {Q : List Store → Store → List (Write Row) → Store → Prop}
    {matching : SupportTicket → Bool}
    {before : SupportTicketRecord → SupportTicketRecord → Bool}
    {query : ListSupportTicketsQueryDto} :
    (listPage matching before query).Guarantees R Q reads :=
  .get_bind fun _ _ => .get_bind fun _ _ => True.intro

theorem assertTicketAccess_guarantees {α : Type}
    {Q : List Store → Store → List (Write Row) → Store → Prop} {currentUser : AuthenticatedUser}
    {found : Option SupportTicketRecord} {f : SupportTicketRecord → StoreService α}
    (hf : ∀ ticket, found = some ticket → (f ticket).Guarantees R Q reads) :
    ((assertTicketAccess currentUser found).bind f).Guarantees R Q reads := by
  cases found with
  | none => exact True.intro
  | some ticket =>
    show (((Service.require _ _).bind fun _ => .ret ticket).bind f).Guarantees R Q reads
    unfold Service.require
    split
    · exact hf ticket rfl
    · exact True.intro

/-- Whatever else is going on, this is all that an operation commits. -/
theorem SupportCall.guarantees (call : SupportCall) :
    call.service.Guarantees R (fun reads _ ws db => TicketCommit call reads db ws) [] := by
  cases call with
  | createTicket ticketId messageId ticketNumber now currentUser dto =>
    exact .bind_ret (.transaction fun _ _ _ => create_relies rfl)
  | listCustomerTickets currentUser query => exact .bind_ret listPage_guarantees
  | getTicket currentUser ticketId =>
    exact .bind_ret (.get_bind fun _ _ => assertTicketAccess_guarantees fun _ _ => True.intro)
  | replyToTicket messageId now currentUser ticketId dto =>
    refine .bind_ret (.get_bind fun db₀ _ => assertTicketAccess_guarantees fun ticket hfound =>
      .require_bind fun _ => .transaction_bind (fun _ _ _ => addMessage_relies) fun message => ?_)
    by_cases hreopen : shouldReopen currentUser ticket.ticket = true
    · rw [if_pos hreopen]
      have hstatus : ticket.ticket.status = .pendingCustomer := by
        rw [shouldReopen, Bool.and_eq_true, beq_iff_eq] at hreopen
        exact hreopen.2
      refine .bind_ret (.transaction fun _ _ _ => update_relies rfl ?_)
      simp [SupportCall.movesFrom, hfound, hreopen, hstatus, reopenedEntry]
    · rw [if_neg hreopen]
      exact True.intro
  | updateTicket now currentUser ticketId dto =>
    refine .bind_ret (.get_bind fun db₀ _ => .orFail_bind fun ticket hfound =>
      .transaction fun _ _ _ => update_relies ?_ ?_)
    · cases hnext : nextStatus dto ticket.ticket <;> simp [updateData, updateEntry, hnext]
    · simp [SupportCall.movesFrom, hfound, updateEntry, Function.comp_def]
  | listAgentTickets currentUser query => exact .bind_ret listPage_guarantees

end Guarantees

/-! ## One commit -/

section Commits

variable {call : SupportCall} {reads : List Store} {ws : List (Write Row)} {db : Store}

/-- The last entry of every history leads to the ticket's status. -/
def LastEntries (db : Store) : Prop := ∀ ticketId ticket,
  db.get (.supportTicket, ticketId) = some ticket → ticket.LastEntry

/-- Every history is a chain. -/
def ChainedTickets (db : Store) : Prop := ∀ ticketId ticket,
  db.get (.supportTicket, ticketId) = some ticket → ticket.Chained

/-- A property of all tickets, after one of them is written. -/
theorem forall_tickets_put {P : SupportTicket → Prop} {ticketId : Id} {ticket : SupportTicket}
    {others : List (Write Row)} (hothers : ∀ w ∈ others, w.table ≠ .supportTicket) :
    (∀ i t, (db.apply (⟨.supportTicket, ticketId, some ticket⟩ :: others)).get (.supportTicket, i) =
      some t → P t) ↔ P ticket ∧ ∀ i, i ≠ ticketId → ∀ t, db.get (.supportTicket, i) = some t → P t := by
  have hself : (db.apply (⟨.supportTicket, ticketId, some ticket⟩ :: others)).get
      (.supportTicket, ticketId) = some ticket := by
    rw [Db.apply_cons, Db.get_apply_of_table hothers]
    exact Db.get_put_self db ⟨.supportTicket, ticketId, some ticket⟩
  have hne : ∀ i, i ≠ ticketId → (db.apply (⟨.supportTicket, ticketId, some ticket⟩ :: others)).get
      (.supportTicket, i) = db.get (.supportTicket, i) := by
    intro i hi
    rw [Db.apply_cons, Db.get_apply_of_table hothers]
    exact Db.get_put_ne db fun h => hi (congrArg Prod.snd h)
  constructor
  · exact fun h => ⟨h _ _ hself, fun i hi t ht => h i t ((hne i hi).trans ht)⟩
  · rintro ⟨hticket, hrest⟩ i t ht
    by_cases hi : i = ticketId
    · subst hi
      rwa [← Option.some.inj (hself.symm.trans ht)]
    · exact hrest i hi t ((hne i hi).symm.trans ht)

/-- Before it is written. -/
theorem forall_tickets_split {P : SupportTicket → Prop} (db : Store) (ticketId : Id) :
    (∀ i t, db.get (.supportTicket, i) = some t → P t) ↔
      (∀ t, db.get (.supportTicket, ticketId) = some t → P t) ∧
        ∀ i, i ≠ ticketId → ∀ t, db.get (.supportTicket, i) = some t → P t := by
  refine ⟨fun h => ⟨h ticketId, fun i _ => h i⟩, fun h i => ?_⟩
  by_cases hi : i = ticketId
  · subst hi
    exact h.1
  · exact h.2 i hi

theorem TicketCommit.lastEntries (h : TicketCommit call reads db ws) (hdb : LastEntries db) :
    LastEntries (db.apply ws) := by
  cases h with
  | other hother => exact fun i t ht => hdb i t ((Db.get_apply_of_table hother).symm.trans ht)
  | @create ticketId _ _ hnone hticket _ hothers =>
    exact (forall_tickets_put hothers).mpr
      ⟨hticket.last, ((forall_tickets_split db ticketId).mp hdb).2⟩
  | @change ticketId ticket now data entry hget hdata hentry =>
    refine (forall_tickets_put (by simp)).mpr ⟨?_, ((forall_tickets_split db ticketId).mp hdb).2⟩
    cases entry with
    | none => exact (changed_lastEntry_iff hdata ticket).mpr (hdb ticketId ticket hget)
    | some entry => exact changed_entry_lastEntry hdata ticket

/-- The histories are chains after a commit just when they are before and it is up to date. -/
theorem TicketCommit.chainedTickets_iff (h : TicketCommit call reads db ws)
    (hdb : LastEntries db) :
    ChainedTickets (db.apply ws) ↔ ChainedTickets db ∧ UpToDateTicket call reads ws db := by
  cases h with
  | other hother =>
    have hcurrent : UpToDateTicket call reads ws db := by
      intro key hmem hkey
      obtain ⟨w, hw, rfl⟩ := List.mem_map.mp hmem
      exact absurd hkey (hother w hw)
    have hsame : ∀ i, (db.apply ws).get (.supportTicket, i) = db.get (.supportTicket, i) :=
      fun i => Db.get_apply_of_table hother
    simp only [ChainedTickets, hsame, hcurrent, and_true]
  | @create ticketId ticket others hnone hticket hmoves hothers =>
    have hcurrent : UpToDateTicket call reads (⟨.supportTicket, ticketId, some ticket⟩ :: others) db :=
      fun _ _ _ status hstatus => by rw [hmoves] at hstatus; cases hstatus
    unfold ChainedTickets
    rw [forall_tickets_put hothers, forall_tickets_split db ticketId, hnone]
    simp [hticket, hcurrent]
  | @change ticketId ticket now data entry hget hdata hentry =>
    have hlast := hdb ticketId ticket hget
    have hcurrent : UpToDateTicket call reads
        [⟨.supportTicket, ticketId, some (changed now data entry ticket)⟩] db ↔
        ∀ status ∈ call.movesFrom reads, ticket.status = status := by
      simp [UpToDateTicket, Write.key, ticketStatusIn, hget]
    have hchained : (changed now data entry ticket).Chained ↔
        ticket.Chained ∧ ∀ status ∈ call.movesFrom reads, ticket.status = status := by
      cases hmoves : call.movesFrom reads with
      | none =>
        rw [hmoves, Option.map_none, Option.map_eq_none_iff] at hentry
        subst hentry
        simp [changed_chained_iff hdata]
      | some status =>
        rw [hmoves, Option.map_some, Option.map_eq_some_iff] at hentry
        obtain ⟨entry, rfl, hfrom⟩ := hentry
        rw [changed_entry_chained_iff hdata hfrom hlast]
        simp
    unfold ChainedTickets
    rw [forall_tickets_put (by simp), forall_tickets_split db ticketId, hcurrent, hchained,
      hget]
    simp only [Option.some.injEq, forall_eq']
    tauto

/-- If the call is a customer's reply, a ticket that has been resolved or closed stays so. -/
def ReplyKeepsEnded (call : SupportCall) (db db' : Store) : Prop :=
  call.isCustomerReply = true → ∀ ticketId, ∀ status ∈ ticketStatusIn ticketId db,
    status ∈ terminalStatuses → ticketStatusIn ticketId db' = some status

/-- A customer's reply moves a ticket only if it waits for the customer. -/
theorem SupportCall.movesFrom_customerReply {status : SupportTicketStatus}
    (hcall : call.isCustomerReply = true) (h : call.movesFrom reads = some status) :
    status = .pendingCustomer := by
  cases call with
  | replyToTicket messageId now currentUser ticketId dto =>
    obtain ⟨ticket, -, hreopen⟩ := Option.bind_eq_some_iff.mp h
    obtain ⟨hreopen, hstatus⟩ := Option.ite_none_right_eq_some.mp hreopen
    rw [shouldReopen, Bool.and_eq_true, beq_iff_eq] at hreopen
    exact (Option.some.inj hstatus).symm.trans hreopen.2
  | _ => cases hcall

theorem TicketCommit.replyKeepsEnded (h : TicketCommit call reads db ws)
    (hcurrent : UpToDateTicket call reads ws db) : ReplyKeepsEnded call db (db.apply ws) := by
  intro hcall ticketId status hstatus hended
  cases h with
  | other hother =>
    rw [ticketStatusIn, Db.get_apply_of_table hother]
    exact hstatus
  | @create ticketId' ticket others hnone _ _ hothers =>
    have hne : ticketId ≠ ticketId' := by
      rintro rfl
      rw [ticketStatusIn, hnone] at hstatus
      cases hstatus
    rw [ticketStatusIn, Db.apply_cons, Db.get_apply_of_table hothers,
      Db.get_put_ne db fun h => hne (congrArg Prod.snd h)]
    exact hstatus
  | @change ticketId' ticket now data entry hget hdata hentry =>
    by_cases hne : ticketId = ticketId'
    · subst hne
      have hself : ticketStatusIn ticketId (db.apply
          [⟨.supportTicket, ticketId, some (changed now data entry ticket)⟩]) =
            some (changed now data entry ticket).status :=
        congrArg (Option.map _) (Db.get_put_self db ⟨.supportTicket, ticketId, some _⟩)
      have hticket : ticketStatusIn ticketId db = some ticket.status := by
        rw [ticketStatusIn, hget, Option.map_some]
      obtain rfl := Option.some.inj (hticket.symm.trans hstatus)
      cases hmoves : call.movesFrom reads with
      | none =>
        rw [hmoves, Option.map_none, Option.map_eq_none_iff] at hentry
        subst hentry
        rw [hself, changed, hdata]
        rfl
      | some status =>
        -- the ticket has the status that was read, which is not one of the last two
        have hread := hcurrent (.supportTicket, ticketId) (by simp [Write.key]) rfl status hmoves
        obtain rfl := SupportCall.movesFrom_customerReply hcall hmoves
        rw [hticket, Option.some.injEq] at hread
        rw [hread] at hended
        cases hended with
        | tail _ h => cases h with
          | tail _ h => cases h
    · rw [ticketStatusIn, Db.apply_cons, Db.apply_nil,
        Db.get_put_ne db fun h => hne (congrArg Prod.snd h)]
      exact hstatus

end Commits

/-! ## Runs -/

section Runs

variable {ι : Type} [Fintype ι] [DecidableEq ι] {db₀ : Store} {calls : ι → SupportCall}

/-- After the commits so far, the histories are chains just when all of them were up to date. -/
structure TicketLog (calls : ι → SupportCall) (log : List (Event ι Row)) (db : Store) : Prop where
  commits : ∀ e ∈ log, TicketCommit (calls e.call) e.reads e.db e.writes
  last : LastEntries db
  chained : ChainedTickets db ↔
    ∀ e ∈ log, UpToDateTicket (calls e.call) e.reads e.writes e.db

omit [Fintype ι] [DecidableEq ι] in
theorem TicketLog.snoc {log : List (Event ι Row)} {e : Event ι Row} (h : TicketLog calls log e.db)
    (hcommit : TicketCommit (calls e.call) e.reads e.db e.writes) :
    TicketLog calls (log ++ [e]) e.result := by
  refine ⟨?_, hcommit.lastEntries h.last, ?_⟩
  · exact List.forall_mem_append.mpr ⟨h.commits, List.forall_mem_singleton.mpr hcommit⟩
  · rw [Event.result, hcommit.chainedTickets_iff h.last, h.chained]
    simp [or_imp, forall_and]

/-- However the operations on tickets interleave: the histories are chains that lead to the
tickets' statuses, and no customer's reply moves a ticket that was resolved or closed, just when
every ticket that is moved still has the status that it was read with. -/
theorem ticket_history_chain_iff (hstart : ChainedTickets db₀)
    {m : Machine ι Row Failure SupportResponse} {log : List (Event ι Row)}
    (hrun : Machine.Traced (.start db₀ fun i => (calls i).service) log m) :
    (ChainedTickets m.db ∧ ∀ e ∈ log, ReplyKeepsEnded (calls e.call) e.db e.result) ↔
      ∀ e ∈ log, UpToDateTicket (calls e.call) e.reads e.writes e.db := by
  obtain ⟨reads, htrace⟩ := hrun
  have hlog : TicketLog calls log m.db := (htrace.sound
    (R := .rows fun _ => True) (J := TicketLog calls)
    (Q := fun i reads _ ws db => TicketCommit (calls i) reads db ws)
    (fun log e _ h _ hcommit => .rows True.intro (h.snoc hcommit)) True.intro
    (fun i => (calls i).guarantees)
    ⟨by simp, fun i t ht => (hstart i t ht).last, by simp [hstart]⟩ fun _ _ => True.intro).2
  constructor
  · exact fun h => hlog.chained.mp h.1
  · exact fun h => ⟨hlog.chained.mpr h, fun e he => (hlog.commits e he).replyKeepsEnded (h e he)⟩

end Runs

/-! ## A ticket that waits for its customer -/

def ticketCustomer : AuthenticatedUser where
  userId := 20
  role := .customer
  merchantId := none
  customerProfileId := some 1
  riderId := none

def ticketAgent : AuthenticatedUser where
  userId := 50
  role := .support
  merchantId := none
  customerProfileId := none
  riderId := none

def lateTicket : SupportTicket where
  ticketNumber := "TKT-20260601-0001"
  customerId := 20
  assignedAgentId := none
  orderId := none
  category := .orderIssue
  priority := .normal
  status := .pendingCustomer
  subject := "Order not delivered"
  resolvedAt := none
  closedAt := none
  createdAt := 0
  updatedAt := 1
  statusHistory := [⟨none, .opened, none, none⟩, ⟨some .opened, .pendingCustomer, some 50, none⟩]

def ticketDesk : Store := Db.empty.apply [
  ⟨.user, 20, some { status := .active, role := .customer }⟩,
  ⟨.user, 50, some { status := .active, role := .support }⟩,
  ⟨.supportTicket, 1, some lateTicket⟩]

theorem chainedTickets_ticketDesk : ChainedTickets ticketDesk := by
  intro ticketId ticket hticket
  have hmem : (ticketId, ticket) ∈ ticketDesk.list .supportTicket fun _ => true :=
    Db.mem_list.mpr ⟨hticket, rfl⟩
  have hlist : (ticketDesk.list .supportTicket fun _ => true) = [(1, lateTicket)] := by decide
  rw [hlist, List.mem_singleton, Prod.mk.injEq] at hmem
  rw [hmem.2]
  exact ⟨by decide, rfl⟩

/-- The customer replies, and an agent closes the ticket. -/
def replyAndClose : Fin 2 → SupportCall :=
  ![.replyToTicket 1 5 ticketCustomer 1 { body := "Still not here.", body_length := by decide },
    .updateTicket 5 ticketAgent 1 { status := some .closed, note_max := fun _ h => by cases h }]

/-- When the customer's reply has read the ticket before the agent's update commits, the ticket
is taken out of CLOSED, and its history says that it waited for the customer before that. -/
theorem closed_ticket_reopened : ∃ log m,
    Machine.Traced (.start ticketDesk fun i => (replyAndClose i).service) log m ∧
      ¬ ChainedTickets m.db ∧ ¬ ∀ e ∈ log, ReplyKeepsEnded (replyAndClose e.call) e.db e.result := by
  have hexec : ((Machine.start ticketDesk fun i => (replyAndClose i).service).exec
      (List.map .run ([0] ++ List.replicate 4 1 ++ List.replicate 6 0))).any (fun m =>
        (m.db.get (.supportTicket, 1)).any fun ticket => ticket.statusHistory.map
          (fun entry => (entry.fromStatus, entry.toStatus)) ==
            [(none, .opened), (some .opened, .pendingCustomer), (some .pendingCustomer, .closed),
              (some .pendingCustomer, .inProgress)]) = true := by decide
  have hlog : ((Machine.start ticketDesk fun i => (replyAndClose i).service).execEvents
      (List.map .run ([0] ++ List.replicate 4 1 ++ List.replicate 6 0)) fun _ => []).any
        (fun e => e.call == 0 && ticketStatusIn 1 e.db == some .closed &&
          ticketStatusIn 1 e.result == some .inProgress) = true := by decide
  obtain ⟨m, hm, hticket⟩ := (Option.any_eq_true _ _).mp hexec
  obtain ⟨ticket, hget, hhistory⟩ := (Option.any_eq_true _ _).mp hticket
  obtain ⟨e, he, hstatus⟩ := List.any_eq_true.mp hlog
  simp only [Bool.and_eq_true, beq_iff_eq] at hstatus
  refine ⟨_, m, Machine.Traced.exec hm, fun hchained => ?_, fun hkept => ?_⟩
  · have hlinks := (hchained 1 ticket hget).links
    have hpairs : (ticket.statusHistory.map fun entry => (entry.fromStatus, entry.toStatus)).IsChain
        fun entry next => next.1 = some entry.2 := (List.isChain_map _).mpr hlinks
    rw [eq_of_beq hhistory] at hpairs
    exact absurd hpairs (by decide)
  · have hended := hkept e he (by rw [hstatus.1.1]; rfl) 1 .closed hstatus.1.2 (by decide)
    rw [hstatus.2] at hended
    cases hended

/-- When the agent reads the ticket afterwards, it is closed and its history is a chain. -/
theorem ticket_history_chain_ticketDesk : ∃ log m,
    Machine.Traced (.start ticketDesk fun i => (replyAndClose i).service) log m ∧
      ticketStatusIn 1 m.db = some .closed ∧ ChainedTickets m.db := by
  have hexec : ((Machine.start ticketDesk fun i => (replyAndClose i).service).exec
      (List.map .run (List.replicate 7 0 ++ List.replicate 4 1))).any (fun m =>
        ticketStatusIn 1 m.db == some .closed) = true := by decide
  have hcurrent : ∀ e ∈ (Machine.start ticketDesk fun i => (replyAndClose i).service).execEvents
      (List.map .run (List.replicate 7 0 ++ List.replicate 4 1)) fun _ => [],
        UpToDateTicket (replyAndClose e.call) e.reads e.writes e.db := by decide
  obtain ⟨m, hm, hstatus⟩ := (Option.any_eq_true _ _).mp hexec
  have hrun := Machine.Traced.exec hm
  exact ⟨_, m, hrun, eq_of_beq hstatus,
    ((ticket_history_chain_iff chainedTickets_ticketDesk hrun).mpr hcurrent).1⟩

end WerTe
