import Mathlib.Data.PNat.Defs
import Mathlib.Data.List.Sort
import WerTe.Schema

/-!
# Support tickets

`support-tickets.service.ts` and `support-tickets.repository.ts`: a customer opens a ticket and
writes to it, agents answer, leave notes for each other, and move the ticket along.

* `SupportTicketsRepository.update`: a status change and its entry of the history
* `replyToTicket`, `updateTicket`: each decides on the ticket it has read
* `SupportCall`: the operations
-/

namespace WerTe

open ReadCommitted

/-! ## Requests -/

structure CreateSupportTicketDto where
  category : SupportTicketCategory
  subject : String
  body : String
  orderId : Option Id := none
  priority : Option SupportTicketPriority := none
  subject_length : 5 ≤ subject.length ∧ subject.length ≤ 200
  body_length : 10 ≤ body.length ∧ body.length ≤ 2000

structure ListSupportTicketsQueryDto where
  status : Option SupportTicketStatus := none
  category : Option SupportTicketCategory := none
  priority : Option SupportTicketPriority := none
  page : Option ℕ+ := none
  limit : Option ℕ+ := none
  limit_max : ∀ n ∈ limit, (n : ℕ) ≤ 100

/-- An internal note is visible to support agents only. -/
structure ReplySupportTicketDto where
  body : String
  isInternal : Option Bool := none
  storageKey : Option String := none
  body_length : 1 ≤ body.length ∧ body.length ≤ 2000

structure UpdateSupportTicketDto where
  status : Option SupportTicketStatus := none
  priority : Option SupportTicketPriority := none
  assignedAgentId : Field Id := .undefined
  note : Option String := none
  note_max : ∀ text ∈ note, text.length ≤ 500

/-! ## `support-tickets.repository.ts` -/

/-- A ticket as a query returns it, without its history. -/
structure SupportTicketRecord where
  id : Id
  ticket : SupportTicket
deriving DecidableEq

/-- A message with its id. -/
structure SupportTicketMessageRecord where
  id : Id
  message : SupportTicketMessage
deriving DecidableEq

structure SupportTicketPage where
  tickets : List SupportTicketRecord
  total : ℕ
deriving DecidableEq

structure CreateSupportTicketInput where
  ticketNumber : String
  customerId : Id
  orderId : Option Id
  category : SupportTicketCategory
  priority : SupportTicketPriority
  subject : String
  firstMessageBody : String

structure UpdateSupportTicketInput where
  status : Option SupportTicketStatus := none
  priority : Option SupportTicketPriority := none
  assignedAgentId : Field Id := .undefined
  resolvedAt : Option Date := none
  closedAt : Option Date := none

namespace SupportTicketsRepository

def record (id : Id) (ticket : SupportTicket) : SupportTicketRecord :=
  ⟨id, { ticket with statusHistory := [] }⟩

def newTicket (now : Date) (data : CreateSupportTicketInput) : SupportTicket where
  ticketNumber := data.ticketNumber
  customerId := data.customerId
  assignedAgentId := none
  orderId := data.orderId
  category := data.category
  priority := data.priority
  status := .opened
  subject := data.subject
  resolvedAt := none
  closedAt := none
  createdAt := now
  updatedAt := now
  statusHistory := [⟨none, .opened, none, none⟩]

def firstMessage (ticketId : Id) (now : Date) (data : CreateSupportTicketInput) :
    SupportTicketMessage where
  ticketId := ticketId
  senderUserId := data.customerId
  body := data.firstMessageBody
  isInternal := false
  storageKey := none
  createdAt := now

/-- What the database has against a new ticket. -/
def ticketViolation (ticketId : Id) (data : CreateSupportTicketInput) (db : Store) :
    Option Failure :=
  if (db.get (.supportTicket, ticketId)).isSome then some (.uniqueConstraint "id")
  else if (db.list .supportTicket (·.ticketNumber == data.ticketNumber)) ≠ [] then
    some (.uniqueConstraint "ticketNumber")
  else if ∀ orderId ∈ data.orderId, (db.get (.order, orderId)).isSome then none
  else some (.foreignKeyConstraint "orderId")

/-- What the database has against a new message. -/
def messageViolation (messageId ticketId : Id) (db : Store) : Option Failure :=
  if (db.get (.supportTicketMessage, messageId)).isSome then some (.uniqueConstraint "id")
  else if (db.get (.supportTicket, ticketId)).isNone then some (.foreignKeyConstraint "ticketId")
  else none

def create (ticketId messageId : Id) (now : Date) (data : CreateSupportTicketInput) :
    StoreTx SupportTicketRecord := do
  .insertRow (.supportTicket, ticketId) (newTicket now data) (ticketViolation ticketId data)
  .insertRow (.supportTicketMessage, messageId) (firstMessage ticketId now data)
    (messageViolation messageId ticketId)
  .ret (record ticketId (newTicket now data))

def findById (db : Store) (id : Id) : Option SupportTicketRecord :=
  (db.get (.supportTicket, id)).map (record id)

/-- The messages of a ticket, the oldest first. -/
def listMessages (db : Store) (ticketId : Id) : List SupportTicketMessageRecord :=
  ((db.list .supportTicketMessage (·.ticketId == ticketId)).reverse.map fun row =>
    (⟨row.1, row.2⟩ : SupportTicketMessageRecord)).insertionSort fun left right =>
      left.message.createdAt ≤ right.message.createdAt

/-- Matches a filter that may be left out. -/
def filters {α : Type} [DecidableEq α] (filter : Option α) (value : α) : Bool :=
  filter.all (· == value)

/-- One page of the tickets that match, in an order. -/
def findPage (db : Store) (matching : SupportTicket → Bool)
    (before : SupportTicketRecord → SupportTicketRecord → Bool)
    (query : ListSupportTicketsQueryDto) : List SupportTicketRecord :=
  let page : ℕ := query.page.getD 1
  let limit : ℕ := query.limit.getD 20
  let tickets := ((db.list .supportTicket matching).map fun row =>
    record row.1 row.2).insertionSort fun left right => before left right
  (tickets.drop ((page - 1) * limit)).take limit

def listPage (matching : SupportTicket → Bool)
    (before : SupportTicketRecord → SupportTicketRecord → Bool)
    (query : ListSupportTicketsQueryDto) : StoreService SupportTicketPage := do
  let tickets ← .get fun db => findPage db matching before query
  let total ← .get fun db => (db.list .supportTicket matching).length
  .ret ⟨tickets, total⟩

def listByCustomer (customerId : Id) (query : ListSupportTicketsQueryDto) :
    StoreService SupportTicketPage :=
  listPage (fun ticket => ticket.customerId == customerId &&
      filters query.status ticket.status && filters query.category ticket.category)
    (fun left right => right.ticket.createdAt ≤ left.ticket.createdAt) query

/-- The place of a priority in its enumeration. -/
def rank : SupportTicketPriority → ℕ
  | .low => 0
  | .normal => 1
  | .high => 2
  | .urgent => 3

def listForAgent (query : ListSupportTicketsQueryDto) : StoreService SupportTicketPage :=
  listPage (fun ticket => filters query.status ticket.status &&
      filters query.category ticket.category && filters query.priority ticket.priority)
    (fun left right =>
      ((compare (rank right.ticket.priority) (rank left.ticket.priority)).then
        (compare left.ticket.createdAt right.ticket.createdAt)) != .gt) query

/-- The columns that are given, and an entry of the history. -/
def changed (now : Date) (data : UpdateSupportTicketInput)
    (statusHistoryEntry : Option SupportTicketStatusHistory) (ticket : SupportTicket) :
    SupportTicket :=
  { ticket with
    status := data.status.getD ticket.status
    priority := data.priority.getD ticket.priority
    assignedAgentId := data.assignedAgentId.setNullable ticket.assignedAgentId
    resolvedAt := data.resolvedAt.or ticket.resolvedAt
    closedAt := data.closedAt.or ticket.closedAt
    updatedAt := now
    statusHistory := ticket.statusHistory ++ statusHistoryEntry.toList }

/-- The ticket is changed whatever it is like by then. -/
def update (ticketId : Id) (now : Date) (data : UpdateSupportTicketInput)
    (statusHistoryEntry : Option SupportTicketStatusHistory) : StoreTx SupportTicketRecord :=
  .attempt fun db =>
    match db.get (.supportTicket, ticketId) with
    | none => .error .recordNotFound
    | some ticket =>
      if ∀ agentId ∈ data.assignedAgentId.toOption, (db.get (.user, agentId)).isSome then
        .ok (record ticketId (changed now data statusHistoryEntry ticket),
          [⟨.supportTicket, ticketId, some (changed now data statusHistoryEntry ticket)⟩])
      else .error (.foreignKeyConstraint "assignedAgentId")

def addMessage (messageId : Id) (message : SupportTicketMessage) :
    StoreTx SupportTicketMessageRecord := do
  .insertRow (.supportTicketMessage, messageId) message
    (messageViolation messageId message.ticketId)
  .ret ⟨messageId, message⟩

end SupportTicketsRepository

/-! ## `support-tickets.service.ts` -/

namespace SupportTicketsService

open SupportTicketsRepository

/-- `TERMINAL_STATUSES`. -/
def terminalStatuses : List SupportTicketStatus := [.resolved, .closed]

def isAgent (currentUser : AuthenticatedUser) : Bool :=
  currentUser.role == .support || currentUser.role == .admin

structure TicketWithMessages where
  ticket : SupportTicketRecord
  messages : List SupportTicketMessageRecord
deriving DecidableEq

def assertTicketAccess (currentUser : AuthenticatedUser) (found : Option SupportTicketRecord) :
    StoreService SupportTicketRecord := do
  let ticket ← .orFail found (fail "Support ticket not found." .notFound)
  .require (isAgent currentUser ∨ ticket.ticket.customerId = currentUser.userId)
    (fail "Access denied." .forbidden)
  .ret ticket

/-- `ticketNumber` comes from a counter in Redis. -/
def createTicket (ticketId messageId : Id) (ticketNumber : String) (now : Date)
    (currentUser : AuthenticatedUser) (dto : CreateSupportTicketDto) :
    StoreService SupportTicketRecord :=
  .transaction (create ticketId messageId now {
    ticketNumber
    customerId := currentUser.userId
    orderId := dto.orderId
    category := dto.category
    priority := dto.priority.getD .normal
    subject := dto.subject
    firstMessageBody := dto.body })

def listCustomerTickets (currentUser : AuthenticatedUser) (query : ListSupportTicketsQueryDto) :
    StoreService SupportTicketPage := listByCustomer currentUser.userId query

def getTicket (currentUser : AuthenticatedUser) (ticketId : Id) :
    StoreService TicketWithMessages := do
  let (found, messages) ← .get fun db => (findById db ticketId, listMessages db ticketId)
  let ticket ← assertTicketAccess currentUser found
  .ret ⟨ticket, messages⟩

def replyMessage (ticketId : Id) (now : Date) (currentUser : AuthenticatedUser)
    (dto : ReplySupportTicketDto) : SupportTicketMessage where
  ticketId := ticketId
  senderUserId := currentUser.userId
  body := dto.body
  isInternal := isAgent currentUser && dto.isInternal.getD false
  storageKey := dto.storageKey
  createdAt := now

/-- The customer replies to a ticket that waits for it. -/
def shouldReopen (currentUser : AuthenticatedUser) (ticket : SupportTicket) : Bool :=
  !isAgent currentUser && ticket.status == .pendingCustomer

/-- The entry that says the customer has replied. -/
def reopenedEntry (currentUser : AuthenticatedUser) : SupportTicketStatusHistory where
  fromStatus := some .pendingCustomer
  toStatus := .inProgress
  changedByUserId := some currentUser.userId
  note := some "Customer replied."

def replyToTicket (messageId : Id) (now : Date) (currentUser : AuthenticatedUser) (ticketId : Id)
    (dto : ReplySupportTicketDto) : StoreService SupportTicketMessageRecord := do
  let found ← .get fun db => findById db ticketId
  let ticket ← assertTicketAccess currentUser found
  .require (ticket.ticket.status ∉ terminalStatuses)
    (fail "Cannot reply to a resolved or closed ticket." .unprocessableEntity)
  let message ← .transaction (addMessage messageId (replyMessage ticketId now currentUser dto))
  if shouldReopen currentUser ticket.ticket then do
    let _ ← .transaction (update ticketId now { status := some .inProgress }
      (some (reopenedEntry currentUser)))
    .ret message
  else .ret message

/-- The status that the request gives to the ticket, if that is another one. -/
def nextStatus (dto : UpdateSupportTicketDto) (ticket : SupportTicket) :
    Option SupportTicketStatus := dto.status.filter (· ≠ ticket.status)

def updateData (now : Date) (dto : UpdateSupportTicketDto) (ticket : SupportTicket) :
    UpdateSupportTicketInput where
  status := nextStatus dto ticket
  priority := dto.priority
  assignedAgentId := dto.assignedAgentId
  resolvedAt := if nextStatus dto ticket = some .resolved then some now else none
  closedAt := if nextStatus dto ticket = some .closed then some now else none

def updateEntry (currentUser : AuthenticatedUser) (dto : UpdateSupportTicketDto)
    (ticket : SupportTicket) : Option SupportTicketStatusHistory :=
  (nextStatus dto ticket).map fun status =>
    ⟨some ticket.status, status, some currentUser.userId, dto.note⟩

def updateTicket (now : Date) (currentUser : AuthenticatedUser) (ticketId : Id)
    (dto : UpdateSupportTicketDto) : StoreService SupportTicketRecord := do
  let found ← .get fun db => findById db ticketId
  let ticket ← .orFail found (fail "Support ticket not found." .notFound)
  .transaction (update ticketId now (updateData now dto ticket.ticket)
    (updateEntry currentUser dto ticket.ticket))

def listAgentTickets (query : ListSupportTicketsQueryDto) : StoreService SupportTicketPage :=
  listForAgent query

end SupportTicketsService

/-! ## The operations -/

open SupportTicketsService

inductive SupportCall
  | createTicket (ticketId messageId : Id) (ticketNumber : String) (now : Date)
      (currentUser : AuthenticatedUser) (dto : CreateSupportTicketDto)
  | listCustomerTickets (currentUser : AuthenticatedUser) (query : ListSupportTicketsQueryDto)
  | getTicket (currentUser : AuthenticatedUser) (ticketId : Id)
  | replyToTicket (messageId : Id) (now : Date) (currentUser : AuthenticatedUser) (ticketId : Id)
      (dto : ReplySupportTicketDto)
  | updateTicket (now : Date) (currentUser : AuthenticatedUser) (ticketId : Id)
      (dto : UpdateSupportTicketDto)
  | listAgentTickets (currentUser : AuthenticatedUser) (query : ListSupportTicketsQueryDto)

inductive SupportResponse
  | ticket (ticket : SupportTicketRecord)
  | ticketWithMessages (ticket : TicketWithMessages)
  | message (message : SupportTicketMessageRecord)
  | page (page : SupportTicketPage)
deriving DecidableEq

namespace SupportCall

def service : SupportCall → StoreService SupportResponse
  | createTicket ticketId messageId ticketNumber now currentUser dto => do
    let ticket ←
      SupportTicketsService.createTicket ticketId messageId ticketNumber now currentUser dto
    .ret (.ticket ticket)
  | listCustomerTickets currentUser query => do
    let page ← SupportTicketsService.listCustomerTickets currentUser query
    .ret (.page page)
  | getTicket currentUser ticketId => do
    let ticket ← SupportTicketsService.getTicket currentUser ticketId
    .ret (.ticketWithMessages ticket)
  | replyToTicket messageId now currentUser ticketId dto => do
    let message ← SupportTicketsService.replyToTicket messageId now currentUser ticketId dto
    .ret (.message message)
  | updateTicket now currentUser ticketId dto => do
    let ticket ← SupportTicketsService.updateTicket now currentUser ticketId dto
    .ret (.ticket ticket)
  | listAgentTickets _ query => do
    let page ← SupportTicketsService.listAgentTickets query
    .ret (.page page)

/-- Who calls. -/
def caller : SupportCall → AuthenticatedUser
  | createTicket _ _ _ _ currentUser _ | listCustomerTickets currentUser _
  | getTicket currentUser _ | replyToTicket _ _ currentUser _ _
  | updateTicket _ currentUser _ _ | listAgentTickets currentUser _ => currentUser

end SupportCall

end WerTe
