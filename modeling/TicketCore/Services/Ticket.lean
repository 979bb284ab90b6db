import TicketCore.World

/-!
# Ticket reservations

`TicketService` of `src/services/ticket.py`. The two `try` blocks and the cold-key branch are
definitions of their own.
-/

namespace TicketCore

/-- The `except SQLAlchemyError` block that the services share: roll back and raise again. -/
def rollbackOnSQLAlchemyError {α : Type} (e : Exn) : Async α :=
  if e.isSQLAlchemyError then do
    sql .rollback
    throw e
  else throw e

theorem only_rollbackOnSQLAlchemyError {α : Type} {P : Cmd → Prop} (rollback : P (.db .rollback))
    (e : Exn) : (rollbackOnSQLAlchemyError e : Async α).Only P := by
  unfold rollbackOnSQLAlchemyError
  split
  · exact only_rollback rollback e
  · trivial

/-- `TicketNotFoundError`, as `delete` and `pay_for_ticket` raise it. -/
def ticketNotFound : Exn := .domain .ticketNotFoundError "Ticket not found"

namespace TicketService

/-- `TicketsSoldOutError`, as `create` raises it. -/
def ticketsSoldOut : Exn :=
  .domain .ticketsSoldOutError "Sold out. No tickets of this type available"

/-- The branch for a missing inventory key: fill it from the database and reserve again. -/
def reserveCold (d : Deployment) (ticketTypeId : Int) : Async Int := do
  let ticketType : Option TicketType ← sql (.getTicketType ticketTypeId)
  match ticketType with
  | none => throw (.domain .ticketTypeNotFoundError "Ticket type not found")
  | some row =>
      redis d.apiRedis (.setInventory ticketTypeId (row.ticketsQuantity - row.ticketsSold))
      redis d.apiRedis (.evalReserve ticketTypeId)

/-- `if result == -1`: the result of the first script stands, or that of the second. -/
def fallback (d : Deployment) (ticketTypeId result : Int) : Async Int :=
  if result = -1 then reserveCold d ticketTypeId else pure result

/-- The `try` block of `create`: the id and the refreshed row of the new ticket. -/
def book (d : Deployment) (userId ticketTypeId : Int) : Async (Int × Ticket) := do
  sql (.addTicketsSold ticketTypeId 1)
  let id : Int ← sql (.insertTicket userId ticketTypeId)
  let clock ← now
  redis d.apiRedis (.hset (toString id) (reservationValue ticketTypeId (seconds clock)))
  sql .commit
  let newTicket : Ticket ← sql (.refreshTicket id)
  enqueueJob ⟨"release_unpaid_ticket", id, d.ticketReservationTimeSeconds⟩
  pure (id, newTicket)

/-- The two `except` blocks of `create`: both roll back and give the slot back to the counter. -/
def compensate {α : Type} (d : Deployment) (ticketTypeId : Int) (e : Exn) : Async α :=
  if e.isSQLAlchemyError then do
    sql .rollback
    redis d.apiRedis (.incrInventory ticketTypeId)
    if e.isCheckViolation then throw ticketsSoldOut else throw e
  else throw e

/-- `TicketService.create`. -/
def create (d : Deployment) (userId : Int) (ticketData : TicketCreate) :
    Async TicketResponse := do
  let first : Int ← redis d.apiRedis (.evalReserve ticketData.ticketTypeId)
  let result ← fallback d ticketData.ticketTypeId first
  if result = 0 then throw ticketsSoldOut
  else
    let (id, newTicket) ← tryCatch (book d userId ticketData.ticketTypeId)
      (compensate d ticketData.ticketTypeId)
    pure ⟨id, newTicket.ticketTypeId, newTicket.status⟩

/-- `TicketService.get`. -/
def get (ownerId ticketId : Int) : Async TicketDetailResponse := do
  let ticket : Option Ticket ← sql (.selectTicket ticketId ownerId)
  match ticket with
  | none => throw ticketNotFound
  | some ticket => do
      let ticketType : Option (TicketType × Option Event) ←
        sql (.ticketTypeWithEvent ticket.ticketTypeId)
      pure ⟨ticketId, ticket.ticketTypeId, ticket.status, eventTitle ticketType⟩

/-- `TicketService.get_all_for_user`. -/
def getAllForUser (ownerId offset limit : Int) : Async (List TicketResponse) := do
  let tickets : List (Int × Ticket) ← sql (.ticketsOfOwner ownerId offset limit)
  pure (tickets.map fun (id, ticket) => ⟨id, ticket.ticketTypeId, ticket.status⟩)

/-- The `try` block of `delete`. -/
def remove (d : Deployment) (ticketId : Int) (ticket : Ticket) : Async Unit := do
  sql (.addTicketsSold ticket.ticketTypeId (-1))
  sql (.deleteTicket ticketId)
  sql .commit
  redis d.apiRedis (.evalSafeIncr ticket.ticketTypeId)
  redis d.apiRedis (.hdel (toString ticketId))

/-- `TicketService.delete`. -/
def delete (d : Deployment) (ownerId ticketId : Int) : Async Unit := do
  let ticket : Option Ticket ← sql (.selectTicket ticketId ownerId)
  match ticket with
  | none => throw ticketNotFound
  | some ticket => tryCatch (remove d ticketId ticket) rollbackOnSQLAlchemyError

end TicketService

end TicketCore
