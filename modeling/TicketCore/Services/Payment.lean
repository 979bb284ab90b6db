import TicketCore.Services.Ticket

/-!
# Payments

`PaymentService.pay_for_ticket` of `src/services/payment.py`.
-/

namespace TicketCore.PaymentService

/-- The `try` block: the commit flushes the new status. -/
def settle (d : Deployment) (ticketId : Int) : Async Ticket := do
  sql (.updateTicketStatus ticketId .sold)
  sql .commit
  let ticket : Ticket ← sql (.refreshTicket ticketId)
  redis d.apiRedis (.hdel (toString ticketId))
  pure ticket

/-- `PaymentService.pay_for_ticket`. -/
def payForTicket (d : Deployment) (ticketId ownerId : Int) : Async TicketPaymentSchema := do
  let ticket : Option Ticket ← sql (.selectTicketForUpdate ticketId (some ownerId))
  match ticket with
  | none => throw ticketNotFound
  | some ticket =>
      match ticket.status with
      | .sold => throw (.domain .ticketAlreadyPaidError "This ticket is already paid")
      | .canceled => throw (.domain .ticketReservationExpireError "Reservation time expired")
      | .reserved =>
          let paid ← tryCatch (settle d ticketId) rollbackOnSQLAlchemyError
          pure ⟨ticketId, paid.status⟩

end TicketCore.PaymentService
