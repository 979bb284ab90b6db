import TicketCore.Services.Event
import TicketCore.Services.Idempotency
import TicketCore.Services.Payment
import TicketCore.Worker

/-!
# Endpoints and operations

The idempotent endpoints of `src/api/v1`, and what an API process or a worker process runs
against the shared state. An `Operation` is a call that moves tickets or ticket types, an `Activity`
is one of these or a call that only reads or is about events. `Operation.program` and
`Activity.program` are the whole asynchronous calls, sessions included.
-/

namespace TicketCore

/-- `TicketStatus.value`. -/
def TicketStatus.value : TicketStatus → String
  | .reserved => "RESERVED"
  | .sold => "SOLD"
  | .canceled => "CANCELED"

/-- `jsonable_encoder` of a `TicketResponse`. -/
def TicketResponse.encode (response : TicketResponse) : JsonObject :=
  [("ticket_type_id", .int response.ticketTypeId), ("id", .int response.id),
    ("status", .str response.status.value)]

/-- `jsonable_encoder` of a `TicketPaymentSchema`. -/
def TicketPaymentSchema.encode (response : TicketPaymentSchema) : JsonObject :=
  [("id", .int response.id), ("status", .str response.status.value)]

/-- `TicketCreate.model_dump(mode="json")`. -/
def TicketCreate.dump (ticket : TicketCreate) : Json :=
  .obj [("ticket_type_id", .int ticket.ticketTypeId)]

/-- `POST /tickets`. -/
def createTicket (d : Deployment) (service : IdempotencyService) (ownerId : Int)
    (ticket : TicketCreate) (idempotencyKey : Option String) : Async (Reply TicketResponse) :=
  getDb <| idempotent service "create_ticket" ownerId idempotencyKey
    [("owner", .dependency), ("ticket", .dto ticket.dump), ("ticket_service", .dependency),
      ("idempotency_service", .dependency)]
    TicketResponse.encode (TicketService.create d ownerId ticket)

/-- `POST /tickets/{ticket_id}/payments`. -/
def ticketPayment (d : Deployment) (service : IdempotencyService) (ticketId userId : Int)
    (idempotencyKey : Option String) : Async (Reply TicketPaymentSchema) :=
  getDb <| idempotent service "ticket_payment" userId idempotencyKey
    [("ticket_id", .primitive (.int ticketId)), ("user", .dependency),
      ("payment_service", .dependency), ("idempotency_service", .dependency)]
    TicketPaymentSchema.encode (PaymentService.payForTicket d ticketId userId)

/-- `TicketTypeCreate.model_dump(mode="json")`. -/
def TicketTypeCreate.dump (data : TicketTypeCreate) (eventId : Int) : Json :=
  .obj [("name", .str data.name), ("price", .int data.price),
    ("tickets_quantity", .int data.ticketsQuantity), ("event_id", .int eventId)]

/-- `jsonable_encoder` of a `TicketTypeResponse`. -/
def TicketTypeResponse.encode (response : TicketTypeResponse) : JsonObject :=
  [("name", .str response.name), ("price", .int response.price),
    ("tickets_quantity", .int response.ticketsQuantity), ("event_id", .int response.eventId),
    ("id", .int response.id)]

/-- `EventCreate.model_dump(mode="json")`; `date` is the text of the date, with the offset that the
client has given it. -/
def EventCreate.dump (data : EventCreate) (date : String) : Json :=
  .obj [("title", .str data.title), ("date", .str date), ("country", .str data.country),
    ("city", .str data.city), ("street_address", .str data.streetAddress)]

/-- `jsonable_encoder` of an `EventResponse`, with the text of its date. -/
def EventResponse.encode (isoformat : Int → String) (response : EventResponse) : JsonObject :=
  [("title", .str response.title), ("date", .str (isoformat response.date)),
    ("country", .str response.country), ("city", .str response.city),
    ("street_address", .str response.streetAddress), ("id", .int response.id)]

/-- `POST /ticket-types`. -/
def ticketTypeCreate (d : Deployment) (service : IdempotencyService) (adminId eventId : Int)
    (ticketTypeData : TicketTypeCreate) (idempotencyKey : Option String) :
    Async (Reply TicketTypeResponse) :=
  getDb <| idempotent service "ticket_type_create" adminId idempotencyKey
    [("ticket_type_data", .dto (ticketTypeData.dump eventId)), ("ticket_type_service", .dependency),
      ("admin", .dependency), ("idempotency_service", .dependency)]
    TicketTypeResponse.encode (TicketTypeService.create d eventId ticketTypeData)

/-- `POST /events`. -/
def createEvent (d : Deployment) (service : IdempotencyService) (isoformat : Int → String)
    (adminId : Int) (event : EventCreate) (date : String) (idempotencyKey : Option String) :
    Async (Reply EventResponse) :=
  getDb <| idempotent service "create_event" adminId idempotencyKey
    [("event", .dto (event.dump date)), ("event_service", .dependency), ("admin_user", .dependency),
      ("idempotency_service", .dependency)]
    (EventResponse.encode isoformat) (EventService.create d event)

/-- A call of a service, in the session of its request, or a task of the worker. -/
inductive Operation
  | create (userId : Int) (ticketData : TicketCreate)
  | delete (ownerId ticketId : Int)
  | payForTicket (ticketId ownerId : Int)
  | releaseUnpaidTicket (ticketId : Int)
  | reconcileHungTickets
  | reconcileRedisOrphans
  | createType (eventId : Int) (typeData : TicketTypeCreate)
  | updateType (ticketTypeId : Int) (updateData : TicketTypeUpdate)
  | deleteType (ticketTypeId : Int)

/-- Await a call and drop what it returns. -/
def unit {α : Type} (p : Async α) : Async Unit := do
  let _ ← p
  pure ()

/-- The call tree of an operation. -/
def Operation.program (d : Deployment) : Operation → Async Unit
  | .create userId ticketData => unit (getDb (TicketService.create d userId ticketData))
  | .delete ownerId ticketId => getDb (TicketService.delete d ownerId ticketId)
  | .payForTicket ticketId ownerId =>
      unit (getDb (PaymentService.payForTicket d ticketId ownerId))
  | .releaseUnpaidTicket ticketId => Worker.releaseUnpaidTicket d ticketId
  | .reconcileHungTickets => Worker.reconcileHungTickets d
  | .reconcileRedisOrphans => Worker.reconcileRedisOrphans d
  | .createType eventId typeData =>
      unit (getDb (TicketTypeService.create d eventId typeData))
  | .updateType ticketTypeId updateData =>
      unit (getDb (TicketTypeService.update d ticketTypeId updateData))
  | .deleteType ticketTypeId => getDb (TicketTypeService.delete d ticketTypeId)

/-- Everything an API process or a worker process runs: an operation, a call about events, or a call
that only reads. -/
inductive Activity
  | operation (op : Operation)
  | createEvent (eventData : EventCreate)
  | updateEvent (eventId : Int) (updateData : EventUpdate)
  | deleteEvent (eventId : Int)
  | getEvent (eventId : Int)
  | getEvents (offset limit : Int)
  | getTicket (ownerId ticketId : Int)
  | getTickets (ownerId offset limit : Int)
  | getType (ticketTypeId : Int)
  | getTypes (eventId offset limit : Int)

/-- The call tree of an activity. -/
def Activity.program (d : Deployment) : Activity → Async Unit
  | .operation op => op.program d
  | .createEvent eventData => unit (getDb (EventService.create d eventData))
  | .updateEvent eventId updateData => unit (getDb (EventService.update d eventId updateData))
  | .deleteEvent eventId => getDb (EventService.delete d eventId)
  | .getEvent eventId => unit (getDb (EventService.get d eventId))
  | .getEvents offset limit => unit (getDb (EventService.getAll d offset limit))
  | .getTicket ownerId ticketId => unit (getDb (TicketService.get ownerId ticketId))
  | .getTickets ownerId offset limit =>
      unit (getDb (TicketService.getAllForUser ownerId offset limit))
  | .getType ticketTypeId => unit (getDb (TicketTypeService.get ticketTypeId))
  | .getTypes eventId offset limit =>
      unit (getDb (TicketTypeService.getAllForEvent eventId offset limit))

end TicketCore
