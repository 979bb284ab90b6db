import TicketCore.Services.Ticket

/-!
# Ticket types

`TicketTypeService` of `src/services/ticket_type.py`.
-/

namespace TicketCore.TicketTypeService

/-- `TicketTypeNotFoundError`. -/
def ticketTypeNotFound : Exn := .domain .ticketTypeNotFoundError "Ticket type not found"

/-- The end of each operation: the cached event and the event lists are out of date. -/
def invalidate (d : Deployment) (eventId : Int) : Async Unit := do
  redis d.apiRedis (.deleteEventStatic eventId)
  redis d.apiRedis .incrEventListVersion

/-- The `try` block of `create`. -/
def insertWarm (d : Deployment) (eventId : Int) (typeData : TicketTypeCreate) :
    Async (Int × TicketType) := do
  let id : Int ← sql (.insertTicketType eventId typeData)
  sql .commit
  let row : TicketType ← sql (.refreshTicketType id)
  redis d.apiRedis (.setInventory id row.ticketsQuantity)
  invalidate d eventId
  pure (id, row)

/-- `TicketTypeService.create`. -/
def create (d : Deployment) (eventId : Int) (typeData : TicketTypeCreate) :
    Async TicketTypeResponse := do
  let (id, row) ← tryCatch (insertWarm d eventId typeData) rollbackOnSQLAlchemyError
  pure (row.response id)

/-- `TicketTypeService.get`. -/
def get (ticketTypeId : Int) : Async TicketTypeDetailResponse := do
  let ticketType : Option TicketType ← sql (.getTicketType ticketTypeId)
  match ticketType with
  | none => throw ticketTypeNotFound
  | some row => pure (row.detailResponse ticketTypeId)

/-- `TicketTypeService.get_all_for_event`. -/
def getAllForEvent (eventId offset limit : Int) : Async (List TicketTypeResponse) := do
  let ticketTypes : List (Int × TicketType) ← sql (.ticketTypesPage eventId offset limit)
  pure (ticketTypes.map fun (id, row) => row.response id)

/-- The `try` block of `delete`. -/
def removeType (d : Deployment) (ticketTypeId eventId : Int) : Async Unit := do
  sql (.deleteTicketType ticketTypeId)
  sql .commit
  redis d.apiRedis (.deleteInventory ticketTypeId)
  invalidate d eventId

/-- The `except` blocks of `delete`. -/
def refuseDelete (e : Exn) : Async Unit :=
  if e.isIntegrityError then do
    sql .rollback
    throw (.domain .ticketTypeDeleteError "Cannot delete ticket type with existing tickets")
  else rollbackOnSQLAlchemyError e

/-- `TicketTypeService.delete`. -/
def delete (d : Deployment) (ticketTypeId : Int) : Async Unit := do
  let ticketType : Option TicketType ← sql (.getTicketType ticketTypeId)
  match ticketType with
  | none => throw ticketTypeNotFound
  | some row => tryCatch (removeType d ticketTypeId row.eventId) refuseDelete

/-- `TicketTypeQuantity`, with the two numbers in its text. -/
def ticketTypeQuantity (newQuantity ticketsSold : Int) : Exn :=
  .domain .ticketTypeQuantity
    ("Cannot set tickets_quantity (" ++ toString newQuantity ++
      ") less than tickets_sold (" ++ toString ticketsSold ++ ")")

/-- The flush of the attributes that differ from the loaded row, if there are any. -/
def flushUpdate (ticketTypeId : Int) (net : TicketTypeUpdate) : Async Unit :=
  if net.isEmpty then pure () else sql (.updateTicketType ticketTypeId net)

/-- The `try` block of `update`. -/
def applyUpdate (d : Deployment) (ticketTypeId : Int) (loaded : TicketType)
    (updateData : TicketTypeUpdate) : Async TicketType := do
  flushUpdate ticketTypeId (updateData.netChange loaded)
  sql .commit
  let row : TicketType ← sql (.refreshTicketType ticketTypeId)
  match updateData.newQuantity with
  | none => pure ()
  | some _ =>
      redis d.apiRedis (.setInventory ticketTypeId (row.ticketsQuantity - row.ticketsSold))
  invalidate d row.eventId
  pure row

/-- `new_quantity is not None and new_quantity < ticket_type.tickets_sold`. -/
def tooSmall (newQuantity : Option Int) (ticketsSold : Int) : Bool :=
  newQuantity.any fun quantity => quantity < ticketsSold

/-- `TicketTypeService.update`. -/
def update (d : Deployment) (ticketTypeId : Int) (updateData : TicketTypeUpdate) :
    Async TicketTypeResponse := do
  let ticketType : Option TicketType ← sql (.getTicketType ticketTypeId)
  match ticketType with
  | none => throw ticketTypeNotFound
  | some loaded =>
      if updateData.isEmpty then pure (loaded.response ticketTypeId)
      else if tooSmall updateData.newQuantity loaded.ticketsSold then
        throw (ticketTypeQuantity (updateData.newQuantity.getD 0) loaded.ticketsSold)
      else
        let row ← tryCatch (applyUpdate d ticketTypeId loaded updateData)
          rollbackOnSQLAlchemyError
        pure (row.response ticketTypeId)

end TicketCore.TicketTypeService
