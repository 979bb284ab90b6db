import TicketCore.Services.TicketType

/-!
# Events

`EventRepository` and `CachedEventRepository` of `src/repositories/event.py`, the helpers of
`RedisKeys` that they call, and `EventService` of `src/services/event.py`.
-/

namespace TicketCore

/-! ## Keys of the event caches -/

namespace RedisKeys

/-- `TTL_STATIC_24H`. -/
def ttlStatic24h : Int := 86400

/-- `TTL_LISTS_1H`. -/
def ttlLists1h : Int := 3600

/-- `RedisKeys.event_list`. -/
def eventList (d : Deployment) (offset limit : Int) : Async ListKey := do
  let versionVal : Option Int ← redis d.apiRedis .getEventListVersion
  match versionVal with
  | none =>
      redis d.apiRedis (.setEventListVersion 1)
      pure ⟨1, offset, limit⟩
  | some version => pure ⟨version, offset, limit⟩

/-- `RedisKeys.bump_event_list_version`. -/
def bumpEventListVersion (d : Deployment) : Async Unit :=
  redis d.apiRedis .incrEventListVersion

end RedisKeys

/-! ## The repository -/

namespace EventRepository

/-- `EventRepository.create`: the id and the refreshed row of the new event. -/
def create (eventData : EventCreate) : Async (Int × Event) := do
  let id : Int ← sql (.insertEvent eventData)
  let newEvent : Event ← sql (.refreshEvent id)
  pure (id, newEvent)

/-- `EventRepository.get`: the event with its ticket types. -/
def get (eventId : Int) : Async (Option (Event × List (Int × TicketType))) := do
  let event : Option Event ← sql (.selectEvent eventId)
  match event with
  | none => pure none
  | some event => do
      let ticketTypes : List (Int × TicketType) ← sql (.selectTicketTypes eventId)
      pure (some (event, ticketTypes))

/-- `EventRepository.get_all`. -/
def getAll (offset limit : Int) : Async (List (Int × Event)) :=
  sql (.eventsPage offset limit)

/-- `EventRepository.delete`, of an event that is loaded with these ticket types. -/
def delete (eventId : Int) (ticketTypes : List (Int × TicketType)) : Async Unit :=
  tryCatch (sql (.deleteEvent eventId (ticketTypes.map Prod.fst))) fun e =>
    if e.isIntegrityError then
      throw (.domain .eventDeleteError "Cannot delete event with existing tickets")
    else throw e

/-- The flush of the attributes that differ from the loaded row, if there are any. -/
def flushUpdate (eventId : Int) (net : EventUpdate) : Async Unit :=
  if net.isEmpty then pure () else sql (.updateEvent eventId net)

/-- `EventRepository.update`; refreshing the relationship looks for the row again. -/
def update (eventId : Int) (event : Event) (updateDict : EventUpdate) : Async Unit := do
  flushUpdate eventId (updateDict.netChange event)
  let _ : Event ← sql (.refreshEvent eventId)
  let _ : List (Int × TicketType) ← sql (.selectTicketTypes eventId)
  pure ()

end EventRepository

/-! ## The caching proxy -/

/-- `EventNotFoundError`. -/
def eventNotFound : Exn := .domain .eventNotFoundError "Event not found"

namespace CachedEventRepository

/-- `CachedEventRepository.get`. -/
def get (d : Deployment) (eventId : Int) : Async EventDetailResponse := do
  let cachedData : Option EventDetailResponse ← redis d.apiRedis (.getEventStatic eventId)
  match cachedData with
  | some event => pure event
  | none =>
      let event ← EventRepository.get eventId
      match event with
      | none => throw eventNotFound
      | some (event, ticketTypes) => do
          let eventDto := event.detailResponse eventId ticketTypes
          redis d.apiRedis (.setEventStatic eventId eventDto RedisKeys.ttlStatic24h)
          pure eventDto

/-- `CachedEventRepository.get_all`. -/
def getAll (d : Deployment) (offset limit : Int) : Async (List EventResponse) := do
  let cachedKey ← RedisKeys.eventList d offset limit
  let cachedData : Option (List EventResponse) ← redis d.apiRedis (.getEventList cachedKey)
  match cachedData with
  | some events => pure events
  | none =>
      let events ← EventRepository.getAll offset limit
      let eventsDto := events.map fun (id, event) => event.response id
      redis d.apiRedis (.setEventList cachedKey eventsDto RedisKeys.ttlLists1h)
      pure eventsDto

/-- `CachedEventRepository.invalidate_event`. -/
def invalidateEvent (d : Deployment) (eventId : Int) : Async Unit := do
  redis d.apiRedis (.deleteEventStatic eventId)
  redis d.apiRedis .incrEventListVersion

end CachedEventRepository

/-! ## The service -/

namespace EventService

/-- The `try` block of `create`. -/
def insert (d : Deployment) (eventData : EventCreate) : Async (Int × Event) := do
  let (id, newEvent) ← EventRepository.create eventData
  sql .commit
  CachedEventRepository.invalidateEvent d id
  pure (id, newEvent)

/-- `EventService.create`. -/
def create (d : Deployment) (eventData : EventCreate) : Async EventResponse := do
  let (id, newEvent) ← tryCatch (insert d eventData) rollbackOnSQLAlchemyError
  pure (newEvent.response id)

/-- `EventService.get`. -/
def get (d : Deployment) (eventId : Int) : Async EventDetailResponse :=
  CachedEventRepository.get d eventId

/-- `EventService.get_all`. -/
def getAll (d : Deployment) (offset limit : Int) : Async (List EventResponse) :=
  CachedEventRepository.getAll d offset limit

/-- The `try` block of `delete`. -/
def remove (d : Deployment) (eventId : Int) (ticketTypes : List (Int × TicketType)) :
    Async Unit := do
  EventRepository.delete eventId ticketTypes
  sql .commit
  CachedEventRepository.invalidateEvent d eventId

/-- The `except` blocks of `delete`. -/
def refuseDelete (e : Exn) : Async Unit :=
  if e.isIntegrityError then do
    sql .rollback
    throw (.domain .eventDeleteError "Cannot delete event with existing tickets")
  else rollbackOnSQLAlchemyError e

/-- `EventService.delete`. -/
def delete (d : Deployment) (eventId : Int) : Async Unit := do
  let event ← EventRepository.get eventId
  match event with
  | none => throw eventNotFound
  | some (_, ticketTypes) => tryCatch (remove d eventId ticketTypes) refuseDelete

/-- The `try` block of `update`. -/
def applyUpdate (d : Deployment) (eventId : Int) (event : Event) (updateDict : EventUpdate) :
    Async EventResponse := do
  EventRepository.update eventId event updateDict
  sql .commit
  CachedEventRepository.invalidateEvent d eventId
  pure ((updateDict.setAttributes event).response eventId)

/-- `EventService.update`. -/
def update (d : Deployment) (eventId : Int) (updateData : EventUpdate) : Async EventResponse := do
  let event ← EventRepository.get eventId
  match event with
  | none => throw eventNotFound
  | some (event, _) =>
      if updateData.isEmpty then pure (event.response eventId)
      else tryCatch (applyUpdate d eventId event updateData) rollbackOnSQLAlchemyError

end EventService

end TicketCore
