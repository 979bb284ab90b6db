import TicketCore.Api
import TicketCore.BoxOffice
import Mathlib.Data.Set.Card

/-!
# The office

What the whole system is for, in its own terms: tables that a request changes at once or not at all,
and that its answer is read from. There are no sessions and no locks, no Redis and no jobs; the
price of a ticket type and the limit of its sales are those of its row.

* `Office.serve` is the answer to a request with the tables afterwards. What the tables do not say
  is in the `Notes`: the id of a new row, the time, and the order in which rows are enumerated.
* `Office.Day` is a run of requests. A request that is refused leaves the tables as they are.
* `Office.Commits` is what is left of that while other requests are under way. A `PATCH`, the sweep
  and a deletion that comes too late depend on what their own calls have been shown: `ShownTo`.
-/

namespace TicketCore

/-- The tables. -/
structure Office where
  types : Int → Option TicketType
  tickets : Int → Option Ticket
  events : Int → Option Event
  users : Finset Int

/-- What the tables do not say. -/
structure Notes where
  /-- The id of the row that is added. -/
  id : Int
  clock : Int
  /-- The order in which rows are enumerated. -/
  order : List Int

/-- The ids of the rows with this property, each once. -/
def Enumerates {Row : Type} (rows : Int → Option Row) (p : Row → Bool) (order : List Int) :
    Prop :=
  order.Nodup ∧ ∀ id, id ∈ order ↔ (rows id).any p

/-- A page of an enumeration. -/
def pageOf (order : List Int) (offset limit : Int) : List Int :=
  (order.drop offset.toNat).take limit.toNat

/-- What a call may have been shown before its commit. -/
inductive Reading
  | clock (clock : Int)
  | ticketType (id : Int) (row : TicketType)
  | event (id : Int) (event : Event)
  | ticket (ownerId id : Int) (ticket : Ticket)
  /-- A row that the `UPDATE` of the sweep has answered. -/
  | canceled (id : Int)

/-- The answer of a command shows this. -/
inductive Yields : (cmd : Cmd) → Except Exn cmd.Resp → Reading → Prop
  | clock (clock : Int) : Yields .now (.ok clock) (.clock clock)
  | ticketType (id : Int) (row : TicketType) :
      Yields (.db (.getTicketType id)) (.ok (some row)) (.ticketType id row)
  | event (id : Int) (event : Event) :
      Yields (.db (.selectEvent id)) (.ok (some event)) (.event id event)
  | ticket (ownerId id : Int) (ticket : Ticket) :
      Yields (.db (.selectTicket id ownerId)) (.ok (some ticket)) (.ticket ownerId id ticket)
  | canceled (id threshold ticketTypeId : Int) :
      Yields (.db (.cancelHungTicket id threshold)) (.ok (some (id, ticketTypeId))) (.canceled id)

/-- One of these events has shown this to the thread. -/
def ShownTo {ι : Type} (events : List (CallEvent ι)) (t : ι) (reading : Reading) : Prop :=
  ∃ e ∈ events, e.thread = t ∧ Yields e.cmd e.answer reading

/-- A `PATCH` and the sweep commit by what their call has been shown before. -/
def Activity.atOnce : Activity → Bool
  | .operation .reconcileHungTickets | .operation (.updateType ..) | .updateEvent .. => false
  | _ => true

namespace Office

/-- What a request is answered. -/
inductive Answer
  | done
  | ticket (response : TicketResponse)
  | ticketDetail (response : TicketDetailResponse)
  | tickets (responses : List TicketResponse)
  | payment (response : TicketPaymentSchema)
  | ticketType (response : TicketTypeResponse)
  | ticketTypeDetail (response : TicketTypeDetailResponse)
  | ticketTypes (responses : List TicketTypeResponse)
  | event (response : EventResponse)
  | eventDetail (response : EventDetailResponse)
  | events (responses : List EventResponse)
deriving DecidableEq

variable (office : Office)

/-- An outcome: an exception leaves the tables as they are. -/
inductive Gives {α : Type} : Except Exn (α × Office) → Except Exn α → Office → Prop
  | answered {a : α} {after : Office} : Gives (.ok (a, after)) (.ok a) after
  | refused {e : Exn} : Gives (.error e) (.error e) office

/-! ## Rows -/

/-- A ticket is added, changed or removed. -/
def setTicket (id : Int) (version : Option Ticket) : Office :=
  { office with tickets := Function.update office.tickets id version }

/-- A ticket type is added, changed or removed. -/
def setType (id : Int) (version : Option TicketType) : Office :=
  { office with types := Function.update office.types id version }

/-- An event is added, changed or removed. -/
def setEvent (id : Int) (version : Option Event) : Office :=
  { office with events := Function.update office.events id version }

/-- The count of a ticket type moves, if there is such a type. -/
def count (ticketTypeId delta : Int) : Except Exn Office :=
  match office.types ticketTypeId with
  | none => .ok office
  | some row =>
      match row.addTicketsSold delta with
      | .ok row' => .ok (office.setType ticketTypeId (some row'))
      | .error violated => .error (.integrity violated)

/-- The ticket under this id, if it is this owner's. -/
def ticketOf (ownerId ticketId : Int) : Option Ticket :=
  (office.tickets ticketId).filter fun ticket => ticket.ownerId = ownerId

/-- A ticket type as it is offered with its event. -/
def offer (eventId ticketTypeId : Int) : Option TicketTypeResponse :=
  ((office.types ticketTypeId).filter fun row => row.eventId = eventId).map
    (·.response ticketTypeId)

/-! ## Tickets -/

/-- A user books a ticket, unless all are taken. -/
def book (userId ticketTypeId : Int) (notes : Notes) : Except Exn (TicketResponse × Office) :=
  match office.types ticketTypeId with
  | none => .error TicketTypeService.ticketTypeNotFound
  | some row =>
      if row.ticketsSold = row.ticketsQuantity then .error TicketService.ticketsSoldOut
      else if userId ∉ office.users then .error (.integrity .fkOwner)
      else (office.count ticketTypeId 1).map fun counted =>
        (⟨notes.id, ticketTypeId, .reserved⟩,
          counted.setTicket notes.id (some ⟨ticketTypeId, userId, .reserved, notes.clock⟩))

/-- An owner gives a ticket up. -/
def giveUp (ownerId ticketId : Int) : Except Exn (Unit × Office) :=
  match office.ticketOf ownerId ticketId with
  | none => .error ticketNotFound
  | some ticket => (office.count ticket.ticketTypeId (-1)).map fun counted =>
      ((), counted.setTicket ticketId none)

/-- An owner pays for a ticket. -/
def pay (ticketId ownerId : Int) : Except Exn (TicketPaymentSchema × Office) :=
  match office.ticketOf ownerId ticketId with
  | none => .error ticketNotFound
  | some ticket =>
      match ticket.status with
      | .sold => .error (.domain .ticketAlreadyPaidError "This ticket is already paid")
      | .canceled => .error (.domain .ticketReservationExpireError "Reservation time expired")
      | .reserved =>
          .ok (⟨ticketId, .sold⟩, office.setTicket ticketId (some (ticket.withStatus .sold)))

/-- A reservation runs out, if the ticket has not been paid for. -/
def release (ticketId : Int) : Except Exn (Unit × Office) :=
  match office.tickets ticketId with
  | none => .ok ((), office)
  | some ticket =>
      if ticket.status ≠ .reserved then .ok ((), office)
      else (office.count ticket.ticketTypeId (-1)).map fun counted =>
        ((), counted.setTicket ticketId (some (ticket.withStatus .canceled)))

/-- The tickets of a type whose reservations have run out. -/
def hung (threshold ticketTypeId : Int) : Set Int :=
  {id | ∃ ticket, office.tickets id = some ticket ∧ Database.Hung threshold ticket ∧
    ticket.ticketTypeId = ticketTypeId}

open Classical in
/-- All reservations up to a time run out, unless one of the types has fewer slots taken. -/
noncomputable def sweep (threshold : Int) : Except Exn (Unit × Office) :=
  if ∀ id row, office.types id = some row →
    ((office.hung threshold id).ncard : Int) ≤ row.ticketsSold then
    .ok ((), { office with
      types := fun id => (office.types id).bind fun row =>
        (row.addTicketsSold (-(office.hung threshold id).ncard)).toOption
      tickets := fun id => (office.tickets id).map fun ticket =>
        if Database.Hung threshold ticket then ticket.withStatus .canceled else ticket })
  else .error (.integrity .checkTicketSold)

/-- A ticket with the title of its event. -/
def showTicket (ownerId ticketId : Int) : Except Exn (TicketDetailResponse × Office) :=
  match office.ticketOf ownerId ticketId with
  | none => .error ticketNotFound
  | some ticket => .ok (⟨ticketId, ticket.ticketTypeId, ticket.status, eventTitle
      ((office.types ticket.ticketTypeId).map fun row => (row, office.events row.eventId))⟩,
      office)

/-- A page of the tickets of a user. -/
def showTickets (offset limit : Int) (notes : Notes) : List TicketResponse :=
  (pageOf notes.order offset limit).filterMap fun id =>
    (office.tickets id).map fun ticket => ⟨id, ticket.ticketTypeId, ticket.status⟩

/-! ## Ticket types -/

/-- A ticket type is put on sale. -/
def addType (eventId : Int) (typeData : TicketTypeCreate) (notes : Notes) :
    Except Exn (TicketTypeResponse × Office) :=
  if (office.events eventId).isNone then .error (.integrity .fkEvent)
  else .ok ((typeData.row eventId).response notes.id,
    office.setType notes.id (some (typeData.row eventId)))

/-- A ticket type is changed. -/
def changeType (ticketTypeId : Int) (updateData : TicketTypeUpdate) :
    Except Exn (TicketTypeResponse × Office) :=
  match office.types ticketTypeId with
  | none => .error TicketTypeService.ticketTypeNotFound
  | some row =>
      if updateData.isEmpty then .ok (row.response ticketTypeId, office)
      else if TicketTypeService.tooSmall updateData.newQuantity row.ticketsSold then
        .error (TicketTypeService.ticketTypeQuantity
          (updateData.newQuantity.getD 0) row.ticketsSold)
      else
        match updateData.apply row with
        | .error violated => .error (.integrity violated)
        | .ok row' => .ok (row'.response ticketTypeId, office.setType ticketTypeId (some row'))

open Classical in
/-- A ticket type is taken off sale, unless there are tickets of it. -/
noncomputable def dropType (ticketTypeId : Int) : Except Exn (Unit × Office) :=
  if office.types ticketTypeId = none then .error TicketTypeService.ticketTypeNotFound
  else if ∃ id ticket, office.tickets id = some ticket ∧ ticket.ticketTypeId = ticketTypeId then
    .error (.domain .ticketTypeDeleteError "Cannot delete ticket type with existing tickets")
  else .ok ((), office.setType ticketTypeId none)

/-- A ticket type with its count. -/
def showType (ticketTypeId : Int) : Except Exn (TicketTypeDetailResponse × Office) :=
  match office.types ticketTypeId with
  | none => .error TicketTypeService.ticketTypeNotFound
  | some row => .ok (row.detailResponse ticketTypeId, office)

/-- A page of the ticket types of an event. -/
def showTypes (offset limit : Int) (notes : Notes) : List TicketTypeResponse :=
  (pageOf notes.order offset limit).filterMap fun id => (office.types id).map (·.response id)

/-! ## Events -/

/-- An event is announced. -/
def addEvent (eventData : EventCreate) (notes : Notes) : EventResponse × Office :=
  (eventData.row.response notes.id, office.setEvent notes.id (some eventData.row))

/-- An event is changed. -/
def changeEvent (eventId : Int) (updateData : EventUpdate) : Except Exn (EventResponse × Office) :=
  match office.events eventId with
  | none => .error eventNotFound
  | some event =>
      if updateData.isEmpty then .ok (event.response eventId, office)
      else
        match updateData.apply event with
        | .error violated => .error (.integrity violated)
        | .ok event' => .ok (event'.response eventId, office.setEvent eventId (some event'))

open Classical in
/-- An event is called off, unless there are ticket types of it. -/
noncomputable def dropEvent (eventId : Int) : Except Exn (Unit × Office) :=
  if office.events eventId = none then .error eventNotFound
  else if ∃ id row, office.types id = some row ∧ row.eventId = eventId then
    .error (.domain .eventDeleteError "Cannot delete event with existing tickets")
  else .ok ((), office.setEvent eventId none)

/-- An event with its ticket types. -/
def showEvent (eventId : Int) (notes : Notes) : Except Exn (EventDetailResponse × Office) :=
  match office.events eventId with
  | none => .error eventNotFound
  | some event =>
      .ok (⟨event.response eventId, notes.order.filterMap (office.offer eventId)⟩, office)

/-- A page of the events. -/
def showEvents (offset limit : Int) (notes : Notes) : List EventResponse :=
  (pageOf notes.order offset limit).filterMap fun id => (office.events id).map (·.response id)

/-! ## Requests -/

/-- The answer to a request is one of the answers there are. -/
def answer {α : Type} (form : α → Answer) (result : Except Exn (α × Office)) :
    Except Exn (Answer × Office) :=
  result.map fun (a, after) => (form a, after)

variable {office} in
theorem Gives.answer {α : Type} {form : α → Answer} {result : Except Exn (α × Office)}
    {outcome : Except Exn α} {after : Office} (h : office.Gives result outcome after) :
    office.Gives (Office.answer form result) (outcome.map form) after := by
  cases h with
  | answered => exact .answered
  | refused => exact .refused

/-- **The answer to a request, with the tables afterwards.** -/
noncomputable def serve (reservationTimeSeconds : Int) (notes : Notes) :
    Activity → Except Exn (Answer × Office)
  | .operation (.create userId ticketData) =>
      answer .ticket (office.book userId ticketData.ticketTypeId notes)
  | .operation (.delete ownerId ticketId) =>
      answer (fun _ => .done) (office.giveUp ownerId ticketId)
  | .operation (.payForTicket ticketId ownerId) => answer .payment (office.pay ticketId ownerId)
  | .operation (.releaseUnpaidTicket ticketId) => answer (fun _ => .done) (office.release ticketId)
  | .operation .reconcileHungTickets =>
      answer (fun _ => .done) (office.sweep (notes.clock - reservationTimeSeconds * 1000000))
  | .operation .reconcileRedisOrphans => .ok (.done, office)
  | .operation (.createType eventId typeData) =>
      answer .ticketType (office.addType eventId typeData notes)
  | .operation (.updateType ticketTypeId updateData) =>
      answer .ticketType (office.changeType ticketTypeId updateData)
  | .operation (.deleteType ticketTypeId) => answer (fun _ => .done) (office.dropType ticketTypeId)
  | .createEvent eventData => answer .event (.ok (office.addEvent eventData notes))
  | .updateEvent eventId updateData => answer .event (office.changeEvent eventId updateData)
  | .deleteEvent eventId => answer (fun _ => .done) (office.dropEvent eventId)
  | .getEvent eventId => answer .eventDetail (office.showEvent eventId notes)
  | .getEvents offset limit => .ok (.events (office.showEvents offset limit notes), office)
  | .getTicket ownerId ticketId => answer .ticketDetail (office.showTicket ownerId ticketId)
  | .getTickets _ offset limit => .ok (.tickets (office.showTickets offset limit notes), office)
  | .getType ticketTypeId => answer .ticketTypeDetail (office.showType ticketTypeId)
  | .getTypes _ offset limit => .ok (.ticketTypes (office.showTypes offset limit notes), office)

/-- The notes that a request can have: a new row gets a free id, and what is shown is all there
is. -/
def Suits (notes : Notes) : Activity → Prop
  | .operation (.create ..) => office.tickets notes.id = none
  | .operation (.createType ..) => office.types notes.id = none
  | .createEvent _ => office.events notes.id = none
  | .getEvent eventId | .getTypes eventId _ _ =>
      Enumerates office.types (fun row => row.eventId = eventId) notes.order
  | .getEvents .. => Enumerates office.events (fun _ => true) notes.order
  | .getTickets ownerId _ _ =>
      Enumerates office.tickets (fun ticket => ticket.ownerId = ownerId) notes.order
  | _ => True

/-- A request and its outcome. -/
def Serves (reservationTimeSeconds : Int) (activity : Activity) (outcome : Except Exn Answer)
    (after : Office) : Prop :=
  ∃ notes, office.Suits notes activity ∧
    office.Gives (office.serve reservationTimeSeconds notes activity) outcome after

/-- Requests one after another. -/
inductive Day (reservationTimeSeconds : Int) : List (Activity × Except Exn Answer) →
    Office → Prop
  | open : Day reservationTimeSeconds [] office
  | next {requests : List (Activity × Except Exn Answer)} {before after : Office}
      {activity : Activity}
      {outcome : Except Exn Answer} : Day reservationTimeSeconds requests before →
      before.Serves reservationTimeSeconds activity outcome after →
      Day reservationTimeSeconds (requests ++ [(activity, outcome)]) after

/-- **What the commit of a request may do to the tables**, whatever else is going on; `shown` is
what the calls of that request have been shown before. -/
inductive Commits (reservationTimeSeconds : Int) (shown : Reading → Prop) : Activity →
    Office → Prop
  /-- As the request is served at that moment. -/
  | served {notes : Notes} {activity : Activity} {answer : Answer} {after : Office} :
      activity.atOnce → office.Suits notes activity →
      office.serve reservationTimeSeconds notes activity = .ok (answer, after) →
      Commits reservationTimeSeconds shown activity after
  /-- Of a `PATCH`, what differs from the row that it has loaded. -/
  | patchedType {ticketTypeId : Int} {updateData : TicketTypeUpdate} {loaded : TicketType}
      {answer : TicketTypeResponse} {after : Office} : shown (.ticketType ticketTypeId loaded) →
      office.changeType ticketTypeId (updateData.netChange loaded) = .ok (answer, after) →
      Commits reservationTimeSeconds shown (.operation (.updateType ticketTypeId updateData)) after
  | patchedEvent {eventId : Int} {updateData : EventUpdate} {loaded : Event}
      {answer : EventResponse} {after : Office} : shown (.event eventId loaded) →
      office.changeEvent eventId (updateData.netChange loaded) = .ok (answer, after) →
      Commits reservationTimeSeconds shown (.updateEvent eventId updateData) after
  /-- The reservations that the `UPDATE` of the sweep has answered run out, one after another; they
  were due by the clock that it has read. -/
  | swept {clock : Int} {ids : List Int} {after : Office} : shown (.clock clock) → ids.Nodup →
      (∀ id, id ∈ ids ↔ shown (.canceled id)) →
      (∀ id ∈ ids, (office.tickets id).any fun ticket =>
        Database.Hung (clock - reservationTimeSeconds * 1000000) ticket) →
      office.Day reservationTimeSeconds
        (ids.map fun id => (.operation (.releaseUnpaidTicket id), .ok .done)) after →
      Commits reservationTimeSeconds shown (.operation .reconcileHungTickets) after
  /-- The ticket that was to be given up has gone: only the count of its type goes down. -/
  | missed {ownerId ticketId : Int} {ticket : Ticket} {after : Office} :
      shown (.ticket ownerId ticketId ticket) → office.tickets ticketId = none →
      office.count ticket.ticketTypeId (-1) = .ok after →
      Commits reservationTimeSeconds shown (.operation (.delete ownerId ticketId)) after

/-- Only what the sweep has canceled has to be known to the last. -/
theorem Commits.mono {office after : Office} {seconds : Int} {shown shown' : Reading → Prop}
    {activity : Activity} (h : office.Commits seconds shown activity after)
    (more : ∀ reading, shown reading → shown' reading)
    (same : ∀ id, shown' (.canceled id) → shown (.canceled id)) :
    office.Commits seconds shown' activity after := by
  cases h with
  | served once suits served => exact .served once suits served
  | patchedType loaded changed => exact .patchedType (more _ loaded) changed
  | patchedEvent loaded changed => exact .patchedEvent (more _ loaded) changed
  | swept clock distinct listed hung day =>
      exact .swept (more _ clock) distinct
        (fun id => (listed id).trans ⟨more _, same id⟩) hung day
  | missed found gone counted => exact .missed (more _ found) gone counted

end Office

/-! ## The calls that answer -/

/-- What a call returns, as an answer. -/
def answered {α : Type} (form : α → Office.Answer) (p : Async α) : Async Office.Answer := do
  let a ← p
  pure (form a)

/-- The call tree of an activity, with what it returns. -/
def Activity.answering (d : Deployment) : Activity → Async Office.Answer
  | .operation (.create userId ticketData) =>
      answered .ticket (getDb (TicketService.create d userId ticketData))
  | .operation (.delete ownerId ticketId) =>
      answered (fun _ => .done) (getDb (TicketService.delete d ownerId ticketId))
  | .operation (.payForTicket ticketId ownerId) =>
      answered .payment (getDb (PaymentService.payForTicket d ticketId ownerId))
  | .operation (.releaseUnpaidTicket ticketId) =>
      answered (fun _ => .done) (Worker.releaseUnpaidTicket d ticketId)
  | .operation .reconcileHungTickets => answered (fun _ => .done) (Worker.reconcileHungTickets d)
  | .operation .reconcileRedisOrphans => answered (fun _ => .done) (Worker.reconcileRedisOrphans d)
  | .operation (.createType eventId typeData) =>
      answered .ticketType (getDb (TicketTypeService.create d eventId typeData))
  | .operation (.updateType ticketTypeId updateData) =>
      answered .ticketType (getDb (TicketTypeService.update d ticketTypeId updateData))
  | .operation (.deleteType ticketTypeId) =>
      answered (fun _ => .done) (getDb (TicketTypeService.delete d ticketTypeId))
  | .createEvent eventData => answered .event (getDb (EventService.create d eventData))
  | .updateEvent eventId updateData =>
      answered .event (getDb (EventService.update d eventId updateData))
  | .deleteEvent eventId => answered (fun _ => .done) (getDb (EventService.delete d eventId))
  | .getEvent eventId => answered .eventDetail (getDb (EventService.get d eventId))
  | .getEvents offset limit => answered .events (getDb (EventService.getAll d offset limit))
  | .getTicket ownerId ticketId =>
      answered .ticketDetail (getDb (TicketService.get ownerId ticketId))
  | .getTickets ownerId offset limit =>
      answered .tickets (getDb (TicketService.getAllForUser ownerId offset limit))
  | .getType ticketTypeId => answered .ticketTypeDetail (getDb (TicketTypeService.get ticketTypeId))
  | .getTypes eventId offset limit =>
      answered .ticketTypes (getDb (TicketTypeService.getAllForEvent eventId offset limit))

end TicketCore
