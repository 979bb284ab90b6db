import TicketCore.Interleave.Program
import TicketCore.RowStore
import TicketCore.Schema
import Mathlib.Data.Finset.Insert

/-!
# The PostgreSQL database

The tables `tickets`, `ticket_types` and `events` with the ids of `users`, and the statements that
the services and the worker tasks send, under READ COMMITTED: a plain `SELECT` reads the
latest committed rows and the transaction's own, while `UPDATE`, `DELETE` and `SELECT FOR UPDATE`
wait until no other transaction has the row locked and then act on its latest version.

`DbCmd.run` is the meaning of a statement sent by transaction `t`: `none` while it has to wait, and
else an answer or an exception with the next database. A statement that raises changes no row. What
an ORM session flushes is a statement of its own: `insertTicket` is the `INSERT` of a pending
object, `updateTicketStatus` the `UPDATE` of a changed one.
-/

namespace TicketCore

/-- The tables, over transactions `ι`. -/
structure Database (ι : Type) where
  tickets : RowStore ι Ticket
  ticketTypes : RowStore ι TicketType
  events : RowStore ι Event
  users : Finset Int

/-- Statements and transaction control. -/
inductive DbCmd
  /-- `db.get(TicketType, id)`. -/
  | getTicketType (id : Int)
  /-- `UPDATE ticket_types SET tickets_sold = tickets_sold + delta WHERE id = id`. -/
  | addTicketsSold (id delta : Int)
  /-- `INSERT INTO tickets`. -/
  | insertTicket (ownerId ticketTypeId : Int)
  /-- `SELECT ... FROM tickets WHERE id = id AND owner_id = owner_id`. -/
  | selectTicket (id ownerId : Int)
  /-- `SELECT ... FROM tickets WHERE id = id [AND owner_id = owner_id] FOR UPDATE`. -/
  | selectTicketForUpdate (id : Int) (ownerId : Option Int)
  /-- `UPDATE tickets SET status = status WHERE id = id`, of a loaded ticket. -/
  | updateTicketStatus (id : Int) (status : TicketStatus)
  /-- `DELETE FROM tickets WHERE id = id`, of a loaded ticket. -/
  | deleteTicket (id : Int)
  /-- The start of `UPDATE tickets SET status = 'CANCELED' WHERE status = 'RESERVED' AND created_at
  <= threshold RETURNING id, ticket_type_id`: the ids of its snapshot that qualify. -/
  | hungTickets (threshold : Int)
  /-- One row of that statement. -/
  | cancelHungTicket (id threshold : Int)
  /-- `db.refresh(ticket)`. -/
  | refreshTicket (id : Int)
  /-- `SELECT id, status FROM tickets WHERE id IN ids`. -/
  | selectStatuses (ids : List Int)
  /-- `INSERT INTO ticket_types`. -/
  | insertTicketType (eventId : Int) (data : TicketTypeCreate)
  /-- `UPDATE ticket_types SET ... WHERE id = id`, of a loaded row. -/
  | updateTicketType (id : Int) (data : TicketTypeUpdate)
  /-- `DELETE FROM ticket_types WHERE id = id`, of a loaded row. -/
  | deleteTicketType (id : Int)
  /-- `db.refresh(ticket_type)`. -/
  | refreshTicketType (id : Int)
  /-- The ticket type of a loaded ticket, joined with its event. -/
  | ticketTypeWithEvent (id : Int)
  /-- `SELECT ... FROM tickets WHERE owner_id = owner_id OFFSET offset LIMIT limit`. -/
  | ticketsOfOwner (ownerId offset limit : Int)
  /-- `SELECT ... FROM ticket_types WHERE event_id = event_id OFFSET offset LIMIT limit`. -/
  | ticketTypesPage (eventId offset limit : Int)
  /-- `INSERT INTO events`. -/
  | insertEvent (data : EventCreate)
  /-- `db.refresh(event)`. -/
  | refreshEvent (id : Int)
  /-- `SELECT ... FROM events WHERE id = id`. -/
  | selectEvent (id : Int)
  /-- The ticket types of a loaded event: the second `SELECT` of `selectinload`. -/
  | selectTicketTypes (eventId : Int)
  /-- `SELECT ... FROM events OFFSET offset LIMIT limit`. -/
  | eventsPage (offset limit : Int)
  /-- `UPDATE events SET ... WHERE id = id`, of a loaded row. -/
  | updateEvent (id : Int) (data : EventUpdate)
  /-- `DELETE FROM events WHERE id = id`, of a row that is loaded with these ticket types. -/
  | deleteEvent (id : Int) (ticketTypeIds : List Int)
  | commit
  | rollback
  /-- `session.close()`. -/
  | close

/-- What a statement answers. -/
@[reducible] def DbCmd.Resp : DbCmd → Type
  | .getTicketType _ => Option TicketType
  | .insertTicket .. => Int
  | .selectTicket .. => Option Ticket
  | .selectTicketForUpdate .. => Option Ticket
  | .hungTickets _ => List Int
  | .cancelHungTicket .. => Option (Int × Int)
  | .refreshTicket _ => Ticket
  | .selectStatuses _ => List (Int × TicketStatus)
  | .insertTicketType .. => Int
  | .refreshTicketType _ => TicketType
  | .ticketTypeWithEvent _ => Option (TicketType × Option Event)
  | .ticketsOfOwner .. => List (Int × Ticket)
  | .ticketTypesPage .. => List (Int × TicketType)
  | .insertEvent _ => Int
  | .refreshEvent _ => Event
  | .selectEvent _ => Option Event
  | .selectTicketTypes _ => List (Int × TicketType)
  | .eventsPage .. => List (Int × Event)
  | _ => Unit

namespace Database

variable {ι : Type} [DecidableEq ι]

/-- An `UPDATE` of one ticket type; one that matches no row changes nothing. -/
def updateTypeRow (db : Database ι) (t : ι) (id : Int)
    (change : TicketType → Except Constraint TicketType) :
    Option (Except Exn Unit × Database ι) :=
  match db.ticketTypes.read t id with
  | none => some (.ok (), db)
  | some row =>
      if db.ticketTypes.Free t id then
        match change row with
        | .ok row' =>
            some (.ok (), { db with ticketTypes := db.ticketTypes.hold t id (some row') })
        | .error violated => some (.error (.integrity violated), db)
      else none

/-- `INSERT INTO tickets` with the column defaults; the sequence moves on even when a foreign key is
violated. -/
def insertTicket (db : Database ι) (t : ι) (ownerId ticketTypeId clock : Int) :
    Except Exn Int × Database ι :=
  if (db.ticketTypes.read t ticketTypeId).isNone then
    (.error (.integrity .fkTicketType), { db with tickets := db.tickets.skip })
  else if ownerId ∉ db.users then
    (.error (.integrity .fkOwner), { db with tickets := db.tickets.skip })
  else
    (.ok db.tickets.next,
      { db with tickets := db.tickets.insert t ⟨ticketTypeId, ownerId, .reserved, clock⟩ })

/-- Whether a row is the one that `id` and, if given, `owner_id` ask for. -/
def matchesOwner (ticket : Ticket) (ownerId : Option Int) : Prop :=
  ∀ owner ∈ ownerId, ticket.ownerId = owner

instance (ticket : Ticket) (ownerId : Option Int) : Decidable (matchesOwner ticket ownerId) :=
  match ownerId with
  | none => isTrue fun _ mem => by cases mem
  | some owner =>
      decidable_of_iff (ticket.ownerId = owner)
        ⟨fun h _ mem => by cases mem; exact h, fun h => h owner rfl⟩

/-- A plain `SELECT` of one ticket. -/
def selectTicket (db : Database ι) (t : ι) (id ownerId : Int) : Option Ticket :=
  (db.tickets.read t id).filter fun ticket => matchesOwner ticket (some ownerId)

/-- `SELECT ... FOR UPDATE`. -/
def selectTicketForUpdate (db : Database ι) (t : ι) (id : Int) (ownerId : Option Int) :
    Option (Option Ticket × Database ι) :=
  match db.tickets.read t id with
  | none => some (none, db)
  | some ticket =>
      if ¬ matchesOwner ticket ownerId then some (none, db)
      else if db.tickets.Free t id then
        some (some ticket, { db with tickets := db.tickets.hold t id (some ticket) })
      else none

/-- The flush of a changed status; a row that has gone is a `StaleDataError`. -/
def updateTicketStatus (db : Database ι) (t : ι) (id : Int) (status : TicketStatus) :
    Option (Except Exn Unit × Database ι) :=
  match db.tickets.read t id with
  | none => some (.error .sqlalchemy, db)
  | some ticket =>
      if db.tickets.Free t id then
        some (.ok (), { db with
          tickets := db.tickets.hold t id (some { ticket with status := status }) })
      else none

/-- The flush of a deletion; a row that has gone is only warned about. -/
def deleteTicket (db : Database ι) (t : ι) (id : Int) : Option (Database ι) :=
  match db.tickets.read t id with
  | none => some db
  | some _ =>
      if db.tickets.Free t id then some { db with tickets := db.tickets.hold t id none } else none

/-- The `WHERE` of the garbage collector's `UPDATE`. -/
def Hung (threshold : Int) (ticket : Ticket) : Prop :=
  ticket.status = .reserved ∧ ticket.createdAt ≤ threshold

instance (threshold : Int) (ticket : Ticket) : Decidable (Hung threshold ticket) :=
  inferInstanceAs (Decidable (_ ∧ _))

/-- One row of the garbage collector's `UPDATE`: once it is free the `WHERE` is evaluated again on
the latest version. -/
def cancelHungTicket (db : Database ι) (t : ι) (id threshold : Int) :
    Option (Option (Int × Int) × Database ι) :=
  match db.tickets.read t id with
  | none => some (none, db)
  | some ticket =>
      if db.tickets.Free t id then
        if Hung threshold ticket then
          some (some (id, ticket.ticketTypeId), { db with
            tickets := db.tickets.hold t id (some { ticket with status := .canceled }) })
        else some (none, db)
      else none

/-- `SELECT id, status ... WHERE id IN ids`. -/
def selectStatuses (db : Database ι) (t : ι) (ids : List Int) : List (Int × TicketStatus) :=
  ids.filterMap fun id => (db.tickets.read t id).map fun ticket => (id, ticket.status)

/-- Another transaction has deleted the row, and may still roll back. -/
def Leaving {Row : Type} (s : RowStore ι Row) (t : ι) (id : Int) : Prop :=
  ∃ lock ∈ s.held id, lock.1 ≠ t ∧ lock.2 = none

instance {Row : Type} (s : RowStore ι Row) (t : ι) (id : Int) : Decidable (Leaving s t id) :=
  match held : s.held id with
  | none => isFalse fun ⟨_, mem, _⟩ => by rw [held] at mem; cases mem
  | some (u, version) =>
      if leaving : u ≠ t ∧ version.isNone then
        isTrue ⟨(u, version), held, leaving.1, Option.isNone_iff_eq_none.mp leaving.2⟩
      else isFalse fun ⟨lock, mem, other, gone⟩ => leaving <| by
        rw [held] at mem
        cases mem
        exact ⟨other, Option.isNone_iff_eq_none.mpr gone⟩

/-- `INSERT INTO ticket_types`; the foreign key waits for a deletion of the event. -/
def insertTicketType (db : Database ι) (t : ι) (eventId : Int) (data : TicketTypeCreate) :
    Option (Except Exn Int × Database ι) :=
  match db.events.read t eventId with
  | none =>
      some (.error (.integrity .fkEvent), { db with ticketTypes := db.ticketTypes.skip })
  | some _ =>
      if Leaving db.events t eventId then none
      else some (.ok db.ticketTypes.next,
        { db with ticketTypes := db.ticketTypes.insert t (data.row eventId) })

/-- Whether a ticket refers to the ticket type, as transaction `t` sees it. -/
def hasTickets (db : Database ι) (t : ι) (ticketTypeId : Int) : Bool :=
  (List.range db.tickets.issued).any fun n =>
    (db.tickets.read t (n + 1)).any fun ticket => ticket.ticketTypeId = ticketTypeId

/-- The flush of a ticket type's deletion. The relationship has no cascade, so the ORM first sets
`ticket_type_id` of the type's tickets to `NULL`, which the column forbids. -/
def deleteTicketType (db : Database ι) (t : ι) (id : Int) :
    Option (Except Exn Unit × Database ι) :=
  if db.hasTickets t id then some (.error (.integrity (.notNull "ticket_type_id")), db)
  else
    match db.ticketTypes.read t id with
    | none => some (.ok (), db)
    | some _ =>
        if db.ticketTypes.Free t id then
          some (.ok (), { db with ticketTypes := db.ticketTypes.hold t id none })
        else none

/-- A ticket type with its event. -/
def ticketTypeWithEvent (db : Database ι) (t : ι) (id : Int) :
    Option (TicketType × Option Event) :=
  (db.ticketTypes.read t id).map fun row => (row, db.events.read t row.eventId)

/-- The ids from one on of the rows that transaction `t` sees and that satisfy `p`. -/
def idsSeen {Row : Type} (s : RowStore ι Row) (t : ι) (p : Row → Bool) : List Int :=
  ((List.range s.issued).map fun n : Nat => (n : Int) + 1).filter fun id => (s.read t id).any p

/-- The rows under these ids. -/
def rowsAt {Row : Type} (s : RowStore ι Row) (t : ι) (ids : List Int) : List (Int × Row) :=
  ids.filterMap fun id => (s.read t id).map fun row => (id, row)

/-- A `SELECT` of the rows that satisfy `p`, with `OFFSET` and `LIMIT`. Without an `ORDER BY` the
rows come in the order in which they are scanned. -/
def page {Row : Type} (s : RowStore ι Row) (t : ι) (order : List Int) (p : Row → Bool)
    (offset limit : Int) : List (Int × Row) :=
  rowsAt s t (((Interleave.arrange order (idsSeen s t p)).drop offset.toNat).take limit.toNat)

/-- The ticket types of an event, in the order in which they are scanned. -/
def ticketTypesOf (db : Database ι) (t : ι) (order : List Int) (eventId : Int) :
    List (Int × TicketType) :=
  rowsAt db.ticketTypes t (Interleave.arrange order
    (idsSeen db.ticketTypes t fun row => row.eventId = eventId))

/-- The flush of an event's changes; a row that has gone is a `StaleDataError`. -/
def updateEvent (db : Database ι) (t : ι) (id : Int) (data : EventUpdate) :
    Option (Except Exn Unit × Database ι) :=
  match db.events.read t id with
  | none => some (.error .sqlalchemy, db)
  | some row =>
      if db.events.Free t id then
        match data.apply row with
        | .ok row' => some (.ok (), { db with events := db.events.hold t id (some row') })
        | .error violated => some (.error (.integrity violated), db)
      else none

/-- A ticket type of this event that another transaction has inserted or deleted. -/
def InFlux (db : Database ι) (t : ι) (eventId ticketTypeId : Int) : Prop :=
  ∃ lock ∈ db.ticketTypes.held ticketTypeId, lock.1 ≠ t ∧
    (((db.ticketTypes.row ticketTypeId).isNone ∧ lock.2.any fun row => row.eventId = eventId) ∨
      (lock.2.isNone ∧ (db.ticketTypes.row ticketTypeId).any fun row => row.eventId = eventId))

instance (db : Database ι) (t : ι) (eventId ticketTypeId : Int) :
    Decidable (db.InFlux t eventId ticketTypeId) :=
  match held : db.ticketTypes.held ticketTypeId with
  | none => isFalse fun ⟨_, mem, _⟩ => by rw [held] at mem; cases mem
  | some lock =>
      decidable_of_iff (lock.1 ≠ t ∧
        (((db.ticketTypes.row ticketTypeId).isNone ∧
          lock.2.any fun row => row.eventId = eventId) ∨
          (lock.2.isNone ∧ (db.ticketTypes.row ticketTypeId).any
            fun row => row.eventId = eventId)))
        ⟨fun h => ⟨lock, held, h⟩,
          fun ⟨lock', mem, h⟩ => by rw [held] at mem; cases mem; exact h⟩

/-- The flush of an event's deletion. The relationship has no cascade, so the ORM first sets
`event_id` of the loaded ticket types to `NULL`, which the column forbids; without any, the foreign
key of the ticket types restricts the `DELETE`, and waits for the ones that are in flux. -/
def deleteEvent (db : Database ι) (t : ι) (id : Int) (ticketTypeIds : List Int) :
    Option (Except Exn Unit × Database ι) :=
  match ticketTypeIds.find? fun typeId => (db.ticketTypes.read t typeId).isSome with
  | some typeId =>
      if db.ticketTypes.Free t typeId then
        some (.error (.integrity (.notNull "event_id")), db)
      else none
  | none =>
      if ticketTypeIds ≠ [] then some (.error .sqlalchemy, db)
      else
        match db.events.read t id with
        | none => some (.ok (), db)
        | some _ =>
            if ¬ db.events.Free t id ∨ (RowStore.serials db.ticketTypes.issued).filter
                (fun typeId => db.InFlux t id typeId) ≠ ∅ then none
            else if idsSeen db.ticketTypes t (fun row => row.eventId = id) ≠ [] then
              some (.error (.integrity .fkEvent), db)
            else some (.ok (), { db with events := db.events.hold t id none })

/-- `COMMIT`. -/
def commit (db : Database ι) (t : ι) : Database ι :=
  { db with
    tickets := db.tickets.commit t
    ticketTypes := db.ticketTypes.commit t
    events := db.events.commit t }

/-- `ROLLBACK`. -/
def rollback (db : Database ι) (t : ι) : Database ι :=
  { db with
    tickets := db.tickets.rollback t
    ticketTypes := db.ticketTypes.rollback t
    events := db.events.rollback t }

end Database

/-- Execute a statement of transaction `t` at `clock`; `order` is the order in which rows are
scanned. -/
def DbCmd.run {ι : Type} [DecidableEq ι] (t : ι) (clock : Int) (order : List Int)
    (db : Database ι) : (cmd : DbCmd) → Option (Except Exn cmd.Resp × Database ι)
  | .getTicketType id => some (.ok (db.ticketTypes.read t id), db)
  | .addTicketsSold id delta => db.updateTypeRow t id fun row => row.addTicketsSold delta
  | .insertTicket ownerId ticketTypeId => some (db.insertTicket t ownerId ticketTypeId clock)
  | .selectTicket id ownerId => some (.ok (db.selectTicket t id ownerId), db)
  | .selectTicketForUpdate id ownerId =>
      (db.selectTicketForUpdate t id ownerId).map fun (ticket, db') => (.ok ticket, db')
  | .updateTicketStatus id status => db.updateTicketStatus t id status
  | .deleteTicket id => (db.deleteTicket t id).map fun db' => (.ok (), db')
  | .hungTickets threshold =>
      some (.ok (Interleave.arrange order (db.tickets.idsWhere fun ticket =>
        Database.Hung threshold ticket)), db)
  | .cancelHungTicket id threshold =>
      (db.cancelHungTicket t id threshold).map fun (row, db') => (.ok row, db')
  | .refreshTicket id =>
      match db.tickets.read t id with
      | none => some (.error .sqlalchemy, db)
      | some ticket => some (.ok ticket, db)
  | .selectStatuses ids => some (.ok (db.selectStatuses t ids), db)
  | .insertTicketType eventId data => db.insertTicketType t eventId data
  | .updateTicketType id data =>
      match db.ticketTypes.read t id with
      | none => some (.error .sqlalchemy, db)
      | some _ => db.updateTypeRow t id data.apply
  | .deleteTicketType id => db.deleteTicketType t id
  | .refreshTicketType id =>
      match db.ticketTypes.read t id with
      | none => some (.error .sqlalchemy, db)
      | some row => some (.ok row, db)
  | .ticketTypeWithEvent id => some (.ok (db.ticketTypeWithEvent t id), db)
  | .ticketsOfOwner ownerId offset limit =>
      some (.ok (Database.page db.tickets t order (fun ticket => ticket.ownerId = ownerId) offset
        limit), db)
  | .ticketTypesPage eventId offset limit =>
      some (.ok (Database.page db.ticketTypes t order (fun row => row.eventId = eventId) offset
        limit), db)
  | .insertEvent data =>
      some (.ok db.events.next, { db with events := db.events.insert t data.row })
  | .refreshEvent id =>
      match db.events.read t id with
      | none => some (.error .sqlalchemy, db)
      | some event => some (.ok event, db)
  | .selectEvent id => some (.ok (db.events.read t id), db)
  | .selectTicketTypes eventId => some (.ok (db.ticketTypesOf t order eventId), db)
  | .eventsPage offset limit =>
      some (.ok (Database.page db.events t order (fun _ => true) offset limit), db)
  | .updateEvent id data => db.updateEvent t id data
  | .deleteEvent id ticketTypeIds => db.deleteEvent t id ticketTypeIds
  | .commit => some (.ok (), db.commit t)
  | .rollback => some (.ok (), db.rollback t)
  | .close => some (.ok (), db.rollback t)

/-! ## What a statement can do to each table -/

namespace DbCmd

/-- The statement ends the transaction. -/
def Ends : DbCmd → Prop
  | .commit | .rollback | .close => True
  | _ => False

/-- The tickets that a statement may lock. -/
def locksTicket : DbCmd → Int → Prop
  | .selectTicketForUpdate id _ | .updateTicketStatus id _ | .deleteTicket id
  | .cancelHungTicket id _ => (· = id)
  | _ => fun _ => False

/-- The ticket types that a statement may lock. -/
def locksType : DbCmd → Int → Prop
  | .addTicketsSold id _ | .updateTicketType id _ | .deleteTicketType id => (· = id)
  | _ => fun _ => False

/-- The statement takes an id for a ticket. -/
def InsertsTicket : DbCmd → Prop
  | .insertTicket .. => True
  | _ => False

/-- The statement takes an id for a ticket type. -/
def InsertsType : DbCmd → Prop
  | .insertTicketType .. => True
  | _ => False

/-- The statement takes an id for an event. -/
def InsertsEvent : DbCmd → Prop
  | .insertEvent _ => True
  | _ => False

/-- The events that a statement may lock. -/
def locksEvent : DbCmd → Int → Prop
  | .updateEvent id _ | .deleteEvent id _ => (· = id)
  | _ => fun _ => False

section Moves

variable {ι : Type} [DecidableEq ι] {t : ι} {clock : Int} {order : List Int}
  {db db' : Database ι}

/-- The tables of which a statement moves at most one. -/
structure Moved (statement : DbCmd) (t : ι) (db db' : Database ι) : Prop where
  tickets : db.tickets.Moves t statement.locksTicket statement.InsertsTicket db'.tickets
  ticketTypes : db.ticketTypes.Moves t statement.locksType statement.InsertsType db'.ticketTypes
  events : db.events.Moves t statement.locksEvent statement.InsertsEvent db'.events
  users : db'.users = db.users

theorem Moved.refl {statement : DbCmd} : Moved statement t db db :=
  ⟨.refl, .refl, .refl, rfl⟩

theorem moved_updateTypeRow {statement : DbCmd} {id : Int}
    {change : TicketType → Except Constraint TicketType} {answer : Except Exn Unit}
    (locks : statement.locksType id)
    (ran : db.updateTypeRow t id change = some (answer, db')) : Moved statement t db db' := by
  unfold Database.updateTypeRow at ran
  split at ran
  · cases ran; exact .refl
  · rename_i row read
    split at ran
    · rename_i free
      split at ran
      · cases ran
        exact ⟨.refl, .hold _ locks (by rw [read]; rfl) free, .refl, rfl⟩
      · cases ran; exact .refl
    · cases ran

theorem Ends.run {statement : DbCmd} {answer : Except Exn statement.Resp} (ends : statement.Ends)
    (ran : statement.run t clock order db = some (answer, db')) :
    db' = db.commit t ∨ db' = db.rollback t := by
  cases statement with
  | commit => cases ran; exact .inl rfl
  | rollback | close => cases ran; exact .inr rfl
  | _ => exact ends.elim

/-- A statement that does not end the transaction moves its table and no other. -/
theorem moved {statement : DbCmd} {answer : Except Exn statement.Resp} (goes : ¬ statement.Ends)
    (ran : statement.run t clock order db = some (answer, db')) : Moved statement t db db' := by
  cases statement with
  | getTicketType id | selectTicket id ownerId | hungTickets threshold | selectStatuses ids
  | ticketTypeWithEvent id | ticketsOfOwner ownerId offset limit
  | ticketTypesPage eventId offset limit | selectEvent id | selectTicketTypes eventId
  | eventsPage offset limit =>
      cases ran; exact .refl
  | commit | rollback | close => exact (goes trivial).elim
  | addTicketsSold id delta => exact moved_updateTypeRow rfl ran
  | insertTicket ownerId ticketTypeId =>
      simp only [run, Database.insertTicket] at ran
      split at ran
      · cases ran; exact ⟨.skip trivial, .refl, .refl, rfl⟩
      · split at ran
        · cases ran; exact ⟨.skip trivial, .refl, .refl, rfl⟩
        · cases ran; exact ⟨.insert _ trivial, .refl, .refl, rfl⟩
  | selectTicketForUpdate id ownerId =>
      simp only [run, Database.selectTicketForUpdate] at ran
      split at ran
      · cases ran; exact .refl
      · rename_i ticket read
        split at ran
        · cases ran; exact .refl
        · split at ran
          · rename_i free
            cases ran
            exact ⟨.hold _ rfl (by rw [read]; rfl) free, .refl, .refl, rfl⟩
          · cases ran
  | updateTicketStatus id status =>
      simp only [run, Database.updateTicketStatus] at ran
      split at ran
      · cases ran; exact .refl
      · rename_i ticket read
        split at ran
        · rename_i free
          cases ran
          exact ⟨.hold _ rfl (by rw [read]; rfl) free, .refl, .refl, rfl⟩
        · cases ran
  | deleteTicket id =>
      simp only [run, Database.deleteTicket] at ran
      split at ran
      · cases ran; exact .refl
      · rename_i ticket read
        split at ran
        · rename_i free
          cases ran
          exact ⟨.hold _ rfl (by rw [read]; rfl) free, .refl, .refl, rfl⟩
        · cases ran
  | cancelHungTicket id threshold =>
      simp only [run, Database.cancelHungTicket] at ran
      split at ran
      · cases ran; exact .refl
      · rename_i ticket read
        split at ran
        · rename_i free
          split at ran
          · cases ran
            exact ⟨.hold _ rfl (by rw [read]; rfl) free, .refl, .refl, rfl⟩
          · cases ran; exact .refl
        · cases ran
  | refreshTicket id | refreshTicketType id | refreshEvent id =>
      simp only [run] at ran
      split at ran
      · cases ran; exact .refl
      · cases ran; exact .refl
  | insertTicketType eventId data =>
      simp only [run, Database.insertTicketType] at ran
      split at ran
      · cases ran; exact ⟨.refl, .skip trivial, .refl, rfl⟩
      · split at ran
        · cases ran
        · cases ran; exact ⟨.refl, .insert _ trivial, .refl, rfl⟩
  | updateTicketType id data =>
      simp only [run] at ran
      split at ran
      · cases ran; exact .refl
      · exact moved_updateTypeRow rfl ran
  | deleteTicketType id =>
      simp only [run, Database.deleteTicketType] at ran
      split at ran
      · cases ran; exact .refl
      · split at ran
        · cases ran; exact .refl
        · rename_i row read
          split at ran
          · rename_i free
            cases ran
            exact ⟨.refl, .hold _ rfl (by rw [read]; rfl) free, .refl, rfl⟩
          · cases ran
  | insertEvent data => cases ran; exact ⟨.refl, .refl, .insert _ trivial, rfl⟩
  | updateEvent id data =>
      simp only [run, Database.updateEvent] at ran
      split at ran
      · cases ran; exact .refl
      · rename_i row read
        split at ran
        · rename_i free
          split at ran
          · cases ran
            exact ⟨.refl, .refl, .hold _ rfl (by rw [read]; rfl) free, rfl⟩
          · cases ran; exact .refl
        · cases ran
  | deleteEvent id ticketTypeIds =>
      simp only [run, Database.deleteEvent] at ran
      split at ran
      · split at ran
        · cases ran; exact .refl
        · cases ran
      · split at ran
        · cases ran; exact .refl
        · split at ran
          · cases ran; exact .refl
          · rename_i row read
            split at ran
            · cases ran
            · rename_i free
              split at ran
              · cases ran; exact .refl
              · cases ran
                have free := not_not.mp (not_or.mp free).1
                exact ⟨.refl, .refl, .hold _ rfl (by rw [read]; rfl) free, rfl⟩

/-- A statement that fails raises a `SQLAlchemyError`, and changes no row and no lock. -/
theorem failed {statement : DbCmd} {e : Exn}
    (ran : statement.run t clock order db = some (.error e, db')) :
    e.isSQLAlchemyError ∧ (db' = db ∨ db' = { db with tickets := db.tickets.skip } ∨
      db' = { db with ticketTypes := db.ticketTypes.skip }) := by
  have typeRow : ∀ {id change}, db.updateTypeRow t id change = some (.error e, db') →
      e.isSQLAlchemyError ∧ db' = db := by
    intro id change ran
    unfold Database.updateTypeRow at ran
    split at ran
    · cases ran
    · split at ran
      · split at ran
        · cases ran
        · cases ran; exact ⟨rfl, rfl⟩
      · cases ran
  cases statement with
  | getTicketType id | selectTicket id ownerId | hungTickets threshold | selectStatuses ids
  | ticketTypeWithEvent id | ticketsOfOwner ownerId offset limit
  | ticketTypesPage eventId offset limit | selectEvent id | selectTicketTypes eventId
  | eventsPage offset limit | insertEvent data | commit | rollback | close =>
      cases ran
  | addTicketsSold id delta => exact (typeRow ran).imp_right .inl
  | insertTicket ownerId ticketTypeId =>
      simp only [run, Database.insertTicket] at ran
      split at ran
      · cases ran; exact ⟨rfl, .inr (.inl rfl)⟩
      · split at ran
        · cases ran; exact ⟨rfl, .inr (.inl rfl)⟩
        · cases ran
  | selectTicketForUpdate id ownerId | cancelHungTicket id threshold =>
      obtain ⟨_, _, same⟩ := Option.map_eq_some_iff.mp ran
      cases same
  | deleteTicket id =>
      obtain ⟨_, _, same⟩ := Option.map_eq_some_iff.mp ran
      cases same
  | updateTicketStatus id status =>
      simp only [run, Database.updateTicketStatus] at ran
      split at ran
      · cases ran; exact ⟨rfl, .inl rfl⟩
      · split at ran
        · cases ran
        · cases ran
  | refreshTicket id | refreshTicketType id | refreshEvent id =>
      simp only [run] at ran
      split at ran
      · cases ran; exact ⟨rfl, .inl rfl⟩
      · cases ran
  | insertTicketType eventId data =>
      simp only [run, Database.insertTicketType] at ran
      split at ran
      · cases ran; exact ⟨rfl, .inr (.inr rfl)⟩
      · split at ran
        · cases ran
        · cases ran
  | updateTicketType id data =>
      simp only [run] at ran
      split at ran
      · cases ran; exact ⟨rfl, .inl rfl⟩
      · exact (typeRow ran).imp_right .inl
  | deleteTicketType id =>
      simp only [run, Database.deleteTicketType] at ran
      split at ran
      · cases ran; exact ⟨rfl, .inl rfl⟩
      · split at ran
        · cases ran
        · split at ran
          · cases ran
          · cases ran
  | updateEvent id data =>
      simp only [run, Database.updateEvent] at ran
      split at ran
      · cases ran; exact ⟨rfl, .inl rfl⟩
      · split at ran
        · split at ran
          · cases ran
          · cases ran; exact ⟨rfl, .inl rfl⟩
        · cases ran
  | deleteEvent id ticketTypeIds =>
      simp only [run, Database.deleteEvent] at ran
      split at ran
      · split at ran
        · cases ran; exact ⟨rfl, .inl rfl⟩
        · cases ran
      · split at ran
        · cases ran; exact ⟨rfl, .inl rfl⟩
        · split at ran
          · cases ran
          · split at ran
            · cases ran
            · split at ran
              · cases ran; exact ⟨rfl, .inl rfl⟩
              · cases ran

/-- A statement that raises changes no row and no lock. -/
theorem raised {statement : DbCmd} {e : Exn}
    (ran : statement.run t clock order db = some (.error e, db')) :
    db' = db ∨ db' = { db with tickets := db.tickets.skip } ∨
      db' = { db with ticketTypes := db.ticketTypes.skip } :=
  (failed ran).2

end Moves

end DbCmd

/-! ## What each statement can do -/

/-- A ticket type without tickets is that of no ticket. -/
theorem Database.not_hasTickets {ι : Type} [DecidableEq ι] {db : Database ι} {t : ι}
    {ticketTypeId id : Int} {ticket : Ticket} (free : db.hasTickets t ticketTypeId = false)
    (read : db.tickets.read t id = some ticket) : ticket.ticketTypeId ≠ ticketTypeId := by
  intro same
  have known : 1 ≤ id ∧ id ≤ db.tickets.issued := RowStore.read_issued (by rw [read]; rfl)
  unfold Database.hasTickets at free
  rw [List.any_eq_false] at free
  have index : ((id - 1).toNat : Int) + 1 = id := by omega
  have here := free (id - 1).toNat (List.mem_range.mpr (by omega))
  rw [index, read, Option.any_some] at here
  exact here (decide_eq_true same)

/-- The status that a `SELECT` finds for one of the ids it asks for. -/
theorem Database.lookup_selectStatuses {ι : Type} [DecidableEq ι] {db : Database ι}
    {t : ι} {id : Int} {ids : List Int} :
    (db.selectStatuses t ids).lookup id =
      if id ∈ ids then (db.tickets.read t id).map Ticket.status else none := by
  unfold Database.selectStatuses
  induction ids with
  | nil => rfl
  | cons head rest ih =>
      rw [List.filterMap_cons]
      by_cases same : id = head
      · subst same
        rw [if_pos (List.mem_cons_self ..)]
        cases read : db.tickets.read t id with
        | none =>
            rw [Option.map_none]
            refine ih.trans ?_
            rw [read, Option.map_none, ite_self]
        | some ticket =>
            rw [Option.map_some]
            exact List.lookup_cons_self
      · have tail : (id ∈ head :: rest) = (id ∈ rest) := by
          rw [List.mem_cons, eq_false same, false_or]
        simp only [tail]
        cases read : db.tickets.read t head with
        | none =>
            rw [Option.map_none]
            exact ih
        | some ticket =>
            rw [Option.map_some]
            show ((head, ticket.status) :: _).lookup id = _
            rw [List.lookup_cons, beq_eq_false_iff_ne.mpr same]
            exact ih

namespace DbCmd

variable {ι : Type} [DecidableEq ι] {t : ι} {clock : Int} {order : List Int}
  {db db' : Database ι} {id : Int}

theorem run_addTicketsSold {delta : Int} {answer : Except Exn Unit}
    (ran : (addTicketsSold id delta).run t clock order db = some (answer, db')) :
    (db.ticketTypes.read t id = none ∧ answer = .ok () ∧ db' = db) ∨
      ∃ row, db.ticketTypes.read t id = some row ∧ db.ticketTypes.Free t id ∧
        ((∃ row', row.addTicketsSold delta = .ok row' ∧ answer = .ok () ∧
            db' = { db with ticketTypes := db.ticketTypes.hold t id (some row') }) ∨
          ∃ violated, row.addTicketsSold delta = .error violated ∧
            answer = .error (.integrity violated) ∧ db' = db) := by
  simp only [run, Database.updateTypeRow] at ran
  split at ran
  · rename_i absent
    cases ran
    exact .inl ⟨absent, rfl, rfl⟩
  · rename_i row read
    split at ran
    · rename_i free
      refine .inr ⟨row, read, free, ?_⟩
      split at ran
      · rename_i row' ok
        cases ran
        exact .inl ⟨row', ok, rfl, rfl⟩
      · rename_i violated error
        cases ran
        exact .inr ⟨violated, error, rfl, rfl⟩
    · cases ran

theorem run_insertTicket {ownerId ticketTypeId : Int} {answer : Except Exn Int}
    (ran : (insertTicket ownerId ticketTypeId).run t clock order db = some (answer, db')) :
    (db.ticketTypes.read t ticketTypeId = none ∧ answer = .error (.integrity .fkTicketType) ∧
        db' = { db with tickets := db.tickets.skip }) ∨
      (ownerId ∉ db.users ∧ answer = .error (.integrity .fkOwner) ∧
        db' = { db with tickets := db.tickets.skip }) ∨
      ((db.ticketTypes.read t ticketTypeId).isSome ∧ ownerId ∈ db.users ∧
        answer = .ok db.tickets.next ∧ db' = { db with
          tickets := db.tickets.insert t ⟨ticketTypeId, ownerId, .reserved, clock⟩ }) := by
  simp only [run, Database.insertTicket] at ran
  split at ran
  · rename_i absent
    cases ran
    exact .inl ⟨Option.isNone_iff_eq_none.mp absent, rfl, rfl⟩
  · rename_i present
    split at ran
    · rename_i stranger
      cases ran
      exact .inr (.inl ⟨stranger, rfl, rfl⟩)
    · rename_i user
      cases ran
      have read : (db.ticketTypes.read t ticketTypeId).isSome := by
        rwa [Option.isNone_iff_eq_none, ← ne_eq, Option.ne_none_iff_isSome] at present
      exact .inr (.inr ⟨read, not_not.mp user, rfl, rfl⟩)

theorem run_selectTicket {ownerId : Int} {answer : Except Exn (Option Ticket)}
    (ran : (selectTicket id ownerId).run t clock order db = some (answer, db')) :
    answer = .ok (db.selectTicket t id ownerId) ∧ db' = db := by
  cases ran
  exact ⟨rfl, rfl⟩

theorem selectTicket_some {ownerId : Int} {ticket : Ticket}
    (selected : db.selectTicket t id ownerId = some ticket) :
    db.tickets.read t id = some ticket ∧ ticket.ownerId = ownerId := by
  unfold Database.selectTicket at selected
  obtain ⟨read, owned⟩ := Option.filter_eq_some_iff.mp selected
  exact ⟨read, of_decide_eq_true owned ownerId rfl⟩

theorem run_selectTicketForUpdate {ownerId : Option Int} {answer : Except Exn (Option Ticket)}
    (ran : (selectTicketForUpdate id ownerId).run t clock order db = some (answer, db')) :
    (answer = .ok none ∧ db' = db) ∨
      ∃ ticket, db.tickets.read t id = some ticket ∧ db.tickets.Free t id ∧
        answer = .ok (some ticket) ∧
          db' = { db with tickets := db.tickets.hold t id (some ticket) } := by
  simp only [run, Database.selectTicketForUpdate] at ran
  split at ran
  · cases ran
    exact .inl ⟨rfl, rfl⟩
  · rename_i ticket read
    split at ran
    · cases ran
      exact .inl ⟨rfl, rfl⟩
    · split at ran
      · rename_i free
        cases ran
        exact .inr ⟨ticket, read, free, rfl, rfl⟩
      · cases ran

theorem selectTicketForUpdate_some {ownerId : Int} {ticket : Ticket}
    (ran : (selectTicketForUpdate id (some ownerId)).run t clock order db =
      some (.ok (some ticket), db')) :
    db.tickets.read t id = some ticket ∧ ticket.ownerId = ownerId := by
  simp only [run, Database.selectTicketForUpdate] at ran
  split at ran
  · cases ran
  · rename_i found read
    split at ran
    · cases ran
    · rename_i owned
      split at ran
      · cases ran
        exact ⟨read, not_not.mp owned ownerId rfl⟩
      · cases ran

theorem run_updateTicketStatus {status : TicketStatus} {answer : Except Exn Unit}
    (ran : (updateTicketStatus id status).run t clock order db = some (answer, db')) :
    (answer = .error .sqlalchemy ∧ db' = db) ∨
      ∃ ticket, db.tickets.read t id = some ticket ∧ db.tickets.Free t id ∧
        answer = .ok () ∧
        db' = { db with
          tickets := db.tickets.hold t id (some { ticket with status := status }) } := by
  simp only [run, Database.updateTicketStatus] at ran
  split at ran
  · cases ran
    exact .inl ⟨rfl, rfl⟩
  · rename_i ticket read
    split at ran
    · rename_i free
      cases ran
      exact .inr ⟨ticket, read, free, rfl, rfl⟩
    · cases ran

theorem run_deleteTicket {answer : Except Exn Unit}
    (ran : (deleteTicket id).run t clock order db = some (answer, db')) :
    (db.tickets.read t id = none ∧ answer = .ok () ∧ db' = db) ∨
      ((db.tickets.read t id).isSome ∧ db.tickets.Free t id ∧ answer = .ok () ∧
        db' = { db with tickets := db.tickets.hold t id none }) := by
  simp only [run, Database.deleteTicket] at ran
  split at ran
  · rename_i absent
    cases ran
    exact .inl ⟨absent, rfl, rfl⟩
  · rename_i ticket read
    split at ran
    · rename_i free
      cases ran
      exact .inr ⟨by rw [read]; rfl, free, rfl, rfl⟩
    · cases ran

theorem run_cancelHungTicket {threshold : Int} {answer : Except Exn (Option (Int × Int))}
    (ran : (cancelHungTicket id threshold).run t clock order db = some (answer, db')) :
    (answer = .ok none ∧ db' = db) ∨
      ∃ ticket, db.tickets.read t id = some ticket ∧ db.tickets.Free t id ∧
        Database.Hung threshold ticket ∧ answer = .ok (some (id, ticket.ticketTypeId)) ∧
        db' = { db with
          tickets := db.tickets.hold t id (some { ticket with status := .canceled }) } := by
  simp only [run, Database.cancelHungTicket] at ran
  split at ran
  · cases ran
    exact .inl ⟨rfl, rfl⟩
  · rename_i ticket read
    split at ran
    · rename_i free
      split at ran
      · rename_i hung
        cases ran
        exact .inr ⟨ticket, read, free, hung, rfl, rfl⟩
      · cases ran
        exact .inl ⟨rfl, rfl⟩
    · cases ran

theorem run_refreshTicket {answer : Except Exn Ticket}
    (ran : (refreshTicket id).run t clock order db = some (answer, db')) :
    db' = db ∧ ((db.tickets.read t id = none ∧ answer = .error .sqlalchemy) ∨
      ∃ ticket, db.tickets.read t id = some ticket ∧ answer = .ok ticket) := by
  simp only [run] at ran
  split at ran
  · rename_i absent
    cases ran
    exact ⟨rfl, .inl ⟨absent, rfl⟩⟩
  · rename_i ticket read
    cases ran
    exact ⟨rfl, .inr ⟨ticket, read, rfl⟩⟩

theorem run_getTicketType {answer : Except Exn (Option TicketType)}
    (ran : (getTicketType id).run t clock order db = some (answer, db')) :
    answer = .ok (db.ticketTypes.read t id) ∧ db' = db := by
  cases ran
  exact ⟨rfl, rfl⟩

theorem run_insertTicketType {eventId : Int} {data : TicketTypeCreate} {answer : Except Exn Int}
    (ran : (insertTicketType eventId data).run t clock order db = some (answer, db')) :
    (answer = .error (.integrity .fkEvent) ∧
      db' = { db with ticketTypes := db.ticketTypes.skip }) ∨
      (answer = .ok db.ticketTypes.next ∧
        db' = { db with ticketTypes := db.ticketTypes.insert t (data.row eventId) }) := by
  simp only [run, Database.insertTicketType] at ran
  split at ran
  · cases ran
    exact .inl ⟨rfl, rfl⟩
  · split at ran
    · cases ran
    · cases ran
      exact .inr ⟨rfl, rfl⟩

theorem run_updateTicketType {data : TicketTypeUpdate} {answer : Except Exn Unit}
    (ran : (updateTicketType id data).run t clock order db = some (answer, db')) :
    (answer = .error .sqlalchemy ∧ db' = db) ∨
      ∃ row, db.ticketTypes.read t id = some row ∧
        ((∃ row', data.apply row = .ok row' ∧ answer = .ok () ∧
            db' = { db with ticketTypes := db.ticketTypes.hold t id (some row') }) ∨
          ∃ violated, data.apply row = .error violated ∧
            answer = .error (.integrity violated) ∧ db' = db) := by
  simp only [run] at ran
  split at ran
  · cases ran
    exact .inl ⟨rfl, rfl⟩
  · rename_i row read
    refine .inr ⟨row, read, ?_⟩
    simp only [Database.updateTypeRow, read] at ran
    split at ran
    · split at ran
      · rename_i row' ok
        cases ran
        exact .inl ⟨row', ok, rfl, rfl⟩
      · rename_i violated error
        cases ran
        exact .inr ⟨violated, error, rfl, rfl⟩
    · cases ran

/-- An `UPDATE` of a row that is there waits for its lock. -/
theorem free_of_updateTicketType {data : TicketTypeUpdate} {answer : Except Exn Unit}
    {row : TicketType} (ran : (updateTicketType id data).run t clock order db = some (answer, db'))
    (read : db.ticketTypes.read t id = some row) : db.ticketTypes.Free t id := by
  simp only [run, Database.updateTypeRow, read] at ran
  split at ran
  · assumption
  · cases ran

theorem run_deleteTicketType {answer : Except Exn Unit}
    (ran : (deleteTicketType id).run t clock order db = some (answer, db')) :
    (answer = .error (.integrity (.notNull "ticket_type_id")) ∧ db' = db) ∨
      (db.hasTickets t id = false ∧ answer = .ok () ∧ (db' = db ∨
        ((db.ticketTypes.read t id).isSome ∧
          db' = { db with ticketTypes := db.ticketTypes.hold t id none }))) := by
  simp only [run, Database.deleteTicketType] at ran
  split at ran
  · cases ran
    exact .inl ⟨rfl, rfl⟩
  · rename_i free
    rw [Bool.not_eq_true] at free
    split at ran
    · cases ran
      exact .inr ⟨free, rfl, .inl rfl⟩
    · rename_i row read
      split at ran
      · cases ran
        exact .inr ⟨free, rfl, .inr ⟨by rw [read]; rfl, rfl⟩⟩
      · cases ran

theorem run_refreshTicketType {answer : Except Exn TicketType}
    (ran : (refreshTicketType id).run t clock order db = some (answer, db')) :
    db' = db ∧ ((db.ticketTypes.read t id = none ∧ answer = .error .sqlalchemy) ∨
      ∃ row, db.ticketTypes.read t id = some row ∧ answer = .ok row) := by
  simp only [run] at ran
  split at ran
  · rename_i absent
    cases ran
    exact ⟨rfl, .inl ⟨absent, rfl⟩⟩
  · rename_i row read
    cases ran
    exact ⟨rfl, .inr ⟨row, read, rfl⟩⟩

theorem run_commit {answer : Except Exn Unit}
    (ran : DbCmd.commit.run t clock order db = some (answer, db')) :
    answer = .ok () ∧ db' = db.commit t := by
  cases ran
  exact ⟨rfl, rfl⟩

end DbCmd

end TicketCore
