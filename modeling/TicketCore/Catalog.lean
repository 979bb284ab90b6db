import TicketCore.Api

/-!
# The catalogue

The calls that are about ticket types and events, or only read: what an administrator and a visitor
of the site do, next to the calls that book, pay for and cancel tickets. `OfCatalog` bounds what
they await, and `only_catalog` says so of every such activity.
-/

namespace TicketCore

open Interleave

/-- A call about ticket types, events and their caches, or one that only reads tickets. -/
def OfCatalog (d : Deployment) : Cmd → Prop
  | .db (.getTicketType _) | .db (.insertTicketType ..) | .db (.updateTicketType ..)
  | .db (.deleteTicketType _) | .db (.refreshTicketType _) | .db (.ticketTypesPage ..)
  | .db (.insertEvent _) | .db (.refreshEvent _) | .db (.selectEvent _)
  | .db (.selectTicketTypes _) | .db (.eventsPage ..) | .db (.updateEvent ..)
  | .db (.deleteEvent ..) | .db (.selectTicket ..) | .db (.ticketTypeWithEvent _)
  | .db (.ticketsOfOwner ..) | .db .commit | .db .rollback | .db .close => True
  | .redis n (.setInventory ..) | .redis n (.deleteInventory _) | .redis n (.getEventStatic _)
  | .redis n (.setEventStatic ..) | .redis n (.deleteEventStatic _)
  | .redis n .getEventListVersion | .redis n (.setEventListVersion _)
  | .redis n .incrEventListVersion | .redis n (.getEventList _)
  | .redis n (.setEventList ..) => n = d.apiRedis
  | _ => False

/-- A call of the catalogue that does not read lists of events. -/
def OfEntry (d : Deployment) : Cmd → Prop
  | .db (.getTicketType _) | .db (.insertTicketType ..) | .db (.updateTicketType ..)
  | .db (.deleteTicketType _) | .db (.refreshTicketType _) | .db (.insertEvent _)
  | .db (.refreshEvent _) | .db (.selectEvent _) | .db (.selectTicketTypes _)
  | .db (.updateEvent ..) | .db (.deleteEvent ..) | .db .commit | .db .rollback | .db .close => True
  | .redis n (.setInventory ..) | .redis n (.deleteInventory _) | .redis n (.getEventStatic _)
  | .redis n (.setEventStatic ..) | .redis n (.deleteEventStatic _)
  | .redis n .incrEventListVersion => n = d.apiRedis
  | _ => False

variable {d : Deployment} {P : Cmd → Prop}

theorem OfEntry.ofCatalog {cmd : Cmd} (h : OfEntry d cmd) : OfCatalog d cmd := by
  cases cmd with
  | db statement =>
      cases statement with
      | getTicketType _ | insertTicketType _ _ | updateTicketType _ _ | deleteTicketType _
      | refreshTicketType _ | insertEvent _ | refreshEvent _ | selectEvent _ | selectTicketTypes _
      | updateEvent _ _ | deleteEvent _ _ | commit | rollback | close => trivial
      | _ => exact h.elim
  | redis n command =>
      cases command with
      | setInventory _ _ | deleteInventory _ | getEventStatic _ | setEventStatic _ _ _
      | deleteEventStatic _ | incrEventListVersion => exact h
      | _ => exact h.elim
  | _ => exact h.elim

theorem only_unit {α : Type} {p : Async α} (h : p.Only P) : (unit p).Only P :=
  Program.Only.bind h fun _ => trivial

/-- One command after another, each of them routed. -/
theorem only_then {α : Type} {cmd : Cmd} {f : cmd.Resp → Async α} (h : P cmd)
    (rest : ∀ a, (f a).Only P) : (do let a ← (Program.call cmd : Async cmd.Resp); f a).Only P :=
  Program.Only.bind (Program.Only.call h) rest

/-! ## Ticket types -/

theorem only_invalidate {eventId : Int} :
    (TicketTypeService.invalidate d eventId).Only (OfEntry d) :=
  only_then rfl fun _ => Program.Only.call rfl

theorem only_createType {eventId : Int} {typeData : TicketTypeCreate} :
    (TicketTypeService.create d eventId typeData).Only (OfEntry d) :=
  Program.Only.bind (Program.Only.tryCatch
      (only_then trivial fun _ => only_then trivial fun _ => only_then trivial fun _ =>
        only_then rfl fun _ => Program.Only.bind only_invalidate fun _ => trivial)
      (only_rollbackOnSQLAlchemyError trivial))
    fun _ => trivial

theorem only_deleteType {ticketTypeId : Int} :
    (TicketTypeService.delete d ticketTypeId).Only (OfEntry d) := by
  refine only_then trivial fun ticketType => ?_
  cases ticketType with
  | none => trivial
  | some row =>
      refine Program.Only.tryCatch ?_ fun e => ?_
      · exact only_then trivial fun _ => only_then trivial fun _ => only_then rfl fun _ =>
          only_invalidate
      · unfold TicketTypeService.refuseDelete
        split
        · exact only_then trivial fun _ => trivial
        · exact only_rollbackOnSQLAlchemyError trivial e

theorem only_applyUpdate {ticketTypeId : Int} {loaded : TicketType}
    {updateData : TicketTypeUpdate} :
    (TicketTypeService.applyUpdate d ticketTypeId loaded updateData).Only (OfEntry d) := by
  refine Program.Only.bind ?_ fun _ => only_then trivial fun _ => only_then trivial fun row => ?_
  · unfold TicketTypeService.flushUpdate
    split
    · trivial
    · exact Program.Only.call trivial
  · dsimp only
    split
    · exact Program.Only.bind only_invalidate fun _ => trivial
    · exact only_then rfl fun _ => Program.Only.bind only_invalidate fun _ => trivial

theorem only_updateType {ticketTypeId : Int} {updateData : TicketTypeUpdate} :
    (TicketTypeService.update d ticketTypeId updateData).Only (OfEntry d) := by
  refine only_then trivial fun ticketType => ?_
  cases ticketType with
  | none => trivial
  | some loaded =>
      dsimp only
      split
      · trivial
      · split
        · trivial
        · exact Program.Only.bind (Program.Only.tryCatch only_applyUpdate
            (only_rollbackOnSQLAlchemyError trivial)) fun _ => trivial

/-! ## Events -/

theorem only_invalidateEvent {eventId : Int} :
    (CachedEventRepository.invalidateEvent d eventId).Only (OfEntry d) :=
  only_then rfl fun _ => Program.Only.call rfl

theorem only_eventGet {eventId : Int} : (EventRepository.get eventId).Only (OfEntry d) :=
  only_then trivial fun event => match event with
    | none => trivial
    | some _ => only_then trivial fun _ => trivial

theorem only_createEvent {eventData : EventCreate} :
    (EventService.create d eventData).Only (OfEntry d) :=
  Program.Only.bind (Program.Only.tryCatch
      (Program.Only.bind (only_then trivial fun _ => only_then trivial fun _ => trivial) fun _ =>
        only_then trivial fun _ => Program.Only.bind only_invalidateEvent fun _ => trivial)
      (only_rollbackOnSQLAlchemyError trivial))
    fun _ => trivial

theorem only_deleteEvent {eventId : Int} : (EventService.delete d eventId).Only (OfEntry d) := by
  refine Program.Only.bind only_eventGet fun event => ?_
  cases event with
  | none => trivial
  | some loaded =>
      refine Program.Only.tryCatch (Program.Only.bind ?_ fun _ => only_then trivial fun _ =>
        only_invalidateEvent) fun e => ?_
      · refine Program.Only.tryCatch (Program.Only.call trivial) fun e => ?_
        split
        · trivial
        · trivial
      · unfold EventService.refuseDelete
        split
        · exact only_then trivial fun _ => trivial
        · exact only_rollbackOnSQLAlchemyError trivial e

theorem only_applyEventUpdate {eventId : Int} {event : Event} {updateDict : EventUpdate} :
    (EventService.applyUpdate d eventId event updateDict).Only (OfEntry d) := by
  refine Program.Only.bind (Program.Only.bind ?_ fun _ => only_then trivial fun _ =>
    only_then trivial fun _ => trivial) fun _ => only_then trivial fun _ =>
      Program.Only.bind only_invalidateEvent fun _ => trivial
  unfold EventRepository.flushUpdate
  split
  · trivial
  · exact Program.Only.call trivial

theorem only_updateEvent {eventId : Int} {updateData : EventUpdate} :
    (EventService.update d eventId updateData).Only (OfEntry d) := by
  refine Program.Only.bind only_eventGet fun event => ?_
  cases event with
  | none => trivial
  | some loaded =>
      dsimp only
      split
      · trivial
      · exact Program.Only.tryCatch only_applyEventUpdate (only_rollbackOnSQLAlchemyError trivial)

theorem only_getEvent {eventId : Int} : (EventService.get d eventId).Only (OfEntry d) := by
  refine only_then rfl fun cachedData => ?_
  cases cachedData with
  | some event => trivial
  | none =>
      refine Program.Only.bind only_eventGet fun event => ?_
      cases event with
      | none => trivial
      | some loaded => exact only_then rfl fun _ => trivial

theorem only_getEvents {offset limit : Int} :
    (EventService.getAll d offset limit).Only (OfCatalog d) := by
  refine Program.Only.bind ?_ fun cachedKey => only_then rfl fun cachedData => ?_
  · refine only_then rfl fun versionVal => ?_
    cases versionVal with
    | none => exact only_then rfl fun _ => trivial
    | some version => trivial
  · cases cachedData with
    | some events => trivial
    | none =>
        exact Program.Only.bind (Program.Only.call trivial) fun _ => only_then rfl fun _ => trivial

/-! ## The activities -/

/-- An operation on ticket types. -/
def OnTypes : Operation → Prop
  | .createType .. | .updateType .. | .deleteType _ => True
  | _ => False

theorem only_entryOperation {op : Operation} (onTypes : OnTypes op) :
    (op.program d).Only (OfEntry d) := by
  cases op with
  | createType eventId typeData => exact only_unit (only_getDb trivial trivial only_createType)
  | updateType ticketTypeId updateData =>
      exact only_unit (only_getDb trivial trivial only_updateType)
  | deleteType ticketTypeId => exact only_getDb trivial trivial only_deleteType
  | _ => exact onTypes.elim

theorem only_typeOperation {op : Operation} (onTypes : OnTypes op) :
    (op.program d).Only (OfCatalog d) :=
  (only_entryOperation onTypes).mono fun _ => OfEntry.ofCatalog

/-- An activity that reads one event, or writes events or ticket types. -/
def OnEntries : Activity → Prop
  | .getEvent _ | .createEvent _ | .updateEvent .. | .deleteEvent _ => True
  | .operation op => OnTypes op
  | _ => False

theorem only_entry {activity : Activity} (onEntries : OnEntries activity) :
    (activity.program d).Only (OfEntry d) := by
  cases activity with
  | operation op => exact only_entryOperation onEntries
  | createEvent eventData => exact only_unit (only_getDb trivial trivial only_createEvent)
  | updateEvent eventId updateData => exact only_unit (only_getDb trivial trivial only_updateEvent)
  | deleteEvent eventId => exact only_getDb trivial trivial only_deleteEvent
  | getEvent eventId => exact only_unit (only_getDb trivial trivial only_getEvent)
  | _ => exact onEntries.elim

/-- What is no operation on tickets only awaits calls of the catalogue. -/
theorem only_catalog {activity : Activity}
    (onTypes : ∀ op, activity = .operation op → OnTypes op) :
    (activity.program d).Only (OfCatalog d) := by
  cases activity with
  | operation op => exact only_typeOperation (onTypes op rfl)
  | createEvent _ | updateEvent _ _ | deleteEvent _ | getEvent _ =>
      exact (only_entry (by exact trivial)).mono fun _ => OfEntry.ofCatalog
  | getEvents offset limit => exact only_unit (only_getDb trivial trivial only_getEvents)
  | getTicket ownerId ticketId =>
      refine only_unit (only_getDb trivial trivial (only_then trivial fun ticket => ?_))
      cases ticket with
      | none => trivial
      | some ticket => exact only_then trivial fun _ => trivial
  | getTickets ownerId offset limit =>
      exact only_unit (only_getDb trivial trivial (only_then trivial fun _ => trivial))
  | getType ticketTypeId =>
      refine only_unit (only_getDb trivial trivial (only_then trivial fun ticketType => ?_))
      cases ticketType with
      | none => trivial
      | some row => trivial
  | getTypes eventId offset limit =>
      exact only_unit (only_getDb trivial trivial (only_then trivial fun _ => trivial))

end TicketCore
