import TicketCore.Catalog
import TicketCore.Interleave.Protocol

/-!
# The errand of a call

How far one call has come with the caches of events: an `Errand`, and the protocol of its calls. A
reader of an event goes from `resting` through `seen` and `loaded`, a reader of the list through
`keyed` and `paged`, and a writer through `editing` or `working`, `pledged`, `dirty` and `bumping`.

* `Coherent` is what an errand means for the database: what the call's transaction has locked.
* `coherent_step` says that a step of any call keeps the meaning of the errands of all of them.
-/

namespace TicketCore.Cache

open Interleave RowStore

/-- How far a call has come. -/
inductive Errand
  /-- A call has failed that had to follow a commit. -/
  | lost
  /-- Nothing is locked, and nothing is in hand. -/
  | resting
  /-- The event is read. -/
  | seen (eventId : Int) (event : Event)
  /-- Its ticket types are read, too. -/
  | loaded (eventId : Int) (eventDto : EventDetailResponse)
  /-- The version of the event lists is read. -/
  | keyed (version : Int)
  /-- The page for this key is read. -/
  | paged (key : ListKey) (eventsDto : List EventResponse)
  /-- Nothing is locked but this ticket type, which is to stay. -/
  | editing (ticketTypeId : Int)
  /-- Anything may be locked. -/
  | working
  /-- The edit is committed, and the ticket type is still to be refreshed. -/
  | pledged (ticketTypeId : Int)
  /-- The entry of the event is still to be deleted. -/
  | dirty
  /-- The version of the lists is still to be counted up. -/
  | bumping

namespace Errand

/-- A transaction may be open, and nothing is to follow. -/
def Open : Errand → Prop
  | lost | pledged _ | dirty | bumping => False
  | _ => True

/-- The errand without what was read. -/
def relaxed : Errand → Errand
  | editing ticketTypeId => editing ticketTypeId
  | working => working
  | _ => resting

theorem Open.relaxed {g : Errand} (h : g.Open) : g.relaxed.Open := by
  cases g with
  | lost | pledged _ | dirty | bumping => exact h.elim
  | _ => trivial

end Errand

/-- A command that writes no cache of events. -/
def LeavesCaches : RedisCmd → Prop
  | .setEventStatic .. | .deleteEventStatic _ | .setEventListVersion _ | .incrEventListVersion
  | .setEventList .. | .expireEventStatic _ | .expireEventList _ => False
  | _ => True

/-- A call that writes no cache, no event and no ticket type, and does not end a transaction. -/
def Apart : Cmd → Prop
  | .db (.insertTicketType ..) | .db (.insertEvent _) => False
  | .db statement => ¬ statement.Ends ∧ (∀ id, ¬ statement.locksType id) ∧
      ∀ id, ¬ statement.locksEvent id
  | .redis _ command => LeavesCaches command
  | _ => True

/-- A statement that writes an event, or deletes a ticket type. -/
def Works : DbCmd → Prop
  | .deleteTicketType _ | .insertEvent _ | .updateEvent .. | .deleteEvent .. => True
  | _ => False

variable (d : Deployment) (About Named : Int → Prop)

/-- How an answered call moves the errand. `About` are the events that the calls are about, and
`Named` the ticket types that they name. -/
inductive Step : Errand → (cmd : Cmd) → Except Exn cmd.Resp → Errand → Prop
  | lost {cmd : Cmd} {answer : Except Exn cmd.Resp} : Step .lost cmd answer .lost
  | fault {g : Errand} {n : Nat} {command : RedisCmd} {e : Exn} :
      Step g (.redis n command) (.error e) .lost
  | refused {g : Errand} {cmd : Cmd} {e : Exn} : g.Open → Step g cmd (.error e) g.relaxed
  | apart {g : Errand} {cmd : Cmd} {a : cmd.Resp} :
      g.Open → Apart cmd → Step g cmd (.ok a) g.relaxed
  | rolled {g : Errand} : g.Open → Step g (.db .rollback) (.ok ()) .resting
  | closed {g : Errand} : g.Open → Step g (.db .close) (.ok ()) .resting
  | look {ticketTypeId : Int} {row : TicketType} : Named ticketTypeId →
      Step .resting (.db (.getTicketType ticketTypeId)) (.ok (some row)) (.editing ticketTypeId)
  | insert {eventId id : Int} {data : TicketTypeCreate} : About eventId →
      Step .resting (.db (.insertTicketType eventId data)) (.ok id) (.editing id)
  | edit {ticketTypeId : Int} {net : TicketTypeUpdate} :
      Step (.editing ticketTypeId) (.db (.updateTicketType ticketTypeId net)) (.ok ())
        (.editing ticketTypeId)
  | work {g : Errand} {statement : DbCmd} {a : statement.Resp} : g.Open → Works statement →
      Step g (.db statement) (.ok a) .working
  | commit {g : Errand} : g.Open → Step g (.db .commit) (.ok ()) .dirty
  | pledge {ticketTypeId : Int} :
      Step (.editing ticketTypeId) (.db .commit) (.ok ()) (.pledged ticketTypeId)
  | reread {ticketTypeId : Int} {row : TicketType} :
      Step (.pledged ticketTypeId) (.db (.refreshTicketType ticketTypeId)) (.ok row) .dirty
  | astray {ticketTypeId : Int} {e : Exn} :
      Step (.pledged ticketTypeId) (.db (.refreshTicketType ticketTypeId)) (.error e) .resting
  | warm {n : Nat} {command : RedisCmd} {a : command.Resp} : LeavesCaches command →
      Step .dirty (.redis n command) (.ok a) .dirty
  | drop {eventId : Int} : About eventId →
      Step .dirty (.redis d.apiRedis (.deleteEventStatic eventId)) (.ok ()) .bumping
  | bump : Step .bumping (.redis d.apiRedis .incrEventListVersion) (.ok ()) .resting
  | see {eventId : Int} {event : Event} :
      Step .resting (.db (.selectEvent eventId)) (.ok (some event)) (.seen eventId event)
  | load {eventId : Int} {event : Event} {ticketTypes : List (Int × TicketType)} :
      Step (.seen eventId event) (.db (.selectTicketTypes eventId)) (.ok ticketTypes)
        (.loaded eventId (event.detailResponse eventId ticketTypes))
  | store {eventId ttl : Int} {eventDto : EventDetailResponse} : About eventId →
      Step (.loaded eventId eventDto)
        (.redis d.apiRedis (.setEventStatic eventId eventDto ttl)) (.ok ()) .resting
  | key {version : Int} :
      Step .resting (.redis d.apiRedis .getEventListVersion) (.ok (some version)) (.keyed version)
  | keyless : Step .resting (.redis d.apiRedis .getEventListVersion) (.ok none) .lost
  | miss {key : ListKey} :
      Step (.keyed key.version) (.redis d.apiRedis (.getEventList key)) (.ok none)
        (.keyed key.version)
  | page {key : ListKey} {events : List (Int × Event)} :
      Step (.keyed key.version) (.db (.eventsPage key.offset key.limit)) (.ok events)
        (.paged key (events.map fun (id, event) => event.response id))
  | keep {key : ListKey} {ttl : Int} {eventsDto : List EventResponse} :
      Step (.paged key eventsDto) (.redis d.apiRedis (.setEventList key eventsDto ttl)) (.ok ())
        .resting

/-- A call finds only ticket types of these events under these ids. -/
def Finds : (cmd : Cmd) → Except Exn cmd.Resp → Prop
  | .db (.getTicketType id), .ok (some row) | .db (.refreshTicketType id), .ok row =>
      Named id → About row.eventId
  | _, _ => True

/-- The protocol of the calls that deal with the caches. -/
def protocol : Protocol Cmd Cmd.Resp Exn Errand where
  Answers cmd answer := cmd.Answers answer ∧ Finds About Named cmd answer
  Step := Step d About Named

end TicketCore.Cache
