import TicketCore.CommitOrder.Statements
import TicketCore.Office.Events

/-!
# What is ready to be committed

The locks with which the requests reach their commit are `Ready`, one lemma a request: whatever the
tables have become by then, a commit of these locks is the request as the office would have it.
-/

namespace TicketCore.CommitOrder

open Interleave RowStore Pending

variable {d : Deployment} {g : Pending}
  {id ticketId ticketTypeId ownerId userId eventId clock delta : Int}

/-! ## Counts -/

/-- The count of a ticket type has moved, unless there is no such type any more. -/
def Counted (ticketTypeId delta : Int) (g : Pending) : Prop :=
  (∃ row row', row.addTicketsSold delta = .ok row' ∧
    g.types = Locks.none.add ticketTypeId (some row) (some row')) ∨
  (g.knows (.typeGone ticketTypeId) ∧ g.types = Locks.none)

variable {ι : Type} [DecidableEq ι] {db : Database ι} {t : ι}

theorem Counted.count (counted : Counted ticketTypeId delta g) (right : g.Right db t) :
    db.office.count ticketTypeId delta =
      .ok { db.office with types := g.types.apply db.office.types } := by
  rcases counted with ⟨row, row', changed, types⟩ | ⟨known, types⟩
  · have stored : db.office.types ticketTypeId = some row :=
      right.types.row_of_lock (by rw [types]; exact Locks.add_self)
    unfold Office.count
    rw [stored]
    dsimp only
    rw [changed, types, Locks.apply_add, Locks.apply_none]
    rfl
  · have gone : db.ticketTypes.Gone ticketTypeId := right.knows _ known
    have absent : db.office.types ticketTypeId = none := gone.absent
    unfold Office.count
    rw [absent, types, Locks.apply_none]

/-- A request that is served is committed as it is. -/
theorem commits_of_answer {office after : Office} {seconds : Int} {shown : Reading → Prop}
    {activity : Activity} {α : Type} {a : α} {result : Except Exn (α × Office)}
    (form : α → Office.Answer) (notes : Notes) (once : activity.atOnce)
    (suits : office.Suits notes activity)
    (serves : office.serve seconds notes activity = Office.answer form result)
    (served : result = .ok (a, after)) : office.Commits seconds shown activity after := by
  rw [served] at serves
  exact .served once suits serves

/-- A commit that changes one ticket. -/
theorem commit_ticket {base version : Option Ticket} (right : g.Right db t)
    (tickets : g.tickets = Locks.none.add id base version) (events : g.events = Locks.none) :
    db.office.tickets id = base ∧ (db.commit t).office =
      ({ db.office with types := g.types.apply db.office.types } : Office).setTicket
        id version := by
  refine ⟨right.tickets.row_of_lock (by rw [tickets]; exact Locks.add_self), ?_⟩
  rw [right.commit_office, tickets, events, Locks.apply_add, Locks.apply_none, Locks.apply_none]
  rfl

/-- A commit that changes one ticket type. -/
theorem commit_type {base version : Option TicketType} (right : g.Right db t)
    (types : g.types = Locks.none.add id base version) (tickets : g.tickets = Locks.none)
    (events : g.events = Locks.none) : db.ticketTypes.held id = some (t, version) ∧
      db.office.types id = base ∧ (db.commit t).office = db.office.setType id version := by
  have lock : g.types id = some (base, version) := by
    rw [types]
    exact Locks.add_self
  refine ⟨heldBy_eq_some.mp (right.types.heldBy_of_lock lock), right.types.row_of_lock lock, ?_⟩
  rw [right.commit_office, types, tickets, events, Locks.apply_add, Locks.apply_none,
    Locks.apply_none,
    Locks.apply_none]
  rfl

/-- A commit that changes one event. -/
theorem commit_event {base version : Option Event} (right : g.Right db t)
    (events : g.events = Locks.none.add id base version) (tickets : g.tickets = Locks.none)
    (types : g.types = Locks.none) : db.events.held id = some (t, version) ∧
      db.office.events id = base ∧ (db.commit t).office = db.office.setEvent id version := by
  have lock : g.events id = some (base, version) := by
    rw [events]
    exact Locks.add_self
  refine ⟨heldBy_eq_some.mp (right.events.heldBy_of_lock lock),
    right.events.row_of_lock lock, ?_⟩
  rw [right.commit_office, events, tickets, types, Locks.apply_add, Locks.apply_none,
    Locks.apply_none,
    Locks.apply_none]
  rfl

/-! ## Tickets -/

theorem ready_booked {row row' : TicketType} {ticketData : TicketCreate}
    (tickets : g.tickets = Locks.none.add id none
      (some ⟨ticketData.ticketTypeId, userId, .reserved, clock⟩))
    (types : g.types = Locks.none.add ticketData.ticketTypeId (some row) (some row'))
    (changed : row.addTicketsSold 1 = .ok row') (user : g.knows (.user userId))
    (events : g.events = Locks.none) : Ready d (.operation (.create userId ticketData)) g := by
  intro ι _ db t _ right
  obtain ⟨free, after⟩ := commit_ticket right tickets events
  have stored : db.office.types ticketData.ticketTypeId = some row :=
    right.types.row_of_lock (by rw [types]; exact Locks.add_self)
  have counted : Counted ticketData.ticketTypeId 1 g := .inl ⟨row, row', changed, types⟩
  obtain ⟨sold, quantity⟩ := TicketType.addTicketsSold_ok changed
  have limit := row'.check_sold_limit
  have known : userId ∈ db.office.users := right.knows _ user
  rw [after]
  exact commits_of_answer .ticket ⟨id, clock, []⟩ rfl free rfl
    (Office.book_user stored (by omega) known (counted.count right))

theorem ready_givenUp {ticket : Ticket}
    (tickets : g.tickets = Locks.none.add ticketId (some ticket) none)
    (owned : ticket.ownerId = ownerId) (counted : Counted ticket.ticketTypeId (-1) g)
    (events : g.events = Locks.none) : Ready d (.operation (.delete ownerId ticketId)) g := by
  intro ι _ db t _ right
  obtain ⟨stored, after⟩ := commit_ticket right tickets events
  have found : db.office.ticketOf ownerId ticketId = some ticket := by
    unfold Office.ticketOf
    rw [stored, Option.filter_some, if_pos (decide_eq_true owned)]
  rw [after]
  refine commits_of_answer (a := ()) (fun _ => .done) ⟨0, 0, []⟩ rfl trivial rfl ?_
  unfold Office.giveUp
  rw [found]
  dsimp only
  rw [counted.count right]
  rfl

/-- The ticket has gone before it could be given up. -/
theorem ready_missed {ticket : Ticket} (found : g.shown (.ticket ownerId ticketId ticket))
    (tickets : g.tickets = Locks.none) (gone : g.knows (.ticketGone ticketId))
    (counted : Counted ticket.ticketTypeId (-1) g) (events : g.events = Locks.none) :
    Ready d (.operation (.delete ownerId ticketId)) g := by
  intro ι _ db t _ right
  have absent : db.tickets.Gone ticketId := right.knows _ gone
  have moved := counted.count right
  rw [right.commit_office, tickets, events, Locks.apply_none, Locks.apply_none]
  exact .missed found absent.absent moved

theorem ready_paid {ticket : Ticket}
    (tickets : g.tickets = Locks.none.add ticketId (some ticket) (some (ticket.withStatus .sold)))
    (owned : ticket.ownerId = ownerId) (reserved : ticket.status = .reserved)
    (types : g.types = Locks.none) (events : g.events = Locks.none) :
    Ready d (.operation (.payForTicket ticketId ownerId)) g := by
  intro ι _ db t _ right
  obtain ⟨stored, after⟩ := commit_ticket right tickets events
  rw [types, Locks.apply_none] at after
  have found : db.office.ticketOf ownerId ticketId = some ticket := by
    unfold Office.ticketOf
    rw [stored, Option.filter_some, if_pos (decide_eq_true owned)]
  rw [after]
  refine commits_of_answer .payment ⟨0, 0, []⟩ rfl trivial rfl
    (a := ⟨ticketId, .sold⟩) ?_
  unfold Office.pay
  rw [found]
  dsimp only
  rw [reserved]

theorem ready_released {ticket : Ticket}
    (tickets : g.tickets = Locks.none.add ticketId (some ticket)
      (some (ticket.withStatus .canceled)))
    (reserved : ticket.status = .reserved) (counted : Counted ticket.ticketTypeId (-1) g)
    (events : g.events = Locks.none) : Ready d (.operation (.releaseUnpaidTicket ticketId)) g := by
  intro ι _ db t _ right
  obtain ⟨stored, after⟩ := commit_ticket right tickets events
  rw [after]
  refine commits_of_answer (a := ()) (fun _ => .done) ⟨0, 0, []⟩ rfl trivial rfl ?_
  unfold Office.release
  rw [stored]
  dsimp only
  rw [if_neg (not_not.mpr reserved), counted.count right]
  rfl

/-! ## Ticket types -/

theorem ready_typeAdded {data : TicketTypeCreate}
    (types : g.types = Locks.none.add id none (some (data.row eventId)))
    (tickets : g.tickets = Locks.none)
    (events : g.events = Locks.none) : Ready d (.operation (.createType eventId data)) g := by
  intro ι _ db t integral right
  obtain ⟨held, free, after⟩ := commit_type right types tickets events
  obtain ⟨seen, _⟩ := integral.announced id t _ held free
  have there : ¬ (db.office.events eventId).isNone := by
    rw [right.events.read_of_none (by rw [events]; rfl)] at seen
    rw [Option.isNone_iff_eq_none]
    exact Option.isSome_iff_ne_none.mp seen
  rw [after]
  refine commits_of_answer .ticketType ⟨id, 0, []⟩ rfl free rfl
    (a := (data.row eventId).response id) ?_
  unfold Office.addType
  rw [if_neg there]

/-- What differs from the row that was loaded is changed. -/
theorem ready_typeChanged {data : TicketTypeUpdate} {loaded row row' : TicketType}
    (found : g.shown (.ticketType id loaded))
    (types : g.types = Locks.none.add id (some row) (some row')) (tickets : g.tickets = Locks.none)
    (events : g.events = Locks.none) (changes : (data.netChange loaded).isEmpty ≠ true)
    (applied : (data.netChange loaded).apply row = .ok row') :
    Ready d (.operation (.updateType id data)) g := by
  intro ι _ db t _ right
  obtain ⟨_, stored, after⟩ := commit_type right types tickets events
  have enough : TicketTypeService.tooSmall
      (data.netChange loaded).newQuantity row.ticketsSold ≠ true := by
    have quantity := TicketTypeUpdate.apply_quantity applied
    have sold := TicketTypeUpdate.apply_ok applied
    have limit := row'.check_sold_limit
    unfold TicketTypeService.tooSmall
    cases given : (data.netChange loaded).newQuantity with
    | none => exact nofun
    | some new =>
        rw [given, Option.getD_some] at quantity
        rw [Option.any_some, ne_eq, decide_eq_true_eq]
        omega
  have changed : db.office.changeType id (data.netChange loaded) =
      .ok (row'.response id, db.office.setType id (some row')) := by
    unfold Office.changeType
    rw [stored]
    dsimp only
    rw [if_neg changes, if_neg enough, applied]
  rw [after]
  exact .patchedType found changed

theorem ready_typeDropped {row : TicketType} (types : g.types = Locks.none.add id (some row) none)
    (tickets : g.tickets = Locks.none) (events : g.events = Locks.none) :
    Ready d (.operation (.deleteType id)) g := by
  intro ι _ db t integral right
  obtain ⟨held, stored, after⟩ := commit_type right types tickets events
  have unused : ¬ ∃ ticketId ticket, db.office.tickets ticketId = some ticket ∧
      ticket.ticketTypeId = id := by
    rintro ⟨ticketId, ticket, here, same⟩
    refine integral.soldOff id t held ticketId ticket ?_ same
    rw [right.tickets.read_of_none (by rw [tickets]; rfl)]
    exact here
  rw [after]
  refine commits_of_answer (a := ()) (fun _ => .done) ⟨0, 0, []⟩ rfl trivial rfl ?_
  unfold Office.dropType
  rw [if_neg (by rw [stored]; exact nofun), if_neg unused]

/-! ## Events -/

theorem ready_eventAdded {data : EventCreate}
    (events : g.events = Locks.none.add id none (some data.row))
    (tickets : g.tickets = Locks.none) (types : g.types = Locks.none) :
    Ready d (.createEvent data) g := by
  intro ι _ db t _ right
  obtain ⟨_, free, after⟩ := commit_event right events tickets types
  rw [after]
  exact commits_of_answer .event ⟨id, 0, []⟩ rfl free rfl rfl

/-- What differs from the event that was loaded is changed. -/
theorem ready_eventChanged {data : EventUpdate} {loaded event event' : Event}
    (found : g.shown (.event id loaded))
    (events : g.events = Locks.none.add id (some event) (some event'))
    (tickets : g.tickets = Locks.none)
    (types : g.types = Locks.none) (changes : (data.netChange loaded).isEmpty ≠ true)
    (applied : (data.netChange loaded).apply event = .ok event') :
    Ready d (.updateEvent id data) g := by
  intro ι _ db t _ right
  obtain ⟨_, stored, after⟩ := commit_event right events tickets types
  have changed : db.office.changeEvent id (data.netChange loaded) =
      .ok (event'.response id, db.office.setEvent id (some event')) := by
    unfold Office.changeEvent
    rw [stored]
    dsimp only
    rw [if_neg changes, applied]
  rw [after]
  exact .patchedEvent found changed

theorem ready_eventDropped {event : Event} (events : g.events = Locks.none.add id (some event) none)
    (tickets : g.tickets = Locks.none) (types : g.types = Locks.none) :
    Ready d (.deleteEvent id) g := by
  intro ι _ db t integral right
  obtain ⟨held, stored, after⟩ := commit_event right events tickets types
  have unused : ¬ ∃ typeId row, db.office.types typeId = some row ∧ row.eventId = id := by
    rintro ⟨typeId, row, here, same⟩
    refine integral.calledOff id t held typeId row ?_ same
    rw [right.types.read_of_none (by rw [types]; rfl)]
    exact here
  rw [after]
  refine commits_of_answer (a := ()) (fun _ => .done) ⟨0, 0, []⟩ rfl trivial rfl ?_
  unfold Office.dropEvent
  rw [if_neg (by rw [stored]; exact nofun), if_neg unused]

end TicketCore.CommitOrder
