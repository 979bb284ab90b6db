import TicketCore.Reconcile.Release
import TicketCore.RowVersions

/-!
# Integrity under concurrency

What the foreign keys of the database guarantee while transactions are open.

* `Effect` is what a statement can do to the tables; the `INSERT` of a ticket has to come with the
  lock on its type.
* `Integral` is the invariant. A new ticket is only there together with the lock on its type, a
  ticket type that is being deleted has no tickets, and an event that is being deleted has no ticket
  types, not even new ones of other transactions.
* `Integral.effect` says that statements keep it, and `References.effect` that with it they keep the
  foreign keys.
-/

namespace TicketCore

open Interleave RowStore

variable {ι : Type} [DecidableEq ι] {t u : ι} {clock : Int} {order : List Int}
  {db db' : Database ι} {id : Int}

/-- What does not change of a ticket. -/
def Ticket.identity (ticket : Ticket) : Int × Int := (ticket.ticketTypeId, ticket.ownerId)

namespace Database

/-- What a statement of transaction `t` can do to the tables, if the `INSERT` of a ticket comes with
the lock on its type. -/
inductive Effect (t : ι) (db : Database ι) : Database ι → Prop
  | none : Effect t db db
  | skipTicket : Effect t db { db with tickets := db.tickets.skip }
  | skipType : Effect t db { db with ticketTypes := db.ticketTypes.skip }
  | ticket {id : Int} {ticket : Ticket} (version : Option Ticket) :
      db.tickets.read t id = some ticket → db.tickets.Free t id →
      (∀ ticket', version = some ticket' → ticket'.identity = ticket.identity) →
      Effect t db { db with tickets := db.tickets.hold t id version }
  | newTicket {row : TicketType} (ticket : Ticket) : db.ticketTypes.Born ticket.ticketTypeId →
      ticket.ownerId ∈ db.users → db.ticketTypes.held ticket.ticketTypeId = some
        (t, some row) →
      Effect t db { db with tickets := db.tickets.insert t ticket }
  | ticketType {id : Int} {row : TicketType} (version : Option TicketType) :
      db.ticketTypes.read t id = some row → db.ticketTypes.Free t id →
      (∀ row', version = some row' → row'.eventId = row.eventId) →
      (version = .none → db.hasTickets t id = false) →
      Effect t db { db with ticketTypes := db.ticketTypes.hold t id version }
  | newType (row : TicketType) : (db.events.read t row.eventId).isSome →
      ¬ Leaving db.events t row.eventId →
      Effect t db { db with ticketTypes := db.ticketTypes.insert t row }
  | event {id : Int} {event : Event} (version : Option Event) :
      db.events.read t id = some event → db.events.Free t id →
      (version = .none → (∀ typeId, ¬ db.InFlux t id typeId) ∧
        ∀ typeId row, db.ticketTypes.read t typeId = some row → row.eventId ≠ id) →
      Effect t db { db with events := db.events.hold t id version }
  | newEvent (event : Event) : Effect t db { db with events := db.events.insert t event }
  | commit : Effect t db (db.commit t)
  | rollback : Effect t db (db.rollback t)

end Database

/-! ## The statements -/

theorem addTicketsSold_event {row row' : TicketType} {delta : Int}
    (changed : row.addTicketsSold delta = .ok row') : row'.eventId = row.eventId :=
  (Lowered.of_addTicketsSold changed).eventId

theorem effect_of_updateTypeRow {change : TicketType → Except Constraint TicketType}
    {answer : Except Exn Unit}
    (kept : ∀ row row', change row = .ok row' → row'.eventId = row.eventId)
    (ran : db.updateTypeRow t id change = some (answer, db')) : db.Effect t db' := by
  unfold Database.updateTypeRow at ran
  split at ran
  · cases ran
    exact .none
  · rename_i row read
    split at ran
    · rename_i free
      split at ran
      · rename_i row' ok
        cases ran
        refine .ticketType _ read free (fun row'' same => ?_) fun same => by cases same
        cases same
        exact kept row row' ok
      · cases ran
        exact .none
    · cases ran

/-- What a `DELETE` of an event has made sure of. -/
theorem effect_of_deleteEvent {ticketTypeIds : List Int} {answer : Except Exn Unit}
    (ran : db.deleteEvent t id ticketTypeIds = some (answer, db')) : db.Effect t db' := by
  unfold Database.deleteEvent at ran
  split at ran
  · split at ran
    · cases ran
      exact .none
    · cases ran
  · split at ran
    · cases ran
      exact .none
    · split at ran
      · cases ran
        exact .none
      · rename_i event read
        split at ran
        · cases ran
        · rename_i settled
          obtain ⟨free, still⟩ := not_or.mp settled
          split at ran
          · cases ran
            exact .none
          · rename_i childless
            cases ran
            refine .event none read (not_not.mp free) fun _ => ⟨fun typeId flux => ?_, ?_⟩
            · have known : 1 ≤ typeId ∧ typeId ≤ db.ticketTypes.issued := by
                obtain ⟨lock, held, _⟩ := flux
                exact db.ticketTypes.held_issued typeId (held_isSome held)
              have mem := Finset.mem_filter.mpr ⟨mem_serials.mpr known, flux⟩
              rw [not_not.mp still] at mem
              exact Finset.notMem_empty _ mem
            · intro typeId row seen same
              have known := read_issued (t := t)
                (by rw [seen]; rfl : (db.ticketTypes.read t typeId).isSome)
              have mem : typeId ∈ Database.idsSeen db.ticketTypes t fun row =>
                  row.eventId = id := by
                refine List.mem_filter.mpr ⟨List.mem_map.mpr
                  ⟨(typeId - 1).toNat, List.mem_range.mpr (by omega), by omega⟩, ?_⟩
                rw [seen]
                exact decide_eq_true same
              rw [not_not.mp childless] at mem
              exact List.not_mem_nil mem

/-- **What a statement can do**, but for the `INSERT` of a ticket. -/
theorem effect_of_run {statement : DbCmd} {answer : Except Exn statement.Resp}
    (other : ¬ statement.InsertsTicket)
    (ran : statement.run t clock order db = some (answer, db')) : db.Effect t db' := by
  cases statement with
  | getTicketType id | selectTicket id ownerId | hungTickets threshold | selectStatuses ids
  | ticketTypeWithEvent id | ticketsOfOwner ownerId offset limit
  | ticketTypesPage eventId offset limit | selectEvent id | selectTicketTypes eventId
  | eventsPage offset limit =>
      cases ran
      exact .none
  | insertTicket ownerId ticketTypeId => exact (other trivial).elim
  | commit =>
      cases ran
      exact .commit
  | rollback | close =>
      cases ran
      exact .rollback
  | addTicketsSold id delta =>
      exact effect_of_updateTypeRow (fun row row' changed => addTicketsSold_event changed) ran
  | updateTicketType id data =>
      simp only [DbCmd.run] at ran
      split at ran
      · cases ran
        exact .none
      · exact effect_of_updateTypeRow
          (fun row row' changed => TicketTypeUpdate.apply_event changed) ran
  | selectTicketForUpdate id ownerId =>
      rcases DbCmd.run_selectTicketForUpdate ran with
        ⟨_, rfl⟩ | ⟨ticket, read, free, _, rfl⟩
      · exact .none
      · refine .ticket _ read free fun ticket' same => ?_
        cases same
        rfl
  | updateTicketStatus id status =>
      rcases DbCmd.run_updateTicketStatus ran with ⟨_, rfl⟩ | ⟨ticket, read, free, _, rfl⟩
      · exact .none
      · refine .ticket _ read free fun ticket' same => ?_
        cases same
        rfl
  | deleteTicket id =>
      rcases DbCmd.run_deleteTicket ran with ⟨_, _, rfl⟩ | ⟨some, free, _, rfl⟩
      · exact .none
      · obtain ⟨ticket, read⟩ := Option.isSome_iff_exists.mp some
        exact .ticket _ read free fun ticket' same => by cases same
  | cancelHungTicket id threshold =>
      rcases DbCmd.run_cancelHungTicket ran with ⟨_, rfl⟩ | ⟨ticket, read, free, _, _, rfl⟩
      · exact .none
      · refine .ticket _ read free fun ticket' same => ?_
        cases same
        rfl
  | refreshTicket id | refreshTicketType id | refreshEvent id =>
      simp only [DbCmd.run] at ran
      split at ran
      · cases ran
        exact .none
      · cases ran
        exact .none
  | insertTicketType eventId data =>
      simp only [DbCmd.run, Database.insertTicketType] at ran
      split at ran
      · cases ran
        exact .skipType
      · rename_i event read
        split at ran
        · cases ran
        · rename_i stays
          cases ran
          refine .newType (data.row eventId) ?_ stays
          show (db.events.read t eventId).isSome
          rw [read]
          rfl
  | deleteTicketType id =>
      simp only [DbCmd.run, Database.deleteTicketType] at ran
      split at ran
      · cases ran
        exact .none
      · rename_i free
        split at ran
        · cases ran
          exact .none
        · rename_i row read
          split at ran
          · rename_i unlocked
            cases ran
            exact .ticketType _ read unlocked (fun row' same => by cases same) fun _ => by
              simpa using free
          · cases ran
  | insertEvent data =>
      cases ran
      exact .newEvent _
  | updateEvent id data =>
      simp only [DbCmd.run, Database.updateEvent] at ran
      split at ran
      · cases ran
        exact .none
      · rename_i event read
        split at ran
        · rename_i free
          split at ran
          · cases ran
            exact .event _ read free fun same => by cases same
          · cases ran
            exact .none
        · cases ran
  | deleteEvent id ticketTypeIds => exact effect_of_deleteEvent ran

/-! ## The invariant -/

namespace Database

/-- What the foreign keys guarantee while transactions are open. -/
structure Integral (db : Database ι) : Prop where
  tickets : db.tickets.Steady Ticket.identity
  types : db.ticketTypes.Steady TicketType.eventId
  born : ∀ id ticket, db.tickets.Version id ticket → db.ticketTypes.Born ticket.ticketTypeId
  owners : ∀ id ticket, db.tickets.Version id ticket → ticket.ownerId ∈ db.users
  /-- Who has a new ticket has its type locked. -/
  covered : ∀ id u ticket, db.tickets.held id = some (u, some ticket) →
      db.tickets.row id = none →
    ∃ row, db.ticketTypes.held ticket.ticketTypeId = some (u, some row)
  /-- A ticket type that is being deleted has no tickets. -/
  soldOff : ∀ id u, db.ticketTypes.held id = some (u, none) → ∀ ticketId ticket,
    db.tickets.read u ticketId = some ticket → ticket.ticketTypeId ≠ id
  /-- The event of a new ticket type is not being deleted. -/
  announced : ∀ id u row, db.ticketTypes.held id = some (u, some row) →
      db.ticketTypes.row id = none →
    (db.events.read u row.eventId).isSome ∧ ∀ lock ∈ db.events.held row.eventId, lock.2.isSome
  /-- An event that is being deleted has no ticket types. -/
  calledOff : ∀ id u, db.events.held id = some (u, none) → ∀ typeId row,
    db.ticketTypes.read u typeId = some row → row.eventId ≠ id

namespace Integral

/-- A statement that locks a ticket. -/
theorem holdTicket (h : db.Integral) {ticket : Ticket} {version : Option Ticket}
    (read : db.tickets.read t id = some ticket) (free : db.tickets.Free t id)
    (kept : ∀ ticket', version = some ticket' → ticket'.identity = ticket.identity) :
    ({ db with tickets := db.tickets.hold t id version } : Database ι).Integral where
  tickets := h.tickets.hold read kept
  types := h.types
  born other ticket' here := by
    rcases Version.of_hold here with here | ⟨rfl, new⟩
    · exact h.born other ticket' here
    · have type : ticket'.ticketTypeId = ticket.ticketTypeId :=
        congrArg Prod.fst (kept ticket' new)
      rw [type]
      exact h.born other ticket (version_of_read read)
  owners other ticket' here := by
    rcases Version.of_hold here with here | ⟨rfl, new⟩
    · exact h.owners other ticket' here
    · have owner : ticket'.ownerId = ticket.ownerId := congrArg Prod.snd (kept ticket' new)
      rw [owner]
      exact h.owners other ticket (version_of_read read)
  covered other u ticket' held absent := by
    have known := read_issued (by rw [read]; rfl : (db.tickets.read t id).isSome)
    rw [hold_row] at absent
    rcases held_hold_cases known held with ⟨rfl, new⟩ | ⟨_, old⟩
    · cases new
      have type : ticket'.ticketTypeId = ticket.ticketTypeId := congrArg Prod.fst (kept ticket' rfl)
      rw [type]
      exact h.covered other t ticket (held_of_new read absent) absent
    · exact h.covered other u ticket' old absent
  soldOff other u held ticketId ticket' seen := by
    by_cases own : u = t
    · subst own
      have known := read_issued (by rw [read]; rfl : (db.tickets.read u id).isSome)
      have seen : (db.tickets.hold u id version).read u ticketId = some ticket' := seen
      rw [read_hold known] at seen
      by_cases same : ticketId = id
      · subst same
        rw [Function.update_self] at seen
        have type : ticket'.ticketTypeId = ticket.ticketTypeId :=
          congrArg Prod.fst (kept ticket' seen)
        rw [type]
        exact h.soldOff other u held ticketId ticket read
      · rw [Function.update_of_ne same] at seen
        exact h.soldOff other u held ticketId ticket' seen
    · have seen : (db.tickets.hold t id version).read u ticketId = some ticket' := seen
      rw [read_hold_other own free] at seen
      exact h.soldOff other u held ticketId ticket' seen
  announced := h.announced
  calledOff := h.calledOff

/-- The `INSERT` of a ticket, by a transaction that has its type locked. -/
theorem insertTicket (h : db.Integral) {ticket : Ticket} {row : TicketType}
    (born : db.ticketTypes.Born ticket.ticketTypeId) (user : ticket.ownerId ∈ db.users)
    (locked : db.ticketTypes.held ticket.ticketTypeId = some (t, some row)) :
    ({ db with tickets := db.tickets.insert t ticket } : Database ι).Integral where
  tickets := h.tickets.insert
  types := h.types
  born other ticket' here := by
    rcases Version.of_insert here with here | ⟨_, rfl⟩
    · exact h.born other ticket' here
    · exact born
  owners other ticket' here := by
    rcases Version.of_insert here with here | ⟨_, rfl⟩
    · exact h.owners other ticket' here
    · exact user
  covered other u ticket' held absent := by
    rw [insert_row] at absent
    rcases held_insert_cases held with ⟨_, new⟩ | ⟨_, old⟩
    · cases new
      exact ⟨row, locked⟩
    · exact h.covered other u ticket' old absent
  soldOff other u held ticketId ticket' seen := by
    have seen : (db.tickets.insert t ticket).read u ticketId = some ticket' := seen
    by_cases own : u = t
    · subst own
      rw [read_insert] at seen
      by_cases new : ticketId = db.tickets.next
      · rw [new, Function.update_self] at seen
        cases seen
        rintro rfl
        rw [locked] at held
        cases held
      · rw [Function.update_of_ne new] at seen
        exact h.soldOff other u held ticketId ticket' seen
    · rw [read_insert_other own] at seen
      exact h.soldOff other u held ticketId ticket' seen
  announced := h.announced
  calledOff := h.calledOff

/-- A statement that locks a ticket type. -/
theorem holdType (h : db.Integral) {row : TicketType} {version : Option TicketType}
    (read : db.ticketTypes.read t id = some row) (free : db.ticketTypes.Free t id)
    (kept : ∀ row', version = some row' → row'.eventId = row.eventId)
    (empty : version = none → db.hasTickets t id = false) :
    ({ db with ticketTypes := db.ticketTypes.hold t id version } : Database ι).Integral where
  tickets := h.tickets
  types := h.types.hold read kept
  born other ticket here := (h.born other ticket here).hold (by rw [read]; rfl)
  owners := h.owners
  covered other u ticket held absent := by
    have known := read_issued (by rw [read]; rfl : (db.ticketTypes.read t id).isSome)
    obtain ⟨row', locked⟩ := h.covered other u ticket held absent
    by_cases same : ticket.ticketTypeId = id
    · -- The lock is this transaction's own, and its new ticket keeps the type from being deleted.
      rw [same] at locked ⊢
      have own : u = t := free _ locked
      subst own
      cases version with
      | none => exact (Database.not_hasTickets (empty rfl) (read_of_held held) same).elim
      | some row'' =>
          refine ⟨row'', ?_⟩
          rw [hold_held known, Function.update_self]
    · refine ⟨row', ?_⟩
      rw [hold_held known, Function.update_of_ne same]
      exact locked
  soldOff other u held ticketId ticket seen := by
    have known := read_issued (by rw [read]; rfl : (db.ticketTypes.read t id).isSome)
    rcases held_hold_cases known held with ⟨rfl, new⟩ | ⟨_, old⟩
    · cases new
      exact Database.not_hasTickets (empty rfl) seen
    · exact h.soldOff other u old ticketId ticket seen
  announced other u row' held absent := by
    have known := read_issued (by rw [read]; rfl : (db.ticketTypes.read t id).isSome)
    rw [hold_row] at absent
    rcases held_hold_cases known held with ⟨rfl, new⟩ | ⟨_, old⟩
    · cases new
      rw [kept row' rfl]
      exact h.announced other t row (held_of_new read absent) absent
    · exact h.announced other u row' old absent
  calledOff other u held typeId row' seen := by
    have seen : (db.ticketTypes.hold t id version).read u typeId = some row' := seen
    by_cases own : u = t
    · subst own
      have known := read_issued (by rw [read]; rfl : (db.ticketTypes.read u id).isSome)
      rw [read_hold known] at seen
      by_cases same : typeId = id
      · subst same
        rw [Function.update_self] at seen
        rw [kept row' seen]
        exact h.calledOff other u held typeId row read
      · rw [Function.update_of_ne same] at seen
        exact h.calledOff other u held typeId row' seen
    · rw [read_hold_other own free] at seen
      exact h.calledOff other u held typeId row' seen

/-- The `INSERT` of a ticket type. -/
theorem insertType (h : db.Integral) {row : TicketType}
    (event : (db.events.read t row.eventId).isSome)
    (stays : ¬ Database.Leaving db.events t row.eventId) :
    ({ db with ticketTypes := db.ticketTypes.insert t row } : Database ι).Integral where
  tickets := h.tickets
  types := h.types.insert
  born other ticket here := (h.born other ticket here).insert
  owners := h.owners
  covered other u ticket held absent := by
    obtain ⟨row', locked⟩ := h.covered other u ticket held absent
    refine ⟨row', ?_⟩
    have old : ticket.ticketTypeId ≠ db.ticketTypes.next := by
      intro new
      rw [new, held_next] at locked
      cases locked
    rw [insert_held, Function.update_of_ne old]
    exact locked
  soldOff other u held ticketId ticket seen := by
    rcases held_insert_cases held with ⟨_, new⟩ | ⟨_, old⟩
    · cases new
    · exact h.soldOff other u old ticketId ticket seen
  announced other u row' held absent := by
    rw [insert_row] at absent
    rcases held_insert_cases held with ⟨_, new⟩ | ⟨_, old⟩
    · cases new
      refine ⟨event, fun lock held => ?_⟩
      by_cases own : lock.1 = t
      · obtain ⟨u, version⟩ := lock
        subst own
        rwa [read_of_held held] at event
      · refine Option.isSome_iff_ne_none.mpr fun gone => stays ⟨lock, held, own, gone⟩
    · exact h.announced other u row' old absent
  calledOff other u held typeId row' seen := by
    have seen : (db.ticketTypes.insert t row).read u typeId = some row' := seen
    by_cases own : u = t
    · subst own
      rw [read_insert] at seen
      by_cases new : typeId = db.ticketTypes.next
      · rw [new, Function.update_self] at seen
        cases seen
        rintro rfl
        rw [read_of_held held] at event
        cases event
      · rw [Function.update_of_ne new] at seen
        exact h.calledOff other u held typeId row' seen
    · rw [read_insert_other own] at seen
      exact h.calledOff other u held typeId row' seen

/-- A statement that locks an event. -/
theorem holdEvent (h : db.Integral) {event : Event} {version : Option Event}
    (read : db.events.read t id = some event) (free : db.events.Free t id)
    (empty : version = none → (∀ typeId, ¬ db.InFlux t id typeId) ∧
      ∀ typeId row, db.ticketTypes.read t typeId = some row → row.eventId ≠ id) :
    ({ db with events := db.events.hold t id version } : Database ι).Integral where
  tickets := h.tickets
  types := h.types
  born := h.born
  owners := h.owners
  covered := h.covered
  soldOff := h.soldOff
  announced typeId u row held absent := by
    have known := read_issued (by rw [read]; rfl : (db.events.read t id).isSome)
    obtain ⟨seen, stays⟩ := h.announced typeId u row held absent
    by_cases same : row.eventId = id
    · have present : version.isSome := by
        refine Option.isSome_iff_ne_none.mpr fun gone => ?_
        obtain ⟨still, childless⟩ := empty gone
        by_cases own : u = t
        · subst own
          exact childless typeId row (read_of_held held) same
        · refine still typeId ⟨_, held, own, .inl ⟨by rw [absent]; rfl, ?_⟩⟩
          exact decide_eq_true same
      refine ⟨?_, fun lock held' => ?_⟩
      · show ((db.events.hold t id version).read u row.eventId).isSome
        by_cases own : u = t
        · subst own
          rw [read_hold known, same, Function.update_self]
          exact present
        · rw [read_hold_other own free]
          exact seen
      · rcases held_hold_cases known held' with ⟨_, rfl⟩ | ⟨_, old⟩
        · exact present
        · exact stays lock old
    · refine ⟨?_, fun lock held' => ?_⟩
      · show ((db.events.hold t id version).read u row.eventId).isSome
        by_cases own : u = t
        · subst own
          rw [read_hold known, Function.update_of_ne same]
          exact seen
        · rw [read_hold_other own free]
          exact seen
      · rcases held_hold_cases known held' with ⟨here, _⟩ | ⟨_, old⟩
        · exact (same here).elim
        · exact stays lock old
  calledOff other u held typeId row seen := by
    have known := read_issued (by rw [read]; rfl : (db.events.read t id).isSome)
    rcases held_hold_cases known held with ⟨rfl, new⟩ | ⟨_, old⟩
    · cases new
      exact (empty rfl).2 typeId row seen
    · exact h.calledOff other u old typeId row seen

/-- The `INSERT` of an event. -/
theorem insertEvent (h : db.Integral) {event : Event} :
    ({ db with events := db.events.insert t event } : Database ι).Integral where
  tickets := h.tickets
  types := h.types
  born := h.born
  owners := h.owners
  covered := h.covered
  soldOff := h.soldOff
  announced typeId u row held absent := by
    obtain ⟨seen, stays⟩ := h.announced typeId u row held absent
    have old : row.eventId ≠ db.events.next := by
      intro new
      have known := (read_issued seen).2
      rw [new] at known
      unfold next at known
      omega
    refine ⟨?_, fun lock held' => ?_⟩
    · show ((db.events.insert t event).read u row.eventId).isSome
      by_cases own : u = t
      · subst own
        rw [read_insert, Function.update_of_ne old]
        exact seen
      · rw [read_insert_other own]
        exact seen
    · rcases held_insert_cases held' with ⟨new, _⟩ | ⟨_, here⟩
      · exact (old new).elim
      · exact stays lock here
  calledOff other u held typeId row seen := by
    rcases held_insert_cases held with ⟨_, new⟩ | ⟨_, old⟩
    · cases new
    · exact h.calledOff other u old typeId row seen

/-- The rows that a transaction commits are the ones it has locked. -/
theorem commit (h : db.Integral) : (db.commit t).Integral where
  tickets := h.tickets.commit
  types := h.types.commit
  born other ticket here := (h.born other ticket here.of_commit).commit
  owners other ticket here := h.owners other ticket here.of_commit
  covered other u ticket held absent := by
    obtain ⟨held, own⟩ := held_commit held
    have absent : db.tickets.read t other = none := absent
    rw [read_of_held_other held own] at absent
    obtain ⟨row, locked⟩ := h.covered other u ticket held absent
    exact ⟨row, release_eq_some.mpr ⟨locked, own⟩⟩
  soldOff other u held ticketId ticket seen := by
    obtain ⟨held, own⟩ := held_commit held
    have seen : (db.tickets.commit t).read u ticketId = some ticket := seen
    rw [read_commit_other own] at seen
    cases mine : db.tickets.heldBy u ticketId with
    | some version =>
        rw [mine, Option.getD_some] at seen
        refine h.soldOff other u held ticketId ticket ?_
        rw [read_of_heldBy mine, seen]
    | none =>
        rw [mine, Option.getD_none] at seen
        cases stored : db.tickets.row ticketId with
        | some ticket₀ =>
            have same : ticket.identity = ticket₀.identity :=
              h.tickets ticketId ticket ticket₀ (version_of_read seen) (.inl stored)
            have type : ticket.ticketTypeId = ticket₀.ticketTypeId := congrArg Prod.fst same
            rw [type]
            refine h.soldOff other u held ticketId ticket₀ ?_
            rw [read_of_not_held mine, stored]
        | none =>
            -- A new ticket comes with the lock on its type, which another transaction has.
            rintro rfl
            obtain ⟨row, locked⟩ := h.covered ticketId t ticket (held_of_new seen stored) stored
            rw [held] at locked
            cases locked
  announced typeId u row held absent := by
    obtain ⟨held, own⟩ := held_commit held
    have absent : db.ticketTypes.read t typeId = none := absent
    rw [read_of_held_other held own] at absent
    obtain ⟨seen, stays⟩ := h.announced typeId u row held absent
    refine ⟨?_, fun lock here => stays lock (held_commit here).1⟩
    show ((db.events.commit t).read u row.eventId).isSome
    rw [read_commit_other own]
    cases mine : db.events.heldBy u row.eventId with
    | some version =>
        rw [read_of_heldBy mine] at seen
        exact seen
    | none =>
        rw [read_of_not_held mine] at seen
        rw [Option.getD_none]
        cases theirs : db.events.heldBy t row.eventId with
        | none =>
            rw [read_of_not_held theirs]
            exact seen
        | some version =>
            rw [read_of_heldBy theirs]
            exact stays _ (heldBy_eq_some.mp theirs)
  calledOff other u held typeId row seen := by
    obtain ⟨held, own⟩ := held_commit held
    have seen : (db.ticketTypes.commit t).read u typeId = some row := seen
    rw [read_commit_other own] at seen
    cases mine : db.ticketTypes.heldBy u typeId with
    | some version =>
        rw [mine, Option.getD_some] at seen
        refine h.calledOff other u held typeId row ?_
        rw [read_of_heldBy mine, seen]
    | none =>
        rw [mine, Option.getD_none] at seen
        cases stored : db.ticketTypes.row typeId with
        | some row₀ =>
            have same : row.eventId = row₀.eventId :=
              h.types typeId row row₀ (version_of_read seen) (.inl stored)
            rw [same]
            refine h.calledOff other u held typeId row₀ ?_
            rw [read_of_not_held mine, stored]
        | none =>
            -- The event of a new ticket type is not being deleted.
            rintro rfl
            have stays := (h.announced typeId t row (held_of_new seen stored) stored).2 _ held
            cases stays

theorem rollback (h : db.Integral) : (db.rollback t).Integral where
  tickets := h.tickets.rollback
  types := h.types.rollback
  born other ticket here := (h.born other ticket here.of_rollback).rollback
  owners other ticket here := h.owners other ticket here.of_rollback
  covered other u ticket held absent := by
    obtain ⟨held, own⟩ := held_rollback held
    obtain ⟨row, locked⟩ := h.covered other u ticket held absent
    exact ⟨row, release_eq_some.mpr ⟨locked, own⟩⟩
  soldOff other u held ticketId ticket seen := by
    obtain ⟨held, own⟩ := held_rollback held
    have seen : (db.tickets.rollback t).read u ticketId = some ticket := seen
    rw [read_rollback_other own] at seen
    exact h.soldOff other u held ticketId ticket seen
  announced typeId u row held absent := by
    obtain ⟨held, own⟩ := held_rollback held
    obtain ⟨seen, stays⟩ := h.announced typeId u row held absent
    refine ⟨?_, fun lock here => stays lock (held_rollback here).1⟩
    show ((db.events.rollback t).read u row.eventId).isSome
    rw [read_rollback_other own]
    exact seen
  calledOff other u held typeId row seen := by
    obtain ⟨held, own⟩ := held_rollback held
    have seen : (db.ticketTypes.rollback t).read u typeId = some row := seen
    rw [read_rollback_other own] at seen
    exact h.calledOff other u held typeId row seen

/-- **Statements keep the integrity of the tables.** -/
theorem effect (h : db.Integral) (effect : db.Effect t db') : db'.Integral := by
  cases effect with
  | none => exact h
  | skipTicket => exact ⟨h.tickets.skip, h.types, h.born, h.owners, h.covered, h.soldOff,
      h.announced, h.calledOff⟩
  | skipType =>
      exact ⟨h.tickets, h.types.skip, fun other ticket here =>
        (h.born other ticket here).skip, h.owners,
        h.covered, h.soldOff, h.announced, h.calledOff⟩
  | ticket version read free kept => exact h.holdTicket read free kept
  | newTicket ticket born user locked => exact h.insertTicket born user locked
  | ticketType version read free kept empty => exact h.holdType read free kept empty
  | newType row event stays => exact h.insertType event stays
  | event version read free empty => exact h.holdEvent read free empty
  | newEvent event => exact h.insertEvent
  | commit => exact h.commit
  | rollback => exact h.rollback

end Integral

/-- Only a commit changes what is committed. -/
theorem Effect.rows (effect : db.Effect t db') : db' = db.commit t ∨
    (db'.ticketTypes.row = db.ticketTypes.row ∧ db'.tickets.row = db.tickets.row ∧
      db'.events.row = db.events.row) := by
  cases effect with
  | none | skipTicket | skipType | rollback => exact .inr ⟨rfl, rfl, rfl⟩
  | ticket version read free kept => exact .inr ⟨rfl, hold_row, rfl⟩
  | newTicket ticket born user locked => exact .inr ⟨rfl, insert_row, rfl⟩
  | ticketType version read free kept empty => exact .inr ⟨hold_row, rfl, rfl⟩
  | newType row event stays => exact .inr ⟨insert_row, rfl, rfl⟩
  | event version read free empty => exact .inr ⟨rfl, rfl, hold_row⟩
  | newEvent event => exact .inr ⟨rfl, rfl, insert_row⟩
  | commit => exact .inl rfl

theorem Effect.users (effect : db.Effect t db') : db'.users = db.users := by
  cases effect with
  | _ => rfl

/-! ## Foreign keys -/

/-- The rows that other rows refer to are there. -/
structure References (db : Database ι) : Prop where
  ticketTypes : db.ForeignKeys
  owners : ∀ id ticket, db.tickets.row id = some ticket → ticket.ownerId ∈ db.users
  events : ∀ id row, db.ticketTypes.row id = some row → (db.events.row row.eventId).isSome

omit [DecidableEq ι] in
theorem references_iff : db.References ↔ db.ForeignKeys ∧
    (∀ id ∈ serials db.tickets.issued, (db.tickets.row id).all
      fun ticket => ticket.ownerId ∈ db.users) ∧
    ∀ id ∈ serials db.ticketTypes.issued,
      (db.ticketTypes.row id).all fun row => (db.events.row row.eventId).isSome := by
  constructor
  · intro h
    exact ⟨h.ticketTypes, forall_row_iff.mp fun id ticket stored =>
      decide_eq_true (h.owners id ticket stored),
      forall_row_iff.mp h.events⟩
  · rintro ⟨ticketTypes, owners, events⟩
    exact ⟨ticketTypes, fun id ticket stored =>
      of_decide_eq_true (forall_row_iff.mpr owners id ticket stored),
      forall_row_iff.mpr events⟩

instance (db : Database ι) : Decidable db.References := decidable_of_iff _ references_iff.symm

/-- Without open transactions there is nothing more to integrity. -/
theorem integral_of_calm (calm : db.Calm) (references : db.References) : db.Integral where
  tickets := .of_quiet calm.quiet.1
  types := .of_quiet calm.quiet.2
  born id ticket here :=
    .of_row (references.ticketTypes id ticket (version_of_quiet calm.quiet.1 here))
  owners id ticket here := references.owners id ticket (version_of_quiet calm.quiet.1 here)
  covered id u ticket held := by
    rw [calm.quiet.1 id] at held
    cases held
  soldOff id u held := by
    rw [calm.quiet.2 id] at held
    cases held
  announced id u row held := by
    rw [calm.quiet.2 id] at held
    cases held
  calledOff id u held := by
    rw [calm.events id] at held
    cases held

namespace References

/-- The type of a committed ticket, as transaction `t` sees it. -/
theorem read_type (h : db.References) (integral : db.Integral) {ticket : Ticket}
    (seen : db.tickets.read t id = some ticket) :
    (db.ticketTypes.read t ticket.ticketTypeId).isSome := by
  cases stored : db.tickets.row id with
  | none =>
      obtain ⟨row, locked⟩ := integral.covered id t ticket (held_of_new seen stored) stored
      rw [read_of_held locked]
      rfl
  | some ticket₀ =>
      have same : ticket.identity = ticket₀.identity :=
        integral.tickets id ticket ticket₀ (version_of_read seen) (.inl stored)
      have type : ticket.ticketTypeId = ticket₀.ticketTypeId := congrArg Prod.fst same
      cases mine : db.ticketTypes.heldBy t ticket.ticketTypeId with
      | none =>
          rw [read_of_not_held mine, type]
          exact h.ticketTypes id ticket₀ stored
      | some version =>
          rw [read_of_heldBy mine]
          refine Option.isSome_iff_ne_none.mpr fun gone => ?_
          subst gone
          exact integral.soldOff _ t (heldBy_eq_some.mp mine) id ticket seen rfl

/-- The event of a committed ticket type, as transaction `t` sees it. -/
theorem read_event (h : db.References) (integral : db.Integral) {row : TicketType}
    (seen : db.ticketTypes.read t id = some row) : (db.events.read t row.eventId).isSome := by
  cases stored : db.ticketTypes.row id with
  | none => exact (integral.announced id t row (held_of_new seen stored) stored).1
  | some row₀ =>
      have same : row.eventId = row₀.eventId :=
        integral.types id row row₀ (version_of_read seen) (.inl stored)
      cases mine : db.events.heldBy t row.eventId with
      | none =>
          rw [read_of_not_held mine, same]
          exact h.events id row₀ stored
      | some version =>
          rw [read_of_heldBy mine]
          refine Option.isSome_iff_ne_none.mpr fun gone => ?_
          subst gone
          exact integral.calledOff _ t (heldBy_eq_some.mp mine) id row seen rfl

omit [DecidableEq ι] in
theorem of_rows (h : db.References) (tickets : db'.tickets.row = db.tickets.row)
    (types : db'.ticketTypes.row = db.ticketTypes.row) (events : db'.events.row = db.events.row)
    (users : db'.users = db.users) : db'.References := by
  refine ⟨fun id ticket stored => ?_, fun id ticket stored => ?_, fun id row stored => ?_⟩
  · rw [tickets] at stored
    rw [types]
    exact h.ticketTypes id ticket stored
  · rw [tickets] at stored
    rw [users]
    exact h.owners id ticket stored
  · rw [types] at stored
    rw [events]
    exact h.events id row stored

/-- **Statements keep the foreign keys.** -/
theorem effect (h : db.References) (integral : db.Integral) (effect : db.Effect t db') :
    db'.References := by
  rcases effect.rows with rfl | ⟨types, tickets, events⟩
  · exact ⟨fun id ticket seen => h.read_type integral seen,
      fun id ticket seen => integral.owners id ticket (version_of_read seen),
      fun id row seen => h.read_event integral seen⟩
  · exact h.of_rows tickets types events effect.users

end References

end Database

end TicketCore
