import TicketCore.CommitOrder.Integrity
import TicketCore.Office.Session

/-!
# What a transaction is about to commit

The ghost value of a thread is its `Pending`: the rows that its transaction has locked, what the
thread knows and has been shown, and whether it has committed.

* A `Fact` is something about the tables that no statement of any transaction can change.
* `Right` says that a thread holds and knows what it says; what other threads do leaves it `Right`.
-/

namespace TicketCore

open Interleave RowStore

variable {ι : Type}

/-- A key was there before, or is set. -/
theorem RedisDb.inventory_of_set {r : RedisDb} {id other : Int} {value : Option Int}
    (key : ((r.setInventory other value).inventory id).isSome) :
    (r.inventory id).isSome ∨ (id = other ∧ value.isSome) := by
  have key : (Function.update r.inventory other value id).isSome := key
  by_cases same : id = other
  · subst same
    rw [Function.update_self] at key
    exact .inr ⟨rfl, key⟩
  · rw [Function.update_of_ne same] at key
    exact .inl key

/-- A key of the inventory was there before, or the command writes it. -/
theorem RedisCmd.inventory_of_run {clock : Int} {listing : List (String × String)} {r r' : RedisDb}
    {command : RedisCmd} {answer : command.Resp} {id : Int}
    (ran : command.run clock listing r = some (answer, r')) (key : (r'.inventory id).isSome) :
    (r.inventory id).isSome ∨ (∃ value, command = .setInventory id value) ∨
    command = .incrInventory id := by
  have incr : ∀ (r : RedisDb) {other : Int}, ((r.safeIncrScript other).inventory id).isSome →
      (r.inventory id).isSome := by
    intro r other key
    rw [RedisDb.safeIncrScript_inventory] at key
    by_cases same : id = other
    · subst same
      rwa [Function.update_self, Option.isSome_map] at key
    · rwa [Function.update_of_ne same] at key
  cases command with
  | evalReserve other =>
      rcases RedisDb.reserveScript_cases (Option.some.inj ran) with
        ⟨_, _, rfl⟩ | ⟨k, counter, _, _, rfl⟩ | ⟨_, _, _, _, rfl⟩
      · exact .inl key
      · rcases RedisDb.inventory_of_set key with old | ⟨rfl, _⟩
        · exact .inl old
        · rw [counter]
          exact .inl rfl
      · exact .inl key
  | setInventory other value =>
      cases ran
      rcases RedisDb.inventory_of_set key with old | ⟨rfl, _⟩
      · exact .inl old
      · exact .inr (.inl ⟨value, rfl⟩)
  | incrInventory other =>
      cases ran
      rcases RedisDb.inventory_of_set key with old | ⟨rfl, _⟩
      · exact .inl old
      · exact .inr (.inr rfl)
  | deleteInventory other =>
      cases ran
      rcases RedisDb.inventory_of_set key with old | ⟨_, none⟩
      · exact .inl old
      · cases none
  | evalSafeIncr other =>
      cases ran
      exact .inl (incr r key)
  | evalRefund other ticketId =>
      cases ran
      unfold RedisDb.refundScript at key
      split at key
      · exact .inl key
      · exact .inl (incr { r with canceledTickets := insert ticketId r.canceledTickets } key)
  | setNxEx key text ttl =>
      simp only [RedisCmd.run] at ran
      split at ran
      · cases ran
        exact .inl key
      · cases ran
        exact .inl key
  | expire key | expireEventStatic eventId | expireEventList key =>
      simp only [RedisCmd.run] at ran
      split at ran
      · cases ran
      · split at ran
        · cases ran
          exact .inl key
        · cases ran
  | hset field value | hdel field | hgetall | getEventStatic eventId
  | setEventStatic eventId event ttl
  | deleteEventStatic eventId | getEventListVersion | setEventListVersion version
  | incrEventListVersion | getEventList key | setEventList key events ttl | get key
  | setEx key text ttl | delete key =>
      cases ran
      exact .inl key

namespace CommitOrder

/-! ## What lasts -/

/-- Something that a thread has found out about the tables, and that lasts. -/
inductive Fact
  /-- The ticket type is there, or has been. -/
  | typeBorn (id : Int)
  | typeGone (id : Int)
  /-- There has been such a ticket, of this type and owner. -/
  | ticket (id : Int) (identity : Int × Int)
  | ticketGone (id : Int)
  | user (id : Int)

/-- The fact is true of a database. -/
def Fact.True (db : Database ι) : Fact → Prop
  | typeBorn id => db.ticketTypes.Born id
  | typeGone id => db.ticketTypes.Gone id
  | ticket id identity => db.tickets.Born id ∧ db.tickets.Fixed Ticket.identity id identity
  | ticketGone id => db.tickets.Gone id
  | user id => id ∈ db.users

variable [DecidableEq ι] {t u : ι} {db db' : Database ι}

theorem effect_typeBorn {id : Int} (effect : db.Effect t db') (born : db.ticketTypes.Born id) :
    db'.ticketTypes.Born id := by
  cases effect with
  | skipType => exact born.skip
  | ticketType version read free kept empty => exact born.hold (by rw [read]; rfl)
  | newType row event stays => exact born.insert
  | commit => exact born.commit
  | rollback => exact born.rollback
  | none | skipTicket | ticket version read free kept | newTicket ticket _ _ locked
  | event version read free empty | newEvent event => exact born

theorem effect_ticketBorn {id : Int} (effect : db.Effect t db') (born : db.tickets.Born id) :
    db'.tickets.Born id := by
  cases effect with
  | skipTicket => exact born.skip
  | ticket version read free kept => exact born.hold (by rw [read]; rfl)
  | newTicket ticket _ _ locked => exact born.insert
  | commit => exact born.commit
  | rollback => exact born.rollback
  | none | skipType | ticketType version read free kept empty | newType row event stays
  | event version read free empty | newEvent event => exact born

theorem effect_eventBorn {id : Int} (effect : db.Effect t db') (born : db.events.Born id) :
    db'.events.Born id := by
  cases effect with
  | event version read free empty => exact born.hold (by rw [read]; rfl)
  | newEvent event => exact born.insert
  | commit => exact born.commit
  | rollback => exact born.rollback
  | none | skipTicket | skipType | ticket version read free kept | newTicket ticket _ _ locked
  | ticketType version read free kept empty | newType row event stays => exact born

theorem effect_typeGone {id : Int} (effect : db.Effect t db') (gone : db.ticketTypes.Gone id) :
    db'.ticketTypes.Gone id := by
  cases effect with
  | skipType => exact gone.skip
  | ticketType version read free kept empty => exact gone.hold (by rw [read]; rfl)
  | newType row event stays => exact gone.insert
  | commit => exact gone.commit
  | rollback => exact gone.rollback
  | none | skipTicket | ticket version read free kept | newTicket ticket _ _ locked
  | event version read free empty | newEvent event => exact gone

/-- What is true stays true. -/
theorem Fact.True.effect {fact : Fact} (h : fact.True db) (effect : db.Effect t db') :
    fact.True db' := by
  cases fact with
  | typeBorn id => exact effect_typeBorn effect h
  | typeGone id => exact effect_typeGone effect h
  | user id =>
      show id ∈ db'.users
      rw [effect.users]
      exact h
  | ticket id identity =>
      obtain ⟨born, fixed⟩ := h
      cases effect with
      | skipTicket => exact ⟨born.skip, fixed.skip⟩
      | ticket version read free kept =>
          exact ⟨born.hold (by rw [read]; rfl), fixed.hold read kept⟩
      | newTicket ticket _ _ locked => exact ⟨born.insert, fixed.insert⟩
      | commit => exact ⟨born.commit, fixed.commit⟩
      | rollback => exact ⟨born.rollback, fixed.rollback⟩
      | none | skipType | ticketType version read free kept empty | newType row event stays
      | event version read free empty | newEvent event => exact ⟨born, fixed⟩
  | ticketGone id =>
      have gone : db.tickets.Gone id := h
      cases effect with
      | skipTicket => exact gone.skip
      | ticket version read free kept => exact gone.hold (by rw [read]; rfl)
      | newTicket ticket _ _ locked => exact gone.insert
      | commit => exact gone.commit
      | rollback => exact gone.rollback
      | none | skipType | ticketType version read free kept empty | newType row event stays
      | event version read free empty | newEvent event => exact gone

/-! ## What the others hold -/

theorem effect_tickets {m : Locks Ticket} (effect : db.Effect t db') (other : u ≠ t)
    (h : db.tickets.Holds u m) : db'.tickets.Holds u m := by
  cases effect with
  | skipTicket => exact h.skip
  | ticket version read free kept => exact h.hold_other other free
  | newTicket ticket _ _ locked => exact h.insert_other other
  | commit => exact h.commit_other other
  | rollback => exact h.rollback_other other
  | none | skipType | ticketType version read free kept empty | newType row event stays
  | event version read free empty | newEvent event => exact h

theorem effect_types {m : Locks TicketType} (effect : db.Effect t db') (other : u ≠ t)
    (h : db.ticketTypes.Holds u m) : db'.ticketTypes.Holds u m := by
  cases effect with
  | skipType => exact h.skip
  | ticketType version read free kept empty => exact h.hold_other other free
  | newType row event stays => exact h.insert_other other
  | commit => exact h.commit_other other
  | rollback => exact h.rollback_other other
  | none | skipTicket | ticket version read free kept | newTicket ticket _ _ locked
  | event version read free empty | newEvent event => exact h

theorem effect_events {m : Locks Event} (effect : db.Effect t db') (other : u ≠ t)
    (h : db.events.Holds u m) : db'.events.Holds u m := by
  cases effect with
  | event version read free empty => exact h.hold_other other free
  | newEvent event => exact h.insert_other other
  | commit => exact h.commit_other other
  | rollback => exact h.rollback_other other
  | none | skipTicket | skipType | ticket version read free kept | newTicket ticket _ _ locked
  | ticketType version read free kept empty | newType row event stays => exact h

/-! ## Transactions under way -/

/-- What a thread has locked and what it knows. -/
structure Pending where
  tickets : Locks Ticket
  types : Locks TicketType
  events : Locks Event
  knows : Fact → Prop
  /-- What its calls have been shown, as far as the commit depends on it. -/
  shown : Reading → Prop
  /-- The request has been committed. -/
  committed : Bool

namespace Pending

/-- A thread that has not done anything. -/
def start : Pending :=
  ⟨Locks.none, Locks.none, Locks.none, fun _ => False, fun _ => False, false⟩

/-- The thread has found something out. -/
def learn (g : Pending) (fact : Fact) : Pending :=
  { g with knows := fun f => g.knows f ∨ f = fact }

/-- A call of the thread has been shown something. -/
def see (g : Pending) (reading : Reading) : Pending :=
  { g with shown := fun r => g.shown r ∨ r = reading }

/-- The transaction has a version of a ticket. -/
def setTicket (g : Pending) (id : Int) (base version : Option Ticket) : Pending :=
  { g with tickets := g.tickets.add id base version }

/-- The transaction has a version of a ticket type. -/
def setType (g : Pending) (id : Int) (base version : Option TicketType) : Pending :=
  { g with types := g.types.add id base version }

/-- The transaction has a version of an event. -/
def setEvent (g : Pending) (id : Int) (base version : Option Event) : Pending :=
  { g with events := g.events.add id base version }

/-- The transaction has ended; the thread knows what it knew. -/
def ended (g : Pending) : Pending :=
  { g with tickets := Locks.none, types := Locks.none, events := Locks.none }

/-- The request has been committed: what is new is there. -/
def done (g : Pending) : Pending where
  tickets := Locks.none
  types := Locks.none
  events := Locks.none
  knows f := g.knows f ∨ ∃ id base row, f = .typeBorn id ∧ g.types id = some (base, some row)
  shown := g.shown
  committed := true

/-- No row is locked. -/
structure Free (g : Pending) : Prop where
  tickets : g.tickets = Locks.none
  types : g.types = Locks.none
  events : g.events = Locks.none

/-- The thread holds and knows what it says. -/
structure Right (db : Database ι) (t : ι) (g : Pending) : Prop where
  tickets : db.tickets.Holds t g.tickets
  types : db.ticketTypes.Holds t g.types
  events : db.events.Holds t g.events
  knows : ∀ f, g.knows f → f.True db

/-- What a thread is shown changes nothing of what it holds. -/
theorem Right.see {g : Pending} {reading : Reading} (h : g.Right db t) :
    (g.see reading).Right db t :=
  ⟨h.tickets, h.types, h.events, h.knows⟩

/-- What a commit makes of the tables. -/
theorem Right.commit_office {g : Pending} (h : g.Right db t) : (db.commit t).office =
    ⟨g.types.apply db.office.types, g.tickets.apply db.office.tickets,
      g.events.apply db.office.events,
      db.office.users⟩ := by
  unfold Database.office
  show Office.mk (db.ticketTypes.commit t).row (db.tickets.commit t).row
    (db.events.commit t).row db.users = _
  rw [h.types.commit_row, h.tickets.commit_row, h.events.commit_row]

/-- What a thread holds and knows while another one moves. -/
theorem Right.other {g : Pending} (h : g.Right db u) (effect : db.Effect t db') (other : u ≠ t) :
    g.Right db' u :=
  ⟨effect_tickets effect other h.tickets, effect_types effect other h.types,
    effect_events effect other h.events, fun f known => (h.knows f known).effect effect⟩

end Pending

end CommitOrder

end TicketCore
