import TicketCore.Api
import TicketCore.BoxOffice

/-!
# Sessions

The ghost value of a thread in the booking discipline is its `Session`: the rows its transaction
has locked, what it knows about a ticket it read without a lock, and whether it has committed its
change.

* `Typed` and `KnownAs` are the facts about tickets that no statement can break, because it
  keeps the type of a ticket; `Descends` is what statements have in common for that.
* `Session.Ready` says that a commit of these locks is a given `Change`; `ready_of_charges` is how
  it is established.
-/

namespace TicketCore

open Interleave RowStore

variable {ι : Type} [DecidableEq ι]

/-! ## Tickets keep their types -/

namespace Database

/-- Every version of the ticket has this type. -/
structure KnownAs (db : Database ι) (id ticketTypeId : Int) : Prop where
  issued : id ≤ db.tickets.issued
  version : ∀ ticket, db.tickets.Version id ticket → ticket.ticketTypeId = ticketTypeId

/-- Every version of a ticket refers to a committed ticket type, and to the same one. -/
structure Typed (db : Database ι) : Prop where
  foreignKey : ∀ id ticket, db.tickets.Version id ticket →
    (db.ticketTypes.row ticket.ticketTypeId).isSome
  oneType : ∀ id ticket ticket', db.tickets.Version id ticket →
      db.tickets.Version id ticket' →
    ticket.ticketTypeId = ticket'.ticketTypeId

/-- Every version of a ticket in `db'` has the type of a version in `db`, or is the one version of
a new ticket, of a type that exists. -/
structure Descends (db db' : Database ι) : Prop where
  issued : db.tickets.issued ≤ db'.tickets.issued
  version : ∀ id ticket', db'.tickets.Version id ticket' →
    (∃ ticket, db.tickets.Version id ticket ∧ ticket.ticketTypeId = ticket'.ticketTypeId) ∨
      (db.tickets.issued < id ∧ (db.ticketTypes.row ticket'.ticketTypeId).isSome)
  fresh : ∀ (id : Int) ticket ticket', db.tickets.issued < id →
      db'.tickets.Version id ticket →
    db'.tickets.Version id ticket' → ticket = ticket'
  types : ∀ ticketTypeId, (db.ticketTypes.row ticketTypeId).isSome →
    (db'.ticketTypes.row ticketTypeId).isSome

variable {db db' : Database ι} {id ticketTypeId : Int}

omit [DecidableEq ι] in
/-- The versions of the tickets have the types of old ones. -/
theorem Descends.of_versions (issued : db.tickets.issued ≤ db'.tickets.issued)
    (version : ∀ id ticket', db'.tickets.Version id ticket' →
      ∃ ticket, db.tickets.Version id ticket ∧ ticket.ticketTypeId = ticket'.ticketTypeId)
    (types : ∀ ticketTypeId, (db.ticketTypes.row ticketTypeId).isSome →
      (db'.ticketTypes.row ticketTypeId).isSome) : db.Descends db' where
  issued := issued
  version id ticket' held := .inl (version id ticket' held)
  fresh id ticket _ new held _ := by
    obtain ⟨old, held', _⟩ := version id ticket held
    exact absurd held'.issued.2 (not_le.mpr new)
  types := types

omit [DecidableEq ι] in
theorem Descends.refl (db : Database ι) : db.Descends db :=
  .of_versions le_rfl (fun _ ticket held => ⟨ticket, held, rfl⟩) fun _ some => some

omit [DecidableEq ι] in
theorem KnownAs.descends (h : db.KnownAs id ticketTypeId) (step : db.Descends db') :
    db'.KnownAs id ticketTypeId where
  issued := h.issued.trans (by exact_mod_cast step.issued)
  version ticket' held := by
    rcases step.version id ticket' held with ⟨ticket, held', same⟩ | ⟨fresh, _⟩
    · rw [← same]
      exact h.version ticket held'
    · exact absurd h.issued (not_le.mpr fresh)

omit [DecidableEq ι] in
theorem Typed.descends (h : db.Typed) (step : db.Descends db') : db'.Typed where
  foreignKey id ticket' held := by
    rcases step.version id ticket' held with ⟨ticket, held', same⟩ | ⟨_, present⟩
    · rw [← same]
      exact step.types _ (h.foreignKey id ticket held')
    · exact step.types _ present
  oneType id ticket ticket' held held' := by
    rcases step.version id ticket held with ⟨old, oldHeld, same⟩ | ⟨new, _⟩
    · rcases step.version id ticket' held' with ⟨old', oldHeld', same'⟩ | ⟨new, _⟩
      · rw [← same, ← same', h.oneType id old old' oldHeld oldHeld']
      · rw [step.fresh id ticket ticket' new held held']
    · rw [step.fresh id ticket ticket' new held held']

omit [DecidableEq ι] in
theorem Typed.knownAs (h : db.Typed) {ticket : Ticket} (held : db.tickets.Version id ticket) :
    db.KnownAs id ticket.ticketTypeId :=
  ⟨held.issued.2, fun ticket' held' => h.oneType id ticket' ticket held' held⟩

end Database

/-! ## Sessions -/

/-- What a thread's transaction has locked and what the thread knows. -/
structure Session where
  tickets : Locks Ticket
  types : Locks TicketType
  /-- A ticket read without a lock, with its type. -/
  seen : Option (Int × Int)
  /-- A ticket that is active as long as the thread has its type's row locked. -/
  claim : Option (Int × Int)
  /-- The operation's change is committed. -/
  committed : Bool

namespace Session

/-- A session without a transaction. -/
def idle (committed : Bool) : Session := ⟨Locks.none, Locks.none, none, none, committed⟩

/-- The session with one more ticket locked. -/
def lockTicket (g : Session) (id : Int) (base version : Option Ticket) : Session :=
  { g with tickets := g.tickets.add id base version }

/-- The session with one more ticket type locked. -/
def lockType (g : Session) (id : Int) (base version : Option TicketType) : Session :=
  { g with types := g.types.add id base version }

/-- No ticket type is created or deleted. -/
def KeepsTypes (g : Session) : Prop :=
  ∀ id lock, g.types id = some lock → lock.1.isSome ∧ lock.2.isSome

/-- Each locked ticket type has had `delta` added to its count, and `delta` is zero elsewhere. -/
def Charges (g : Session) (delta : Int → Int) : Prop :=
  ∀ id, (delta id = 0 ∧ g.types id = none) ∨
    ∃ row row', g.types id = some (some row, some row') ∧
      row.addTicketsSold (delta id) = .ok row'

/-- A commit of this session's locks is the change. -/
def Ready (g : Session) (change : Change) : Prop :=
  ∀ (ι : Type) [DecidableEq ι] (db : Database ι) (t : ι), db.tickets.Holds t g.tickets →
    db.ticketTypes.Holds t g.types → change.Commits db (db.commit t) ∧
      ∀ ticketTypeId, (db.commit t).activeTickets ticketTypeId ≠
        db.activeTickets ticketTypeId →
        (g.types ticketTypeId).isSome

@[simp] theorem lockTicket_types (g : Session) (id : Int) (base version : Option Ticket) :
    (g.lockTicket id base version).types = g.types := rfl

@[simp] theorem lockType_tickets (g : Session) (id : Int) (base version : Option TicketType) :
    (g.lockType id base version).tickets = g.tickets := rfl

theorem KeepsTypes.idle {committed : Bool} : (idle committed).KeepsTypes :=
  fun _ _ locked => by cases locked

theorem KeepsTypes.lockType {g : Session} (h : g.KeepsTypes) {id : Int} {base : Option TicketType}
    {row' : TicketType} (known : base.isSome) : (g.lockType id base (some row')).KeepsTypes := by
  intro id' lock locked
  by_cases same : id' = id
  · subst same
    have this : some (base, some row') = some lock := by
      rw [← locked]
      exact (Locks.add_self ..).symm
    cases this
    exact ⟨known, rfl⟩
  · exact h id' lock (by rw [← locked]; exact (Locks.add_of_ne same).symm)

/-- How a session is made ready: its tickets move as the change says, and its ticket types are
charged what that moves the numbers of active tickets by. -/
theorem ready_of_charges {g : Session} {change : Change} (delta : Int → Int)
    (charges : g.Charges delta)
    (moves : ∀ (ι : Type) [DecidableEq ι] (s : RowStore ι Ticket) (t : ι),
      s.Holds t g.tickets →
      change.Moves s.row (s.commit t).row ∧
        ∀ id, (s.commit t).count (ActiveOf id) = s.count (ActiveOf id) + delta id) :
    g.Ready change := by
  intro ι _ db t tickets types
  obtain ⟨move, counts⟩ := moves ι db.tickets t tickets
  have diff : ∀ id, (db.commit t).activeTickets id - db.activeTickets id = delta id := fun id =>
    sub_eq_of_eq_add' (counts id)
  refine ⟨⟨move, fun id => ?_⟩, fun id changed => ?_⟩
  · rw [diff id]
    show Database.Moved _ _ ((db.ticketTypes.commit t).row id)
    rw [types.commit_row]
    unfold Locks.apply
    rcases charges id with ⟨zero, unlocked⟩ | ⟨row, row', locked, ok⟩
    · rw [unlocked, zero]
      exact .refl _
    · rw [locked, types.row_of_lock locked]
      exact .of_addTicketsSold ok
  · rcases charges id with ⟨zero, _⟩ | ⟨row, row', locked, _⟩
    · have := diff id
      omega
    · rw [locked]; rfl

end Session

end TicketCore
