import TicketCore.BoxOffice
import TicketCore.Custody.Ticket
import TicketCore.Interleave.Protocol
import TicketCore.Worker

/-!
# The custody of a ticket

How far one call has come with one ticket: a `Milestone`, and the protocol of its calls. A booking
goes from `away` through `born`, `stamped` and `entered`; a payment through `locked`, `paying`,
`paid` and `kept`; a deletion through `seen`, `removed` and `gone`; a timeout through `locked`,
`refunded` and `settled`; the garbage collector of the database through `swept` and `credited`, and
the one of Redis through `listed`, `due` and `doomed`.

* `Coherent` is what a milestone means for the database: what the call's transaction has locked, and
  what is committed meanwhile.
* `coherent_step` says that a step of any call keeps the meaning of the milestones of all of them.
-/

namespace TicketCore.Custody

open Interleave RowStore

/-- How far a call has come with the ticket. -/
inductive Milestone
  /-- Nothing is locked, and nothing is planned. -/
  | away
  /-- The ticket is inserted. -/
  | born
  /-- It is inserted, and the clock is read for its entry. -/
  | stamped (clock : Int)
  /-- Its entry is written, too. -/
  | entered (clock : Int)
  /-- It is inserted, but a call has raised. -/
  | unborn (clock : Int)
  /-- The ticket is selected for deletion, without a lock. -/
  | seen
  /-- The ticket is selected for update. -/
  | locked (ticket : Ticket)
  /-- It is locked, and the refund script has run. -/
  | refunded (ticket : Ticket)
  /-- It is `CANCELED` in this transaction, after the refund script. -/
  | settled (ticket : Ticket)
  /-- It is `SOLD` in this transaction. -/
  | paying (ticket : Ticket)
  /-- The payment is committed, and the entry is still to be removed. -/
  | paid (ownerId : Int)
  /-- The payment is done. -/
  | kept (ownerId : Int)
  /-- The ticket is deleted in this transaction. -/
  | removed
  /-- The deletion is committed, and the entry is still to be removed. -/
  | gone
  /-- The garbage collector has `CANCELED` the ticket in its transaction. -/
  | swept (ticketTypeId : Int)
  /-- It is `CANCELED`, and the refund script has run. -/
  | credited (ticketTypeId : Int)
  /-- A call has raised with the ticket locked. -/
  | spoiled
  /-- The reservation entries are listed. -/
  | listed (rawData : List (String × String))
  /-- An entry of the ticket was found to be old. -/
  | due
  /-- The ticket was then found to be missing or `CANCELED`. -/
  | doomed

namespace Milestone

/-- The milestone after a call that raises. -/
def failed : Milestone → Milestone
  | stamped clock | entered clock => unborn clock
  | refunded _ | settled _ | paying _ | removed | swept _ | credited _ => spoiled
  | paid _ | gone => away
  | g => g

/-- The milestone after the end of a transaction without a commit, where the calls end one. -/
def ended : Milestone → Option Milestone
  | away | seen | unborn _ | locked _ | spoiled => some away
  | kept ownerId => some (kept ownerId)
  | listed rawData => some (listed rawData)
  | due => some due
  | doomed => some doomed
  | _ => none

/-- The calls that may raise in a milestone: once something is left to do, few calls still stand
before it. -/
def Exposed (id : Int) : Milestone → Cmd → Prop
  | refunded _, .db (.updateTicketStatus ticketId _) | paid _, .db (.refreshTicket ticketId) =>
      ticketId = id
  | entered _, .db .commit | settled _, .db .commit | credited _, .db .commit => True
  | credited _, .redis .. | paid _, .redis .. | gone, .redis .. => True
  | entered _, _ | refunded _, _ | settled _, _ | credited _, _ | paid _, _ | gone, _ => False
  | _, _ => True

/-- Nothing is left to do. -/
def AtRest : Milestone → Prop
  | away | kept _ | listed _ | due | doomed => True
  | _ => False

end Milestone

variable (d : Deployment) (id : Int)

/-- An old entry of the ticket is listed. -/
def Overdue (rawData : List (String × String)) (clock : Int) : Prop :=
  ∃ entry ∈ rawData, ∃ lock, readReservation entry = some lock ∧ lock.ticketId = id ∧
    Worker.Suspicious (seconds clock) lock

/-- How an answered call moves the milestone. -/
inductive Step : Milestone → (cmd : Cmd) → Except Exn cmd.Resp → Milestone → Prop
  | apart {g : Milestone} {cmd : Cmd} {a : cmd.Resp} :
      Apart id cmd → ¬ Books id cmd a → g ≠ .born → Step g cmd (.ok a) g
  | fail {g : Milestone} {cmd : Cmd} {e : Exn} : g.Exposed id cmd → Step g cmd (.error e) g.failed
  | rolled {g g' : Milestone} : g.ended = some g' → Step g (.db .rollback) (.ok ()) g'
  | closed {g g' : Milestone} : g.ended = some g' → Step g (.db .close) (.ok ()) g'
  | rest : Step .away (.db .commit) (.ok ()) .away
  | insert {ownerId ticketTypeId : Int} :
      Step .away (.db (.insertTicket ownerId ticketTypeId)) (.ok id) .born
  | stamp {clock : Int} : Step .born .now (.ok clock) (.stamped clock)
  | enter {clock ticketTypeId : Int} :
      Step (.stamped clock) (.redis d.apiRedis (.hset (toString id)
        (reservationValue ticketTypeId (seconds clock)))) (.ok ()) (.entered clock)
  | book {clock : Int} : Step (.entered clock) (.db .commit) (.ok ()) .away
  | see {ownerId : Int} {ticket : Ticket} :
      Step .away (.db (.selectTicket id ownerId)) (.ok (some ticket)) .seen
  | lock {ownerId : Option Int} {ticket : Ticket} :
      Step .away (.db (.selectTicketForUpdate id ownerId)) (.ok (some ticket)) (.locked ticket)
  | miss {ownerId : Option Int} :
      Step .away (.db (.selectTicketForUpdate id ownerId)) (.ok none) .away
  | refund {ticket : Ticket} : ticket.status = .reserved →
      Step (.locked ticket) (.redis d.workerRedis (.evalRefund ticket.ticketTypeId (toString id)))
        (.ok ()) (.refunded ticket)
  | settle {ticket : Ticket} :
      Step (.refunded ticket) (.db (.updateTicketStatus id .canceled)) (.ok ()) (.settled ticket)
  | cancel {ticket : Ticket} : Step (.settled ticket) (.db .commit) (.ok ()) .away
  | pay {ticket : Ticket} : ticket.status = .reserved →
      Step (.locked ticket) (.db (.updateTicketStatus id .sold)) (.ok ()) (.paying ticket)
  | sell {ticket : Ticket} : Step (.paying ticket) (.db .commit) (.ok ()) (.paid ticket.ownerId)
  | keep {ownerId : Int} :
      Step (.paid ownerId) (.redis d.apiRedis (.hdel (toString id))) (.ok ()) (.kept ownerId)
  | remove : Step .seen (.db (.deleteTicket id)) (.ok ()) .removed
  | vanish : Step .removed (.db .commit) (.ok ()) .gone
  | clear : Step .gone (.redis d.apiRedis (.hdel (toString id))) (.ok ()) .away
  | sweep {threshold ticketTypeId : Int} :
      Step .away (.db (.cancelHungTicket id threshold)) (.ok (some (id, ticketTypeId)))
        (.swept ticketTypeId)
  | pass {threshold : Int} :
      Step .away (.db (.cancelHungTicket id threshold)) (.ok none) .away
  | credit {ticketTypeId : Int} :
      Step (.swept ticketTypeId) (.redis d.workerRedis (.evalRefund ticketTypeId (toString id)))
        (.ok ()) (.credited ticketTypeId)
  | reap {ticketTypeId : Int} : Step (.credited ticketTypeId) (.db .commit) (.ok ()) .away
  | list {rawData : List (String × String)} :
      Step .away (.redis d.workerRedis .hgetall) (.ok rawData) (.listed rawData)
  | suspect {rawData : List (String × String)} {clock : Int} : Overdue id rawData clock →
      Step (.listed rawData) .now (.ok clock) .due
  | judge {ids : List Int} {rows : List (Int × TicketStatus)} : id ∈ ids →
      rows.lookup id = none ∨ rows.lookup id = some .canceled →
      Step .due (.db (.selectStatuses ids)) (.ok rows) .doomed
  | collect {ticketTypeId : Int} :
      Step .doomed (.redis d.workerRedis (.evalRefund ticketTypeId (toString id))) (.ok ()) .doomed

/-- The protocol of the calls that deal with a ticket. -/
def protocol : Protocol Cmd Cmd.Resp Exn Milestone := ⟨Cmd.Answers, Step d id⟩

/-! ## What the milestones mean -/

section Meaning

variable {ι : Type} [DecidableEq ι] {d : Deployment} {id : Int}

/-- The ticket is committed, or was once. -/
structure Landed (db : Database ι) (id : Int) : Prop where
  known : 1 ≤ id ∧ id ≤ db.tickets.issued
  free : db.tickets.row id = none → db.tickets.held id = none

/-- The ticket is `RESERVED` no more, not even in an open transaction. -/
structure Past (db : Database ι) (id : Int) : Prop where
  known : 1 ≤ id ∧ id ≤ db.tickets.issued
  left : ∀ ticket, db.tickets.Version id ticket → ticket.status ≠ .reserved

/-- A `RESERVED` ticket, with the version of it that transaction `t` has locked. -/
structure Reserved (db : Database ι) (t : ι) (id : Int) (ticket : Ticket)
    (version : Option Ticket) : Prop where
  reserved : ticket.status = .reserved
  row : db.tickets.row id = some ticket
  version : db.tickets.heldBy t id = some version

/-- What a milestone of transaction `t` means for the database. -/
def Coherent (db : Database ι) (t : ι) (id : Int) : Milestone → Prop
  | .away | .listed _ | .due | .doomed => db.tickets.heldBy t id = none
  | .born | .stamped _ | .entered _ | .unborn _ =>
      db.tickets.row id = none ∧ ∃ ticket, db.tickets.heldBy t id = some (some ticket) ∧
        ticket.status = .reserved
  | .seen => db.tickets.heldBy t id = none ∧ Landed db id
  | .locked ticket =>
      db.tickets.row id = some ticket ∧ db.tickets.heldBy t id = some (some ticket)
  | .refunded ticket => Reserved db t id ticket (some ticket)
  | .settled ticket => Reserved db t id ticket (some (ticket.withStatus .canceled))
  | .paying ticket => Reserved db t id ticket (some (ticket.withStatus .sold))
  | .swept ticketTypeId | .credited ticketTypeId =>
      ∃ ticket, ticket.ticketTypeId = ticketTypeId ∧
      Reserved db t id ticket (some (ticket.withStatus .canceled))
  | .removed => db.tickets.heldBy t id = some none ∨
      db.tickets.heldBy t id = none ∧ Past db id
  | .paid _ | .kept _ | .gone => db.tickets.heldBy t id = none ∧ Past db id
  | .spoiled => True

variable {db db' : Database ι} {t u : ι} {g g' : Milestone} {w w' : World ι}

omit [DecidableEq ι] in
theorem Landed.congr (h : Landed db id) (row : db'.tickets.row id = db.tickets.row id)
    (held : db'.tickets.held id = db.tickets.held id)
    (issued : db.tickets.issued ≤ db'.tickets.issued) : Landed db' id where
  known := ⟨h.known.1, h.known.2.trans (by omega)⟩
  free absent := by
    rw [held]
    exact h.free (row ▸ absent)

omit [DecidableEq ι] in
theorem Past.congr (h : Past db id) (issued : db.tickets.issued ≤ db'.tickets.issued)
    (versions : ∀ ticket, db'.tickets.Version id ticket → db.tickets.Version id ticket ∨
      ticket.status ≠ .reserved) : Past db' id where
  known := ⟨h.known.1, h.known.2.trans (by omega)⟩
  left ticket version := (versions ticket version).elim (h.left ticket) fun left => left

omit [DecidableEq ι] in
theorem version_congr (row : db'.tickets.row id = db.tickets.row id)
    (held : db'.tickets.held id = db.tickets.held id) {ticket : Ticket} :
    db'.tickets.Version id ticket ↔ db.tickets.Version id ticket := by
  unfold RowStore.Version
  rw [row, held]

/-- The meaning of a milestone rests on the row, the transaction's own version of it, and what is
said of the ticket for good. -/
theorem Coherent.congr (h : Coherent db t id g)
    (row : db.tickets.heldBy t id ≠ none → db'.tickets.row id = db.tickets.row id)
    (version : db'.tickets.heldBy t id = db.tickets.heldBy t id)
    (landed : Landed db id → Landed db' id) (past : Past db id → Past db' id) :
    Coherent db' t id g := by
  have rows : ∀ {v}, db.tickets.heldBy t id = some v → db'.tickets.row id = db.tickets.row id :=
    fun held => row (by rw [held]; nofun)
  have reserved : ∀ {ticket v}, Reserved db t id ticket v → Reserved db' t id ticket v :=
    fun h => ⟨h.reserved, (rows h.version).trans h.row, version.trans h.version⟩
  cases g with
  | away | listed _ | due | doomed => exact version.trans h
  | born | stamped _ | entered _ | unborn _ =>
      obtain ⟨absent, ticket, held, status⟩ := h
      exact ⟨(rows held).trans absent, ticket, version.trans held, status⟩
  | seen => exact ⟨version.trans h.1, landed h.2⟩
  | locked ticket => exact ⟨(rows h.2).trans h.1, version.trans h.2⟩
  | refunded ticket | settled ticket | paying ticket => exact reserved h
  | swept ticketTypeId | credited ticketTypeId =>
      obtain ⟨ticket, same, h⟩ := h
      exact ⟨ticket, same, reserved h⟩
  | removed =>
      exact h.imp version.trans fun h => ⟨version.trans h.1, past h.2⟩
  | paid _ | kept _ | gone => exact ⟨version.trans h.1, past h.2⟩
  | spoiled => trivial

/-- A milestone with the ticket as it was. -/
theorem Coherent.of_same (h : Coherent w.db t id g) (same : SameTicket id w w') :
    Coherent w'.db t id g :=
  h.congr (fun _ => same.row) (heldBy_congr same.held)
    (fun landed => landed.congr same.row same.held same.issued)
    fun past => past.congr same.issued fun _ version =>
      .inl ((version_congr same.row same.held).mp version)

/-- A call that raises leaves the ticket locked as it is. -/
theorem Coherent.failed (h : Coherent db t id g) : Coherent db t id g.failed := by
  cases g with
  | paid _ | gone => exact h.1
  | refunded _ | settled _ | paying _ | removed | swept _ | credited _ => trivial
  | _ => exact h

end Meaning

end TicketCore.Custody
