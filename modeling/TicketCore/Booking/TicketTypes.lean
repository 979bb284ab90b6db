import TicketCore.Booking.Runs
import TicketCore.Catalog
import TicketCore.Sessions

/-!
# Operations on ticket types

Creating, changing or deleting a ticket type on its own, between operations on tickets. Such an
operation writes at most one row of `ticket_types`, and leaves the tickets alone.

* `InOrder` says of the committed rows that the books are in order; `InOrder.of_update` says which
  change of one ticket type keeps them so.
* `TypeSession` is the invariant of such an operation: the books are in order now, and would be
  after a commit. `follows_typeProgram` says that every operation on ticket types keeps it, and
  leaves no transaction open.
-/

namespace TicketCore

open Interleave RowStore

/-! ## Books in order -/

namespace Database

variable {ι : Type}

/-- Every ticket has a ticket type, and the books are in order. -/
structure InOrder (db : Database ι) : Prop where
  foreignKeys : db.ForeignKeys
  ledgered : db.Ledgered

variable {db db' : Database ι} {id : Int} {version : Option TicketType}

/-- The books stay in order when the committed rows stay the same. -/
theorem InOrder.of_rows (h : db.InOrder) (tickets : db'.tickets.row = db.tickets.row)
    (types : db'.ticketTypes.row = db.ticketTypes.row) : db'.InOrder where
  foreignKeys id ticket stored := by
    rw [tickets] at stored
    rw [types]
    exact h.foreignKeys id ticket stored
  ledgered := (Database.Balanced.of_rows tickets types).ledgered h.ledgered

/-- The books stay in order when one ticket type changes: a type goes only without tickets, and its
count is the number of its active tickets. -/
theorem InOrder.of_update (h : db.InOrder) (tickets : db'.tickets.row = db.tickets.row)
    (types : db'.ticketTypes.row = Function.update db.ticketTypes.row id version)
    (absent : version = none → ∀ ticketId ticket, db.tickets.row ticketId = some ticket →
      ticket.ticketTypeId ≠ id)
    (counted : ∀ row, version = some row → row.ticketsSold = db.activeTickets id) :
    db'.InOrder where
  foreignKeys ticketId ticket stored := by
    rw [tickets] at stored
    rw [types]
    by_cases same : ticket.ticketTypeId = id
    · rw [same, Function.update_self]
      cases version with
      | none => exact (absent rfl ticketId ticket stored same).elim
      | some row => rfl
    · rw [Function.update_of_ne same]
      exact h.foreignKeys ticketId ticket stored
  ledgered id' row stored := by
    have active : db'.activeTickets id' = db.activeTickets id' :=
      total_congr fun x => by rw [tickets]
    rw [types] at stored
    rw [active]
    by_cases same : id' = id
    · subst same
      rw [Function.update_self] at stored
      exact counted row stored
    · rw [Function.update_of_ne same] at stored
      exact h.ledgered id' row stored

/-- A ticket type without a row has no tickets. -/
theorem InOrder.no_active (h : db.InOrder) (unknown : db.ticketTypes.row id = none) :
    db.activeTickets id = 0 := by
  show ∑ ticketId ∈ serials db.tickets.issued,
    slots id (db.tickets.row ticketId) = 0
  refine Finset.sum_eq_zero fun ticketId _ => ?_
  cases stored : db.tickets.row ticketId with
  | none => rfl
  | some ticket =>
      refine if_neg fun active => ?_
      have known := h.foreignKeys ticketId ticket stored
      rw [active.1, unknown] at known
      cases known

end Database

namespace Booking

/-! ## The invariant -/

variable {w w' : World Unit} {db : Database Unit} {pending : Bool}

/-- In the session of an operation on ticket types. `pending` says whether it may have a row
locked. -/
structure TypeSession (db : Database Unit) (pending : Bool) : Prop where
  tickets : db.tickets.Quiet
  types : pending = false → db.ticketTypes.Quiet
  inOrder : db.InOrder
  committed : (db.commit ()).InOrder

/-- The discipline of an operation on ticket types. -/
def typeDiscipline : Discipline Unit (World Unit) Cmd Cmd.Resp Exn Choice Bool where
  guard _ := True
  inv events w ghost := TypeSession w.db (ghost ()) ∧ ∀ e ∈ events, ¬ Aborted e

theorem read_of_quiet {Row : Type} {s : RowStore Unit Row} (quiet : s.Quiet) :
    s.read () = s.row := by
  funext id
  exact (Holds.of_quiet quiet).read_of_none rfl

/-- Where no transaction is open, the books are in order if they are in order now. -/
theorem TypeSession.of_quiet (tickets : db.tickets.Quiet) (types : db.ticketTypes.Quiet)
    (inOrder : db.InOrder) : TypeSession db pending where
  tickets := tickets
  types _ := types
  inOrder := inOrder
  committed := inOrder.of_rows (read_of_quiet tickets) (read_of_quiet types)

/-- The only transaction has nothing locked. -/
theorem quiet_of_holds {Row : Type} {s : RowStore Unit Row} (h : s.Holds () Locks.none) :
    s.Quiet := fun id => by
  have held : s.heldBy () id = none := h.version id
  unfold heldBy at held
  split at held
  · assumption
  · rw [if_pos (Subsingleton.elim ..)] at held
    cases held

theorem quiet_release {Row : Type} {s : RowStore Unit Row} {id : Int} : s.release () id = none := by
  unfold release
  split
  · rfl
  · rename_i u version _
    rw [if_pos (Subsingleton.elim u ())]

/-- No transaction is open after a rollback. -/
theorem TypeSession.rollback (h : TypeSession db pending) :
    TypeSession (db.rollback ()) false :=
  .of_quiet (fun _ => quiet_release) (fun _ => quiet_release) (h.inOrder.of_rows rfl rfl)

/-- No transaction is open after a commit. -/
theorem TypeSession.commit (h : TypeSession db pending) : TypeSession (db.commit ()) false :=
  .of_quiet (fun _ => quiet_release) (fun _ => quiet_release) h.committed

/-- The session has one row locked, which may be committed as it is. -/
theorem TypeSession.lock {types : RowStore Unit TicketType} {id : Int}
    {version : Option TicketType} (h : TypeSession db false) (rows : types.row = db.ticketTypes.row)
    (reads : types.read () = Function.update (db.ticketTypes.read ()) id version)
    (absent : version = none → ∀ ticketId ticket, db.tickets.row ticketId = some ticket →
      ticket.ticketTypeId ≠ id)
    (counted : ∀ row, version = some row → row.ticketsSold = db.activeTickets id) :
    TypeSession { db with ticketTypes := types } true where
  tickets := h.tickets
  types done := by cases done
  inOrder := h.inOrder.of_rows rfl rows
  committed := by
    refine h.inOrder.of_update
      (read_of_quiet h.tickets) ?_ absent counted
    rw [← read_of_quiet (h.types rfl)]
    exact reads

/-! ## Statements -/

variable {d : Deployment} {cmd : Cmd} {g : Bool}

/-- One call: it raises without an effect, or its execution keeps the session in order. -/
theorem follows_typeCall {post : Except Exn cmd.Resp → Bool → Prop}
    (fault : cmd.mayFail → ∀ e, post (.error e) g)
    (executed : ∀ w choice answer w', TypeSession w.db g →
      cmd.run () choice w = some (answer, w') →
      ∃ g', TypeSession w'.db g' ∧ answer ≠ .error (.integrity .checkTicketSold) ∧
        post answer g') :
    typeDiscipline.Follows exec () post (Program.call cmd) g := by
  refine Discipline.Follows.call fun events w ghost choice answer w' inv own ran _ => ?_
  obtain ⟨session, unaborted⟩ := inv
  rw [own] at session
  have extend : ¬ Aborted (⟨(), cmd, choice, answer, w, w'⟩ : CallEvent Unit) →
      ∀ e ∈ events ++ [⟨(), cmd, choice, answer, w, w'⟩], ¬ Aborted e := by
    intro last e mem
    rcases List.mem_append.mp mem with mem | mem
    · exact unaborted e mem
    · rw [List.mem_singleton.mp mem]
      exact last
  rcases exec_cases ran with ⟨e, faulty, may, rfl, rfl⟩ | ran
  · refine ⟨g, ⟨by rwa [Function.update_self], extend fun aborted => ?_⟩, fault may e⟩
    have clean : choice.fault = none := aborted.1
    rw [faulty] at clean
    cases clean
  · obtain ⟨g', session', other, holds⟩ := executed w choice answer w' session ran
    exact ⟨g', ⟨by rwa [Function.update_self], extend fun aborted => other aborted.2⟩,
      holds⟩

/-- A call that leaves the database alone. -/
theorem follows_typeNeutral {post : Except Exn cmd.Resp → Bool → Prop}
    (neutral : ∀ w choice answer w', cmd.run () choice w = some (answer, w') →
      w'.db = w.db ∧ answer ≠ .error (.integrity .checkTicketSold))
    (any : ∀ answer, post answer g) :
    typeDiscipline.Follows exec () post (Program.call cmd) g :=
  follows_typeCall (fun _ _ => any _) fun w choice answer w' session ran => by
    obtain ⟨same, other⟩ := neutral w choice answer w' ran
    exact ⟨g, by rwa [same], other, any answer⟩

theorem follows_typeRedis {n : Nat} {command : RedisCmd}
    {post : Except Exn command.Resp → Bool → Prop} (any : ∀ answer, post answer g) :
    typeDiscipline.Follows exec () post (redis n command) g :=
  follows_typeNeutral (fun w choice answer w' ran => by
    obtain ⟨a, r, _, rfl, rfl⟩ := Cmd.run_redis ran
    exact ⟨rfl, nofun⟩) any

theorem follows_getTicketType {id : Int} {post : Except Exn (Option TicketType) → Bool → Prop}
    (any : ∀ answer, post answer g) :
    typeDiscipline.Follows exec () post (sql (.getTicketType id)) g :=
  follows_typeNeutral (fun w choice answer w' ran => by
    obtain ⟨db', done, rfl⟩ := Cmd.run_db ran
    obtain ⟨rfl, rfl⟩ := DbCmd.run_getTicketType done
    exact ⟨rfl, nofun⟩) any

theorem follows_refreshTicketType {id : Int} {post : Except Exn TicketType → Bool → Prop}
    (any : ∀ answer, post answer g) :
    typeDiscipline.Follows exec () post (sql (.refreshTicketType id)) g :=
  follows_typeNeutral (fun w choice answer w' ran => by
    obtain ⟨db', done, rfl⟩ := Cmd.run_db ran
    obtain ⟨rfl, ⟨_, rfl⟩ | ⟨row, _, rfl⟩⟩ := DbCmd.run_refreshTicketType done
    · exact ⟨rfl, nofun⟩
    · exact ⟨rfl, nofun⟩) any

/-- `INSERT INTO ticket_types`: the new type has no tickets and a count of zero. -/
theorem follows_insertTicketType {eventId : Int} {data : TicketTypeCreate}
    {post : Except Exn Int → Bool → Prop} (fault : ∀ e, post (.error e) false)
    (inserted : ∀ id, post (.ok id) true) :
    typeDiscipline.Follows exec () post (sql (.insertTicketType eventId data)) false := by
  refine follows_typeCall (fun _ => fault) fun w choice answer w' session ran => ?_
  obtain ⟨db', done, rfl⟩ := Cmd.run_db ran
  rcases DbCmd.run_insertTicketType done with ⟨rfl, rfl⟩ | ⟨rfl, rfl⟩
  · have quiet : w.db.ticketTypes.skip.Quiet := session.types rfl
    exact ⟨false, .of_quiet session.tickets quiet (session.inOrder.of_rows rfl rfl), nofun,
      fault _⟩
  · have unknown : w.db.ticketTypes.row w.db.ticketTypes.next = none := row_next
    refine ⟨true, session.lock insert_row read_insert nofun fun row new => ?_,
      nofun, inserted _⟩
    rw [session.inOrder.no_active unknown]
    cases new
    rfl

/-- `UPDATE ticket_types SET ...` of the columns of a payload, which does not change the count. -/
theorem follows_updateTicketType {id : Int} {data : TicketTypeUpdate}
    {post : Except Exn Unit → Bool → Prop} (fault : ∀ e, post (.error e) false)
    (updated : post (.ok ()) true) :
    typeDiscipline.Follows exec () post (sql (.updateTicketType id data)) false := by
  refine follows_typeCall (fun _ => fault) fun w choice answer w' session ran => ?_
  obtain ⟨db', done, rfl⟩ := Cmd.run_db ran
  rcases DbCmd.run_updateTicketType done with ⟨rfl, rfl⟩ | ⟨row, read, update⟩
  · exact ⟨false, session, nofun, fault _⟩
  have stored : w.db.ticketTypes.row id = some row := by
    rw [← read, read_of_quiet (session.types rfl)]
  rcases update with ⟨row', ok, rfl, rfl⟩ | ⟨violated, error, rfl, rfl⟩
  · have known := w.db.ticketTypes.row_issued id (by rw [stored]; rfl)
    refine ⟨true, session.lock hold_row (read_hold known) nofun fun new same => ?_, nofun,
      updated⟩
    cases same
    rw [TicketTypeUpdate.apply_ok ok]
    exact session.inOrder.ledgered id row stored
  · refine ⟨false, session, fun aborted => ?_, fault _⟩
    exact TicketTypeUpdate.apply_error error (Exn.integrity.inj (Except.error.inj aborted))

/-- The flush of a ticket type's deletion, which a type with tickets refuses. -/
theorem follows_deleteTicketType {id : Int} {post : Except Exn Unit → Bool → Prop}
    (fault : ∀ e, post (.error e) false) (deleted : ∀ g', post (.ok ()) g') :
    typeDiscipline.Follows exec () post (sql (.deleteTicketType id)) false := by
  refine follows_typeCall (fun _ => fault) fun w choice answer w' session ran => ?_
  obtain ⟨db', done, rfl⟩ := Cmd.run_db ran
  rcases DbCmd.run_deleteTicketType done with
    ⟨rfl, rfl⟩ | ⟨free, rfl, rfl | ⟨present, rfl⟩⟩
  · exact ⟨false, session, nofun, fault _⟩
  · exact ⟨false, session, nofun, deleted _⟩
  · refine ⟨true, session.lock hold_row (read_hold (read_issued present))
      (fun _ ticketId ticket stored same => ?_) nofun, nofun, deleted _⟩
    rw [← read_of_quiet session.tickets] at stored
    exact Database.not_hasTickets free stored same

theorem follows_typeCommit {post : Except Exn Unit → Bool → Prop}
    (fault : ∀ e, post (.error e) g) (committed : post (.ok ()) false) :
    typeDiscipline.Follows exec () post (sql .commit) g := by
  refine follows_typeCall (fun _ => fault) fun w choice answer w' session ran => ?_
  obtain ⟨db', done, rfl⟩ := Cmd.run_db ran
  obtain ⟨rfl, rfl⟩ := DbCmd.run_commit done
  exact ⟨false, session.commit, nofun, committed⟩

theorem follows_typeRollback {post : Except Exn Unit → Bool → Prop}
    (fault : ∀ e, post (.error e) g) (ended : post (.ok ()) false) :
    typeDiscipline.Follows exec () post (sql .rollback) g := by
  refine follows_typeCall (fun _ => fault) fun w choice answer w' session ran => ?_
  obtain ⟨db', done, rfl⟩ := Cmd.run_db ran
  cases done
  exact ⟨false, session.rollback, nofun, ended⟩

theorem follows_typeClose {post : Except Exn Unit → Bool → Prop} (ended : post (.ok ()) false) :
    typeDiscipline.Follows exec () post (sql .close) g := by
  refine follows_typeCall nofun fun w choice answer w' session ran => ?_
  obtain ⟨db', done, rfl⟩ := Cmd.run_db ran
  cases done
  exact ⟨false, session.rollback, nofun, ended⟩

/-! ## Programs -/

variable {α β : Type}

/-- Whatever the outcome, with or without a row locked. -/
def anyTime (_ : Except Exn α) (_ : Bool) : Prop := True

/-- The rest of a program that does not depend on whether a row is locked. -/
theorem follows_then {p : Async α} {f : α → Async β}
    (h : typeDiscipline.Follows exec () anyTime p g)
    (rest : ∀ a g', typeDiscipline.Follows exec () anyTime (f a) g') :
    typeDiscipline.Follows exec () anyTime (p >>= f) g := by
  refine Discipline.Follows.bind (fun _ _ => True) (h.mono fun outcome g' _ => ?_)
    fun a g' _ => rest a g'
  cases outcome with
  | ok a => trivial
  | error e => trivial

/-- A block whose handler, too, does not depend on whether a row is locked. -/
theorem follows_caught {p : Async α} {handler : Exn → Async α}
    (h : typeDiscipline.Follows exec () anyTime p g)
    (rest : ∀ e g', typeDiscipline.Follows exec () anyTime (handler e) g') :
    typeDiscipline.Follows exec () anyTime (tryCatch p handler) g := by
  refine Discipline.Follows.tryCatch (fun _ _ => True) (h.mono fun outcome g' _ => ?_)
    fun e g' _ => rest e g'
  cases outcome with
  | ok a => trivial
  | error e => trivial

theorem follows_typeHandler {e : Exn} :
    typeDiscipline.Follows exec () anyTime (rollbackOnSQLAlchemyError e : Async α) g :=
  follows_rollbackOnSQLAlchemyError (follows_typeRollback (fun _ => trivial) trivial) trivial

/-- A request's session leaves no transaction open. -/
theorem follows_typeGetDb {request : Async α}
    (h : typeDiscipline.Follows exec () anyTime request false) :
    typeDiscipline.Follows exec () (fun _ g' => g' = false) (getDb request) false :=
  follows_getDb anyTime anyTime h (fun _ _ _ => trivial)
    (fun _ _ _ => follows_typeRollback (fun _ => trivial) trivial) fun _ _ _ =>
      follows_typeClose rfl

theorem follows_invalidate {eventId : Int} :
    typeDiscipline.Follows exec () anyTime (TicketTypeService.invalidate d eventId) g :=
  follows_then (follows_typeRedis fun _ => trivial) fun _ _ => follows_typeRedis fun _ => trivial

theorem follows_createType {eventId : Int} {typeData : TicketTypeCreate} :
    typeDiscipline.Follows exec () anyTime (TicketTypeService.create d eventId typeData) false := by
  refine follows_then (follows_caught ?_ fun e g' => follows_typeHandler) fun _ _ => trivial
  refine follows_then (follows_insertTicketType (fun _ => trivial) fun _ => trivial)
    fun id g₁ => ?_
  refine follows_then (follows_typeCommit (fun _ => trivial) trivial) fun _ g₂ => ?_
  refine follows_then (follows_refreshTicketType fun _ => trivial) fun row g₃ => ?_
  refine follows_then (follows_typeRedis fun _ => trivial) fun _ g₄ => ?_
  exact follows_then follows_invalidate fun _ _ => trivial

theorem follows_deleteType {ticketTypeId : Int} :
    typeDiscipline.Follows exec () anyTime (TicketTypeService.delete d ticketTypeId) false := by
  refine Discipline.Follows.bind (fun _ g' => g' = false) (follows_getTicketType fun answer => ?_)
    fun ticketType g₁ same => ?_
  · cases answer with
    | ok _ => rfl
    | error _ => trivial
  subst same
  cases ticketType with
  | none => trivial
  | some row =>
      refine follows_caught ?_ fun e g' => ?_
      · refine follows_then (follows_deleteTicketType (fun _ => trivial) fun _ => trivial)
          fun _ g₂ => ?_
        refine follows_then (follows_typeCommit (fun _ => trivial) trivial) fun _ g₃ => ?_
        exact follows_then (follows_typeRedis fun _ => trivial) fun _ g₄ => follows_invalidate
      · unfold TicketTypeService.refuseDelete
        split
        · exact follows_rollbackThrow (follows_typeRollback (fun _ => trivial) trivial)
        · exact follows_typeHandler

theorem follows_applyUpdate {ticketTypeId : Int} {loaded : TicketType}
    {updateData : TicketTypeUpdate} :
    typeDiscipline.Follows exec () anyTime
      (TicketTypeService.applyUpdate d ticketTypeId loaded updateData) false := by
  refine follows_then ?_ fun _ g₁ => ?_
  · unfold TicketTypeService.flushUpdate
    split
    · trivial
    · exact follows_updateTicketType (fun _ => trivial) trivial
  refine follows_then (follows_typeCommit (fun _ => trivial) trivial) fun _ g₂ => ?_
  refine follows_then (follows_refreshTicketType fun _ => trivial) fun row g₃ => ?_
  have ends : ∀ g', typeDiscipline.Follows exec () anyTime (do
      TicketTypeService.invalidate d row.eventId; pure row) g' := fun g' =>
    follows_then follows_invalidate fun _ _ => trivial
  split
  · exact ends g₃
  · exact follows_then (follows_typeRedis fun _ => trivial) fun _ g₄ => ends g₄

theorem follows_updateType {ticketTypeId : Int} {updateData : TicketTypeUpdate} :
    typeDiscipline.Follows exec () anyTime (TicketTypeService.update d ticketTypeId updateData)
      false := by
  refine Discipline.Follows.bind (fun _ g' => g' = false) (follows_getTicketType fun answer => ?_)
    fun ticketType g₁ same => ?_
  · cases answer with
    | ok _ => rfl
    | error _ => trivial
  subst same
  cases ticketType with
  | none => trivial
  | some loaded =>
      dsimp only
      split
      · trivial
      split
      · trivial
      exact follows_then (follows_caught follows_applyUpdate fun e g' => follows_typeHandler)
        fun _ _ => trivial

/-- **Every operation on ticket types keeps the books in order.** -/
theorem follows_typeProgram {op : Operation} (onTypes : OnTypes op) :
    typeDiscipline.Follows exec () (fun _ g' => g' = false) (op.program d) false := by
  cases op with
  | createType eventId typeData =>
      exact follows_unit (follows_typeGetDb follows_createType)
  | updateType ticketTypeId updateData =>
      exact follows_unit (follows_typeGetDb follows_updateType)
  | deleteType ticketTypeId => exact follows_typeGetDb follows_deleteType
  | _ => exact onTypes.elim

end Booking

end TicketCore
