import TicketCore.Catalog
import TicketCore.Columns
import TicketCore.Sessions
import Mathlib.Data.Fin.VecNotation

/-!
# The contract of a capacity update

`TicketTypeService.update` with a new quantity, while any number of calls book tickets. The
comparison with `tickets_sold` is made on a row that was read without a lock, so bookings can come
in between, and then the `UPDATE` violates the table's `CHECK`.

* A `CapacityUpdate` is the update that is watched, and its `Phase` how far it has come.
* `Tables` is what the phase says of the table: who has which quantity. `Told` is what it says of
  the past.
* `follows_update` walks through the call; `capacity_contract` says how it ends.
-/

namespace TicketCore

open Interleave RowStore

variable {ι : Type} [DecidableEq ι]

/-- An update of the quantity of a ticket type: the thread that makes it, the new quantity and the
one before. -/
structure CapacityUpdate (ι : Type) where
  deployment : Deployment
  thread : ι
  ticketTypeId : Int
  quantity : Int
  before : Int

namespace CapacityUpdate

/-- How far the update has come. -/
inductive Phase
  /-- Nothing is written. -/
  | idle
  /-- The new quantity is written in this transaction. -/
  | flushed
  /-- It is committed. -/
  | committed
  /-- The statement has failed. -/
  | failed
deriving DecidableEq

variable (c : CapacityUpdate ι)

/-- The committed quantity. -/
def inForce : Phase → Int
  | .committed => c.quantity
  | _ => c.before

/-- The event leaves the row and the inventory key as they were. -/
def Unmoved (e : CallEvent ι) : Prop :=
  e.after.db.ticketTypes.row c.ticketTypeId = e.before.db.ticketTypes.row c.ticketTypeId ∧
    (e.after.redis c.deployment.apiRedis).inventory c.ticketTypeId =
      (e.before.redis c.deployment.apiRedis).inventory c.ticketTypeId

/-- If the event is the `UPDATE`, then no field is null, each value can be sent, and no more tickets
are sold than the row has after it. -/
def KeepsLimit (e : CallEvent ι) : Prop :=
  ∀ net, e.cmd = .db (.updateTicketType c.ticketTypeId net) →
    net.NoNull ∧ net.sendable = true ∧
      ∀ row, e.before.db.ticketTypes.read e.thread c.ticketTypeId = some row →
        row.ticketsSold ≤ net.newQuantity.getD row.ticketsQuantity

/-- What the phase says of the table. -/
structure Tables (s : RowStore ι TicketType) (phase : Phase) : Prop where
  row : ∃ row, s.row c.ticketTypeId = some row ∧ row.ticketsQuantity = c.inForce phase
  others : ∀ t, t ≠ c.thread → ∀ version, s.heldBy t c.ticketTypeId = some version →
    ∃ row, version = some row ∧ row.ticketsQuantity = c.inForce phase
  own : phase = .flushed → ∃ row, s.heldBy c.thread c.ticketTypeId = some (some row) ∧
    row.ticketsQuantity = c.quantity
  free : phase ≠ .flushed → s.heldBy c.thread c.ticketTypeId = none

/-- What the phase says of the past. -/
structure Told (events : List (CallEvent ι)) (phase : Phase) : Prop where
  unmoved : phase = .idle → ∀ e ∈ events, e.thread = c.thread → c.Unmoved e
  keeps : phase ≠ .failed → ∀ e ∈ events, e.thread = c.thread → c.KeepsLimit e
  breaks : phase = .failed → ∃ e ∈ events, e.thread = c.thread ∧ ¬c.KeepsLimit e

/-- While bookings go on, the update goes through its phases. -/
def discipline : Discipline ι (World ι) Cmd Cmd.Resp Exn Choice Phase where
  guard := Honest
  inv events w ghost := c.Tables w.db.ticketTypes (ghost c.thread) ∧
    c.Told events (ghost c.thread)

variable {c} {s s' : RowStore ι TicketType} {phase phase' : Phase} {t : ι}

/-! ## Bookings -/

namespace Tables

theorem congr (h : c.Tables s phase) (row : s'.row c.ticketTypeId = s.row c.ticketTypeId)
    (held : s'.held c.ticketTypeId = s.held c.ticketTypeId) : c.Tables s' phase := by
  have same : ∀ t, s'.heldBy t c.ticketTypeId = s.heldBy t c.ticketTypeId :=
    fun _ => heldBy_congr held
  refine ⟨by rw [row]; exact h.row, fun t other version mine => ?_, fun flushed => ?_,
    fun idle => ?_⟩
  · rw [same] at mine
    exact h.others t other version mine
  · rw [same]
    exact h.own flushed
  · rw [same]
    exact h.free idle

/-- The quantity that another transaction reads. -/
theorem read_other (h : c.Tables s phase) (other : t ≠ c.thread) :
    ∃ row, s.read t c.ticketTypeId = some row ∧ row.ticketsQuantity = c.inForce phase := by
  cases held : s.heldBy t c.ticketTypeId with
  | none =>
      rw [read_of_not_held held]
      exact h.row
  | some version =>
      obtain ⟨row, rfl, quantity⟩ := h.others t other version held
      exact ⟨row, read_of_heldBy held, quantity⟩

/-- Another transaction books a ticket. -/
theorem hold_other (h : c.Tables s phase) (other : t ≠ c.thread) {row row' : TicketType}
    (read : s.read t c.ticketTypeId = some row) (free : s.Free t c.ticketTypeId)
    (quantity : row'.ticketsQuantity = row.ticketsQuantity) :
    c.Tables (s.hold t c.ticketTypeId (some row')) phase := by
  have known := read_issued (show (s.read t c.ticketTypeId).isSome by rw [read]; rfl)
  obtain ⟨seen, found, force⟩ := h.read_other other
  rw [read] at found
  cases found
  refine ⟨by rw [hold_row]; exact h.row, fun u away version mine => ?_, fun flushed => ?_,
    fun idle => ?_⟩
  · by_cases same : u = t
    · subst same
      rw [heldBy_hold_self known] at mine
      cases mine
      exact ⟨row', rfl, quantity.trans force⟩
    · rw [heldBy_hold_other same free] at mine
      exact h.others u away version mine
  · rw [heldBy_hold_other other.symm free]
    exact h.own flushed
  · rw [heldBy_hold_other other.symm free]
    exact h.free idle

theorem commit_other (h : c.Tables s phase) (other : t ≠ c.thread) :
    c.Tables (s.commit t) phase := by
  refine ⟨h.read_other other, fun u away version mine => ?_, fun flushed => ?_, fun idle => ?_⟩
  · by_cases same : u = t
    · subst same
      rw [heldBy_commit_self] at mine
      cases mine
    · rw [heldBy_commit_other same] at mine
      exact h.others u away version mine
  · rw [heldBy_commit_other other.symm]
    exact h.own flushed
  · rw [heldBy_commit_other other.symm]
    exact h.free idle

theorem rollback_other (h : c.Tables s phase) (other : t ≠ c.thread) :
    c.Tables (s.rollback t) phase := by
  refine ⟨h.row, fun u away version mine => ?_, fun flushed => ?_, fun idle => ?_⟩
  · by_cases same : u = t
    · subst same
      rw [heldBy_rollback_self] at mine
      cases mine
    · rw [heldBy_rollback_other same] at mine
      exact h.others u away version mine
  · rw [heldBy_rollback_other other.symm]
    exact h.own flushed
  · rw [heldBy_rollback_other other.symm]
    exact h.free idle

/-! ## The update itself -/

/-- The row as the update reads it, before it writes. -/
theorem read_own (h : c.Tables s phase) (idle : phase ≠ .flushed) :
    ∃ row, s.read c.thread c.ticketTypeId = some row ∧
      row.ticketsQuantity = c.inForce phase := by
  rw [read_of_not_held (h.free idle)]
  exact h.row

/-- The new quantity is written. -/
theorem flush (h : c.Tables s .idle) {row' : TicketType} (free : s.Free c.thread c.ticketTypeId)
    (quantity : row'.ticketsQuantity = c.quantity) :
    c.Tables (s.hold c.thread c.ticketTypeId (some row')) .flushed := by
  obtain ⟨row, stored, _⟩ := h.row
  have known := s.row_issued c.ticketTypeId (by rw [stored]; rfl)
  refine ⟨by rw [hold_row]; exact h.row, fun t other version mine => ?_,
    fun _ => ⟨row', heldBy_hold_self known, quantity⟩, fun idle => absurd rfl idle⟩
  rw [heldBy_hold_other other free] at mine
  exact h.others t other version mine

/-- The end of a transaction that has written nothing. -/
theorem commit_idle (h : c.Tables s phase) (idle : phase ≠ .flushed) :
    c.Tables (s.commit c.thread) phase := by
  refine ⟨h.read_own idle, fun t other version mine => ?_, fun flushed => absurd flushed idle,
    fun _ => heldBy_commit_self⟩
  rw [heldBy_commit_other other] at mine
  exact h.others t other version mine

theorem rollback_idle (h : c.Tables s phase) (idle : phase ≠ .flushed) :
    c.Tables (s.rollback c.thread) phase := by
  refine ⟨h.row, fun t other version mine => ?_, fun flushed => absurd flushed idle,
    fun _ => heldBy_rollback_self⟩
  rw [heldBy_rollback_other other] at mine
  exact h.others t other version mine

/-- The new quantity is committed. -/
theorem commit_flushed (h : c.Tables s .flushed) : c.Tables (s.commit c.thread) .committed := by
  obtain ⟨row', held, quantity⟩ := h.own rfl
  refine ⟨⟨row', read_of_heldBy held, quantity⟩, fun t other version mine => ?_, nofun,
    fun _ => heldBy_commit_self⟩
  rw [heldBy_commit_other other, heldBy_none_of_ne other held] at mine
  cases mine

/-- Phases that say the same of the table. -/
theorem inPhase (h : c.Tables s phase) (idle : phase ≠ .flushed) (idle' : phase' ≠ .flushed)
    (force : c.inForce phase' = c.inForce phase) : c.Tables s phase' := by
  refine ⟨?_, fun t other version mine => ?_, fun flushed => absurd flushed idle',
    fun _ => h.free idle⟩
  · rw [force]
    exact h.row
  · rw [force]
    exact h.others t other version mine

end Tables

/-! ## Calls that book -/

/-- A call that does not change, delete or insert ticket types, other than by selling tickets. -/
def Sells : Cmd → Prop
  | .db (.updateTicketType ..) | .db (.deleteTicketType _) | .db (.insertTicketType ..) => False
  | _ => True

theorem only_create {d : Deployment} {userId : Int} {ticketData : TicketCreate} :
    (Operation.create userId ticketData |>.program d).Only Sells := by
  refine only_unit (only_getDb trivial trivial ?_)
  refine only_then trivial fun first => Program.Only.bind ?_ fun result => ?_
  · unfold TicketService.fallback
    split
    · exact only_then trivial fun ticketType => match ticketType with
        | none => trivial
        | some _ => only_then trivial fun _ => Program.Only.call trivial
    · trivial
  · split
    · trivial
    · refine Program.Only.bind (Program.Only.tryCatch ?_ fun e => ?_) fun _ => trivial
      · exact only_then trivial fun _ => only_then trivial fun _ => only_then trivial fun _ =>
          only_then trivial fun _ => only_then trivial fun _ => only_then trivial fun _ =>
            only_then trivial fun _ => trivial
      · unfold TicketService.compensate
        split
        · refine only_then trivial fun _ => only_then trivial fun _ => ?_
          split
          · trivial
          · trivial
        · trivial

/-- A statement that ends the transaction of another call. -/
theorem Tables.ends_other {db db' : Database ι} {statement : DbCmd} {clock : Int} {rows : List Int}
    {answer : Except Exn statement.Resp} (h : c.Tables db.ticketTypes phase)
    (other : t ≠ c.thread)
    (ends : statement.Ends) (ran : statement.run t clock rows db = some (answer, db')) :
    c.Tables db'.ticketTypes phase := by
  rcases ends.run ran with rfl | rfl
  · exact h.commit_other other
  · exact h.rollback_other other

/-- Another call, of those that book. -/
theorem Tables.step_other {w w' : World ι} {cmd : Cmd} {choice : Choice}
    {answer : Except Exn cmd.Resp}
    (h : c.Tables w.db.ticketTypes phase) (other : t ≠ c.thread) (sells : Sells cmd)
    (ran : exec t cmd choice w = some (answer, w')) : c.Tables w'.db.ticketTypes phase := by
  rcases exec_cases ran with ⟨_, _, _, _, rfl⟩ | ran
  · exact h
  cases cmd with
  | db statement =>
      obtain ⟨db', done, rfl⟩ := Cmd.run_db ran
      by_cases ends : statement.Ends
      · exact h.ends_other other ends done
      · by_cases locks : statement.locksType c.ticketTypeId
        · cases statement with
          | addTicketsSold id delta =>
              obtain rfl : c.ticketTypeId = id := locks
              rcases DbCmd.run_addTicketsSold done with
                ⟨_, _, rfl⟩ | ⟨row, read, free, ⟨row', ok, _, rfl⟩ | ⟨_, _, _, rfl⟩⟩
              · exact h
              · exact h.hold_other other read free (TicketType.addTicketsSold_ok ok).2
              · exact h
          | updateTicketType id data => exact sells.elim
          | deleteTicketType id => exact sells.elim
          | _ => exact locks.elim
        · have inserts : ¬statement.InsertsType := by
            cases statement with
            | insertTicketType eventId data => exact sells.elim
            | _ => exact not_false
          have moved := (DbCmd.moved ends done).ticketTypes
          exact h.congr (by rw [moved.row]) (moved.held_of_apart locks (.inr inserts))
  | redis n command =>
      obtain ⟨_, _, _, _, rfl⟩ := Cmd.run_redis ran
      exact h
  | enqueueJob job | now =>
      cases ran
      exact h
  | handler =>
      have done : (choice.outcome, w) = (answer, w') := Option.some.inj ran
      obtain ⟨_, rfl⟩ := Prod.mk.inj done
      exact h

/-- What another thread does tells nothing of the update. -/
theorem Told.snoc_other {events : List (CallEvent ι)} {e : CallEvent ι} (h : c.Told events phase)
    (other : e.thread ≠ c.thread) : c.Told (events ++ [e]) phase := by
  refine ⟨fun idle => ?_, fun running => ?_, fun failed => ?_⟩
  · rw [List.forall_mem_append]
    exact ⟨h.unmoved idle, fun e' mem own => absurd (List.mem_singleton.mp mem ▸ own) other⟩
  · rw [List.forall_mem_append]
    exact ⟨h.keeps running, fun e' mem own => absurd (List.mem_singleton.mp mem ▸ own) other⟩
  · obtain ⟨e', mem, broken⟩ := h.breaks failed
    exact ⟨e', List.mem_append_left _ mem, broken⟩

/-- A booking goes on beside the update. -/
theorem follows_create {d : Deployment} {userId : Int} {ticketData : TicketCreate} {g : Phase}
    (other : t ≠ c.thread) :
    c.discipline.Follows exec t (fun _ _ => True)
      (Operation.create userId ticketData |>.program d) g := by
  refine Discipline.Follows.of_only only_create
    (fun cmd events w ghost choice answer w' sells inv own ran _ => ?_) fun _ => trivial
  have unchanged : Function.update ghost t g c.thread = ghost c.thread :=
    Function.update_of_ne other.symm ..
  obtain ⟨tables, told⟩ := inv
  constructor
  · rw [unchanged]
    exact tables.step_other other sells ran
  · rw [unchanged]
    exact told.snoc_other other

/-! ## The call of the update -/

/-- How the past goes on with an event of the update. -/
structure Tells (c : CapacityUpdate ι) (phase phase' : Phase) (e : CallEvent ι) : Prop where
  unmoved : phase' = .idle → phase = .idle ∧ c.Unmoved e
  keeps : phase' ≠ .failed → phase ≠ .failed ∧ c.KeepsLimit e
  breaks : phase' = .failed → phase = .failed ∨ ¬c.KeepsLimit e

theorem Told.snoc {events : List (CallEvent ι)} {e : CallEvent ι} (h : c.Told events phase)
    (own : e.thread = c.thread) (tells : Tells c phase phase' e) :
    c.Told (events ++ [e]) phase' := by
  refine ⟨fun idle => ?_, fun running => ?_, fun failed => ?_⟩
  · rw [List.forall_mem_append]
    obtain ⟨idle, unmoved⟩ := tells.unmoved idle
    exact ⟨h.unmoved idle, fun e' mem _ => List.mem_singleton.mp mem ▸ unmoved⟩
  · rw [List.forall_mem_append]
    obtain ⟨running, keeps⟩ := tells.keeps running
    exact ⟨h.keeps running, fun e' mem _ => List.mem_singleton.mp mem ▸ keeps⟩
  · rcases tells.breaks failed with failed | broken
    · obtain ⟨e', mem, broken⟩ := h.breaks failed
      exact ⟨e', List.mem_append_left _ mem, broken⟩
    · exact ⟨e, List.mem_append_right _ (List.mem_singleton_self _), own, broken⟩

/-- A command of the update, and what it makes of the phase. -/
theorem follows_own {cmd : Cmd} {g : Phase} {post : Except Exn cmd.Resp → Phase → Prop}
    (h : ∀ w choice answer w', c.Tables w.db.ticketTypes g →
      exec c.thread cmd choice w = some (answer, w') →
      Honest (⟨c.thread, cmd, choice, answer, w, w'⟩ : CallEvent ι) →
      ∃ g', c.Tables w'.db.ticketTypes g' ∧
        Tells c g g' ⟨c.thread, cmd, choice, answer, w, w'⟩ ∧
        post answer g') :
    c.discipline.Follows exec c.thread post (.call cmd) g := by
  refine Discipline.Follows.call fun events w ghost choice answer w' inv own ran ok => ?_
  obtain ⟨tables, told⟩ := inv
  rw [own] at tables told
  obtain ⟨g', tables', tells, holds⟩ := h w choice answer w' tables ran ok
  refine ⟨g', ⟨?_, ?_⟩, holds⟩
  · rw [Function.update_self]
    exact tables'
  · rw [Function.update_self]
    exact told.snoc rfl tells

/-- A command that does not move the phase. -/
theorem Tells.stay {e : CallEvent ι} (unmoved : phase = .idle → c.Unmoved e)
    (keeps : c.KeepsLimit e) : Tells c phase phase e :=
  ⟨fun idle => ⟨idle, unmoved idle⟩, fun running => ⟨running, keeps⟩, .inl⟩

/-- The statement that succeeds. -/
theorem Tells.writes {e : CallEvent ι} (keeps : c.KeepsLimit e) : Tells c .idle .flushed e :=
  ⟨(fun same => by cases same), fun _ => ⟨(fun same => by cases same), keeps⟩,
    fun same => by cases same⟩

/-- The statement that fails. -/
theorem Tells.fails {e : CallEvent ι} (broken : ¬c.KeepsLimit e) : Tells c .idle .failed e :=
  ⟨nofun, fun running => absurd rfl running, fun _ => .inr broken⟩

/-- A failed statement leaves the table as it was. -/
theorem Tables.fails (h : c.Tables s .idle) : c.Tables s .failed := h.inPhase nofun nofun rfl

/-- What is sent without a limit is executed. -/
theorem run_of_honest {cmd : Cmd} {choice : Choice} {answer : Except Exn cmd.Resp} {w w' : World ι}
    (ran : exec t cmd choice w = some (answer, w')) (sent : cmd.rejection = none)
    (ok : Honest (⟨t, cmd, choice, answer, w, w'⟩ : CallEvent ι)) :
    cmd.run t choice w = some (answer, w') := by
  rcases exec_cases ran with ⟨_, fault, _⟩ | ran
  · have none : choice.fault = none := ok.trans sent
    rw [none] at fault
    cases fault
  · exact ran

/-- The end of the transaction, when nothing is written. -/
theorem follows_end {statement : DbCmd} {post : Except Exn statement.Resp → Phase → Prop}
    (ends : statement.Ends) {g : Phase} (idle : g ≠ .flushed) (ended : ∀ a, post (.ok a) g) :
    c.discipline.Follows exec c.thread post (sql statement) g := by
  refine follows_own fun w choice answer w' tables ran ok => ?_
  have keeps : c.KeepsLimit ⟨c.thread, .db statement, choice, answer, w, w'⟩ := by
    rintro net same
    cases same
    exact ends.elim
  cases statement with
  | commit =>
      cases run_of_honest ran rfl ok
      exact ⟨g, tables.commit_idle idle,
        .stay (fun _ => ⟨read_of_not_held (tables.free idle), rfl⟩) keeps, ended ()⟩
  | rollback | close =>
      cases run_of_honest ran rfl ok
      exact ⟨g, tables.rollback_idle idle, .stay (fun _ => ⟨rfl, rfl⟩) keeps, ended ()⟩
  | _ => exact ends.elim

/-- How the update ends: with the quantity committed, with the domain error before anything is
written, or with a failed statement. -/
def Ends (c : CapacityUpdate ι) {α : Type} : Except Exn α → Phase → Prop
  | .ok _, g => g = .committed
  | .error e, g =>
      (g = .idle ∧ ∃ sold, c.quantity < sold ∧
        e = TicketTypeService.ticketTypeQuantity c.quantity sold) ∨
      (g = .failed ∧ e.isSQLAlchemyError = true)

omit [DecidableEq ι] in
theorem Ends.not_flushed {α : Type} {outcome : Except Exn α} {g : Phase} (h : Ends c outcome g) :
    g ≠ .flushed := by
  rintro rfl
  cases outcome with
  | ok a => cases h
  | error e => rcases h with ⟨same, _⟩ | ⟨same, _⟩ <;> cases same

/-- The rollback before an exception is raised again. -/
theorem follows_rollback {α : Type} {e : Exn} {g : Phase}
    (h : Ends c (.error e : Except Exn α) g) :
    c.discipline.Follows exec c.thread
      (fun answer g' => Ends c (answer.bind fun _ => (.error e : Except Exn α)) g')
      (sql .rollback) g :=
  follows_end (show DbCmd.rollback.Ends from trivial) h.not_flushed fun _ => h

/-! ## Its statements -/

/-- The first read finds the type with the quantity before. -/
theorem follows_getTicketType :
    c.discipline.Follows exec c.thread
      (fun answer g' => (∃ row, answer = .ok (some row) ∧ row.ticketsQuantity = c.before) ∧
        g' = .idle)
      (sql (.getTicketType c.ticketTypeId)) .idle := by
  refine follows_own fun w choice answer w' tables ran ok => ?_
  cases run_of_honest ran rfl ok
  obtain ⟨row, read, quantity⟩ := tables.read_own nofun
  exact ⟨.idle, tables, .stay (fun _ => ⟨rfl, rfl⟩) nofun,
    ⟨row, congrArg Except.ok read, quantity⟩, rfl⟩

/-- The refresh after the commit finds the type. -/
theorem follows_refresh :
    c.discipline.Follows exec c.thread
      (fun answer g' => (∃ row, answer = .ok row) ∧ g' = .committed)
      (sql (.refreshTicketType c.ticketTypeId)) .committed := by
  refine follows_own fun w choice answer w' tables ran ok => ?_
  obtain ⟨db', done, rfl⟩ := Cmd.run_db (run_of_honest ran rfl ok)
  obtain ⟨row, read, _⟩ := tables.read_own fun same => by cases same
  simp only [DbCmd.run, read] at done
  cases done
  exact ⟨.committed, tables, .stay (fun same => by cases same) (fun _ same => by cases same),
    ⟨row, rfl⟩,
    rfl⟩

/-- The commands to Redis come after the commit. -/
theorem follows_redis {n : Nat} {command : RedisCmd} :
    c.discipline.Follows exec c.thread
      (fun answer g' => (∃ a, answer = .ok a) ∧ g' = .committed)
      (redis n command) .committed := by
  refine follows_own fun w choice answer w' tables ran ok => ?_
  obtain ⟨a, r, _, rfl, rfl⟩ := Cmd.run_redis (run_of_honest ran rfl ok)
  exact ⟨.committed, tables, .stay nofun nofun, ⟨a, rfl⟩, rfl⟩

/-- The `UPDATE`: it writes the new quantity if it keeps the limit, and fails otherwise. -/
theorem follows_updateTicketType {net : TicketTypeUpdate}
    (quantity : net.newQuantity.getD c.before = c.quantity) :
    c.discipline.Follows exec c.thread
      (fun answer g' => (answer = .ok () ∧ g' = .flushed) ∨
        (∃ e, answer = .error e ∧ e.isSQLAlchemyError = true) ∧ g' = .failed)
      (sql (.updateTicketType c.ticketTypeId net)) .idle := by
  refine follows_own fun w choice answer w' tables ran ok => ?_
  by_cases sends : net.sendable = true
  · obtain ⟨db', done, rfl⟩ := Cmd.run_db (run_of_honest ran (if_pos sends) ok)
    obtain ⟨row, read, force⟩ := tables.read_own fun same => by cases same
    have free := DbCmd.free_of_updateTicketType done read
    simp only [DbCmd.run, Database.updateTypeRow, read, if_pos free] at done
    by_cases given : net.NoNull
    · by_cases limit : row.ticketsSold ≤ net.newQuantity.getD row.ticketsQuantity
      · obtain ⟨row', applied, _, _, quantity', _⟩ := TicketTypeUpdate.apply_eq given limit
        rw [applied] at done
        cases done
        refine ⟨.flushed, tables.flush free ?_, .writes ?_, .inl ⟨rfl, rfl⟩⟩
        · rw [quantity', force]
          exact quantity
        · rintro _ ⟨⟩
          refine ⟨given, sends, fun row₁ read₁ => ?_⟩
          have same : row = row₁ := Option.some.inj (read.symm.trans read₁)
          rw [← same]
          exact limit
      · have error : net.apply row = .error .checkSoldLimit := by
          unfold TicketTypeUpdate.apply
          rw [if_neg given.1, if_neg given.2.1, if_neg given.2.2, dif_neg limit]
        rw [error] at done
        cases done
        exact ⟨.failed, tables.fails, .fails fun keeps => limit ((keeps net rfl).2.2 row read),
          .inr ⟨⟨_, rfl, rfl⟩, rfl⟩⟩
    · obtain ⟨violated, error⟩ : ∃ violated, net.apply row = .error violated :=
        TicketTypeUpdate.apply_null given
      rw [error] at done
      cases done
      exact ⟨.failed, tables.fails, .fails fun keeps => given (keeps net rfl).1,
        .inr ⟨⟨_, rfl, rfl⟩, rfl⟩⟩
  · have fault : choice.fault = some .sqlalchemy := ok.trans (if_neg sends)
    unfold exec at ran
    rw [fault] at ran
    cases ran
    exact ⟨.failed, tables.fails, .fails fun keeps => sends (keeps net rfl).2.1,
      .inr ⟨⟨_, rfl, rfl⟩, rfl⟩⟩

/-- The flush: without net change in the quantity it is the quantity before. -/
theorem follows_flushUpdate {data : TicketTypeUpdate} {loaded : TicketType}
    (given : data.newQuantity = some c.quantity) (before : loaded.ticketsQuantity = c.before) :
    c.discipline.Follows exec c.thread
      (fun outcome g' => match outcome with
        | .ok _ => g' = .flushed ∨ (g' = .idle ∧ c.before = c.quantity)
        | .error e => g' = .failed ∧ e.isSQLAlchemyError = true)
      (TicketTypeService.flushUpdate c.ticketTypeId (data.netChange loaded)) .idle := by
  have net : (data.netChange loaded).newQuantity.getD c.before = c.quantity := by
    rw [← before, TicketTypeUpdate.newQuantity_netChange, given]
    rfl
  unfold TicketTypeService.flushUpdate
  split
  · rename_i empty
    refine .inr ⟨rfl, ?_⟩
    rw [← net]
    unfold TicketTypeUpdate.isEmpty at empty
    rw [Bool.and_eq_true, Bool.and_eq_true] at empty
    unfold TicketTypeUpdate.newQuantity
    rw [Option.isNone_iff_eq_none.mp empty.2]
    rfl
  · refine (follows_updateTicketType net).mono fun answer g' holds => ?_
    rcases holds with ⟨rfl, flushed⟩ | ⟨⟨e, rfl, sql⟩, failed⟩
    · exact .inl flushed
    · exact ⟨failed, sql⟩

/-- The commit. -/
theorem follows_commit {g : Phase}
    (ready : g = .flushed ∨ (g = .idle ∧ c.before = c.quantity)) :
    c.discipline.Follows exec c.thread
      (fun answer g' => (∃ a, answer = .ok a) ∧ g' = .committed)
      (sql .commit) g := by
  refine follows_own fun w choice answer w' tables ran ok => ?_
  cases run_of_honest ran rfl ok
  have tells : ∀ {e : CallEvent ι}, c.KeepsLimit e → Tells c g .committed e := fun keeps =>
    ⟨nofun, fun _ => ⟨by rcases ready with rfl | ⟨rfl, _⟩ <;> nofun, keeps⟩, nofun⟩
  rcases ready with rfl | ⟨rfl, same⟩
  · exact ⟨.committed, tables.commit_flushed, tells nofun, ⟨_, rfl⟩, rfl⟩
  · exact ⟨.committed, (tables.commit_idle nofun).inPhase nofun nofun same.symm, tells nofun,
      ⟨_, rfl⟩, rfl⟩

/-- What the call does after the commit. -/
theorem follows_invalidate {eventId : Int} {row : TicketType} :
    c.discipline.Follows exec c.thread (Ends c)
      (do TicketTypeService.invalidate c.deployment eventId; pure row : Async TicketType)
        .committed := by
  refine Discipline.Follows.bind (fun _ g' => g' = .committed) ?_ fun _ g' done => done
  refine Discipline.Follows.bind (fun _ g' => g' = .committed)
    (follows_redis.mono fun answer g' holds => ?_) fun _ g' done => ?_
  · obtain ⟨⟨a, rfl⟩, done⟩ := holds
    exact done
  · subst done
    refine follows_redis.mono fun answer g' holds => ?_
    obtain ⟨⟨a, rfl⟩, done⟩ := holds
    exact done

/-- The `try` block. -/
theorem follows_applyUpdate {data : TicketTypeUpdate} {loaded : TicketType}
    (given : data.newQuantity = some c.quantity) (before : loaded.ticketsQuantity = c.before) :
    c.discipline.Follows exec c.thread (Ends c)
      (TicketTypeService.applyUpdate c.deployment c.ticketTypeId loaded data) .idle := by
  refine Discipline.Follows.bind
    (fun _ g' => g' = .flushed ∨ (g' = .idle ∧ c.before = c.quantity))
    ((follows_flushUpdate given before).mono fun outcome g' holds => ?_) fun _ g' ready => ?_
  · cases outcome with
    | ok _ => exact holds
    | error e => exact .inr holds
  refine Discipline.Follows.bind (fun _ g' => g' = .committed)
    ((follows_commit ready).mono fun answer g' holds => ?_) fun _ g' done => ?_
  · obtain ⟨⟨a, rfl⟩, done⟩ := holds
    exact done
  subst done
  refine Discipline.Follows.bind (fun _ g' => g' = .committed)
    (follows_refresh.mono fun answer g' holds => ?_) fun row g' done => ?_
  · obtain ⟨⟨row, rfl⟩, done⟩ := holds
    exact done
  subst done
  rw [given]
  refine Discipline.Follows.bind (fun _ g' => g' = .committed)
    (follows_redis.mono fun answer g' holds => ?_) fun _ g' done => ?_
  · obtain ⟨⟨a, rfl⟩, done⟩ := holds
    exact done
  subst done
  exact follows_invalidate

/-- The call of the service. -/
theorem follows_update {data : TicketTypeUpdate} (given : data.newQuantity = some c.quantity) :
    c.discipline.Follows exec c.thread (Ends c)
      (TicketTypeService.update c.deployment c.ticketTypeId data) .idle := by
  have filled : data.isEmpty ≠ true := by
    intro empty
    unfold TicketTypeUpdate.isEmpty at empty
    rw [Bool.and_eq_true, Bool.and_eq_true] at empty
    unfold TicketTypeUpdate.newQuantity at given
    rw [Option.isNone_iff_eq_none.mp empty.2] at given
    cases given
  refine Discipline.Follows.bind
    (fun ticketType g' => (∃ row, ticketType = some row ∧ row.ticketsQuantity = c.before) ∧
      g' = .idle)
    (follows_getTicketType.mono fun answer g' holds => ?_) fun ticketType g' holds => ?_
  · obtain ⟨⟨row, rfl, before⟩, idle⟩ := holds
    exact ⟨⟨row, rfl, before⟩, idle⟩
  obtain ⟨⟨loaded, rfl, before⟩, rfl⟩ := holds
  dsimp only
  rw [if_neg filled, given]
  split
  · rename_i small
    exact .inl ⟨rfl, loaded.ticketsSold, of_decide_eq_true small, rfl⟩
  · refine Discipline.Follows.bind (fun _ g' => g' = .committed) ?_ fun _ g' done => done
    refine Discipline.Follows.tryCatch (fun e g' => Ends c (.error e : Except Exn TicketType) g')
      ((follows_applyUpdate given before).mono fun outcome g' ends => ?_) fun e g' ends => ?_
    · cases outcome with
      | ok row => exact ends
      | error e => exact ends
    · refine (follows_rollbackOnSQLAlchemyError (follows_rollback ends) ends).mono
        fun outcome g'' ends' => ?_
      cases outcome with
      | ok row => exact ends'
      | error e => exact ends'

/-- The request. -/
theorem follows_request {data : TicketTypeUpdate} (given : data.newQuantity = some c.quantity) :
    c.discipline.Follows exec c.thread (Ends c)
      ((Operation.updateType c.ticketTypeId data).program c.deployment) .idle := by
  refine follows_unit (follows_getDb (Ends c) (Ends c) (follows_update given)
    (fun _ _ ends => ends) (fun _ _ ends => follows_rollback ends) fun outcome g' ends => ?_)
  refine follows_end (show DbCmd.close.Ends from trivial) ends.not_flushed fun _ => ?_
  cases outcome with
  | ok _ => exact ends
  | error e => exact ends

/-- The ends that the contract allows: the update is committed and no more tickets are sold than
there are, or the domain error is raised and no step of the update has moved the row or the
inventory key. -/
def Keeps (c : CapacityUpdate ι) (events : List (CallEvent ι)) (w : World ι)
    (outcome : Except Exn Unit) : Prop :=
  (outcome = .ok () ∧ ∃ row, w.db.ticketTypes.row c.ticketTypeId = some row ∧
    row.ticketsQuantity = c.quantity ∧ row.ticketsSold ≤ row.ticketsQuantity) ∨
  (∃ sold, c.quantity < sold ∧
    outcome = .error (TicketTypeService.ticketTypeQuantity c.quantity sold) ∧
    ∀ e ∈ events, e.thread = c.thread → c.Unmoved e)

omit [DecidableEq ι] in
theorem not_keeps {events : List (CallEvent ι)} {w : World ι} {e : Exn}
    (sql : e.isSQLAlchemyError = true) : ¬c.Keeps events w (.error e) := by
  rintro (⟨same, _⟩ | ⟨_, _, same, _⟩)
  · cases same
  · cases same
    cases sql

/-- Where the invariant begins. -/
theorem Tables.start {row : TicketType} (quiet : s.Quiet) (stored : s.row c.ticketTypeId = some row)
    (before : row.ticketsQuantity = c.before) : c.Tables s .idle where
  row := ⟨row, stored, before⟩
  others t _ version mine := by
    rw [heldBy_of_quiet quiet] at mine
    cases mine
  own := nofun
  free _ := heldBy_of_quiet quiet

theorem Told.start : c.Told [] .idle where
  unmoved _ _ mem := (List.not_mem_nil mem).elim
  keeps _ _ mem := (List.not_mem_nil mem).elim
  breaks := nofun

/-- **The contract of a capacity update.** Beside any number of bookings, the update of a quantity
ends as the contract says if and only if, when its `UPDATE` is executed, no field is null, each
value can be sent, and no more tickets are sold than the new quantity. -/
theorem capacity_contract (c : CapacityUpdate ι) (data : TicketTypeUpdate) (ops : ι → Operation)
    (w : World ι) (row : TicketType) (events : List (CallEvent ι))
    (c' : Config ι (World ι) Cmd Cmd.Resp Exn Unit) (outcome : Except Exn Unit)
    (given : data.newQuantity = some c.quantity)
    (update : ops c.thread = .updateType c.ticketTypeId data)
    (bookings : ∀ t, t ≠ c.thread → ∃ userId ticketData, ops t = .create userId ticketData)
    (quiet : w.db.ticketTypes.Quiet) (stored : w.db.ticketTypes.row c.ticketTypeId = some row)
    (before : row.ticketsQuantity = c.before)
    (run : Config.Run exec ⟨w, fun t => (ops t).program c.deployment⟩ events c')
    (honest : ∀ e ∈ events, Honest e) (ended : c'.result c.thread = some outcome) :
    c.Keeps events c'.shared outcome ↔ ∀ e ∈ events, e.thread = c.thread →
      c.KeepsLimit e := by
  have start : c.discipline.Holds exec
      (fun t outcome g => t = c.thread → Ends c outcome g) []
      ⟨w, fun t => (ops t).program c.deployment⟩ := by
    refine ⟨fun _ => .idle, ⟨.start quiet stored before, .start⟩, fun t => ?_⟩
    by_cases own : t = c.thread
    · subst own
      dsimp only
      rw [update]
      exact (follows_request given).mono fun _ _ ends _ => ends
    · obtain ⟨userId, ticketData, booking⟩ := bookings t own
      dsimp only
      rw [booking]
      exact (follows_create own).mono fun _ _ _ same => absurd same own
  obtain ⟨ghost, ⟨tables, told⟩, follows⟩ := start.run run honest
  have ends : Ends c outcome (ghost c.thread) :=
    Discipline.Holds.post_of_finished follows (Config.finished_of_result ended) rfl
  cases outcome with
  | ok a =>
      have done : ghost c.thread = .committed := ends
      rw [done] at tables told
      refine ⟨fun _ => told.keeps nofun, fun _ => ?_⟩
      obtain ⟨row', stored', quantity⟩ := tables.row
      exact .inl ⟨rfl, row', stored', quantity, row'.check_sold_limit⟩
  | error e =>
      rcases ends with ⟨idle, sold, more, rfl⟩ | ⟨failed, sql⟩
      · rw [idle] at told
        exact ⟨fun _ => told.keeps nofun, fun _ => .inr ⟨sold, more, rfl, told.unmoved rfl⟩⟩
      · rw [failed] at told
        obtain ⟨e', mem, own, broken⟩ := told.breaks rfl
        exact ⟨fun keeps => absurd keeps (not_keeps sql),
          fun keeps => absurd (keeps e' mem own) broken⟩

/-! ## An update and a booking -/

end CapacityUpdate

/-- A type of five tickets, two of them sold, with its inventory key. -/
def threeInStock : World (Fin 2) where
  db :=
    { tickets := .ofList []
      ticketTypes := .ofList [exampleType 5 2]
      users := {1, 2}
      events := .ofList [exampleEvent] }
  redis _ := { RedisDb.empty with inventory := Function.update RedisDb.empty.inventory 1 (some 3) }
  jobs := []

/-- The first call changes the quantity from five to `q`, and the second one books a ticket. -/
def updateAndBook (q : Int) (pos : 0 < q) : Fin 2 → Operation :=
  ![.updateType 1 (quantityOnly q pos), .create 1 ⟨1, Int.one_pos⟩]

/-- Both calls are about to begin. -/
def besideBooking (q : Int) (pos : 0 < q) : Config (Fin 2) (World (Fin 2)) Cmd Cmd.Resp Exn Unit :=
  ⟨threeInStock, fun t => (updateAndBook q pos t).program sharedRedis⟩

/-- What the first call changes. -/
def changeTo (q : Int) : CapacityUpdate (Fin 2) := ⟨sharedRedis, 0, 1, q, 5⟩

/-- The update reads the row, then the whole booking happens, and then the update goes on. -/
def bookedAfterRead (steps : Nat) : List (Fin 2 × Choice) :=
  (0 :: List.replicate 9 1 ++ List.replicate steps 0 : List (Fin 2)).map fun t => (t, {})

/-- The booking is the only other call. -/
theorem updateAndBook_books {q : Int} {pos : 0 < q} :
    ∀ t, t ≠ (changeTo q).thread →
      ∃ userId ticketData, updateAndBook q pos t = .create userId ticketData :=
  Fin.forall_fin_two.mpr ⟨fun other => absurd rfl other, fun _ => ⟨_, _, rfl⟩⟩

/-- Nine tickets are enough for the booking that comes in between, and the update is committed. -/
theorem capacity_contract_of_nine :
    ∃ (events : List (CallEvent (Fin 2)))
      (c' : Config (Fin 2) (World (Fin 2)) Cmd Cmd.Resp Exn Unit),
      Config.Run exec (besideBooking 9 (by decide)) events c' ∧
      (changeTo 9).Keeps events c'.shared (.ok ()) ∧
      ∀ e ∈ events, e.thread = 0 → (changeTo 9).KeepsLimit e := by
  have found : ((besideBooking 9 (by decide)).replay exec (bookedAfterRead 7)).any (fun r =>
        (r.1.all fun e => decide (Honest e)) && decide (r.2.result 0 = some (.ok ())) &&
          (r.2.shared.db.ticketTypes.row 1).any fun row =>
              decide (row.ticketsQuantity = 9)) = true := by
    decide
  obtain ⟨events, c', run, holds⟩ := Config.exists_run_of_replay
    (P := fun events c' => (events.all fun e => decide (Honest e)) &&
      decide (c'.result 0 = some (.ok ())) &&
        (c'.shared.db.ticketTypes.row 1).any fun row : TicketType =>
          decide (row.ticketsQuantity = 9)) found
  rw [Bool.and_eq_true, Bool.and_eq_true, List.all_eq_true, Option.any_eq_true] at holds
  obtain ⟨⟨honest, returned⟩, row, stored, quantity⟩ := holds
  have keeps : (changeTo 9).Keeps events c'.shared (.ok ()) :=
    .inl ⟨rfl, row, stored, of_decide_eq_true quantity, row.check_sold_limit⟩
  refine ⟨events, c', run, keeps, ?_⟩
  exact (CapacityUpdate.capacity_contract (changeTo 9) (quantityOnly 9 (by decide))
    (updateAndBook 9 (by decide)) threeInStock _ events c'
    (.ok ()) rfl rfl updateAndBook_books (by decide)
    rfl rfl run (fun e mem => of_decide_eq_true (honest e mem))
    (of_decide_eq_true returned)).mp keeps

/-- The update to two tickets reads a row with two sold ones, and a third one is sold before it
writes: it ends with the violation of the `CHECK`. -/
theorem not_keeps_of_sale_in_between :
    ∃ (events : List (CallEvent (Fin 2)))
      (c' : Config (Fin 2) (World (Fin 2)) Cmd Cmd.Resp Exn Unit),
      Config.Run exec (besideBooking 2 (by decide)) events c' ∧
      (∀ e ∈ events, Honest e) ∧ c'.result 1 = some (.ok ()) ∧
      c'.result 0 = some (.error (.integrity .checkSoldLimit)) ∧
      ∀ outcome, c'.result 0 = some outcome →
        ¬(changeTo 2).Keeps events c'.shared outcome := by
  have found : ((besideBooking 2 (by decide)).replay exec (bookedAfterRead 4)).any (fun r =>
        (r.1.all fun e => decide (Honest e)) && decide (r.2.result 1 = some (.ok ())) &&
          decide (r.2.result 0 = some (.error (.integrity .checkSoldLimit)))) = true := by
    decide
  obtain ⟨events, c', run, holds⟩ := Config.exists_run_of_replay
    (P := fun events c' => (events.all fun e => decide (Honest e)) &&
      decide (c'.result 1 = some (.ok ())) &&
        decide (c'.result 0 = some (.error (.integrity .checkSoldLimit)))) found
  rw [Bool.and_eq_true, Bool.and_eq_true, List.all_eq_true] at holds
  obtain ⟨⟨honest, booked⟩, raised⟩ := holds
  have raised := of_decide_eq_true raised
  refine ⟨events, c', run, fun e mem => of_decide_eq_true (honest e mem),
    of_decide_eq_true booked, raised,
    fun outcome ended => ?_⟩
  rw [raised] at ended
  cases ended
  exact CapacityUpdate.not_keeps rfl

end TicketCore
