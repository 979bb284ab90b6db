import TicketCore.Booking.TicketTypes
import TicketCore.Interleave.Serial

/-!
# The ledger of sequential operations

Operations on tickets and on ticket types run one after another, each to its end.

* `ledgered_of_history`: from empty tables, the books are in order after every history in which no
  deletion finds its caller's ticket `CANCELED`, and no call is ever aborted by
  `CHECK (tickets_sold >= 0)`.
* `delete_of_canceled_breaks_ledger`: a deletion does not look at the status of its ticket, so a
  ticket that a timeout has already taken off the count is taken off a second time.
-/

namespace TicketCore

open Interleave RowStore Booking

/-! ## Histories -/

/-- A finished call of an operation. -/
abbrev FinishedCall : Type :=
  Call Operation Unit (World Unit) Cmd Cmd.Resp Exn Choice Unit

/-- Operations one after another, each to completion. -/
abbrev History (d : Deployment) : World Unit → List FinishedCall → World Unit → Prop :=
  Serial exec () (Operation.program d)

/-- A deletion does not find its caller's ticket `CANCELED`. -/
def deletesLive (call : FinishedCall) : Bool :=
  match call.label with
  | .delete ownerId ticketId =>
      (call.before.db.tickets.row ticketId).all fun ticket =>
        ticket.ownerId ≠ ownerId ∨ ticket.Active
  | _ => true

/-- Between two calls: no transaction is open, and the books are in order. -/
structure Sound (db : Database Unit) : Prop where
  quiet : db.Quiet
  inOrder : db.InOrder

/-- Tables without rows. -/
structure Database.Empty (db : Database Unit) : Prop where
  quiet : db.Quiet
  tickets : ∀ id, db.tickets.row id = none
  ticketTypes : ∀ id, db.ticketTypes.row id = none

theorem Database.Empty.sound {db : Database Unit} (h : db.Empty) : Sound db where
  quiet := h.quiet
  inOrder :=
    { foreignKeys := fun id ticket stored => by
        rw [h.tickets id] at stored
        cases stored
      ledgered := fun id row stored => by
        rw [h.ticketTypes id] at stored
        cases stored }

/-! ## Operations on tickets -/

section OnTickets

variable {d : Deployment} {w w' : World Unit} {events : List (CallEvent Unit)}

/-- A command that does not move a count. -/
def CountsNothing : Cmd → Prop
  | .db (.addTicketsSold _ _) => False
  | _ => True

theorem deletesActive_of_countsNothing {ops : Unit → Operation} {e : CallEvent Unit}
    (h : CountsNothing e.cmd) : deletesActive ops e := by
  unfold deletesActive
  split
  · rename_i same
    rw [same] at h
    exact h.elim
  · rfl

/-- The `try` block of a deletion counts its ticket down first, and then never again. -/
theorem deletesActive_remove {ownerId ticketId : Int} {ticket : Ticket} {outcome : Except Exn Unit}
    (stored : w.db.tickets.row ticketId = some ticket) (active : ticket.Active)
    (run : (TicketService.remove d ticketId ticket).Runs exec () w events outcome w') :
    ∀ e ∈ events, deletesActive (fun _ => .delete ownerId ticketId) e := by
  have counted : ∀ choice answer w₁, deletesActive (fun _ : Unit => .delete ownerId ticketId)
      ⟨(), .db (.addTicketsSold ticket.ticketTypeId (-1)), choice, answer, w, w₁⟩ := by
    intro choice answer w₁
    simp only [deletesActive, stored, Option.any_some, active, decide_true]
  have rest : (do
      sql (.deleteTicket ticketId)
      sql .commit
      redis d.apiRedis (.evalSafeIncr ticket.ticketTypeId)
      redis d.apiRedis (.hdel (toString ticketId)) : Async Unit).Only CountsNothing :=
    Program.Only.bind (Program.Only.call trivial) fun _ =>
      Program.Only.bind (Program.Only.call trivial) fun _ =>
        Program.Only.bind (Program.Only.call trivial) fun _ => Program.Only.call trivial
  rcases Program.Runs.bind_inv run with
    ⟨first, _, w₁, second, counts, ran, rfl⟩ | ⟨e, counts, _⟩
  · obtain ⟨choice, _, rfl⟩ := Program.Runs.call_inv counts
    intro e mem
    rcases List.mem_append.mp mem with mem | mem
    · rw [List.mem_singleton.mp mem]
      exact counted ..
    · exact deletesActive_of_countsNothing (rest.runs ran e mem)
  · obtain ⟨choice, _, rfl⟩ := Program.Runs.call_inv counts
    intro e mem
    rw [List.mem_singleton.mp mem]
    exact counted ..

/-- A deletion that does not find its caller's ticket `CANCELED` counts down an active ticket. -/
theorem deletesActive_of_live {ownerId ticketId : Int} {outcome : Except Exn Unit}
    (quiet : w.db.Quiet)
    (run : ((Operation.delete ownerId ticketId).program d).Runs exec () w events outcome w')
    (live : (w.db.tickets.row ticketId).all fun ticket =>
      ticket.ownerId ≠ ownerId ∨ ticket.Active) :
    ∀ e ∈ events, deletesActive (fun _ => .delete ownerId ticketId) e := by
  obtain ⟨first, middle, w₁, second, body, rfl, rest⟩ :=
    runs_getDb_inv (P := CountsNothing) trivial trivial run
  suffices counted : ∀ e ∈ first, deletesActive (fun _ => .delete ownerId ticketId) e by
    intro e mem
    rcases List.mem_append.mp mem with mem | mem
    · exact counted e mem
    · exact deletesActive_of_countsNothing (rest e mem)
  have only_select : (sql (.selectTicket ticketId ownerId)).Only CountsNothing :=
    Program.Only.call trivial
  rcases Program.Runs.bind_inv body with
    ⟨head, found, w₂, tail, selected, ran, rfl⟩ | ⟨_, ran, _⟩
  · have quietly := only_select.runs selected
    obtain ⟨choice, executed, rfl⟩ := Program.Runs.call_inv selected
    rcases exec_cases executed with ⟨_, _, _, failed, _⟩ | executed
    · cases failed
    obtain ⟨db', done, rfl⟩ := Cmd.run_db executed
    obtain ⟨answered, rfl⟩ := DbCmd.run_selectTicket done
    intro e mem
    rcases List.mem_append.mp mem with early | late
    · exact deletesActive_of_countsNothing (quietly e early)
    cases found with
    | none =>
        cases ran
        exact (List.not_mem_nil late).elim
    | some ticket =>
        obtain ⟨read, owned⟩ := DbCmd.selectTicket_some (Except.ok.inj answered).symm
        have stored := version_of_quiet quiet.1 (version_of_read read)
        have active : ticket.Active := by
          rw [stored] at live
          exact (of_decide_eq_true live).resolve_left fun other => other owned
        rcases Program.Runs.tryCatch_inv ran with
          ⟨removes, raised, w₃, handles, removed, handled, rfl⟩ | ⟨_, removed, _⟩
        · rcases List.mem_append.mp late with early | late
          · exact deletesActive_remove stored active removed e early
          · exact deletesActive_of_countsNothing
              ((only_rollbackOnSQLAlchemyError trivial raised).runs handled e late)
        · exact deletesActive_remove stored active removed e late
  · exact fun e mem => deletesActive_of_countsNothing (only_select.runs ran e mem)

/-- An operation on tickets keeps the books in order, if a deletion counts down an active ticket. -/
theorem Sound.onTickets {op : Operation} {outcome : Except Exn Unit} (h : Sound w.db)
    (onTickets : OnTickets op) (run : (op.program d).Runs exec () w events outcome w')
    (guarded : ∀ e ∈ events, deletesActive (fun _ => op) e) :
    Sound w'.db ∧ ∀ e ∈ events, ¬ Aborted e := by
  have follows := follows_program (B := ⟨fun _ => op, w.db⟩) (t := ()) (d := d) onTickets
  obtain ⟨g', inv, owes⟩ :=
    follows.runs (Inv.start h.quiet h.inOrder.foreignKeys) rfl run guarded
  have ended : Function.update (fun _ : Unit => Session.idle false) () g' () =
      Session.idle g'.committed := by
    rw [Function.update_self]
    exact owes.ended
  have tickets := inv.tickets ()
  have types := inv.types ()
  rw [ended] at tickets types
  refine ⟨⟨⟨quiet_of_holds tickets, quiet_of_holds types⟩,
    ⟨fun id ticket stored => ?_, ?_⟩⟩, ?_⟩
  · exact inv.typed.foreignKey id ticket (.inl stored)
  · exact inv.balanced.ledgered h.inOrder.ledgered
  · exact inv.unaborted h.inOrder.ledgered

end OnTickets

/-! ## One call -/

variable {d : Deployment} {w w' : World Unit}

/-- An operation on ticket types keeps the books in order. -/
theorem Sound.onTypes {op : Operation} {events : List (CallEvent Unit)}
    {outcome : Except Exn Unit} (h : Sound w.db) (onTypes : OnTypes op)
    (run : (op.program d).Runs exec () w events outcome w') :
    Sound w'.db ∧ ∀ e ∈ events, ¬ Aborted e := by
  have follows := follows_typeProgram (d := d) onTypes
  have start : typeDiscipline.inv [] w fun _ => false :=
    ⟨.of_quiet h.quiet.1 h.quiet.2 h.inOrder, fun _ mem => (List.not_mem_nil mem).elim⟩
  obtain ⟨pending, ⟨session, unaborted⟩, ended⟩ :=
    follows.runs start rfl run fun _ _ => trivial
  rw [Function.update_self] at session
  exact ⟨⟨⟨session.tickets, session.types ended⟩, session.inOrder⟩, unaborted⟩

/-- Every finished call keeps the books in order, if it does not delete a `CANCELED` ticket. -/
theorem Sound.call {call : FinishedCall} (h : Sound call.before.db)
    (run : (call.label.program d).Runs exec () call.before call.events call.outcome w')
    (live : deletesLive call) : Sound w'.db ∧ ∀ e ∈ call.events, ¬ Aborted e := by
  obtain ⟨op, before, events, outcome⟩ := call
  cases op with
  | createType eventId typeData | updateType id updateData | deleteType id =>
      exact h.onTypes (by exact trivial) run
  | delete ownerId ticketId =>
      exact h.onTickets (by exact trivial) run (deletesActive_of_live h.quiet run live)
  | create userId ticketData | payForTicket ticketId ownerId | releaseUnpaidTicket ticketId
  | reconcileHungTickets | reconcileRedisOrphans =>
      exact h.onTickets (by exact trivial) run fun e _ => deletesActive_of_no_deletes nofun e

/-- **From empty tables, sequential operations keep the books in order.** -/
theorem ledgered_of_history {calls : List FinishedCall} (empty : w.db.Empty)
    (history : History d w calls w') (live : ∀ call ∈ calls, deletesLive call) :
    w'.db.Ledgered ∧
      (∀ id row, w'.db.ticketTypes.row id = some row →
        w'.db.activeTickets id ≤ row.ticketsQuantity) ∧
      ∀ call ∈ calls, ∀ e ∈ call.events, ¬ Aborted e := by
  obtain ⟨sound, unaborted⟩ := history.keeps (I := fun w => Sound w.db)
    (P := fun call => deletesLive call) (Q := fun call => ∀ e ∈ call.events, ¬ Aborted e)
    empty.sound live fun _ _ sound live run => sound.call run live
  exact ⟨sound.inOrder.ledgered, fun id row stored => sound.inOrder.ledgered.not_oversold stored,
    unaborted⟩

/-! ## Histories from empty tables -/

/-- A user and an event, and nothing else. -/
def openingDay : World Unit where
  db :=
    { tickets := .ofList []
      ticketTypes := .ofList []
      users := {1}
      events := .ofList [exampleEvent] }
  redis _ := .empty
  jobs := []

theorem openingDay_empty : openingDay.db.Empty where
  quiet := by decide
  tickets _ := row_none_of_not_issued (by show ¬ (1 ≤ _ ∧ _ ≤ ((0 : Nat) : Int)); omega)
  ticketTypes _ := row_none_of_not_issued (by show ¬ (1 ≤ _ ∧ _ ≤ ((0 : Nat) : Int)); omega)

/-- The event's ticket type, of three tickets. -/
def standardType : TicketTypeCreate :=
  ⟨"standard", 100, 3, by decide, (exampleType 3 0).check_ticket_price, by decide⟩

/-- A ticket of that type. -/
def standardTicket : TicketCreate := ⟨1, Int.one_pos⟩

/-- One ticket is paid for, one runs out, and one is deleted. -/
theorem ledgered_of_history_opening_day :
    ∃ calls w', History shippedSettings.deployment openingDay calls w' ∧
      (∀ call ∈ calls, call.outcome = .ok ()) ∧ calls.length = 7 ∧ w'.db.Ledgered ∧
      (∀ id row, w'.db.ticketTypes.row id = some row →
        w'.db.activeTickets id ≤ row.ticketsQuantity) ∧
      ∀ call ∈ calls, ∀ e ∈ call.events, ¬ Aborted e := by
  have found : (Serial.play exec () (Operation.program shippedSettings.deployment)
      ([.createType 1 standardType, .create 1 standardTicket, .payForTicket 1 1,
        .create 1 standardTicket, .releaseUnpaidTicket 2, .create 1 standardTicket, .delete 1 3].map
        fun op => (op, fun _ => {}))
      openingDay).any (fun r => r.1.all deletesLive &&
        (r.1.all fun call => call.outcome = .ok ()) && decide (r.1.length = 7)) = true := by
    decide
  obtain ⟨calls, w', history, holds⟩ := exists_serial_of_play
    (P := fun (calls : List FinishedCall) _ => calls.all deletesLive &&
      (calls.all fun call => call.outcome = .ok ()) && decide (calls.length = 7)) found
  rw [Bool.and_eq_true, Bool.and_eq_true, List.all_eq_true, List.all_eq_true] at holds
  obtain ⟨⟨live, returned⟩, length⟩ := holds
  exact ⟨calls, w', history, fun call mem => of_decide_eq_true (returned call mem),
    of_decide_eq_true length, ledgered_of_history openingDay_empty history live⟩

/-- Two tickets are booked, the first runs out, and its owner deletes it: the count falls to zero
while the second ticket is still `RESERVED`. -/
theorem delete_of_canceled_breaks_ledger :
    ∃ calls w', History shippedSettings.deployment openingDay calls w' ∧ openingDay.db.Empty ∧
      (∀ call ∈ calls, call.outcome = .ok ()) ∧ ¬ w'.db.Ledgered := by
  have found : (Serial.play exec () (Operation.program shippedSettings.deployment)
      ([.createType 1 standardType, .create 1 standardTicket, .create 1 standardTicket,
        .releaseUnpaidTicket 1, .delete 1 1].map fun op => (op,
            fun _ => {})) openingDay).any (fun r =>
          (r.1.all fun call => call.outcome = .ok ()) && !decide r.2.db.Ledgered) = true := by
    decide
  obtain ⟨calls, w', history, holds⟩ := exists_serial_of_play
    (P := fun (calls : List FinishedCall) w' => (calls.all fun call => call.outcome = .ok ()) &&
      !decide w'.db.Ledgered) found
  rw [Bool.and_eq_true, List.all_eq_true, Bool.not_eq_true'] at holds
  obtain ⟨returned, broken⟩ := holds
  exact ⟨calls, w', history, openingDay_empty,
    fun call mem => of_decide_eq_true (returned call mem), of_decide_eq_false broken⟩

end TicketCore
