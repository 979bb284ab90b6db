import TicketCore.Booking.Runs
import Mathlib.Data.Fin.VecNotation

/-!
# No overselling

Bookings, deletions, payments and the worker's tasks run concurrently, from a database whose books
are in order.

* `ledgered_of_run`: the books stay in order, and so nothing is oversold, in every run in which a
  deletion counts its ticket down only while the ticket is still committed and active.
* `double_delete_breaks_ledger`: a deletion reads its ticket without a lock and does not look at it
  again, so two deletions of one ticket can both count it down.
-/

namespace TicketCore

open Interleave RowStore Booking

variable {ι : Type} [DecidableEq ι]

/-- **Concurrent operations on tickets keep the books in order.** -/
theorem ledgered_of_run {ops : ι → Operation} {d : Deployment} {w : World ι}
    {events : List (CallEvent ι)} {c : Config ι (World ι) Cmd Cmd.Resp Exn Unit}
    (onTickets : ∀ t, OnTickets (ops t)) (quiet : w.db.Quiet) (keys : w.db.ForeignKeys)
    (ledgered : w.db.Ledgered) (run : Config.Run exec (config ops d w) events c)
    (guarded : ∀ e ∈ events, deletesActive ops e) :
    c.shared.db.Ledgered ∧ ∀ id row, c.shared.db.ticketTypes.row id = some row →
      c.shared.db.activeTickets id ≤ row.ticketsQuantity := by
  obtain ⟨ghost, inv, _⟩ := holds_run onTickets quiet keys run guarded
  have kept := inv.balanced.ledgered ledgered
  exact ⟨kept, fun id row stored => kept.not_oversold stored⟩

/-! ## Two deletions of one ticket -/

/-- Every `SELECT` of a deletion returned a ticket in status `RESERVED`. -/
def selectedReserved (e : CallEvent ι) : Bool :=
  match e with
  | ⟨_, .db (.selectTicket _ _), _, .ok (some ticket), _, _⟩ => ticket.status = .reserved
  | ⟨_, .db (.selectTicket _ _), _, _, _, _⟩ => false
  | _ => true

/-- One ticket type of five tickets, two of which a user has reserved. -/
def twoReserved : World (Fin 2) where
  db :=
    { tickets := .ofList [⟨1, 1, .reserved, 0⟩, ⟨1, 1, .reserved, 0⟩]
      ticketTypes := .ofList [exampleType 5 2]
      users := {1}
      events := .ofList [exampleEvent] }
  redis _ := .empty
  jobs := []

/-- Two tickets of one type are deleted at the same time: the second deletion waits for the row of
the type until the first one has committed. -/
theorem ledgered_of_two_deletions :
    ∃ (events : List (CallEvent (Fin 2)))
      (c : Config (Fin 2) (World (Fin 2)) Cmd Cmd.Resp Exn Unit),
      Config.Run exec (config ![.delete 1 1, .delete 1 2] shippedSettings.deployment twoReserved)
        events c ∧
      (∀ t, c.Finished t (.ok ())) ∧ c.shared.db.Ledgered ∧
      ∀ id row, c.shared.db.ticketTypes.row id = some row →
        c.shared.db.activeTickets id ≤ row.ticketsQuantity := by
  have found : ((config ![.delete 1 1, .delete 1 2] shippedSettings.deployment
      twoReserved).replay exec ([0, 1, 0, 0, 0, 1, 0, 1, 0, 1, 0, 1, 1, 1].map
        fun t => (t, {}))).any
        (fun r => r.1.all (deletesActive ![.delete 1 1, .delete 1 2]) &&
          decide (∀ t, r.2.result t = some (.ok ()))) = true := by
    decide
  obtain ⟨events, c, run, holds⟩ := Config.exists_run_of_replay
    (P := fun events c => events.all (deletesActive ![.delete 1 1, .delete 1 2]) &&
      decide (∀ t, c.result t = some (.ok ()))) found
  rw [Bool.and_eq_true, List.all_eq_true] at holds
  obtain ⟨guarded, ended⟩ := holds
  have onTickets : ∀ t : Fin 2,
      OnTickets ((![.delete 1 1, .delete 1 2] : Fin 2 → Operation) t) :=
    Fin.forall_fin_two.mpr ⟨trivial, trivial⟩
  exact ⟨events, c, run, fun t => Config.finished_of_result (of_decide_eq_true ended t),
    ledgered_of_run onTickets (by decide) (by decide) (by decide) run guarded⟩

/-- Two deletions of one ticket, which both read it before either of them has counted it down. -/
theorem double_delete_breaks_ledger :
    ∃ (ops : Fin 2 → Operation) (w : World (Fin 2)) (events : List (CallEvent (Fin 2)))
      (c : Config (Fin 2) (World (Fin 2)) Cmd Cmd.Resp Exn Unit),
      (∀ t, OnTickets (ops t)) ∧ w.db.Quiet ∧ w.db.ForeignKeys ∧ w.db.Ledgered ∧
      Config.Run exec (config ops shippedSettings.deployment w) events c ∧
      (∀ e ∈ events, selectedReserved e) ∧ c.shared.db.Quiet ∧ ¬ c.shared.db.Ledgered := by
  have found : ((config (fun _ => .delete 1 1) shippedSettings.deployment twoReserved).replay exec
      ([0, 1, 0, 0, 0, 0, 0, 0, 1, 1, 1, 1, 1, 1].map fun t => (t, {}))).any (fun r =>
        r.1.all selectedReserved && (decide r.2.shared.db.Quiet &&
          !decide r.2.shared.db.Ledgered)) = true := by
    decide
  obtain ⟨events, c, run, holds⟩ := Config.exists_run_of_replay
    (P := fun events c => events.all selectedReserved && (decide c.shared.db.Quiet &&
      !decide c.shared.db.Ledgered)) found
  rw [Bool.and_eq_true, Bool.and_eq_true, List.all_eq_true] at holds
  obtain ⟨selected, quiet, broken⟩ := holds
  refine ⟨fun _ => .delete 1 1, twoReserved, events, c, fun _ => trivial, by decide, by decide,
    by decide, run, selected, of_decide_eq_true quiet, ?_⟩
  rw [Bool.not_eq_true'] at broken
  exact of_decide_eq_false broken

end TicketCore
