import TicketCore.CommitOrder
import TicketCore.CommitOrder.Ledger
import TicketCore.Overselling

/-!
# The drift of the ledger

`drift_of_run`: whatever runs, in any interleaving, whichever awaited calls fail, the number of
active tickets of a type is its `tickets_sold`, with the difference of the beginning, and one more
for each `DELETE` that has been committed when its ticket was canceled already or had gone. Nothing
else changes the difference.
-/

namespace TicketCore

open Interleave RowStore CommitOrder

variable {ι : Type} [DecidableEq ι] {d : Deployment} {acts : ι → Activity} {w : World ι}
  {events : List (CallEvent ι)} {c : Config ι (World ι) Cmd Cmd.Resp Exn Unit}

/-- The foreign keys hold before each call. -/
theorem references_of_event (opening : Opening d w)
    (run : Config.Run exec (Activity.config d acts w) events c) {e : CallEvent ι}
    (mem : e ∈ events) :
    e.before.db.References := by
  obtain ⟨before, later, rfl⟩ := List.append_of_mem mem
  rw [List.append_cons] at run
  obtain ⟨_, first, _⟩ := run.split
  obtain ⟨c₁, first, step⟩ := first.snoc_inv
  obtain ⟨_, inv, _⟩ := inv_of_run opening first
  cases step
  exact inv.references

/-- **The ledger, to the ticket.** -/
theorem drift_of_run (opening : Opening d w)
    (run : Config.Run exec (Activity.config d acts w) events c) :
    ∃ commits, commits.Sublist events ∧
      Order d acts w.db.office events commits c.shared.db.office ∧
      ∀ id row, c.shared.db.ticketTypes.row id = some row → c.shared.db.activeTickets id =
        row.ticketsSold + w.db.drift id + commits.countP (Overdraws acts id) := by
  obtain ⟨_, inv, _⟩ := inv_of_run opening run
  obtain ⟨commits, order, _⟩ := inv.order
  refine ⟨commits, order.sublist, order, fun id row stored => ?_⟩
  have drift := drift_of_order order
    (fun e mem => references_of_event opening run (order.sublist.subset mem)) rfl
    (by rw [stored]; rfl)
  rw [drift_of_row stored] at drift
  omega

/-! ## Two deletions of one ticket -/

theorem twoReserved_opening : Opening sharedRedis twoReserved where
  calm := ⟨by decide, by decide⟩
  references := by decide
  keys id key := by cases key

/-- The second deletion has read the ticket before the first one is committed: there is one ticket
left, and none is sold. -/
theorem drift_of_two_deletions :
    ∃ (events : List (CallEvent (Fin 2)))
      (c : Config (Fin 2) (World (Fin 2)) Cmd Cmd.Resp Exn Unit),
      Config.Run exec (Activity.config sharedRedis (fun _ => .operation (.delete 1 1)) twoReserved)
        events c ∧
      (c.shared.db.ticketTypes.row 1).map (·.ticketsSold) = some 0 ∧
      c.shared.db.activeTickets 1 = 1 ∧
      ∃ commits : List (CallEvent (Fin 2)), commits.Sublist events ∧
        commits.countP (Overdraws (fun _ => .operation (.delete 1 1)) 1) = 1 := by
  have found :
      ((Activity.config sharedRedis (fun _ => .operation (.delete 1 1)) twoReserved).replay exec
      (([0, 1, 0, 0, 0, 0, 0, 0, 1, 1, 1, 1, 1, 1] : List (Fin 2)).map fun t => (t, {}))).any
          (fun r =>
        decide ((r.2.shared.db.ticketTypes.row 1).map (·.ticketsSold) = some 0 ∧
          r.2.shared.db.activeTickets 1 = 1)) = true := by
    decide
  obtain ⟨events, c, run, holds⟩ := Config.exists_run_of_replay
    (P := fun (_ : List (CallEvent (Fin 2))) c =>
      decide ((c.shared.db.ticketTypes.row 1).map (·.ticketsSold) = some 0 ∧
        c.shared.db.activeTickets 1 = 1)) found
  obtain ⟨sold, active⟩ := of_decide_eq_true holds
  obtain ⟨commits, within, _, ledger⟩ := drift_of_run twoReserved_opening run
  refine ⟨events, c, run, sold, active, commits, within, ?_⟩
  obtain ⟨row, stored, none⟩ := Option.map_eq_some_iff.mp sold
  have ledger := ledger 1 row stored
  have start : twoReserved.db.drift 1 = 0 := by decide
  rw [active, none, start] at ledger
  omega

end TicketCore
