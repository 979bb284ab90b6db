import TicketCore.Booking.Runs
import TicketCore.Columns
import TicketCore.Counter.Newcomer
import Mathlib.Data.Fin.VecNotation
import Mathlib.Tactic.FinCases

/-!
# The counter after a change of the capacity

A change of the quantity commits the row, reads it again and sets the counter to what it has left. A
booking that has taken its slot by then, and has not committed its sale before the row was read, is
lost to the counter, and a slot that has been given back in between is counted twice.

* `capacity_change_exact`: when the `SET` moves the counter by the change of the quantity, the
  counter shows in the end what the row has left.
-/

namespace TicketCore

open Interleave RowStore Counter

variable {ι : Type} [DecidableEq ι]

/-- A `SET` of the counter moves it by what the quantity has changed since it was `before`. -/
def setsTheChange (d : Deployment) (ticketTypeId before : Int) (e : CallEvent ι) : Bool :=
  match e.cmd with
  | .redis n (.setInventory id value) =>
      !(n = d.apiRedis && id = ticketTypeId) ||
        ((e.before.redis d.apiRedis).inventory ticketTypeId).all fun k =>
          (e.before.db.ticketTypes.row ticketTypeId).all fun row =>
            value = k + (row.ticketsQuantity - before)
  | _ => true

omit [DecidableEq ι] in
theorem lands_of_setsTheChange {d : Deployment} {ticketTypeId before : Int} {updater : ι}
    {e : CallEvent ι} (h : setsTheChange d ticketTypeId before e) :
    (⟨d, ticketTypeId, some (updater, before)⟩ : Gauge ι).Lands e := by
  intro value same k row counter stored
  have found : (e.before.redis d.apiRedis).inventory ticketTypeId = some k := counter
  have stored : e.before.db.ticketTypes.row ticketTypeId = some row := stored
  unfold setsTheChange at h
  rw [same] at h
  simp only [decide_true, Bool.and_self, Bool.not_true, Bool.false_or, found, stored,
    Option.all_some, decide_eq_true_eq] at h
  exact h

/-- One call changes the type, and the others book tickets, or delete tickets that are there. -/
structure OneChange (ops : ι → Operation) (tickets : RowStore ι Ticket) (ticketTypeId : Int)
    (updater : ι) : Prop where
  changes : ∃ updateData, ops updater = .updateType ticketTypeId updateData
  others : ∀ t, t ≠ updater → (∃ userId ticketData, ops t = .create userId ticketData) ∨
    ∃ ownerId ticketId ticket, ops t = .delete ownerId ticketId ∧
      tickets.row ticketId = some ticket

namespace OneChange

variable {ops : ι → Operation} {tickets : RowStore ι Ticket} {ticketTypeId : Int}
  {updater t : ι}

theorem deals (h : OneChange ops tickets ticketTypeId updater) : Deals ticketTypeId (ops t) := by
  by_cases changes : t = updater
  · obtain ⟨updateData, same⟩ := h.changes
    rw [changes, same]
    exact rfl
  · rcases h.others t changes with
      ⟨userId, ticketData, same⟩ | ⟨ownerId, ticketId, _, same, _⟩
    · rw [same]
      trivial
    · rw [same]
      trivial

theorem old (h : OneChange ops tickets ticketTypeId updater) {ownerId ticketId : Int}
    (deletes : ops t = .delete ownerId ticketId) : ticketId ≤ tickets.issued := by
  by_cases changes : t = updater
  · obtain ⟨updateData, same⟩ := h.changes
    rw [changes, same] at deletes
    cases deletes
  · rcases h.others t changes with
      ⟨userId, ticketData, same⟩ | ⟨ownerId', id, ticket, same, stored⟩
    · rw [same] at deletes
      cases deletes
    · rw [same] at deletes
      cases deletes
      by_contra late
      rw [row_none_of_not_issued fun known => late known.2] at stored
      cases stored

/-- The drafts with which the calls begin. -/
theorem first (h : OneChange ops tickets ticketTypeId updater) :
    (t = updater ∧ Draft.first ticketTypeId (ops t) = .change .loaded) ∨
      t ≠ updater ∧ ∃ plan, (plan = .fresh ∨ plan = .returning) ∧
        Draft.first ticketTypeId (ops t) = .ticket 0 0 plan := by
  by_cases changes : t = updater
  · obtain ⟨updateData, same⟩ := h.changes
    exact .inl ⟨changes, by rw [changes, same]; rfl⟩
  · refine .inr ⟨changes, ?_⟩
    rcases h.others t changes with
      ⟨userId, ticketData, same⟩ | ⟨ownerId, ticketId, _, same, _⟩
    · rw [same]
      by_cases books : ticketData.ticketTypeId = ticketTypeId
      · exact ⟨.fresh, .inl rfl, if_pos books⟩
      · exact ⟨.returning, .inr rfl, if_neg books⟩
    · rw [same]
      exact ⟨.returning, .inr rfl, rfl⟩

end OneChange

section Runs

variable [Fintype ι] {d : Deployment} {w : World ι} {ticketTypeId : Int} {updater : ι}
  {ops : ι → Operation} {row : TicketType}

/-- The counter is in balance before the calls begin. -/
theorem Counter.Gauge.Inv.start (quiet : w.db.Quiet)
    (stored : w.db.ticketTypes.row ticketTypeId = some row)
    (counted : (w.redis d.apiRedis).inventory ticketTypeId =
      some (row.ticketsQuantity - row.ticketsSold))
    (one : OneChange ops w.db.tickets ticketTypeId updater) :
    (⟨d, ticketTypeId, some (updater, row.ticketsQuantity)⟩ : Gauge ι).Inv w
      fun t => .first ticketTypeId (ops t) := by
  have loaded : Draft.first ticketTypeId (ops updater) = .change .loaded := by
    rcases one.first (t := updater) with ⟨_, same⟩ | ⟨other, _⟩
    · exact same
    · exact absurd rfl other
  have idle : ∀ t, (Draft.first ticketTypeId (ops t)).counted = 0 ∧
      (Draft.first ticketTypeId (ops t)).taken = 0 ∧
      ¬ (Draft.first ticketTypeId (ops t)).Flushed ∧
      ¬ (Draft.first ticketTypeId (ops t)).Cold := fun t => by
    rcases one.first (t := t) with ⟨_, same⟩ | ⟨_, plan, rfl | rfl, same⟩
    · rw [same]
      exact ⟨rfl, rfl, not_false, not_false⟩
    · rw [same]
      exact ⟨rfl, rfl, not_false, not_false⟩
    · rw [same]
      exact ⟨rfl, rfl, not_false, not_false⟩
  refine ⟨⟨row, stored, ⟨fun k shown => ?_, fun missing => ?_⟩,
    fun u before revised _ => ?_⟩,
    fun t => .of_free (heldBy_of_quiet quiet.2) (idle t).1 (idle t).2.2.1, fun t => ?_,
    fun t cold => absurd cold (idle t).2.2.2⟩
  · have shown : (w.redis d.apiRedis).inventory ticketTypeId = some k := shown
    rw [counted] at shown
    cases shown
    have nothing : tally Draft.taken (fun t => Draft.first ticketTypeId (ops t)) = 0 :=
      Finset.sum_eq_zero fun t _ => (idle t).2.1
    show row.ticketsQuantity - row.ticketsSold + _ =
      (Draft.first ticketTypeId (ops updater)).goesBy row.ticketsQuantity row.ticketsQuantity -
        row.ticketsSold
    rw [nothing, loaded, add_zero]
    rfl
  · have missing : (w.redis d.apiRedis).inventory ticketTypeId = none := missing
    rw [counted] at missing
    cases missing
  · cases revised
    rfl
  · rcases one.first (t := t) with ⟨rfl, same⟩ | ⟨other, plan, _, same⟩
    · rw [same]
      exact iff_of_true trivial ⟨_, rfl⟩
    · rw [same]
      refine iff_of_false not_false fun revised => ?_
      obtain ⟨_, revised⟩ := revised
      cases revised
      exact other rfl

variable {events : List (CallEvent ι)} {c : Config ι (World ι) Cmd Cmd.Resp Exn Unit}

/-- **A change of the capacity leaves an exact counter**, when its `SET` moves the counter by the
change of the quantity. -/
theorem capacity_change_exact (quiet : w.db.Quiet)
    (stored : w.db.ticketTypes.row ticketTypeId = some row)
    (counted : (w.redis d.apiRedis).inventory ticketTypeId =
      some (row.ticketsQuantity - row.ticketsSold))
    (one : OneChange ops w.db.tickets ticketTypeId updater)
    (run : Config.Run exec (Booking.config ops d w) events c)
    (clean : ∀ e ∈ events, e.choice.fault = none)
    (lands : ∀ e ∈ events, setsTheChange d ticketTypeId row.ticketsQuantity e)
    (finished : ∀ t, ∃ outcome, c.Finished t outcome) :
    ∃ row', c.shared.db.ticketTypes.row ticketTypeId = some row' ∧
      (c.shared.redis d.apiRedis).inventory ticketTypeId =
        some (row'.ticketsQuantity - row'.ticketsSold) := by
  let a : Gauge ι := ⟨d, ticketTypeId, some (updater, row.ticketsQuantity)⟩
  have rereads := rereads_of_run (fun t => one.deals) quiet.1 (fun t _ _ => one.old) run
  have holds : a.discipline.Holds exec (fun _ _ g => g.Settled) [] (Booking.config ops d w) :=
    ⟨fun t => .first ticketTypeId (ops t), .start quiet stored counted one, fun t =>
      follows_operation Gauge.governs one.deals⟩
  obtain ⟨ghost, inv, follows⟩ := holds.run run fun e mem =>
    ⟨clean e mem, lands_of_setsTheChange (lands e mem), rereads e mem⟩
  have inv : a.Inv c.shared ghost := inv
  have settled : ∀ t, (ghost t).Settled := fun t => by
    obtain ⟨outcome, ended⟩ := finished t
    exact Discipline.Holds.post_of_finished follows ended
  obtain ⟨row', stored', shows⟩ := inv.settled settled
  obtain ⟨k, counter⟩ := Option.isSome_iff_exists.mp (inv.present (settled updater))
  exact ⟨row', stored', counter.trans (congrArg some (shows k counter))⟩

end Runs

/-- Five tickets, one of them reserved, and the counter of the other four. -/
def fourLeft : World (Fin 3) where
  db :=
    { tickets := .ofList [⟨1, 1, .reserved, 0⟩]
      ticketTypes := .ofList [exampleType 5 1]
      users := {1, 2}
      events := .ofList [exampleEvent] }
  redis _ := { RedisDb.empty with inventory := Function.update RedisDb.empty.inventory 1 (some 4) }
  jobs := []

/-- The capacity is changed to seven, next to a booking and a deletion. -/
def sevenSeats : Fin 3 → Operation :=
  ![.updateType 1 (quantityOnly 7 (by decide)), .create 2 ⟨1, Int.one_pos⟩, .delete 1 1]

theorem oneChange_sevenSeats : OneChange sevenSeats fourLeft.db.tickets 1 0 where
  changes := ⟨_, rfl⟩
  others t other := by
    fin_cases t
    · exact absurd rfl other
    · exact .inl ⟨_, _, rfl⟩
    · exact .inr ⟨_, _, _, rfl, rfl⟩

/-- The deletion is committed between the refresh and the `SET`, and gives its slot back after
it. -/
theorem capacity_change_exact_of_sevenSeats :
    ∃ (events : List (CallEvent (Fin 3)))
      (c : Config (Fin 3) (World (Fin 3)) Cmd Cmd.Resp Exn Unit),
      Config.Run exec (Booking.config sevenSeats sharedRedis fourLeft) events c ∧
      (∀ t, c.result t = some (.ok ())) ∧
      ∃ row', c.shared.db.ticketTypes.row 1 = some row' ∧
        (c.shared.redis 0).inventory 1 = some (row'.ticketsQuantity - row'.ticketsSold) := by
  have found : ((Booking.config sevenSeats sharedRedis fourLeft).replay exec
      (([0, 0, 0, 0, 2, 2, 2, 2, 0, 2, 2, 2, 0, 0, 0, 1, 1, 1, 1, 1, 1, 1, 1, 1] :
        List (Fin 3)).map fun t => (t, {}))).any (fun r =>
          (r.1.all fun e => decide (e.choice.fault = none) && setsTheChange sharedRedis 1 5 e) &&
            decide (∀ t, r.2.result t = some (.ok ()))) = true := by
    decide
  obtain ⟨events, c, run, holds⟩ := Config.exists_run_of_replay
    (P := fun events c => (events.all fun e : CallEvent (Fin 3) => decide (e.choice.fault = none) &&
        setsTheChange sharedRedis 1 5 e) && decide (∀ t, c.result t = some (.ok ()))) found
  simp only [Bool.and_eq_true, List.all_eq_true, decide_eq_true_eq] at holds
  obtain ⟨each, returned⟩ := holds
  have stored : fourLeft.db.ticketTypes.row 1 = some (exampleType 5 1) := rfl
  refine ⟨events, c, run, returned, ?_⟩
  exact capacity_change_exact ⟨by decide, by decide⟩ stored rfl
    oneChange_sevenSeats run (fun e mem => (each e mem).1) (fun e mem => (each e mem).2)
    fun t => ⟨_, Config.finished_of_result (returned t)⟩

/-- The booking comes between the refresh and the `SET`: the counter offers a slot that is sold. -/
theorem capacity_change_off :
    ∃ (events : List (CallEvent (Fin 3)))
      (c : Config (Fin 3) (World (Fin 3)) Cmd Cmd.Resp Exn Unit),
      Config.Run exec (Booking.config sevenSeats sharedRedis fourLeft) events c ∧
      (∀ e ∈ events, e.choice.fault = none) ∧ (∀ t, c.result t = some (.ok ())) ∧
      (c.shared.redis 0).inventory 1 = some 7 ∧
      ∃ row', c.shared.db.ticketTypes.row 1 = some row' ∧
        row'.ticketsQuantity - row'.ticketsSold = 6 := by
  have found : ((Booking.config sevenSeats sharedRedis fourLeft).replay exec
      (([0, 0, 0, 0, 1, 1, 1, 1, 1, 1, 1, 1, 1, 0, 0, 0, 0, 2, 2, 2, 2, 2, 2, 2] :
        List (Fin 3)).map fun t => (t, {}))).any (fun r =>
          (r.1.all fun e => decide (e.choice.fault = none)) &&
            (decide (∀ t, r.2.result t = some (.ok ())) &&
            (decide ((r.2.shared.redis 0).inventory 1 = some 7) &&
            (r.2.shared.db.ticketTypes.row 1).any fun row =>
              row.ticketsQuantity - row.ticketsSold = 6))) = true := by
    decide
  obtain ⟨events, c, run, holds⟩ := Config.exists_run_of_replay
    (P := fun events c =>
      (events.all fun e : CallEvent (Fin 3) => decide (e.choice.fault = none)) &&
      (decide (∀ t, c.result t = some (.ok ())) &&
        (decide ((c.shared.redis 0).inventory 1 = some 7) &&
        (c.shared.db.ticketTypes.row 1).any fun row =>
          row.ticketsQuantity - row.ticketsSold = 6))) found
  simp only [Bool.and_eq_true, List.all_eq_true, decide_eq_true_eq] at holds
  obtain ⟨clean, returned, counter, spent⟩ := holds
  obtain ⟨row', stored, left⟩ := (Option.any_eq_true _ _).mp spent
  exact ⟨events, c, run, clean, returned, counter, row', stored, of_decide_eq_true left⟩

end TicketCore
