import TicketCore.Custody.Registry
import TicketCore.LifeCycle

/-!
# Paid tickets

A ticket that is paid for is `SOLD`, and nothing but a deletion touches it: a payment, a timeout and
the garbage collectors go by its status, and the database keeps its ticket type and its event.
`TicketService.delete` goes by the owner alone.

* `paid_for_good`: a ticket whose payment has returned stays `SOLD` to its owner for good, as long
  as no deletion executes its `DELETE` while the ticket is `SOLD`.
* `paid_and_deleted`: the owner deletes the ticket that was just paid for.
-/

namespace TicketCore

open Interleave RowStore Custody

variable {ι : Type} [DecidableEq ι]

/-- A `DELETE` of a ticket that is `SOLD`. -/
def DeletesSold (e : CallEvent ι) : Prop :=
  ∃ id ticket, e.cmd = .db (.deleteTicket id) ∧ (∃ a, e.answer = .ok a) ∧
    e.before.db.tickets.row id = some ticket ∧ ticket.status = .sold

/-- The ticket is `SOLD` to this owner, and no open transaction has changed it. -/
structure SoldTo (db : Database ι) (id ownerId : Int) (ticket : Ticket) : Prop where
  row : db.tickets.row id = some ticket
  sold : ticket.status = .sold
  owner : ticket.ownerId = ownerId
  locks : ∀ u version, db.tickets.heldBy u id = some version → version = some ticket

namespace SoldTo

variable {db : Database ι} {id ownerId : Int} {ticket : Ticket}

theorem read (h : SoldTo db id ownerId ticket) (t : ι) : db.tickets.read t id = some ticket := by
  cases held : db.tickets.heldBy t id with
  | none => rw [read_of_not_held held, h.row]
  | some version => rw [read_of_heldBy held, h.locks t version held]

theorem version (h : SoldTo db id ownerId ticket) {ticket' : Ticket}
    (version : db.tickets.Version id ticket') : ticket' = ticket := by
  rcases version with row | ⟨u, held⟩
  · rw [h.row] at row
    exact (Option.some.inj row).symm
  · exact Option.some.inj (h.locks u _ (heldBy_eq_some.mpr held))

theorem past (h : SoldTo db id ownerId ticket) : Past db id where
  known := db.tickets.row_issued id (by rw [h.row]; rfl)
  left ticket' version := by
    rw [h.version version, h.sold]
    nofun

end SoldTo

/-! ## What a call does to a paid ticket -/

namespace Custody

variable {d : Deployment} {id ownerId : Int} {t u : ι} {w w' : World ι}
  {g g' : Milestone} {cmd : Cmd} {choice : Choice} {answer : Except Exn cmd.Resp}

/-- A committed row stays, or is what the committing transaction reads. -/
theorem row_or_read (ran : exec t cmd choice w = some (answer, w')) :
    w'.db.tickets.row id = w.db.tickets.row id ∨
      w'.db.tickets.row id = w.db.tickets.read t id := by
  rcases exec_tickets ran with ⟨_, _, moves⟩ | same | same
  · rw [moves.row]
    exact .inl rfl
  · rw [same]
    exact .inr rfl
  · rw [same, rollback_row]
    exact .inl rfl

/-- Only a `DELETE` removes a ticket. -/
theorem Step.removal (step : Step d id g cmd answer g') (h : Coherent w.db t id g)
    (ran : exec t cmd choice w = some (answer, w'))
    (removed : w'.db.tickets.heldBy t id = some none) :
    w.db.tickets.heldBy t id = some none ∨
      cmd = .db (.deleteTicket id) ∧ ∃ a, answer = .ok a := by
  have next := (step.advance h ran).coherent
  have free : w'.db.tickets.heldBy t id ≠ none := by
    rw [removed]
    nofun
  cases step with
  | apart apart other _ =>
      have same := apart.same (fun a same => by cases same; exact other) ran
      exact .inl ((heldBy_congr same.held).symm.trans removed)
  | fail _ =>
      have same : SameTicket id w w' := .of_raised ran
      exact .inl ((heldBy_congr same.held).symm.trans removed)
  | remove => exact .inr ⟨rfl, _, rfl⟩
  | rolled ends | closed ends =>
      cases g with
      | away | seen | unborn _ | locked _ | spoiled | listed _ | due | doomed =>
          cases ends
          exact (free next).elim
      | kept _ =>
          cases ends
          exact (free next.1).elim
      | _ => cases ends
  | rest | book | miss | cancel | clear | pass | reap | list | suspect | judge | collect =>
      exact (free next).elim
  | see | sell | keep => exact (free next.1).elim
  | insert | stamp | enter =>
      obtain ⟨_, _, held, _⟩ := next
      rw [removed] at held
      cases held
  | lock =>
      have held := next.2
      rw [removed] at held
      cases held
  | refund | settle | pay =>
      have held := Reserved.version next
      rw [removed] at held
      cases held
  | sweep | credit =>
      obtain ⟨_, _, h⟩ := next
      have held := h.version
      rw [removed] at held
      cases held
  | vanish => exact (free next.1).elim

/-- The payment for this owner is committed. -/
def Milestone.Pays (ownerId : Int) : Milestone → Prop
  | paid owner | kept owner => owner = ownerId
  | _ => False

/-- A payment is committed by its `COMMIT`. -/
theorem Step.pays (step : Step d id g cmd answer g') (h : Coherent w.db t id g)
    (ran : exec t cmd choice w = some (answer, w')) (pays : g'.Pays ownerId) :
    g.Pays ownerId ∨ ∃ ticket, SoldTo w'.db id ownerId ticket := by
  cases step with
  | apart => exact .inl pays
  | keep => exact .inl pays
  | @sell ticket =>
      obtain ⟨row, free⟩ := row_of_commit ran h.version
      refine .inr ⟨ticket.withStatus .sold, row, rfl, pays, fun u version held => ?_⟩
      rw [heldBy_eq_some, free] at held
      cases held
  | fail _ =>
      cases g with
      | kept _ => exact .inl pays
      | _ => exact pays.elim
  | rolled ends | closed ends =>
      cases g with
      | kept _ =>
          cases ends
          exact .inl pays
      | away | seen | unborn _ | locked _ | spoiled | listed _ | due | doomed =>
          cases ends
          exact pays.elim
      | _ => cases ends
  | _ => exact pays.elim

/-- **A paid ticket stays as it is.** -/
theorem Step.soldTo {ticket : Ticket} (step : Step d id g cmd answer g') (h : Coherent w.db t id g)
    (ran : exec t cmd choice w = some (answer, w'))
    (spared : ¬ DeletesSold ⟨t, cmd, choice, answer, w, w'⟩)
    (sold : SoldTo w.db id ownerId ticket) :
    SoldTo w'.db id ownerId ticket := by
  refine ⟨?_, sold.sold, sold.owner, fun u version held => ?_⟩
  · rcases row_or_read ran with same | same
    · rw [same, sold.row]
    · rw [same, sold.read]
  · by_cases other : u = t
    · subst other
      cases version with
      | none =>
          rcases step.removal h ran held with before | ⟨same, executed⟩
          · exact sold.locks u none before
          · exact (spared ⟨id, ticket, same, executed, sold.row, sold.sold⟩).elim
      | some ticket' =>
          have version := (step.advance h ran).versions sold.past ticket'
            (.inr ⟨u, heldBy_eq_some.mp held⟩)
          rw [sold.version version]
    · rw [heldBy_other other ran] at held
      exact sold.locks u version held

/-- Every ticket whose payment is committed is `SOLD` to the one who paid. -/
theorem paid_kept : Kept d id (fun e : CallEvent ι => ¬ DeletesSold e) fun _ w ghost =>
    ∀ u ownerId, (ghost u).Pays ownerId → ∃ ticket, SoldTo w.db id ownerId ticket := by
  intro t events w ghost cmd choice answer w' g' coherent paid ran spared step u ownerId pays
  have stays : ∀ {v}, (ghost v).Pays ownerId → ∃ ticket, SoldTo w'.db id ownerId ticket :=
    fun pays => (paid _ _ pays).imp fun _ sold => step.soldTo (coherent t) ran spared sold
  by_cases same : u = t
  · subst same
    rw [Function.update_self] at pays
    exact (step.pays (coherent u) ran pays).elim stays fun sold => sold
  · rw [Function.update_of_ne same] at pays
    exact stays pays

end Custody

/-! ## A payment and what comes after -/

section Runs

variable {activities : ι → Activity} {d : Deployment} {w : World ι} {t : ι} {id ownerId : Int}
  {events events' : List (CallEvent ι)} {c c' : Config ι (World ι) Cmd Cmd.Resp Exn Unit}

/-- **A ticket that is paid for stays sold to its owner, as long as no `SOLD` ticket is
deleted.** -/
theorem paid_for_good (quiet : w.db.Quiet)
    (run : Config.Run exec ⟨w, fun t => (activities t).program d⟩ events c)
    (run' : Config.Run exec c events' c') (kept : ∀ e ∈ events ++ events', ¬ DeletesSold e)
    (pays : activities t = .operation (.payForTicket id ownerId)) (paid : c.Finished t (.ok ())) :
    ∃ ticket, c'.shared.db.tickets.row id = some ticket ∧ ticket.status = .sold ∧
      ticket.ownerId = ownerId := by
  have paid_kept : Kept d id (fun e : CallEvent ι => ¬ DeletesSold e) fun _ w ghost =>
      ∀ u ownerId, (ghost u).Pays ownerId → ∃ ticket, SoldTo w.db id ownerId ticket :=
        paid_kept
  obtain ⟨ghost, _, sold, ends, _⟩ := paid_kept.run activities quiet.1
    (fun _ _ pays => pays.elim) (run.append run') kept
  have ended := (ends t _ (run'.finished paid)).2 ownerId pays rfl
  obtain ⟨ticket, sold⟩ := sold t ownerId (by rw [ended]; exact rfl)
  exact ⟨ticket, sold.row, sold.sold, sold.owner⟩

end Runs

/-- A payment of the ticket, and a deletion of it by this user. -/
def payAndDelete (userId : Int) :
    Config (Fin 2) (World (Fin 2)) Cmd Cmd.Resp Exn Unit where
  shared := oneReserved
  threads t := Activity.program shippedSettings.deployment
    (![.operation (.payForTicket 1 1), .operation (.delete userId 1)] t)

/-- No `DELETE` is executed. -/
def deletesNothing (events : List (CallEvent (Fin 2))) : Bool :=
  events.all fun e => match e.cmd with
    | .db (.deleteTicket _) => false
    | _ => true

theorem not_deletesSold {events : List (CallEvent (Fin 2))} (nothing : deletesNothing events) :
    ∀ e ∈ events, ¬ DeletesSold e := by
  rintro e mem ⟨id, _, deletes, _⟩
  have spared := List.all_eq_true.mp nothing e mem
  rw [deletes] at spared
  cases spared

/-- The payment has returned, and the next `n` calls of the deletion end like this. -/
def paidThen (payment deletion : Fin 2) (n : Nat) (P : List (CallEvent (Fin 2)) →
    Config (Fin 2) (World (Fin 2)) Cmd Cmd.Resp Exn Unit → Bool) (events :
    List (CallEvent (Fin 2)))
    (c : Config (Fin 2) (World (Fin 2)) Cmd Cmd.Resp Exn Unit) : Bool :=
  deletesNothing events && (decide (c.result payment = some (.ok ())) &&
    (c.replay exec (List.replicate n (deletion, {}))).any fun r => P r.1 r.2)

/-- Somebody else tries to delete the ticket. -/
theorem paid_for_good_against_others :
    ∃ (events events' : List (CallEvent (Fin 2)))
      (c c' : Config (Fin 2) (World (Fin 2)) Cmd Cmd.Resp Exn Unit),
      Config.Run exec (payAndDelete 2) events c ∧ Config.Run exec c events' c' ∧
      c'.result 1 = some (.error ticketNotFound) ∧
      ∃ ticket, c'.shared.db.tickets.row 1 = some ticket ∧ ticket.status = .sold ∧
        ticket.ownerId = 1 := by
  have found : ((payAndDelete 2).replay exec (List.replicate 6 (0, {}))).any (fun r =>
      paidThen 0 1 3 (fun events c => deletesNothing events &&
        decide (c.result 1 = some (.error ticketNotFound))) r.1 r.2) = true := by
    decide
  obtain ⟨events, c, run, holds⟩ := Config.exists_run_of_replay (P := paidThen 0 1 3 _) found
  rw [paidThen, Bool.and_eq_true, Bool.and_eq_true] at holds
  obtain ⟨nothing, paid, next⟩ := holds
  obtain ⟨events', c', run', holds'⟩ := Config.exists_run_of_replay
    (P := fun events c => deletesNothing events &&
      decide (c.result 1 = some (.error ticketNotFound))) next
  rw [Bool.and_eq_true] at holds'
  obtain ⟨nothing', refused⟩ := holds'
  have spared : ∀ e ∈ events ++ events', ¬ DeletesSold e := fun e mem =>
    (List.mem_append.mp mem).elim (not_deletesSold nothing e) (not_deletesSold nothing' e)
  exact ⟨events, events', c, c', run, run', of_decide_eq_true refused,
    paid_for_good (t := 0) (by decide) run run' spared rfl
      (Config.finished_of_result (of_decide_eq_true paid))⟩

/-- The deletion has returned, and the ticket is gone. -/
def ticketDeleted (deletion : Fin 2) (c : Config (Fin 2) (World (Fin 2)) Cmd Cmd.Resp Exn Unit) :
    Bool :=
  decide (c.result deletion = some (.ok ())) && (c.shared.db.tickets.row 1).isNone

/-- The owner deletes the ticket. -/
theorem paid_and_deleted :
    ∃ (events events' : List (CallEvent (Fin 2)))
      (c c' : Config (Fin 2) (World (Fin 2)) Cmd Cmd.Resp Exn Unit),
      (payAndDelete 1).shared.db.Quiet ∧ Config.Run exec (payAndDelete 1) events c ∧
      Config.Run exec c events' c' ∧ c.Finished 0 (.ok ()) ∧ c'.Finished 1 (.ok ()) ∧
      c'.shared.db.tickets.row 1 = none := by
  have found : ((payAndDelete 1).replay exec (List.replicate 6 (0, {}))).any (fun r =>
      paidThen 0 1 7 (fun _ c => ticketDeleted 1 c) r.1 r.2) = true := by
    decide
  obtain ⟨events, c, run, holds⟩ := Config.exists_run_of_replay (P := paidThen 0 1 7 _) found
  rw [paidThen, Bool.and_eq_true, Bool.and_eq_true] at holds
  obtain ⟨_, paid, next⟩ := holds
  obtain ⟨events', c', run', holds'⟩ :=
    Config.exists_run_of_replay (P := fun _ c => ticketDeleted 1 c)
    next
  rw [ticketDeleted, Bool.and_eq_true] at holds'
  obtain ⟨deleted, absent⟩ := holds'
  exact ⟨events, events', c, c', by decide, run, run',
    Config.finished_of_result (of_decide_eq_true paid),
    Config.finished_of_result (of_decide_eq_true deleted), Option.isNone_iff_eq_none.mp absent⟩

end TicketCore
