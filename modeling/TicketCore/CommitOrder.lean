import TicketCore.CommitOrder.Activities
import TicketCore.Custody.Registry
import Mathlib.Data.Fin.VecNotation

/-!
# The order of commits

Everything that API and worker processes run, in any interleaving, whichever awaited calls fail.

* `order_of_commits`: what happens to the tables is one commit after another, each of them that of a
  request as the office would have it at that moment, and each request is committed at most once. A
  `PATCH` commits what differs from the row that its own call has loaded, the sweep the tickets that
  its own `UPDATE` has answered, and a deletion that comes too late the count of the type that its
  own call has read.
* `references_of_run`: the foreign keys hold in every state, and a call that is over has no row
  locked.
-/

namespace TicketCore

open Interleave RowStore CommitOrder

variable {ι : Type} [DecidableEq ι] {d : Deployment} {acts : ι → Activity} {w : World ι}
  {events : List (CallEvent ι)} {c : Config ι (World ι) Cmd Cmd.Resp Exn Unit} {t : ι}

/-- Threads that are each about to run their activity. -/
def Activity.config (d : Deployment) (acts : ι → Activity) (w : World ι) :
    Config ι (World ι) Cmd Cmd.Resp Exn Unit :=
  ⟨w, fun t => (acts t).program d⟩

/-- No transaction is open, the foreign keys hold, and every key of the inventory is that of a
ticket type that is or has been there. -/
structure Opening (d : Deployment) (w : World ι) : Prop where
  calm : w.db.Calm
  references : w.db.References
  keys : ∀ id, ((w.redis d.apiRedis).inventory id).isSome → id ≤ w.db.ticketTypes.issued

namespace CommitOrder

theorem Inv.start (opening : Opening d w) : Inv d acts w.db.office [] w fun _ => Pending.start where
  right t :=
    ⟨.of_quiet opening.calm.quiet.1, .of_quiet opening.calm.quiet.2,
      .of_quiet opening.calm.events,
    fun _ known => known.elim⟩
  integral := Database.integral_of_calm opening.calm opening.references
  references := opening.references
  keys id key := ⟨opening.keys id key, fun held => by
    rw [opening.calm.quiet.2 id] at held
    cases held⟩
  met := ⟨met_office, fun e mem => (List.not_mem_nil mem).elim⟩
  shown _ _ never := never.elim
  canceled _ _ := by
    rintro ⟨e, mem, _⟩
    exact (List.not_mem_nil mem).elim
  order := ⟨[], .open, fun t => by
    constructor
    · intro committed
      cases committed
    · rintro ⟨e, mem, _⟩
      exact (List.not_mem_nil mem).elim⟩

/-- What a run leaves of the discipline. -/
theorem inv_of_run (opening : Opening d w)
    (run : Config.Run exec (Activity.config d acts w) events c) :
    ∃ ghost, Inv d acts w.db.office events c.shared ghost ∧
      ∀ t outcome, c.Finished t outcome → Settled (acts t) outcome (ghost t) := by
  have holds : (discipline d acts w.db.office).Holds exec (fun t => Settled (acts t)) []
      (Activity.config d acts w) := ⟨_, Inv.start opening, fun t => follows_activity⟩
  obtain ⟨ghost, inv, follows⟩ := holds.run run fun _ _ => trivial
  exact ⟨ghost, inv, fun t outcome finished =>
    Discipline.Holds.post_of_finished follows finished⟩

end CommitOrder

/-- No call adds a user. -/
theorem users_of_exec {cmd : Cmd} {choice : Choice} {answer : Except Exn cmd.Resp} {w' : World ι}
    (ran : exec t cmd choice w = some (answer, w')) : w'.db.users = w.db.users := by
  rcases exec_cases ran with ⟨_, _, _, _, rfl⟩ | ran
  · rfl
  · cases cmd with
    | db statement =>
        obtain ⟨db', done, rfl⟩ := Cmd.run_db ran
        by_cases ends : statement.Ends
        · rcases DbCmd.Ends.run ends done with rfl | rfl
          · rfl
          · rfl
        · exact (DbCmd.moved ends done).users
    | redis n command =>
        obtain ⟨_, _, _, _, rfl⟩ := Cmd.run_redis ran
        rfl
    | enqueueJob job | now =>
        cases ran
        rfl
    | handler =>
        have done : (choice.outcome, w) = (answer, w') := Option.some.inj ran
        obtain ⟨_, rfl⟩ := Prod.mk.inj done
        rfl

theorem users_of_run {c' : Config ι (World ι) Cmd Cmd.Resp Exn Unit}
    (run : Config.Run exec c events c') :
    c'.shared.db.users = c.shared.db.users := by
  refine run.relates (R := fun w w' => w'.db.users = w.db.users) (fun _ => rfl) ?_
    fun e mem => users_of_exec (run.executed e mem)
  intro w₁ w₂ w₃ first second
  exact Eq.trans second first

/-- **The order of commits**: in any interleaving, whichever awaited calls fail, the tables change
by commits alone, each that of a request as the office would have it at that moment, on what its own
calls have been shown; no request is committed twice, and a booking, a payment, a ticket type or an
event that is put up is committed if its call returns. Nobody joins. -/
theorem order_of_commits (opening : Opening d w)
    (run : Config.Run exec (Activity.config d acts w) events c) :
    ∃ commits, commits.Sublist events ∧
      Order d acts w.db.office events commits c.shared.db.office ∧
      c.shared.db.users = w.db.users ∧
      ∀ t, MustCommit (acts t) → c.Finished t (.ok ()) → ∃ e ∈ commits, e.thread = t := by
  obtain ⟨ghost, inv, settled⟩ := inv_of_run opening run
  obtain ⟨commits, order, done⟩ := inv.order
  exact ⟨commits, order.sublist, order, users_of_run run, fun t must finished =>
    (done t).mp ((settled t _ finished).committed must rfl)⟩

/-- Transaction `t` has no row locked. -/
structure Database.Unlocked (db : Database ι) (t : ι) : Prop where
  tickets : ∀ id, db.tickets.heldBy t id = none
  ticketTypes : ∀ id, db.ticketTypes.heldBy t id = none
  events : ∀ id, db.events.heldBy t id = none

/-- **Integrity**: in any interleaving, whichever awaited calls fail, the foreign keys hold, a call
that is over has no row locked, and once all of them are over no transaction is open. -/
theorem references_of_run (opening : Opening d w)
    (run : Config.Run exec (Activity.config d acts w) events c) :
    c.shared.db.References ∧ (∀ t outcome, c.Finished t outcome → c.shared.db.Unlocked t) ∧
      ((∀ t, ∃ outcome, c.Finished t outcome) → Opening d c.shared) := by
  obtain ⟨ghost, inv, settled⟩ := inv_of_run opening run
  have unlocked : ∀ t outcome, c.Finished t outcome → c.shared.db.Unlocked t := by
    intro t outcome finished
    have right := inv.right t
    obtain ⟨tickets, types, events⟩ := (settled t outcome finished).free
    refine ⟨fun id => ?_, fun id => ?_, fun id => ?_⟩
    · rw [right.tickets.version, tickets]
      rfl
    · rw [right.types.version, types]
      rfl
    · rw [right.events.version, events]
      rfl
  refine ⟨inv.references, unlocked, fun ended => ?_⟩
  have all : ∀ t, c.shared.db.Unlocked t := fun t => by
    obtain ⟨outcome, finished⟩ := ended t
    exact unlocked t outcome finished
  exact
    { calm :=
        ⟨⟨quiet_of_unlocked fun t => (all t).tickets,
          quiet_of_unlocked fun t => (all t).ticketTypes⟩,
          quiet_of_unlocked fun t => (all t).events⟩
      references := inv.references
      keys := fun id key => (inv.keys id key).issued }

/-! ## A ticket that is paid for in time -/

omit [DecidableEq ι] in
theorem saleDay_opening : Opening sharedRedis (saleDay : World ι) where
  calm := ⟨⟨fun _ => rfl, fun _ => rfl⟩, fun _ => rfl⟩
  references := by
    have alone : (saleDay : World Unit).db.References := by decide
    exact ⟨alone.ticketTypes, alone.owners, alone.events⟩
  keys id key := by
    have key : (if id = 1 then some 3 else none : Option Int).isSome := key
    by_cases same : id = 1
    · subst same
      exact Int.le_refl 1
    · rw [if_neg same] at key
      cases key

/-- A booking, a payment for the ticket, and the timeout of the ticket. -/
def lastMinute : Fin 3 → Activity :=
  ![.operation (.create 1 ⟨1, Int.one_pos⟩), .operation (.payForTicket 1 1),
    .operation (.releaseUnpaidTicket 1)]

/-- The payment locks the ticket before the booking looks at it again; the booking cannot queue the
timeout, so it raises after its commit; and the timeout comes after the payment. -/
theorem lastMinute_run :
    ∃ (events : List (CallEvent (Fin 3)))
      (c : Config (Fin 3) (World (Fin 3)) Cmd Cmd.Resp Exn Unit),
      Config.Run exec (Activity.config sharedRedis lastMinute saleDay) events c ∧
      c.result 0 = some (.error .redis) ∧ c.result 1 = some (.ok ()) ∧
      (∀ t, (c.result t).isSome) ∧
      (c.shared.db.tickets.row 1).map (·.status) = some .sold := by
  have found : ((Activity.config sharedRedis lastMinute saleDay).replay exec
      (([0, 0, 0, 0, 0, 0, 1, 0, 1, 0, 1, 0, 0, 1, 1, 1, 2, 2] : List (Fin 3)).zipIdx.map
          fun step =>
        (step.1, { fault := if step.2 = 9 then some .redis else none }))).any (fun r =>
          decide (r.2.result 0 = some (.error .redis) ∧ r.2.result 1 = some (.ok ()) ∧
            (∀ t, (r.2.result t).isSome) ∧
            (r.2.shared.db.tickets.row 1).map (·.status) = some .sold)) = true := by
    decide
  obtain ⟨events, c, run, holds⟩ := Config.exists_run_of_replay
    (P := fun (_ : List (CallEvent (Fin 3))) c => decide (c.result 0 = some (.error .redis) ∧
      c.result 1 = some (.ok ()) ∧ (∀ t, (c.result t).isSome) ∧
      (c.shared.db.tickets.row 1).map (·.status) = some .sold)) found
  exact ⟨events, c, run, of_decide_eq_true holds⟩

theorem order_of_last_minute :
    ∃ (events : List (CallEvent (Fin 3)))
      (c : Config (Fin 3) (World (Fin 3)) Cmd Cmd.Resp Exn Unit),
      Config.Run exec (Activity.config sharedRedis lastMinute saleDay) events c ∧
      c.result 0 = some (.error .redis) ∧ c.result 1 = some (.ok ()) ∧
      (c.shared.db.tickets.row 1).map (·.status) = some .sold ∧
      ∃ commits, commits.Sublist events ∧
        Order sharedRedis lastMinute (saleDay : World (Fin 3)).db.office events commits
          c.shared.db.office ∧
        ∃ e ∈ commits, e.thread = 1 := by
  obtain ⟨events, c, run, raised, paid, _, sold⟩ := lastMinute_run
  obtain ⟨commits, within, order, _, committed⟩ := order_of_commits saleDay_opening run
  exact ⟨events, c, run, raised, paid, sold, commits, within, order,
    committed 1 trivial (Config.finished_of_result paid)⟩

theorem references_of_last_minute :
    ∃ (events : List (CallEvent (Fin 3)))
      (c : Config (Fin 3) (World (Fin 3)) Cmd Cmd.Resp Exn Unit),
      Config.Run exec (Activity.config sharedRedis lastMinute saleDay) events c ∧
      c.shared.db.References ∧ Opening sharedRedis c.shared := by
  obtain ⟨events, c, run, _, _, ended, _⟩ := lastMinute_run
  obtain ⟨references, _, opening⟩ := references_of_run saleDay_opening run
  refine ⟨events, c, run, references, opening fun t => ?_⟩
  obtain ⟨outcome, result⟩ := Option.isSome_iff_exists.mp (ended t)
  exact ⟨outcome, Config.finished_of_result result⟩

end TicketCore
