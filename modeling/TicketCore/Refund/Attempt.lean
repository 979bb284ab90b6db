import TicketCore.Interleave.Run
import TicketCore.Refund.Account

/-!
# A booking that fails

One call of `TicketService.create`, run alone, where any awaited call may fail. An `Attempt` is what
it has done by now: whether it has taken a slot, entered its ticket in Redis and returned the slot,
and which of its database calls has raised.

* `Attempt.Inv` ties the attempt to the events so far, to Redis and to the database.
* `follows_create` says how an attempt can end: `Attempt.Ended` for each database call that may have
  raised.
-/

namespace TicketCore

open Interleave RowStore

/-- The database call whose failure rolls a booking back. -/
inductive Failure
  /-- The `SELECT` of the cold-key branch. -/
  | cold
  /-- The `UPDATE` of the ticket type or the `INSERT` of the ticket. -/
  | books
  | commit
deriving DecidableEq

/-- Which failure it is when this call raises. -/
def failureOf : Cmd → Option Failure
  | .db (.getTicketType _) => some .cold
  | .db (.addTicketsSold ..) | .db (.insertTicket ..) => some .books
  | .db .commit => some .commit
  | _ => none

/-- The failure of a call of the transaction that is answered by a `SQLAlchemyError`. -/
def failureIn (cmd : Cmd) (answer : Except Exn cmd.Resp) : Option Failure :=
  match answer with
  | .ok _ => none
  | .error x => if x.isSQLAlchemyError then failureOf cmd else none

/-- The failure that an event is. -/
def failsAt {ι : Type} (e : CallEvent ι) : Option Failure := failureIn e.cmd e.answer

theorem failureIn_none {cmd : Cmd} {answer : Except Exn cmd.Resp} (none : failureOf cmd = none) :
    failureIn cmd answer = .none := by
  unfold failureIn
  split
  · rfl
  · rw [none, ite_self]

/-- The `INCR` of an `except` block is executed. -/
def compensates {ι : Type} (e : CallEvent ι) : Bool :=
  match e with
  | ⟨_, .redis _ (.incrInventory _), _, .ok _, _, _⟩ => true
  | _ => false

/-- The second that a call reads from the clock. -/
def secondOf {ι : Type} (e : CallEvent ι) : Option Int :=
  match e.cmd with
  | .now => some (seconds e.choice.clock)
  | _ => none

/-- How far the transaction of a booking has come. -/
inductive Writing
  | fresh
  | inserted
  | committed

/-- What a booking has done. -/
structure Attempt where
  /-- The counter exists. -/
  keyed : Bool
  taken : Bool
  returned : Bool
  failure : Option Failure
  stamp : Option Int
  entered : Bool
  writing : Writing
  /-- The session is closed. -/
  closed : Bool

namespace Attempt

/-- Nothing is done. -/
def start : Attempt := ⟨false, false, false, none, none, false, .fresh, false⟩

/-- The counter is filled. -/
def warm : Attempt := { start with keyed := true }

/-- The slot is taken. -/
def reserved : Attempt := { warm with taken := true }

/-- The ticket is inserted. -/
def inserted : Attempt := { reserved with writing := .inserted }

/-- The clock is read. -/
def stamped (stamp : Int) : Attempt := { inserted with stamp := some stamp }

/-- The ticket's entry is written. -/
def listed (stamp : Int) : Attempt := { stamped stamp with entered := true }

/-- What the events tell of the attempt. -/
structure Tells {ι : Type} (a : Account) (events : List (CallEvent ι)) (g : Attempt) : Prop where
  debits : a.debits events = g.taken.toNat
  credits : a.credits events = g.returned.toNat
  compensated : (∃ e ∈ events, compensates e) ↔ g.returned
  failure : ∀ failure, (∃ e ∈ events, failsAt e = some failure) ↔ g.failure = some failure
  stamp : ∀ stamp, (∃ e ∈ events, secondOf e = some stamp) ↔ g.stamp = some stamp

/-- What Redis has of the attempt. -/
structure Entered {ι : Type} (a : Account) (w : World ι) (g : Attempt) : Prop where
  key : g.keyed → (a.counter w).isSome
  fresh : ¬ a.Refunded w
  entries : ∀ entry ∈ a.entries w, ∀ lock, readReservation entry = some lock →
    lock.ticketId = a.ticketId → g.entered ∧ lock.ticketTypeId = a.ticketTypeId ∧
      g.stamp = some lock.timestamp
  entry : g.entered → ∃ stamp, g.stamp = some stamp ∧
    (toString a.ticketId, reservationValue a.ticketTypeId stamp) ∈ a.entries w

/-- What the table has of the attempt of thread `t`. -/
structure Written {ι : Type} [DecidableEq ι] (a : Account) (t : ι) (tickets : RowStore ι Ticket)
    (g : Attempt) : Prop where
  next : g.writing = .fresh → tickets.next = a.ticketId
  absent : g.writing ≠ .committed → tickets.row a.ticketId = none
  others : ∀ u, u ≠ t → tickets.heldBy u a.ticketId = none
  closed : g.closed → tickets.heldBy t a.ticketId = none

variable {ι : Type} [DecidableEq ι] (a : Account) (t : ι)

/-- The invariant of an attempt. -/
structure Inv (events : List (CallEvent ι)) (w : World ι) (g : Attempt) : Prop where
  tells : g.Tells a events
  entered : g.Entered a w
  written : g.Written a t w.db.tickets

/-- The discipline of an attempt. -/
def discipline : Discipline ι (World ι) Cmd Cmd.Resp Exn Choice Attempt where
  guard _ := True
  inv events w ghost := Inv a t events w (ghost t)

variable {a t} {events : List (CallEvent ι)} {e : CallEvent ι} {w w' : World ι} {g g' : Attempt}

/-! ## One event -/

omit [DecidableEq ι] in
theorem Tells.append (h : g.Tells a events)
    (taken : g'.taken.toNat = g.taken.toNat + (a.debit e).toNat)
    (returned : g'.returned.toNat = g.returned.toNat + (a.credit e).toNat)
    (compensated : g'.returned = (g.returned || compensates e))
    (failure : g'.failure = g.failure.or (failsAt e)) (free : g.failure = none ∨ failsAt e = none)
    (stamp : g'.stamp = g.stamp.or (secondOf e)) (unread : g.stamp = none ∨ secondOf e = none) :
    g'.Tells a (events ++ [e]) where
  debits := by rw [Account.debits_append, h.debits, taken]
  credits := by rw [Account.credits_append, h.credits, returned]
  compensated := by rw [Account.exists_mem_snoc, h.compensated, compensated, Bool.or_eq_true]
  failure f := by
    rw [Account.exists_mem_snoc, h.failure, failure]
    rcases free with none | none
    · rw [none, Option.none_or, or_iff_right nofun]
    · rw [none, Option.or_none, or_iff_left nofun]
  stamp s := by
    rw [Account.exists_mem_snoc, h.stamp, stamp]
    rcases unread with none | none
    · rw [none, Option.none_or, or_iff_right nofun]
    · rw [none, Option.or_none, or_iff_left nofun]

/-- The attempt after one of its calls has raised. -/
def fail (g : Attempt) (failure : Option Failure) : Attempt :=
  { g with failure := g.failure.or failure }

omit [DecidableEq ι] in
/-- A call that neither moves the counter nor looks at the clock. -/
theorem Tells.aside (h : g.Tells a events) (counter : a.counter e.after = a.counter e.before)
    (uncompensated : compensates e = false) (unread : secondOf e = none)
    (free : g.failure = none ∨ failsAt e = none) :
    (g.fail (failsAt e)).Tells a (events ++ [e]) := by
  refine h.append ?_ ?_ ?_ rfl free ?_ (.inr unread)
  · rw [Account.not_debit_of_same counter]
    rfl
  · rw [Account.not_credit_of_same counter]
    rfl
  · rw [uncompensated, Bool.or_false]
    rfl
  · rw [unread, Option.or_none]
    rfl

omit [DecidableEq ι] in
/-- What is told of an attempt does not depend on what Redis and the database have of it. -/
theorem Tells.congr (h : g.Tells a events) (taken : g'.taken = g.taken)
    (returned : g'.returned = g.returned) (failure : g'.failure = g.failure)
    (stamp : g'.stamp = g.stamp) : g'.Tells a events where
  debits := by rw [taken, h.debits]
  credits := by rw [returned, h.credits]
  compensated := by rw [returned, h.compensated]
  failure := by rw [failure]; exact h.failure
  stamp := by rw [stamp]; exact h.stamp

/-- The rule for one call: it raises, or is executed. -/
theorem follows_call {cmd : Cmd} {post : Except Exn cmd.Resp → Attempt → Prop}
    (free : g.failure = none ∨ failureOf cmd = none)
    (fault : cmd.mayFail → ∀ x, post (.error x) (g.fail (failureIn cmd (.error x))))
    (run : ∀ events w choice answer w', Inv a t events w g →
      cmd.run t choice w = some (answer, w') →
      ∃ g', Inv a t (events ++ [⟨t, cmd, choice, answer, w, w'⟩]) w' g' ∧ post answer g') :
    (discipline a t).Follows exec t post (.call cmd) g := by
  refine Discipline.Follows.call fun events w ghost choice answer w' inv own ran _ => ?_
  have inv : Inv a t events w (ghost t) := inv
  rw [own] at inv
  rcases exec_cases ran with ⟨x, _, may, rfl, rfl⟩ | ran
  · have unread : secondOf (⟨t, cmd, choice, .error x, w', w'⟩ : CallEvent ι) = none := by
      cases cmd with
      | now => cases may
      | _ => rfl
    have uncompensated : compensates
        (⟨t, cmd, choice, .error x, w', w'⟩ : CallEvent ι) = false := by
      unfold compensates
      split
      · rename_i same
        cases same
      · rfl
    have free' : g.failure = none ∨
        failsAt (⟨t, cmd, choice, .error x, w', w'⟩ : CallEvent ι) = none :=
      free.imp_right failureIn_none
    refine ⟨_, ?_, fault may x⟩
    show Inv _ _ _ _ (Function.update ghost t _ t)
    rw [Function.update_self]
    exact ⟨inv.tells.aside rfl uncompensated unread free',
      ⟨inv.entered.key, inv.entered.fresh, inv.entered.entries, inv.entered.entry⟩,
      ⟨inv.written.next, inv.written.absent, inv.written.others, inv.written.closed⟩⟩
  · obtain ⟨g', inv', holds⟩ := run events w choice answer w' inv ran
    refine ⟨g', ?_, holds⟩
    show Inv _ _ _ _ (Function.update ghost t g' t)
    rwa [Function.update_self]

/-- The rule for a statement. -/
theorem follows_statement {statement : DbCmd}
    {post : Except Exn statement.Resp → Attempt → Prop}
    (free : g.failure = none ∨ failureOf (.db statement) = none)
    (fault : Cmd.mayFail (.db statement) → ∀ x, post (.error x)
      (g.fail (failureIn (.db statement) (.error x))))
    (run : ∀ db clock order answer db', g.Written a t db.tickets →
      statement.run t clock order db = some (answer, db') → ∃ writing closed,
        { g with writing := writing, closed := closed }.Written a t db'.tickets ∧
          post answer { g.fail (failureIn (.db statement) answer) with
            writing := writing, closed := closed }) :
    (discipline a t).Follows exec t post (sql statement) g := by
  refine follows_call free fault fun events w choice answer w' inv ran => ?_
  obtain ⟨db', done, rfl⟩ := Cmd.run_db ran
  obtain ⟨writing, closed, written, holds⟩ := run _ _ _ _ _ inv.written done
  have free' : g.failure = none ∨ failsAt (⟨t, .db statement, choice, answer, w,
      { w with db := db' }⟩ : CallEvent ι) = none := free.imp_right failureIn_none
  refine ⟨{ g.fail (failureIn (.db statement) answer) with writing := writing, closed := closed },
    ⟨?_, ?_, ?_⟩, holds⟩
  · exact (inv.tells.aside rfl rfl rfl free').congr rfl rfl rfl rfl
  · exact ⟨inv.entered.key, inv.entered.fresh, inv.entered.entries, inv.entered.entry⟩
  · exact ⟨written.next, written.absent, written.others, written.closed⟩

end Attempt

end TicketCore
