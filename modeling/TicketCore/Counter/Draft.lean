import TicketCore.Services.TicketType
import TicketCore.Interleave.Protocol

/-!
# The draft of a call

What one call has done to the inventory counter of a ticket type and to the type's row, and not yet
made good: a `Draft`, and the protocol of the calls that book and delete tickets of the type or
change its quantity, in runs in which no call fails.

* `counted` is what the open transaction has added to `tickets_sold`, and `taken` what the call has
  taken from the counter, less what it has given back and what it has committed. A call that is done
  has nothing of either.
* A `Plan` is how far a booking or a deletion has come, and a `Stage` how far a change of the type.
-/

namespace TicketCore.Counter

open Interleave

/-- How far a booking or a deletion has come. -/
inductive Plan
  /-- A booking that has not tried the counter yet. -/
  | fresh
  /-- The counter was missing. -/
  | missed
  /-- The row is read, to set the counter from it. -/
  | read (row : TicketType)
  /-- The counter is set. -/
  | warmed
  /-- A slot is taken from the counter. -/
  | slot
  /-- Nothing is left to do. -/
  | spent
  /-- A deletion. -/
  | returning

/-- How far a change of the type has come. -/
inductive Stage
  | loaded
  /-- A quantity is set in this transaction. -/
  | flushed
  /-- It is committed. -/
  | renewed
  /-- The counter is set, too. -/
  | done

/-- What a call has done and not yet made good. -/
inductive Draft
  | ticket (counted taken : Int) (plan : Plan)
  | change (stage : Stage)

/-- What a commit makes of a plan. -/
def Plan.committed : Plan → Plan
  | slot => spent
  | plan => plan

/-- What a commit makes of a stage. -/
def Stage.committed : Stage → Stage
  | flushed => renewed
  | stage => stage

/-- What a rollback makes of a stage. -/
def Stage.undone : Stage → Stage
  | flushed => loaded
  | stage => stage

namespace Draft

/-- What the open transaction has added to `tickets_sold`. -/
def counted : Draft → Int
  | ticket counted _ _ => counted
  | change _ => 0

/-- What the call has taken from the counter and not made good. -/
def taken : Draft → Int
  | ticket _ taken _ => taken
  | change _ => 0

/-- The draft after a commit. -/
def committed : Draft → Draft
  | ticket counted taken plan => ticket 0 (taken - counted) plan.committed
  | change stage => change stage.committed

/-- The draft after a rollback. -/
def undone : Draft → Draft
  | ticket _ taken plan => ticket 0 taken plan
  | change stage => change stage.undone

/-- The quantity that the counter goes by: the present one once a change is done, and else the one
before. -/
def goesBy (quantity before : Int) : Draft → Int
  | change .done => quantity
  | _ => before

/-- The draft of a change of the type. -/
def OfChange : Draft → Prop
  | change _ => True
  | ticket .. => False

/-- The quantity is set in the open transaction. -/
def Flushed : Draft → Prop
  | change .flushed => True
  | _ => False

/-- The quantity is not changed yet. -/
def Early : Draft → Prop
  | change .loaded | change .flushed => True
  | _ => False

/-- The call is about to set the counter for want of one. -/
def Cold : Draft → Prop
  | ticket _ _ .missed | ticket _ _ (.read _) => True
  | _ => False

/-- Nothing is left to do but to end the transaction. -/
def Closing : Draft → Prop
  | ticket _ taken plan => taken = 0 ∧ (plan = .spent ∨ plan = .returning)
  | change .renewed => False
  | change _ => True

/-- Nothing is left to do. -/
def Settled : Draft → Prop
  | ticket counted taken plan => counted = 0 ∧ taken = 0 ∧ (plan = .spent ∨ plan = .returning)
  | change .loaded | change .done => True
  | change _ => False

/-- What the end of a transaction makes of a draft, whether it is committed or not. -/
structure Ended (g g' : Draft) : Prop where
  counted : g'.counted = 0
  flushed : ¬ g'.Flushed
  early : g'.Early → g.Early
  changes : g'.OfChange ↔ g.OfChange
  cold : g'.Cold → g.Cold
  goes : ∀ quantity before, g'.goesBy quantity before = g.goesBy quantity before

theorem ended_committed (g : Draft) : g.Ended g.committed := by
  cases g with
  | ticket counted taken plan =>
      refine ⟨rfl, not_false, False.elim, Iff.rfl, fun cold => ?_, fun _ _ => rfl⟩
      cases plan with
      | missed | read row => trivial
      | fresh | warmed | slot | spent | returning => exact cold.elim
  | change stage =>
      cases stage with
      | loaded => exact ⟨rfl, not_false, id, Iff.rfl, False.elim, fun _ _ => rfl⟩
      | flushed | renewed | done =>
          exact ⟨rfl, not_false, False.elim, Iff.rfl, False.elim, fun _ _ => rfl⟩

theorem ended_undone (g : Draft) : g.Ended g.undone := by
  cases g with
  | ticket counted taken plan =>
      refine ⟨rfl, not_false, False.elim, Iff.rfl, fun cold => ?_, fun _ _ => rfl⟩
      cases plan with
      | missed | read row => trivial
      | fresh | warmed | slot | spent | returning => exact cold.elim
  | change stage =>
      cases stage with
      | loaded | flushed =>
          exact ⟨rfl, not_false, fun _ => trivial, Iff.rfl, False.elim, fun _ _ => rfl⟩
      | renewed | done =>
          exact ⟨rfl, not_false, False.elim, Iff.rfl, False.elim, fun _ _ => rfl⟩

theorem committed_taken (g : Draft) : g.committed.taken = g.taken - g.counted := by
  cases g with
  | ticket counted taken plan => rfl
  | change stage => rfl

theorem undone_taken (g : Draft) : g.undone.taken = g.taken := by
  cases g with
  | ticket counted taken plan => rfl
  | change stage => rfl

theorem Flushed.ofChange {g : Draft} (h : g.Flushed) : g.OfChange := by
  cases g with
  | ticket _ _ _ => exact h.elim
  | change _ => trivial

/-- A quantity that is committed is not early any more. -/
theorem Flushed.late {g : Draft} (h : g.Flushed) : ¬ g.committed.Early := by
  cases g with
  | ticket _ _ _ => exact h.elim
  | change stage =>
      cases stage with
      | flushed => exact not_false
      | loaded | renewed | done => exact h.elim

theorem Settled.taken {g : Draft} (h : g.Settled) : g.taken = 0 := by
  cases g with
  | ticket counted taken plan => exact h.2.1
  | change stage => rfl

theorem Closing.undone {g : Draft} (h : g.Closing) : g.undone.Settled := by
  cases g with
  | ticket counted taken plan => exact ⟨rfl, h⟩
  | change stage =>
      cases stage with
      | renewed => exact h.elim
      | loaded | flushed | done => trivial

theorem Settled.closing {g : Draft} (h : g.Settled) : g.Closing := by
  cases g with
  | ticket counted taken plan => exact h.2
  | change stage =>
      cases stage with
      | flushed | renewed => exact h.elim
      | loaded | done => trivial

end Draft

/-- What a row has left. -/
def left (row : TicketType) : Int := row.ticketsQuantity - row.ticketsSold

/-- A Redis command that is not about this counter. -/
def Beside (ticketTypeId : Int) : RedisCmd → Prop
  | .evalReserve other | .setInventory other _ | .incrInventory other | .deleteInventory other
  | .evalSafeIncr other | .evalRefund other _ => other ≠ ticketTypeId
  | _ => True

theorem Beside.inventory {clock : Int} {listing : List (String × String)} {r r' : RedisDb}
    {command : RedisCmd} {answer : command.Resp} {ticketTypeId : Int}
    (beside : Beside ticketTypeId command) (ran : command.run clock listing r = some (answer, r')) :
    r'.inventory ticketTypeId = r.inventory ticketTypeId := by
  have other : ∀ {id : Int} {value : Option Int}, id ≠ ticketTypeId →
      (r.setInventory id value).inventory ticketTypeId = r.inventory ticketTypeId :=
    fun other => Function.update_of_ne other.symm ..
  cases command with
  | evalReserve id =>
      rcases RedisDb.reserveScript_cases (Option.some.inj ran) with
        ⟨_, _, rfl⟩ | ⟨_, _, _, _, rfl⟩ | ⟨_, _, _, _, rfl⟩
      · rfl
      · exact other beside
      · rfl
  | setInventory id value | incrInventory id | deleteInventory id =>
      cases ran
      exact other beside
  | evalSafeIncr id =>
      cases ran
      rw [RedisDb.safeIncrScript_inventory]
      exact Function.update_of_ne (Ne.symm beside) ..
  | evalRefund id ticketId =>
      cases ran
      by_cases refunded : ticketId ∈ r.canceledTickets
      · rw [RedisDb.refundScript_of_mem refunded]
      · rw [RedisDb.refundScript_inventory refunded]
        exact Function.update_of_ne (Ne.symm beside) ..
  | setNxEx key text ttl =>
      simp only [RedisCmd.run] at ran
      split at ran
      · cases ran; rfl
      · cases ran; rfl
  | expire key | expireEventStatic eventId | expireEventList key =>
      simp only [RedisCmd.run] at ran
      split at ran
      · cases ran
      · split at ran
        · cases ran; rfl
        · cases ran
  | hset field value | hdel field | hgetall | getEventStatic eventId
  | setEventStatic eventId event ttl | deleteEventStatic eventId | getEventListVersion
  | setEventListVersion version | incrEventListVersion | getEventList key
  | setEventList key events ttl | get key | setEx key text ttl | delete key =>
      cases ran
      rfl

/-- A call that is not about this ticket type, and does not end a transaction. -/
def Apart (ticketTypeId : Int) : Cmd → Prop
  | .db statement => ¬ statement.Ends ∧ ¬ statement.locksType ticketTypeId ∧
  ¬ statement.InsertsType
  | .redis _ command => Beside ticketTypeId command
  | _ => True

/-- The answers that a call can have when nothing fails, the ticket type exists, and no ticket is
deleted before its booking has read it again. -/
def Answers (ticketTypeId : Int) : (cmd : Cmd) → Except Exn cmd.Resp → Prop
  | .redis .., .error _ | .enqueueJob _, .error _ | .now, .error _ | .db .commit, .error _
  | .db .rollback, .error _ | .db .close, .error _ | .db (.getTicketType _), .error _
  | .db (.refreshTicket _), .error _ => False
  | .db (.refreshTicketType id), .error _ | .db (.getTicketType id), .ok none => id ≠ ticketTypeId
  | .db _, .error e => e.isSQLAlchemyError
  | .redis _ (.evalReserve _), .ok result => result = -1 ∨ result = 0 ∨ result = 1
  | _, _ => True

variable (d : Deployment) (ticketTypeId : Int)

/-- How an answered call moves the draft. -/
inductive Step : Draft → (cmd : Cmd) → Except Exn cmd.Resp → Draft → Prop
  | refused {g : Draft} {cmd : Cmd} {e : Exn} : Step g cmd (.error e) g
  | apart {g : Draft} {cmd : Cmd} {a : cmd.Resp} :
      Apart ticketTypeId cmd → Step g cmd (.ok a) g
  | commit {g : Draft} : Step g (.db .commit) (.ok ()) g.committed
  | rollback {g : Draft} : Step g (.db .rollback) (.ok ()) g.undone
  | close {g : Draft} : Step g (.db .close) (.ok ()) g.undone
  | count {counted taken delta : Int} {plan : Plan} : plan = .slot ∨ plan = .returning →
      Step (.ticket counted taken plan) (.db (.addTicketsSold ticketTypeId delta)) (.ok ())
        (.ticket (counted + delta) taken plan)
  | reserve : Step (.ticket 0 0 .fresh) (.redis d.apiRedis (.evalReserve ticketTypeId)) (.ok 1)
      (.ticket 0 1 .slot)
  | soldOut : Step (.ticket 0 0 .fresh) (.redis d.apiRedis (.evalReserve ticketTypeId)) (.ok 0)
      (.ticket 0 0 .spent)
  | miss : Step (.ticket 0 0 .fresh) (.redis d.apiRedis (.evalReserve ticketTypeId)) (.ok (-1))
      (.ticket 0 0 .missed)
  | read {row : TicketType} :
      Step (.ticket 0 0 .missed) (.db (.getTicketType ticketTypeId)) (.ok (some row))
        (.ticket 0 0 (.read row))
  | fill {row : TicketType} :
      Step (.ticket 0 0 (.read row)) (.redis d.apiRedis (.setInventory ticketTypeId (left row)))
        (.ok ()) (.ticket 0 0 .warmed)
  | again {result : Int} : result ≠ 0 →
      Step (.ticket 0 0 .warmed) (.redis d.apiRedis (.evalReserve ticketTypeId)) (.ok result)
        (.ticket 0 1 .slot)
  | soldOutAgain :
      Step (.ticket 0 0 .warmed) (.redis d.apiRedis (.evalReserve ticketTypeId)) (.ok 0)
        (.ticket 0 0 .spent)
  | giveBack {counted taken : Int} :
      Step (.ticket counted taken .slot) (.redis d.apiRedis (.incrInventory ticketTypeId)) (.ok ())
        (.ticket counted (taken - 1) .spent)
  | restore {counted taken : Int} :
      Step (.ticket counted taken .returning) (.redis d.apiRedis (.evalSafeIncr ticketTypeId))
        (.ok ()) (.ticket counted (taken - 1) .returning)
  | flush {stage : Stage} {net : TicketTypeUpdate} : stage = .loaded →
      Step (.change stage) (.db (.updateTicketType ticketTypeId net)) (.ok ())
        (.change (if net.newQuantity = none then .loaded else .flushed))
  | set {stage : Stage} {value : Int} : stage = .loaded ∨ stage = .renewed →
      Step (.change stage) (.redis d.apiRedis (.setInventory ticketTypeId value)) (.ok ())
        (.change .done)

/-- The protocol of the calls that deal with a ticket type. -/
def protocol : Protocol Cmd Cmd.Resp Exn Draft := ⟨Answers ticketTypeId, Step d ticketTypeId⟩

end TicketCore.Counter
