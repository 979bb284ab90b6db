import TicketCore.Api

/-!
# The account of one ticket

An inventory counter is shared by all tickets of a type, so what a run does to it says nothing of
one ticket. An `Account` is a ticket with its type and the Redis database of its counter, and it is
debited and credited by events: a reservation that takes a slot, and a script or `INCR` that returns
one. A refund script names its ticket; the other commands that move a counter do not, and `debits`
and `credits` are meant for runs in which every one of them is on account of the ticket.
-/

namespace TicketCore

open Interleave

/-- A ticket, with its type and the Redis database of the type's counter. -/
structure Account where
  database : Nat
  ticketTypeId : Int
  ticketId : Int

namespace Account

variable {ι : Type} (a : Account)

/-- The inventory counter. -/
def counter (w : World ι) : Option Int := (w.redis a.database).inventory a.ticketTypeId

/-- The hash of the reservations. -/
def entries (w : World ι) : List (String × String) := (w.redis a.database).activeReservations

/-- The ticket is in the set of the processed tickets. -/
def Refunded (w : World ι) : Prop := toString a.ticketId ∈ (w.redis a.database).canceledTickets

instance (w : World ι) : Decidable (a.Refunded w) := inferInstanceAs (Decidable (_ ∈ _))

/-- The command takes a slot. -/
def takes : Cmd → Bool
  | .redis n (.evalReserve ticketTypeId) => n = a.database ∧ ticketTypeId = a.ticketTypeId
  | _ => false

/-- The command returns a slot. -/
def returns : Cmd → Bool
  | .redis n (.incrInventory ticketTypeId) | .redis n (.evalSafeIncr ticketTypeId) =>
      n = a.database ∧ ticketTypeId = a.ticketTypeId
  | .redis n (.evalRefund _ ticketId) => n = a.database ∧ ticketId = toString a.ticketId
  | _ => false

/-- The counter moves by `delta`. -/
def moves (delta : Int) (e : CallEvent ι) : Bool :=
  (a.counter e.before).any fun k => a.counter e.after = some (k + delta)

/-- An event that takes a slot. -/
def debit (e : CallEvent ι) : Bool := a.takes e.cmd && a.moves (-1) e

/-- An event that returns a slot. -/
def credit (e : CallEvent ι) : Bool := a.returns e.cmd && a.moves 1 e

/-- How often the counter is decremented on account of the ticket. -/
def debits (events : List (CallEvent ι)) : Nat := events.countP a.debit

/-- How often the counter is incremented on account of the ticket. -/
def credits (events : List (CallEvent ι)) : Nat := events.countP a.credit

variable {a} {events : List (CallEvent ι)} {e : CallEvent ι}

theorem debits_append : a.debits (events ++ [e]) = a.debits events + (a.debit e).toNat := by
  unfold debits
  rw [List.countP_append, List.countP_singleton]
  cases a.debit e <;> rfl

theorem credits_append : a.credits (events ++ [e]) = a.credits events + (a.credit e).toNat := by
  unfold credits
  rw [List.countP_append, List.countP_singleton]
  cases a.credit e <;> rfl

/-- Something holds of an event of a run that goes on by one. -/
theorem exists_mem_snoc {p : CallEvent ι → Prop} :
    (∃ e' ∈ events ++ [e], p e') ↔ (∃ e' ∈ events, p e') ∨ p e := by
  simp only [List.mem_append, List.mem_singleton, or_and_right, exists_or, exists_eq_left]

theorem not_moves_of_same {delta : Int} (moving : delta ≠ 0)
    (same : a.counter e.after = a.counter e.before) : a.moves delta e = false := by
  unfold moves
  rw [same]
  cases value : a.counter e.before with
  | none => rfl
  | some k =>
      rw [Option.any_some, decide_eq_false_iff_not, Option.some.injEq]
      omega

theorem credit_of_moves (returns : a.returns e.cmd) {k : Int} (before : a.counter e.before = some k)
    (after : a.counter e.after = some (k + 1)) : a.credit e = true := by
  unfold credit moves
  rw [returns, before, Option.any_some, after, decide_eq_true rfl]
  rfl

theorem debit_of_moves (takes : a.takes e.cmd) {k : Int} (before : a.counter e.before = some k)
    (after : a.counter e.after = some (k + -1)) : a.debit e = true := by
  unfold debit moves
  rw [takes, before, Option.any_some, after, decide_eq_true rfl]
  rfl

theorem not_credit_of_same (same : a.counter e.after = a.counter e.before) :
    a.credit e = false := by
  unfold credit
  rw [not_moves_of_same (by decide) same, Bool.and_false]

theorem not_debit_of_same (same : a.counter e.after = a.counter e.before) :
    a.debit e = false := by
  unfold debit
  rw [not_moves_of_same (by decide) same, Bool.and_false]

theorem not_credit (other : a.returns e.cmd = false) : a.credit e = false := by
  unfold credit
  rw [other, Bool.false_and]

theorem not_debit (other : a.takes e.cmd = false) : a.debit e = false := by
  unfold debit
  rw [other, Bool.false_and]

/-! ## One Redis command -/

section Commands

variable {w : World ι} {r : RedisDb}

/-- The world after a command in the account's database. -/
def put (a : Account) (w : World ι) (r : RedisDb) : World ι :=
  { w with redis := Function.update w.redis a.database r }

@[simp] theorem put_db : (a.put w r).db = w.db := rfl

@[simp] theorem put_redis : (a.put w r).redis a.database = r := Function.update_self ..

@[simp] theorem put_counter : a.counter (a.put w r) = r.inventory a.ticketTypeId := by
  unfold counter
  rw [put_redis]

@[simp] theorem put_entries : a.entries (a.put w r) = r.activeReservations := by
  unfold entries
  rw [put_redis]

@[simp] theorem put_refunded : a.Refunded (a.put w r) ↔
    toString a.ticketId ∈ r.canceledTickets := by
  unfold Refunded
  rw [put_redis]

theorem counter_setInventory {value : Option Int} :
    a.counter (a.put w ((w.redis a.database).setInventory a.ticketTypeId value)) = value := by
  rw [put_counter]
  exact Function.update_self ..

/-- The world after the refund script for a ticket. -/
def refund (a : Account) (w : World ι) (ticketTypeId ticketId : Int) : World ι :=
  a.put w ((w.redis a.database).refundScript ticketTypeId (toString ticketId))

theorem refunded_refund {ticketTypeId ticketId : Int} :
    a.Refunded (a.refund w ticketTypeId ticketId) ↔ ticketId = a.ticketId ∨ a.Refunded w := by
  unfold refund
  rw [put_refunded, RedisDb.mem_refundScript_canceledTickets]
  exact or_congr_left ⟨fun same => (DecimalText.toString_injective same).symm,
    fun same => by rw [same]⟩

theorem mem_entries_refund {ticketTypeId ticketId : Int} {entry : String × String}
    (mem : entry ∈ a.entries (a.refund w ticketTypeId ticketId)) : entry ∈ a.entries w := by
  unfold refund at mem
  rw [put_entries] at mem
  exact RedisDb.mem_refundScript mem

/-- The refund script of a ticket that is in the set does nothing. -/
theorem counter_refund_of_refunded {ticketTypeId : Int} (refunded : a.Refunded w) :
    a.counter (a.refund w ticketTypeId a.ticketId) = a.counter w := by
  unfold refund
  rw [put_counter, RedisDb.refundScript_of_mem refunded]
  rfl

/-- The refund script of a fresh ticket returns a slot. -/
theorem counter_refund_of_fresh (fresh : ¬ a.Refunded w) :
    a.counter (a.refund w a.ticketTypeId a.ticketId) = (a.counter w).map (· + 1) := by
  unfold refund
  rw [put_counter, RedisDb.refundScript_inventory fresh, Function.update_self]
  rfl

/-- The refund script never removes the counter. -/
theorem counter_refund_isSome {ticketTypeId ticketId : Int} (key : (a.counter w).isSome) :
    (a.counter (a.refund w ticketTypeId ticketId)).isSome := by
  unfold refund
  rw [put_counter]
  by_cases refunded : toString ticketId ∈ (w.redis a.database).canceledTickets
  · rw [RedisDb.refundScript_of_mem refunded]
    exact key
  · rw [RedisDb.refundScript_inventory refunded]
    by_cases same : a.ticketTypeId = ticketTypeId
    · subst same
      rw [Function.update_self, Option.isSome_map]
      exact key
    · rw [Function.update_of_ne same]
      exact key

end Commands

end Account

end TicketCore
