import TicketCore.Redis
import Mathlib.Data.Finset.Card
import Mathlib.Data.Finset.Image

/-!
# Refunds of many tickets

The refund script run for one ticket after another. The script looks at the processed set first, so
what a sequence of refunds leaves behind does not depend on its order or its repetitions, but only
on the set of tickets in it.

* `refunded typeOf ids` is the database after the refunds of a set of tickets, in closed form.
* `refundAll_eq` says that a sequence of refunds leads there.
-/

namespace TicketCore.RedisDb

/-- The refund script for one ticket after another, each with its type. -/
def refundAll (r : RedisDb) : List (Int × Int) → RedisDb
  | [] => r
  | (ticketTypeId, ticketId) :: refunds =>
      refundAll (r.refundScript ticketTypeId (toString ticketId)) refunds

theorem refundAll_append (r : RedisDb) (refunds refunds' : List (Int × Int)) :
    r.refundAll (refunds ++ refunds') = (r.refundAll refunds).refundAll refunds' := by
  induction refunds generalizing r with
  | nil => rfl
  | cons refund refunds ih => exact ih _

/-- Refunds of processed tickets change nothing. -/
theorem refundAll_of_processed {r : RedisDb} {refunds : List (Int × Int)}
    (processed : ∀ refund ∈ refunds, toString refund.2 ∈ r.canceledTickets) :
    r.refundAll refunds = r := by
  induction refunds with
  | nil => rfl
  | cons refund refunds ih =>
      have head := processed refund (List.mem_cons_self ..)
      rw [refundAll, refundScript_of_mem head]
      exact ih fun other mem => processed other (List.mem_cons_of_mem _ mem)

/-- The tickets that the refund script has not processed yet. -/
def fresh (r : RedisDb) (ids : Finset Int) : Finset Int :=
  ids.filter fun id => toString id ∉ r.canceledTickets

/-- The database after the refunds of these tickets: each existing counter has grown by the number
of its fresh tickets, all of them are processed, and the entries of the fresh ones are gone. -/
def refunded (typeOf : Int → Int) (r : RedisDb) (ids : Finset Int) : RedisDb :=
  { r with
    inventory := fun ticketTypeId => (r.inventory ticketTypeId).map
      (· + (((r.fresh ids).filter fun id => typeOf id = ticketTypeId).card : Int))
    canceledTickets := r.canceledTickets ∪ ids.image toString
    activeReservations := r.activeReservations.filter fun entry =>
      entry.1 ∉ (r.fresh ids).image toString }

variable {typeOf : Int → Int} {r : RedisDb} {ids : Finset Int} {id : Int}

theorem mem_fresh : id ∈ r.fresh ids ↔ id ∈ ids ∧ toString id ∉ r.canceledTickets :=
  Finset.mem_filter

theorem fresh_insert_of_mem (processed : toString id ∈ r.canceledTickets) :
    r.fresh (insert id ids) = r.fresh ids := by
  unfold fresh
  rw [Finset.filter_insert, if_neg (not_not.mpr processed)]

theorem refunded_empty : r.refunded typeOf ∅ = r := by
  have counters : ∀ value : Option Int, value.map (· + ((0 : Nat) : Int)) = value :=
    fun value => by
    cases value with
    | none => rfl
    | some n => exact congrArg some (Int.add_zero n)
  have entries : r.activeReservations.filter (fun entry => entry.1 ∉ (∅ : Finset String)) =
      r.activeReservations := List.filter_eq_self.mpr fun _ _ => by simp
  have processed : r.canceledTickets ∪ ∅ = r.canceledTickets := Finset.union_empty _
  have none : r.fresh ∅ = ∅ := rfl
  unfold refunded
  simp only [none, Finset.filter_empty, Finset.card_empty, counters, Finset.image_empty, entries,
    processed]

/-- A ticket that is processed already makes no difference. -/
theorem refunded_insert_of_mem (processed : toString id ∈ r.canceledTickets) :
    r.refunded typeOf (insert id ids) = r.refunded typeOf ids := by
  have same : r.canceledTickets ∪ (insert id ids).image toString =
      r.canceledTickets ∪ ids.image toString := by
    rw [Finset.image_insert, Finset.union_insert,
      Finset.insert_eq_of_mem (Finset.mem_union_left _ processed)]
  unfold refunded
  rw [fresh_insert_of_mem processed, same]

/-- The script for a fresh ticket leaves the other fresh ones. -/
theorem fresh_refundScript {ticketTypeId : Int} :
    (r.refundScript ticketTypeId (toString id)).fresh ids = (r.fresh ids).erase id := by
  ext other
  rw [Finset.mem_erase, mem_fresh, mem_fresh, mem_refundScript_canceledTickets, not_or,
    DecimalText.toString_injective.eq_iff]
  tauto

/-- What the script does for a fresh ticket. -/
theorem refundScript_of_fresh {ticketTypeId : Int} {ticketId : String}
    (fresh : ticketId ∉ r.canceledTickets) : r.refundScript ticketTypeId ticketId =
      { r with
        inventory := Function.update r.inventory ticketTypeId
          ((r.inventory ticketTypeId).map (· + 1))
        canceledTickets := insert ticketId r.canceledTickets
        activeReservations := r.activeReservations.filter fun entry => entry.1 ≠ ticketId } := by
  have inventory : (r.refundScript ticketTypeId ticketId).inventory =
      Function.update r.inventory ticketTypeId ((r.inventory ticketTypeId).map (· + 1)) :=
    refundScript_inventory fresh
  unfold refundScript safeIncrScript at inventory ⊢
  rw [if_neg fresh] at inventory ⊢
  rw [← inventory]
  split
  · rfl
  · rfl

/-- The counter of a type, with the script for one of the fresh tickets. -/
theorem refunded_counter {ticketTypeId : Int} (mem : id ∈ r.fresh ids) :
    (Function.update r.inventory (typeOf id) ((r.inventory (typeOf id)).map (· + 1))
        ticketTypeId).map
      (· + ((((r.fresh ids).erase id).filter fun id => typeOf id = ticketTypeId).card : Int)) =
    (r.inventory ticketTypeId).map
      (· + (((r.fresh ids).filter fun id => typeOf id = ticketTypeId).card : Int)) := by
  rw [Finset.filter_erase]
  by_cases same : ticketTypeId = typeOf id
  · subst same
    have counted := Finset.card_erase_add_one (Finset.mem_filter.mpr ⟨mem, rfl⟩ :
      id ∈ (r.fresh ids).filter fun other => typeOf other = typeOf id)
    rw [Function.update_self, ← counted]
    cases r.inventory (typeOf id) with
    | none => rfl
    | some n =>
        refine congrArg some ?_
        dsimp only
        omega
  · have absent : id ∉ (r.fresh ids).filter fun id => typeOf id = ticketTypeId := fun mem =>
      same (Finset.mem_filter.mp mem).2.symm
    rw [Function.update_of_ne same, Finset.erase_eq_of_notMem absent]

/-- The script for one of the tickets is part of their refunds. -/
theorem refunded_refundScript (mem : id ∈ ids) :
    (r.refundScript (typeOf id) (toString id)).refunded typeOf ids = r.refunded typeOf ids := by
  by_cases processed : toString id ∈ r.canceledTickets
  · rw [refundScript_of_mem processed]
  · have isFresh : id ∈ r.fresh ids := mem_fresh.mpr ⟨mem, processed⟩
    have all : insert (toString id) r.canceledTickets ∪ ids.image toString =
        r.canceledTickets ∪ ids.image toString := by
      rw [Finset.insert_union, Finset.insert_eq_of_mem]
      exact Finset.mem_union_right _ (Finset.mem_image_of_mem _ mem)
    have entries : (r.activeReservations.filter fun entry => entry.1 ≠ toString id).filter
          (fun entry => entry.1 ∉ ((r.fresh ids).erase id).image toString) =
        r.activeReservations.filter fun entry => entry.1 ∉ (r.fresh ids).image toString := by
      rw [List.filter_filter]
      refine List.filter_congr fun entry _ => ?_
      have split : entry.1 ∈ (r.fresh ids).image toString ↔
          entry.1 = toString id ∨ entry.1 ∈ ((r.fresh ids).erase id).image toString := by
        rw [← Finset.mem_insert, ← Finset.image_insert, Finset.insert_erase isFresh]
      rw [← Bool.decide_and, decide_eq_decide, split, not_or, and_comm]
    have counters : (fun ticketTypeId => (Function.update r.inventory (typeOf id)
          ((r.inventory (typeOf id)).map (· + 1)) ticketTypeId).map
        (· + ((((r.fresh ids).erase id).filter fun id => typeOf id = ticketTypeId).card : Int))) =
        fun ticketTypeId => (r.inventory ticketTypeId).map
          (· + (((r.fresh ids).filter fun id => typeOf id = ticketTypeId).card : Int)) :=
      funext fun _ => refunded_counter isFresh
    unfold refunded
    rw [fresh_refundScript, refundScript_of_fresh processed]
    dsimp only
    rw [counters, all, entries]

/-- **A sequence of refunds leads where the refunds of its set of tickets lead**, when every ticket
comes with its own type. -/
theorem refundAll_eq {refunds : List (Int × Int)}
    (typed : ∀ refund ∈ refunds, refund.1 = typeOf refund.2) :
    r.refundAll refunds = r.refunded typeOf (refunds.map Prod.snd).toFinset := by
  induction refunds generalizing r with
  | nil => exact refunded_empty.symm
  | cons refund refunds ih =>
      obtain ⟨ticketTypeId, id⟩ := refund
      obtain rfl : ticketTypeId = typeOf id := typed _ (List.mem_cons_self ..)
      have processed : toString id ∈
          (r.refundScript (typeOf id) (toString id)).canceledTickets :=
        mem_refundScript_canceledTickets.mpr (.inl rfl)
      rw [refundAll, ih fun refund mem => typed refund (List.mem_cons_of_mem _ mem), List.map_cons,
        List.toFinset_cons, ← refunded_insert_of_mem processed,
        refunded_refundScript (Finset.mem_insert_self ..)]

end TicketCore.RedisDb
