import TicketCore.Reconcile.Release

/-!
# What Redis says of the tables

`Mirrors` relates the inventory keys, the processed set and the reservation entries of a Redis
database to the rows: a key stands for what is left of its type, a processed ticket is not
`RESERVED`, and an entry is that of a `RESERVED` ticket, and can be read.

* `Mirrors.write` sets or deletes one key together with its row.
* `Mirrors.book` and `Mirrors.settle` are a ticket more, and tickets that are no longer `RESERVED`,
  with the slots that they give back.
-/

namespace TicketCore

/-- There is such a ticket, and it is `RESERVED`. -/
def ReservedIn (tickets : Int → Option Ticket) (id : Int) : Prop :=
  ∃ ticket, tickets id = some ticket ∧ ticket.status = .reserved

/-- What a Redis database says of ticket types and tickets, of which so many have been issued. -/
structure Mirrors (types : Int → Option TicketType) (tickets : Int → Option Ticket)
    (issued : Nat) (r : RedisDb) : Prop where
  counters : ∀ id k, r.inventory id = some k →
    ∃ row, types id = some row ∧ k = row.ticketsQuantity - row.ticketsSold
  processed : ∀ id : Int, toString id ∈ r.canceledTickets → id ≤ issued ∧
      ¬ ReservedIn tickets id
  entries : ∀ entry ∈ r.activeReservations,
    ∃ id : Int, entry.1 = toString id ∧ ReservedIn tickets id ∧ (readReservation entry).isSome

/-- A slot that has been taken can be given back. -/
theorem RedisDb.incrInventory_setInventory {r : RedisDb} {id k : Int}
    (counter : r.inventory id = some k) :
    (r.setInventory id (some (k - 1))).incrInventory id = r := by
  have same : Function.update r.inventory id (some k) = r.inventory := by
    rw [← counter, Function.update_eq_self]
  unfold incrInventory setInventory
  dsimp only
  rw [Function.update_self, Function.update_idem, Option.getD_some, sub_add_cancel, same]

/-- A counter that gets nothing back. -/
theorem counter_still (counter : Option Int) : counter = counter.map (· + 0) := by
  cases counter with
  | none => rfl
  | some k => exact congrArg some (add_zero k).symm

namespace Mirrors

variable {types types' : Int → Option TicketType} {tickets tickets' : Int → Option Ticket}
  {issued issued' : Nat} {r r' : RedisDb} {id k : Int} {row row' : TicketType} {ticket : Ticket}

/-- Ids are handed out, and no rows change. -/
theorem grow (h : Mirrors types tickets issued r) (le : issued ≤ issued') :
    Mirrors types tickets issued' r where
  counters := h.counters
  processed other mem := by
    obtain ⟨known, free⟩ := h.processed other mem
    exact ⟨by omega, free⟩
  entries := h.entries

/-- A type is inserted, changed or deleted, and its key is set or deleted with it. -/
theorem write (h : Mirrors types tickets issued r) (version : Option TicketType) :
    Mirrors (Function.update types id version) tickets issued
      (r.setInventory id (version.map fun row => row.ticketsQuantity - row.ticketsSold)) where
  counters other k counter := by
    unfold RedisDb.setInventory at counter
    dsimp only at counter
    by_cases same : other = id
    · subst same
      rw [Function.update_self] at counter ⊢
      obtain ⟨row, rfl, rfl⟩ := Option.map_eq_some_iff.mp counter
      exact ⟨row, rfl, rfl⟩
    · rw [Function.update_of_ne same] at counter ⊢
      exact h.counters other k counter
  processed := h.processed
  entries := h.entries

/-- The key of a type is set to what is left of it. -/
theorem fill (h : Mirrors types tickets issued r) (stored : types id = some row) :
    Mirrors types tickets issued
      (r.setInventory id (some (row.ticketsQuantity - row.ticketsSold))) := by
  have filled : Mirrors (Function.update types id (some row)) tickets issued
      (r.setInventory id (some (row.ticketsQuantity - row.ticketsSold))) := h.write (some row)
  rwa [← stored, Function.update_eq_self] at filled

/-- A type is changed, but not what is left of it. -/
theorem revise (h : Mirrors types tickets issued r) (stored : types id = some row)
    (left : row'.ticketsQuantity - row'.ticketsSold = row.ticketsQuantity - row.ticketsSold) :
    Mirrors (Function.update types id (some row')) tickets issued r where
  counters other k counter := by
    obtain ⟨row₁, found, rfl⟩ := h.counters other k counter
    by_cases same : other = id
    · subst same
      rw [stored] at found
      cases found
      exact ⟨row', Function.update_self .., left.symm⟩
    · exact ⟨row₁, by rw [Function.update_of_ne same, found], rfl⟩
  processed := h.processed
  entries := h.entries

/-- **A ticket is booked.** Its slot has been taken from the counter before. -/
theorem book {value : String} {new : Int} (h : Mirrors types tickets issued (r.incrInventory id))
    (counter : r.inventory id = some k) (stored : types id = some row)
    (quantity : row'.ticketsQuantity = row.ticketsQuantity)
    (sold : row'.ticketsSold = row.ticketsSold + 1) (fresh : issued < new) (known : new ≤ issued')
    (reserved : ticket.status = .reserved)
    (written : (readReservation (toString new, value)).isSome) :
    Mirrors (Function.update types id (some row'))
      (Function.update tickets new (some ticket)) issued'
      (r.hset (toString new) value) where
  counters other k' counter' := by
    by_cases same : other = id
    · subst same
      refine ⟨row', Function.update_self .., ?_⟩
      have before : (r.incrInventory other).inventory other = some (k + 1) := by
        unfold RedisDb.incrInventory RedisDb.setInventory
        rw [counter]
        exact Function.update_self ..
      obtain ⟨row₁, found, left⟩ := h.counters other _ before
      have now : r.inventory other = some k' := counter'
      rw [stored] at found
      rw [counter] at now
      cases found
      cases now
      omega
    · have before : (r.incrInventory id).inventory other = some k' :=
        (Function.update_of_ne same _ _).trans counter'
      rw [Function.update_of_ne same]
      exact h.counters other k' before
  processed other mem := by
    obtain ⟨old, free⟩ := h.processed other mem
    refine ⟨by omega, fun ⟨ticket', found, status⟩ => free ⟨ticket', ?_, status⟩⟩
    rwa [Function.update_of_ne (by omega)] at found
  entries entry mem := by
    rcases List.mem_append.mp mem with mem | mem
    · obtain ⟨other, key, ⟨ticket', found, status⟩, read⟩ :=
        h.entries entry (RedisDb.mem_hdel.mp mem).1
      have apart : other ≠ new := fun same =>
        (RedisDb.mem_hdel.mp mem).2 (by rw [key, same])
      exact ⟨other, key, ⟨ticket', by rwa [Function.update_of_ne apart], status⟩, read⟩
    · rw [List.mem_singleton.mp mem]
      exact ⟨new, rfl, ⟨ticket, Function.update_self .., reserved⟩, written⟩

/-- **Tickets are settled**: they are no longer `RESERVED`, and slots are given back. -/
theorem settle {slots : Int → Int} (h : Mirrors types tickets issued r) (le : issued ≤ issued')
    (lowered : ∀ id, Option.Rel (Lowered (slots id)) (types id) (types' id))
    (inventory : ∀ id, r'.inventory id = (r.inventory id).map (· + slots id))
    (kept : ∀ id, ReservedIn tickets' id → ReservedIn tickets id)
    (processed : ∀ id : Int, toString id ∈ r'.canceledTickets →
      toString id ∈ r.canceledTickets ∨
      (id ≤ issued' ∧ ¬ ReservedIn tickets' id))
    (entries : ∀ entry ∈ r'.activeReservations, entry ∈ r.activeReservations ∧
      ∀ id : Int, entry.1 = toString id → ReservedIn tickets id → ReservedIn tickets' id) :
    Mirrors types' tickets' issued' r' where
  counters id k counter := by
    rw [inventory] at counter
    obtain ⟨k₀, before, rfl⟩ := Option.map_eq_some_iff.mp counter
    obtain ⟨row, stored, rfl⟩ := h.counters id k₀ before
    have rows := lowered id
    rw [stored] at rows
    generalize types' id = now at rows
    cases rows with
    | @some _ row' less =>
        refine ⟨row', rfl, ?_⟩
        have quantity := less.ticketsQuantity
        have sold := less.ticketsSold
        omega
  processed id mem := by
    rcases processed id mem with old | new
    · obtain ⟨known, free⟩ := h.processed id old
      exact ⟨by omega, fun reserved => free (kept id reserved)⟩
    · exact new
  entries entry mem := by
    obtain ⟨old, stays⟩ := entries entry mem
    obtain ⟨id, key, reserved, read⟩ := h.entries entry old
    exact ⟨id, key, stays id key reserved, read⟩

/-- One ticket is settled, and its entry goes. -/
theorem leave {slots : Int → Int} {version : Option Ticket} (h : Mirrors types tickets issued r)
    (settled : ∀ ticket, version = some ticket → ticket.status ≠ .reserved)
    (lowered : ∀ id, Option.Rel (Lowered (slots id)) (types id) (types' id))
    (inventory : ∀ id, r'.inventory id = (r.inventory id).map (· + slots id))
    (processed : ∀ other : Int, toString other ∈ r'.canceledTickets →
      toString other ∈ r.canceledTickets ∨
      (other = id ∧ id ≤ issued))
    (entries : r'.activeReservations = r.activeReservations) :
    Mirrors types' (Function.update tickets id version) issued (r'.hdel (toString id)) := by
  have left : ¬ ReservedIn (Function.update tickets id version) id :=
    fun ⟨ticket, found, status⟩ => by
    rw [Function.update_self] at found
    exact settled ticket found status
  refine h.settle le_rfl lowered inventory (fun other reserved => ?_) (fun other mem => ?_)
    fun entry mem => ?_
  · by_cases same : other = id
    · subst same
      exact (left reserved).elim
    · obtain ⟨ticket, found, status⟩ := reserved
      rw [Function.update_of_ne same] at found
      exact ⟨ticket, found, status⟩
  · rcases processed other mem with old | ⟨rfl, known⟩
    · exact .inl old
    · exact .inr ⟨known, left⟩
  · obtain ⟨old, other⟩ := RedisDb.mem_hdel.mp mem
    rw [entries] at old
    refine ⟨old, fun id' key ⟨ticket, found, status⟩ => ⟨ticket, ?_, status⟩⟩
    have apart : id' ≠ id := fun same => other (by rw [key, same])
    rw [Function.update_of_ne apart, found]

/-- What is left after Redis has lost keys still says what the rows say. -/
theorem forget (h : Mirrors types tickets issued r)
    (inventory : ∀ id, r'.inventory id = none ∨ r'.inventory id = r.inventory id)
    (processed : r'.canceledTickets ⊆ r.canceledTickets)
    (entries : r'.activeReservations ⊆ r.activeReservations) :
    Mirrors types tickets issued r' where
  counters id k counter := by
    rcases inventory id with gone | kept
    · rw [gone] at counter
      cases counter
    · rw [kept] at counter
      exact h.counters id k counter
  processed id mem := h.processed id (processed mem)
  entries entry mem := h.entries entry (entries mem)

end Mirrors

end TicketCore
