import TicketCore.Api
import TicketCore.Interleave.Tally

/-!
# The invariant of a flash sale

Many bookings of one ticket type at the same time, and nothing else. A `Phase` is how far one
booking has come; the invariant relates the inventory counter to the bookings that have taken a slot
from it and not yet committed, and to `tickets_sold`.

* `Sale.taken` counts the slots that are sold or on their way to be sold. The counter never promises
  less than what is left over: `quantity ≤ taken + counter`. A booking that overwrites the counter
  with a stale value only ever promises too much, and then the `CHECK` of the table decides.
* A booking is turned away only once `quantity ≤ taken`, and that stays so.
* `Sale.Inv.next` says what one call owes to keep the invariant.
-/

namespace TicketCore

open Interleave RowStore

/-- How far a booking has come. -/
inductive Phase
  /-- Nothing is taken from the counter yet. -/
  | start
  /-- The counter is missing, and `left` slots were left in the database. -/
  | read (left : Int)
  /-- The counter has been filled. -/
  | warmed
  /-- A slot is taken from the counter. -/
  | reserved
  /-- The type's row is locked and charged. -/
  | charged (row row' : TicketType)
  /-- The ticket is inserted, too. -/
  | inserted (row row' : TicketType) (id : Int) (ticket : Ticket)
  | committed (id : Int)
  /-- The `CHECK` has turned the booking away, but the slot is not given back yet. -/
  | failing
  | lost

namespace Phase

/-- The ticket the booking has locked. -/
def tickets : Phase → Locks Ticket
  | inserted _ _ id ticket => Locks.none.add id none (some ticket)
  | _ => Locks.none

/-- The ticket type the booking has locked. -/
def types (ticketTypeId : Int) : Phase → Locks TicketType
  | charged row row' | inserted row row' _ _ =>
      Locks.none.add ticketTypeId (some row) (some row')
  | _ => Locks.none

/-- One for a booking that has taken a slot and may still commit. -/
def inflight : Phase → Int
  | reserved | charged .. | inserted .. => 1
  | _ => 0

/-- One for a booking that has committed. -/
def won : Phase → Int
  | committed _ => 1
  | _ => 0

/-- The booking is turned away. -/
def Lost : Phase → Prop
  | failing | lost => True
  | _ => False

theorem inflight_nonneg (g : Phase) : 0 ≤ g.inflight := by
  unfold inflight
  split <;> decide

end Phase

/-- A ticket type on sale, with its count at the start, in a deployment with these users. -/
structure Sale where
  ticketTypeId : Int
  quantity : Int
  sold : Int
  deployment : Deployment
  users : Finset Int

namespace Sale

variable {ι : Type} [Fintype ι] [DecidableEq ι] (sale : Sale)

/-- The inventory counter. -/
def counter (w : World ι) : Option Int :=
  (w.redis sale.deployment.apiRedis).inventory sale.ticketTypeId

/-- What `tickets_sold` has come to. -/
def soldNow (ghost : ι → Phase) : Int := sale.sold + tally Phase.won ghost

/-- The slots that are sold or on their way to be sold. -/
def taken (ghost : ι → Phase) : Int := sale.soldNow ghost + tally Phase.inflight ghost

/-- What a booking relies on, with `sold` slots sold by now. -/
def Known (sold : Int) (w : World ι) : Phase → Prop
  | .read left => 0 ≤ left ∧ sale.quantity ≤ sold + left
  | .warmed => (sale.counter w).isSome
  | .charged row row' => row.addTicketsSold 1 = .ok row'
  | .inserted row row' _ _ => row.addTicketsSold 1 = .ok row'
  | .committed id => (w.db.tickets.row id).isSome
  | _ => True

/-- The invariant of a flash sale. -/
structure Inv (events : List (CallEvent ι)) (w : World ι) (ghost : ι → Phase) : Prop where
  tickets : ∀ t, w.db.tickets.Holds t (ghost t).tickets
  types : ∀ t, w.db.ticketTypes.Holds t ((ghost t).types sale.ticketTypeId)
  users : w.db.users = sale.users
  stored : ∃ row, w.db.ticketTypes.row sale.ticketTypeId = some row ∧
    row.ticketsQuantity = sale.quantity ∧ row.ticketsSold = sale.soldNow ghost
  known : ∀ t, sale.Known (sale.soldNow ghost) w (ghost t)
  counted : ∀ k, sale.counter w = some k → 0 ≤ k ∧ sale.quantity ≤ sale.taken ghost + k
  lost : ∀ t, (ghost t).Lost → sale.quantity ≤ sale.taken ghost
  nonneg : ∀ e ∈ events, ∀ k, sale.counter e.after = some k → 0 ≤ k

variable {sale} {events : List (CallEvent ι)} {w w' : World ι} {ghost : ι → Phase} {t : ι}
  {g g' : Phase} {cmd : Cmd} {choice : Choice} {answer : Except Exn cmd.Resp}

omit [DecidableEq ι] in
theorem soldNow_le_taken : sale.soldNow ghost ≤ sale.taken ghost := by
  have := tally_nonneg Phase.inflight_nonneg ghost
  unfold taken
  omega

theorem soldNow_update :
    sale.soldNow (Function.update ghost t g') =
      sale.soldNow ghost + (g'.won - (ghost t).won) := by
  unfold soldNow
  rw [tally_update]
  omega

theorem taken_update :
    sale.taken (Function.update ghost t g') = sale.taken ghost +
      (g'.won + g'.inflight - ((ghost t).won + (ghost t).inflight)) := by
  unfold taken
  rw [soldNow_update, tally_update]
  omega

omit [Fintype ι] [DecidableEq ι] in
/-- What a booking relies on stays true while the others go on. -/
theorem Known.later {sold sold' : Int} (h : sale.Known sold w g) (more : sold ≤ sold')
    (key : (sale.counter w).isSome → (sale.counter w').isSome)
    (rows : ∀ id, (w.db.tickets.row id).isSome → (w'.db.tickets.row id).isSome) :
    sale.Known sold' w' g := by
  cases g with
  | read left => exact ⟨h.1, h.2.trans (by omega)⟩
  | warmed => exact key h
  | charged row row' | inserted row row' id ticket => exact h
  | committed id => exact rows id h
  | start | reserved | failing | lost => trivial

/-- What one call owes to keep the invariant. -/
theorem Inv.next (h : sale.Inv events w ghost) (own : ghost t = g)
    (tickets : w'.db.tickets.Holds t g'.tickets)
    (types : w'.db.ticketTypes.Holds t (g'.types sale.ticketTypeId))
    (tickets' : ∀ u, u ≠ t → ∀ m, w.db.tickets.Holds u m → w'.db.tickets.Holds u m)
    (types' : ∀ u, u ≠ t → ∀ m, w.db.ticketTypes.Holds u m → w'.db.ticketTypes.Holds u m)
    (users : w'.db.users = w.db.users)
    (stored : ∀ row, w.db.ticketTypes.row sale.ticketTypeId = some row →
      ∃ row', w'.db.ticketTypes.row sale.ticketTypeId = some row' ∧
        row'.ticketsQuantity = row.ticketsQuantity ∧
        row'.ticketsSold = row.ticketsSold + (g'.won - g.won))
    (rows : ∀ id, (w.db.tickets.row id).isSome → (w'.db.tickets.row id).isSome)
    (key : (sale.counter w).isSome → (sale.counter w').isSome) (more : g.won ≤ g'.won)
    (known : sale.Known (sale.soldNow ghost) w' g') (counted : ∀ k, sale.counter w' = some k →
      0 ≤ k ∧ sale.quantity ≤ sale.taken (Function.update ghost t g') + k)
    (lost : (∃ u, (ghost u).Lost) ∨ g'.Lost →
      sale.quantity ≤ sale.taken (Function.update ghost t g')) :
    sale.Inv (events ++ [⟨t, cmd, choice, answer, w, w'⟩]) w' (Function.update ghost t g') := by
  subst own
  have grows : sale.soldNow ghost ≤ sale.soldNow (Function.update ghost t g') := by
    rw [soldNow_update]
    omega
  refine ⟨?_, ?_, users.trans h.users, ?_, ?_, counted, ?_, ?_⟩
  · exact (Function.forall_update_iff ghost fun u g => w'.db.tickets.Holds u g.tickets).mpr
      ⟨tickets, fun u other => tickets' u other _ (h.tickets u)⟩
  · exact (Function.forall_update_iff ghost fun u g =>
      w'.db.ticketTypes.Holds u (g.types sale.ticketTypeId)).mpr
      ⟨types, fun u other => types' u other _ (h.types u)⟩
  · obtain ⟨row, found, quantity, sold⟩ := h.stored
    obtain ⟨row', found', quantity', sold'⟩ := stored row found
    exact ⟨row', found', quantity'.trans quantity, by rw [sold', sold, soldNow_update]⟩
  · exact (Function.forall_update_iff ghost fun _ g =>
      sale.Known (sale.soldNow (Function.update ghost t g')) w' g).mpr
      ⟨known.later grows id fun _ => id, fun u _ => (h.known u).later grows key rows⟩
  · intro u turned
    by_cases same : u = t
    · subst same
      rw [Function.update_self] at turned
      exact lost (.inr turned)
    · rw [Function.update_of_ne same] at turned
      exact lost (.inl ⟨u, turned⟩)
  · intro e mem k value
    rcases List.mem_append.mp mem with mem | mem
    · exact h.nonneg e mem k value
    · rw [List.mem_singleton.mp mem] at value
      exact (counted k value).1

/-- A call that leaves the database alone, by a booking that neither commits nor locks. -/
theorem Inv.redis (h : sale.Inv events w ghost) (own : ghost t = g) (same : w'.db = w.db)
    (tickets : g'.tickets = g.tickets)
    (types : g'.types sale.ticketTypeId = g.types sale.ticketTypeId) (won : g'.won = g.won)
    (key : (sale.counter w).isSome → (sale.counter w').isSome)
    (known : sale.Known (sale.soldNow ghost) w' g') (counted : ∀ k, sale.counter w' = some k →
      0 ≤ k ∧ sale.quantity ≤ sale.taken (Function.update ghost t g') + k)
    (lost : (∃ u, (ghost u).Lost) ∨ g'.Lost →
      sale.quantity ≤ sale.taken (Function.update ghost t g')) :
    sale.Inv (events ++ [⟨t, cmd, choice, answer, w, w'⟩]) w' (Function.update ghost t g') := by
  subst own
  have myTickets := h.tickets t
  have myTypes := h.types t
  refine h.next rfl ?_ ?_ ?_ ?_ (by rw [same]) ?_ ?_ key (by rw [won]) known counted lost
  · rw [same, tickets]
    exact myTickets
  · rw [same, types]
    exact myTypes
  · rw [same]
    exact fun _ _ _ held => held
  · rw [same]
    exact fun _ _ _ held => held
  · intro row found
    rw [same]
    exact ⟨row, found, rfl, by rw [won, sub_self, add_zero]⟩
  · rw [same]
    exact fun _ present => present

/-- A statement, by a booking that goes on with the slots it has taken. -/
theorem Inv.statement {db' : Database ι} (h : sale.Inv events w ghost) (own : ghost t = g)
    (changed : w' = { w with db := db' }) (tickets : db'.tickets.Holds t g'.tickets)
    (types : db'.ticketTypes.Holds t (g'.types sale.ticketTypeId))
    (tickets' : ∀ u, u ≠ t → ∀ m, w.db.tickets.Holds u m → db'.tickets.Holds u m)
    (types' : ∀ u, u ≠ t → ∀ m, w.db.ticketTypes.Holds u m → db'.ticketTypes.Holds u m)
    (users : db'.users = w.db.users)
    (stored : ∀ row, w.db.ticketTypes.row sale.ticketTypeId = some row →
      ∃ row', db'.ticketTypes.row sale.ticketTypeId = some row' ∧
        row'.ticketsQuantity = row.ticketsQuantity ∧
        row'.ticketsSold = row.ticketsSold + (g'.won - g.won))
    (rows : ∀ id, (w.db.tickets.row id).isSome → (db'.tickets.row id).isSome)
    (more : g.won ≤ g'.won) (known : sale.Known (sale.soldNow ghost) { w with db := db' } g')
    (keeps : g'.won + g'.inflight = g.won + g.inflight) (lost : g'.Lost → g.Lost) :
    sale.Inv (events ++ [⟨t, cmd, choice, answer, w, w'⟩]) w' (Function.update ghost t g') := by
  subst own changed
  have taken : sale.taken (Function.update ghost t g') = sale.taken ghost := by
    rw [taken_update, keeps, sub_self, add_zero]
  refine h.next rfl tickets types tickets' types' users stored rows id more known ?_ ?_
  · rw [taken]
    exact h.counted
  · rw [taken]
    rintro (⟨u, turned⟩ | turned)
    · exact h.lost u turned
    · exact h.lost t (lost turned)

/-- A call that neither the counter nor the database notices. -/
theorem Inv.stutter (h : sale.Inv events w ghost) (own : ghost t = g) (same : w'.db = w.db)
    (counter : sale.counter w' = sale.counter w) :
    sale.Inv (events ++ [⟨t, cmd, choice, answer, w, w'⟩]) w' (Function.update ghost t g) := by
  have idle : Function.update ghost t g = ghost := by rw [← own, Function.update_eq_self]
  refine h.redis own same rfl rfl rfl (by rw [counter]; exact id) ?_ ?_ ?_
  · rw [← own]
    exact (h.known t).later le_rfl (by rw [counter]; exact id) fun _ present => by rwa [same]
  · rw [idle, counter]
    exact h.counted
  · rw [idle]
    rintro (⟨u, turned⟩ | turned)
    · exact h.lost u turned
    · exact h.lost t (by rwa [own])

end Sale

end TicketCore
