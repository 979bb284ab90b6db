import TicketCore.Database
import Mathlib.Algebra.BigOperators.Ring.Finset

/-!
# The box office

What the database is for, in its own terms: every ticket type has `tickets_sold` slots taken, one
for each of its tickets that is `RESERVED` or `SOLD`. A `Change` is what one committed transaction
may do to the books: a ticket is booked, removed, paid for, or a set of tickets is canceled.

* `Ledgered` says that the books are in order: `tickets_sold` is the number of active tickets.
* `Balanced` says that between two states every type's `tickets_sold` has moved with the number of
  its active tickets; it is reflexive and transitive, and carries `Ledgered` along.
* `Settled` says that between two states tickets have only been settled, each at most once:
  `RESERVED` has become `SOLD` or `CANCELED`, and nothing else has changed.
* `Change.Commits` is what a change does; `Change.Commits.settled` says which changes settle.
-/

namespace TicketCore

open RowStore

/-- A ticket of this type that is `RESERVED` or `SOLD`. -/
def ActiveOf (ticketTypeId : Int) (ticket : Ticket) : Prop :=
  ticket.ticketTypeId = ticketTypeId ∧ ticket.Active

instance (ticketTypeId : Int) : DecidablePred (ActiveOf ticketTypeId) :=
  fun _ => inferInstanceAs (Decidable (_ ∧ _))

/-- The ticket with its status changed. -/
def Ticket.withStatus (ticket : Ticket) (status : TicketStatus) : Ticket :=
  { ticket with status := status }

@[simp] theorem Ticket.withStatus_status (ticket : Ticket) (status : TicketStatus) :
    (ticket.withStatus status).status = status := rfl

@[simp] theorem Ticket.withStatus_ticketTypeId (ticket : Ticket) (status : TicketStatus) :
    (ticket.withStatus status).ticketTypeId = ticket.ticketTypeId := rfl

/-- What a row contributes to the number of active tickets of a type. -/
def slots (ticketTypeId : Int) (row : Option Ticket) : Int :=
  weigh (indicator (ActiveOf ticketTypeId)) row

section Slots

variable {ticketTypeId : Int} {ticket : Ticket}

@[simp] theorem slots_none : slots ticketTypeId none = 0 := rfl

theorem slots_some :
    slots ticketTypeId (some ticket) = if ActiveOf ticketTypeId ticket then 1 else 0 := rfl

theorem slots_active (active : ticket.Active) :
    slots ticketTypeId (some ticket) = if ticket.ticketTypeId = ticketTypeId then 1 else 0 := by
  rw [slots_some]
  by_cases same : ticket.ticketTypeId = ticketTypeId
  · rw [if_pos ⟨same, active⟩, if_pos same]
  · rw [if_neg fun h => same h.1, if_neg same]

theorem slots_canceled :
    slots ticketTypeId (some (ticket.withStatus .canceled)) = 0 := by
  rw [slots_some, if_neg fun h => h.2 rfl]

theorem slots_nonneg (row : Option Ticket) : 0 ≤ slots ticketTypeId row := by
  cases row with
  | none => exact le_rfl
  | some ticket => rw [slots_some]; split <;> decide

theorem Ticket.active_of_reserved (reserved : ticket.status = .reserved) : ticket.Active := by
  unfold Ticket.Active
  rw [reserved]
  decide

end Slots

variable {ι : Type}

namespace Database

/-- The number of `RESERVED` or `SOLD` tickets of a type. -/
def activeTickets (db : Database ι) (ticketTypeId : Int) : Int :=
  db.tickets.count (ActiveOf ticketTypeId)

/-- `tickets_sold` is the number of active tickets, for every ticket type. -/
def Ledgered (db : Database ι) : Prop :=
  ∀ ticketTypeId row, db.ticketTypes.row ticketTypeId = some row →
    row.ticketsSold = db.activeTickets ticketTypeId

theorem ledgered_iff {db : Database ι} : db.Ledgered ↔
    ∀ id ∈ serials db.ticketTypes.issued,
      (db.ticketTypes.row id).all fun row => row.ticketsSold = db.activeTickets id := by
  constructor
  · intro ledgered id _
    cases stored : db.ticketTypes.row id with
    | none => rfl
    | some row => exact decide_eq_true (ledgered id row stored)
  · intro within id row stored
    have known := db.ticketTypes.row_issued id (by rw [stored]; rfl)
    have checked := within id (mem_serials.mpr known)
    rw [stored] at checked
    exact of_decide_eq_true checked

instance (db : Database ι) : Decidable db.Ledgered := decidable_of_iff _ ledgered_iff.symm

/-- The books are in order and so nothing is oversold. -/
theorem Ledgered.not_oversold {db : Database ι} (ledgered : db.Ledgered) {ticketTypeId : Int}
    {row : TicketType} (stored : db.ticketTypes.row ticketTypeId = some row) :
    db.activeTickets ticketTypeId ≤ row.ticketsQuantity := by
  rw [← ledgered ticketTypeId row stored]
  exact row.check_sold_limit

/-- A set of rows takes up at most the active tickets. -/
theorem sum_slots_le (db : Database ι) (ticketTypeId : Int) (ids : Finset Int) :
    ∑ id ∈ ids, slots ticketTypeId (db.tickets.row id) ≤ db.activeTickets ticketTypeId := by
  refine sum_le_total (fun ticket => ?_) ids
  show 0 ≤ slots ticketTypeId (some ticket)
  exact slots_nonneg _

theorem slots_le (db : Database ι) (ticketTypeId id : Int) :
    slots ticketTypeId (db.tickets.row id) ≤ db.activeTickets ticketTypeId := by
  have single := db.sum_slots_le ticketTypeId {id}
  rwa [Finset.sum_singleton] at single

/-! ## Balance -/

/-- A row of `ticket_types` after its count has moved by `delta`. -/
def Moved (delta : Int) (before after : Option TicketType) : Prop :=
  match before, after with
  | none, none => True
  | some row, some row' => row'.ticketsSold = row.ticketsSold + delta ∧
      row'.ticketsQuantity = row.ticketsQuantity
  | _, _ => False

/-- Every type's count has moved with the number of its active tickets. -/
def Balanced (db db' : Database ι) : Prop :=
  ∀ ticketTypeId, Moved (db'.activeTickets ticketTypeId - db.activeTickets ticketTypeId)
    (db.ticketTypes.row ticketTypeId) (db'.ticketTypes.row ticketTypeId)

theorem Moved.refl (row : Option TicketType) : Moved 0 row row := by
  cases row with
  | none => trivial
  | some row => exact ⟨(add_zero _).symm, rfl⟩

theorem Moved.trans {a b c : Option TicketType} {delta delta' : Int} (h : Moved delta a b)
    (h' : Moved delta' b c) : Moved (delta + delta') a c := by
  unfold Moved at h
  split at h
  · cases c with
    | none => trivial
    | some row => exact h'.elim
  · cases c with
    | none => exact h'.elim
    | some row => exact ⟨by rw [h'.1, h.1, add_assoc], h'.2.trans h.2⟩
  · exact h.elim

theorem Moved.of_addTicketsSold {row row' : TicketType} {delta : Int}
    (ok : row.addTicketsSold delta = .ok row') : Moved delta (some row) (some row') :=
  TicketType.addTicketsSold_ok ok

theorem Moved.isSome {a b : Option TicketType} {delta : Int} (h : Moved delta a b) :
    b.isSome = a.isSome := by
  unfold Moved at h
  split at h
  · rfl
  · rfl
  · exact h.elim

variable {db db' db'' : Database ι}

theorem Balanced.refl (db : Database ι) : db.Balanced db := fun ticketTypeId => by
  rw [sub_self]
  exact .refl _

theorem Balanced.trans (h : db.Balanced db') (h' : db'.Balanced db'') : db.Balanced db'' := by
  intro ticketTypeId
  have moved := (h ticketTypeId).trans (h' ticketTypeId)
  rwa [sub_add_sub_comm, add_comm (db'.activeTickets ticketTypeId), add_sub_add_right_eq_sub]
    at moved

theorem Balanced.of_rows (tickets : db'.tickets.row = db.tickets.row)
    (types : db'.ticketTypes.row = db.ticketTypes.row) : db.Balanced db' := by
  intro ticketTypeId
  have same : db'.activeTickets ticketTypeId = db.activeTickets ticketTypeId :=
    total_congr fun id => by rw [tickets]
  rw [same, types, sub_self]
  exact .refl _

/-- A balanced change keeps the books in order. -/
theorem Balanced.ledgered (h : db.Balanced db') (ledgered : db.Ledgered) : db'.Ledgered := by
  intro ticketTypeId row' stored'
  have moved := h ticketTypeId
  rw [stored'] at moved
  cases stored : db.ticketTypes.row ticketTypeId with
  | none => rw [stored] at moved; exact moved.elim
  | some row =>
      rw [stored] at moved
      rw [moved.1, ledgered ticketTypeId row stored]
      omega

/-! ## Settlement -/

/-- A row of `tickets` after it may have been settled. -/
def SettledRow (before after : Option Ticket) : Prop :=
  after = before ∨ ∃ ticket, before = some ticket ∧ ticket.status = .reserved ∧
    (after = some (ticket.withStatus .sold) ∨ after = some (ticket.withStatus .canceled))

/-- Tickets have only been settled. -/
def Settled (db db' : Database ι) : Prop :=
  ∀ id, SettledRow (db.tickets.row id) (db'.tickets.row id)

theorem Settled.refl (db : Database ι) : db.Settled db := fun _ => .inl rfl

/-- A ticket that has left `RESERVED` stays as it is. -/
theorem SettledRow.frozen {before after : Option Ticket} (h : SettledRow before after)
    {ticket : Ticket} (stored : before = some ticket) (left : ticket.status ≠ .reserved) :
    after = some ticket := by
  rcases h with same | ⟨ticket', stored', reserved, _⟩
  · rw [same, stored]
  · rw [stored] at stored'
    cases stored'
    exact (left reserved).elim

theorem SettledRow.trans {a b c : Option Ticket} (h : SettledRow a b) (h' : SettledRow b c) :
    SettledRow a c := by
  rcases h with rfl | ⟨ticket, rfl, reserved, rfl | rfl⟩
  · exact h'
  · have left : (ticket.withStatus .sold).status ≠ .reserved := nofun
    exact .inr ⟨ticket, rfl, reserved, .inl (h'.frozen rfl left)⟩
  · have left : (ticket.withStatus .canceled).status ≠ .reserved := nofun
    exact .inr ⟨ticket, rfl, reserved, .inr (h'.frozen rfl left)⟩

theorem Settled.trans (h : db.Settled db') (h' : db'.Settled db'') : db.Settled db'' :=
  fun id => (h id).trans (h' id)

/-- A ticket of this type that was `RESERVED` has become `CANCELED`. -/
def WentToCanceled (ticketTypeId : Int) (before after : Option Ticket) : Prop :=
  (before.any fun ticket => ticket.ticketTypeId = ticketTypeId ∧ ticket.status = .reserved) ∧
    after.any fun ticket => ticket.status = .canceled

instance (ticketTypeId : Int) (before after : Option Ticket) :
    Decidable (WentToCanceled ticketTypeId before after) :=
  inferInstanceAs (Decidable (_ ∧ _))

/-- The number of tickets of this type that have gone from `RESERVED` to `CANCELED`. -/
def canceledSince (db db' : Database ι) (ticketTypeId : Int) : Nat :=
  ((serials db.tickets.issued).filter fun id =>
    WentToCanceled ticketTypeId (db.tickets.row id) (db'.tickets.row id)).card

/-- A ticket gives its slot back when it goes to `CANCELED`, and only then. -/
theorem SettledRow.slots {before after : Option Ticket} {ticketTypeId : Int}
    (h : SettledRow before after) :
    TicketCore.slots ticketTypeId after - TicketCore.slots ticketTypeId before =
      if WentToCanceled ticketTypeId before after then -1 else 0 := by
  rcases h with rfl | ⟨ticket, rfl, reserved, rfl | rfl⟩
  · rw [sub_self, if_neg]
    rintro ⟨was, is⟩
    obtain ⟨ticket, rfl, status⟩ := (Option.any_eq_true _ _).mp was
    have reserved := (of_decide_eq_true status).2
    have canceled : ticket.status = .canceled := of_decide_eq_true is
    rw [canceled] at reserved
    cases reserved
  · have active : (ticket.withStatus .sold).Active := nofun
    rw [slots_active active, slots_active (Ticket.active_of_reserved reserved),
      Ticket.withStatus_ticketTypeId, sub_self, if_neg]
    rintro ⟨_, is⟩
    cases is
  · rw [slots_canceled, slots_active (Ticket.active_of_reserved reserved)]
    by_cases same : ticket.ticketTypeId = ticketTypeId
    · rw [if_pos same, if_pos]
      · rfl
      · exact ⟨decide_eq_true ⟨same, reserved⟩, rfl⟩
    · rw [if_neg same, if_neg]
      · rfl
      · exact fun went => same (of_decide_eq_true went.1).1

/-- Settlement takes as many active tickets away as have gone to `CANCELED`. -/
theorem Settled.activeTickets {db db' : Database ι} (h : db.Settled db') (ticketTypeId : Int) :
    db'.activeTickets ticketTypeId =
      db.activeTickets ticketTypeId - db.canceledSince db' ticketTypeId := by
  have agree : ∀ id ∉ serials db.tickets.issued,
      db'.tickets.row id = db.tickets.row id := by
    intro id out
    have absent : db.tickets.row id = none :=
      row_none_of_not_issued fun known => out (mem_serials.mpr known)
    rcases h id with same | ⟨ticket, stored, _⟩
    · exact same
    · rw [absent] at stored
      cases stored
  have moved : db'.activeTickets ticketTypeId = db.activeTickets ticketTypeId +
      ∑ id ∈ serials db.tickets.issued,
        (slots ticketTypeId (db'.tickets.row id) - slots ticketTypeId (db.tickets.row id)) :=
    total_eq_add _ agree
  have each : ∑ id ∈ serials db.tickets.issued,
      (slots ticketTypeId (db'.tickets.row id) - slots ticketTypeId (db.tickets.row id)) =
      -(db.canceledSince db' ticketTypeId : Int) := by
    rw [Finset.sum_congr rfl fun id _ => (h id).slots, ← Finset.sum_filter, Finset.sum_const,
      nsmul_eq_mul, mul_neg_one]
    rfl
  rw [moved, each]
  rfl

end Database

/-! ## Changes -/

/-- What a committed transaction may do to the books. -/
inductive Change
  | booked (id : Int)
  | removed (id : Int)
  | paid (id : Int)
  | canceled (ids : Finset Int)

namespace Change

/-- What a change does to the tickets. -/
def Moves (before after : Int → Option Ticket) : Change → Prop
  | booked id => before id = none ∧
      ∃ ticket : Ticket, ticket.status = .reserved ∧
      after = Function.update before id (some ticket)
  | removed id => ∃ ticket, before id = some ticket ∧ ticket.Active ∧
      after = Function.update before id none
  | paid id => ∃ ticket, before id = some ticket ∧ ticket.status = .reserved ∧
      after = Function.update before id (some (ticket.withStatus .sold))
  | canceled ids =>
      (∀ id ∈ ids, ∃ ticket, before id = some ticket ∧ ticket.status = .reserved) ∧
      after = fun id => if id ∈ ids then (before id).map (·.withStatus .canceled) else before id

/-- A change as a committed transaction makes it: the tickets move, and every type's `tickets_sold`
with them. -/
structure Commits (change : Change) (db db' : Database ι) : Prop where
  moves : change.Moves db.tickets.row db'.tickets.row
  balanced : db.Balanced db'

/-- A change other than a booking takes up no slot. -/
theorem Moves.slots_le {change : Change} {before after : Int → Option Ticket}
    (h : change.Moves before after) (frees : ∀ id, change ≠ booked id) (ticketTypeId id : Int) :
    slots ticketTypeId (after id) ≤ slots ticketTypeId (before id) := by
  cases change with
  | booked id' => exact (frees id' rfl).elim
  | removed id' =>
      obtain ⟨ticket, _, _, rfl⟩ := h
      by_cases same : id = id'
      · subst same
        rw [Function.update_self, slots_none]
        exact slots_nonneg _
      · rw [Function.update_of_ne same]
  | paid id' =>
      obtain ⟨ticket, stored, reserved, rfl⟩ := h
      by_cases same : id = id'
      · subst same
        have active : (ticket.withStatus .sold).Active := nofun
        rw [Function.update_self, stored, slots_active active,
          slots_active (Ticket.active_of_reserved reserved), Ticket.withStatus_ticketTypeId]
      · rw [Function.update_of_ne same]
  | canceled ids =>
      obtain ⟨all, rfl⟩ := h
      dsimp only
      split
      · rename_i mem
        obtain ⟨ticket, stored, _⟩ := all id mem
        rw [stored, Option.map_some, slots_canceled]
        exact slots_nonneg _
      · exact le_rfl

/-- A change that takes an active ticket away changes the number of its type's active tickets. -/
theorem Commits.keeps_active {change : Change} {db db' : Database ι}
    (h : change.Commits db db') {ticketTypeId id : Int}
    (active : slots ticketTypeId (db.tickets.row id) = 1) :
    slots ticketTypeId (db'.tickets.row id) = 1 ∨
      db'.activeTickets ticketTypeId ≠ db.activeTickets ticketTypeId := by
  by_cases booking : ∃ id', change = booked id'
  · obtain ⟨id', rfl⟩ := booking
    obtain ⟨absent, ticket, _, after⟩ := h.moves
    have other : id ≠ id' := by
      rintro rfl
      rw [absent, slots_none] at active
      exact absurd active (by decide)
    left
    rw [after, Function.update_of_ne other, active]
  · have le := h.moves.slots_le (fun id' same => booking ⟨id', same⟩) ticketTypeId
    by_cases kept : slots ticketTypeId (db'.tickets.row id) = 1
    · exact .inl kept
    · have lt : slots ticketTypeId (db'.tickets.row id) < slots ticketTypeId (db.tickets.row id) :=
        lt_of_le_of_ne (le id) (by rw [active]; exact kept)
      exact .inr (ne_of_lt (total_lt le lt))

/-- A payment or a cancellation. -/
def Settles : Change → Prop
  | booked _ | removed _ => False
  | paid _ | canceled _ => True

theorem Commits.settled {change : Change} {db db' : Database ι} (h : change.Commits db db')
    (settles : change.Settles) : db.Settled db' := by
  intro id'
  have moves := h.moves
  cases change with
  | booked id => exact settles.elim
  | removed id => exact settles.elim
  | paid id =>
      obtain ⟨ticket, stored, reserved, after⟩ := moves
      rw [after]
      by_cases same : id' = id
      · subst same
        rw [Function.update_self]
        exact .inr ⟨ticket, stored, reserved, .inl rfl⟩
      · rw [Function.update_of_ne same]
        exact .inl rfl
  | canceled ids =>
      obtain ⟨all, after⟩ := moves
      rw [after]
      dsimp only
      split
      · rename_i mem
        obtain ⟨ticket, stored, reserved⟩ := all id' mem
        rw [stored]
        exact .inr ⟨ticket, rfl, reserved, .inr rfl⟩
      · exact .inl rfl

end Change

end TicketCore
