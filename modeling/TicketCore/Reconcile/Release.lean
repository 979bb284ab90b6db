import TicketCore.Alone
import TicketCore.BoxOffice

/-!
# Giving back slots

What a transaction that runs alone leaves behind when it cancels tickets and gives back their slots:
one ticket at a time, or many at once.

* `Releasing` relates the world of the start to the one reached, by the tickets canceled and the
  slots given back so far; each statement has a lemma that moves it on.
* `Releasing.rows_eq` says that it determines the rows.
-/

namespace TicketCore

open Interleave RowStore

/-- A row of a ticket type, and the row with this many slots fewer sold. -/
structure Lowered (slots : Int) (row row' : TicketType) : Prop where
  name : row'.name = row.name
  price : row'.price = row.price
  ticketsQuantity : row'.ticketsQuantity = row.ticketsQuantity
  ticketsSold : row'.ticketsSold = row.ticketsSold - slots
  eventId : row'.eventId = row.eventId

namespace Lowered

variable {slots slots' delta : Int} {row row' row'' : TicketType}

theorem unique (h : Lowered slots row row') (h' : Lowered slots row row'') : row' = row'' := by
  obtain ⟨name, price, quantity, sold, eventId⟩ := h
  obtain ⟨name', price', quantity', sold', eventId'⟩ := h'
  cases row'
  cases row''
  simp only at name price quantity sold eventId name' price' quantity' sold' eventId'
  subst name price quantity sold eventId
  simp only [name', price', quantity', sold', eventId']

theorem of_addTicketsSold (changed : row.addTicketsSold delta = .ok row') :
    Lowered (-delta) row row' := by
  unfold TicketType.addTicketsSold at changed
  split at changed
  · split at changed
    · cases changed
      exact ⟨rfl, rfl, rfl, by dsimp only; omega, rfl⟩
    · cases changed
  · cases changed

theorem add (h : Lowered slots row row') (h' : Lowered slots' row' row'') :
    Lowered (slots + slots') row row'' where
  name := h'.name.trans h.name
  price := h'.price.trans h.price
  ticketsQuantity := h'.ticketsQuantity.trans h.ticketsQuantity
  ticketsSold := by rw [h'.ticketsSold, h.ticketsSold]; omega
  eventId := h'.eventId.trans h.eventId

theorem zero : Lowered 0 row row :=
  ⟨rfl, rfl, rfl, (sub_zero _).symm, rfl⟩

theorem response (h : Lowered slots row row') {id : Int} : row'.response id = row.response id := by
  unfold TicketType.response
  rw [h.name, h.price, h.ticketsQuantity, h.eventId]

/-- A row that stays, if there is one. -/
theorem still (version : Option TicketType) : Option.Rel (Lowered 0) version version := by
  cases version with
  | none => exact .none
  | some row => exact .some .zero

/-- Slots that are sold can be given back. -/
theorem next (h : Lowered slots row row') (left : slots + slots' ≤ row.ticketsSold)
    (nonneg : 0 ≤ slots') : ∃ row'', row'.addTicketsSold (-slots') = .ok row'' := by
  have sold := h.ticketsSold
  have limit := row'.check_sold_limit
  exact TicketType.addTicketsSold_isOk (by omega) (by omega)

end Lowered

/-! ## Tables that one transaction has to itself -/

section Tables

variable {ι Row : Type} {s : RowStore ι Row} {t : ι} {id : Int} {version : Option Row}

/-- No other transaction has a row locked. -/
def Unshared (s : RowStore ι Row) (t : ι) : Prop := ∀ id, s.Free t id

theorem Unshared.of_quiet (quiet : s.Quiet) : Unshared s t := fun id lock mem => by
  rw [quiet id] at mem
  cases mem

theorem Unshared.hold (h : Unshared s t) : Unshared (s.hold t id version) t := by
  by_cases known : 1 ≤ id ∧ id ≤ s.issued
  · intro other lock mem
    rw [hold_held known] at mem
    by_cases same : other = id
    · subst same
      rw [Function.update_self] at mem
      cases mem
      rfl
    · rw [Function.update_of_ne same] at mem
      exact h other lock mem
  · unfold RowStore.hold
    rw [dif_neg known]
    exact h

variable [DecidableEq ι]

theorem Unshared.release (h : Unshared s t) (id : Int) : s.release t id = none := by
  unfold RowStore.release
  split
  · rfl
  · rename_i u version held
    rw [if_pos (h id (u, version) held)]

theorem Unshared.commit (h : Unshared s t) : (s.commit t).Quiet := h.release

theorem Unshared.rollback (h : Unshared s t) : (s.rollback t).Quiet := h.release

/-- The transaction's own statements leave it the table to itself. -/
theorem Unshared.moves {s' : RowStore ι Row} {ids : Int → Prop} {grows : Prop} (h : Unshared s t)
    (moves : s.Moves t ids grows s') : Unshared s' t := by
  cases moves with
  | refl => exact h
  | skip _ => exact h
  | insert r _ => exact Unshared.hold (s := s.skip) h
  | hold version _ _ _ => exact h.hold

end Tables

/-- Transaction `t` has come from `db` to `db'` without a commit, and has the tables to itself. -/
structure Uncommitted {ι : Type} (t : ι) (db db' : Database ι) : Prop where
  tickets : db'.tickets.row = db.tickets.row
  ticketTypes : db'.ticketTypes.row = db.ticketTypes.row
  events : db'.events.row = db.events.row
  users : db'.users = db.users
  issued : db.tickets.issued ≤ db'.tickets.issued
  unshared : Unshared db'.tickets t ∧ Unshared db'.ticketTypes t ∧ Unshared db'.events t

namespace Uncommitted

variable {ι : Type} {t : ι} {db db₁ db₂ : Database ι}

theorem start (calm : db.Calm) : Uncommitted t db db where
  tickets := rfl
  ticketTypes := rfl
  events := rfl
  users := rfl
  issued := le_rfl
  unshared := ⟨.of_quiet calm.quiet.1, .of_quiet calm.quiet.2, .of_quiet calm.events⟩

variable [DecidableEq ι]

theorem next {clock : Int} {rows : List Int} {statement : DbCmd}
    {answer : Except Exn statement.Resp}
    (h : Uncommitted t db db₁) (ran : statement.run t clock rows db₁ = some (answer, db₂))
    (goes : ¬ statement.Ends) : Uncommitted t db db₂ := by
  have moved := DbCmd.moved goes ran
  exact
    { tickets := moved.tickets.row.trans h.tickets
      ticketTypes := moved.ticketTypes.row.trans h.ticketTypes
      events := moved.events.row.trans h.events
      users := moved.users.trans h.users
      issued := h.issued.trans moved.tickets.issued
      unshared := ⟨h.unshared.1.moves moved.tickets, h.unshared.2.1.moves moved.ticketTypes,
        h.unshared.2.2.moves moved.events⟩ }

/-- A commit leaves no transaction open. -/
theorem commit (h : Uncommitted t db db₁) : (db₁.commit t).Calm where
  quiet := ⟨h.unshared.1.commit, h.unshared.2.1.commit⟩
  events := h.unshared.2.2.commit

theorem rollback (h : Uncommitted t db db₁) : (db₁.rollback t).Calm where
  quiet := ⟨h.unshared.1.rollback, h.unshared.2.1.rollback⟩
  events := h.unshared.2.2.rollback

/-- A rollback gives up what has not been committed. -/
theorem rolledBack (h : Uncommitted t db db₁) : Uncommitted t db (db₁.rollback t) where
  tickets := h.tickets
  ticketTypes := h.ticketTypes
  events := h.events
  users := h.users
  issued := h.issued
  unshared :=
    ⟨.of_quiet h.rollback.quiet.1, .of_quiet h.rollback.quiet.2, .of_quiet h.rollback.events⟩

end Uncommitted

/-! ## The way of a transaction -/

variable {ι : Type} [DecidableEq ι]

/-- Transaction `t` has come from `w` to `w₁`: these tickets are canceled, so many slots of each
type are given back, and these refunds are made. -/
structure Releasing (n : Nat) (t : ι) (w : World ι) (canceled : Finset Int) (slots : Int → Int)
    (refunds : List (Int × Int)) (w₁ : World ι) : Prop where
  tickets : ∀ id, w₁.db.tickets.read t id =
    if id ∈ canceled then (w.db.tickets.row id).map (·.withStatus .canceled)
    else w.db.tickets.row id
  types : ∀ id, Option.Rel (Lowered (slots id)) (w.db.ticketTypes.row id)
    (w₁.db.ticketTypes.read t id)
  unshared : Unshared w₁.db.tickets t ∧ Unshared w₁.db.ticketTypes t
  events : w₁.db.events = w.db.events
  users : w₁.db.users = w.db.users
  redis : w₁.redis = (w.refundAll n refunds).redis
  jobs : w₁.jobs = w.jobs

namespace Releasing

variable {n : Nat} {t : ι} {w w₁ w₂ : World ι} {canceled : Finset Int} {slots : Int → Int}
  {refunds more : List (Int × Int)} {id : Int} {ticket : Ticket}

theorem start (calm : w.db.Calm) : Releasing n t w ∅ (fun _ => 0) [] w where
  tickets id := by
    rw [if_neg (Finset.notMem_empty id), read_of_not_held (heldBy_of_quiet calm.quiet.1)]
  types id := by
    rw [read_of_not_held (heldBy_of_quiet calm.quiet.2)]
    cases w.db.ticketTypes.row id with
    | none => exact .none
    | some row => exact .some .zero
  unshared := ⟨.of_quiet calm.quiet.1, .of_quiet calm.quiet.2⟩
  events := rfl
  users := rfl
  redis := by rw [World.refundAll_nil]
  jobs := rfl

/-- The ticket is locked, with a version of it that does not differ. -/
theorem lock (h : Releasing n t w canceled slots refunds w₁)
    (read : w₁.db.tickets.read t id = some ticket) :
    Releasing n t w canceled slots refunds
      { w₁ with db := { w₁.db with tickets := w₁.db.tickets.hold t id (some ticket) } } where
  tickets other := by
    rw [read_hold (read_issued (by rw [read]; rfl)), ← read, Function.update_eq_self, h.tickets]
  types := h.types
  unshared := ⟨h.unshared.1.hold, h.unshared.2⟩
  events := h.events
  users := h.users
  redis := h.redis
  jobs := h.jobs

/-- The ticket is canceled. -/
theorem cancel (h : Releasing n t w canceled slots refunds w₁)
    (read : w₁.db.tickets.read t id = some ticket) :
    Releasing n t w (insert id canceled) slots refunds
      { w₁ with db := { w₁.db with
        tickets := w₁.db.tickets.hold t id (some (ticket.withStatus .canceled)) } } where
  tickets other := by
    rw [read_hold (read_issued (by rw [read]; rfl))]
    by_cases same : other = id
    · subst same
      have before := h.tickets other
      rw [read] at before
      rw [Function.update_self, if_pos (Finset.mem_insert_self ..)]
      split at before
      · cases row : w.db.tickets.row other with
        | none =>
            rw [row] at before
            cases before
        | some first =>
            rw [row] at before
            cases before
            rfl
      · rw [← before]
        rfl
    · rw [Function.update_of_ne same, h.tickets]
      simp only [Finset.mem_insert, same, false_or]
  types := h.types
  unshared := ⟨h.unshared.1.hold, h.unshared.2⟩
  events := h.events
  users := h.users
  redis := h.redis
  jobs := h.jobs

/-- Slots of a type are given back. -/
theorem giveBack {count : Int} {row row' : TicketType}
    (h : Releasing n t w canceled slots refunds w₁)
    (read : w₁.db.ticketTypes.read t id = some row)
    (changed : row.addTicketsSold (-count) = .ok row') :
    Releasing n t w canceled (Function.update slots id (slots id + count)) refunds
      { w₁ with db := { w₁.db with
        ticketTypes := w₁.db.ticketTypes.hold t id (some row') } } where
  tickets := h.tickets
  types other := by
    rw [read_hold (read_issued (by rw [read]; rfl))]
    by_cases same : other = id
    · subst same
      have before := h.types other
      have lowered := Lowered.of_addTicketsSold changed
      rw [neg_neg] at lowered
      rw [read] at before
      rw [Function.update_self, Function.update_self]
      generalize w.db.ticketTypes.row other = first at before ⊢
      cases before with
      | some before => exact .some (before.add lowered)
    · rw [Function.update_of_ne same, Function.update_of_ne same]
      exact h.types other
  unshared := ⟨h.unshared.1, h.unshared.2.hold⟩
  events := h.events
  users := h.users
  redis := h.redis
  jobs := h.jobs

/-- There is no such type to give slots back to. -/
theorem giveBack_none {count : Int} (h : Releasing n t w canceled slots refunds w₁)
    (read : w₁.db.ticketTypes.read t id = none) :
    Releasing n t w canceled (Function.update slots id (slots id + count)) refunds w₁ where
  tickets := h.tickets
  types other := by
    by_cases same : other = id
    · subst same
      have before := h.types other
      rw [read] at before ⊢
      cases absent : w.db.ticketTypes.row other with
      | none => exact .none
      | some row =>
          rw [absent] at before
          cases before
    · rw [Function.update_of_ne same]
      exact h.types other
  unshared := h.unshared
  events := h.events
  users := h.users
  redis := h.redis
  jobs := h.jobs

theorem refund (h : Releasing n t w canceled slots refunds w₁) :
    Releasing n t w canceled slots (refunds ++ more) (w₁.refundAll n more) where
  tickets := h.tickets
  types := h.types
  unshared := h.unshared
  events := h.events
  users := h.users
  redis := by
    have here : w₁.redis n = (w.redis n).refundAll refunds := by
      rw [h.redis, World.refundAll_redis]
    unfold World.refundAll
    dsimp only
    rw [here, h.redis, RedisDb.refundAll_append]
    unfold World.refundAll
    rw [Function.update_idem]
  jobs := h.jobs

theorem commit (h : Releasing n t w canceled slots refunds w₁) (calm : w.db.events.Quiet) :
    Releasing n t w canceled slots refunds { w₁ with db := w₁.db.commit t } ∧
      (w₁.db.commit t).Calm := by
  have events : w₁.db.events.commit t = w.db.events := by
    rw [h.events]
    exact commit_of_quiet calm
  have quiet : (w₁.db.commit t).Calm :=
    ⟨⟨h.unshared.1.commit, h.unshared.2.commit⟩, by
      show (w₁.db.events.commit t).Quiet
      rwa [events]⟩
  refine ⟨⟨fun id => ?_, fun id => ?_, ⟨.of_quiet quiet.quiet.1, .of_quiet quiet.quiet.2⟩,
    events,
    h.users, h.redis, h.jobs⟩, quiet⟩
  · rw [read_of_not_held (heldBy_of_quiet quiet.quiet.1)]
    exact h.tickets id
  · rw [read_of_not_held (heldBy_of_quiet quiet.quiet.2)]
    exact h.types id

/-- The session is closed after the commit. -/
theorem commit_close (h : Releasing n t w canceled slots refunds w₁) (calm : w.db.events.Quiet) :
    Releasing n t w canceled slots refunds { w₁ with db := (w₁.db.commit t).rollback t } ∧
      ((w₁.db.commit t).rollback t).Calm := by
  obtain ⟨committed, quiet⟩ := h.commit calm
  rw [quiet.rollback]
  exact ⟨committed, quiet⟩

/-- What is canceled and given back determines the rows. -/
theorem rows_eq {u : ι} (h : Releasing n t w canceled slots refunds w₁)
    (h' : Releasing n u w canceled slots more w₂) (calm : w₁.db.Calm) (calm' : w₂.db.Calm) :
    w₁.db.tickets.row = w₂.db.tickets.row ∧
    w₁.db.ticketTypes.row = w₂.db.ticketTypes.row := by
  constructor
  · funext id
    have left := h.tickets id
    have right := h'.tickets id
    rw [read_of_not_held (heldBy_of_quiet calm.quiet.1)] at left
    rw [read_of_not_held (heldBy_of_quiet calm'.quiet.1)] at right
    rw [left, right]
  · funext id
    have left := h.types id
    have right := h'.types id
    rw [read_of_not_held (heldBy_of_quiet calm.quiet.2)] at left
    rw [read_of_not_held (heldBy_of_quiet calm'.quiet.2)] at right
    generalize w.db.ticketTypes.row id = row at left right
    generalize w₁.db.ticketTypes.row id = row₁ at left
    generalize w₂.db.ticketTypes.row id = row₂ at right
    cases left with
    | none =>
        cases right with
        | none => rfl
    | some left =>
        cases right with
        | some right => rw [left.unique right]

end Releasing

end TicketCore
