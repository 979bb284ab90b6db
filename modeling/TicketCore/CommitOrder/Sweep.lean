import TicketCore.Booking.Ready
import TicketCore.CommitOrder.Ready

/-!
# The commit of the sweep

`reconcile_hung_tickets` cancels what it comes upon, one row after another, and commits all of it at
once. That commit is as if the tickets had been released one after another: `day_of_releasable` is
the run of the office, `Swept.unique` says that it leaves what the commit leaves, and `ready_swept`
puts them together.
-/

namespace TicketCore.CommitOrder

open Interleave RowStore Pending Session

variable {ι : Type} [DecidableEq ι] {d : Deployment} {db : Database ι} {t : ι} {g : Pending}
  {rows : List (Int × Int)} {id ticketTypeId clock : Int}

/-- These reserved tickets are of these types, and the types have so many slots taken. -/
structure Releasable (office : Office) (rows : List (Int × Int)) : Prop where
  distinct : (rows.map Prod.fst).Nodup
  reserved : ∀ row ∈ rows, ∃ ticket, office.tickets row.1 = some ticket ∧
      ticket.status = .reserved ∧
    ticket.ticketTypeId = row.2
  taken : ∀ id row, office.types id = some row → countOf rows id ≤ row.ticketsSold

/-- What is left when these tickets have been released. -/
structure Swept (office : Office) (rows : List (Int × Int)) (after : Office) : Prop where
  types : ∀ id, Option.Rel (Lowered (countOf rows id)) (office.types id) (after.types id)
  tickets : ∀ id, after.tickets id =
    if id ∈ rows.map Prod.fst then (office.tickets id).map (·.withStatus .canceled)
      else office.tickets id
  events : after.events = office.events
  users : after.users = office.users

theorem Swept.unique {office after after' : Office} (h : Swept office rows after)
    (h' : Swept office rows after') : after = after' := by
  have types : after.types = after'.types := by
    funext id
    have left := h.types id
    have right := h'.types id
    generalize office.types id = row at left right
    generalize after.types id = row₁ at left ⊢
    generalize after'.types id = row₂ at right ⊢
    cases left with
    | none =>
        cases right with
        | none => rfl
    | some left =>
        cases right with
        | some right => rw [left.unique right]
  have tickets : after.tickets = after'.tickets := by
    funext id
    rw [h.tickets, h'.tickets]
  cases after
  cases after'
  cases types
  cases tickets
  cases h.events.trans h'.events.symm
  cases h.users.trans h'.users.symm
  rfl

variable {office after counted : Office} {seconds : Int}

theorem Releasable.init (h : Releasable office (rows ++ [(id, ticketTypeId)])) :
    Releasable office rows ∧ id ∉ rows.map Prod.fst := by
  have distinct := h.distinct
  rw [List.map_append, List.nodup_append] at distinct
  obtain ⟨distinct, _, apart⟩ := distinct
  refine ⟨⟨distinct, fun row mem => h.reserved row (List.mem_append_left _ mem),
    fun id' row stored => ?_⟩,
    fun mem => apart id mem id (List.mem_singleton_self _) rfl⟩
  have taken := h.taken id' row stored
  rw [countOf_snoc] at taken
  split at taken
  · omega
  · omega

/-- The slots of the tickets before are given back already, and one is left for the next. -/
theorem Swept.count (swept : Swept office rows after)
    (h : Releasable office (rows ++ [(id, ticketTypeId)])) :
    ∃ counted, after.count ticketTypeId (-1) = .ok counted := by
  have lowered := swept.types ticketTypeId
  unfold Office.count
  cases found : after.types ticketTypeId with
  | none => exact ⟨after, rfl⟩
  | some row' =>
      cases before : office.types ticketTypeId with
      | none =>
          rw [before, found] at lowered
          cases lowered
      | some row =>
          rw [before, found] at lowered
          have taken := h.taken ticketTypeId row before
          rw [countOf_snoc, if_pos rfl] at taken
          cases lowered with
          | some lowered =>
              obtain ⟨row'', changed⟩ := lowered.next taken Int.one_nonneg
              dsimp only
              rw [changed]
              exact ⟨_, rfl⟩

/-- One more ticket is released. -/
theorem Swept.next {ticket : Ticket} (swept : Swept office rows after)
    (fresh : id ∉ rows.map Prod.fst) (stored : office.tickets id = some ticket)
    (moved : after.count ticketTypeId (-1) = .ok counted) :
    Swept office (rows ++ [(id, ticketTypeId)])
      (counted.setTicket id (some (ticket.withStatus .canceled))) := by
  obtain ⟨tickets, events, users⟩ := Office.count_rest moved
  refine ⟨fun id' => ?_, fun id' => ?_, events.trans swept.events, users.trans swept.users⟩
  · rw [countOf_snoc]
    have before := swept.types id'
    have last := Office.lowered_of_count moved id'
    have same : (if id' = ticketTypeId then (1 : Int) else 0) = if ticketTypeId = id'
        then 1 else 0 := by
      simp only [eq_comm]
    rw [same] at last
    show Option.Rel _ _ (counted.types id')
    generalize office.types id' = row at before ⊢
    generalize after.types id' = row₁ at before last
    generalize counted.types id' = row₂ at last ⊢
    cases before with
    | none =>
        cases last with
        | none => exact .none
    | some before =>
        cases last with
        | some last => exact .some (before.add last)
  · show Function.update counted.tickets id _ id' = _
    rw [List.map_append, tickets]
    by_cases same : id' = id
    · subst same
      have last : id' ∈ rows.map Prod.fst ++ [(id', ticketTypeId)].map Prod.fst :=
        List.mem_append_right _ (List.mem_singleton_self _)
      rw [Function.update_self, if_pos last, stored]
      rfl
    · rw [Function.update_of_ne same, swept.tickets]
      have others : id' ∈ rows.map Prod.fst ++ [(id, ticketTypeId)].map Prod.fst ↔
          id' ∈ rows.map Prod.fst := by
        rw [List.mem_append, List.map_singleton, List.mem_singleton]
        exact or_iff_left same
      simp only [others]

/-- **Tickets that can be released are released one after another.** -/
theorem day_of_releasable (h : Releasable office rows) : ∃ after, office.Day seconds
    ((rows.map Prod.fst).map fun id => (.operation (.releaseUnpaidTicket id), .ok .done)) after ∧
      Swept office rows after := by
  induction rows using List.reverseRecOn with
  | nil => exact ⟨office, .open, fun id => Lowered.still _, fun id => rfl, rfl, rfl⟩
  | append_singleton rows row ih =>
      obtain ⟨id, ticketTypeId⟩ := row
      obtain ⟨init, fresh⟩ := h.init
      obtain ⟨after, day, swept⟩ := ih init
      obtain ⟨ticket, stored, reserved, type⟩ :=
        h.reserved (id, ticketTypeId) (List.mem_append_right _ (List.mem_singleton_self _))
      obtain ⟨counted, moved⟩ := swept.count h
      have here : after.tickets id = some ticket := by
        rw [swept.tickets, if_neg fresh]
        exact stored
      have released : after.release id =
          .ok ((), counted.setTicket id (some (ticket.withStatus .canceled))) := by
        unfold Office.release
        rw [here]
        dsimp only
        rw [if_neg (not_not.mpr reserved), type, moved]
        rfl
      have serves : after.serve seconds ⟨0, 0, []⟩ (.operation (.releaseUnpaidTicket id)) =
          Office.answer (fun _ => .done) (after.release id) := rfl
      refine ⟨_, ?_, swept.next fresh stored moved⟩
      rw [List.map_append, List.map_append]
      refine day.next ⟨⟨0, 0, []⟩, trivial, ?_⟩
      rw [serves, released]
      exact .answered

/-- The type has been counted down by the canceled tickets that are of it, unless it has gone. -/
def CountedDown (rows : List (Int × Int)) (g : Pending) (id : Int) : Prop :=
  (g.types id = none ∧ (countOf rows id = 0 ∨ g.knows (.typeGone id))) ∨
    ∃ row row', g.types id = some (some row, some row') ∧
    row.addTicketsSold (-countOf rows id) = .ok row'

/-- What the sweep has canceled was to be swept. -/
def Due (threshold : Int) (g : Pending) : Prop :=
  ∀ id ticket version, g.tickets id = some (some ticket, version) →
    Database.Hung threshold ticket

theorem CountedDown.lowered (h : CountedDown rows g id) (right : g.Right db t) :
    Option.Rel (Lowered (countOf rows id)) (db.office.types id)
      (g.types.apply db.office.types id) := by
  unfold Locks.apply
  rcases h with ⟨unlocked, none | gone⟩ | ⟨row, row', locked, changed⟩
  · rw [unlocked, none]
    exact Lowered.still _
  · have gone : db.ticketTypes.Gone id := right.knows _ gone
    have absent : db.office.types id = none := gone.absent
    rw [unlocked, absent]
    exact .none
  · have stored : db.office.types id = some row := right.types.row_of_lock locked
    have lowered := Lowered.of_addTicketsSold changed
    rw [neg_neg] at lowered
    rw [locked, stored]
    exact .some lowered

theorem countOf_le_of_lowered {row : TicketType} {version : Option TicketType}
    (lowered : Option.Rel (Lowered (countOf rows id)) (some row) version) :
    countOf rows id ≤ row.ticketsSold := by
  cases lowered with
  | @some _ row' lowered =>
      have sold := lowered.ticketsSold
      have limit := row'.check_ticket_sold
      omega

theorem canceling_distinct {m : Locks Ticket} (canceling : Canceling m rows) :
    (rows.map Prod.fst).Nodup := by
  induction canceling with
  | nil => exact List.nodup_nil
  | @snoc m rows id ticket canceling unlocked _ ih =>
      rw [List.map_append, List.nodup_append]
      refine ⟨ih, List.nodup_singleton _, fun id' mem new last => ?_⟩
      rw [List.mem_singleton.mp last]
      rintro rfl
      have locked := canceling.mem_iff.mp (List.mem_toFinset.mpr mem)
      rw [unlocked] at locked
      cases locked

theorem ready_swept (canceling : Canceling g.tickets rows)
    (counted : ∀ id, CountedDown rows g id) (read : g.shown (.clock clock))
    (listed : ∀ id, g.shown (.canceled id) ↔ id ∈ rows.map Prod.fst)
    (due : Due (clock - d.ticketReservationTimeSeconds * 1000000) g)
    (events : g.events = Locks.none) : Ready d (.operation .reconcileHungTickets) g := by
  intro ι _ db t _ right
  have releasable : Releasable db.office rows := by
    refine ⟨canceling_distinct canceling, fun row mem => ?_, fun id row stored => ?_⟩
    · obtain ⟨ticket, reserved, type, locked⟩ := canceling.of_mem_rows mem
      exact ⟨ticket, right.tickets.row_of_lock locked, reserved, type⟩
    · have lowered := (counted id).lowered right
      rw [stored] at lowered
      exact countOf_le_of_lowered lowered
  have swept : Swept db.office rows (db.commit t).office := by
    rw [right.commit_office]
    refine ⟨fun id => (counted id).lowered right, fun id => ?_,
      by rw [events, Locks.apply_none], rfl⟩
    dsimp only
    unfold Locks.apply
    split
    · rename_i mem
      obtain ⟨row, listed, rfl⟩ := List.mem_map.mp mem
      obtain ⟨ticket, _, _, locked⟩ := canceling.of_mem_rows listed
      have stored : db.office.tickets row.1 = some ticket := right.tickets.row_of_lock locked
      rw [locked, stored]
      rfl
    · rename_i out
      have unlocked : g.tickets id = none := by
        have out : id ∉ idsOf rows := fun mem => out (List.mem_toFinset.mp mem)
        rw [canceling.mem_iff, Option.not_isSome_iff_eq_none] at out
        exact out
      rw [unlocked]
      rfl
  obtain ⟨after, day, swept'⟩ := day_of_releasable releasable
  rw [← swept.unique swept'] at day
  have hung : ∀ id ∈ rows.map Prod.fst, (db.office.tickets id).any fun ticket =>
      Database.Hung (clock - d.ticketReservationTimeSeconds * 1000000) ticket := by
    intro id mem
    obtain ⟨row, listed, rfl⟩ := List.mem_map.mp mem
    obtain ⟨ticket, _, _, locked⟩ := canceling.of_mem_rows listed
    have stored : db.office.tickets row.1 = some ticket := right.tickets.row_of_lock locked
    rw [stored, Option.any_some]
    exact decide_eq_true (due row.1 ticket _ locked)
  exact .swept read releasable.distinct (fun id => (listed id).symm) hung day

end TicketCore.CommitOrder
