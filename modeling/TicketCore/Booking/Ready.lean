import TicketCore.Booking.Session

/-!
# Sessions that are ready to commit

The sessions with which the operations reach their commit are ready for a booking (`ready_booked`),
a removal (`ready_removed`), a payment (`ready_paid`) and a cancellation of any number of tickets
(`ready_canceled`).
-/

namespace TicketCore

open RowStore

namespace Session

variable {g : Session} {id ticketTypeId : Int} {base version : Option Ticket} {ticket : Ticket}
  {row row' : TicketType}

/-- One ticket type locked, and charged `delta`. -/
theorem charges_single {delta : Int}
    (types : g.types = Locks.none.add ticketTypeId (some row) (some row'))
    (ok : row.addTicketsSold delta = .ok row') :
    g.Charges fun id => if ticketTypeId = id then delta else 0 := by
  intro id
  by_cases same : ticketTypeId = id
  · subst same
    refine .inr ⟨row, row', ?_, ?_⟩
    · rw [types, Locks.add_self]
    · dsimp only
      rw [if_pos rfl]
      exact ok
  · refine .inl ⟨if_neg same, ?_⟩
    rw [types, Locks.add_of_ne fun h => same h.symm]
    rfl

/-- A session with one ticket locked: the number of active tickets moves by what that row
contributes. -/
theorem ready_of_single {change : Change} (delta : Int → Int) (charges : g.Charges delta)
    (tickets : g.tickets = Locks.none.add id base version)
    (contributes : ∀ ty, slots ty version - slots ty base = delta ty)
    (moves : ∀ before : Int → Option Ticket, before id = base →
      change.Moves before (Function.update before id version)) : g.Ready change := by
  refine ready_of_charges delta charges fun ι _ s t held => ?_
  rw [tickets] at held
  have stored : s.row id = base := held.row_of_lock Locks.add_self
  have rows : (s.commit t).row = Function.update s.row id version := by
    rw [held.commit_row, Locks.apply_add, Locks.apply_none]
  refine ⟨?_, fun ty => ?_⟩
  · rw [rows]
    exact moves s.row stored
  · rw [← contributes ty, ← stored]
    exact total_eq_of_update rows

theorem ready_booked (ticket : Ticket) (tickets : g.tickets = Locks.none.add id none (some ticket))
    (reserved : ticket.status = .reserved)
    (types : g.types = Locks.none.add ticket.ticketTypeId (some row) (some row'))
    (ok : row.addTicketsSold 1 = .ok row') : g.Ready (.booked id) := by
  refine ready_of_single _ (charges_single types ok) tickets (fun ty => ?_) fun before absent => ?_
  · rw [slots_active (Ticket.active_of_reserved reserved), slots_none, sub_zero]
  · exact ⟨absent, ticket, reserved, rfl⟩

theorem ready_removed (ticket : Ticket) (tickets : g.tickets = Locks.none.add id (some ticket) none)
    (active : ticket.Active)
    (types : g.types = Locks.none.add ticket.ticketTypeId (some row) (some row'))
    (ok : row.addTicketsSold (-1) = .ok row') : g.Ready (.removed id) := by
  refine ready_of_single _ (charges_single types ok) tickets (fun ty => ?_) fun before stored => ?_
  · rw [slots_active active, slots_none]
    split
    · rfl
    · rfl
  · exact ⟨ticket, stored, active, rfl⟩

theorem ready_paid (ticket : Ticket) (tickets : g.tickets = Locks.none.add id (some ticket)
      (some (ticket.withStatus .sold))) (reserved : ticket.status = .reserved)
    (types : g.types = Locks.none) : g.Ready (.paid id) := by
  have charges : g.Charges fun _ => 0 := fun ty => .inl ⟨rfl, by rw [types]; rfl⟩
  refine ready_of_single _ charges tickets (fun ty => ?_) fun before stored => ?_
  · have sold : (ticket.withStatus .sold).Active := nofun
    rw [slots_active sold, slots_active (Ticket.active_of_reserved reserved),
      Ticket.withStatus_ticketTypeId, sub_self]
  · exact ⟨ticket, stored, reserved, rfl⟩

/-! ## Cancellations -/

/-- The transaction has canceled these reserved tickets, each given with its type, and has locked no
other ticket. -/
inductive Canceling : Locks Ticket → List (Int × Int) → Prop
  | nil : Canceling Locks.none []
  | snoc {m : Locks Ticket} {rows : List (Int × Int)} {id : Int} {ticket : Ticket} :
      Canceling m rows → m id = none → ticket.status = .reserved →
      Canceling (m.add id (some ticket) (some (ticket.withStatus .canceled)))
        (rows ++ [(id, ticket.ticketTypeId)])

/-- The ids of canceled tickets. -/
def idsOf (rows : List (Int × Int)) : Finset Int := (rows.map Prod.fst).toFinset

/-- How many of the canceled tickets have a type. -/
def countOf (rows : List (Int × Int)) (ticketTypeId : Int) : Int :=
  (rows.map Prod.snd).count ticketTypeId

theorem idsOf_snoc (rows : List (Int × Int)) (id ticketTypeId : Int) :
    idsOf (rows ++ [(id, ticketTypeId)]) = insert id (idsOf rows) := by
  ext x
  simp only [idsOf, List.map_append, List.map_cons, List.map_nil, List.mem_toFinset,
    List.mem_append, List.mem_singleton, Finset.mem_insert]
  exact or_comm

theorem countOf_snoc (rows : List (Int × Int)) (id ticketTypeId ty : Int) :
    countOf (rows ++ [(id, ticketTypeId)]) ty =
      countOf rows ty + if ticketTypeId = ty then 1 else 0 := by
  unfold countOf
  rw [List.map_append, List.count_append, List.map_singleton, List.count_singleton]
  by_cases same : ticketTypeId = ty
  · simp only [same, beq_self_eq_true, if_true, Nat.cast_add, Nat.cast_one]
  · simp only [beq_eq_false_iff_ne.mpr same, same, if_false, Bool.false_eq_true, Nat.cast_add,
      Nat.cast_zero]

variable {m : Locks Ticket} {rows : List (Int × Int)}

/-- A locked ticket is a reserved one that the transaction has canceled. -/
theorem Canceling.locked (h : Canceling m rows) {lock : Option Ticket × Option Ticket}
    (mine : m id = some lock) : ∃ ticket : Ticket, ticket.status = .reserved ∧
      lock = (some ticket, some (ticket.withStatus .canceled)) ∧
      (id, ticket.ticketTypeId) ∈ rows := by
  induction h with
  | nil => cases mine
  | @snoc m rows id' ticket _ _ reserved ih =>
      by_cases same : id = id'
      · subst same
        rw [Locks.add_self] at mine
        cases mine
        exact ⟨ticket, reserved, rfl, List.mem_append_right _ (List.mem_singleton_self _)⟩
      · rw [Locks.add_of_ne same] at mine
        obtain ⟨ticket', reserved', lock', mem⟩ := ih mine
        exact ⟨ticket', reserved', lock', List.mem_append_left _ mem⟩

/-- A canceled ticket is locked, and is of the type it is given with. -/
theorem Canceling.of_mem_rows (h : Canceling m rows) (mem : (id, ticketTypeId) ∈ rows) :
    ∃ ticket : Ticket, ticket.status = .reserved ∧ ticket.ticketTypeId = ticketTypeId ∧
      m id = some (some ticket, some (ticket.withStatus .canceled)) := by
  induction h with
  | nil => cases mem
  | @snoc m rows id' ticket _ unlocked reserved ih =>
      rcases List.mem_append.mp mem with mem | mem
      · obtain ⟨ticket', reserved', same, mine⟩ := ih mem
        refine ⟨ticket', reserved', same, ?_⟩
        rw [Locks.add_of_ne, mine]
        rintro rfl
        rw [unlocked] at mine
        cases mine
      · cases List.mem_singleton.mp mem
        exact ⟨ticket, reserved, rfl, Locks.add_self⟩

theorem Canceling.of_mem (h : Canceling m rows) (mem : id ∈ idsOf rows) :
    ∃ ticket : Ticket, ticket.status = .reserved ∧
      m id = some (some ticket, some (ticket.withStatus .canceled)) := by
  obtain ⟨⟨id', ty⟩, listed, rfl⟩ := List.mem_map.mp (List.mem_toFinset.mp mem)
  obtain ⟨ticket, reserved, _, mine⟩ := h.of_mem_rows listed
  exact ⟨ticket, reserved, mine⟩

theorem Canceling.mem_iff (h : Canceling m rows) : id ∈ idsOf rows ↔ (m id).isSome := by
  constructor
  · intro mem
    obtain ⟨ticket, _, mine⟩ := h.of_mem mem
    rw [mine]; rfl
  · intro some
    obtain ⟨lock, mine⟩ := Option.isSome_iff_exists.mp some
    obtain ⟨ticket, _, _, mem⟩ := h.locked mine
    exact List.mem_toFinset.mpr (List.mem_map.mpr ⟨_, mem, rfl⟩)

/-- The canceled tickets took up as many slots of a type as there are of that type. -/
theorem Canceling.sum_slots (h : Canceling m rows) {before : Int → Option Ticket}
    (base : ∀ id lock, m id = some lock → before id = lock.1) (ty : Int) :
    ∑ id ∈ idsOf rows, slots ty (before id) = countOf rows ty := by
  induction h with
  | nil => rfl
  | @snoc m rows id ticket rest unlocked reserved ih =>
      have fresh : id ∉ idsOf rows := fun mem => by
        have some := rest.mem_iff.mp mem
        rw [unlocked] at some
        cases some
      have base' : ∀ id' lock, m id' = some lock → before id' = lock.1 := by
        intro id' lock mine
        refine base id' lock ?_
        rw [Locks.add_of_ne, mine]
        rintro rfl
        rw [unlocked] at mine
        cases mine
      have stored : before id = some ticket := base id _ Locks.add_self
      rw [idsOf_snoc, Finset.sum_insert fresh, ih base', countOf_snoc, stored,
        slots_active (Ticket.active_of_reserved reserved), add_comm]

theorem ready_canceled (rows : List (Int × Int)) (canceling : Canceling g.tickets rows)
    (charges : g.Charges fun ty => -countOf rows ty) : g.Ready (.canceled (idsOf rows)) := by
  refine ready_of_charges _ charges fun ι _ s t held => ?_
  have after : ∀ id, (s.commit t).row id =
      if id ∈ idsOf rows then (s.row id).map (·.withStatus .canceled) else s.row id := by
    intro id
    rw [held.commit_row]
    unfold Locks.apply
    split
    · rename_i mem
      obtain ⟨ticket, _, mine⟩ := canceling.of_mem mem
      rw [mine, held.row_of_lock mine]
      rfl
    · rename_i out
      rw [canceling.mem_iff, Option.not_isSome_iff_eq_none] at out
      rw [out]
      rfl
  refine ⟨⟨fun id mem => ?_, funext after⟩, fun ty => ?_⟩
  · obtain ⟨ticket, reserved, mine⟩ := canceling.of_mem mem
    exact ⟨ticket, held.row_of_lock mine, reserved⟩
  · have moved : (s.commit t).count (ActiveOf ty) = s.count (ActiveOf ty) +
        ∑ id ∈ idsOf rows, (slots ty ((s.commit t).row id) - slots ty (s.row id)) :=
      total_eq_add (idsOf rows) fun id out => by rw [after id, if_neg out]
    have vacated : ∀ id ∈ idsOf rows,
        slots ty ((s.commit t).row id) - slots ty (s.row id) = -slots ty (s.row id) := by
      intro id mem
      obtain ⟨ticket, _, mine⟩ := canceling.of_mem mem
      rw [after id, if_pos mem, held.row_of_lock mine, Option.map_some, slots_canceled, zero_sub]
    rw [moved, Finset.sum_congr rfl vacated, Finset.sum_neg_distrib,
      canceling.sum_slots (fun id lock mine => held.base id lock mine)]

end Session

end TicketCore
