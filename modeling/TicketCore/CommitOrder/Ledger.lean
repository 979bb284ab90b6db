import TicketCore.CommitOrder.Statements
import TicketCore.Office.Outcomes

/-!
# What a commit does to the ledger

`Drifts` says how far the number of active tickets of a type moves away from its count;
`Drifts.trans` adds the moves up.

* `books_of_commits`: the two move together, except that a `DELETE` of a ticket that holds no slot
  any more still takes one off the count.
* `drift_of_order` adds this up over the commits of a run.
-/

namespace TicketCore

open Interleave RowStore

variable {ι : Type}

/-- By how much the active tickets of a type outnumber its count. -/
def Database.drift (db : Database ι) (ticketTypeId : Int) : Int :=
  (db.ticketTypes.row ticketTypeId).elim 0 fun row => db.activeTickets ticketTypeId -
    row.ticketsSold

/-- A `DELETE` of a ticket that is canceled, or has gone, takes one off the count of this type. -/
def Activity.overdraws (ticketTypeId : Int) : Activity → Office → Office → Bool
  | .operation (.delete _ ticketId), before, after =>
      (before.tickets ticketId).all (fun ticket => decide (ticket.status = .canceled)) &&
        (before.types ticketTypeId).any fun row => (after.types ticketTypeId).any fun row' =>
          decide (row'.ticketsSold < row.ticketsSold)
  | _, _, _ => false

namespace CommitOrder

variable {office before after counted : Office} {ticketTypeId ty id delta n m : Int}

/-! ## Moves of the ledger -/

/-- Between two offices, the active tickets of a type come to `n` more than what its count has moved
by. -/
def Drifts (ty n : Int) (before after : Office) : Prop :=
  ∃ changed : Finset Int, (∀ id ∉ changed, after.tickets id = before.tickets id) ∧
    ∀ row', after.types ty = some row' → ∃ row, before.types ty = some row ∧
      ∑ id ∈ changed, (slots ty (after.tickets id) - slots ty (before.tickets id)) =
        row'.ticketsSold - row.ticketsSold + n

/-- A sum of changes may as well go over more tickets. -/
theorem sum_slots_subset {changed more : Finset Int} (subset : changed ⊆ more)
    (agree : ∀ id ∉ changed, after.tickets id = before.tickets id) :
    ∑ id ∈ more, (slots ty (after.tickets id) - slots ty (before.tickets id)) =
      ∑ id ∈ changed, (slots ty (after.tickets id) - slots ty (before.tickets id)) := by
  refine (Finset.sum_subset subset fun id _ out => ?_).symm
  rw [agree id out, sub_self]

theorem Drifts.trans {last : Office} (h : Drifts ty n before after) (h' : Drifts ty m after last) :
    Drifts ty (n + m) before last := by
  obtain ⟨first, agree, moved⟩ := h
  obtain ⟨second, agree', moved'⟩ := h'
  refine ⟨first ∪ second, fun id out => ?_, fun row'' there => ?_⟩
  · rw [Finset.mem_union, not_or] at out
    rw [agree' id out.2, agree id out.1]
  · obtain ⟨row', there', sum'⟩ := moved' row'' there
    obtain ⟨row, there'', sum⟩ := moved row' there'
    refine ⟨row, there'', ?_⟩
    rw [← sum_slots_subset Finset.subset_union_left agree] at sum
    rw [← sum_slots_subset Finset.subset_union_right agree'] at sum'
    calc ∑ id ∈ first ∪ second, (slots ty (last.tickets id) - slots ty (before.tickets id))
        = ∑ id ∈ first ∪ second, (slots ty (last.tickets id) - slots ty (after.tickets id)) +
            ∑ id ∈ first ∪ second,
                (slots ty (after.tickets id) - slots ty (before.tickets id)) := by
          rw [← Finset.sum_add_distrib]
          simp only [sub_add_sub_cancel]
      _ = row''.ticketsSold - row.ticketsSold + (n + m) := by
          rw [sum, sum']
          omega

/-- No ticket changes, and no count. -/
theorem Drifts.of_counts (tickets : after.tickets = before.tickets)
    (types : ∀ row', after.types ty = some row' →
      ∃ row, before.types ty = some row ∧ row'.ticketsSold = row.ticketsSold) :
        Drifts ty 0 before after := by
  refine ⟨∅, fun id _ => by rw [tickets], fun row' there => ?_⟩
  obtain ⟨row, there', same⟩ := types row' there
  exact ⟨row, there', by rw [Finset.sum_empty, same, sub_self, add_zero]⟩

theorem Drifts.of_types (tickets : after.tickets = before.tickets)
    (types : after.types = before.types) :
    Drifts ty 0 before after :=
  .of_counts tickets fun row' there => ⟨row', by rw [← types]; exact there, rfl⟩

/-- One ticket changes. -/
theorem Drifts.of_setTicket {version : Option Ticket} (tickets : counted.tickets = office.tickets)
    (moved : ∀ row', counted.types ty = some row' → ∃ row, office.types ty = some row ∧
      slots ty version - slots ty (office.tickets id) = row'.ticketsSold - row.ticketsSold + n) :
    Drifts ty n office (counted.setTicket id version) := by
  refine ⟨{id}, fun other out => ?_, fun row' there => ?_⟩
  · rw [Finset.mem_singleton] at out
    unfold Office.setTicket
    dsimp only
    rw [Function.update_of_ne out, tickets]
  · obtain ⟨row, there', sum⟩ := moved row' there
    refine ⟨row, there', ?_⟩
    rw [Finset.sum_singleton, ← sum]
    unfold Office.setTicket
    dsimp only
    rw [Function.update_self]

/-! ## A count that moves -/

/-- Where a type still is, its own count has moved, and no other. -/
theorem types_of_count (moved : office.count ticketTypeId delta = .ok counted) {row' : TicketType}
    (there : counted.types ty = some row') : ∃ row, office.types ty = some row ∧
      row'.ticketsSold = row.ticketsSold + if ty = ticketTypeId then delta else 0 := by
  rcases Office.count_ok moved with ⟨absent, rfl⟩ | ⟨row, changed, stored, ok, rfl⟩
  · have other : ty ≠ ticketTypeId := fun same => by
      rw [same, absent] at there
      cases there
    exact ⟨row', there, by rw [if_neg other, add_zero]⟩
  · unfold Office.setType at there
    dsimp only at there
    by_cases own : ty = ticketTypeId
    · subst own
      rw [Function.update_self] at there
      cases there
      exact ⟨row, stored, by rw [if_pos rfl, (TicketType.addTicketsSold_ok ok).1]⟩
    · rw [Function.update_of_ne own] at there
      exact ⟨row', there, by rw [if_neg own, add_zero]⟩

/-- The count of a type falls exactly if it is the one that is counted down. -/
theorem falls_of_count (moved : office.count ticketTypeId (-1) = .ok counted) {row' : TicketType}
    (there : counted.types ty = some row') :
    ((office.types ty).any fun row => (counted.types ty).any fun row' =>
      decide (row'.ticketsSold < row.ticketsSold)) = decide (ty = ticketTypeId) := by
  obtain ⟨row, stored, sold⟩ := types_of_count moved there
  rw [stored, there, Option.any_some, Option.any_some, decide_eq_decide, sold]
  constructor
  · intro falls
    by_contra other
    rw [if_neg other] at falls
    omega
  · intro own
    rw [if_pos own]
    omega

/-- One ticket changes, and the count of its type with it. -/
theorem Drifts.of_count {version : Option Ticket}
    (moved : office.count ticketTypeId delta = .ok counted)
    (weighs : ∀ row', counted.types ty = some row' →
      slots ty version - slots ty (office.tickets id) =
        (if ty = ticketTypeId then delta else 0) + n) :
    Drifts ty n office (counted.setTicket id version) := by
  refine .of_setTicket (Office.tickets_of_count moved) fun row' there => ?_
  obtain ⟨row, stored, sold⟩ := types_of_count moved there
  refine ⟨row, stored, ?_⟩
  rw [weighs row' there, sold]
  omega

/-! ## The requests -/

theorem slots_reserved {ticket : Ticket} (reserved : ticket.status = .reserved) :
    slots ty (some ticket) = if ty = ticket.ticketTypeId then 1 else 0 := by
  rw [slots_active (Ticket.active_of_reserved reserved)]
  simp only [eq_comm]

/-- A reservation takes a slot, and the count of its type goes up by one. -/
theorem drifts_book {notes : Notes} {userId : Int} (fresh : office.tickets notes.id = none)
    (moved : office.count ticketTypeId 1 = .ok counted) :
    Drifts ty 0 office
      (counted.setTicket notes.id (some ⟨ticketTypeId, userId, .reserved, notes.clock⟩)) := by
  refine .of_count moved fun row' _ => ?_
  rw [fresh, slots_none, sub_zero, add_zero, slots_reserved rfl]

/-- A ticket that is paid for keeps its slot. -/
theorem drifts_pay {ticket : Ticket} (stored : office.tickets id = some ticket)
    (reserved : ticket.status = .reserved) :
    Drifts ty 0 office (office.setTicket id (some (ticket.withStatus .sold))) := by
  refine .of_setTicket rfl fun row there => ⟨row, there, ?_⟩
  have paid : (ticket.withStatus .sold).Active := by
    unfold Ticket.Active
    rw [Ticket.withStatus_status]
    decide
  rw [stored, slots_active paid, slots_active (Ticket.active_of_reserved reserved),
    Ticket.withStatus_ticketTypeId]
  omega

/-- A reservation that has run out gives its slot back. -/
theorem drifts_release {ticket : Ticket} (stored : office.tickets id = some ticket)
    (reserved : ticket.status = .reserved)
    (moved : office.count ticket.ticketTypeId (-1) = .ok counted) :
    Drifts ty 0 office (counted.setTicket id (some (ticket.withStatus .canceled))) := by
  refine .of_count moved fun row' _ => ?_
  rw [stored, slots_canceled, slots_reserved reserved]
  split <;> rfl

/-- A ticket is deleted, active or not, or has gone. -/
theorem drifts_delete {ownerId ticketId : Int} {version : Option Ticket}
    (stored : office.tickets ticketId = version)
    (typed : ∀ ticket, version = some ticket → ticket.ticketTypeId = ticketTypeId)
    (moved : office.count ticketTypeId (-1) = .ok counted) :
    Drifts ty (if (Activity.operation (.delete ownerId ticketId)).overdraws ty office
      (counted.setTicket ticketId none) then 1 else 0) office
        (counted.setTicket ticketId none) := by
  refine .of_count moved fun row' there => ?_
  have overdrawn : (Activity.operation (.delete ownerId ticketId)).overdraws ty office
      (counted.setTicket ticketId none) =
        (version.all (fun ticket => decide (ticket.status = .canceled)) &&
          decide (ty = ticketTypeId)) := by
    rw [← stored, ← falls_of_count moved there]
    rfl
  rw [overdrawn, stored, slots_none]
  cases version with
  | none => by_cases own : ty = ticketTypeId <;> simp [own]
  | some ticket =>
      obtain rfl := typed ticket rfl
      by_cases canceled : ticket.status = .canceled
      · rw [slots_some, if_neg fun active => active.2 canceled]
        by_cases own : ty = ticket.ticketTypeId <;> simp [own, canceled]
      · rw [slots_active canceled]
        by_cases own : ty = ticket.ticketTypeId
        · simp [own, canceled]
        · simp [own, Ne.symm own]

/-- A type is put in place of one with the same count. -/
theorem drifts_setType {version : Option TicketType} (kept : ∀ row', version = some row' →
      ∃ row, office.types ticketTypeId = some row ∧ row'.ticketsSold = row.ticketsSold) :
    Drifts ty 0 office (office.setType ticketTypeId version) := by
  refine .of_counts rfl fun found there => ?_
  unfold Office.setType at there
  dsimp only at there
  by_cases own : ty = ticketTypeId
  · subst own
    rw [Function.update_self] at there
    exact kept found there
  · rw [Function.update_of_ne own] at there
    exact ⟨found, there, rfl⟩

/-- A type that has not been there opens with no ticket sold. -/
structure Opens (ty : Int) (before after : Office) : Prop where
  absent : before.types ty = none
  tickets : after.tickets = before.tickets
  unsold : ∀ row', after.types ty = some row' → row'.ticketsSold = 0

theorem drifts_addType {eventId : Int} {typeData : TicketTypeCreate} {notes : Notes}
    (fresh : office.types notes.id = none) :
    Drifts ty 0 office (office.setType notes.id (some (typeData.row eventId))) ∨
      Opens ty office (office.setType notes.id (some (typeData.row eventId))) := by
  by_cases own : ty = notes.id
  · subst own
    refine .inr ⟨fresh, rfl, fun row' there => ?_⟩
    unfold Office.setType at there
    dsimp only at there
    rw [Function.update_self] at there
    cases there
    rfl
  · refine .inl (.of_counts rfl fun row' there => ⟨row', ?_, rfl⟩)
    unfold Office.setType at there
    dsimp only at there
    rwa [Function.update_of_ne own] at there

/-- What a commit moves the ledger by, if the type has been there. -/
def Books (ty : Int) (activity : Activity) (before after : Office) : Prop :=
  Drifts ty (if activity.overdraws ty before after then 1 else 0) before after ∨
    Opens ty before after

/-- No count falls where nothing changes. -/
theorem overdraws_self (activity : Activity) : activity.overdraws ty office office = false := by
  unfold Activity.overdraws
  split
  · cases office.types ty with
    | none => rw [Option.any_none, Bool.and_false]
    | some row => simp only [Option.any_some, lt_irrefl, decide_false, Bool.and_false]
  · rfl

theorem books_of_does {activity : Activity} (does : office.Does activity after) :
    Books ty activity office after := by
  cases does with
  | nothing =>
      refine .inl ?_
      rw [overdraws_self, if_neg Bool.false_ne_true]
      exact .of_types rfl rfl
  | book fresh moved => exact .inl (drifts_book fresh moved)
  | giveUp typed moved =>
      exact .inl (drifts_delete rfl (fun ticket there => (typed ticket there).1) moved)
  | pay stored _ reserved => exact .inl (drifts_pay stored reserved)
  | release stored reserved moved => exact .inl (drifts_release stored reserved moved)
  | addType fresh => exact drifts_addType fresh
  | changeType stored applied =>
      refine .inl (drifts_setType fun changed same => ?_)
      cases same
      exact ⟨_, stored, TicketTypeUpdate.apply_ok applied⟩
  | dropType => exact .inl (drifts_setType fun _ same => by cases same)
  | addEvent | changeEvent | dropEvent => exact .inl (.of_types rfl rfl)

/-- **What a commit does to the ledger.** -/
theorem books_of_commits {seconds : Int} {shown : Reading → Prop} {activity : Activity}
    (commits : office.Commits seconds shown activity after) : Books ty activity office after := by
  rcases Office.does_of_commits commits with does | ⟨rfl, _, day⟩
  · exact books_of_does does
  · refine .inl (day.releases (.of_types rfl rfl) fun drifts does => ?_)
    cases does with
    | nothing => exact drifts
    | release stored reserved moved => exact drifts.trans (drifts_release stored reserved moved)

/-! ## The commits of a run -/

variable {d : Deployment} {acts : ι → Activity}

/-- A commit of this run takes one off the count of the type for a ticket that holds no slot. -/
def Overdraws (acts : ι → Activity) (ty : Int) (e : CallEvent ι) : Bool :=
  (acts e.thread).overdraws ty e.before.db.office e.after.db.office

theorem not_overdraws {e : CallEvent ι} (absent : e.before.db.office.types ty = none) :
    Overdraws acts ty e ≠ true := by
  unfold Overdraws Activity.overdraws
  split
  · rw [absent, Option.any_none, Bool.and_false]
    exact Bool.false_ne_true
  · exact Bool.false_ne_true

theorem drift_of_row {db : Database ι} {row : TicketType}
    (stored : db.ticketTypes.row ty = some row) :
    db.drift ty = db.activeTickets ty - row.ticketsSold := by
  unfold Database.drift
  rw [stored]
  rfl

theorem drift_of_absent {db : Database ι} (absent : db.ticketTypes.row ty = none) :
    db.drift ty = 0 := by
  unfold Database.drift
  rw [absent]
  rfl

/-- Where there is no ticket of a type, none is active. -/
theorem activeTickets_of_absent {db : Database ι} (references : db.References)
    (absent : db.ticketTypes.row ty = none) : db.activeTickets ty = 0 := by
  unfold Database.activeTickets RowStore.count RowStore.total
  refine Finset.sum_eq_zero fun id _ => ?_
  cases stored : db.tickets.row id with
  | none => rfl
  | some ticket =>
      have there := references.ticketTypes id ticket stored
      refine if_neg fun active => ?_
      rw [active.1, absent] at there
      cases there

/-- One commit, on the tables. -/
theorem drift_of_books {db db' : Database ι} {activity : Activity} (references : db.References)
    (books : Books ty activity db.office db'.office) (there : (db'.ticketTypes.row ty).isSome) :
    (db.ticketTypes.row ty).isSome ∧
        db'.drift ty = db.drift ty +
          (if activity.overdraws ty db.office db'.office then 1 else 0) ∨
      db.ticketTypes.row ty = none ∧ db'.drift ty = 0 := by
  obtain ⟨row', stored'⟩ := Option.isSome_iff_exists.mp there
  rcases books with ⟨changed, agree, moved⟩ | ⟨absent, tickets, unsold⟩
  · obtain ⟨row, stored, sum⟩ := moved row' stored'
    have stored : db.ticketTypes.row ty = some row := stored
    have total : db'.activeTickets ty = db.activeTickets ty + _ := total_eq_add changed agree
    refine .inl ⟨by rw [stored]; rfl, ?_⟩
    rw [drift_of_row stored', drift_of_row stored, total]
    have sum : ∑ id ∈ changed,
      (slots ty (db'.tickets.row id) - slots ty (db.tickets.row id)) = _ := sum
    unfold slots at sum
    omega
  · have none : db'.activeTickets ty = 0 := by
      rw [← activeTickets_of_absent references absent]
      exact total_congr fun id => congrFun tickets id
    exact .inr ⟨absent, by rw [drift_of_row stored', none, unsold row' stored', sub_self]⟩

/-- **The ledger after all commits**: each `DELETE` of a ticket that holds no slot has moved it by
one. -/
theorem drift_of_order {start db : Database ι} {events commits : List (CallEvent ι)}
    {last : Office} (order : Order d acts start.office events commits last)
    (references : ∀ e ∈ commits, e.before.db.References)
    (same : db.office = last) (there : (db.ticketTypes.row ty).isSome) :
    db.drift ty = start.drift ty + commits.countP (Overdraws acts ty) := by
  induction order generalizing db with
  | «open» =>
      have types : db.ticketTypes.row = start.ticketTypes.row := congrArg Office.types same
      have tickets : db.tickets.row = start.tickets.row := congrArg Office.tickets same
      have active : db.activeTickets ty = start.activeTickets ty :=
        total_congr fun id => congrFun tickets id
      unfold Database.drift
      rw [types, active, List.countP_nil]
      exact (add_zero _).symm
  | @join _ commits last users _ _ ih =>
      have before : ({ db with users := last.users } : Database ι).office = last :=
        congrArg (fun after : Office => { after with users := last.users }) same
      have drift : ({ db with users := last.users } : Database ι).drift ty = _ :=
        ih references before there
      exact drift
  | other _ still ih => exact ih references (same.trans still) there
  | @commit _ commits e order _ _ new served ih =>
      have references' : e.before.db.References :=
        references e (List.mem_append_right _ (List.mem_singleton_self _))
      have books : Books ty (acts e.thread) e.before.db.office e.after.db.office :=
        books_of_commits served
      rw [← same] at books
      rw [List.countP_append, List.countP_singleton]
      rcases drift_of_books references' books there with ⟨before, moved⟩ | ⟨absent, zero⟩
      · have ih := ih (fun e' mem => references e' (List.mem_append_left _ mem)) rfl before
        have last : Overdraws acts ty e = (acts e.thread).overdraws ty e.before.db.office
            db.office := by
          rw [same]
          rfl
        rw [moved, ih, last]
        split <;> omega
      · have never : ∀ past ∈ start.office :: commits.map (·.before.db.office),
            past.types ty = none :=
          fun past mem => (new past mem).types ty absent (by rw [← same]; exact there)
        have none : commits.countP (Overdraws acts ty) = 0 :=
          List.countP_eq_zero.mpr fun e' mem falls =>
          not_overdraws (never _ (List.mem_cons_of_mem _ (List.mem_map_of_mem mem))) falls
        have last : Overdraws acts ty e ≠ true := not_overdraws absent
        have first : start.ticketTypes.row ty = Option.none := never _ (List.mem_cons_self ..)
        rw [zero, drift_of_absent first, none, if_neg last]
        rfl

end CommitOrder

end TicketCore
