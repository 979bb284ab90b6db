import TicketCore.Booking.Ready
import TicketCore.Booking.Statements
import TicketCore.Sessions

/-!
# The operations follow the booking discipline

`follows_program`: every operation on tickets, whatever it is called with and whichever of its calls
fail, keeps the booking discipline; and a payment that succeeds has committed.
-/

namespace TicketCore.Booking

open Interleave RowStore Session

variable {ι : Type} [DecidableEq ι] {B : Booking ι} {t : ι} {g : Session} {α β : Type}
  {d : Deployment}

/-! ## Sequencing -/

/-- A call that leaves the database alone, and then the rest. -/
theorem follows_neutral_bind {cmd : Cmd} {f : cmd.Resp → Async β}
    {post : Except Exn β → Session → Prop} (neutral : Neutral cmd)
    (fault : ∀ e, post (.error e) g) (rest : ∀ a, B.discipline.Follows exec t post (f a) g) :
    B.discipline.Follows exec t post (Program.call cmd >>= f) g := by
  refine Discipline.Follows.bind (fun _ g' => g' = g) ?_ fun a g' same => ?_
  · refine follows_neutral neutral fun answer => ?_
    cases answer with
    | ok a => rfl
    | error e => exact fault e
  · rw [same]
    exact rest a

/-- No transaction is open. -/
def Ended (g : Session) : Prop := g = idle g.committed

/-- The session of a request ends without a transaction. -/
theorem follows_session {body : Async α} (post : Except Exn α → Bool → Prop)
    (raised : ∀ e committed, post (.error e) committed)
    (h : B.discipline.Follows exec t (fun outcome g' => post outcome g'.committed) body g) :
    B.discipline.Follows exec t (fun outcome g' => post outcome g'.committed ∧ Ended g')
      (getDb body) g :=
  follows_getDb _ (fun outcome g' => post outcome g'.committed) h (fun _ _ holds => holds)
    (fun e _ _ => follows_rollback (fun e' => raised e' _) (raised e _))
    fun _ _ holds => follows_close ⟨holds, rfl⟩

/-! ## Reservations -/

/-- No matter what happens: a postcondition for operations that only have to keep the invariant. -/
def anyhow (_ : Except Exn α) (_ : Session) : Prop := True

theorem follows_reserveCold {ticketTypeId : Int} :
    B.discipline.Follows exec t (fun outcome g' => match outcome with
      | .ok _ => g' = g
      | .error _ => True) (TicketService.reserveCold d ticketTypeId) g := by
  refine follows_neutral_bind trivial (fun _ => trivial) fun ticketType => ?_
  cases ticketType with
  | none => exact trivial
  | some row =>
      refine follows_neutral_bind trivial (fun _ => trivial) fun _ => ?_
      refine follows_neutral trivial fun answer => ?_
      cases answer with
      | ok _ => rfl
      | error _ => trivial

theorem follows_book {userId ticketTypeId : Int} {ticketData : TicketCreate}
    (mine : B.ops t = .create userId ticketData) :
    B.discipline.Follows exec t anyhow (TicketService.book d userId ticketTypeId)
      (.idle false) := by
  -- the count is taken up, unless there is no such ticket type
  refine Discipline.Follows.bind (fun _ g' =>
      ((B.start.ticketTypes.row ticketTypeId).isSome →
        ∃ row row', row.addTicketsSold 1 = .ok row' ∧
        g'.types = Locks.none.add ticketTypeId (some row) (some row')) ∧
      g'.tickets = Locks.none) ?_ fun _ g₁ counted => ?_
  · refine follows_addTicketsSold none rfl
      (fun _ _ _ _ _ _ _ _ _ => ⟨fun _ => .inl (by decide), nofun⟩)
      (fun _ => trivial) (fun absent _ => ⟨fun some => ?_, rfl⟩)
      fun row row' ok => ⟨fun _ => ⟨row, row', ok, rfl⟩, rfl⟩
    rw [absent] at some
    cases some
  -- the ticket is inserted
  refine Discipline.Follows.bind (fun id g' => g'.Ready (.booked id)) ?_
    fun id g₂ ready => ?_
  · refine follows_insertTicket (fun _ => trivial) fun id ticket present reserved same => ?_
    obtain ⟨row, row', ok, types⟩ := counted.1 present
    refine ready_booked ticket ?_ reserved (same ▸ types) ok
    show g₁.tickets.add id none (some ticket) = _
    rw [counted.2]
  refine follows_neutral_bind trivial (fun _ => trivial) fun clock => ?_
  refine follows_neutral_bind trivial (fun _ => trivial) fun _ => ?_
  refine Discipline.Follows.bind (fun _ _ => True) ?_ fun _ g₃ _ => ?_
  · have makes : (B.ops t).Makes (.booked id) := by rw [mine]; trivial
    exact follows_commit ready makes (fun _ => trivial) trivial
  refine follows_neutral_bind trivial (fun _ => trivial) fun newTicket => ?_
  exact follows_neutral_bind trivial (fun _ => trivial) fun _ => trivial

theorem follows_compensate {ticketTypeId : Int} {e : Exn} :
    B.discipline.Follows exec t anyhow
      (TicketService.compensate (α := α) d ticketTypeId e) g := by
  unfold TicketService.compensate
  split
  · refine Discipline.Follows.bind (fun _ _ => True)
      (follows_rollback (fun _ => trivial) trivial) fun _ g' _ => ?_
    refine follows_neutral_bind trivial (fun _ => trivial) fun _ => ?_
    split
    · exact trivial
    · exact trivial
  · exact trivial

theorem follows_create {userId : Int} {ticketData : TicketCreate}
    (mine : B.ops t = .create userId ticketData) :
    B.discipline.Follows exec t anyhow (TicketService.create d userId ticketData)
      (.idle false) := by
  refine follows_neutral_bind trivial (fun _ => trivial) fun first => ?_
  refine Discipline.Follows.bind (fun _ g' => g' = idle false) ?_
    fun result g' same => ?_
  · unfold TicketService.fallback
    split
    · refine Discipline.Follows.mono follows_reserveCold fun outcome g' holds => ?_
      cases outcome with
      | ok _ => exact holds
      | error _ => trivial
    · exact rfl
  subst same
  split
  · exact trivial
  · refine Discipline.Follows.bind (fun _ _ => True) ?_ fun _ _ _ => trivial
    refine Discipline.Follows.tryCatch (fun _ _ => True) ?_ fun e g' _ => ?_
    · exact (follows_book mine).mono fun outcome _ _ => by cases outcome <;> trivial
    · exact follows_compensate.mono fun outcome _ _ => by cases outcome <;> trivial

/-! ## Deletions -/

theorem follows_remove {ownerId ticketId : Int} {ticket : Ticket}
    (mine : B.ops t = .delete ownerId ticketId) :
    B.discipline.Follows exec t anyhow (TicketService.remove d ticketId ticket)
      { idle false with seen := some (ticketId, ticket.ticketTypeId) } := by
  -- the guard says that the ticket is active, and what was read says of which type it is
  refine Discipline.Follows.bind (fun _ g' =>
      (∃ row row', row.addTicketsSold (-1) = .ok row' ∧
        g'.types = Locks.none.add ticket.ticketTypeId (some row) (some row')) ∧
      g'.claim = some (ticketId, ticket.ticketTypeId) ∧ g'.tickets = Locks.none) ?_
    fun _ g₁ claimed => ?_
  · refine follows_addTicketsSold (some (ticketId, ticket.ticketTypeId)) rfl ?_ (fun _ => trivial)
      nofun fun row row' ok => ⟨⟨row, row', ok, rfl⟩, rfl, rfl⟩
    intro events w ghost choice answer w' inv own guarded
    unfold deletesActive at guarded
    simp only [mine] at guarded
    obtain ⟨ticket', stored, active⟩ := (Option.any_eq_true _ _).mp guarded
    have active : ticket'.Active := of_decide_eq_true active
    have known := inv.seen t ticketId ticket.ticketTypeId (by rw [own])
    have slot : slots ticket.ticketTypeId (w.db.tickets.row ticketId) = 1 := by
      rw [stored, slots_active active, if_pos (known.version ticket' (.inl stored))]
    refine ⟨fun _ => .inr ?_, fun id ty same => ?_⟩
    · rw [neg_neg, ← slot]
      exact w.db.slots_le _ _
    · cases same
      exact ⟨rfl, slot⟩
  obtain ⟨⟨row, row', ok, types⟩, claim, tickets⟩ := claimed
  refine Discipline.Follows.bind (fun _ g' => g'.Ready (.removed ticketId)) ?_
    fun _ g₂ ready => ?_
  · refine follows_deleteTicket claim (by rw [tickets]; rfl) (fun _ => trivial)
      fun ticket' active same => ?_
    refine ready_removed ticket' ?_ active (same ▸ types) ok
    show g₁.tickets.add ticketId (some ticket') none = _
    rw [tickets]
  refine Discipline.Follows.bind (fun _ _ => True) ?_ fun _ g₃ _ => ?_
  · have makes : (B.ops t).Makes (.removed ticketId) := by rw [mine]; rfl
    exact follows_commit ready makes (fun _ => trivial) trivial
  refine follows_neutral_bind trivial (fun _ => trivial) fun _ => ?_
  exact follows_neutral trivial fun _ => trivial

theorem follows_delete {ownerId ticketId : Int} (mine : B.ops t = .delete ownerId ticketId) :
    B.discipline.Follows exec t anyhow (TicketService.delete d ownerId ticketId) (idle false) := by
  refine Discipline.Follows.bind (fun found g' => ∀ ticket, found = some ticket →
    g' = { idle false with seen := some (ticketId, ticket.ticketTypeId) }) ?_
    fun found g' known => ?_
  · refine follows_selectTicket (fun _ => trivial) nofun fun ticket ticket' same => ?_
    cases same
    rfl
  cases found with
  | none => exact trivial
  | some ticket =>
      rw [known ticket rfl]
      refine Discipline.Follows.tryCatch (fun _ _ => True) ?_
        fun e g'' _ => follows_rollbackOnSQLAlchemyError
          (follows_rollback (fun _ => trivial) trivial) trivial
      refine Discipline.Follows.mono (follows_remove mine) fun outcome _ _ => ?_
      cases outcome with
      | ok _ => trivial
      | error _ => trivial

/-! ## Payments -/

/-- Success means that the operation's change is committed. -/
def successCommitted (outcome : Except Exn α) (committed : Bool) : Prop :=
  ∀ a, outcome = .ok a → committed = true

theorem follows_settle {ticketId ownerId : Int} {ticket : Ticket}
    (mine : B.ops t = .payForTicket ticketId ownerId) (reserved : ticket.status = .reserved) :
    B.discipline.Follows exec t (fun outcome g' => successCommitted outcome g'.committed)
      (PaymentService.settle d ticketId)
      ((idle false).lockTicket ticketId (some ticket) (some ticket)) := by
  have raised : ∀ (e : Exn) (g' : Session),
      successCommitted (.error e : Except Exn Ticket) g'.committed :=
        fun e g' a same => by cases same
  refine Discipline.Follows.bind (fun _ g' => g'.Ready (.paid ticketId)) ?_
    fun _ g₁ ready => ?_
  · refine follows_updateTicketStatus (some ticket) ticket Locks.add_self (fun e => raised e _) ?_
    exact ready_paid ticket Locks.add_add reserved rfl
  refine Discipline.Follows.bind (fun _ g' => g'.committed = true) ?_
    fun _ g₂ committed => ?_
  · have makes : (B.ops t).Makes (.paid ticketId) := by rw [mine]; rfl
    exact follows_commit ready makes (fun e => raised e _) rfl
  refine follows_neutral_bind trivial (fun e => raised e _) fun paid => ?_
  exact follows_neutral_bind trivial (fun e => raised e _) fun _ _ _ => committed

theorem follows_payForTicket {ticketId ownerId : Int}
    (mine : B.ops t = .payForTicket ticketId ownerId) :
    B.discipline.Follows exec t (fun outcome g' => successCommitted outcome g'.committed)
      (PaymentService.payForTicket d ticketId ownerId) (idle false) := by
  have raised : ∀ (e : Exn) (g' : Session),
      successCommitted (.error e : Except Exn TicketPaymentSchema) g'.committed :=
    fun e g' a same => by cases same
  refine Discipline.Follows.bind (fun found g' => ∀ ticket, found = some ticket →
    g' = (idle false).lockTicket ticketId (some ticket) (some ticket)) ?_ fun found g' locked => ?_
  · refine follows_selectTicketForUpdate rfl
      (fun e => raised e _) nofun fun ticket ticket' same => ?_
    cases same
    rfl
  cases found with
  | none => exact raised _ _
  | some ticket =>
      rw [locked ticket rfl]
      dsimp only
      split
      · exact raised _ _
      · exact raised _ _
      · rename_i reserved
        refine Discipline.Follows.bind (fun _ g' => g'.committed = true) ?_
          fun paid g'' committed a _ => committed
        refine Discipline.Follows.tryCatch (fun _ _ => True) ?_
          fun e g'' _ => follows_rollbackOnSQLAlchemyError
            (follows_rollback (fun e' => raised e' _) (raised e _)) (raised e g'')
        refine Discipline.Follows.mono (follows_settle mine reserved) fun outcome g'' holds => ?_
        cases outcome with
        | ok a => exact holds a rfl
        | error _ => trivial

/-! ## The timeout of one ticket -/

theorem follows_cancelTicket {ticketId : Int} {ticket : Ticket}
    (mine : B.ops t = .releaseUnpaidTicket ticketId) (reserved : ticket.status = .reserved) :
    B.discipline.Follows exec t anyhow (Worker.cancelTicket d ticketId ticket)
      ((idle false).lockTicket ticketId (some ticket) (some ticket)) := by
  -- the ticket is locked, so it is still active
  refine Discipline.Follows.bind (fun _ g' =>
      (∃ row row', row.addTicketsSold (-1) = .ok row' ∧
        g'.types = Locks.none.add ticket.ticketTypeId (some row) (some row')) ∧
      g'.tickets = Locks.none.add ticketId (some ticket) (some ticket)) ?_ fun _ g₁ charged => ?_
  · refine follows_addTicketsSold (some (ticketId, ticket.ticketTypeId)) rfl ?_ (fun _ => trivial)
      nofun fun row row' ok => ⟨⟨row, row', ok, rfl⟩, rfl⟩
    intro events w ghost choice answer w' inv own _
    have stored : w.db.tickets.row ticketId = some ticket := by
      have locked : (ghost t).tickets ticketId = some (some ticket, some ticket) := by
        rw [own]
        exact Locks.add_self
      exact (inv.read_ticket locked).2
    have slot : slots ticket.ticketTypeId (w.db.tickets.row ticketId) = 1 := by
      rw [stored, slots_active (Ticket.active_of_reserved reserved), if_pos rfl]
    refine ⟨fun _ => .inr ?_, fun id ty same => ?_⟩
    · rw [neg_neg, ← slot]
      exact w.db.slots_le _ _
    · cases same
      exact ⟨rfl, slot⟩
  obtain ⟨⟨row, row', ok, types⟩, tickets⟩ := charged
  refine follows_neutral_bind trivial (fun _ => trivial) fun _ => ?_
  have canceling : Canceling (Locks.none.add ticketId (some ticket)
      (some (ticket.withStatus .canceled))) ([] ++ [(ticketId, ticket.ticketTypeId)]) :=
    .snoc .nil rfl reserved
  refine Discipline.Follows.bind (fun _ g' => g'.Ready (.canceled {ticketId})) ?_
    fun _ g₂ ready => ?_
  · refine follows_updateTicketStatus (some ticket) ticket
      (by rw [tickets]; exact Locks.add_self) (fun _ => trivial) ?_
    refine ready_canceled [(ticketId, ticket.ticketTypeId)] ?_ ?_
    · show Canceling (g₁.tickets.add ticketId _ _) _
      rw [tickets, Locks.add_add]
      exact canceling
    · have count : (fun ty => -countOf [(ticketId, ticket.ticketTypeId)] ty) =
          fun ty => if ticket.ticketTypeId = ty then -1 else 0 := by
        funext ty
        have snoc := countOf_snoc [] ticketId ticket.ticketTypeId ty
        rw [List.nil_append] at snoc
        rw [snoc]
        split
        · rfl
        · rfl
      rw [count]
      exact charges_single types ok
  have makes : (B.ops t).Makes (.canceled {ticketId}) := by rw [mine]; rfl
  exact follows_commit ready makes (fun _ => trivial) trivial

theorem follows_releaseUnpaidTicket {ticketId : Int}
    (mine : B.ops t = .releaseUnpaidTicket ticketId) :
    B.discipline.Follows exec t (fun _ g' => Ended g') (Worker.releaseUnpaidTicket d ticketId)
      (idle false) := by
  refine follows_withSession (fun _ _ => True) ?_ fun _ _ _ => follows_close rfl
  refine Discipline.Follows.tryCatch (fun _ _ => True) ?_ fun e g' _ => ?_
  · refine Discipline.Follows.bind (fun found g' => ∀ ticket, found = some ticket →
      g' = (idle false).lockTicket ticketId (some ticket) (some ticket)) ?_
      fun found g' locked => ?_
    · refine follows_selectTicketForUpdate rfl
        (fun _ => trivial) nofun fun ticket ticket' same => ?_
      cases same
      rfl
    cases found with
    | none => exact trivial
    | some ticket =>
        rw [locked ticket rfl]
        dsimp only
        split
        · exact trivial
        · rename_i reserved
          refine Discipline.Follows.mono (follows_cancelTicket mine (not_not.mp reserved))
            fun outcome _ _ => ?_
          cases outcome with
          | ok _ => trivial
          | error _ => trivial
  · exact Discipline.Follows.bind (fun _ _ => True)
      (follows_rollback (fun _ => trivial) trivial) fun _ _ _ => trivial

/-! ## The garbage collectors -/

/-- The rows of the cancelling `UPDATE`: what it returns is what the transaction has canceled. -/
theorem follows_cancelHungTickets {threshold : Int} {before : List (Int × Int)} (ids : List Int)
    {g : Session} (canceling : Canceling g.tickets before) (types : g.types = Locks.none) :
    B.discipline.Follows exec t (fun outcome g' => ∀ rows, outcome = .ok rows →
        Canceling g'.tickets (before ++ rows) ∧ g'.types = Locks.none)
      (Worker.cancelHungTickets threshold ids) g := by
  induction ids generalizing before g with
  | nil =>
      intro rows same
      cases same
      rw [List.append_nil]
      exact ⟨canceling, types⟩
  | cons id ids ih =>
      refine Discipline.Follows.bind (fun row g' =>
        Canceling g'.tickets (before ++ row.toList) ∧ g'.types = Locks.none) ?_
        fun row g' holds => ?_
      · refine follows_cancelHungTicket (fun lock mine => ?_) nofun ?_
          fun ticket reserved free => ?_
        · obtain ⟨ticket, _, rfl, _⟩ := canceling.locked mine
          exact ⟨_, rfl, rfl⟩
        · exact ⟨by rw [Option.toList_none, List.append_nil]; exact canceling, types⟩
        · exact ⟨canceling.snoc free reserved, types⟩
      refine Discipline.Follows.bind (fun rows g'' =>
        Canceling g''.tickets (before ++ row.toList ++ rows) ∧ g''.types = Locks.none) ?_ ?_
      · refine Discipline.Follows.mono (ih holds.1 holds.2) fun outcome g'' canceled => ?_
        cases outcome with
        | ok rows => exact canceled rows rfl
        | error e => exact nofun
      · rintro rows g'' canceled all same
        cases same
        rwa [← List.append_assoc]

/-- The ticket types that have been counted down are locked and charged, the others are free. -/
def CountedDown (rows : List (Int × Int)) (done : List Int) (g : Session) : Prop :=
  ∀ ty, (ty ∉ done → g.types ty = none) ∧ (ty ∈ done → ∃ row row',
    g.types ty = some (some row, some row') ∧ row.addTicketsSold (-countOf rows ty) = .ok row')

theorem CountedDown.snoc {rows : List (Int × Int)} {done : List Int} (h : CountedDown rows done g)
    {ty : Int} {row row' : TicketType} (ok : row.addTicketsSold (-countOf rows ty) = .ok row')
    {claim : Option (Int × Int)} :
    CountedDown rows (done ++ [ty])
      { g.lockType ty (some row) (some row') with claim := claim } := by
  intro ty'
  by_cases same : ty' = ty
  · subst same
    exact ⟨fun out => absurd (List.mem_append_right _ (List.mem_singleton_self _)) out,
      fun _ => ⟨row, row', Locks.add_self, ok⟩⟩
  · have kept : ({ g.lockType ty (some row) (some row') with claim := claim } :
        Session).types ty' =
        g.types ty' := Locks.add_of_ne same
    rw [kept]
    refine ⟨fun out => (h ty').1 fun mem => out (List.mem_append_left _ mem), fun mem => ?_⟩
    rcases List.mem_append.mp mem with mem | mem
    · exact (h ty').2 mem
    · exact (same (List.mem_singleton.mp mem)).elim

/-- One ticket type of the canceled tickets is counted down. -/
theorem follows_countDown_one {rows : List (Int × Int)} {ty : Int} {done : List Int}
    {post : Except Exn Unit → Session → Prop} (canceling : Canceling g.tickets rows)
    (counted : CountedDown rows done g) (fresh : ty ∉ done) (mem : ty ∈ rows.map Prod.snd)
    (raised : ∀ e, post (.error e) g)
    (next : ∀ g', Canceling g'.tickets rows → CountedDown rows (done ++ [ty]) g' →
      post (.ok ()) g') :
    B.discipline.Follows exec t post (sql (.addTicketsSold ty (-countOf rows ty))) g := by
  obtain ⟨⟨id, _⟩, listed, rfl⟩ := List.mem_map.mp mem
  obtain ⟨ticket, reserved, same, mine⟩ := canceling.of_mem_rows listed
  refine follows_addTicketsSold (some (id, ticket.ticketTypeId))
    ((counted _).1 fresh) ?_ raised nofun
    fun row row' ok => next _ canceling (counted.snoc ok)
  intro events w ghost choice answer w' inv own _
  subst own
  refine ⟨fun _ => .inr ?_, fun id' ty' claimed => ?_⟩
  · rw [neg_neg, ← canceling.sum_slots (inv.tickets t).base]
    exact w.db.sum_slots_le _ _
  · cases claimed
    refine ⟨same, ?_⟩
    rw [(inv.read_ticket mine).2, slots_active (Ticket.active_of_reserved reserved), if_pos same]

/-- The ticket types of the canceled tickets are counted down one after the other. -/
theorem follows_countDown {rows : List (Int × Int)} (canceling : Canceling g.tickets rows)
    (types : g.types = Locks.none) :
    B.discipline.Follows exec t (fun outcome g' => outcome = .ok ⟨⟩ →
        Canceling g'.tickets rows ∧ g'.Charges fun ty => -countOf rows ty)
      ((Worker.typeCount rows).forM fun (ticketTypeId, count) =>
        sql (.addTicketsSold ticketTypeId (-count))) g := by
  have nodup := Worker.kindsOf_nodup rows
  rw [Worker.typeCount_eq]
  refine Discipline.Follows.forM (fun rest g' => ∃ done todo,
      rest = todo.map (fun ty => (ty, countOf rows ty)) ∧ Worker.kindsOf rows = done ++ todo ∧
      Canceling g'.tickets rows ∧ CountedDown rows done g') ?_ ?_
    ⟨[], _, rfl, rfl, canceling, fun ty => ⟨fun _ => by rw [types]; rfl, nofun⟩⟩
  · rintro x rest g' ⟨done, todo, split, all, canceling', counted⟩
    cases todo with
    | nil => cases split
    | cons ty todo =>
        cases split
        have fresh : ty ∉ done := fun mem => by
          rw [all] at nodup
          exact (List.nodup_append.mp nodup).2.2 ty mem ty (List.mem_cons_self ..) rfl
        have mem : ty ∈ rows.map Prod.snd := by
          rw [← Worker.mem_kindsOf, all]
          exact List.mem_append_right _ (List.mem_cons_self ..)
        exact follows_countDown_one canceling' counted fresh mem nofun
          fun g'' canceling'' counted'' =>
            ⟨done ++ [ty], todo, rfl, by rw [all, List.append_assoc]; rfl,
              canceling'', counted''⟩
  · rintro g' ⟨done, todo, split, all, canceling', counted⟩ _
    cases todo with
    | cons ty todo => cases split
    | nil =>
        rw [List.append_nil] at all
        refine ⟨canceling', fun ty => ?_⟩
        by_cases mem : ty ∈ done
        · exact .inr ((counted ty).2 mem)
        · refine .inl ⟨?_, (counted ty).1 mem⟩
          rw [← all, Worker.mem_kindsOf] at mem
          dsimp only
          unfold countOf
          rw [List.count_eq_zero_of_not_mem mem]
          rfl

theorem follows_reconcile {threshold : Int} (mine : B.ops t = .reconcileHungTickets) :
    B.discipline.Follows exec t anyhow (Worker.reconcile d threshold) (idle false) := by
  refine follows_neutral_bind trivial (fun _ => trivial) fun ids => ?_
  refine Discipline.Follows.bind (fun rows g' =>
    Canceling g'.tickets rows ∧ g'.types = Locks.none) ?_ fun rows g₁ holds => ?_
  · refine Discipline.Follows.mono (follows_cancelHungTickets ids .nil rfl) fun outcome g' h => ?_
    cases outcome with
    | ok rows => exact h rows rfl
    | error _ => trivial
  by_cases none : rows = []
  · rw [if_pos none]
    exact trivial
  rw [if_neg none]
  refine Discipline.Follows.bind (fun _ g' =>
    Canceling g'.tickets rows ∧ g'.Charges fun ty => -countOf rows ty) ?_ fun _ g₂ charged => ?_
  · refine Discipline.Follows.mono (follows_countDown holds.1 holds.2) fun outcome g' h => ?_
    cases outcome with
    | ok _ => exact h rfl
    | error _ => trivial
  refine Discipline.Follows.bind (fun _ g' => g' = g₂) ?_ fun _ g₃ same => ?_
  · refine Discipline.Follows.forM (fun _ g' => g' = g₂) ?_ (fun _ same => same) rfl
    intro x rest g' same
    refine follows_neutral trivial fun answer => ?_
    cases answer with
    | ok _ => exact same
    | error _ => trivial
  subst same
  have makes : (B.ops t).Makes (.canceled (idsOf rows)) := by rw [mine]; trivial
  exact follows_commit (ready_canceled rows charged.1 charged.2) makes (fun _ => trivial) trivial

theorem follows_reconcileHungTickets (mine : B.ops t = .reconcileHungTickets) :
    B.discipline.Follows exec t (fun _ g' => Ended g') (Worker.reconcileHungTickets d)
      (idle false) :=
  follows_neutral_bind trivial (fun _ => rfl) fun _ =>
    follows_withSession (fun _ _ => True) (follows_reconcile mine) fun _ _ _ => follows_close rfl

/-- The collector of Redis only reads the database. -/
theorem follows_reconcileRedisOrphans :
    B.discipline.Follows exec t (fun _ g' => Ended g') (Worker.reconcileRedisOrphans d)
      (idle false) := by
  refine Discipline.Follows.bind (fun _ g' => g' = idle false) ?_ fun locks g₁ same => ?_
  · refine follows_neutral_bind trivial (fun _ => rfl) fun rawData => ?_
    split
    · exact rfl
    · exact rfl
  subst same
  split
  · exact rfl
  refine follows_neutral_bind trivial (fun _ => rfl) fun clock => ?_
  dsimp only
  split
  · exact rfl
  refine Discipline.Follows.bind (fun _ g' => Ended g') ?_ fun dbTickets g₂ ended => ?_
  · refine follows_withSession (fun _ _ => True) (follows_neutral trivial fun _ => trivial)
      fun outcome g' _ => follows_close ?_
    cases outcome with
    | ok _ => rfl
    | error _ => rfl
  refine Discipline.Follows.forM (fun _ g' => Ended g') ?_ (fun _ ended => ended) ended
  intro lock rest g' ended'
  refine follows_neutral trivial fun answer => ?_
  cases answer with
  | ok _ => exact ended'
  | error _ => exact ended'

/-! ## All operations on tickets -/

/-- An operation on tickets, as opposed to one on ticket types. -/
def OnTickets : Operation → Prop
  | .createType .. | .updateType .. | .deleteType _ => False
  | _ => True

/-- What an operation owes at its end: its transaction has ended, and if it is a payment that
succeeds it has committed. -/
structure Owes (op : Operation) (outcome : Except Exn Unit) (g : Session) : Prop where
  ended : Ended g
  committed : ∀ ticketId ownerId, op = .payForTicket ticketId ownerId → outcome = .ok () →
    g.committed = true

/-- **Every operation on tickets keeps the booking discipline.** -/
theorem follows_program (onTickets : OnTickets (B.ops t)) :
    B.discipline.Follows exec t (Owes (B.ops t)) ((B.ops t).program d) (idle false) := by
  cases op : B.ops t with
  | create userId ticketData =>
      refine follows_unit ?_
      have follows := follows_session (fun _ _ => True) (fun _ _ => trivial)
        (follows_create (d := d) op)
      exact follows.mono fun _ _ holds => ⟨holds.2, nofun⟩
  | delete ownerId ticketId =>
      have follows := follows_session (fun _ _ => True) (fun _ _ => trivial)
        (follows_delete (d := d) op)
      exact follows.mono fun _ _ holds => ⟨holds.2, nofun⟩
  | payForTicket ticketId ownerId =>
      refine follows_unit ?_
      refine Discipline.Follows.mono (follows_session successCommitted ?_
        (follows_payForTicket op)) fun outcome g' holds => ⟨holds.2, fun _ _ _ success => ?_⟩
      · rintro e committed a same
        cases same
      · cases outcome with
        | ok a => exact holds.1 a rfl
        | error e => cases success
  | releaseUnpaidTicket ticketId =>
      exact (follows_releaseUnpaidTicket op).mono fun _ _ holds => ⟨holds, nofun⟩
  | reconcileHungTickets =>
      exact (follows_reconcileHungTickets op).mono fun _ _ holds => ⟨holds, nofun⟩
  | reconcileRedisOrphans =>
      exact follows_reconcileRedisOrphans.mono fun _ _ holds => ⟨holds, nofun⟩
  | createType eventId typeData | updateType id updateData | deleteType id =>
      rw [op] at onTickets
      exact onTickets.elim

end TicketCore.Booking
