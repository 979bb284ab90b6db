import TicketCore.CommitOrder.Ready
import TicketCore.Sessions

/-!
# Requests for tickets keep the discipline of commits

The calls of `TicketService` and `PaymentService`, and the timeout of a ticket: whatever they are
called with and whichever of their awaited calls fail, what they commit is `Ready`.
-/

namespace TicketCore.CommitOrder

open Interleave RowStore Pending

variable {ι : Type} [DecidableEq ι] {d : Deployment} {acts : ι → Activity} {office : Office}
  {t : ι} {g : Pending} {α β : Type} {id ticketId ticketTypeId ownerId userId eventId : Int}

/-! ## Sequencing -/

/-- A call that changes no row, and then the rest. -/
theorem follows_neutral_bind {cmd : Cmd} {f : cmd.Resp → Async β}
    {post : Except Exn β → Pending → Prop}
    (neutral : Neutral cmd) (fault : ∀ e, post (.error e) g)
    (rest : ∀ a, (discipline d acts office).Follows exec t post (f a) g) :
    (discipline d acts office).Follows exec t post (Program.call cmd >>= f) g := by
  refine Discipline.Follows.bind (fun _ g' => g' = g) ?_ fun a g' same => ?_
  · refine follows_neutral neutral fun answer => ?_
    cases answer with
    | ok a => rfl
    | error e => exact fault e
  · rw [same]
    exact rest a

/-- One call and then another, where nothing is asked of the outcomes. -/
theorem follows_seq {first : Async α} {next : α → Async β}
    (h : (discipline d acts office).Follows exec t (fun _ _ => True) first g)
    (h' : ∀ a g', (discipline d acts office).Follows exec t (fun _ _ => True) (next a) g') :
    (discipline d acts office).Follows exec t (fun _ _ => True) (first >>= next) g := by
  refine Discipline.Follows.bind (fun _ _ => True) (h.mono fun outcome _ _ => ?_)
    fun a g' _ => h' a g'
  cases outcome with
  | ok _ => trivial
  | error _ => trivial

theorem free_ended : g.ended.Free := ⟨rfl, rfl, rfl⟩

/-- The request of an endpoint ends without a lock. -/
theorem follows_request {body : Async α}
    (h : (discipline d acts office).Follows exec t (fun _ _ => True) body g) :
    (discipline d acts office).Follows exec t (fun _ g' => g'.Free) (getDb body) g :=
  follows_getDb _ (fun _ _ => True) h (fun _ _ _ => trivial)
    (fun _ _ _ => follows_rollback (fun _ => trivial) trivial)
    fun _ _ _ => follows_close free_ended

/-- Nothing is locked and nothing is committed yet. -/
structure Fresh (g : Pending) : Prop where
  tickets : g.tickets = Locks.none
  types : g.types = Locks.none
  events : g.events = Locks.none
  committed : g.committed = false

theorem Fresh.learn {f : Fact} (fresh : Fresh g) : Fresh (g.learn f) :=
  ⟨fresh.tickets, fresh.types, fresh.events, fresh.committed⟩

theorem Fresh.see {reading : Reading} (fresh : Fresh g) : Fresh (g.see reading) :=
  ⟨fresh.tickets, fresh.types, fresh.events, fresh.committed⟩

theorem fresh_start : Fresh start := ⟨rfl, rfl, rfl, rfl⟩

theorem fresh_idle (fresh : Fresh g) : Idle g := by
  refine ⟨fun id lock locked => ?_, fun id lock locked => ?_, fun id lock locked => ?_⟩
  · rw [fresh.tickets] at locked
    cases locked
  · rw [fresh.types] at locked
    cases locked
  · rw [fresh.events] at locked
    cases locked

/-- Success means that the request is committed. -/
def successCommitted (outcome : Except Exn α) (committed : Bool) : Prop :=
  ∀ a, outcome = .ok a → committed = true

theorem successCommitted_error (e : Exn) (committed : Bool) :
    successCommitted (.error e : Except Exn α) committed :=
  fun a same => by cases same

/-! ## Bookings -/

theorem follows_reserveCold (fresh : Fresh g) :
    (discipline d acts office).Follows exec t
      (fun outcome g' => ∀ result, outcome = .ok result →
      Fresh g' ∧ g'.knows (.typeBorn ticketTypeId))
        (TicketService.reserveCold d ticketTypeId) g := by
  refine Discipline.Follows.bind (fun row g' => ∀ r, row = some r →
      Fresh g' ∧ g'.knows (.typeBorn ticketTypeId)) ?_ fun row g₁ known => ?_
  · refine follows_getTicketType (by rw [fresh.types]; rfl) (fun _ _ => nofun) (fun _ => nofun) ?_
    exact fun _ _ _ => ⟨fresh.learn.see, .inr rfl⟩
  cases row with
  | none => exact fun _ => nofun
  | some row =>
      obtain ⟨fresh, known⟩ := known row rfl
      refine Discipline.Follows.bind (fun _ g' => g' = g₁) ?_ fun _ g₂ same => ?_
      · refine follows_setInventory known fun answer => ?_
        cases answer with
        | ok _ => rfl
        | error _ => exact fun _ => nofun
      subst same
      exact follows_evalReserve (fun _ _ => nofun) (fun _ _ => ⟨fresh, known⟩)
        fun _ _ _ => ⟨fresh.learn, .inl known⟩

/-- What a booking leaves behind: what is known of the type, and, if it succeeds, the commit. -/
def Booked (ticketTypeId : Int) (outcome : Except Exn α) (g : Pending) : Prop :=
  g.knows (.typeBorn ticketTypeId) ∧ successCommitted outcome g.committed

theorem booked_error {e : Exn} (known : g.knows (.typeBorn ticketTypeId)) :
    Booked ticketTypeId (.error e : Except Exn α) g :=
  ⟨known, successCommitted_error e _⟩

theorem follows_book {ticketData : TicketCreate}
    (mine : acts t = .operation (.create userId ticketData))
    (fresh : Fresh g) (known : g.knows (.typeBorn ticketData.ticketTypeId)) :
    (discipline d acts office).Follows exec t (Booked ticketData.ticketTypeId)
      (TicketService.book d userId ticketData.ticketTypeId) g := by
  -- the count is taken up, unless the type has gone
  refine Discipline.Follows.bind (fun _ g' => Counted ticketData.ticketTypeId 1 g' ∧
      g'.tickets = Locks.none ∧ g'.events = Locks.none ∧ g'.committed = false ∧
      g'.knows (.typeBorn ticketData.ticketTypeId)) ?_ fun _ g₁ counted => ?_
  · refine follows_addTicketsSold (by rw [fresh.types]; rfl) known
      (fun _ => booked_error known) ?_ ?_
    · exact ⟨.inr ⟨.inr rfl, fresh.types⟩, fresh.tickets, fresh.events,
        fresh.committed, .inl known⟩
    · intro row row' changed
      refine ⟨.inl ⟨row, row', changed, ?_⟩, fresh.tickets, fresh.events,
        fresh.committed, known⟩
      show g.types.add _ _ _ = _
      rw [fresh.types]
  obtain ⟨counted, tickets, events, first, known⟩ := counted
  -- the ticket is inserted, so the type is there
  refine Discipline.Follows.bind (fun id g' => Ready d (acts t) g' ∧ g'.committed = false ∧
      g'.knows (.typeBorn ticketData.ticketTypeId)) ?_ fun id g₂ ready => ?_
  · refine follows_insertTicket ?_ (fun _ => booked_error known) fun id clock stays => ?_
    · rcases counted with ⟨row, row', _, types⟩ | ⟨gone, _⟩
      · exact .inl ⟨row, row', by rw [types]; exact Locks.add_self⟩
      · exact .inr gone
    · obtain ⟨row, row', changed, types⟩ := counted.resolve_right fun gone => stays gone.1
      have ticket : g₁.tickets.add id none
          (some ⟨ticketData.ticketTypeId, userId, .reserved, clock⟩) =
          Locks.none.add id none
              (some ⟨ticketData.ticketTypeId, userId, .reserved, clock⟩) := by
        rw [tickets]
      refine ⟨?_, first, .inl known⟩
      rw [mine]
      exact ready_booked ticket types changed (.inr rfl) events
  obtain ⟨ready, first, known⟩ := ready
  refine follows_neutral_bind trivial (fun _ => booked_error known) fun clock => ?_
  refine follows_neutral_bind trivial (fun _ => booked_error known) fun _ => ?_
  refine Discipline.Follows.bind (fun _ g' => g'.committed = true ∧
      g'.knows (.typeBorn ticketData.ticketTypeId)) ?_ fun _ g₃ done => ?_
  · exact follows_commit ready first (fun _ => booked_error known) ⟨rfl, .inl known⟩
  obtain ⟨committed, known⟩ := done
  refine follows_neutral_bind trivial (fun _ => booked_error known) fun newTicket => ?_
  exact follows_neutral_bind trivial (fun _ => booked_error known)
    fun _ => ⟨known, fun _ _ => committed⟩

theorem follows_compensate {e : Exn} (known : g.knows (.typeBorn ticketTypeId)) :
    (discipline d acts office).Follows exec t
      (fun outcome g' => successCommitted outcome g'.committed)
      (TicketService.compensate (α := α) d ticketTypeId e) g := by
  have raised : ∀ (e : Exn) (g' : Pending),
      successCommitted (.error e : Except Exn α) g'.committed :=
    fun e g' => successCommitted_error e _
  unfold TicketService.compensate
  split
  · refine Discipline.Follows.bind (fun _ g' => g'.knows (.typeBorn ticketTypeId))
      (follows_rollback (fun _ => raised _ _) known) fun _ g₁ known => ?_
    refine Discipline.Follows.bind (fun _ _ => True) ?_ fun _ g₂ _ => ?_
    · refine follows_incrInventory known fun answer => ?_
      cases answer with
      | ok _ => trivial
      | error _ => exact raised _ _
    · split
      · exact raised _ _
      · exact raised _ _
  · exact raised _ _

theorem follows_create {ticketData : TicketCreate}
    (mine : acts t = .operation (.create userId ticketData)) (fresh : Fresh g) :
    (discipline d acts office).Follows exec t
      (fun outcome g' => successCommitted outcome g'.committed)
      (TicketService.create d userId ticketData) g := by
  have raised : ∀ (e : Exn) (g' : Pending),
      successCommitted (.error e : Except Exn TicketResponse) g'.committed :=
    fun e g' => successCommitted_error e _
  refine Discipline.Follows.bind (fun result g' => Fresh g' ∧
      (result ≠ -1 → g'.knows (.typeBorn ticketData.ticketTypeId))) ?_
      fun first g₁ reserved => ?_
  · exact follows_evalReserve (fun _ => raised _ _) ⟨fresh, fun other => (other rfl).elim⟩
      fun _ => ⟨fresh.learn, fun _ => .inr rfl⟩
  obtain ⟨fresh, reserved⟩ := reserved
  refine Discipline.Follows.bind (fun _ g' => Fresh g' ∧
      g'.knows (.typeBorn ticketData.ticketTypeId)) ?_ fun result g₂ reserved => ?_
  · unfold TicketService.fallback
    split
    · refine (follows_reserveCold fresh).mono fun outcome g' holds => ?_
      cases outcome with
      | ok result => exact holds result rfl
      | error _ => exact raised _ _
    · rename_i other
      exact ⟨fresh, reserved other⟩
  obtain ⟨fresh, known⟩ := reserved
  split
  · exact raised _ _
  · refine Discipline.Follows.bind (fun _ g' => g'.committed = true) ?_
      fun a g' committed _ _ => committed
    refine Discipline.Follows.tryCatch (fun _ g' => g'.knows (.typeBorn ticketData.ticketTypeId)) ?_
      fun e g' known => ?_
    · refine (follows_book mine fresh known).mono fun outcome g' holds => ?_
      cases outcome with
      | ok a => exact holds.2 a rfl
      | error _ => exact holds.1
    · refine (follows_compensate known).mono fun outcome g' holds => ?_
      cases outcome with
      | ok a => exact holds a rfl
      | error _ => exact raised _ _

/-! ## Deletions -/

theorem follows_remove {ticket : Ticket} (mine : acts t = .operation (.delete ownerId ticketId))
    (fresh : Fresh g) (found : g.knows (.ticket ticketId ticket.identity))
    (known : g.knows (.typeBorn ticket.ticketTypeId)) (owned : ticket.ownerId = ownerId)
    (shown : g.shown (.ticket ownerId ticketId ticket)) :
    (discipline d acts office).Follows exec t (fun _ _ => True)
      (TicketService.remove d ticketId ticket) g := by
  refine Discipline.Follows.bind (fun _ g' => Counted ticket.ticketTypeId (-1) g' ∧
      g'.tickets = Locks.none ∧ g'.events = Locks.none ∧ g'.committed = false ∧
      g'.knows (.ticket ticketId ticket.identity) ∧
      g'.shown (.ticket ownerId ticketId ticket)) ?_ fun _ g₁ counted => ?_
  · refine follows_addTicketsSold (by rw [fresh.types]; rfl) known (fun _ => trivial) ?_ ?_
    · exact ⟨.inr ⟨.inr rfl, fresh.types⟩, fresh.tickets, fresh.events,
        fresh.committed, .inl found,
        shown⟩
    · intro row row' changed
      refine ⟨.inl ⟨row, row', changed, ?_⟩, fresh.tickets, fresh.events, fresh.committed,
        found, shown⟩
      show g.types.add _ _ _ = _
      rw [fresh.types]
  obtain ⟨counted, tickets, events, first, found, shown⟩ := counted
  refine Discipline.Follows.bind (fun _ g' => Ready d (acts t) g' ∧ g'.committed = false) ?_
    fun _ g₂ ready => ?_
  · rw [mine]
    refine follows_deleteTicket (by rw [tickets]; rfl) found (fun _ => trivial) ?_ ?_
    · -- another request has deleted the ticket in the meantime
      have counted : Counted ticket.ticketTypeId (-1) (g₁.learn (.ticketGone ticketId)) :=
        counted.imp (fun counted => counted) fun gone => ⟨.inl gone.1, gone.2⟩
      exact ⟨ready_missed shown tickets (.inr rfl) counted events, first⟩
    · intro ticket' same
      have type : ticket'.ticketTypeId = ticket.ticketTypeId := congrArg Prod.fst same
      have owner : ticket'.ownerId = ticket.ownerId := congrArg Prod.snd same
      refine ⟨ready_givenUp ?_ (owner.trans owned) ?_ events, first⟩
      · show g₁.tickets.add _ _ _ = _
        rw [tickets]
      · rw [type]
        exact counted
  refine Discipline.Follows.bind (fun _ _ => True) ?_ fun _ g₃ _ => ?_
  · exact follows_commit ready.1 ready.2 (fun _ => trivial) trivial
  refine follows_neutral_bind trivial (fun _ => trivial) fun _ => ?_
  exact follows_neutral trivial fun _ => trivial

theorem follows_delete (mine : acts t = .operation (.delete ownerId ticketId)) (fresh : Fresh g) :
    (discipline d acts office).Follows exec t (fun _ _ => True)
      (TicketService.delete d ownerId ticketId) g := by
  refine Discipline.Follows.bind (fun found g' => ∀ ticket, found = some ticket → Fresh g' ∧
      g'.knows (.ticket ticketId ticket.identity) ∧ g'.knows (.typeBorn ticket.ticketTypeId) ∧
      ticket.ownerId = ownerId ∧ g'.shown (.ticket ownerId ticketId ticket)) ?_
      fun found g' known => ?_
  · refine follows_selectTicket (by rw [fresh.tickets]; rfl) (fun _ => trivial) (fun _ => nofun) ?_
    intro ticket owned ticket' same
    cases same
    exact ⟨fresh.learn.learn.see, .inl (.inr rfl), .inr rfl, owned, .inr rfl⟩
  cases found with
  | none => exact trivial
  | some ticket =>
      obtain ⟨fresh, found, known, owned, shown⟩ := known ticket rfl
      refine Discipline.Follows.tryCatch (fun _ _ => True) ?_
        fun e g'' _ => follows_rollbackOnSQLAlchemyError
          (follows_rollback (fun _ => trivial) trivial) trivial
      refine (follows_remove mine fresh found known owned shown).mono fun outcome _ _ => ?_
      cases outcome with
      | ok _ => trivial
      | error _ => trivial

/-! ## Payments -/

/-- The transaction has locked the ticket and changed nothing. -/
structure Found (ticketId : Int) (ticket : Ticket) (g : Pending) : Prop where
  tickets : g.tickets = Locks.none.add ticketId (some ticket) (some ticket)
  types : g.types = Locks.none
  events : g.events = Locks.none
  committed : g.committed = false
  known : g.knows (.typeBorn ticket.ticketTypeId)

theorem follows_lock {owner : Option Int} {post : Except Exn (Option Ticket) → Pending → Prop}
    (fresh : Fresh g) (fault : ∀ e, post (.error e) g) (absent : post (.ok none) g)
    (found : ∀ ticket g', Database.matchesOwner ticket owner → Found ticketId ticket g' →
      post (.ok (some ticket)) g') :
    (discipline d acts office).Follows exec t post
      (sql (.selectTicketForUpdate ticketId owner)) g := by
  refine follows_selectTicketForUpdate (by rw [fresh.tickets]; rfl) fault absent
    fun ticket owned => ?_
  refine found ticket _ owned ⟨?_, fresh.types, fresh.events, fresh.committed, .inr rfl⟩
  show g.tickets.add _ _ _ = _
  rw [fresh.tickets]

theorem follows_settle {ticket : Ticket}
    (mine : acts t = .operation (.payForTicket ticketId ownerId))
    (found : Found ticketId ticket g) (owned : ticket.ownerId = ownerId)
    (reserved : ticket.status = .reserved) :
    (discipline d acts office).Follows exec t
      (fun outcome g' => successCommitted outcome g'.committed)
      (PaymentService.settle d ticketId) g := by
  have raised : ∀ (e : Exn) (g' : Pending),
      successCommitted (.error e : Except Exn Ticket) g'.committed :=
    fun e g' => successCommitted_error e _
  refine Discipline.Follows.bind (fun _ g' => Ready d (acts t) g' ∧ g'.committed = false) ?_
    fun _ g₁ ready => ?_
  · rw [mine]
    refine follows_updateTicketStatus (by rw [found.tickets]; exact Locks.add_self)
      (fun _ => raised _ _) ?_
    refine ⟨ready_paid ?_ owned reserved found.types found.events, found.committed⟩
    show g.tickets.add _ _ _ = _
    rw [found.tickets, Locks.add_add]
  refine Discipline.Follows.bind (fun _ g' => g'.committed = true) ?_ fun _ g₂ committed => ?_
  · exact follows_commit ready.1 ready.2 (fun _ => raised _ _) rfl
  refine follows_neutral_bind trivial (fun _ => raised _ _) fun paid => ?_
  exact follows_neutral_bind trivial (fun _ => raised _ _) fun _ _ _ => committed

theorem follows_payForTicket (mine : acts t = .operation (.payForTicket ticketId ownerId))
    (fresh : Fresh g) :
    (discipline d acts office).Follows exec t
      (fun outcome g' => successCommitted outcome g'.committed)
      (PaymentService.payForTicket d ticketId ownerId) g := by
  have raised : ∀ (e : Exn) (g' : Pending),
      successCommitted (.error e : Except Exn TicketPaymentSchema) g'.committed :=
    fun e g' => successCommitted_error e _
  refine Discipline.Follows.bind (fun found g' => ∀ ticket, found = some ticket →
      Found ticketId ticket g' ∧ ticket.ownerId = ownerId) ?_ fun found g' locked => ?_
  · refine follows_lock fresh (fun _ => raised _ _) (fun _ => nofun)
      fun ticket g' owned found => ?_
    rintro _ ⟨⟩
    exact ⟨found, owned ownerId rfl⟩
  cases found with
  | none => exact raised _ _
  | some ticket =>
      obtain ⟨found, owned⟩ := locked ticket rfl
      dsimp only
      split
      · exact raised _ _
      · exact raised _ _
      · rename_i reserved
        refine Discipline.Follows.bind (fun _ g' => g'.committed = true) ?_
          fun paid g'' committed a _ => committed
        refine Discipline.Follows.tryCatch (fun _ _ => True) ?_
          fun e g'' _ => follows_rollbackOnSQLAlchemyError
            (follows_rollback (fun e' => raised e' _) (raised e _)) (raised e g'')
        refine (follows_settle mine found owned reserved).mono fun outcome g'' holds => ?_
        cases outcome with
        | ok a => exact holds a rfl
        | error _ => trivial

/-! ## The timeout of one ticket -/

theorem follows_cancelTicket {ticket : Ticket}
    (mine : acts t = .operation (.releaseUnpaidTicket ticketId))
    (found : Found ticketId ticket g) (reserved : ticket.status = .reserved) :
    (discipline d acts office).Follows exec t (fun _ _ => True)
      (Worker.cancelTicket d ticketId ticket) g := by
  refine Discipline.Follows.bind (fun _ g' => Counted ticket.ticketTypeId (-1) g' ∧
      g'.tickets = Locks.none.add ticketId (some ticket) (some ticket) ∧
      g'.events = Locks.none ∧
      g'.committed = false) ?_ fun _ g₁ counted => ?_
  · refine follows_addTicketsSold (by rw [found.types]; rfl) found.known (fun _ => trivial) ?_ ?_
    · exact ⟨.inr ⟨.inr rfl, found.types⟩, found.tickets, found.events, found.committed⟩
    · intro row row' changed
      refine ⟨.inl ⟨row, row', changed, ?_⟩, found.tickets, found.events, found.committed⟩
      show g.types.add _ _ _ = _
      rw [found.types]
  obtain ⟨counted, tickets, events, first⟩ := counted
  refine follows_neutral_bind trivial (fun _ => trivial) fun _ => ?_
  refine Discipline.Follows.bind (fun _ g' => Ready d (acts t) g' ∧ g'.committed = false) ?_
    fun _ g₂ ready => ?_
  · rw [mine]
    refine follows_updateTicketStatus (by rw [tickets]; exact Locks.add_self) (fun _ => trivial) ?_
    refine ⟨ready_released ?_ reserved counted events, first⟩
    show g₁.tickets.add _ _ _ = _
    rw [tickets, Locks.add_add]
  exact follows_commit ready.1 ready.2 (fun _ => trivial) trivial

theorem follows_releaseUnpaidTicket (mine : acts t = .operation (.releaseUnpaidTicket ticketId))
    (fresh : Fresh g) : (discipline d acts office).Follows exec t (fun _ g' => g'.Free)
      (Worker.releaseUnpaidTicket d ticketId) g := by
  refine follows_withSession (fun _ _ => True) ?_ fun _ _ _ => follows_close free_ended
  refine Discipline.Follows.tryCatch (fun _ _ => True) ?_ fun e g' _ => ?_
  · refine Discipline.Follows.bind (fun found g' => ∀ ticket, found = some ticket →
        Found ticketId ticket g') ?_ fun found g' locked => ?_
    · refine follows_lock fresh (fun _ => trivial) (fun _ => nofun) fun ticket g' _ found => ?_
      rintro _ ⟨⟩
      exact found
    cases found with
    | none => exact trivial
    | some ticket =>
        dsimp only
        split
        · exact trivial
        · rename_i reserved
          refine (follows_cancelTicket mine (locked ticket rfl) (not_not.mp reserved)).mono
            fun outcome _ _ => ?_
          cases outcome with
          | ok _ => trivial
          | error _ => trivial
  · exact Discipline.Follows.bind (fun _ _ => True)
      (follows_rollback (fun _ => trivial) trivial) fun _ _ _ => trivial

end TicketCore.CommitOrder
