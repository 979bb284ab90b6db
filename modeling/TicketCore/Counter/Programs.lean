import TicketCore.Catalog
import TicketCore.Counter.Draft
import TicketCore.Sessions

/-!
# The calls make good what they draft

Bookings, deletions and one change of the type each keep to the protocol of drafts, in any
discipline that the protocol governs, and end with a draft that is settled: `follows_operation`.
-/

namespace TicketCore.Counter

open Interleave

variable {ι : Type} [DecidableEq ι] {d : Deployment} {ticketTypeId : Int}
  {D : Discipline ι (World ι) Cmd Cmd.Resp Exn Choice Draft} {t : ι} {g : Draft}

/-- What a block leaves behind: a draft that fits its result, or its exception. -/
def Leaves {α : Type} (returns : α → Draft → Prop) (raises : Exn → Draft → Prop) :
    Except Exn α → Draft → Prop
  | .ok a, g => returns a g
  | .error e, g => raises e g

/-- A block that leaves nothing to do but to end the transaction. -/
abbrev Closes (α : Type) : Except Exn α → Draft → Prop :=
  Leaves (fun _ g => g.Closing) fun _ g => g.Closing

omit [DecidableEq ι] in
theorem Closes.of_closing {α : Type} {outcome : Except Exn α} (h : g.Closing) :
    Closes α outcome g := by
  cases outcome with
  | ok a => exact h
  | error e => exact h

section Blocks

variable {α β : Type} {returns : α → Draft → Prop} {raises : Exn → Draft → Prop}
  (governs : (protocol d ticketTypeId).Governs D exec)

/-- One block after another. -/
theorem Leaves.bind {p : Async α} {f : α → Async β} {returns' : β → Draft → Prop}
    (returns : α → Draft → Prop) (h : D.Follows exec t (Leaves returns raises) p g)
    (rest : ∀ a g', returns a g' → D.Follows exec t (Leaves returns' raises) (f a) g') :
    D.Follows exec t (Leaves returns' raises) (p >>= f) g := by
  refine Discipline.Follows.bind returns (h.mono fun outcome g' holds => ?_) rest
  cases outcome with
  | ok a => exact holds
  | error e => exact holds

/-- A block and a handler of its exceptions. -/
theorem Leaves.tryCatch {p : Async α} {handler : Exn → Async α}
    {raises' : Exn → Draft → Prop} (h : D.Follows exec t (Leaves returns raises) p g)
    (rest : ∀ e g', raises e g' → D.Follows exec t (Leaves returns raises') (handler e) g') :
    D.Follows exec t (Leaves returns raises') (tryCatch p handler) g := by
  refine Discipline.Follows.tryCatch raises (h.mono fun outcome g' holds => ?_) rest
  cases outcome with
  | ok a => exact holds
  | error e => exact holds

include governs

/-- A call, and the rest of its block. -/
theorem follows_next {cmd : Cmd} {f : cmd.Resp → Async β} {returns : β → Draft → Prop}
    (goes : cmd.Resp → Draft)
    (refused : ∀ e, Answers ticketTypeId cmd (.error e) → raises e g)
    (step : ∀ a, Answers ticketTypeId cmd (.ok a) →
      Step d ticketTypeId g cmd (.ok a) (goes a) ∧
        D.Follows exec t (Leaves returns raises) (f a) (goes a)) :
    D.Follows exec t (Leaves returns raises)
      (do let a ← (Program.call cmd : Async cmd.Resp); f a) g := by
  refine Leaves.bind (fun a g' => g' = goes a ∧ D.Follows exec t (Leaves returns raises) (f a) g')
    (governs.call fun answer answers => ?_) fun a g' follows => follows.2
  cases answer with
  | ok a => exact ⟨goes a, (step a answers).1, rfl, (step a answers).2⟩
  | error e => exact ⟨g, .refused, refused e answers⟩

/-- A call that ends its block. -/
theorem follows_last {cmd : Cmd} {returns : cmd.Resp → Draft → Prop}
    (refused : ∀ e, Answers ticketTypeId cmd (.error e) → raises e g)
    (step : ∀ a, Answers ticketTypeId cmd (.ok a) →
      ∃ g', Step d ticketTypeId g cmd (.ok a) g' ∧ returns a g') :
    D.Follows exec t (Leaves returns raises) (Program.call cmd) g := by
  refine governs.call fun answer answers => ?_
  cases answer with
  | ok a => exact step a answers
  | error e => exact ⟨g, .refused, refused e answers⟩

/-- A program that is not about the ticket type, and does not end a transaction, drafts nothing. -/
theorem follows_apart {p : Async α} (only : p.Only (Apart ticketTypeId)) :
    D.Follows exec t (fun _ g' => g' = g) p g := by
  refine governs.only (· = g) (fun g₁ cmd answer same apart _ => ⟨g₁, ?_, same⟩) only rfl
  cases answer with
  | ok a => exact .apart apart
  | error e => exact .refused

end Blocks

/-! ## Sessions -/

section Sessions

variable {α : Type} (governs : (protocol d ticketTypeId).Governs D exec)

include governs

theorem follows_rollback {post : Except Exn Unit → Draft → Prop}
    (undone : post (.ok ()) g.undone) :
    D.Follows exec t post (sql .rollback) g := by
  refine governs.call fun answer answers => ?_
  cases answer with
  | ok a => exact ⟨g.undone, .rollback, undone⟩
  | error e => exact answers.elim

theorem follows_close {post : Except Exn Unit → Draft → Prop}
    (undone : post (.ok ()) g.undone) :
    D.Follows exec t post (sql .close) g := by
  refine governs.call fun answer answers => ?_
  cases answer with
  | ok a => exact ⟨g.undone, .close, undone⟩
  | error e => exact answers.elim

/-- The session of a request. -/
theorem follows_session {request : Async α} (h : D.Follows exec t (Closes α) request g) :
    D.Follows exec t (fun _ g' => g'.Settled) (getDb request) g :=
  follows_getDb (Closes α) (fun _ g₁ => g₁.Closing) h (fun _ _ closing => closing)
    (fun _ _ closing => follows_rollback governs (Draft.Closing.undone closing).closing)
    fun _ _ closing => follows_close governs closing.undone

end Sessions

/-! ## Programs about other ticket types -/

/-- A call that is not about this ticket type, or ends a transaction. -/
def Aside (ticketTypeId : Int) : Cmd → Prop
  | .db statement => ¬ statement.locksType ticketTypeId ∧ ¬ statement.InsertsType
  | .redis _ command => Beside ticketTypeId command
  | _ => True

/-- A program that is not about the ticket type drafts nothing. -/
theorem follows_aside {α : Type} {p : Async α}
    (governs : (protocol d ticketTypeId).Governs D exec)
    (only : p.Only (Aside ticketTypeId)) {plan : Plan} (stays : plan.committed = plan) :
    D.Follows exec t (fun _ g' => g' = .ticket 0 0 plan) p (.ticket 0 0 plan) := by
  refine governs.only (· = .ticket 0 0 plan) (fun g cmd answer same aside _ => ?_) only rfl
  have committed : (Draft.ticket 0 0 plan).committed = .ticket 0 0 plan := by
    show Draft.ticket 0 (0 - 0) plan.committed = _
    rw [stays, sub_zero]
  subst same
  cases answer with
  | error e => exact ⟨_, .refused, rfl⟩
  | ok a =>
      cases cmd with
      | db statement =>
          cases statement with
          | commit => exact ⟨_, .commit, committed⟩
          | rollback => exact ⟨_, .rollback, rfl⟩
          | close => exact ⟨_, .close, rfl⟩
          | _ => exact ⟨_, .apart ⟨not_false, aside⟩, rfl⟩
      | redis n command => exact ⟨_, .apart aside, rfl⟩
      | enqueueJob job | now | handler => exact ⟨_, .apart trivial, rfl⟩

theorem only_createOther {userId : Int} {ticketData : TicketCreate}
    (other : ticketData.ticketTypeId ≠ ticketTypeId) :
    (TicketService.create d userId ticketData).Only (Aside ticketTypeId) := by
  refine only_then other fun first => Program.Only.bind ?_ fun result => ?_
  · unfold TicketService.fallback
    split
    · exact only_then ⟨not_false, not_false⟩ fun ticketType => match ticketType with
        | none => trivial
        | some _ => only_then other fun _ => Program.Only.call other
    · trivial
  · split
    · trivial
    · refine Program.Only.bind (Program.Only.tryCatch ?_ fun e => ?_) fun _ => trivial
      · exact only_then ⟨other.symm, not_false⟩
            fun _ => only_then ⟨not_false, not_false⟩ fun _ =>
          only_then trivial fun _ => only_then trivial fun _ =>
            only_then ⟨not_false, not_false⟩
                fun _ => only_then ⟨not_false, not_false⟩ fun _ =>
              only_then trivial fun _ => trivial
      · unfold TicketService.compensate
        split
        · refine only_then ⟨not_false, not_false⟩ fun _ => only_then other fun _ => ?_
          split
          · trivial
          · trivial
        · trivial

theorem only_removeOther {ticketId : Int} {ticket : Ticket}
    (other : ticket.ticketTypeId ≠ ticketTypeId) :
    (TicketService.remove d ticketId ticket).Only (Aside ticketTypeId) :=
  only_then ⟨other.symm, not_false⟩ fun _ => only_then ⟨not_false, not_false⟩ fun _ =>
    only_then ⟨not_false, not_false⟩ fun _ => only_then other fun _ => Program.Only.call trivial

/-! ## Bookings and deletions -/

section Tickets

variable (governs : (protocol d ticketTypeId).Governs D exec)

/-- A booking that has raised still has its slot. -/
def Keeps (e : Exn) (g : Draft) : Prop :=
  e.isSQLAlchemyError ∧ ∃ counted, g = .ticket counted 1 .slot

include governs

theorem follows_book {userId : Int} :
    D.Follows exec t (Leaves (fun _ g' => g' = .ticket 0 0 .spent) Keeps)
      (TicketService.book d userId ticketTypeId) (.ticket 0 1 .slot) := by
  refine follows_next governs (fun _ => .ticket 1 1 .slot) (fun e sql => ⟨sql, 0, rfl⟩)
    fun _ _ => ⟨.count (.inl rfl), ?_⟩
  refine follows_next governs (fun _ => .ticket 1 1 .slot) (fun e sql => ⟨sql, 1, rfl⟩)
    fun id _ => ⟨.apart ⟨not_false, not_false, not_false⟩, ?_⟩
  refine follows_next governs (fun _ => .ticket 1 1 .slot) (fun _ answers => answers.elim)
    fun clock _ => ⟨.apart trivial, ?_⟩
  refine follows_next governs (fun _ => .ticket 1 1 .slot) (fun _ answers => answers.elim)
    fun _ _ => ⟨.apart trivial, ?_⟩
  refine follows_next governs (fun _ => .ticket 0 0 .spent) (fun _ answers => answers.elim)
    fun _ _ => ⟨.commit, ?_⟩
  refine follows_next governs (fun _ => .ticket 0 0 .spent) (fun _ answers => answers.elim)
    fun _ _ => ⟨.apart ⟨not_false, not_false, not_false⟩, ?_⟩
  exact follows_next governs (fun _ => .ticket 0 0 .spent) (fun _ answers => answers.elim)
    fun _ _ => ⟨.apart trivial, rfl⟩

theorem follows_compensate {e : Exn} {α : Type} {returns : α → Draft → Prop}
    (keeps : Keeps e g) :
    D.Follows exec t (Leaves returns fun _ g' => g'.Closing)
      (TicketService.compensate d ticketTypeId e) g := by
  obtain ⟨sql, counted, rfl⟩ := keeps
  unfold TicketService.compensate
  rw [if_pos sql]
  refine follows_next governs (fun _ => .ticket 0 1 .slot) (fun _ answers => answers.elim)
    fun _ _ => ⟨.rollback, ?_⟩
  refine follows_next governs (fun _ => .ticket 0 0 .spent) (fun _ answers => answers.elim)
    fun _ _ => ⟨.giveBack, ?_⟩
  split
  · exact ⟨rfl, .inl rfl⟩
  · exact ⟨rfl, .inl rfl⟩

/-- What the reservation leaves: a slot, or nothing. -/
def Reserves (result : Int) (g : Draft) : Prop :=
  (result ≠ 0 ∧ g = .ticket 0 1 .slot) ∨ (result = 0 ∧ g = .ticket 0 0 .spent)

theorem follows_reserveCold :
    D.Follows exec t (Leaves Reserves fun _ g' => g'.Closing)
      (TicketService.reserveCold d ticketTypeId) (.ticket 0 0 .missed) := by
  refine follows_next governs
    (fun row => row.elim (.ticket 0 0 .missed) fun row => .ticket 0 0 (.read row))
    (fun _ answers => answers.elim) fun row answers => ?_
  cases row with
  | none => exact (answers rfl).elim
  | some row =>
      refine ⟨.read, follows_next governs (fun _ => .ticket 0 0 .warmed)
        (fun _ answers => answers.elim) fun _ _ => ⟨.fill, ?_⟩⟩
      refine follows_last governs (fun _ answers => answers.elim) fun result _ => ?_
      by_cases soldOut : result = 0
      · subst soldOut
        exact ⟨_, .soldOutAgain, .inr ⟨rfl, rfl⟩⟩
      · exact ⟨_, .again soldOut, .inl ⟨soldOut, rfl⟩⟩

theorem follows_create {userId : Int} {ticketData : TicketCreate}
    (same : ticketData.ticketTypeId = ticketTypeId) :
    D.Follows exec t (Closes TicketResponse) (TicketService.create d userId ticketData)
      (.ticket 0 0 .fresh) := by
  unfold TicketService.create
  rw [same]
  refine Leaves.bind (fun first g' => (first = -1 ∧ g' = .ticket 0 0 .missed) ∨
      first ≠ -1 ∧ Reserves first g')
    (follows_last governs (fun _ answers => answers.elim) fun first answers => ?_)
    fun first g₁ reserves => ?_
  · rcases answers with rfl | rfl | rfl
    · exact ⟨_, .miss, .inl ⟨rfl, rfl⟩⟩
    · exact ⟨_, .soldOut, .inr ⟨nofun, .inr ⟨rfl, rfl⟩⟩⟩
    · exact ⟨_, .reserve, .inr ⟨nofun, .inl ⟨nofun, rfl⟩⟩⟩
  refine Leaves.bind Reserves ?_ fun result g₂ reserves => ?_
  · unfold TicketService.fallback
    rcases reserves with ⟨rfl, rfl⟩ | ⟨found, reserves⟩
    · exact follows_reserveCold governs
    · rw [if_neg found]
      exact reserves
  rcases reserves with ⟨taken, rfl⟩ | ⟨rfl, rfl⟩
  · rw [if_neg taken]
    refine Leaves.bind (fun _ g' => g' = .ticket 0 0 .spent)
      (Leaves.tryCatch ?_ fun e g' keeps => follows_compensate governs keeps) fun _ g' same => ?_
    · exact follows_book governs
    · subst same
      exact ⟨rfl, .inl rfl⟩
  · exact ⟨rfl, .inl rfl⟩

theorem follows_delete {ownerId ticketId : Int} :
    D.Follows exec t (Closes Unit) (TicketService.delete d ownerId ticketId)
      (.ticket 0 0 .returning) := by
  refine follows_next governs (fun _ => .ticket 0 0 .returning) (fun _ _ => ⟨rfl, .inr rfl⟩)
      fun ticket _ =>
    ⟨.apart ⟨not_false, not_false, not_false⟩, ?_⟩
  cases ticket with
  | none => exact ⟨rfl, .inr rfl⟩
  | some ticket =>
      refine Leaves.tryCatch
        (show D.Follows exec t (Leaves _ fun _ g' => g'.Closing) _ _ from ?_) fun e g' closing =>
        follows_rollbackOnSQLAlchemyError
          (follows_rollback governs closing.undone.closing) closing
      by_cases same : ticket.ticketTypeId = ticketTypeId
      · unfold TicketService.remove
        rw [same]
        refine follows_next governs (fun _ => .ticket (-1) 0 .returning)
          (fun _ _ => ⟨rfl, .inr rfl⟩)
          fun _ _ => ⟨.count (.inr rfl), ?_⟩
        refine follows_next governs (fun _ => .ticket (-1) 0 .returning)
          (fun _ _ => ⟨rfl, .inr rfl⟩)
          fun _ _ => ⟨.apart ⟨not_false, not_false, not_false⟩, ?_⟩
        refine follows_next governs (fun _ => .ticket 0 1 .returning)
          (fun _ answers => answers.elim)
          fun _ _ => ⟨.commit, ?_⟩
        refine follows_next governs (fun _ => .ticket 0 0 .returning)
          (fun _ answers => answers.elim)
          fun _ _ => ⟨.restore, ?_⟩
        exact follows_last governs (fun _ answers => answers.elim) fun _ _ =>
          ⟨_, .apart trivial, rfl, .inr rfl⟩
      · refine (follows_aside governs (only_removeOther same) rfl).mono fun outcome g' same => ?_
        subst same
        exact Closes.of_closing ⟨rfl, .inr rfl⟩

end Tickets

/-! ## A change of the type -/

theorem only_invalidate {eventId : Int} :
    (TicketTypeService.invalidate d eventId).Only (Apart ticketTypeId) :=
  only_then trivial fun _ => Program.Only.call trivial

/-- What has a net change is given. -/
theorem newQuantity_of_netChange {updateData : TicketTypeUpdate} {loaded : TicketType}
    (changes : (updateData.netChange loaded).newQuantity ≠ none) :
    updateData.newQuantity ≠ none := by
  intro absent
  apply changes
  show (if _ then none else updateData.ticketsQuantity).join = none
  split
  · rfl
  · exact absent

section Types

variable (governs : (protocol d ticketTypeId).Governs D exec)

include governs

theorem follows_flushUpdate {net : TicketTypeUpdate} :
    D.Follows exec t (Leaves
      (fun _ g' => g' = .change .loaded ∨ net.newQuantity ≠ none ∧ g' = .change .flushed)
      fun _ g' => g'.Closing)
      (TicketTypeService.flushUpdate ticketTypeId net) (.change .loaded) := by
  unfold TicketTypeService.flushUpdate
  split
  · exact .inl rfl
  · refine follows_last governs (fun _ _ => trivial) fun _ _ => ⟨_, .flush rfl, ?_⟩
    split
    · exact .inl rfl
    · rename_i given
      exact .inr ⟨given, rfl⟩

/-- The end of an update: a committed quantity is set in the counter, too. -/
theorem follows_publish {updateData : TicketTypeUpdate} {stage : Stage}
    (committed : stage = .loaded ∨ updateData.newQuantity ≠ none ∧ stage = .renewed) :
    D.Follows exec t (Closes TicketType) (do
      let row : TicketType ← sql (.refreshTicketType ticketTypeId)
      match updateData.newQuantity with
      | none => pure ()
      | some _ =>
          redis d.apiRedis (.setInventory ticketTypeId (row.ticketsQuantity - row.ticketsSold))
      TicketTypeService.invalidate d row.eventId
      pure row) (.change stage) := by
  have ends : ∀ (eventId : Int) (row : TicketType) (s : Stage), s = .loaded ∨ s = .done →
      D.Follows exec t (Closes TicketType) (do
        TicketTypeService.invalidate d eventId
        pure row) (.change s) := fun eventId row s settled => by
    refine Discipline.Follows.bind (fun _ g' => g' = .change s)
      ((follows_apart governs only_invalidate).mono fun outcome g' same => ?_) fun _ g' same => ?_
    · subst same
      cases outcome with
      | ok a => exact rfl
      | error e => rcases settled with rfl | rfl <;> exact trivial
    · subst same
      rcases settled with rfl | rfl <;> exact trivial
  refine follows_next governs (fun _ => .change stage) (fun _ other => (other rfl).elim)
    fun row _ => ⟨.apart ⟨not_false, not_false, not_false⟩, ?_⟩
  cases given : updateData.newQuantity with
  | none =>
      have loaded : stage = .loaded := committed.resolve_right fun changed => changed.1 given
      exact ends _ _ _ (.inl loaded)
  | some quantity =>
      refine follows_next governs (fun _ => .change .done) (fun _ answers => answers.elim)
        fun _ _ => ⟨.set (committed.imp_right And.right), ?_⟩
      exact ends _ _ _ (.inr rfl)

theorem follows_applyUpdate {loaded : TicketType} {updateData : TicketTypeUpdate} :
    D.Follows exec t (Closes TicketType)
      (TicketTypeService.applyUpdate d ticketTypeId loaded updateData) (.change .loaded) := by
  refine Leaves.bind _ (follows_flushUpdate governs) fun _ g' flushed => ?_
  rcases flushed with rfl | ⟨changes, rfl⟩
  · exact follows_next governs (fun _ => .change .loaded) (fun _ answers => answers.elim)
      fun _ _ => ⟨.commit, follows_publish governs (.inl rfl)⟩
  · exact follows_next governs (fun _ => .change .renewed) (fun _ answers => answers.elim)
      fun _ _ =>
        ⟨.commit, follows_publish governs (.inr ⟨newQuantity_of_netChange changes, rfl⟩)⟩

theorem follows_update {updateData : TicketTypeUpdate} :
    D.Follows exec t (Closes TicketTypeResponse)
      (TicketTypeService.update d ticketTypeId updateData) (.change .loaded) := by
  refine follows_next governs (fun _ => .change .loaded) (fun _ _ => trivial) fun ticketType _ =>
    ⟨.apart ⟨not_false, not_false, not_false⟩, ?_⟩
  cases ticketType with
  | none => exact trivial
  | some loaded =>
      dsimp only
      split
      · exact trivial
      split
      · exact trivial
      refine Leaves.bind (fun _ g' => g'.Closing) (Leaves.tryCatch (follows_applyUpdate governs)
        fun e g' closing => follows_rollbackOnSQLAlchemyError
          (follows_rollback governs closing.undone.closing) closing)
        fun row g' closing => closing

end Types

/-! ## The operations -/

/-- A booking, a deletion, or a change of this ticket type. -/
def Deals (ticketTypeId : Int) : Operation → Prop
  | .create .. | .delete .. => True
  | .updateType id _ => id = ticketTypeId
  | _ => False

/-- The draft with which an operation begins. -/
def Draft.first (ticketTypeId : Int) : Operation → Draft
  | .create _ ticketData =>
      if ticketData.ticketTypeId = ticketTypeId then .ticket 0 0 .fresh else .ticket 0 0 .returning
  | .updateType .. => .change .loaded
  | _ => .ticket 0 0 .returning

theorem follows_operation (governs : (protocol d ticketTypeId).Governs D exec) {op : Operation}
    (deals : Deals ticketTypeId op) :
    D.Follows exec t (fun _ g' => g'.Settled) (op.program d) (.first ticketTypeId op) := by
  cases op with
  | create userId ticketData =>
      refine follows_unit (follows_session governs ?_)
      by_cases same : ticketData.ticketTypeId = ticketTypeId
      · have begins : Draft.first ticketTypeId (.create userId ticketData) = .ticket 0 0 .fresh :=
          if_pos same
        rw [begins]
        exact follows_create governs same
      · have begins : Draft.first ticketTypeId (.create userId ticketData) =
            .ticket 0 0 .returning :=
          if_neg same
        rw [begins]
        refine (follows_aside governs (only_createOther same) rfl).mono fun outcome g' same => ?_
        subst same
        exact Closes.of_closing ⟨rfl, .inr rfl⟩
  | delete ownerId ticketId => exact follows_session governs (follows_delete governs)
  | updateType id updateData =>
      obtain rfl : id = ticketTypeId := deals
      exact follows_unit (follows_session governs (follows_update governs))
  | _ => exact deals.elim

end TicketCore.Counter
