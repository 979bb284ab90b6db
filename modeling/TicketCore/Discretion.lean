import TicketCore.Interleave.Twice
import TicketCore.Owners

/-!
# Discretion about tickets

A call for a user asks for a ticket by its id and its owner, and only then goes on with it.

* `Asks u p`: the program `p` goes on only with a ticket that it has found to be user `u`'s.
* `Linked t u known w w'`: two worlds that transaction `t` cannot tell apart, as long as it asks for
  tickets of user `u` only. Every discreet call is answered in the same way in both, and keeps them
  so (`Linked.discreet`).
-/

namespace TicketCore

open Interleave RowStore

variable {ι : Type} [DecidableEq ι] {α : Type}

/-! ## Calls that ask for a user's tickets -/

/-- The calls that tell nothing about the tickets of others, when they come from a call for user
`userId` that has read its ticket `known`. -/
def Discreet (userId : Int) (known : Option Int) : Cmd → Prop
  | .db (.selectTicket _ ownerId) | .db (.ticketsOfOwner ownerId _ _) => ownerId = userId
  | .db (.selectTicketForUpdate _ ownerId) => ownerId = some userId
  | .db (.updateTicketStatus id _) | .db (.deleteTicket id) | .db (.refreshTicket id) =>
      known = some id
  | .db (.addTicketsSold ..) | .db (.ticketTypeWithEvent _) | .db .commit | .db .rollback
  | .db .close => True
  | .redis _ (.evalSafeIncr _) | .redis _ (.hdel _) => True
  | _ => False

theorem Discreet.own {userId : Int} {known : Option Int} {cmd : Cmd}
    (h : Discreet userId known cmd) :
    Own userId known cmd := by
  cases cmd with
  | db statement =>
      cases statement with
      | selectTicketForUpdate _ _ | updateTicketStatus _ _ | deleteTicket _ => exact h
      | insertTicket _ _ | cancelHungTicket _ _ => exact h.elim
      | _ => trivial
  | _ => trivial

/-- The ticket that an answer shows. -/
def shown {A : Type} (id : Int) : Except Exn (Option A) → Option Int
  | .ok (some _) => some id
  | _ => none

/-- The program asks for a ticket of the user, and goes on with it if there is one; or it looks at
no single ticket. -/
inductive Asks (userId : Int) : Async α → Prop
  | select {id : Int} {next : Except Exn (Option Ticket) → Async α}
      (rest : ∀ answer, (next answer).Only (Discreet userId (shown id answer))) :
      Asks userId (.await (.db (.selectTicket id userId)) next)
  | lock {id : Int} {next : Except Exn (Option Ticket) → Async α}
      (rest : ∀ answer, (next answer).Only (Discreet userId (shown id answer))) :
      Asks userId (.await (.db (.selectTicketForUpdate id (some userId))) next)
  | list {p : Async α} (only : p.Only (Discreet userId none)) : Asks userId p

section Calls

variable {d : Deployment} {userId id : Int}

theorem Asks.unit {p : Async α} (h : Asks userId p) : Asks userId (TicketCore.unit p) := by
  cases h with
  | select rest => exact .select fun answer => (rest answer).bind fun _ => trivial
  | lock rest => exact .lock fun answer => (rest answer).bind fun _ => trivial
  | list only => exact .list (only.bind fun _ => trivial)

/-- A call that has found no ticket raises. -/
theorem only_raise {known : Option Int} (e : Exn) :
    (getDb (throw e : Async α)).Only (Discreet userId known) :=
  only_getDb trivial trivial trivial

theorem asks_get : Asks userId (getDb (TicketService.get userId id)) := by
  refine .select fun answer => ?_
  match answer with
  | .error e => exact only_raise e
  | .ok none => exact only_raise ticketNotFound
  | .ok (some ticket) =>
      have rest : (do
          let ticketType : Option (TicketType × Option Event) ←
            sql (.ticketTypeWithEvent ticket.ticketTypeId)
          pure ⟨id, ticket.ticketTypeId, ticket.status, eventTitle ticketType⟩ :
          Async TicketDetailResponse).Only (Discreet userId (some id)) :=
        Program.Only.bind (Program.Only.call trivial) fun _ => trivial
      exact only_getDb trivial trivial rest

theorem asks_getAllForUser {offset limit : Int} :
    Asks userId (getDb (TicketService.getAllForUser userId offset limit)) :=
  .list (only_getDb trivial trivial (Program.Only.bind (Program.Only.call rfl) fun _ => trivial))

theorem only_remove {ticket : Ticket} :
    (TicketService.remove d id ticket).Only (Discreet userId (some id)) := by
  refine Program.Only.bind (Program.Only.call trivial) fun _ => ?_
  refine Program.Only.bind (Program.Only.call rfl) fun _ => ?_
  refine Program.Only.bind (Program.Only.call trivial) fun _ => ?_
  exact Program.Only.bind (Program.Only.call trivial) fun _ => Program.Only.call trivial

theorem asks_delete : Asks userId (getDb (TicketService.delete d userId id)) := by
  refine .select fun answer => ?_
  match answer with
  | .error e => exact only_raise e
  | .ok none => exact only_raise ticketNotFound
  | .ok (some ticket) =>
      exact only_getDb trivial trivial
        (Program.Only.tryCatch only_remove fun e => only_rollbackOnSQLAlchemyError trivial e)

theorem only_settle : (PaymentService.settle d id).Only (Discreet userId (some id)) := by
  refine Program.Only.bind (Program.Only.call rfl) fun _ => ?_
  refine Program.Only.bind (Program.Only.call trivial) fun _ => ?_
  refine Program.Only.bind (Program.Only.call rfl) fun _ => ?_
  exact Program.Only.bind (Program.Only.call trivial) fun _ => trivial

theorem asks_payForTicket : Asks userId (getDb (PaymentService.payForTicket d id userId)) := by
  refine .lock fun answer => ?_
  match answer with
  | .error e => exact only_raise e
  | .ok none => exact only_raise ticketNotFound
  | .ok (some ⟨ticketTypeId, ownerId, .sold, createdAt⟩) => exact only_raise _
  | .ok (some ⟨ticketTypeId, ownerId, .canceled, createdAt⟩) => exact only_raise _
  | .ok (some ⟨ticketTypeId, ownerId, .reserved, createdAt⟩) =>
      have rest : (do
          let paid ← tryCatch (PaymentService.settle d id) rollbackOnSQLAlchemyError
          pure ⟨id, paid.status⟩ :
              Async TicketPaymentSchema).Only (Discreet userId (some id)) :=
        (only_settle.tryCatch fun e => only_rollbackOnSQLAlchemyError trivial e).bind
          fun _ => trivial
      exact only_getDb trivial trivial rest

end Calls

/-! ## The tickets of others do not show -/

/-- Transaction `t` finds the same under this id in both tables. -/
structure SameRow (s s' : RowStore ι Ticket) (t : ι) (id : Int) : Prop where
  row : s.row id = s'.row id
  heldBy : s.heldBy t id = s'.heldBy t id
  free : s.Free t id ↔ s'.Free t id

/-- The row, if there is one, is not that of the user, and transaction `t` has not locked it. -/
structure Foreign (s : RowStore ι Ticket) (t : ι) (userId id : Int) : Prop where
  row : ∀ ticket, s.row id = some ticket → ticket.ownerId ≠ userId
  heldBy : s.heldBy t id = none

/-- Two worlds that look the same to transaction `t` of a call for the user that has read its ticket
`known`. -/
structure Linked (t : ι) (userId : Int) (known : Option Int) (w w' : World ι) : Prop where
  tickets : ∀ id, SameRow w.db.tickets w'.db.tickets t id ∨
    Foreign w.db.tickets t userId id ∧ Foreign w'.db.tickets t userId id
  known : ∀ id, known = some id → SameRow w.db.tickets w'.db.tickets t id
  ticketTypes : w.db.ticketTypes = w'.db.ticketTypes
  events : w.db.events = w'.db.events

section Linked

variable {s s' : RowStore ι Ticket} {t : ι} {userId id id' : Int} {known : Option Int}
  {w w' : World ι}

theorem SameRow.read (h : SameRow s s' t id) : s.read t id = s'.read t id := by
  unfold RowStore.read
  rw [h.heldBy, h.row]

theorem Foreign.read (h : Foreign s t userId id) {ticket : Ticket}
    (read : s.read t id = some ticket) :
    ticket.ownerId ≠ userId := by
  rw [read_of_not_held h.heldBy] at read
  exact h.row ticket read

omit [DecidableEq ι] in
theorem free_congr (same : s'.held id = s.held id) : s'.Free t id ↔ s.Free t id := by
  unfold RowStore.Free
  rw [same]

theorem free_release : (∀ lock ∈ s.release t id, lock.1 = t) ↔ s.Free t id := by
  constructor
  · intro free lock mem
    by_contra other
    exact other (free lock (release_eq_some.mpr ⟨mem, other⟩))
  · intro free lock mem
    exact free lock (release_eq_some.mp mem).1

theorem SameRow.commit (h : SameRow s s' t id) : SameRow (s.commit t) (s'.commit t) t id where
  row := h.read
  heldBy := heldBy_commit_self.trans heldBy_commit_self.symm
  free := free_release.trans (h.free.trans free_release.symm)

theorem SameRow.rollback (h : SameRow s s' t id) : SameRow (s.rollback t) (s'.rollback t) t id where
  row := h.row
  heldBy := heldBy_rollback_self.trans heldBy_rollback_self.symm
  free := free_release.trans (h.free.trans free_release.symm)

theorem Foreign.commit (h : Foreign s t userId id) : Foreign (s.commit t) t userId id where
  row _ read := h.read read
  heldBy := heldBy_commit_self

theorem Foreign.rollback (h : Foreign s t userId id) : Foreign (s.rollback t) t userId id where
  row := h.row
  heldBy := heldBy_rollback_self

theorem SameRow.hold (h : SameRow s s' t id) (version : Option Ticket)
    (known : 1 ≤ id' ∧ id' ≤ s.issued) (known' : 1 ≤ id' ∧ id' ≤ s'.issued) :
    SameRow (s.hold t id' version) (s'.hold t id' version) t id := by
  by_cases here : id = id'
  · subst here
    refine ⟨by rw [hold_row, hold_row, h.row],
      (heldBy_hold_self known).trans (heldBy_hold_self known').symm, iff_of_true ?_ ?_⟩
    · intro lock mem
      rw [hold_held known, Function.update_self] at mem
      cases mem
      rfl
    · intro lock mem
      rw [hold_held known', Function.update_self] at mem
      cases mem
      rfl
  · refine ⟨by rw [hold_row, hold_row, h.row], ?_, ?_⟩
    · rw [heldBy_hold_of_ne here, heldBy_hold_of_ne here, h.heldBy]
    · have held : (s.hold t id' version).held id = s.held id := by
        rw [hold_held known, Function.update_of_ne here]
      have held' : (s'.hold t id' version).held id = s'.held id := by
        rw [hold_held known', Function.update_of_ne here]
      exact (free_congr held).trans (h.free.trans (free_congr held').symm)

theorem Foreign.hold (h : Foreign s t userId id) (version : Option Ticket) (other : id ≠ id') :
    Foreign (s.hold t id' version) t userId id where
  row := by
    rw [hold_row]
    exact h.row
  heldBy := by rw [heldBy_hold_of_ne other, h.heldBy]

namespace Linked

variable (h : Linked t userId known w w')

include h

/-- A ticket of the user is the same row in both worlds. -/
theorem sameRow {ticket : Ticket} (owner : ticket.ownerId = userId)
    (read : w.db.tickets.read t id = some ticket ∨ w'.db.tickets.read t id = some ticket) :
    SameRow w.db.tickets w'.db.tickets t id := by
  rcases h.tickets id with same | ⟨foreign, foreign'⟩
  · exact same
  · rcases read with read | read
    · exact (foreign.read read owner).elim
    · exact (foreign'.read read owner).elim

theorem withTickets {s s' : RowStore ι Ticket}
    (tickets : ∀ id, SameRow s s' t id ∨ Foreign s t userId id ∧ Foreign s' t userId id)
    (stays : ∀ id, SameRow w.db.tickets w'.db.tickets t id → SameRow s s' t id) :
    Linked t userId known { w with db := { w.db with tickets := s } }
      { w' with db := { w'.db with tickets := s' } } where
  tickets := tickets
  known id knows := stays id (h.known id knows)
  ticketTypes := h.ticketTypes
  events := h.events

/-- The same row is locked in both worlds. -/
theorem hold (same : SameRow w.db.tickets w'.db.tickets t id)
    (read : (w.db.tickets.read t id).isSome) (version : Option Ticket) :
    Linked t userId known { w with db := { w.db with tickets := w.db.tickets.hold t id version } }
      { w' with db := { w'.db with tickets := w'.db.tickets.hold t id version } } := by
  have issued := read_issued read
  have issued' := read_issued (same.read ▸ read)
  refine h.withTickets (fun id' => ?_) fun id' same => same.hold version issued issued'
  by_cases here : id' = id
  · subst here
    exact .inl (same.hold version issued issued')
  · exact (h.tickets id').imp (fun same => same.hold version issued issued')
      fun both => ⟨both.1.hold version here, both.2.hold version here⟩

theorem commit : Linked t userId known { w with db := w.db.commit t }
    { w' with db := w'.db.commit t } where
  tickets id := (h.tickets id).imp SameRow.commit fun both => ⟨both.1.commit, both.2.commit⟩
  known id knows := (h.known id knows).commit
  ticketTypes := congrArg (RowStore.commit · t) h.ticketTypes
  events := congrArg (RowStore.commit · t) h.events

theorem rollback :
    Linked t userId known { w with db := w.db.rollback t } { w' with db := w'.db.rollback t } where
  tickets id := (h.tickets id).imp SameRow.rollback fun both =>
    ⟨both.1.rollback, both.2.rollback⟩
  known id knows := (h.known id knows).rollback
  ticketTypes := congrArg (RowStore.rollback · t) h.ticketTypes
  events := congrArg (RowStore.rollback · t) h.events

end Linked

/-- A statement that does the same in both databases. -/
theorem alike_of_run {statement : DbCmd}
    {R : Except Exn statement.Resp → World ι → World ι → Prop}
    (raised : ∀ e, R (.error e) w w') (ran : ∀ clock order, Option.Rel
      (fun x y => x.1 = y.1 ∧ R x.1 { w with db := x.2 } { w' with db := y.2 })
      (statement.run t clock order w.db) (statement.run t clock order w'.db)) :
    AnsweredAlike exec t (.db statement) R w w' := by
  intro choice
  have executed : Option.Rel (fun x y => x.1 = y.1 ∧ R x.1 x.2 y.2)
      ((Cmd.db statement).run t choice w) ((Cmd.db statement).run t choice w') := by
    unfold Cmd.run
    have runs := ran choice.clock choice.rows
    dsimp only
    generalize statement.run t choice.clock choice.rows w.db = r at runs ⊢
    generalize statement.run t choice.clock choice.rows w'.db = r' at runs ⊢
    cases runs with
    | none => exact .none
    | some both => exact .some both
  unfold exec
  split
  · exact executed
  · rename_i e _
    split
    · exact .some ⟨rfl, raised e⟩
    · exact executed

/-- Two worlds that look the same stay so when a statement only reads, and finds the same. -/
theorem Linked.reads {statement : DbCmd} (h : Linked t userId known w w')
    {answer : Except Exn statement.Resp}
    (ran : ∀ clock order, statement.run t clock order w.db = some (answer, w.db))
    (ran' : ∀ clock order, statement.run t clock order w'.db = some (answer, w'.db)) :
    AnsweredAlike exec t (.db statement) (fun _ => Linked t userId known) w w' := by
  refine alike_of_run (fun _ => h) fun clock order => ?_
  rw [ran, ran']
  exact .some ⟨rfl, h⟩

/-- What a call for the user asks first. -/
theorem Linked.select (h : Linked t userId known w w') :
    AnsweredAlike exec t (.db (.selectTicket id userId)) (fun answer s s' =>
      Linked t userId known s s' ∧
        (shown id answer ≠ none → SameRow s.db.tickets s'.db.tickets t id)) w w' := by
  refine alike_of_run (fun _ => ⟨h, fun found => (found rfl).elim⟩) fun clock order => ?_
  have same : w.db.selectTicket t id userId = w'.db.selectTicket t id userId := by
    ext ticket
    constructor
    · intro selected
      obtain ⟨read, owner⟩ := DbCmd.selectTicket_some selected
      unfold Database.selectTicket at selected ⊢
      rwa [← (h.sameRow owner (.inl read)).read]
    · intro selected
      obtain ⟨read, owner⟩ := DbCmd.selectTicket_some selected
      unfold Database.selectTicket at selected ⊢
      rwa [(h.sameRow owner (.inr read)).read]
  refine .some ⟨congrArg Except.ok same, h, fun found => ?_⟩
  cases selected : w.db.selectTicket t id userId with
  | none =>
      rw [selected] at found
      exact (found rfl).elim
  | some ticket =>
      obtain ⟨read, owner⟩ := DbCmd.selectTicket_some selected
      exact h.sameRow owner (.inl read)

theorem Linked.lock (h : Linked t userId known w w') :
    AnsweredAlike exec t (.db (.selectTicketForUpdate id (some userId))) (fun answer s s' =>
      Linked t userId known s s' ∧
        (shown id answer ≠ none → SameRow s.db.tickets s'.db.tickets t id)) w w' := by
  refine alike_of_run (fun _ => ⟨h, fun found => (found rfl).elim⟩) fun clock order => ?_
  rcases h.tickets id with same | ⟨foreign, foreign'⟩
  · have read := same.read
    simp only [DbCmd.run, Database.selectTicketForUpdate]
    rw [← read]
    cases found : w.db.tickets.read t id with
    | none => exact .some ⟨rfl, h, fun shows => (shows rfl).elim⟩
    | some ticket =>
        dsimp only
        by_cases owned : Database.matchesOwner ticket (some userId)
        · rw [if_neg (not_not.mpr owned), if_neg (not_not.mpr owned)]
          by_cases free : w.db.tickets.Free t id
          · rw [if_pos free, if_pos (same.free.mp free)]
            have some := Option.isSome_iff_exists.mpr ⟨ticket, found⟩
            exact .some ⟨rfl, h.hold same some _,
              fun _ => same.hold _ (read_issued some) (read_issued (read ▸ some))⟩
          · rw [if_neg free, if_neg fun free' => free (same.free.mpr free')]
            exact .none
        · rw [if_pos owned, if_pos owned]
          exact .some ⟨rfl, h, fun shows => (shows rfl).elim⟩
  · have missing : ∀ {db : Database ι}, Foreign db.tickets t userId id →
        (DbCmd.selectTicketForUpdate id (some userId)).run t clock order db = some
            (.ok none, db) := by
      intro db foreign
      simp only [DbCmd.run, Database.selectTicketForUpdate]
      cases read : db.tickets.read t id with
      | none => rfl
      | some ticket =>
          dsimp only
          rw [if_pos fun owned => foreign.read read (owned userId rfl)]
          rfl
    rw [missing foreign, missing foreign']
    exact .some ⟨rfl, h, fun shows => (shows rfl).elim⟩

/-- The ids seen do not depend on how many have been issued. -/
theorem idsSeen_eq {Row : Type} {s : RowStore ι Row} {p : Row → Bool} {n : Nat}
    (le : s.issued ≤ n) :
    Database.idsSeen s t p =
      ((List.range n).map fun n : Nat => (n : Int) + 1).filter fun id => (s.read t id).any p := by
  induction n, le using Nat.le_induction with
  | base => rfl
  | succ n le ih =>
      have unknown : s.read t ((n : Int) + 1) = none := by
        cases read : s.read t ((n : Int) + 1) with
        | none => rfl
        | some row =>
            have bound := (read_issued (Option.isSome_iff_exists.mpr ⟨row, read⟩)).2
            omega
      rw [List.range_succ, List.map_append, List.filter_append, ← ih, List.map_singleton,
        List.filter_singleton, unknown]
      exact (List.append_nil _).symm

theorem idsSeen_congr {Row : Type} {s s' : RowStore ι Row} {p : Row → Bool}
    (same : ∀ id, (s.read t id).any p = (s'.read t id).any p) :
    Database.idsSeen s t p = Database.idsSeen s' t p := by
  rw [idsSeen_eq (le_max_left s.issued s'.issued), idsSeen_eq (le_max_right s.issued s'.issued)]
  exact List.filter_congr fun id _ => same id

/-- A page of the user's tickets. -/
theorem Linked.page (h : Linked t userId known w w') {order : List Int} {offset limit : Int} :
    Database.page w.db.tickets t order (fun ticket => ticket.ownerId = userId) offset limit =
      Database.page w'.db.tickets t order (fun ticket => ticket.ownerId = userId) offset limit := by
  have ids : Database.idsSeen w.db.tickets t (fun ticket => ticket.ownerId = userId) =
      Database.idsSeen w'.db.tickets t fun ticket => ticket.ownerId = userId := by
    refine idsSeen_congr fun id => ?_
    rcases h.tickets id with same | ⟨foreign, foreign'⟩
    · rw [same.read]
    · have unseen : ∀ {s : RowStore ι Ticket}, Foreign s t userId id →
          (s.read t id).any (fun ticket => decide (ticket.ownerId = userId)) = false := by
        intro s foreign
        cases read : s.read t id with
        | none => rfl
        | some ticket => exact decide_eq_false (foreign.read read)
      rw [unseen foreign, unseen foreign']
  unfold Database.page Database.rowsAt
  rw [← ids]
  refine List.filterMap_congr fun id mem => ?_
  have seen := (arrange_perm _ _).mem_iff.mp (List.mem_of_mem_drop (List.mem_of_mem_take mem))
  obtain ⟨ticket, read, owner⟩ := (Option.any_eq_true _ _).mp (List.mem_filter.mp seen).2
  rw [(h.sameRow (of_decide_eq_true owner) (.inl read)).read]

/-- **A discreet call** is answered in the same way in two worlds that look the same, and leaves
them so. -/
theorem Linked.discreet (h : Linked t userId known w w') {cmd : Cmd}
    (discreet : Discreet userId known cmd) :
    AnsweredAlike exec t cmd (fun _ => Linked t userId known) w w' := by
  cases cmd with
  | now | enqueueJob job | handler => exact discreet.elim
  | redis n command =>
      intro choice
      unfold exec
      have executed : Option.Rel (fun x y => x.1 = y.1 ∧ Linked t userId known x.2 y.2)
          ((Cmd.redis n command).run t choice w) ((Cmd.redis n command).run t choice w') := by
        cases command with
        | evalSafeIncr _ | hdel _ =>
            exact .some ⟨rfl, h.tickets, h.known, h.ticketTypes, h.events⟩
        | _ => exact discreet.elim
      split
      · exact executed
      · split
        · exact .some ⟨rfl, h⟩
        · exact executed
  | db statement =>
      cases statement with
      | selectTicket id ownerId =>
          cases discreet
          exact AnsweredAlike.mono h.select fun _ _ _ both => both.1
      | selectTicketForUpdate id ownerId =>
          cases discreet
          exact AnsweredAlike.mono h.lock fun _ _ _ both => both.1
      | ticketsOfOwner ownerId offset limit =>
          cases discreet
          refine alike_of_run (fun _ => h) fun clock order => ?_
          exact .some ⟨congrArg Except.ok h.page, h⟩
      | updateTicketStatus id status =>
          have same := h.known id discreet
          have read := same.read
          refine alike_of_run (fun _ => h) fun clock order => ?_
          simp only [DbCmd.run, Database.updateTicketStatus]
          rw [← read]
          cases found : w.db.tickets.read t id with
          | none => exact .some ⟨rfl, h⟩
          | some ticket =>
              dsimp only
              by_cases free : w.db.tickets.Free t id
              · rw [if_pos free, if_pos (same.free.mp free)]
                exact .some ⟨rfl, h.hold same (by rw [found]; rfl) _⟩
              · rw [if_neg free, if_neg fun free' => free (same.free.mpr free')]
                exact .none
      | deleteTicket id =>
          have same := h.known id discreet
          have read := same.read
          refine alike_of_run (fun _ => h) fun clock order => ?_
          simp only [DbCmd.run, Database.deleteTicket]
          rw [← read]
          cases found : w.db.tickets.read t id with
          | none => exact .some ⟨rfl, h⟩
          | some ticket =>
              dsimp only
              by_cases free : w.db.tickets.Free t id
              · rw [if_pos free, if_pos (same.free.mp free)]
                exact .some ⟨rfl, h.hold same (by rw [found]; rfl) _⟩
              · rw [if_neg free, if_neg fun free' => free (same.free.mpr free')]
                exact .none
      | refreshTicket id =>
          refine alike_of_run (fun _ => h) fun clock order => ?_
          simp only [DbCmd.run]
          rw [← (h.known id discreet).read]
          cases w.db.tickets.read t id with
          | none => exact .some ⟨rfl, h⟩
          | some ticket => exact .some ⟨rfl, h⟩
      | ticketTypeWithEvent id =>
          refine alike_of_run (fun _ => h) fun clock order => .some ⟨?_, h⟩
          unfold Database.ticketTypeWithEvent
          rw [h.ticketTypes, h.events]
      | addTicketsSold id delta =>
          refine alike_of_run (fun _ => h) fun clock order => ?_
          simp only [DbCmd.run, Database.updateTypeRow]
          rw [← h.ticketTypes]
          cases w.db.ticketTypes.read t id with
          | none => exact .some ⟨rfl, h⟩
          | some row =>
              dsimp only
              split
              · split
                · exact .some ⟨rfl, h.tickets, h.known, rfl, h.events⟩
                · exact .some ⟨rfl, h⟩
              · exact .none
      | commit => exact alike_of_run (fun _ => h) fun _ _ => .some ⟨rfl, h.commit⟩
      | rollback | close => exact alike_of_run (fun _ => h) fun _ _ => .some ⟨rfl, h.rollback⟩
      | _ => exact discreet.elim

/-- A call for the user goes in the same way in two worlds that look the same. -/
theorem Asks.twice {p : Async α} (asks : Asks userId p) (h : Linked t userId none w w') :
    p.Twice exec t (fun _ _ _ => True) w w' := by
  have goes : ∀ {q : Async α} {known : Option Int} {s s' : World ι},
      q.Only (Discreet userId known) → Linked t userId known s s' →
      q.Twice exec t (fun _ _ _ => True) s s' := fun only linked =>
    (only.twice (fun _ _ _ discreet linked => linked.discreet discreet) linked).mono
      fun _ _ _ _ => trivial
  -- What the first answer shows is the same row in both worlds from now on.
  have learns : ∀ {answer : Except Exn (Option Ticket)} {id : Int} {s s' : World ι},
      Linked t userId none s s' ∧
        (shown id answer ≠ none → SameRow s.db.tickets s'.db.tickets t id) →
      Linked t userId (shown id answer) s s' := by
    rintro answer id s s' ⟨linked, same⟩
    refine ⟨linked.tickets, fun id' shows => ?_, linked.ticketTypes, linked.events⟩
    match answer with
    | .error _ | .ok none => cases shows
    | .ok (some ticket) =>
        cases shows
        exact same nofun
  cases asks with
  | select rest =>
      exact AnsweredAlike.mono h.select fun answer _ _ both => goes (rest answer) (learns both)
  | lock rest =>
      exact AnsweredAlike.mono h.lock fun answer _ _ both => goes (rest answer) (learns both)
  | list only => exact goes only h

end Linked

end TicketCore
