import TicketCore.Api
import TicketCore.Custody.Coherence

/-!
# Owners of tickets

A ticket keeps its owner: an `INSERT` sets it, and no statement changes it. So what a transaction
has written for a user stays that user's, whatever the others do meanwhile.

* `TicketWrite` is what one statement does to the tickets.
* `OwnedBy id u` says that every version of a ticket is that of user `u`; no call changes that
  (`OwnedBy.exec`).
* `Own u known` are the statements of a call for user `u` that has read its ticket `known`.
-/

namespace TicketCore

open Interleave RowStore

variable {ι : Type} [DecidableEq ι]

/-- What one statement does to the tickets, except when it ends the transaction. -/
inductive TicketWrite (statement : DbCmd) (t : ι) (s : RowStore ι Ticket) :
    RowStore ι Ticket → Prop
  | idle : TicketWrite statement t s s
  | skip : TicketWrite statement t s s.skip
  | insert {ownerId ticketTypeId clock : Int}
      (inserts : statement = .insertTicket ownerId ticketTypeId) :
      TicketWrite statement t s (s.insert t ⟨ticketTypeId, ownerId, .reserved, clock⟩)
  | hold {id : Int} {ticket : Ticket} {version : Option Ticket} (locks : statement.locksTicket id)
      (read : s.read t id = some ticket)
      (asked : ∀ u, statement = .selectTicketForUpdate id (some u) → ticket.ownerId = u)
      (same : ∀ ticket' ∈ version, ticket'.ownerId = ticket.ownerId) :
      TicketWrite statement t s (s.hold t id version)

theorem ticketWrite {statement : DbCmd} {t : ι} {clock : Int} {order : List Int}
    {db db' : Database ι} {answer : Except Exn statement.Resp} (goes : ¬ statement.Ends)
    (ran : statement.run t clock order db = some (answer, db')) :
    TicketWrite statement t db.tickets db'.tickets := by
  have moved := DbCmd.moved goes ran
  cases statement with
  | insertTicket ownerId ticketTypeId =>
      rcases DbCmd.run_insertTicket ran with ⟨_, _, rfl⟩ | ⟨_, _, rfl⟩ | ⟨_, _, _, rfl⟩
      · exact .skip
      · exact .skip
      · exact .insert rfl
  | selectTicketForUpdate id ownerId =>
      simp only [DbCmd.run, Database.selectTicketForUpdate] at ran
      split at ran
      · cases ran
        exact .idle
      · rename_i ticket read
        split at ran
        · cases ran
          exact .idle
        · rename_i owned
          split at ran
          · cases ran
            refine .hold rfl read (fun u same => ?_) fun ticket' mem => ?_
            · cases same
              exact not_not.mp owned u rfl
            · rw [Option.mem_some.mp mem]
          · cases ran
  | updateTicketStatus id status =>
      rcases DbCmd.run_updateTicketStatus ran with ⟨_, rfl⟩ | ⟨ticket, read, _, _, rfl⟩
      · exact .idle
      · refine .hold rfl read (fun _ same => by cases same) fun ticket' mem => ?_
        rw [← Option.mem_some.mp mem]
  | deleteTicket id =>
      rcases DbCmd.run_deleteTicket ran with ⟨_, _, rfl⟩ | ⟨read, _, _, rfl⟩
      · exact .idle
      · obtain ⟨ticket, read⟩ := Option.isSome_iff_exists.mp read
        exact .hold rfl read (fun _ same => by cases same) fun _ mem => by cases mem
  | cancelHungTicket id threshold =>
      rcases DbCmd.run_cancelHungTicket ran with ⟨_, rfl⟩ | ⟨ticket, read, _, _, _, rfl⟩
      · exact .idle
      · refine .hold rfl read (fun _ same => by cases same) fun ticket' mem => ?_
        rw [← Option.mem_some.mp mem]
  | commit | rollback | close => exact (goes trivial).elim
  | _ =>
      rw [moved.tickets.still (fun _ locks => locks) id]
      exact .idle

/-- What one call does to the tickets. -/
theorem exec_ticketWrite {t : ι} {cmd : Cmd} {choice : Choice} {w w' : World ι}
    {answer : Except Exn cmd.Resp} (ran : exec t cmd choice w = some (answer, w')) :
    w'.db.tickets = w.db.tickets ∨
      (∃ statement, cmd = .db statement ∧
        TicketWrite statement t w.db.tickets w'.db.tickets) ∨
      w'.db.tickets = w.db.tickets.commit t ∨ w'.db.tickets = w.db.tickets.rollback t := by
  rcases exec_cases ran with ⟨_, _, _, _, rfl⟩ | ran
  · exact .inl rfl
  cases cmd with
  | now | enqueueJob job =>
      cases ran
      exact .inl rfl
  | handler =>
      have done : (choice.outcome, w) = (answer, w') := Option.some.inj ran
      obtain ⟨_, rfl⟩ := Prod.mk.inj done
      exact .inl rfl
  | redis n command =>
      obtain ⟨a, r, _, _, rfl⟩ := Cmd.run_redis ran
      exact .inl rfl
  | db statement =>
      obtain ⟨db', done, rfl⟩ := Cmd.run_db ran
      by_cases ends : statement.Ends
      · rcases ends.run done with rfl | rfl
        · exact .inr (.inr (.inl rfl))
        · exact .inr (.inr (.inr rfl))
      · exact .inr (.inl ⟨statement, rfl, ticketWrite ends done⟩)

/-! ## Owners stay -/

/-- Every version of the ticket is that of the user. -/
structure OwnedBy (s : RowStore ι Ticket) (id userId : Int) : Prop where
  issued : id ≤ s.issued
  version : ∀ ticket, s.Version id ticket → ticket.ownerId = userId

/-- The tickets of `s'` have the owners that they have in `s`, or are new and have one version. -/
structure Inherits (s s' : RowStore ι Ticket) : Prop where
  issued : s.issued ≤ s'.issued
  version : ∀ id ticket', s'.Version id ticket' →
    (∃ ticket, s.Version id ticket ∧ ticket.ownerId = ticket'.ownerId) ∨
      s.issued < id ∧ ∀ ticket, s'.Version id ticket → ticket = ticket'

section Inherits

variable {statement : DbCmd} {t : ι} {s s' : RowStore ι Ticket} {id userId : Int}
  {ticket : Ticket}

omit [DecidableEq ι] in
theorem Inherits.of_versions (issued : s.issued ≤ s'.issued)
    (version : ∀ id ticket, s'.Version id ticket → s.Version id ticket) : Inherits s s' where
  issued := issued
  version id ticket held := .inl ⟨ticket, version id ticket held, rfl⟩

theorem TicketWrite.inherits (h : TicketWrite statement t s s') : Inherits s s' := by
  cases h with
  | idle => exact .of_versions le_rfl fun _ _ held => held
  | skip => exact .of_versions (Nat.le_succ _) fun _ _ held => held
  | insert _ =>
      refine ⟨?_, fun id ticket' held => ?_⟩
      · show s.issued ≤ (s.skip.hold t s.next _).issued
        rw [hold_issued]
        exact Nat.le_succ _
      · rcases held.of_insert with old | ⟨rfl, rfl⟩
        · exact .inl ⟨ticket', old, rfl⟩
        · refine .inr ⟨by unfold next; omega, fun ticket held' => ?_⟩
          rcases held'.of_insert with old | ⟨_, same⟩
          · have bound := old.issued.2
            unfold next at bound
            omega
          · exact same
  | @hold id ticket version _ read _ same =>
      refine ⟨by rw [hold_issued], fun id' ticket' held => .inl ?_⟩
      rcases held.of_hold with old | ⟨rfl, rfl⟩
      · exact ⟨ticket', old, rfl⟩
      · exact ⟨ticket, version_of_read read, (same ticket' rfl).symm⟩

theorem Inherits.of_exec {cmd : Cmd} {choice : Choice} {w w' : World ι}
    {answer : Except Exn cmd.Resp}
    (ran : exec t cmd choice w = some (answer, w')) : Inherits w.db.tickets w'.db.tickets := by
  rcases exec_ticketWrite ran with same | ⟨_, _, write⟩ | same | same
  · rw [same]
    exact .of_versions le_rfl fun _ _ held => held
  · exact write.inherits
  · rw [same]
    exact .of_versions le_rfl fun _ _ held => held.of_commit
  · rw [same]
    exact .of_versions le_rfl fun _ _ held => held.of_rollback

omit [DecidableEq ι] in
theorem OwnedBy.inherits (h : OwnedBy s id userId) (step : Inherits s s') :
    OwnedBy s' id userId where
  issued := h.issued.trans (by exact_mod_cast step.issued)
  version ticket' held := by
    rcases step.version id ticket' held with ⟨ticket, old, same⟩ | ⟨fresh, _⟩
    · rw [← same]
      exact h.version ticket old
    · exact absurd h.issued (not_le.mpr fresh)

omit [DecidableEq ι] in
/-- If each ticket has one owner, it still has. -/
theorem Inherits.owned (step : Inherits s s')
    (one : ∀ id ticket, s.Version id ticket → OwnedBy s id ticket.ownerId)
    (held : s'.Version id ticket) : OwnedBy s' id ticket.ownerId := by
  rcases step.version id ticket held with ⟨before, old, same⟩ | ⟨_, only⟩
  · rw [← same]
    exact (one id before old).inherits step
  · exact ⟨held.issued.2, fun other held' => by rw [only other held']⟩

end Inherits

/-! ## A call for a user -/

/-- The statements of a call for the user that has read its ticket `known`. -/
def Own (userId : Int) (known : Option Int) : Cmd → Prop
  | .db (.insertTicket ownerId _) => ownerId = userId
  | .db (.selectTicketForUpdate _ ownerId) => ownerId = some userId
  | .db (.updateTicketStatus id _) | .db (.deleteTicket id) => known = some id
  | .db (.cancelHungTicket ..) => False
  | _ => True

/-- What such a call has locked is the user's. -/
theorem Own.held {t : ι} {cmd : Cmd} {choice : Choice} {w w' : World ι}
    {answer : Except Exn cmd.Resp}
    {userId id : Int} {known : Option Int} {version : Option Ticket} (own : Own userId known cmd)
    (one : ∀ id ticket, w.db.tickets.Version id ticket → OwnedBy w.db.tickets id ticket.ownerId)
    (reads : ∀ id, known = some id → OwnedBy w.db.tickets id userId)
    (ran : exec t cmd choice w = some (answer, w'))
    (held : w'.db.tickets.heldBy t id = some version) :
    w.db.tickets.heldBy t id = some version ∨ OwnedBy w'.db.tickets id userId := by
  have inherits := Inherits.of_exec ran
  rcases exec_ticketWrite ran with same | ⟨statement, rfl, write⟩ | same | same
  · rw [same] at held
    exact .inl held
  · generalize w'.db.tickets = s' at *
    cases write with
    | idle | skip => exact .inl held
    | @insert ownerId _ _ inserts =>
        subst inserts
        by_cases new : id = w.db.tickets.next
        · subst new
          obtain rfl : ownerId = userId := own
          exact .inr (inherits.owned one version_insert)
        · unfold RowStore.insert at held
          rw [heldBy_hold_of_ne new] at held
          exact .inl held
    | @hold id' ticket version' locks read asked _ =>
        by_cases here : id = id'
        · subst here
          refine .inr (OwnedBy.inherits ?_ inherits)
          have owned := one id ticket (version_of_read read)
          cases statement with
          | selectTicketForUpdate _ ownerId =>
              obtain rfl : _ = id := locks.symm
              rw [← asked userId (by rw [show ownerId = some userId from own])]
              exact owned
          | updateTicketStatus _ _ | deleteTicket _ =>
              obtain rfl : _ = id := locks.symm
              exact reads _ own
          | cancelHungTicket _ _ => exact own.elim
          | _ => exact locks.elim
        · rw [heldBy_hold_of_ne here] at held
          exact .inl held
  · rw [same, heldBy_commit_self] at held
    cases held
  · rw [same, heldBy_rollback_self] at held
    cases held

/-- The call has left the rows of the tickets that are not the user's as they were. -/
def KeepsForeign (userId : Int) (e : CallEvent ι) : Prop :=
  ∀ id ticket, ticket.ownerId ≠ userId →
    (e.before.db.tickets.row id = some ticket ↔ e.after.db.tickets.row id = some ticket)

/-- A commit of what is the user's leaves the other rows as they were. -/
theorem keepsForeign_of_held {t : ι} {cmd : Cmd} {choice : Choice} {w w' : World ι}
    {answer : Except Exn cmd.Resp} {userId : Int}
    (own : ∀ id version, w.db.tickets.heldBy t id = some version →
      OwnedBy w.db.tickets id userId)
    (ran : exec t cmd choice w = some (answer, w')) :
    KeepsForeign userId ⟨t, cmd, choice, answer, w, w'⟩ := by
  intro id ticket foreign
  dsimp only
  rcases exec_ticketWrite ran with same | ⟨_, _, write⟩ | same | same
  · rw [same]
  · have kept : w'.db.tickets.row = w.db.tickets.row := by
      generalize w'.db.tickets = s' at write
      cases write with
      | idle | skip => rfl
      | insert _ => exact insert_row
      | hold _ _ _ _ => exact hold_row
    rw [kept]
  · rw [same, commit_row]
    cases held : w.db.tickets.heldBy t id with
    | none => rw [read_of_not_held held]
    | some version =>
        have owned := (own id version held).version
        constructor
        · exact fun row => (foreign (owned ticket (.inl row))).elim
        · exact fun read => (foreign (owned ticket (version_of_read read))).elim
  · rw [same, rollback_row]

/-! ## Runs -/

/-- The user for whom a call about tickets is made. -/
def Activity.caller : Activity → Option Int
  | .operation (.create userId _) | .operation (.delete userId _)
  | .operation (.payForTicket _ userId) => some userId
  | .getTicket userId _ | .getTickets userId _ _ => some userId
  | _ => none

/-- What holds while calls for these users go on; `known` are the tickets that they have read. -/
structure Ownership (caller : ι → Option Int) (events : List (CallEvent ι)) (w : World ι)
    (known : ι → Option Int) : Prop where
  one : ∀ id ticket, w.db.tickets.Version id ticket → OwnedBy w.db.tickets id ticket.ownerId
  held : ∀ t userId, caller t = some userId → ∀ id version,
    w.db.tickets.heldBy t id = some version → OwnedBy w.db.tickets id userId
  reads : ∀ t userId, caller t = some userId → ∀ id, known t = some id →
    OwnedBy w.db.tickets id userId
  kept : ∀ e ∈ events, ∀ userId, caller e.thread = some userId → KeepsForeign userId e

/-- One call keeps it. -/
theorem Ownership.step {caller known : ι → Option Int} {events : List (CallEvent ι)} {t : ι}
    {cmd : Cmd} {choice : Choice} {w w' : World ι} {answer : Except Exn cmd.Resp}
    {known' : Option Int} (h : Ownership caller events w known)
    (own : ∀ userId, caller t = some userId → Own userId (known t) cmd)
    (learns : ∀ userId, caller t = some userId → ∀ id, known' = some id →
      known t ≠ known' →
      OwnedBy w.db.tickets id userId)
    (ran : exec t cmd choice w = some (answer, w')) :
    Ownership caller (events ++ [⟨t, cmd, choice, answer, w, w'⟩]) w'
      (Function.update known t known') := by
  have inherits := Inherits.of_exec ran
  refine ⟨fun id ticket => inherits.owned h.one, fun u userId calls id version held => ?_,
    fun u userId calls id knows => ?_, fun e mem userId calls => ?_⟩
  · by_cases same : u = t
    · subst same
      rcases (own userId calls).held h.one (h.reads u userId calls) ran held with before | owned
      · exact (h.held u userId calls id version before).inherits inherits
      · exact owned
    · rw [Custody.heldBy_other same ran] at held
      exact (h.held u userId calls id version held).inherits inherits
  · by_cases same : u = t
    · subst same
      rw [Function.update_self] at knows
      by_cases before : known u = known'
      · exact (h.reads u userId calls id (before.trans knows)).inherits inherits
      · exact (learns userId calls id knows before).inherits inherits
    · rw [Function.update_of_ne same] at knows
      exact (h.reads u userId calls id knows).inherits inherits
  · rcases List.mem_append.mp mem with earlier | last
    · exact h.kept e earlier userId calls
    · obtain rfl := List.mem_singleton.mp last
      exact keepsForeign_of_held (h.held t userId calls) ran

end TicketCore
