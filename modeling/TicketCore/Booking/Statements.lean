import TicketCore.Booking.Invariant

/-!
# The booking discipline, one call at a time

The rules of the booking discipline for each kind of call. A call that changes rows moves the
session in the way its rule says; `follows_commit` is the one that needs the session to be ready.
-/

namespace TicketCore.Booking

open Interleave RowStore

variable {ι : Type} [DecidableEq ι] {B : Booking ι} {events : List (CallEvent ι)}
  {w w' : World ι} {ghost : ι → Session} {t : ι} {g : Session}

omit [DecidableEq ι] in
theorem not_aborted {cmd : Cmd} {choice : Choice} {answer : Except Exn cmd.Resp}
    (other : answer ≠ .error (.integrity .checkTicketSold)) :
    ¬ Aborted (⟨t, cmd, choice, answer, w, w'⟩ : CallEvent ι) :=
  fun aborted => other aborted.2

/-- The rule for a call: it may fail without an effect, or run. -/
theorem follows_call {cmd : Cmd} {post : Except Exn cmd.Resp → Session → Prop}
    (fault : ∀ e, post (.error e) g)
    (run : ∀ events w ghost choice answer w', B.Inv events w ghost → ghost t = g →
      cmd.run t choice w = some (answer, w') →
      deletesActive B.ops ⟨t, cmd, choice, answer, w, w'⟩ →
      ∃ g', B.Inv (events ++ [⟨t, cmd, choice, answer, w, w'⟩]) w'
        (Function.update ghost t g') ∧
        post answer g') :
    B.discipline.Follows exec t post (.call cmd) g := by
  refine Discipline.Follows.call fun events w ghost choice answer w' inv own ran guarded => ?_
  rcases exec_cases ran with ⟨e, raised, _, rfl, rfl⟩ | ran
  · have unaborted : ¬ Aborted (⟨t, cmd, choice, .error e, w', w'⟩ : CallEvent ι) :=
      fun aborted => by
        have none := aborted.1
        rw [show choice.fault = some e from raised] at none
        cases none
    refine ⟨ghost t, Inv.stutter inv rfl fun _ => unaborted, ?_⟩
    rw [own]
    exact fault e
  · exact run events w ghost choice answer w' inv own ran guarded

/-! ## Calls that leave the database alone -/

/-- A call that changes no row and locks none. -/
def Neutral : Cmd → Prop
  | .db (.getTicketType _) | .db (.selectTicket ..) | .db (.hungTickets _)
  | .db (.refreshTicket _) | .db (.selectStatuses _) | .db (.refreshTicketType _) => True
  | .db _ | .handler => False
  | .redis .. | .enqueueJob _ | .now => True

theorem Neutral.run {cmd : Cmd} (neutral : Neutral cmd) {choice : Choice}
    {answer : Except Exn cmd.Resp} (ran : cmd.run t choice w = some (answer, w')) :
    w'.db = w.db ∧ answer ≠ .error (.integrity .checkTicketSold) := by
  cases cmd with
  | redis n command =>
      obtain ⟨a, r, _, rfl, rfl⟩ := Cmd.run_redis ran
      exact ⟨rfl, fun same => by cases same⟩
  | enqueueJob job => cases ran; exact ⟨rfl, fun same => by cases same⟩
  | now => cases ran; exact ⟨rfl, fun same => by cases same⟩
  | handler => exact neutral.elim
  | db statement =>
      obtain ⟨db', done, rfl⟩ := Cmd.run_db ran
      cases statement with
      | getTicketType id | selectTicket id ownerId | hungTickets threshold | selectStatuses ids =>
          cases done
          exact ⟨rfl, fun same => by cases same⟩
      | refreshTicket id =>
          obtain ⟨same, ⟨_, rfl⟩ | ⟨ticket, _, rfl⟩⟩ := DbCmd.run_refreshTicket done
          · exact ⟨same, fun failed => by cases failed⟩
          · exact ⟨same, fun failed => by cases failed⟩
      | refreshTicketType id =>
          simp only [DbCmd.run] at done
          split at done
          · cases done; exact ⟨rfl, fun same => by cases same⟩
          · cases done; exact ⟨rfl, fun same => by cases same⟩
      | _ => exact neutral.elim

theorem follows_neutral {cmd : Cmd} {post : Except Exn cmd.Resp → Session → Prop}
    (neutral : Neutral cmd) (all : ∀ answer, post answer g) :
    B.discipline.Follows exec t post (.call cmd) g := by
  refine follows_call (fun e => all _) fun events w ghost choice answer w' inv own ran _ => ?_
  obtain ⟨same, other⟩ := neutral.run ran
  refine ⟨ghost t, inv.stutter same fun _ => not_aborted other, ?_⟩
  rw [own]
  exact all answer

/-- A plain `SELECT` of a ticket tells its type, for good. -/
theorem follows_selectTicket {id ownerId : Int}
    {post : Except Exn (Option Ticket) → Session → Prop} (fault : ∀ e, post (.error e) g)
    (absent : post (.ok none) g) (found : ∀ ticket,
      post (.ok (some ticket)) { g with seen := some (id, ticket.ticketTypeId) }) :
    B.discipline.Follows exec t post (sql (.selectTicket id ownerId)) g := by
  refine follows_call fault fun events w ghost choice answer w' inv own ran _ => ?_
  obtain ⟨db', done, rfl⟩ := Cmd.run_db ran
  obtain ⟨rfl, rfl⟩ := DbCmd.run_selectTicket done
  cases selected : w.db.selectTicket t id ownerId with
  | none =>
      refine ⟨ghost t, inv.stutter rfl fun _ => not_aborted nofun, ?_⟩
      rw [own]
      exact absent
  | some ticket =>
      subst own
      have held := version_of_read (DbCmd.selectTicket_some selected).1
      refine ⟨{ ghost t with seen := some (id, ticket.ticketTypeId) },
        inv.extend (.refl (inv.tickets t)) (.refl (inv.types t)) (.refl _) (inv.kept t) ?_
          (inv.claim t) rfl fun _ => not_aborted nofun, found ticket⟩
      intro id' ticketTypeId known
      cases known
      exact inv.typed.knownAs held

/-! ## Counting -/

/-- The row of a ticket type exists as long as it did at the start. -/
theorem Inv.start_none (inv : B.Inv events w ghost) {id : Int}
    (absent : w.db.ticketTypes.row id = none) : B.start.ticketTypes.row id = none := by
  have moved := (inv.balanced id).isSome
  rw [absent] at moved
  exact Option.not_isSome_iff_eq_none.mp (by rw [← moved]; exact Bool.false_ne_true)

/-- A ticket that takes up a slot refers to a ticket type that exists. -/
theorem Inv.type_of_slot (inv : B.Inv events w ghost) {id ticketTypeId : Int}
    (active : slots ticketTypeId (w.db.tickets.row id) = 1) :
    ∃ ticket, w.db.tickets.row id = some ticket ∧ ticket.Active ∧
      ticket.ticketTypeId = ticketTypeId ∧ (w.db.ticketTypes.row ticketTypeId).isSome := by
  cases stored : w.db.tickets.row id with
  | none =>
      rw [stored, slots_none] at active
      exact absurd active (by decide)
  | some ticket =>
      rw [stored, slots_some] at active
      split at active
      · rename_i activeOf
        have present := inv.typed.foreignKey id ticket (.inl stored)
        rw [activeOf.1] at present
        exact ⟨ticket, rfl, activeOf.2, activeOf.1, present⟩
      · exact absurd active (by decide)

/-- With the books in order, a count is not taken below zero as long as there are that many active
tickets. -/
theorem Inv.enough (inv : B.Inv events w ghost) {id delta : Int} {row : TicketType}
    (stored : w.db.ticketTypes.row id = some row)
    (enough : B.start.Ledgered → 0 ≤ delta ∨ -delta ≤ w.db.activeTickets id)
    {violated : Constraint}
    (error : row.addTicketsSold delta = .error violated) (ledgered : B.start.Ledgered) :
    violated ≠ .checkTicketSold := by
  rintro rfl
  have sold := inv.balanced.ledgered ledgered id row stored
  have nonneg := row.check_ticket_sold
  rcases TicketType.addTicketsSold_error error with ⟨other, _⟩ | ⟨_, negative⟩
  · cases other
  · rcases enough ledgered with up | down
    · omega
    · omega

/-- `UPDATE ticket_types SET tickets_sold = tickets_sold + delta`. With the type's row locked, the
thread may claim a ticket of that type which is active now. -/
theorem follows_addTicketsSold {id delta : Int} {post : Except Exn Unit → Session → Prop}
    (claim : Option (Int × Int)) (unlocked : g.types id = none)
    (known : ∀ events w ghost choice answer w', B.Inv events w ghost → ghost t = g →
      deletesActive B.ops ⟨t, .db (.addTicketsSold id delta), choice, answer, w, w'⟩ →
      (B.start.Ledgered → 0 ≤ delta ∨ -delta ≤ w.db.activeTickets id) ∧
        ∀ ticketId ticketTypeId, claim = some (ticketId, ticketTypeId) →
          ticketTypeId = id ∧ slots id (w.db.tickets.row ticketId) = 1)
    (fault : ∀ e, post (.error e) g)
    (absent : B.start.ticketTypes.row id = none → claim = none → post (.ok ()) g)
    (added : ∀ row row', row.addTicketsSold delta = .ok row' →
      post (.ok ()) { g.lockType id (some row) (some row') with claim := claim }) :
    B.discipline.Follows exec t post (sql (.addTicketsSold id delta)) g := by
  refine follows_call fault fun events w ghost choice answer w' inv own ran guarded => ?_
  obtain ⟨enough, claimed⟩ := known events w ghost choice answer w' inv own guarded
  obtain ⟨db', done, rfl⟩ := Cmd.run_db ran
  subst own
  have committed : w.db.ticketTypes.read t id = w.db.ticketTypes.row id :=
    (inv.types t).read_of_none unlocked
  rcases DbCmd.run_addTicketsSold done with ⟨none, rfl, rfl⟩ | ⟨row, read, free, update⟩
  · rw [committed] at none
    refine ⟨ghost t, inv.stutter rfl fun _ => not_aborted nofun,
      absent (inv.start_none none) ?_⟩
    cases claim with
    | none => rfl
    | some ticket =>
        obtain ⟨same, active⟩ := claimed ticket.1 ticket.2 rfl
        obtain ⟨_, _, _, _, present⟩ := inv.type_of_slot active
        rw [none] at present
        cases present
  · have stored : w.db.ticketTypes.row id = some row := by rw [← committed, read]
    rcases update with ⟨row', ok, rfl, rfl⟩ | ⟨violated, error, rfl, rfl⟩
    · have locked : Locked w.db.ticketTypes (w.db.ticketTypes.hold t id (some row')) t
          (ghost t).types ((ghost t).lockType id (some row) (some row')).types := by
        have hold := Locked.hold (some row') (inv.types t) (by rw [read]; rfl) free
        rwa [stored] at hold
      have kept : ((ghost t).lockType id (some row) (some row')).KeepsTypes :=
        (inv.kept t).lockType rfl
      have descends : w.db.Descends
          { w.db with ticketTypes := w.db.ticketTypes.hold t id (some row') } :=
        .of_versions le_rfl (fun _ ticket held => ⟨ticket, held, rfl⟩) fun _ some => by
          rwa [hold_row]
      refine ⟨{ (ghost t).lockType id (some row) (some row') with claim := claim },
        inv.extend (.refl (inv.tickets t)) locked descends kept
          (fun _ _ some => (inv.seen t _ _ some).descends descends) ?_
          rfl fun _ => not_aborted nofun, added row row' ok⟩
      intro ticketId ticketTypeId some
      obtain ⟨rfl, active⟩ := claimed ticketId ticketTypeId some
      exact ⟨active, Option.isSome_iff_exists.mpr ⟨_, Locks.add_self⟩⟩
    · refine ⟨ghost t, inv.stutter rfl fun ledgered => ?_, fault _⟩
      have other := inv.enough stored enough error ledgered
      exact not_aborted fun same => other (Exn.integrity.inj (Except.error.inj same))

/-! ## Rows of tickets -/

/-- A row of `tickets` that the transaction holds, as it reads it. -/
theorem Inv.read_ticket (inv : B.Inv events w ghost) {id : Int} {base version : Option Ticket}
    (locked : (ghost t).tickets id = some (base, version)) :
    w.db.tickets.read t id = version ∧ w.db.tickets.row id = base :=
  ⟨(inv.tickets t).read_of_lock locked, (inv.tickets t).row_of_lock locked⟩

/-- A statement that sets the transaction's version of a ticket. -/
theorem Inv.holdTicket (inv : B.Inv events w ghost) {id : Int} (cmd : Cmd) (choice : Choice)
    (answer : Except Exn cmd.Resp) {ticket : Ticket} (version : Option Ticket)
    (read : w.db.tickets.read t id = some ticket) (free : w.db.tickets.Free t id)
    (sameType : ∀ ticket', version = some ticket' → ticket'.ticketTypeId = ticket.ticketTypeId)
    (changed : w' = { w with db := { w.db with tickets := w.db.tickets.hold t id version } })
    (other : answer ≠ .error (.integrity .checkTicketSold)) :
    B.Inv (events ++ [⟨t, cmd, choice, answer, w, w'⟩]) w'
      (Function.update ghost t ((ghost t).lockTicket id (w.db.tickets.row id) version)) := by
  subst changed
  have locked := Locked.hold version (inv.tickets t) (by rw [read]; rfl) free
  have descends : w.db.Descends { w.db with tickets := w.db.tickets.hold t id version } := by
    refine .of_versions (le_of_eq hold_issued.symm) (fun id' ticket' held => ?_) fun _ some => some
    rcases Version.of_hold held with old | ⟨rfl, new⟩
    · exact ⟨ticket', old, rfl⟩
    · exact ⟨ticket, version_of_read read, (sameType ticket' new).symm⟩
  refine inv.extend locked (.refl (inv.types t)) descends (inv.kept t)
    (fun id' ticketTypeId some => (inv.seen t id' ticketTypeId some).descends descends)
    (fun id' ticketTypeId some => ?_) rfl fun _ => not_aborted other
  have claim := inv.claim t id' ticketTypeId some
  refine ⟨?_, claim.2⟩
  rw [show ({ w.db with tickets := w.db.tickets.hold t id version } : Database ι).tickets.row =
    w.db.tickets.row from hold_row]
  exact claim.1

/-- `INSERT INTO tickets`. -/
theorem follows_insertTicket {ownerId ticketTypeId : Int}
    {post : Except Exn Int → Session → Prop} (fault : ∀ e, post (.error e) g)
    (inserted : ∀ id ticket, (B.start.ticketTypes.row ticketTypeId).isSome →
      ticket.status = .reserved → ticket.ticketTypeId = ticketTypeId →
      post (.ok id) (g.lockTicket id none (some ticket))) :
    B.discipline.Follows exec t post (sql (.insertTicket ownerId ticketTypeId)) g := by
  refine follows_call fault fun events w ghost choice answer w' inv own ran _ => ?_
  obtain ⟨db', done, rfl⟩ := Cmd.run_db ran
  subst own
  have skipped : w.db.Descends { w.db with tickets := w.db.tickets.skip } :=
    .of_versions (Nat.le_succ _) (fun _ ticket held => ⟨ticket, held, rfl⟩) fun _ some => some
  have failed : ∀ e, e ≠ .integrity .checkTicketSold →
      B.Inv (events ++ [⟨t, .db (.insertTicket ownerId ticketTypeId), choice, .error e, w,
        { w with db := { w.db with tickets := w.db.tickets.skip } }⟩])
        { w with db := { w.db with tickets := w.db.tickets.skip } }
        (Function.update ghost t (ghost t)) := fun e other =>
    inv.extend (.skip (inv.tickets t)) (.refl (inv.types t)) skipped (inv.kept t)
      (fun id ty some => (inv.seen t id ty some).descends skipped) (inv.claim t) rfl
      fun _ => not_aborted fun same => other (Except.error.inj same)
  rcases DbCmd.run_insertTicket done with
    ⟨_, rfl, rfl⟩ | ⟨_, rfl, rfl⟩ | ⟨present, _, rfl, rfl⟩
  · exact ⟨ghost t, failed _ nofun, fault _⟩
  · exact ⟨ghost t, failed _ nofun, fault _⟩
  · have stored : (w.db.ticketTypes.row ticketTypeId).isSome := by
      cases lock : (ghost t).types ticketTypeId with
      | none => rwa [(inv.types t).read_of_none lock] at present
      | some lock' =>
          rw [(inv.types t).base ticketTypeId lock' lock]
          exact (inv.kept t ticketTypeId lock' lock).1
    let ticket : Ticket := ⟨ticketTypeId, ownerId, .reserved, choice.clock⟩
    have descends : w.db.Descends { w.db with tickets := w.db.tickets.insert t ticket } := by
      have issued : (w.db.tickets.insert t ticket).issued = w.db.tickets.issued + 1 := hold_issued
      have fresh : (w.db.tickets.issued : Int) < w.db.tickets.next := by unfold next; omega
      refine ⟨by show _ ≤ (w.db.tickets.insert t ticket).issued; omega, ?_, ?_,
        fun _ some => some⟩
      · intro id ticket' held
        rcases Version.of_insert held with old | ⟨rfl, rfl⟩
        · exact .inl ⟨ticket', old, rfl⟩
        · exact .inr ⟨fresh, stored⟩
      · intro id ticket' ticket'' new held held'
        rcases Version.of_insert held with old | ⟨_, rfl⟩
        · exact absurd old.issued.2 (not_le.mpr new)
        · rcases Version.of_insert held' with old | ⟨_, rfl⟩
          · exact absurd old.issued.2 (not_le.mpr new)
          · rfl
    refine ⟨(ghost t).lockTicket w.db.tickets.next none (some ticket),
      inv.extend (.insert (inv.tickets t)) (.refl (inv.types t)) descends (inv.kept t)
        (fun id ty some => (inv.seen t id ty some).descends descends)
        (fun id ty some => ?_) rfl fun _ => not_aborted nofun,
      inserted w.db.tickets.next ticket ?_ rfl rfl⟩
    · have claim := inv.claim t id ty some
      refine ⟨?_, claim.2⟩
      rw [show ({ w.db with tickets := w.db.tickets.insert t ticket } : Database ι).tickets.row =
        w.db.tickets.row from insert_row]
      exact claim.1
    · rwa [← (inv.balanced ticketTypeId).isSome]

/-- `SELECT ... FROM tickets ... FOR UPDATE`. -/
theorem follows_selectTicketForUpdate {id : Int} {ownerId : Option Int}
    {post : Except Exn (Option Ticket) → Session → Prop} (unlocked : g.tickets id = none)
    (fault : ∀ e, post (.error e) g) (absent : post (.ok none) g)
    (found : ∀ ticket, post (.ok (some ticket)) (g.lockTicket id (some ticket) (some ticket))) :
    B.discipline.Follows exec t post (sql (.selectTicketForUpdate id ownerId)) g := by
  refine follows_call fault fun events w ghost choice answer w' inv own ran _ => ?_
  obtain ⟨db', done, rfl⟩ := Cmd.run_db ran
  subst own
  rcases DbCmd.run_selectTicketForUpdate done with
    ⟨rfl, rfl⟩ | ⟨ticket, read, free, rfl, rfl⟩
  · exact ⟨ghost t, inv.stutter rfl fun _ => not_aborted nofun, absent⟩
  · have stored : w.db.tickets.row id = some ticket := by
      rw [← (inv.tickets t).read_of_none unlocked, read]
    have inv' := inv.holdTicket (.db (.selectTicketForUpdate id ownerId)) choice
      (.ok (some ticket)) (some ticket) read free
      (fun _ same => by cases same; rfl) rfl nofun
    rw [stored] at inv'
    exact ⟨_, inv', found ticket⟩

/-- The flush of a changed status, of a ticket that the transaction has locked. -/
theorem follows_updateTicketStatus {id : Int} {status : TicketStatus} (base : Option Ticket)
    (ticket : Ticket) {post : Except Exn Unit → Session → Prop}
    (locked : g.tickets id = some (base, some ticket)) (fault : ∀ e, post (.error e) g)
    (updated : post (.ok ()) (g.lockTicket id base (some (ticket.withStatus status)))) :
    B.discipline.Follows exec t post (sql (.updateTicketStatus id status)) g := by
  refine follows_call fault fun events w ghost choice answer w' inv own ran _ => ?_
  obtain ⟨db', done, rfl⟩ := Cmd.run_db ran
  subst own
  obtain ⟨mine, stored⟩ := inv.read_ticket locked
  rcases DbCmd.run_updateTicketStatus done with ⟨rfl, rfl⟩ | ⟨ticket', read, free, rfl, rfl⟩
  · exact ⟨ghost t, inv.stutter rfl fun _ => not_aborted nofun, fault _⟩
  · rw [mine] at read
    cases read
    have inv' := inv.holdTicket (.db (.updateTicketStatus id status)) choice (.ok ())
      (some (ticket.withStatus status)) mine free
      (fun _ same => by cases same; rfl) rfl nofun
    rw [stored] at inv'
    exact ⟨_, inv', updated⟩

/-- The flush of the deletion of a ticket that the thread has claimed. -/
theorem follows_deleteTicket {id ticketTypeId : Int} {post : Except Exn Unit → Session → Prop}
    (claim : g.claim = some (id, ticketTypeId)) (unlocked : g.tickets id = none)
    (fault : ∀ e, post (.error e) g)
    (deleted : ∀ ticket : Ticket, ticket.Active → ticket.ticketTypeId = ticketTypeId →
      post (.ok ()) (g.lockTicket id (some ticket) none)) :
    B.discipline.Follows exec t post (sql (.deleteTicket id)) g := by
  refine follows_call fault fun events w ghost choice answer w' inv own ran _ => ?_
  obtain ⟨db', done, rfl⟩ := Cmd.run_db ran
  subst own
  obtain ⟨ticket, stored, active, same, _⟩ := inv.type_of_slot (inv.claim t id _ claim).1
  have read : w.db.tickets.read t id = some ticket := by
    rw [(inv.tickets t).read_of_none unlocked, stored]
  rcases DbCmd.run_deleteTicket done with ⟨none, rfl, rfl⟩ | ⟨_, free, rfl, rfl⟩
  · rw [read] at none
    cases none
  · have inv' := inv.holdTicket (.db (.deleteTicket id)) choice (.ok ()) none read free
      nofun rfl nofun
    rw [stored] at inv'
    exact ⟨_, inv', deleted ticket active same⟩

/-- One row of the garbage collector's `UPDATE`. -/
theorem follows_cancelHungTicket {id threshold : Int}
    {post : Except Exn (Option (Int × Int)) → Session → Prop}
    (done : ∀ lock, g.tickets id = some lock →
      ∃ ticket : Ticket, lock.2 = some ticket ∧ ticket.status = .canceled)
    (fault : ∀ e, post (.error e) g) (skipped : post (.ok none) g)
    (canceled : ∀ ticket : Ticket, ticket.status = .reserved → g.tickets id = none →
      post (.ok (some (id, ticket.ticketTypeId)))
        (g.lockTicket id (some ticket) (some (ticket.withStatus .canceled)))) :
    B.discipline.Follows exec t post (sql (.cancelHungTicket id threshold)) g := by
  refine follows_call fault fun events w ghost choice answer w' inv own ran _ => ?_
  obtain ⟨db', ranDb, rfl⟩ := Cmd.run_db ran
  subst own
  rcases DbCmd.run_cancelHungTicket ranDb with
    ⟨rfl, rfl⟩ | ⟨ticket, read, free, hung, rfl, rfl⟩
  · exact ⟨ghost t, inv.stutter rfl fun _ => not_aborted nofun, skipped⟩
  · have unlocked : (ghost t).tickets id = none := by
      cases locked : (ghost t).tickets id with
      | none => rfl
      | some lock =>
          obtain ⟨ticket', version, status⟩ := done lock locked
          have locked : (ghost t).tickets id = some (lock.1, lock.2) := locked
          rw [(inv.read_ticket locked).1, version] at read
          cases read
          have reserved := hung.1
          rw [status] at reserved
          cases reserved
    have stored : w.db.tickets.row id = some ticket := by
      rw [← (inv.tickets t).read_of_none unlocked, read]
    have inv' := inv.holdTicket (.db (.cancelHungTicket id threshold)) choice
      (.ok (some (id, ticket.ticketTypeId))) (some (ticket.withStatus .canceled)) read free
      (fun _ same => by cases same; rfl) rfl nofun
    rw [stored] at inv'
    exact ⟨_, inv', canceled ticket hung.1 unlocked⟩

/-! ## The end of a transaction -/

/-- `COMMIT`, of a session that is ready for a change of its operation. -/
theorem follows_commit {change : Change} {post : Except Exn Unit → Session → Prop}
    (ready : g.Ready change) (makes : (B.ops t).Makes change) (fault : ∀ e, post (.error e) g)
    (committed : post (.ok ()) (.idle true)) :
    B.discipline.Follows exec t post (sql .commit) g := by
  refine follows_call fault fun events w ghost choice answer w' inv own ran _ => ?_
  obtain ⟨db', done, rfl⟩ := Cmd.run_db ran
  obtain ⟨rfl, rfl⟩ := DbCmd.run_commit done
  subst own
  exact ⟨_, inv.commit rfl ready makes (not_aborted nofun), committed⟩

/-- `ROLLBACK`. -/
theorem follows_rollback {post : Except Exn Unit → Session → Prop}
    (fault : ∀ e, post (.error e) g) (ended : post (.ok ()) (.idle g.committed)) :
    B.discipline.Follows exec t post (sql .rollback) g := by
  refine follows_call fault fun events w ghost choice answer w' inv own ran _ => ?_
  obtain ⟨db', done, rfl⟩ := Cmd.run_db ran
  cases done
  subst own
  exact ⟨_, inv.rollback rfl (not_aborted nofun), ended⟩

/-- The end of a session, which always succeeds. -/
theorem follows_close {post : Except Exn Unit → Session → Prop}
    (ended : post (.ok ()) (.idle g.committed)) :
    B.discipline.Follows exec t post (sql .close) g := by
  refine Discipline.Follows.call fun events w ghost choice answer w' inv own ran _ => ?_
  rcases exec_cases ran with ⟨e, _, may, _⟩ | ran
  · cases may
  · obtain ⟨db', done, rfl⟩ := Cmd.run_db ran
    cases done
    subst own
    exact ⟨_, Inv.rollback inv rfl (not_aborted nofun), ended⟩

end TicketCore.Booking
