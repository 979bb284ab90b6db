import TicketCore.Counter.Balance
import TicketCore.Counter.Programs

/-!
# The ticket that a booking reads again

`db.refresh` reads the new ticket after the commit, and raises if the row has gone. While only
tickets are deleted that were there before, it has not: `rereads_of_run`.
-/

namespace TicketCore.Counter

open Interleave RowStore

/-- How far a booking has come with its new ticket. -/
inductive Newcomer
  | idle
  /-- It is inserted. -/
  | inserted (id : Int)
  /-- It is committed. -/
  | landed (id : Int)

namespace Newcomer

/-- A call that locks only tickets up to `base`, inserts no ticket and reads none again, and does
not end a transaction. -/
def Calm (base : Nat) : Cmd → Prop
  | .db (.refreshTicket _) => False
  | .db statement => ¬ statement.Ends ∧ (∀ id, statement.locksTicket id → id ≤ base) ∧
      ¬ statement.InsertsTicket
  | _ => True

/-- How a call moves the newcomer. -/
inductive Arrives (base : Nat) : Newcomer → (cmd : Cmd) → Except Exn cmd.Resp →
    Newcomer → Prop
  | calm {g : Newcomer} {cmd : Cmd} {answer : Except Exn cmd.Resp} :
      Calm base cmd → Arrives base g cmd answer g
  | raised {g : Newcomer} {ownerId ticketTypeId : Int} {e : Exn} :
      Arrives base g (.db (.insertTicket ownerId ticketTypeId)) (.error e) g
  | insert {ownerId ticketTypeId id : Int} :
      Arrives base .idle (.db (.insertTicket ownerId ticketTypeId)) (.ok id) (.inserted id)
  | commit {id : Int} : Arrives base (.inserted id) (.db .commit) (.ok ()) (.landed id)
  | ends {g : Newcomer} {statement : DbCmd} {answer : Except Exn statement.Resp} :
      statement.Ends → Arrives base g (.db statement) answer .idle
  | refresh {id : Int} {answer : Except Exn Ticket} :
      Arrives base (.landed id) (.db (.refreshTicket id)) answer (.landed id)

section Invariant

variable {ι : Type} [DecidableEq ι] {base : Nat} {t u : ι} {g g' : Newcomer}

/-- What a newcomer means for the tickets. -/
def Stands (base : Nat) (s : RowStore ι Ticket) (t : ι) : Newcomer → Prop
  | .idle => True
  | .inserted id => (base : Int) < id ∧ ∃ ticket, s.heldBy t id = some (some ticket)
  | .landed id => (base : Int) < id ∧ (s.row id).isSome ∧ s.heldBy t id = none

/-- No ticket is being deleted that was not there before. -/
def Firm (base : Nat) (s : RowStore ι Ticket) : Prop :=
  base ≤ s.issued ∧ ∀ u id, (base : Int) < id → s.heldBy u id ≠ some none

/-- The rules of the tickets' newcomers. -/
structure Welcome (base : Nat) (events : List (CallEvent ι)) (w : World ι)
    (ghost : ι → Newcomer) : Prop where
  firm : Firm base w.db.tickets
  stands : ∀ t, Stands base w.db.tickets t (ghost t)
  rereads : ∀ e ∈ events, Rereads e

variable {s s' : RowStore ι Ticket} {ids : Int → Prop} {grows : Prop}

theorem Stands.congr (h : Stands base s u g) (row : s'.row = s.row)
    (held : ∀ id, (base : Int) < id → s'.heldBy u id = s.heldBy u id) : Stands base s' u g := by
  cases g with
  | idle => trivial
  | inserted id =>
      obtain ⟨new, ticket, mine⟩ := h
      exact ⟨new, ticket, by rw [held id new, mine]⟩
  | landed id =>
      obtain ⟨new, present, free⟩ := h
      exact ⟨new, by rw [row]; exact present, by rw [held id new, free]⟩

/-- The same transaction moves other tickets. -/
theorem Stands.moves_self (h : Stands base s t g) (moved : s.Moves t ids grows s')
    (fixed : ¬ grows) (old : ∀ id, ids id → id ≤ base) : Stands base s' t g :=
  h.congr moved.row fun id new => heldBy_congr
    (moved.held_of_apart (fun locked => absurd (old id locked) (not_le.mpr new)) (.inr fixed))

theorem Firm.moves (h : Firm base s) (moved : s.Moves t ids grows s')
    (old : ∀ id, ids id → id ≤ base) : Firm base s' := by
  refine ⟨h.1.trans moved.issued, fun u id new => ?_⟩
  cases moved with
  | refl => exact h.2 u id new
  | skip _ => exact h.2 u id new
  | insert r _ =>
      intro held
      rw [heldBy_eq_some, insert_held] at held
      by_cases same : id = s.next
      · subst same
        rw [Function.update_self] at held
        cases held
      · rw [Function.update_of_ne same, ← heldBy_eq_some] at held
        exact h.2 u id new held
  | @hold id' version locks read _ =>
      have other : id ≠ id' := fun same => absurd (old id' locks) (by omega)
      rw [heldBy_hold_of_ne other]
      exact h.2 u id new

theorem Firm.release (h : Firm base s) {s' : RowStore ι Ticket} (issued : s'.issued = s.issued)
    (held : s'.held = s.release t) : Firm base s' := by
  refine ⟨by rw [issued]; exact h.1, fun u id new mine => ?_⟩
  rw [heldBy_eq_some, held] at mine
  exact h.2 u id new (heldBy_eq_some.mpr (release_eq_some.mp mine).1)

/-- A commit of another transaction. -/
theorem Stands.commit_other (h : Stands base s u g) (firm : Firm base s) (other : u ≠ t) :
    Stands base (s.commit t) u g := by
  cases g with
  | idle => trivial
  | inserted id =>
      obtain ⟨new, ticket, held⟩ := h
      exact ⟨new, ticket, by rw [heldBy_commit_other other, held]⟩
  | landed id =>
      obtain ⟨new, present, free⟩ := h
      refine ⟨new, ?_, by rw [heldBy_commit_other other, free]⟩
      rw [commit_row]
      cases held : s.heldBy t id with
      | none => rwa [read_of_not_held held]
      | some version =>
          rw [read_of_heldBy held]
          cases version with
          | none => exact (firm.2 t id new held).elim
          | some ticket => rfl

theorem Stands.rollback_other (h : Stands base s u g) (other : u ≠ t) :
    Stands base (s.rollback t) u g :=
  h.congr rfl fun _ _ => heldBy_rollback_other other

variable {events : List (CallEvent ι)} {w w' : World ι} {ghost : ι → Newcomer} {cmd : Cmd}
  {choice : Choice} {answer : Except Exn cmd.Resp}

/-- What one call owes to keep the rules. -/
theorem Welcome.next (h : Welcome base events w ghost) (firm : Firm base w'.db.tickets)
    (self : Stands base w'.db.tickets t g')
    (others : ∀ u, u ≠ t → ∀ g, Stands base w.db.tickets u g →
      Stands base w'.db.tickets u g)
    (rereads : Rereads ⟨t, cmd, choice, answer, w, w'⟩) :
    Welcome base (events ++ [⟨t, cmd, choice, answer, w, w'⟩]) w'
      (Function.update ghost t g') where
  firm := firm
  stands := (Function.forall_update_iff ghost fun u g => Stands base w'.db.tickets u g).mpr
    ⟨self, fun u other => others u other _ (h.stands u)⟩
  rereads e mem := by
    rcases List.mem_append.mp mem with mem | mem
    · exact h.rereads e mem
    · rw [List.mem_singleton.mp mem]
      exact rereads

omit [DecidableEq ι] in
theorem Calm.not_refresh (calm : Calm base cmd) (id : Int) : cmd ≠ .db (.refreshTicket id) := by
  rintro rfl
  exact calm

theorem Calm.moves (calm : Calm base cmd) (ran : exec t cmd choice w = some (answer, w')) :
    ∃ ids grows, w.db.tickets.Moves t ids grows w'.db.tickets ∧ ¬ grows ∧
      ∀ id : Int, ids id → id ≤ base := by
  have still : w'.db = w.db → ∃ ids grows, w.db.tickets.Moves t ids grows w'.db.tickets ∧
      ¬ grows ∧
      ∀ id : Int, ids id → id ≤ base := fun same =>
    ⟨fun _ => False, False, by rw [same]; exact .refl, not_false, fun _ none => none.elim⟩
  rcases exec_cases ran with ⟨_, _, _, _, rfl⟩ | ran
  · exact still rfl
  cases cmd with
  | now | enqueueJob job => cases ran; exact still rfl
  | handler =>
      have done : (choice.outcome, w) = (answer, w') := Option.some.inj ran
      obtain ⟨_, rfl⟩ := Prod.mk.inj done
      exact still rfl
  | redis n command =>
      obtain ⟨_, _, _, _, rfl⟩ := Cmd.run_redis ran
      exact still rfl
  | db statement =>
      obtain ⟨db', done, rfl⟩ := Cmd.run_db ran
      have within : ¬ statement.Ends ∧ (∀ id, statement.locksTicket id → id ≤ base) ∧
          ¬ statement.InsertsTicket := by
        cases statement with
        | refreshTicket id => exact calm.elim
        | _ => exact calm
      exact ⟨_, _, (DbCmd.moved within.1 done).tickets, within.2.2, within.2.1⟩

/-- The rules of newcomers, as a discipline. -/
def welcome (base : Nat) : Discipline ι (World ι) Cmd Cmd.Resp Exn Choice Newcomer where
  guard _ := True
  inv := Welcome base

/-- The protocol of newcomers. -/
def arrivals (base : Nat) : Protocol Cmd Cmd.Resp Exn Newcomer :=
  ⟨fun _ _ => True, Arrives base⟩

/-- **Every call keeps the rules.** -/
theorem governs : (arrivals base).Governs (welcome (ι := ι) base) exec := by
  intro t events w ghost cmd choice answer w' inv ran _
  refine ⟨trivial, fun g' step => ?_⟩
  have step : Arrives base (ghost t) cmd answer g' := step
  have stands := inv.stands t
  generalize own : ghost t = g at step stands
  cases step with
  | calm calm =>
      obtain ⟨ids, grows, moved, fixed, old⟩ := calm.moves ran
      exact inv.next (inv.firm.moves moved old) (stands.moves_self moved fixed old)
        (fun u other g held => held.congr moved.row fun _ _ => moved.heldBy_other other)
        fun id same => (calm.not_refresh id same).elim
  | raised =>
      have same : w'.db.tickets.row = w.db.tickets.row ∧
          w'.db.tickets.held = w.db.tickets.held ∧
          w.db.tickets.issued ≤ w'.db.tickets.issued := by
        obtain ⟨_, db | db | db⟩ := TicketCore.raised ran
        · rw [db]
          exact ⟨rfl, rfl, le_rfl⟩
        · rw [db]
          exact ⟨skip_row, skip_held, Nat.le_succ _⟩
        · rw [db]
          exact ⟨rfl, rfl, le_rfl⟩
      obtain ⟨row, held, issued⟩ := same
      have others : ∀ u g, Stands base w.db.tickets u g → Stands base w'.db.tickets u g :=
        fun u g stands => stands.congr row fun _ _ => heldBy_congr (by rw [held])
      refine inv.next ⟨inv.firm.1.trans issued, fun u id new => ?_⟩ (others t _ stands)
        (fun u _ => others u) fun _ same => by cases same
      have same : w'.db.tickets.heldBy u id = w.db.tickets.heldBy u id :=
        heldBy_congr (by rw [held])
      rw [same]
      exact inv.firm.2 u id new
  | @insert ownerId ticketTypeId id =>
      obtain ⟨db', done, rfl⟩ := ran_db ran
      have goes : ¬ (DbCmd.insertTicket ownerId ticketTypeId).Ends := not_false
      have moved := (DbCmd.moved goes done).tickets
      refine inv.next (inv.firm.moves moved fun _ locked => locked.elim) ?_
        (fun u other g held => held.congr moved.row fun _ _ => moved.heldBy_other other)
        fun _ same => by cases same
      rcases DbCmd.run_insertTicket done with
        ⟨_, failed, _⟩ | ⟨_, failed, _⟩ | ⟨_, _, new, rfl⟩
      · cases failed
      · cases failed
      · cases new
        refine ⟨?_, ⟨ticketTypeId, ownerId, .reserved, choice.clock⟩, ?_⟩
        · have issued := inv.firm.1
          unfold next
          omega
        · rw [heldBy_eq_some]
          exact insert_held ▸ Function.update_self ..
  | commit =>
      obtain ⟨db', done, rfl⟩ := ran_db ran
      cases done
      obtain ⟨new, ticket, held⟩ := stands
      refine inv.next (inv.firm.release rfl rfl) ⟨new, ?_, heldBy_commit_self⟩
        (fun u other g held => held.commit_other inv.firm other) fun _ same => by cases same
      show ((w.db.tickets.commit t).row _).isSome
      rw [commit_row, read_of_heldBy held]
      rfl
  | @ends _ statement answer ends =>
      have reads : Rereads (⟨t, .db statement, choice, answer, w, w'⟩ : CallEvent ι) :=
        fun id same => by
          obtain rfl : statement = .refreshTicket id := Cmd.db.inj same
          exact ends.elim
      rcases exec_cases ran with ⟨_, _, _, _, rfl⟩ | ran
      · exact inv.next inv.firm trivial (fun _ _ _ held => held) reads
      obtain ⟨db', done, rfl⟩ := Cmd.run_db ran
      rcases ends.run done with rfl | rfl
      · exact inv.next (inv.firm.release rfl rfl) trivial
          (fun u other g held => held.commit_other inv.firm other) reads
      · exact inv.next (inv.firm.release rfl rfl) trivial
          (fun u other g held => held.rollback_other other) reads
  | @refresh id answer =>
      have same : w'.db = w.db := by
        rcases exec_cases ran with ⟨_, _, _, _, rfl⟩ | ran
        · rfl
        · obtain ⟨db', done, rfl⟩ := Cmd.run_db ran
          exact (DbCmd.run_refreshTicket done).1
      have keeps : ∀ u g, Stands base w.db.tickets u g → Stands base w'.db.tickets u g :=
        fun _ _ held => by rwa [same]
      refine inv.next (by rw [same]; exact inv.firm) (keeps t _ stands) (fun u _ => keeps u) ?_
      rintro _ ⟨⟩
      obtain ⟨_, present, free⟩ := stands
      show (w.db.tickets.read t id).isSome
      rwa [read_of_not_held free]

end Invariant

/-! ## The calls -/

section Calls

variable {ι : Type} [DecidableEq ι] {base : Nat} {d : Deployment}
  {D : Discipline ι (World ι) Cmd Cmd.Resp Exn Choice Newcomer} {t : ι} {g : Newcomer}

/-- A call that is calm or ends a transaction. -/
def Plain (base : Nat) (cmd : Cmd) : Prop :=
  Calm base cmd ∨ ∃ statement : DbCmd, cmd = .db statement ∧ statement.Ends

omit [DecidableEq ι] in
theorem plain_of_ends {statement : DbCmd} (ends : statement.Ends) : Plain base (.db statement) :=
  .inr ⟨statement, rfl, ends⟩

/-- A program of plain calls. -/
theorem follows_plain {α : Type} {p : Async α} (governs : (arrivals base).Governs D exec)
    (only : p.Only (Plain base)) : D.Follows exec t (fun _ _ => True) p g := by
  refine governs.only (fun _ => True) (fun g cmd answer _ plain _ => ?_) only trivial
  rcases plain with calm | ⟨statement, rfl, ends⟩
  · exact ⟨g, .calm calm, trivial⟩
  · exact ⟨.idle, .ends ends, trivial⟩

/-- A program of plain calls, before any ticket is inserted. -/
theorem follows_before {α : Type} {p : Async α} (governs : (arrivals base).Governs D exec)
    (only : p.Only (Plain base)) : D.Follows exec t (fun _ g' => g' = .idle) p .idle := by
  refine governs.only (· = .idle) (fun g cmd answer same plain _ => ?_) only rfl
  subst same
  rcases plain with calm | ⟨statement, rfl, ends⟩
  · exact ⟨.idle, .calm calm, rfl⟩
  · exact ⟨.idle, .ends ends, rfl⟩

variable (governs : (arrivals base).Governs D exec)

include governs

/-- One call of a booking, and the rest of it. -/
theorem follows_then {cmd : Cmd} {α : Type} {f : cmd.Resp → Async α}
    (goes : cmd.Resp → Newcomer) (raised : ∀ e, ∃ g', Arrives base g cmd (.error e) g')
    (step : ∀ a, Arrives base g cmd (.ok a) (goes a))
    (rest : ∀ a, D.Follows exec t (fun _ _ => True) (f a) (goes a)) :
    D.Follows exec t (fun _ _ => True)
      (do let a ← (Program.call cmd : Async cmd.Resp); f a) g := by
  refine Discipline.Follows.bind (fun a g' => g' = goes a) (governs.call fun answer _ => ?_)
    fun a g' same => ?_
  · cases answer with
    | ok a => exact ⟨goes a, step a, rfl⟩
    | error e =>
        obtain ⟨g', step⟩ := raised e
        exact ⟨g', step, trivial⟩
  · subst same
    exact rest a

/-- A calm call of a booking. -/
theorem follows_calm {cmd : Cmd} {α : Type} {f : cmd.Resp → Async α} (calm : Calm base cmd)
    (rest : ∀ a, D.Follows exec t (fun _ _ => True) (f a) g) :
    D.Follows exec t (fun _ _ => True) (do let a ← (Program.call cmd : Async cmd.Resp); f a) g :=
  follows_then governs (fun _ => g) (fun _ => ⟨g, .calm calm⟩) (fun _ => .calm calm) rest

/-- The new ticket is read again after its commit. -/
theorem follows_book {userId ticketTypeId : Int} :
    D.Follows exec t (fun _ _ => True) (TicketService.book d userId ticketTypeId) .idle := by
  refine follows_calm governs ⟨not_false, fun _ locked => locked.elim, not_false⟩ fun _ => ?_
  refine follows_then governs .inserted (fun _ => ⟨_, .raised⟩) (fun _ => .insert) fun id => ?_
  refine follows_calm governs trivial fun clock => ?_
  refine follows_calm governs trivial fun _ => ?_
  refine follows_then governs (fun _ => .landed id) (fun _ => ⟨_, .ends trivial⟩)
    (fun _ => .commit)
    fun _ => ?_
  refine follows_then governs (fun _ => .landed id) (fun _ => ⟨_, .refresh⟩) (fun _ => .refresh)
    fun _ => ?_
  exact follows_calm governs trivial fun _ => trivial

theorem follows_compensate {e : Exn} {ticketTypeId : Int} {α : Type} :
    D.Follows exec t (fun _ _ => True)
      (TicketService.compensate d ticketTypeId e : Async α) g := by
  have rollback : Plain base (.db .rollback) := plain_of_ends trivial
  refine follows_plain governs ?_
  unfold TicketService.compensate
  split
  · refine only_then rollback fun _ => only_then (.inl trivial) fun _ => ?_
    split
    · trivial
    · trivial
  · trivial

theorem follows_request {α : Type} {request : Async α}
    (h : D.Follows exec t (fun _ _ => True) request g) :
    D.Follows exec t (fun _ _ => True) (getDb request) g := by
  have rollback : Plain base (.db .rollback) := plain_of_ends trivial
  have close : Plain base (.db .close) := plain_of_ends trivial
  exact follows_getDb (fun _ _ => True) (fun _ _ => True) h (fun _ _ _ => trivial)
    (fun _ _ _ => follows_plain governs (Program.Only.call rollback))
    fun _ _ _ => follows_plain governs (Program.Only.call close)

/-- Plain calls before the rest of a booking. -/
theorem follows_first {α β : Type} {p : Async α} {f : α → Async β}
    (only : p.Only (Plain base)) (rest : ∀ a, D.Follows exec t (fun _ _ => True) (f a) .idle) :
    D.Follows exec t (fun _ _ => True) (p >>= f) .idle := by
  refine Discipline.Follows.bind (fun _ g' => g' = .idle)
    ((follows_before governs only).mono fun outcome g' same => ?_) fun a g' same => ?_
  · cases outcome with
    | ok a => exact same
    | error e => trivial
  · subst same
    exact rest a

theorem follows_create {userId : Int} {ticketData : TicketCreate} :
    D.Follows exec t (fun _ _ => True) (TicketService.create d userId ticketData) .idle := by
  refine follows_first governs (Program.Only.call (.inl trivial)) fun first => ?_
  refine follows_first governs ?_ fun result => ?_
  · unfold TicketService.fallback
    split
    · refine only_then (.inl ⟨not_false, fun _ locked => locked.elim, not_false⟩)
        fun ticketType => ?_
      cases ticketType with
      | none => trivial
      | some row => exact only_then (.inl trivial) fun _ => Program.Only.call (.inl trivial)
    · trivial
  split
  · trivial
  refine Discipline.Follows.bind (fun _ _ => True) (Discipline.Follows.tryCatch (fun _ _ => True)
    ((follows_book governs).mono fun outcome _ _ => ?_) fun e g' _ => ?_) fun _ _ _ => trivial
  · cases outcome with
    | ok a => trivial
    | error e => trivial
  · refine (follows_compensate governs).mono fun outcome _ _ => ?_
    cases outcome with
    | ok a => trivial
    | error e => trivial

omit governs in
theorem OfCatalog.plain {cmd : Cmd} (h : OfCatalog d cmd) : Plain base cmd := by
  cases cmd with
  | db statement =>
      cases statement with
      | commit | rollback | close => exact plain_of_ends trivial
      | refreshTicket id => exact h.elim
      | insertTicket ownerId ticketTypeId => exact h.elim
      | selectTicketForUpdate id ownerId | updateTicketStatus id status | deleteTicket id
      | cancelHungTicket id threshold => exact h.elim
      | _ => exact .inl ⟨not_false, fun _ locked => locked.elim, not_false⟩
  | redis n command => exact .inl trivial
  | _ => exact h.elim

omit governs in
theorem only_deleteOld {ownerId ticketId : Int} (old : ticketId ≤ base) :
    (TicketService.delete d ownerId ticketId).Only (Plain base) := by
  refine only_then (.inl ⟨not_false, fun _ locked => locked.elim, not_false⟩) fun ticket => ?_
  cases ticket with
  | none => trivial
  | some ticket =>
      refine Program.Only.tryCatch ?_ (only_rollbackOnSQLAlchemyError (plain_of_ends trivial))
      exact only_then (.inl ⟨not_false, fun _ locked => locked.elim, not_false⟩) fun _ =>
        only_then (.inl ⟨not_false, fun _ locked => locked ▸ old, not_false⟩) fun _ =>
          only_then (plain_of_ends trivial) fun _ => only_then (.inl trivial) fun _ =>
            Program.Only.call (.inl trivial)

/-- **Every call keeps to the protocol of newcomers.** -/
theorem follows_operation {op : Operation} {ticketTypeId : Int} (deals : Deals ticketTypeId op)
    (old : ∀ ownerId ticketId, op = .delete ownerId ticketId → ticketId ≤ base) :
    D.Follows exec t (fun _ _ => True) (op.program d) .idle := by
  cases op with
  | create userId ticketData =>
      exact follows_unit (follows_request governs (follows_create governs))
  | delete ownerId ticketId =>
      exact follows_request governs (follows_plain governs (only_deleteOld (old _ _ rfl)))
  | updateType id updateData =>
      have only : (Operation.program d (.updateType id updateData)).Only (OfCatalog d) :=
        only_typeOperation trivial
      exact follows_plain governs (only.mono fun _ => OfCatalog.plain)
  | _ => exact deals.elim

end Calls

end Newcomer

/-- **Every ticket that is read again is found**, when only tickets are deleted that were there
before. -/
theorem rereads_of_run {ι : Type} [DecidableEq ι] {ops : ι → Operation} {d : Deployment}
    {w : World ι} {ticketTypeId : Int} {events : List (CallEvent ι)}
    {c : Config ι (World ι) Cmd Cmd.Resp Exn Unit}
    (deals : ∀ t, Deals ticketTypeId (ops t)) (quiet : w.db.tickets.Quiet)
    (old : ∀ t ownerId ticketId, ops t = .delete ownerId ticketId →
      ticketId ≤ w.db.tickets.issued)
    (run : Config.Run exec ⟨w, fun t => (ops t).program d⟩ events c) :
    ∀ e ∈ events, Rereads e := by
  have start : Newcomer.Welcome w.db.tickets.issued [] w fun _ : ι => .idle :=
    { firm := ⟨le_rfl, fun u id _ held => by rw [heldBy_of_quiet quiet] at held; cases held⟩
      stands := fun _ => trivial
      rereads := fun _ mem => (List.not_mem_nil mem).elim }
  obtain ⟨ghost, inv, _⟩ := Newcomer.governs.run (c := ⟨w, fun t => (ops t).program d⟩)
    (fun _ _ _ => True)
    (fun D' governs t => Newcomer.follows_operation governs (deals t) (old t)) start run
    fun _ _ => trivial
  exact inv.rereads

end TicketCore.Counter
