import TicketCore.Custody.Coherence
import TicketCore.Routing
import TicketCore.Sessions

/-!
# In which order the transactions lock rows

The transactions that book, delete, pay for and cancel tickets, with the rows that each of them has
locked when it comes to its next statement.

* `Ordered op w t cmd` says what transaction `t` of operation `op` has locked in `w` when it sends
  `cmd`. `TicketService.delete` locks the ticket type before the ticket, and the two tasks that
  cancel tickets lock tickets before ticket types.
* `ordered_of_run`: every statement of every run is sent so.
-/

namespace TicketCore

open Interleave RowStore

/-- The operations whose transactions are at issue. -/
def Transacts : Operation → Prop
  | .create .. | .delete .. | .payForTicket .. | .releaseUnpaidTicket
    _ | .reconcileHungTickets => True
  | _ => False

/-- The ticket that an operation deletes. -/
def deletes : Operation → Option Int
  | .delete _ ticketId => some ticketId
  | _ => none

namespace Locking

variable {ι : Type} [DecidableEq ι]

/-- Transaction `t` has no ticket locked. -/
def NoTickets (w : World ι) (t : ι) : Prop := ∀ id, w.db.tickets.heldBy t id = none

/-- Transaction `t` has no ticket type locked. -/
def NoTypes (w : World ι) (t : ι) : Prop := ∀ id, w.db.ticketTypes.heldBy t id = none

/-- The ticket is committed as `RESERVED`. -/
def IsReserved (w : World ι) (id : Int) : Prop :=
  ∃ ticket, w.db.tickets.row id = some ticket ∧ ticket.status = .reserved

/-- The tickets that transaction `t` has locked are `RESERVED`. -/
def OnlyReserved (w : World ι) (t : ι) : Prop :=
  ∀ id, w.db.tickets.heldBy t id ≠ none → IsReserved w id

/-- What transaction `t` has locked when it sends a statement. -/
def Ordered (op : Operation) (w : World ι) (t : ι) : Cmd → Prop
  | .db (.addTicketsSold ..) =>
      match op with
      | .create .. | .delete .. => NoTickets w t ∧ NoTypes w t
      | .releaseUnpaidTicket _ => OnlyReserved w t ∧ NoTypes w t
      | .reconcileHungTickets => OnlyReserved w t
      | _ => False
  | .db (.selectTicketForUpdate ..) => NoTickets w t ∧ NoTypes w t
  | .db (.updateTicketStatus id _) => w.db.tickets.heldBy t id ≠ none
  | .db (.deleteTicket id) => deletes op = some id ∧ NoTickets w t
  | .db (.cancelHungTicket ..) => op = .reconcileHungTickets ∧ OnlyReserved w t ∧ NoTypes w t
  | .db (.insertTicket ..) => ¬ Cancels op
  | .db (.updateTicketType ..) | .db (.deleteTicketType _) | .db (.insertTicketType ..) => False
  | _ => True

/-! ## What a transaction has locked -/

/-- What is known of the locks of a transaction. -/
inductive Grip
  | nothing
  /-- Ticket types only. -/
  | types
  /-- This ticket, which is `RESERVED`, and no ticket type. -/
  | ticket (id : Int)
  /-- This ticket, and maybe ticket types. -/
  | both (id : Int)
  /-- `RESERVED` tickets only. -/
  | tickets
  /-- `RESERVED` tickets, and maybe ticket types. -/
  | refunds
  /-- Whatever. -/
  | loose

/-- What that means for the tables. -/
def Grip.Fits (w : World ι) (t : ι) : Grip → Prop
  | .nothing => NoTickets w t ∧ NoTypes w t
  | .types => NoTickets w t
  | .ticket id => w.db.tickets.heldBy t id ≠ none ∧ OnlyReserved w t ∧ NoTypes w t
  | .both id => w.db.tickets.heldBy t id ≠ none
  | .tickets => OnlyReserved w t ∧ NoTypes w t
  | .refunds => OnlyReserved w t
  | .loose => True

variable {ops : ι → Operation} {w w' : World ι} {t u : ι} {g : Grip} {cmd : Cmd}
  {choice : Choice} {answer : Except Exn cmd.Resp}

/-- The other transactions keep their versions of ticket types. -/
theorem heldType_other (other : u ≠ t)
    (ran : exec t cmd choice w = some (answer, w')) (id : Int) :
    w'.db.ticketTypes.heldBy u id = w.db.ticketTypes.heldBy u id := by
  rcases exec_database ran with ⟨_, moved⟩ | same | same
  · exact moved.ticketTypes.heldBy_other other
  · rw [same]
    exact heldBy_commit_other other
  · rw [same]
    exact heldBy_rollback_other other

/-- The locks of the other transactions, and the tickets under them, stay as they are. -/
theorem Grip.Fits.other (h : g.Fits w u) (other : u ≠ t)
    (ran : exec t cmd choice w = some (answer, w')) : g.Fits w' u := by
  have held : ∀ id, w'.db.tickets.heldBy u id = w.db.tickets.heldBy u id := fun id =>
    Custody.heldBy_other other ran
  have tickets : NoTickets w u → NoTickets w' u := fun none id => (held id).trans (none id)
  have types : NoTypes w u → NoTypes w' u := fun none id =>
    (heldType_other other ran id).trans (none id)
  have reserved : OnlyReserved w u → OnlyReserved w' u := fun only id locked => by
    rw [held] at locked
    obtain ⟨ticket, row, status⟩ := only id locked
    exact ⟨ticket, (Custody.row_other other ran locked).trans row, status⟩
  cases g with
  | nothing => exact ⟨tickets h.1, types h.2⟩
  | types => exact tickets h
  | ticket id => exact ⟨by rw [held]; exact h.1, reserved h.2.1, types h.2.2⟩
  | both id =>
      show w'.db.tickets.heldBy u id ≠ none
      rw [held]
      exact h
  | tickets => exact ⟨reserved h.1, types h.2⟩
  | refunds => exact reserved h
  | loose => trivial

/-! ## The discipline -/

/-- The invariant. -/
structure Inv (ops : ι → Operation) (events : List (CallEvent ι)) (w : World ι)
    (ghost : ι → Grip) : Prop where
  fits : ∀ t, (ghost t).Fits w t
  ordered : ∀ e ∈ events, Ordered (ops e.thread) e.before e.thread e.cmd

/-- The discipline of transactions that lock rows in their order. -/
def discipline (ops : ι → Operation) :
    Discipline ι (World ι) Cmd Cmd.Resp Exn Choice Grip where
  guard _ := True
  inv := Inv ops

/-- A statement that is sent in its order. -/
theorem Inv.step {events : List (CallEvent ι)} {ghost : ι → Grip} {g' : Grip}
    (inv : Inv ops events w ghost) (ordered : Ordered (ops t) w t cmd)
    (ran : exec t cmd choice w = some (answer, w')) (fits : g'.Fits w' t) :
    Inv ops (events ++ [⟨t, cmd, choice, answer, w, w'⟩]) w' (Function.update ghost t g') where
  fits := (Function.forall_update_iff ghost fun u g => g.Fits w' u).mpr
    ⟨fits, fun u other => (inv.fits u).other other ran⟩
  ordered e mem := by
    rcases List.mem_append.mp mem with mem | mem
    · exact inv.ordered e mem
    · rw [List.mem_singleton.mp mem]
      exact ordered

/-- The rule for one call. -/
theorem follows_call {post : Except Exn cmd.Resp → Grip → Prop}
    (ordered : ∀ w : World ι, g.Fits w t → Ordered (ops t) w t cmd)
    (step : ∀ (w : World ι) choice answer w', g.Fits w t →
      exec t cmd choice w = some (answer, w') → ∃ g' : Grip, g'.Fits w' t ∧ post answer g') :
    (discipline ops).Follows exec t post (.call cmd) g := by
  refine Discipline.Follows.call fun events w ghost choice answer w' inv own ran _ => ?_
  have fits := inv.fits t
  rw [own] at fits
  obtain ⟨g', fits', holds⟩ := step w choice answer w' fits ran
  exact ⟨g', inv.step (ordered w fits) ran fits', holds⟩

/-- A call that leaves the database alone. -/
def Idle : Cmd → Prop
  | .db (.getTicketType _) | .db (.selectTicket ..) | .db (.hungTickets _) => True
  | .db _ => False
  | _ => True

theorem Idle.ordered {op : Operation} (idle : Idle cmd) : Ordered op w t cmd := by
  cases cmd with
  | db statement => cases statement with
      | getTicketType id | selectTicket id ownerId | hungTickets threshold => trivial
      | _ => exact idle.elim
  | _ => trivial

theorem Idle.db (idle : Idle cmd) (ran : exec t cmd choice w = some (answer, w')) :
    w'.db = w.db := by
  rcases exec_cases ran with ⟨_, _, _, _, rfl⟩ | ran
  · rfl
  cases cmd with
  | redis n command =>
      obtain ⟨_, _, _, _, rfl⟩ := Cmd.run_redis ran
      rfl
  | enqueueJob job | now =>
      cases ran
      rfl
  | handler =>
      have done : (choice.outcome, w) = (answer, w') := Option.some.inj ran
      obtain ⟨_, rfl⟩ := Prod.mk.inj done
      rfl
  | db statement =>
      obtain ⟨db', done, rfl⟩ := Cmd.run_db ran
      cases statement with
      | getTicketType id | selectTicket id ownerId | hungTickets threshold =>
          cases done
          rfl
      | _ => exact idle.elim

/-- What is known of the locks is a matter of the database. -/
theorem Grip.Fits.congr (h : g.Fits w t) (same : w'.db = w.db) : g.Fits w' t := by
  obtain ⟨db, redis, jobs⟩ := w
  obtain ⟨db', redis', jobs'⟩ := w'
  cases same
  cases g with
  | _ => exact h

/-- Calls that leave the database alone. -/
theorem follows_idle {α : Type} {p : Async α} (only : p.Only Idle) :
    (discipline ops).Follows exec t (fun _ g' => g' = g) p g := by
  refine Discipline.Follows.of_only only ?_ fun _ => rfl
  intro cmd events w ghost choice answer w' idle inv own ran _
  have inv : Inv ops events w ghost := inv
  have fits := inv.fits t
  rw [own] at fits
  exact inv.step idle.ordered ran (fits.congr (idle.db ran))

/-- A call that locks no row. -/
def Harmless : Cmd → Prop
  | .db (.addTicketsSold ..) | .db (.insertTicket ..) | .db (.selectTicketForUpdate ..)
  | .db (.updateTicketStatus ..) | .db (.deleteTicket _) | .db (.cancelHungTicket ..)
  | .db (.updateTicketType ..) | .db (.deleteTicketType _) | .db (.insertTicketType ..) => False
  | _ => True

theorem Harmless.ordered {op : Operation} (harmless : Harmless cmd) : Ordered op w t cmd := by
  cases cmd with
  | db statement => cases statement with
      | addTicketsSold id delta | insertTicket ownerId ticketTypeId
      | selectTicketForUpdate id ownerId | updateTicketStatus id status | deleteTicket id
      | cancelHungTicket id threshold | updateTicketType id data | deleteTicketType id
      | insertTicketType eventId data => exact harmless.elim
      | _ => trivial
  | _ => trivial

/-- Calls that lock no row, whatever is locked. -/
theorem follows_harmless {α : Type} {p : Async α} (only : p.Only Harmless) :
    (discipline ops).Follows exec t (fun _ _ => True) p g := by
  induction p generalizing g with
  | done outcome => trivial
  | await cmd next ih =>
      intro events w ghost choice answer w' inv _ ran _
      have inv : Inv ops events w ghost := inv
      exact ⟨.loose, inv.step only.1.ordered ran trivial, ih answer (only.2 answer)⟩

/-! ## The statements that lock rows -/

/-- A last lock, after which nothing more is asked for. -/
theorem follows_last {post : Except Exn cmd.Resp → Grip → Prop}
    (ordered : ∀ w : World ι, g.Fits w t → Ordered (ops t) w t cmd)
    (any : ∀ answer, post answer .loose) :
    (discipline ops).Follows exec t post (.call cmd) g :=
  follows_call ordered fun _ _ answer _ _ _ => ⟨.loose, trivial, any answer⟩

/-- What is known after an `UPDATE` of a ticket type. -/
def Grip.sold : Grip → Grip
  | .nothing | .types => .types
  | .ticket id | .both id => .both id
  | .tickets | .refunds => .refunds
  | .loose => .loose

theorem tickets_of_addTicketsSold {id delta : Int} {answer : Except Exn Unit}
    (ran : exec t (.db (.addTicketsSold id delta)) choice w = some (answer, w')) :
    w'.db.tickets = w.db.tickets := by
  rcases exec_cases ran with ⟨_, _, _, _, rfl⟩ | ran
  · rfl
  obtain ⟨db', done, rfl⟩ := Cmd.run_db ran
  rcases DbCmd.run_addTicketsSold done with
    ⟨_, _, rfl⟩ | ⟨_, _, _, ⟨_, _, _, rfl⟩ | ⟨_, _, _, rfl⟩⟩
  · rfl
  · rfl
  · rfl

theorem Grip.Fits.sold (h : g.Fits w t) (same : w'.db.tickets = w.db.tickets) :
    g.sold.Fits w' t := by
  have held : ∀ id, w'.db.tickets.heldBy t id = w.db.tickets.heldBy t id := fun _ => by rw [same]
  have reserved : OnlyReserved w t → OnlyReserved w' t := fun only id locked => by
    rw [held] at locked
    unfold IsReserved
    rw [same]
    exact only id locked
  cases g with
  | nothing => exact fun id => (held id).trans (h.1 id)
  | types => exact fun id => (held id).trans (h id)
  | ticket id => exact fun none => h.1 ((held id).symm.trans none)
  | both id => exact fun none => h ((held id).symm.trans none)
  | tickets => exact reserved h.1
  | refunds => exact reserved h
  | loose => trivial

/-- `UPDATE` of a ticket type. -/
theorem follows_addTicketsSold {id delta : Int} {post : Except Exn Unit → Grip → Prop}
    (ordered : ∀ w : World ι, g.Fits w t →
      Ordered (ops t) w t (.db (.addTicketsSold id delta)))
    (any : ∀ answer, post answer g.sold) :
    (discipline ops).Follows exec t post (sql (.addTicketsSold id delta)) g :=
  follows_call ordered fun _ _ answer _ fits ran =>
    ⟨g.sold, fits.sold (tickets_of_addTicketsSold ran), any answer⟩

/-- `SELECT FOR UPDATE` of a ticket, by a transaction that has locked nothing. -/
theorem follows_selectTicketForUpdate {id : Int} {ownerId : Option Int}
    {post : Except Exn (Option Ticket) → Grip → Prop} (failed : ∀ e, post (.error e) .loose)
    (absent : post (.ok none) .loose) (locked : ∀ ticket, post (.ok (some ticket))
      (if ticket.status = .reserved then .ticket id else .loose)) :
    (discipline ops).Follows exec t post (sql (.selectTicketForUpdate id ownerId)) .nothing := by
  refine follows_call (fun w none => none) fun w choice answer w' fits ran => ?_
  rcases exec_cases ran with ⟨e, _, _, rfl, _⟩ | ran
  · exact ⟨.loose, trivial, failed e⟩
  obtain ⟨db', done, rfl⟩ := Cmd.run_db ran
  rcases DbCmd.run_selectTicketForUpdate done with ⟨rfl, _⟩ | ⟨ticket, read, _, rfl, rfl⟩
  · exact ⟨.loose, trivial, absent⟩
  refine ⟨_, ?_, locked ticket⟩
  split
  · rename_i reserved
    obtain ⟨tickets, types⟩ := fits
    have known := read_issued (by rw [read]; rfl)
    have row : w.db.tickets.row id = some ticket := by
      rw [← read]
      exact (read_of_not_held (tickets id)).symm
    refine ⟨?_, fun id' held => ?_, types⟩
    · show (w.db.tickets.hold t id (some ticket)).heldBy t id ≠ none
      rw [heldBy_hold_self known]
      exact Option.some_ne_none _
    · by_cases same : id' = id
      · rw [same]
        exact ⟨ticket, hold_row.symm ▸ row, reserved⟩
      · exact (held ((heldBy_hold_of_ne same).trans (tickets id'))).elim
  · trivial

/-- One row of the garbage collector's `UPDATE`. -/
theorem follows_cancelHungTicket {id threshold : Int}
    {post : Except Exn (Option (Int × Int)) → Grip → Prop}
    (collects : ops t = .reconcileHungTickets) (any : ∀ answer, post answer .tickets) :
    (discipline ops).Follows exec t post (sql (.cancelHungTicket id threshold)) .tickets := by
  refine follows_call (fun w known => ⟨collects, known⟩) fun w choice answer w' fits ran => ?_
  refine ⟨.tickets, ?_, any answer⟩
  rcases exec_cases ran with ⟨_, _, _, _, rfl⟩ | ran
  · exact fits
  obtain ⟨db', done, rfl⟩ := Cmd.run_db ran
  rcases DbCmd.run_cancelHungTicket done with ⟨_, rfl⟩ | ⟨ticket, read, _, hung, _, rfl⟩
  · exact fits
  refine ⟨fun id' held => ?_, fits.2⟩
  show ∃ ticket, (w.db.tickets.hold t id _).row id' = some ticket ∧ ticket.status = .reserved
  rw [hold_row]
  by_cases same : id' = id
  · subst same
    cases before : w.db.tickets.heldBy t id' with
    | none => exact ⟨ticket, (read_of_not_held before).symm.trans read, hung.1⟩
    | some version => exact fits.1 id' (by rw [before]; exact Option.some_ne_none _)
  · exact fits.1 id' fun none => held ((heldBy_hold_of_ne same).trans none)

/-! ## The transactions -/

section Transactions

variable {d : Deployment} {α β : Type}

/-- Sequencing: what is known when `p` has returned. -/
theorem follows_then {p : Async β} {f : β → Async α} (middle : β → Grip → Prop)
    (h : (discipline ops).Follows exec t
      (fun outcome g' => ∀ b, outcome = .ok b → middle b g') p g)
    (rest : ∀ b g', middle b g' → (discipline ops).Follows exec t (fun _ _ => True) (f b) g') :
    (discipline ops).Follows exec t (fun _ _ => True) (p >>= f) g := by
  refine Discipline.Follows.bind middle (h.mono fun outcome g' holds => ?_) rest
  cases outcome with
  | ok b => exact holds b rfl
  | error _ => trivial

/-- Sequencing after a program that leaves the database alone. -/
theorem follows_after {p : Async β} {f : β → Async α} (only : p.Only Idle)
    (rest : ∀ b, (discipline ops).Follows exec t (fun _ _ => True) (f b) g) :
    (discipline ops).Follows exec t (fun _ _ => True) (p >>= f) g := by
  refine follows_then (fun _ g' => g' = g)
    ((follows_idle only).mono fun _ _ same _ _ => same) fun b g' same => ?_
  rw [same]
  exact rest b

/-- A `try` block whose handler locks no row. -/
theorem follows_try {p : Async α} {handler : Exn → Async α}
    (h : (discipline ops).Follows exec t (fun _ _ => True) p g)
    (handles : ∀ e, (handler e).Only Harmless) :
    (discipline ops).Follows exec t (fun _ _ => True) (tryCatch p handler) g := by
  refine Discipline.Follows.tryCatch (fun _ _ => True) (h.mono fun outcome _ _ => ?_) fun e _ _ =>
    follows_harmless (handles e)
  cases outcome with
  | ok _ => trivial
  | error _ => trivial

/-- A session that is closed at last. -/
theorem follows_task {p : Async α}
    (h : (discipline ops).Follows exec t (fun _ _ => True) p g) :
    (discipline ops).Follows exec t (fun _ _ => True) (withSession p) g :=
  follows_withSession (fun _ _ => True) h fun _ _ _ =>
    follows_harmless (Program.Only.call (by exact trivial))

/-- A request in its session. -/
theorem follows_request {p : Async α}
    (h : (discipline ops).Follows exec t (fun _ _ => True) p g) :
    (discipline ops).Follows exec t (fun _ _ => True) (getDb p) g :=
  follows_task (follows_try h fun e => only_rollback trivial e)

/-- `book` locks the ticket type first, and then inserts. -/
theorem follows_book {userId ticketTypeId : Int} {ticketData : TicketCreate}
    (here : ops t = .create userId ticketData) :
    (discipline ops).Follows exec t (fun _ _ => True) (TicketService.book d userId ticketTypeId)
      .nothing := by
  refine follows_then (fun _ g' => g' = .types)
    (follows_addTicketsSold (fun w none => ?_) fun _ _ _ => rfl) ?_
  · show Ordered (ops t) w t _
    rw [here]
    exact none
  rintro _ _ rfl
  refine follows_then (fun _ _ => True) (follows_last (fun w _ => ?_) fun _ _ _ => trivial)
    fun id g' _ => follows_harmless ?_
  · show ¬ Cancels (ops t)
    rw [here]
    exact not_false
  · exact only_then trivial fun _ => only_then trivial fun _ => only_then trivial fun _ =>
      only_then trivial fun _ => only_then trivial fun _ => trivial

theorem follows_create {userId : Int} {ticketData : TicketCreate}
    (here : ops t = .create userId ticketData) :
    (discipline ops).Follows exec t (fun _ _ => True) (TicketService.create d userId ticketData)
      .nothing := by
  refine follows_after (Program.Only.call (by exact trivial)) fun first => ?_
  refine follows_after ?_ fun result => ?_
  · unfold TicketService.fallback
    split
    · refine only_then trivial fun ticketType => ?_
      cases ticketType with
      | none => trivial
      | some row => exact only_then trivial fun _ => Program.Only.call (by exact trivial)
    · trivial
  split
  · trivial
  refine follows_then (fun _ _ => True) ((follows_try (follows_book here) fun e => ?_).mono
    fun _ _ _ _ _ => trivial) fun _ _ _ => trivial
  unfold TicketService.compensate
  split
  · refine only_then trivial fun _ => only_then trivial fun _ => ?_
    split
    · trivial
    · trivial
  · trivial

/-- `delete` locks the ticket type first, and then the ticket. -/
theorem follows_delete {ownerId ticketId : Int} (here : ops t = .delete ownerId ticketId) :
    (discipline ops).Follows exec t (fun _ _ => True) (TicketService.delete d ownerId ticketId)
      .nothing := by
  refine follows_after (Program.Only.call (by exact trivial)) fun ticket => ?_
  cases ticket with
  | none => trivial
  | some ticket =>
      refine follows_try ?_ fun e => only_rollbackOnSQLAlchemyError trivial e
      refine follows_then (fun _ g' => g' = .types)
        (follows_addTicketsSold (fun w none => ?_) fun _ _ _ => rfl) ?_
      · show Ordered (ops t) w t _
        rw [here]
        exact none
      rintro _ _ rfl
      refine follows_then (fun _ _ => True) (follows_last (fun w none => ?_) fun _ _ _ => trivial)
        fun _ g' _ => follows_harmless ?_
      · refine ⟨?_, none⟩
        rw [here]
        rfl
      · exact only_then trivial fun _ => only_then trivial fun _ =>
          Program.Only.call (by exact trivial)

/-- `pay_for_ticket` locks its ticket and nothing else. -/
theorem follows_payForTicket {ticketId ownerId : Int} :
    (discipline ops).Follows exec t (fun _ _ => True)
      (PaymentService.payForTicket d ticketId ownerId) .nothing := by
  refine follows_then (fun ticket g' => ∀ found, ticket = some found →
      found.status = .reserved → g' = .ticket ticketId)
    (follows_selectTicketForUpdate nofun ?_ ?_) fun ticket g' locked => ?_
  · rintro _ ⟨⟩ _ ⟨⟩
  · rintro ticket _ ⟨⟩ _ ⟨⟩ reserved
    exact if_pos reserved
  cases ticket with
  | none => trivial
  | some ticket =>
      dsimp only
      split
      · trivial
      · trivial
      · rename_i reserved
        rw [locked ticket rfl reserved]
        refine follows_then (fun _ _ => True) ((follows_try ?_ fun e =>
          only_rollbackOnSQLAlchemyError trivial e).mono fun _ _ _ _ _ => trivial)
          fun _ _ _ => trivial
        refine follows_then (fun _ _ => True) (follows_last (fun w known => known.1)
          fun _ _ _ => trivial) fun _ g' _ => follows_harmless ?_
        exact only_then trivial fun _ => only_then trivial fun _ => only_then trivial
          fun _ => trivial

/-- `release_unpaid_ticket` locks the ticket first, and then its type. -/
theorem follows_releaseUnpaidTicket {ticketId : Int}
    (here : ops t = .releaseUnpaidTicket ticketId) :
    (discipline ops).Follows exec t (fun _ _ => True) (Worker.releaseUnpaidTicket d ticketId)
      .nothing := by
  refine follows_task (follows_try ?_ fun e => only_rollback trivial e)
  refine follows_then (fun ticket g' => ∀ found, ticket = some found →
      found.status = .reserved → g' = .ticket ticketId)
    (follows_selectTicketForUpdate nofun ?_ ?_) fun ticket g' locked => ?_
  · rintro _ ⟨⟩ _ ⟨⟩
  · rintro ticket _ ⟨⟩ _ ⟨⟩ reserved
    exact if_pos reserved
  cases ticket with
  | none => trivial
  | some ticket =>
      dsimp only
      split
      · trivial
      · rename_i reserved
        rw [locked ticket rfl (not_not.mp reserved)]
        refine follows_then (fun _ g' => g' = .both ticketId)
          (follows_addTicketsSold (fun w known => ?_) fun _ _ _ => rfl) ?_
        · show Ordered (ops t) w t _
          rw [here]
          exact known.2
        rintro _ _ rfl
        refine follows_after (Program.Only.call (by exact trivial)) fun _ => ?_
        exact follows_then (fun _ _ => True) (follows_last (fun w known => known)
          fun _ _ _ => trivial) fun _ g' _ =>
            follows_harmless (Program.Only.call (by exact trivial))

/-- The tickets of the garbage collector are locked one after another. -/
theorem follows_cancelHungTickets {threshold : Int} (here : ops t = .reconcileHungTickets)
    (ids : List Int) :
    (discipline ops).Follows exec t (fun _ g' => g' = .tickets)
      (Worker.cancelHungTickets threshold ids) .tickets := by
  induction ids with
  | nil => rfl
  | cons id ids ih =>
      refine Discipline.Follows.bind (fun _ g' => g' = .tickets)
        (follows_cancelHungTicket here fun answer => ?_) ?_
      · cases answer with
        | ok _ => rfl
        | error _ => rfl
      rintro row _ rfl
      refine Discipline.Follows.bind (fun _ g' => g' = .tickets)
        (ih.mono fun outcome _ same => ?_) fun _ _ same => same
      cases outcome with
      | ok _ => exact same
      | error _ => exact same

/-- The start of its `UPDATE` leaves it with no row locked, and so with `RESERVED` tickets only. -/
theorem follows_hungTickets {threshold : Int} {post : Except Exn (List Int) → Grip → Prop}
    (any : ∀ answer, post answer .tickets) :
    (discipline ops).Follows exec t post (sql (.hungTickets threshold)) .nothing := by
  refine follows_call (fun _ _ => trivial) fun w choice answer w' fits ran => ?_
  obtain ⟨tickets, types⟩ := fits.congr (Idle.db (by exact trivial) ran)
  exact ⟨.tickets, ⟨fun id held => (held (tickets id)).elim, types⟩, any answer⟩

/-- The garbage collector locks its tickets first, and then their types. -/
theorem follows_reconcile {threshold : Int} (here : ops t = .reconcileHungTickets) :
    (discipline ops).Follows exec t (fun _ _ => True) (Worker.reconcile d threshold) .nothing := by
  refine follows_then (fun _ g' => g' = .tickets) (follows_hungTickets fun _ _ _ => rfl) ?_
  rintro ids _ rfl
  refine follows_then (fun _ g' => g' = .tickets)
    ((follows_cancelHungTickets here ids).mono fun _ _ same _ _ => same) ?_
  rintro rows _ rfl
  split
  · trivial
  refine follows_then (fun _ _ => True) ?_ fun _ g' _ => follows_harmless ?_
  · -- the first type is locked with the tickets, every later one with types as well
    refine Discipline.Follows.forM (fun _ g' => g'.sold = .refunds) (fun row rest g' known => ?_)
      (fun _ _ _ _ => trivial) rfl
    refine follows_addTicketsSold (fun w fits => ?_) fun answer => ?_
    · show Ordered (ops t) w t _
      rw [here]
      cases g' with
      | tickets => exact fits.1
      | refunds => exact fits
      | nothing | types | ticket id | both id | loose => cases known
    · rw [known]
      cases answer with
      | ok _ => rfl
      | error _ => exact fun _ _ => trivial
  · refine Program.Only.bind (Program.Only.forM fun row _ => Program.Only.call (by exact trivial))
      fun _ => Program.Only.call (by exact trivial)

theorem follows_reconcileHungTickets (here : ops t = .reconcileHungTickets) :
    (discipline ops).Follows exec t (fun _ _ => True) (Worker.reconcileHungTickets d) .nothing :=
  follows_after (Program.Only.call (by exact trivial)) fun _ =>
    follows_task (follows_reconcile here)

/-- Every transaction keeps to its order. -/
theorem follows_operation (transacts : Transacts (ops t)) :
    (discipline ops).Follows exec t (fun _ _ => True) ((ops t).program d) .nothing := by
  cases here : ops t with
  | create userId ticketData =>
      exact follows_unit (follows_request (follows_create here))
  | delete ownerId ticketId => exact follows_request (follows_delete here)
  | payForTicket ticketId ownerId =>
      exact follows_unit (follows_request follows_payForTicket)
  | releaseUnpaidTicket ticketId => exact follows_releaseUnpaidTicket here
  | reconcileHungTickets => exact follows_reconcileHungTickets here
  | _ =>
      rw [here] at transacts
      exact transacts.elim

end Transactions

/-- **Every statement of a run is sent in its order.** -/
theorem ordered_of_run {d : Deployment} {c : Config ι (World ι) Cmd Cmd.Resp Exn Unit}
    {events : List (CallEvent ι)} (transacts : ∀ t, Transacts (ops t))
    (tickets : w.db.tickets.Quiet) (types : w.db.ticketTypes.Quiet)
    (run : Config.Run exec ⟨w, fun t => (ops t).program d⟩ events c) :
    ∀ e ∈ events, Ordered (ops e.thread) e.before e.thread e.cmd := by
  have start : (discipline ops).Holds exec (fun _ _ _ => True) []
      ⟨w, fun t => (ops t).program d⟩ := by
    refine ⟨fun _ => .nothing, ⟨fun t => ⟨fun _ => heldBy_of_quiet tickets, fun _ =>
      heldBy_of_quiet types⟩, fun _ mem => (List.not_mem_nil mem).elim⟩, fun t =>
      follows_operation (transacts t)⟩
  obtain ⟨_, inv, _⟩ := start.run run fun _ _ => trivial
  exact inv.ordered

end Locking

end TicketCore
