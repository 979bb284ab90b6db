import TicketCore.Interleave.Waits
import TicketCore.LifeCycle
import TicketCore.Overselling
import TicketCore.RowLocks
import Mathlib.Data.Fin.VecNotation

/-!
# Deadlocks between transactions

Transactions that book, delete, pay for and cancel tickets, and wait for each other's row locks.

* `WaitsFor c t u`: the next statement of `t` has to wait, and asks for a row that `u` has locked.
* `Crosses` singles out the steps by which the deletion of a `RESERVED` ticket and a task that
  cancels it each come to hold what the other one needs next: `TicketService.delete` locks the
  ticket type first, the tasks lock the ticket first.
* `no_deadlock_of_uncrossed`: without such a step there is no deadlock, in any state of any run.
* `delete_and_release_deadlock`: with one there is.
-/

namespace TicketCore

open Interleave RowStore Locking

variable {ι : Type} [DecidableEq ι] {ops : ι → Operation} {w w' : World ι} {t u : ι}
  {d : Deployment} {events : List (CallEvent ι)} {c : Config ι (World ι) Cmd Cmd.Resp Exn Unit}

/-- Transaction `u` has a row locked that the statement asks for. -/
def Obstructs (w : World ι) (u : ι) (statement : DbCmd) : Prop :=
  (∃ id, statement.locksTicket id ∧ w.db.tickets.heldBy u id ≠ none) ∨
    ∃ id, statement.locksType id ∧ w.db.ticketTypes.heldBy u id ≠ none

/-- The next statement of `t` has to wait, and asks for a row that `u` has locked. -/
def WaitsFor (c : Config ι (World ι) Cmd Cmd.Resp Exn Unit) (t u : ι) : Prop :=
  u ≠ t ∧ ∃ statement next, c.threads t = .await (.db statement) next ∧
    (∀ clock order, statement.run t clock order c.shared.db = none) ∧
    Obstructs c.shared u statement

/-- A cycle of transactions each of which waits for a row that the next one has locked. -/
def Deadlock (c : Config ι (World ι) Cmd Cmd.Resp Exn Unit) : Prop :=
  ∃ t, Relation.TransGen (WaitsFor c) t t

/-! ## Steps that cross -/

/-- A task that cancels tickets has this one locked, and it is `RESERVED`. -/
def Cancelling (ops : ι → Operation) (w : World ι) (u : ι) (id : Int) : Prop :=
  Cancels (ops u) ∧ w.db.tickets.heldBy u id ≠ none ∧ IsReserved w id

/-- A deletion of this ticket has its ticket type locked. -/
def Deleting (ops : ι → Operation) (w : World ι) (t : ι) (id : Int) : Prop :=
  deletes (ops t) = some id ∧ ¬ NoTypes w t

/-- A deletion takes its first lock while a task is cancelling its ticket, or a task that cancels
tickets comes for a `RESERVED` ticket whose deletion has taken its first lock. -/
def Crosses (ops : ι → Operation) (e : CallEvent ι) : Prop :=
  match e.cmd with
  | .db (.addTicketsSold ..) =>
      ∃ id u, deletes (ops e.thread) = some id ∧ Cancelling ops e.before u id
  | .db (.selectTicketForUpdate id _) | .db (.cancelHungTicket id _) =>
      Cancels (ops e.thread) ∧ IsReserved e.before id ∧ ∃ t, Deleting ops e.before t id
  | _ => False

/-- A deletion and a task that cancels tickets have crossed. -/
def Crossed (ops : ι → Operation) (w : World ι) : Prop :=
  ∃ t u id, Deleting ops w t id ∧ Cancelling ops w u id

section Step

variable {v : ι} {cmd : Cmd} {choice : Choice} {answer : Except Exn cmd.Resp}

/-- What a call can do to the database. -/
theorem exec_statement (ran : exec v cmd choice w = some (answer, w')) :
    w'.db = w.db ∨ ∃ statement, cmd = .db statement ∧
      (statement.Moved v w.db w'.db ∨ w'.db = w.db.commit v ∨ w'.db = w.db.rollback v) := by
  rcases exec_cases ran with ⟨_, _, _, _, rfl⟩ | ran
  · exact .inl rfl
  cases cmd with
  | redis n command =>
      obtain ⟨_, _, _, _, rfl⟩ := Cmd.run_redis ran
      exact .inl rfl
  | enqueueJob job | now =>
      cases ran
      exact .inl rfl
  | handler =>
      have done : (choice.outcome, w) = (answer, w') := Option.some.inj ran
      obtain ⟨_, rfl⟩ := Prod.mk.inj done
      exact .inl rfl
  | db statement =>
      obtain ⟨db', done, rfl⟩ := Cmd.run_db ran
      refine .inr ⟨statement, rfl, ?_⟩
      by_cases ends : statement.Ends
      · exact .inr (ends.run done)
      · exact .inl (DbCmd.moved ends done)

/-- A row that a transaction has locked now, and had not locked before, is one that its statement
locks or inserts. -/
theorem locks_of_heldBy {Row : Type} {s s' : RowStore ι Row} {ids : Int → Prop}
    {grows : Prop} {id : Int} (moves : s.Moves v ids grows s') (free : s.heldBy v id = none)
    (held : s'.heldBy v id ≠ none) :
    ids id ∨ grows := by
  cases moves with
  | refl | skip _ => exact (held free).elim
  | insert r new => exact .inr new
  | @hold id' version locks _ _ =>
      by_cases same : id = id'
      · exact .inl (same ▸ locks)
      · exact (held ((heldBy_hold_of_ne same).trans free)).elim

theorem new_ticket {id : Int} (ran : exec v cmd choice w = some (answer, w'))
    (free : w.db.tickets.heldBy v id = none) (held : w'.db.tickets.heldBy v id ≠ none) :
    ∃ statement, cmd = .db statement ∧
      (statement.locksTicket id ∨ statement.InsertsTicket) := by
  rcases exec_statement ran with same | ⟨statement, rfl, moved | same | same⟩
  · rw [same] at held
    exact (held free).elim
  · exact ⟨statement, rfl, locks_of_heldBy moved.tickets free held⟩
  · rw [same] at held
    exact (held heldBy_commit_self).elim
  · rw [same] at held
    exact (held heldBy_rollback_self).elim

theorem new_type {id : Int} (ran : exec v cmd choice w = some (answer, w'))
    (free : w.db.ticketTypes.heldBy v id = none) (held : w'.db.ticketTypes.heldBy v id ≠ none) :
    ∃ statement, cmd = .db statement ∧ (statement.locksType id ∨ statement.InsertsType) := by
  rcases exec_statement ran with same | ⟨statement, rfl, moved | same | same⟩
  · rw [same] at held
    exact (held free).elim
  · exact ⟨statement, rfl, locks_of_heldBy moved.ticketTypes free held⟩
  · rw [same] at held
    exact (held heldBy_commit_self).elim
  · rw [same] at held
    exact (held heldBy_rollback_self).elim

/-- A task that cancels tickets comes to lock a ticket by a step that crosses each deletion of
it. -/
theorem crosses_of_new_ticket {id : Int} (ordered : Ordered (ops v) w v cmd)
    (ran : exec v cmd choice w = some (answer, w')) (cancels : Cancels (ops v))
    (free : w.db.tickets.heldBy v id = none) (held : w'.db.tickets.heldBy v id ≠ none)
    (reserved : IsReserved w id) (deleting : Deleting ops w t id) :
    Crosses ops (⟨v, cmd, choice, answer, w, w'⟩ : CallEvent ι) := by
  obtain ⟨statement, rfl, locks⟩ := new_ticket ran free held
  cases statement with
  | selectTicketForUpdate id' ownerId | cancelHungTicket id' threshold =>
      obtain rfl : id = id' := locks.resolve_right not_false
      exact ⟨cancels, reserved, t, deleting⟩
  | updateTicketStatus id' status =>
      obtain rfl : id = id' := locks.resolve_right not_false
      exact (ordered free).elim
  | deleteTicket id' =>
      have deletion : deletes (ops v) = some id' := ordered.1
      cases op : ops v with
      | delete ownerId ticketId =>
          rw [op] at cancels
          exact cancels.elim
      | _ =>
          rw [op] at deletion
          cases deletion
  | insertTicket ownerId ticketTypeId => exact (ordered cancels).elim
  | _ => exact (locks.elim (fun no => no) fun no => no).elim

/-- A deletion comes to lock a ticket type by a step that crosses whoever is cancelling its
ticket. -/
theorem crosses_of_new_type {id typeId : Int} (ordered : Ordered (ops v) w v cmd)
    (ran : exec v cmd choice w = some (answer, w')) (deletion : deletes (ops v) = some id)
    (free : w.db.ticketTypes.heldBy v typeId = none)
    (held : w'.db.ticketTypes.heldBy v typeId ≠ none) (cancelling : Cancelling ops w u id) :
    Crosses ops (⟨v, cmd, choice, answer, w, w'⟩ : CallEvent ι) := by
  obtain ⟨statement, rfl, locks⟩ := new_type ran free held
  cases statement with
  | addTicketsSold id' delta => exact ⟨id, u, deletion, cancelling⟩
  | updateTicketType id' data | deleteTicketType id' | insertTicketType eventId data =>
      exact ordered.elim
  | _ => exact (locks.elim (fun no => no) fun no => no).elim

/-- A ticket that is locked after a step has not been committed by it. -/
theorem row_of_heldBy {id : Int} (ran : exec v cmd choice w = some (answer, w'))
    (held : w'.db.tickets.heldBy u id ≠ none) : w'.db.tickets.row id = w.db.tickets.row id := by
  by_cases same : u = v
  · subst same
    rcases exec_statement ran with same | ⟨statement, rfl, moved | same | same⟩
    · rw [same]
    · exact congrFun moved.tickets.row id
    · rw [same] at held
      exact (held heldBy_commit_self).elim
    · rw [same] at held
      exact (held heldBy_rollback_self).elim
  · rw [Custody.heldBy_other same ran] at held
    exact Custody.row_other same ran held

/-- What is crossed after a step that does not cross was crossed before. -/
theorem Crossed.before (ordered : Ordered (ops v) w v cmd)
    (ran : exec v cmd choice w = some (answer, w'))
    (clear : ¬ Crosses ops (⟨v, cmd, choice, answer, w, w'⟩ : CallEvent ι))
    (crossed : Crossed ops w') : Crossed ops w := by
  obtain ⟨t, u, id, ⟨deletion, types⟩, cancels, held, ticket, row, status⟩ := crossed
  have apart : t ≠ u := by
    rintro rfl
    cases op : ops t with
    | delete ownerId ticketId =>
        rw [op] at cancels
        exact cancels
    | _ =>
        rw [op] at deletion
        cases deletion
  have reserved : IsReserved w id := ⟨ticket, (row_of_heldBy ran held).symm.trans row, status⟩
  obtain ⟨typeId, locked⟩ := not_forall.mp types
  by_cases mine : u = v
  · -- the task has moved, and the deletion has its type locked as before
    subst mine
    rw [heldType_other apart ran] at locked
    have deleting : Deleting ops w t id := ⟨deletion, not_forall.mpr ⟨typeId, locked⟩⟩
    refine ⟨t, u, id, deleting, cancels, fun free => clear ?_, reserved⟩
    exact crosses_of_new_ticket ordered ran cancels free held reserved deleting
  · rw [Custody.heldBy_other mine ran] at held
    have cancelling : Cancelling ops w u id := ⟨cancels, held, reserved⟩
    refine ⟨t, u, id, ⟨deletion, not_forall.mpr ⟨typeId, fun free => ?_⟩⟩, cancelling⟩
    by_cases deleter : t = v
    · subst deleter
      exact clear (crosses_of_new_type ordered ran deletion free locked cancelling)
    · exact locked ((heldType_other deleter ran typeId).trans free)

end Step

/-- **A run without a step that crosses reaches no state that is crossed.** -/
theorem uncrossed_of_run (transacts : ∀ t, Transacts (ops t)) (tickets : w.db.tickets.Quiet)
    (types : w.db.ticketTypes.Quiet)
    (run : Config.Run exec ⟨w, fun t => (ops t).program d⟩ events c)
    (clear : ∀ e ∈ events, ¬ Crosses ops e) : ¬ Crossed ops c.shared := by
  have ordered := ordered_of_run transacts tickets types run
  induction run with
  | nil =>
      rintro ⟨t, u, id, _, _, held, _⟩
      exact held (heldBy_of_quiet tickets)
  | @snoc events e _ _ before step ih =>
      have last : e ∈ events ++ [e] := List.mem_append_right _ (List.mem_singleton_self _)
      intro crossed
      refine ih (fun e mem => clear e (List.mem_append_left _ mem))
        (fun e mem => ordered e (List.mem_append_left _ mem)) ?_
      cases step with
      | mk poised ran => exact crossed.before (ordered _ last) ran (clear _ last)

/-! ## Cycles -/

/-- A statement that waits is one that is sent in its order: it could as well fail now. -/
theorem ordered_of_poised (transacts : ∀ t, Transacts (ops t)) (tickets : w.db.tickets.Quiet)
    (types : w.db.ticketTypes.Quiet)
    (run : Config.Run exec ⟨w, fun t => (ops t).program d⟩ events c) {statement : DbCmd}
    {next : Except Exn statement.Resp → Async Unit}
    (poised : c.threads t = .await (.db statement) next) (asks : Obstructs c.shared u statement) :
    Ordered (ops t) c.shared t (.db statement) := by
  have fails : exec t (.db statement) { fault := some .value } c.shared =
      some (.error .value, c.shared) := by
    cases statement with
    | close => exact (asks.elim (fun ⟨_, no, _⟩ => no) fun ⟨_, no, _⟩ => no).elim
    | _ => rfl
  exact ordered_of_run transacts tickets types (.snoc run (.mk poised fails)) _
    (List.mem_append_right _ (List.mem_singleton_self _))

/-- How far a waiting transaction has come, by what it waits with: on a cycle a number is followed
by a smaller one. -/
def rank (ops : ι → Operation) (c : Config ι (World ι) Cmd Cmd.Resp Exn Unit) (t : ι) : Nat :=
  match c.threads t, ops t with
  | .await (.db (.addTicketsSold ..)) _, .reconcileHungTickets => 1
  | .await (.db (.addTicketsSold ..)) _, _ => 2
  | .await (.db (.cancelHungTicket ..)) _, _ => 3
  | _, _ => 0

/-- A transaction that waits for `u`, with rows locked that others wait for. -/
inductive Knot (ops : ι → Operation) (events : List (CallEvent ι))
    (c : Config ι (World ι) Cmd Cmd.Resp Exn Unit) (t u : ι) : Nat → Prop
  /-- A deletion that waits for its ticket. -/
  | deleting {id : Int} : Deleting ops c.shared t id → NoTickets c.shared t →
      c.shared.db.tickets.heldBy u id ≠ none → Knot ops events c t u 0
  /-- The garbage collector, which waits for a ticket type. -/
  | refunding {id : Int} : ops t = .reconcileHungTickets → c.InFlight events t →
      OnlyReserved c.shared t → c.shared.db.ticketTypes.heldBy u id ≠ none →
      Knot ops events c t u 1
  /-- The timeout of a ticket, which waits for its type. -/
  | releasing {id : Int} : Cancels (ops t) → OnlyReserved c.shared t → NoTypes c.shared t →
      c.shared.db.ticketTypes.heldBy u id ≠ none → Knot ops events c t u 2
  /-- The garbage collector, which waits for a ticket. -/
  | collecting {id : Int} : ops t = .reconcileHungTickets → c.InFlight events t →
      OnlyReserved c.shared t → NoTypes c.shared t →
      c.shared.db.tickets.heldBy u id ≠ none →
      Knot ops events c t u 3

/-- A garbage collector that waits for a row is in flight: it has asked for the time before. -/
theorem inFlight_of_poised (run : Config.Run exec ⟨w, fun t => (ops t).program d⟩ events c)
    (collects : ops t = .reconcileHungTickets) {statement : DbCmd}
    {next : Except Exn statement.Resp → Async Unit}
    (poised : c.threads t = .await (.db statement) next) : c.InFlight events t := by
  refine ⟨not_forall_not.mp fun idle => ?_, ?_⟩
  · have begin : c.threads t = (ops t).program d :=
      run.not_begun fun e mem same => idle e ⟨mem, same⟩
    rw [poised, collects] at begin
    cases begin
  · unfold Config.result
    rw [poised]

/-- A transaction with a row locked has a ticket or a ticket type locked. -/
theorem holds_of_waited (waited : ∃ z, WaitsFor c z t) (tickets : NoTickets c.shared t) :
    ¬ NoTypes c.shared t := by
  obtain ⟨z, _, statement, _, _, _, ⟨id, _, held⟩ | ⟨id, _, held⟩⟩ := waited
  · exact (held (tickets id)).elim
  · exact fun types => held (types id)

/-- What waits on a cycle. -/
theorem knot_of_waits (transacts : ∀ t, Transacts (ops t)) (tickets : w.db.tickets.Quiet)
    (types : w.db.ticketTypes.Quiet)
    (run : Config.Run exec ⟨w, fun t => (ops t).program d⟩ events c) (waits : WaitsFor c t u)
    (waited : ∃ z, WaitsFor c z t) : Knot ops events c t u (rank ops c t) := by
  obtain ⟨other, statement, next, poised, _, asks⟩ := waits
  have ordered := ordered_of_poised transacts tickets types run poised asks
  have busy := holds_of_waited waited
  cases statement with
  | addTicketsSold id delta =>
      obtain ⟨id, rfl, held⟩ := asks.resolve_left fun ⟨_, no, _⟩ => no
      have ordered : Ordered (ops t) c.shared t (.db (.addTicketsSold id delta)) := ordered
      unfold rank
      rw [poised]
      cases op : ops t with
      | create userId ticketData | delete ownerId ticketId =>
          rw [op] at ordered
          exact (busy ordered.1 ordered.2).elim
      | releaseUnpaidTicket ticketId =>
          rw [op] at ordered
          exact .releasing (by rw [op]; trivial) ordered.1 ordered.2 held
      | reconcileHungTickets =>
          rw [op] at ordered
          exact .refunding op (inFlight_of_poised run op poised) ordered held
      | _ =>
          rw [op] at ordered
          exact ordered.elim
  | selectTicketForUpdate id ownerId =>
      obtain ⟨none, free⟩ := ordered
      exact (busy none free).elim
  | updateTicketStatus id status =>
      obtain ⟨_, rfl, held⟩ := asks.resolve_right fun ⟨_, no, _⟩ => no
      obtain ⟨version, mine⟩ := Option.ne_none_iff_exists'.mp ordered
      exact (held (heldBy_none_of_ne other mine)).elim
  | deleteTicket id =>
      obtain ⟨_, rfl, held⟩ := asks.resolve_right fun ⟨_, no, _⟩ => no
      obtain ⟨deletion, none⟩ := ordered
      unfold rank
      rw [poised]
      exact .deleting ⟨deletion, busy none⟩ none held
  | cancelHungTicket id threshold =>
      obtain ⟨_, rfl, held⟩ := asks.resolve_right fun ⟨_, no, _⟩ => no
      obtain ⟨collects, reserved, free⟩ := ordered
      unfold rank
      rw [poised]
      exact .collecting collects (inFlight_of_poised run collects poised) reserved free held
  | updateTicketType id data | deleteTicketType id => exact ordered.elim
  | _ => exact (asks.elim (fun ⟨_, no, _⟩ => no) fun ⟨_, no, _⟩ => no).elim

/-- **The rank falls.** The only way back, from a deletion to a task that has its ticket locked, is
closed: the two would have crossed. -/
theorem Knot.lt {v : ι} {n m : Nat} (uncrossed : ¬ Crossed ops c.shared)
    (single : ∀ t u, ops t = .reconcileHungTickets → ops u = .reconcileHungTickets →
      c.InFlight events t → c.InFlight events u → t = u)
    (other : u ≠ t) (first : Knot ops events c t u n) (second : Knot ops events c u v m) :
    m < n := by
  have collector : ∀ {x : ι}, ops x = .reconcileHungTickets → Cancels (ops x) := fun op => by
    rw [op]
    trivial
  cases first with
  | deleting deletion none held =>
      refine (uncrossed ⟨t, u, _, deletion, ?_⟩).elim
      cases second with
      | deleting _ free _ => exact (held (free _)).elim
      | refunding op _ reserved _ => exact ⟨collector op, held, reserved _ held⟩
      | releasing cancels reserved _ _ => exact ⟨cancels, held, reserved _ held⟩
      | collecting op _ reserved _ _ => exact ⟨collector op, held, reserved _ held⟩
  | refunding op flies _ held =>
      cases second with
      | deleting => exact Nat.zero_lt_one
      | refunding op' flies' _ _ => exact (other (single u t op' op flies' flies)).elim
      | releasing _ _ free _ => exact (held (free _)).elim
      | collecting _ _ _ free _ => exact (held (free _)).elim
  | releasing _ _ _ held =>
      cases second with
      | deleting => exact Nat.zero_lt_two
      | refunding => exact Nat.one_lt_two
      | releasing _ _ free _ => exact (held (free _)).elim
      | collecting _ _ _ free _ => exact (held (free _)).elim
  | collecting op flies _ _ held =>
      cases second with
      | deleting _ free _ => exact (held (free _)).elim
      | refunding op' flies' _ _ => exact (other (single u t op' op flies' flies)).elim
      | releasing => exact Nat.lt_succ_self 2
      | collecting op' flies' _ _ _ => exact (other (single u t op' op flies' flies)).elim

/-- **Transactions that do not cross do not deadlock**, in any state of any run with at most one
garbage collector in flight. -/
theorem no_deadlock_of_uncrossed (transacts : ∀ t, Transacts (ops t))
    (tickets : w.db.tickets.Quiet) (types : w.db.ticketTypes.Quiet)
    (run : Config.Run exec ⟨w, fun t => (ops t).program d⟩ events c)
    (single : ∀ t u, ops t = .reconcileHungTickets → ops u = .reconcileHungTickets →
      c.InFlight events t → c.InFlight events u → t = u)
    (clear : ∀ e ∈ events, ¬ Crosses ops e) : ¬ Deadlock c := by
  have uncrossed := uncrossed_of_run transacts tickets types run clear
  rintro ⟨t, cycle⟩
  refine not_transGen_self_of_rank (rank ops c) (fun a b waits before after => ?_) t cycle
  obtain ⟨_, next⟩ := after
  exact Knot.lt uncrossed single waits.1
    (knot_of_waits transacts tickets types run waits before)
    (knot_of_waits transacts tickets types run next ⟨a, waits⟩)

/-! ## A deletion and a timeout -/

/-- Transaction `t` has to wait for a row that it is about to delete or update and `u` has
locked. -/
def waiting (c : Config ι (World ι) Cmd Cmd.Resp Exn Unit) (t u : ι) : Bool :=
  match c.threads t with
  | .await (.db (.deleteTicket id)) _ =>
      (c.shared.db.tickets.read t id).isSome && (c.shared.db.tickets.heldBy u id).isSome
  | .await (.db (.addTicketsSold id _)) _ =>
      (c.shared.db.ticketTypes.read t id).isSome && (c.shared.db.ticketTypes.heldBy u id).isSome
  | _ => false

theorem not_free_of_heldBy {Row : Type} {s : RowStore ι Row} {id : Int} (other : u ≠ t)
    (held : (s.heldBy u id).isSome) : ¬ s.Free t id := by
  obtain ⟨version, held⟩ := Option.isSome_iff_exists.mp held
  exact fun free => other (free (u, version) (heldBy_eq_some.mp held))

theorem waitsFor_of_waiting (other : u ≠ t) (h : waiting c t u) : WaitsFor c t u := by
  unfold waiting at h
  split at h
  · rename_i id next poised
    obtain ⟨read, held⟩ := Bool.and_eq_true_iff.mp h
    obtain ⟨ticket, read⟩ := Option.isSome_iff_exists.mp read
    refine ⟨other, _, next, poised, fun clock order => ?_, .inl ⟨id, rfl, ?_⟩⟩
    · simp only [DbCmd.run, Database.deleteTicket, read, if_neg (not_free_of_heldBy other held),
        Option.map_none]
    · exact Option.isSome_iff_ne_none.mp held
  · rename_i id delta next poised
    obtain ⟨read, held⟩ := Bool.and_eq_true_iff.mp h
    obtain ⟨row, read⟩ := Option.isSome_iff_exists.mp read
    refine ⟨other, _, next, poised, fun clock order => ?_, .inr ⟨id, rfl, ?_⟩⟩
    · simp only [DbCmd.run, Database.updateTypeRow, read, if_neg (not_free_of_heldBy other held)]
    · exact Option.isSome_iff_ne_none.mp held
  · cases h

/-- The deletion of one ticket and the timeout of another one. -/
def deletionAndTimeout : Fin 2 → Operation := ![.delete 1 1, .releaseUnpaidTicket 2]

/-- The timeout keeps to its ticket. -/
def keepsApart (timeout : Fin 2) (e : CallEvent (Fin 2)) : Bool :=
  (e.before.db.tickets.heldBy timeout 1).isNone &&
    match e.cmd with
    | .db (.selectTicketForUpdate id _) => id = 2
    | .db (.cancelHungTicket ..) => false
    | _ => true

theorem not_crosses_of_keepsApart {e : CallEvent (Fin 2)} (apart : keepsApart 1 e) :
    ¬ Crosses deletionAndTimeout e := by
  have only : ∀ t id, deletes (deletionAndTimeout t) = some id → id = 1 :=
    Fin.forall_fin_two.mpr ⟨fun _ same => (Option.some.inj same).symm, nofun⟩
  obtain ⟨free, other⟩ := Bool.and_eq_true_iff.mp apart
  unfold Crosses
  split
  · rintro ⟨id, u, deletion, cancels, held, _⟩
    rw [only _ id deletion] at held
    have timeout : ∀ u, Cancels (deletionAndTimeout u) → u = 1 :=
      Fin.forall_fin_two.mpr ⟨nofun, fun _ => rfl⟩
    rw [timeout u cancels] at held
    exact held (Option.isNone_iff_eq_none.mp free)
  · rename_i id ownerId same
    rw [same] at other
    rintro ⟨_, _, t, deletion, _⟩
    rw [of_decide_eq_true other] at deletion
    exact absurd (only t 2 deletion) (by decide)
  · rename_i id threshold same
    rw [same] at other
    cases other
  · exact not_false

/-- Two reserved tickets of one type: one is deleted while the other one times out. The timeout
waits for the type until the deletion has committed. -/
theorem no_deadlock_of_two_tickets :
    ∃ (events : List (CallEvent (Fin 2)))
      (c : Config (Fin 2) (World (Fin 2)) Cmd Cmd.Resp Exn Unit),
      Config.Run exec ⟨twoReserved, fun t =>
        (deletionAndTimeout t).program shippedSettings.deployment⟩ events c ∧
      WaitsFor c 1 0 ∧ ¬ Deadlock c := by
  have found : ((⟨twoReserved, fun t =>
      (deletionAndTimeout t).program shippedSettings.deployment⟩ :
      Config (Fin 2) (World (Fin 2)) Cmd Cmd.Resp Exn Unit).replay exec
        ([0, 1, 0].map fun t => (t, {}))).any (fun r => waiting r.2 1 0 &&
          r.1.all (keepsApart 1)) = true := by
    decide
  obtain ⟨events, c, run, holds⟩ := Config.exists_run_of_replay
    (P := fun events c => waiting c 1 0 && events.all (keepsApart 1)) found
  obtain ⟨waits, apart⟩ := Bool.and_eq_true_iff.mp holds
  have transacts : ∀ t, Transacts (deletionAndTimeout t) :=
    Fin.forall_fin_two.mpr ⟨trivial, trivial⟩
  have collectors : ∀ t, deletionAndTimeout t ≠ .reconcileHungTickets :=
    Fin.forall_fin_two.mpr ⟨nofun, nofun⟩
  exact ⟨events, c, run, waitsFor_of_waiting (by decide) waits,
    no_deadlock_of_uncrossed transacts (by decide) (by decide) run
      (fun t _ collects => (collectors t collects).elim)
      fun e mem => not_crosses_of_keepsApart (List.all_eq_true.mp apart e mem)⟩

/-- The deletion of a ticket has updated its type, and the timeout of the ticket has locked it: each
waits for the other. -/
theorem delete_and_release_deadlock :
    ∃ (events : List (CallEvent (Fin 2)))
      (c : Config (Fin 2) (World (Fin 2)) Cmd Cmd.Resp Exn Unit),
      Config.Run exec ⟨oneReserved, fun t =>
        ((![.delete 1 1, .releaseUnpaidTicket 1] : Fin 2 → Operation) t).program
          shippedSettings.deployment⟩ events c ∧
      (∀ e ∈ events, e.choice.fault = none) ∧ Deadlock c := by
  have found : ((⟨oneReserved, fun t =>
      ((![.delete 1 1, .releaseUnpaidTicket 1] : Fin 2 → Operation) t).program
        shippedSettings.deployment⟩ :
      Config (Fin 2) (World (Fin 2)) Cmd Cmd.Resp Exn Unit).replay exec
        ([0, 0, 1].map fun t => (t, {}))).any (fun r => (waiting r.2 0 1 && waiting r.2 1 0) &&
          r.1.all fun e => e.choice.fault = none) = true := by
    decide
  obtain ⟨events, c, run, holds⟩ := Config.exists_run_of_replay
    (P := fun events c => (waiting c 0 1 && waiting c 1 0) &&
      events.all fun e : CallEvent (Fin 2) => e.choice.fault = none) found
  obtain ⟨both, clean⟩ := Bool.and_eq_true_iff.mp holds
  obtain ⟨first, second⟩ := Bool.and_eq_true_iff.mp both
  exact ⟨events, c, run, fun e mem => of_decide_eq_true (List.all_eq_true.mp clean e mem), 0,
    .tail (.single (waitsFor_of_waiting (by decide) first))
    (waitsFor_of_waiting (by decide) second)⟩

end TicketCore
