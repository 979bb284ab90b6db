import TicketCore.Idempotency.Contest

/-!
# The progress of a booking under an idempotency key

One request to book a ticket at a time, under one idempotency key, where any call may fail. A
request's `Progress` is the ticket it has inserted and not committed, and its `Standing`: whether it
has the lock, and whether its ticket is committed.

`Retry.Good` is what a request can rely on and owes: a ticket is only ever committed by the request
that has the lock, and while one more ticket than at the start is committed, the key has a record.
A request that has committed must not unlock. `Retry.guard` excludes that: either no call after
the commit raises, or every unlock raises too.
-/

namespace TicketCore

open Interleave RowStore

/-- Where a request stands. -/
inductive Standing
  | outside
  | locked
  | booked

/-- What a request has done. -/
structure Progress where
  pending : Option (Int × Ticket)
  standing : Standing

/-- The ticket the request has locked. -/
def Progress.tickets (g : Progress) : Locks Ticket :=
  match g.pending with
  | none => Locks.none
  | some (id, ticket) => Locks.none.add id none (some ticket)

/-- The call raised an exception. -/
def Raised (e : CallEvent Unit) : Bool :=
  match e.answer with
  | .ok _ => false
  | .error _ => true

/-- The calls that come after the commit of a booking: `refresh`, `enqueue_job` and
`save_response`. -/
def AfterCommit : Cmd → Bool
  | .db (.refreshTicket _) | .enqueueJob _ | .redis _ (.setEx ..) => true
  | _ => false

/-- The call of `unlock`. -/
def Unlocks : Cmd → Bool
  | .redis _ (.delete _) => true
  | _ => false

/-- Requests under one key, from a state with `base` tickets. `calm` says which half of the guard
this request meets. -/
structure Retry where
  contest : Contest Unit
  deployment : Deployment
  base : Int
  calm : Bool

/-- The number of committed tickets. -/
def Database.storedTickets (db : Database Unit) : Int := db.tickets.count fun _ => True

namespace Retry

variable (retry : Retry)

/-- What is stored under the key. -/
def record (w : World Unit) : Option RecordText := retry.contest.record w

/-- What the standing of a request says of the tickets. -/
def Stands (w : World Unit) : Standing → Prop
  | .outside => True
  | .locked => (retry.record w).isSome ∧ w.db.storedTickets = retry.base
  | .booked => (retry.record w).isSome

/-- What holds between the calls of a request. -/
structure Good (w : World Unit) (g : Progress) : Prop where
  tickets : w.db.tickets.Holds () g.tickets
  sane : Sane (retry.record w)
  few : w.db.storedTickets ≤ retry.base + 1
  free : retry.record w = none → w.db.storedTickets = retry.base
  stands : retry.Stands w g.standing

/-- No call after the commit raises, or every unlock does. -/
def guard (e : CallEvent Unit) : Prop :=
  if retry.calm then AfterCommit e.cmd → ¬ Raised e else Unlocks e.cmd → Raised e

/-- The discipline of a request. -/
def discipline : Discipline Unit (World Unit) Cmd Cmd.Resp Exn Choice Progress where
  guard := retry.guard
  inv _ w ghost := retry.Good w (ghost ())

variable {retry} {w w' : World Unit} {g g' : Progress} {cmd : Cmd}

/-- A request that raises has not committed, unless it is one whose unlock raises as well. -/
def MayRaise (retry : Retry) (g : Progress) : Prop :=
  g.standing = .locked ∨ (g.standing = .booked ∧ retry.calm = false)

theorem MayRaise.booked (uneasy : retry.calm → ¬ true = true) :
    MayRaise retry ⟨none, .booked⟩ := by
  refine .inr ⟨rfl, ?_⟩
  cases calm : retry.calm with
  | false => rfl
  | true => exact (uneasy calm rfl).elim

/-- The rule for one call: it fails without an effect, or is executed. -/
theorem follows_call {post : Except Exn cmd.Resp → Progress → Prop}
    (fault : cmd.mayFail → (retry.calm → ¬ AfterCommit cmd) → ∀ e, post (.error e) g)
    (run : ∀ w choice answer w', retry.Good w g → cmd.run () choice w = some (answer, w') →
      retry.guard ⟨(), cmd, choice, answer, w, w'⟩ → ∃ g', retry.Good w' g' ∧
        post answer g') :
    retry.discipline.Follows exec () post (.call cmd) g := by
  refine Discipline.Follows.call fun events w ghost choice answer w' good own ran guarded => ?_
  have good : retry.Good w (ghost ()) := good
  rw [own] at good
  rcases exec_cases ran with ⟨e, _, may, rfl, rfl⟩ | ran
  · refine ⟨g, by show retry.Good _ (Function.update ghost () g ()); rwa [Function.update_self],
      fault may (fun calm after => ?_) e⟩
    have guarded : retry.guard _ := guarded
    unfold guard at guarded
    rw [if_pos calm] at guarded
    exact guarded after rfl
  · obtain ⟨g', good', holds⟩ := run w choice answer w' good ran guarded
    exact ⟨g', by show retry.Good _ (Function.update ghost () g' ()); rwa [Function.update_self],
      holds⟩

/-- What a guarded run of a program that follows the discipline keeps. -/
theorem Good.runs {α : Type} {p : Async α} {post : Except Exn α → Progress → Prop}
    {events : List (CallEvent Unit)} {outcome : Except Exn α} (h : retry.Good w g)
    (follows : retry.discipline.Follows exec () post p g)
    (run : p.Runs exec () w events outcome w') (guarded : ∀ e ∈ events, retry.guard e) :
    ∃ g', retry.Good w' g' ∧ post outcome g' := by
  have start : retry.discipline.inv [] w fun _ => g := h
  obtain ⟨g', inv, holds⟩ := follows.runs start rfl run guarded
  have good : retry.Good w' (Function.update (fun _ => g) () g' ()) := inv
  rw [Function.update_self] at good
  exact ⟨g', good, holds⟩

/-! ## Calls that are not about tickets or records -/

/-- A call that changes neither the tickets nor a record. -/
def Aside : Cmd → Prop
  | .db (.getTicketType _) | .db (.addTicketsSold ..) | .db (.refreshTicket _) => True
  | .redis _ command => command.LeavesRecords
  | .enqueueJob _ | .now => True
  | _ => False

theorem Aside.leavesRecords (aside : Aside cmd) : LeavesRecords cmd := by
  cases cmd with
  | redis n command => exact aside
  | _ => trivial

/-- A call that is aside leaves the tickets alone. -/
theorem Aside.run {choice : Choice} {answer : Except Exn cmd.Resp} (aside : Aside cmd)
    (ran : cmd.run () choice w = some (answer, w')) : w'.db.tickets = w.db.tickets := by
  cases cmd with
  | redis n command =>
      obtain ⟨a, r, done, _, rfl⟩ := Cmd.run_redis ran
      rfl
  | enqueueJob job | now =>
      cases ran
      rfl
  | handler => exact aside.elim
  | db statement =>
      obtain ⟨db', done, rfl⟩ := Cmd.run_db ran
      cases statement with
      | getTicketType id =>
          obtain ⟨_, rfl⟩ := DbCmd.run_getTicketType done
          rfl
      | addTicketsSold id delta =>
          rcases DbCmd.run_addTicketsSold done with
            ⟨_, _, rfl⟩ | ⟨_, _, _, ⟨_, _, _, rfl⟩ | ⟨_, _, _, rfl⟩⟩
          · rfl
          · rfl
          · rfl
      | refreshTicket id =>
          obtain ⟨rfl, _⟩ := DbCmd.run_refreshTicket done
          rfl
      | _ => exact aside.elim

/-- The tickets and the records decide what a request can rely on. -/
theorem Good.same (h : retry.Good w g) (tickets : w'.db.tickets = w.db.tickets)
    (record : retry.record w' = retry.record w) : retry.Good w' g := by
  have stored : w'.db.storedTickets = w.db.storedTickets := by
    unfold Database.storedTickets
    rw [tickets]
  refine ⟨by rw [tickets]; exact h.tickets, by rw [record]; exact h.sane,
    by rw [stored]; exact h.few,
    by rw [record, stored]; exact h.free, ?_⟩
  have stands := h.stands
  cases standing : g.standing with
  | outside => trivial
  | locked =>
      rw [standing] at stands
      exact ⟨by rw [record]; exact stands.1, by rw [stored]; exact stands.2⟩
  | booked =>
      rw [standing] at stands
      show (retry.record w').isSome
      rw [record]
      exact stands

theorem record_of_idempotency
    (same : ∀ n, (w'.redis n).idempotency = (w.redis n).idempotency) :
    retry.record w' = retry.record w := by
  unfold record Contest.record
  rw [same]

/-- A call that is not about tickets or records. -/
theorem follows_aside {post : Except Exn cmd.Resp → Progress → Prop} (aside : Aside cmd)
    (raised : (retry.calm → ¬ AfterCommit cmd) → ∀ e, post (.error e) g)
    (returned : ∀ a, post (.ok a) g) : retry.discipline.Follows exec () post (.call cmd) g := by
  refine follows_call (fun _ => raised) fun w choice answer w' good ran guarded => ?_
  have tickets := aside.run ran
  have records := aside.leavesRecords.run ran
  refine ⟨g, good.same tickets (record_of_idempotency records), ?_⟩
  cases answer with
  | ok a => exact returned a
  | error e =>
      refine raised (fun calm after => ?_) e
      unfold guard at guarded
      rw [if_pos calm] at guarded
      exact guarded after rfl

/-! ## Tickets -/

/-- `INSERT INTO tickets`. -/
theorem follows_insertTicket {ownerId ticketTypeId : Int}
    {post : Except Exn Int → Progress → Prop}
    (failed : ∀ e, post (.error e) ⟨none, .locked⟩)
    (inserted : ∀ id ticket, post (.ok id) ⟨some (id, ticket), .locked⟩) :
    retry.discipline.Follows exec () post (sql (.insertTicket ownerId ticketTypeId))
      ⟨none, .locked⟩ := by
  refine follows_call (fun _ _ => failed) fun w choice answer w' good ran _ => ?_
  obtain ⟨db', done, rfl⟩ := Cmd.run_db ran
  have skipped : retry.Good
      { w with db := { w.db with tickets := w.db.tickets.skip } } ⟨none, .locked⟩ := by
    have stored : ({ w.db with tickets := w.db.tickets.skip } : Database Unit).storedTickets =
        w.db.storedTickets := total_congr fun _ => rfl
    exact ⟨good.tickets.skip, good.sane, by rw [stored]; exact good.few,
      by rw [stored]; exact good.free, good.stands.1, by rw [stored]; exact good.stands.2⟩
  rcases DbCmd.run_insertTicket done with
    ⟨_, rfl, rfl⟩ | ⟨_, rfl, rfl⟩ | ⟨_, _, rfl, rfl⟩
  · exact ⟨_, skipped, failed _⟩
  · exact ⟨_, skipped, failed _⟩
  · let ticket : Ticket := ⟨ticketTypeId, ownerId, .reserved, choice.clock⟩
    have locked : Locked w.db.tickets (w.db.tickets.insert () ticket) () Locks.none
        (Locks.none.add w.db.tickets.next none (some ticket)) := .insert good.tickets
    have stored : ({ w.db with tickets := w.db.tickets.insert () ticket } :
        Database Unit).storedTickets = w.db.storedTickets :=
      total_congr fun id => by rw [locked.row]
    exact ⟨⟨some (w.db.tickets.next, ticket), .locked⟩,
      ⟨locked.self, good.sane, by rw [stored]; exact good.few, by rw [stored]; exact good.free,
        good.stands.1, by rw [stored]; exact good.stands.2⟩, inserted _ ticket⟩

/-- `COMMIT` of the inserted ticket. -/
theorem follows_commit {id : Int} {ticket : Ticket} {post : Except Exn Unit → Progress → Prop}
    (failed : ∀ e, post (.error e) ⟨some (id, ticket), .locked⟩)
    (committed : post (.ok ()) ⟨none, .booked⟩) :
    retry.discipline.Follows exec () post (sql .commit) ⟨some (id, ticket), .locked⟩ := by
  refine follows_call (fun _ _ => failed) fun w choice answer w' good ran _ => ?_
  obtain ⟨db', done, rfl⟩ := Cmd.run_db ran
  obtain ⟨rfl, rfl⟩ := DbCmd.run_commit done
  obtain ⟨present, stored⟩ := good.stands
  have rows : (w.db.tickets.commit ()).row = Function.update w.db.tickets.row id (some ticket) := by
    rw [good.tickets.commit_row]
    exact Locks.apply_add _
  have absent : w.db.tickets.row id = none := good.tickets.row_of_lock (Locks.add_self ..)
  have stored' : (w.db.commit ()).storedTickets = retry.base + 1 := by
    have moved : (w.db.tickets.commit ()).count (fun _ => True) =
        w.db.tickets.count (fun _ => True) + (1 - 0) := by
      have total := total_eq_of_update (w := indicator fun _ : Ticket => True) rows
      rw [absent] at total
      exact total
    show (w.db.tickets.commit ()).count (fun _ => True) = _
    rw [moved, ← stored]
    rfl
  refine ⟨⟨none, .booked⟩,
    ⟨Holds.commit_self, good.sane, stored'.le, fun absent => ?_, present⟩,
    committed⟩
  have kept : retry.record w = none := absent
  rw [kept] at present
  cases present

/-- The end of a transaction without a commit. -/
theorem Good.rollback (h : retry.Good w g) :
    retry.Good { w with db := w.db.rollback () } ⟨none, g.standing⟩ := by
  have stored : (w.db.rollback ()).storedTickets = w.db.storedTickets := total_congr fun _ => rfl
  refine ⟨Holds.rollback_self, h.sane, by rw [stored]; exact h.few,
    by rw [stored]; exact h.free, ?_⟩
  have stands := h.stands
  cases standing : g.standing with
  | outside => trivial
  | locked =>
      rw [standing] at stands
      exact ⟨stands.1, by rw [stored]; exact stands.2⟩
  | booked =>
      rw [standing] at stands
      exact stands

theorem follows_rollback {post : Except Exn Unit → Progress → Prop}
    (failed : ∀ e, post (.error e) g) (ended : post (.ok ()) ⟨none, g.standing⟩) :
    retry.discipline.Follows exec () post (sql .rollback) g := by
  refine follows_call (fun _ _ => failed) fun w choice answer w' good ran _ => ?_
  obtain ⟨db', done, rfl⟩ := Cmd.run_db ran
  cases done
  exact ⟨_, good.rollback, ended⟩

theorem follows_close {post : Except Exn Unit → Progress → Prop}
    (ended : post (.ok ()) ⟨none, g.standing⟩) :
    retry.discipline.Follows exec () post (sql .close) g := by
  refine follows_call nofun fun w choice answer w' good ran _ => ?_
  obtain ⟨db', done, rfl⟩ := Cmd.run_db ran
  cases done
  exact ⟨_, good.rollback, ended⟩

/-! ## The record -/

/-- A request need not make use of its standing. -/
theorem Good.outside (h : retry.Good w g) : retry.Good w ⟨g.pending, .outside⟩ :=
  ⟨h.tickets, h.sane, h.few, h.free, trivial⟩

/-- `SET NX EX` of the lock. -/
theorem follows_setNxEx {post : Except Exn Bool → Progress → Prop}
    (failed : ∀ e, post (.error e) ⟨none, .outside⟩)
    (acquired : post (.ok true) ⟨none, .locked⟩)
    (taken : post (.ok false) ⟨none, .outside⟩) :
    retry.discipline.Follows exec () post (redis retry.contest.service.redis
      (.setNxEx retry.contest.redisKey (retry.contest.lockRecord ())
        retry.contest.service.ttlSeconds)) ⟨none, .outside⟩ := by
  refine follows_call (fun _ _ => failed) fun w choice answer w' good ran _ => ?_
  obtain ⟨result, r, done, rfl, changed⟩ := Cmd.run_redis ran
  have record' : retry.record w' = _ := Contest.record_redis changed
  have db' : w'.db = w.db := by rw [changed]
  simp only [RedisCmd.run] at done
  split at done
  · rename_i absent
    cases done
    rw [Contest.record_setRecord] at record'
    have none : retry.record w = none := by
      unfold record Contest.record
      rw [absent]
      rfl
    have stored := good.free none
    refine ⟨⟨.none, .locked⟩, ⟨by rw [db']; exact good.tickets,
      by rw [record']; exact lockRecord_sane, by rw [db']; exact good.few, fun none' => ?_,
      by rw [record']; rfl, by rw [db']; exact stored⟩,
      acquired⟩
    rw [record'] at none'
    cases none'
  · cases done
    exact ⟨_, good.same (by rw [db']) record', taken⟩

/-- `GET` of the record. -/
theorem follows_get {post : Except Exn (Option RecordText) → Progress → Prop}
    (failed : ∀ e, post (.error e) ⟨none, .outside⟩)
    (read : ∀ raw, IdempotencyService.answerFromRecord
      (retry.contest.hash ()) raw ≠ .ok none →
      post (.ok raw) ⟨none, .outside⟩) :
    retry.discipline.Follows exec () post
      (redis retry.contest.service.redis (.get retry.contest.redisKey)) ⟨none, .outside⟩ := by
  refine follows_call (fun _ _ => failed) fun w choice answer w' good ran _ => ?_
  obtain ⟨result, r, done, rfl, changed⟩ := Cmd.run_redis ran
  have record' : retry.record w' = _ := Contest.record_redis changed
  cases done
  exact ⟨_, good.same (by rw [changed]) record', read _ (answerFromRecord_sane good.sane)⟩

/-- `SET EX` of the response: the record says that the request is completed. -/
theorem follows_setEx {response : JsonObject} {post : Except Exn Unit → Progress → Prop}
    (failed : (retry.calm → ¬ true = true) → ∀ e, post (.error e) ⟨none, .booked⟩)
    (saved : post (.ok ()) ⟨none, .outside⟩) :
    retry.discipline.Follows exec () post (redis retry.contest.service.redis
      (.setEx retry.contest.redisKey
        (.valid ⟨.completed, some response, some (retry.contest.hash ())⟩)
        retry.contest.service.ttlSeconds)) ⟨none, .booked⟩ := by
  refine follows_call (fun _ => failed) fun w choice answer w' good ran _ => ?_
  obtain ⟨result, r, done, rfl, changed⟩ := Cmd.run_redis ran
  have record' : retry.record w' = _ := Contest.record_redis changed
  have db' : w'.db = w.db := by rw [changed]
  cases done
  rw [Contest.record_setRecord] at record'
  refine ⟨⟨none, .outside⟩,
    ⟨by rw [db']; exact good.tickets, by rw [record']; exact fun _ => rfl,
    by rw [db']; exact good.few, fun none => ?_, trivial⟩, saved⟩
  rw [record'] at none
  cases none

/-- `DEL` of the record, by a request that may raise. -/
theorem follows_delete {post : Except Exn Unit → Progress → Prop} (may : MayRaise retry g)
    (any : ∀ answer g', post answer g') :
    retry.discipline.Follows exec () post
      (redis retry.contest.service.redis (.delete retry.contest.redisKey)) g := by
  refine follows_call (fun _ _ _ => any _ _) fun w choice answer w' good ran guarded => ?_
  obtain ⟨result, r, done, rfl, changed⟩ := Cmd.run_redis ran
  have record' : retry.record w' = _ := Contest.record_redis changed
  have db' : w'.db = w.db := by rw [changed]
  cases done
  rw [Contest.record_setRecord] at record'
  rcases may with locked | ⟨_, uneasy⟩
  · have stands := good.stands
    rw [locked] at stands
    exact ⟨⟨g.pending, .outside⟩,
      ⟨by rw [db']; exact good.tickets, by rw [record']; trivial,
      by rw [db']; exact good.few, fun _ => by rw [db']; exact stands.2, trivial⟩, any _ _⟩
  · -- the guard says that this unlock raises
    unfold guard at guarded
    rw [uneasy] at guarded
    cases guarded rfl

end Retry

end TicketCore
