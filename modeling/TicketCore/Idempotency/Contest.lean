import TicketCore.Api

/-!
# Requests under one idempotency key

Any number of requests of one user with one action and one key, which may differ in their payloads.
Their endpoint is the call `Cmd.handler`, which takes any time and returns or raises what the
environment chooses.

* `Stage` is how far one request has come.
* `locks`, `handles`, `success`, `raises`, `saves` and `unlocks` read off an executed call what it
  was for the requests. A handler is `Running` from its request's lock until its own end.
-/

namespace TicketCore

open Interleave

/-- The requests: what they have in common, and their payloads. -/
structure Contest (ι : Type) where
  service : IdempotencyService
  userId : Int
  action : String
  idempotencyKey : String
  payload : ι → Option JsonObject
  encode : JsonObject → JsonObject

/-- How far a request has come. -/
inductive Stage
  | start
  /-- The key was taken, and its record is not read yet. -/
  | waiting
  | running
  | returned (response : JsonObject)
  | raised (e : Exn)
  | saved (response : JsonObject)
  | released (e : Exn)
  | refused
  | answered (response : JsonObject)

namespace Contest

variable {ι : Type} (contest : Contest ι)

/-- The request of a thread. -/
def request (t : ι) : Request :=
  ⟨contest.userId, contest.action, contest.idempotencyKey, contest.payload t⟩

/-- The payload hash of a thread's request. -/
def hash (t : ι) : String := contest.service.hashPayload (contest.payload t)

/-- The key of the record. -/
def redisKey : String :=
  IdempotencyService.generateKey contest.userId contest.action contest.idempotencyKey

/-- What is stored under the key. -/
def record (w : World ι) : Option RecordText :=
  ((w.redis contest.service.redis).idempotency contest.redisKey).map StoredRecord.text

/-- The decorated endpoint, as a thread calls it. -/
def program (t : ι) : Async (Reply JsonObject) :=
  (contest.request t).idempotent contest.service contest.encode (Program.call Cmd.handler)

/-- A lock that a thread's request sets. -/
def lockRecord (t : ι) : RecordText := .valid ⟨.inProgress, none, some (contest.hash t)⟩

/-- The response that a thread's request saves. -/
def savedRecord (t : ι) (response : JsonObject) : RecordText :=
  .valid ⟨.completed, some (contest.encode response), some (contest.hash t)⟩

variable {contest} {w w' : World ι} {r : RedisDb}

/-- What is stored under the key after a command to the service's database. -/
theorem record_redis
    (changed : w' = { w with redis := Function.update w.redis contest.service.redis r }) :
    contest.record w' = (r.idempotency contest.redisKey).map StoredRecord.text := by
  subst changed
  show ((Function.update w.redis contest.service.redis r contest.service.redis).idempotency _).map
    _ = _
  rw [Function.update_self]

theorem record_setRecord {key : String} {stored : Option StoredRecord} :
    ((r.setRecord key stored).idempotency key).map StoredRecord.text =
      stored.map StoredRecord.text := by
  show (Function.update r.idempotency key stored key).map _ = _
  rw [Function.update_self]

end Contest

/-- A record as the service writes it: a completed one has a response. -/
def Sane : Option RecordText → Prop
  | some (.valid data) => data.status = .completed → data.response.isSome
  | _ => True

theorem lockRecord_sane {ι : Type} {contest : Contest ι} {t : ι} :
    Sane (some (contest.lockRecord t)) := by
  intro completed
  cases completed

/-- A sane record never looks like an acquired lock. -/
theorem answerFromRecord_sane {hash : String} {raw : Option RecordText} (sane : Sane raw) :
    IdempotencyService.answerFromRecord hash raw ≠ .ok none := by
  unfold IdempotencyService.answerFromRecord
  split
  · nofun
  · nofun
  · rename_i data
    split
    · nofun
    · split
      · nofun
      · rename_i completed
        intro answered
        have present := sane completed
        rw [Except.ok.inj answered] at present
        cases present

/-! ## Calls that are not about records -/

section LeavesRecords

variable {ι : Type} [DecidableEq ι] {t : ι} {cmd : Cmd} {choice : Choice}
  {answer : Except Exn cmd.Resp} {w w' : World ι}

/-- A call that is not about idempotency records. -/
def LeavesRecords : Cmd → Prop
  | .redis _ command => command.LeavesRecords
  | _ => True

theorem LeavesRecords.run (leaves : LeavesRecords cmd)
    (ran : cmd.run t choice w = some (answer, w'))
    (n : Nat) : (w'.redis n).idempotency = (w.redis n).idempotency := by
  cases cmd with
  | redis m command =>
      obtain ⟨a, r, done, _, rfl⟩ := Cmd.run_redis ran
      show (Function.update w.redis m r n).idempotency = _
      by_cases same : n = m
      · subst same
        rw [Function.update_self]
        exact leaves.run done
      · rw [Function.update_of_ne same]
  | enqueueJob job | now =>
      cases ran
      rfl
  | handler =>
      have done : (choice.outcome, w) = (answer, w') := Option.some.inj ran
      obtain ⟨_, rfl⟩ := Prod.mk.inj done
      rfl
  | db statement =>
      obtain ⟨db', done, rfl⟩ := Cmd.run_db ran
      rfl

theorem LeavesRecords.exec (leaves : LeavesRecords cmd)
    (ran : exec t cmd choice w = some (answer, w')) (n : Nat) :
    (w'.redis n).idempotency = (w.redis n).idempotency := by
  rcases exec_cases ran with ⟨_, _, _, _, rfl⟩ | ran
  · rfl
  · exact leaves.run ran n

end LeavesRecords

/-! ## What a call was for the requests -/

section Calls

variable {ι : Type} [DecidableEq ι]

/-- Thread `t` acquires the lock. -/
def locks (t : ι) : CallEvent ι → Bool
  | ⟨u, .redis _ (.setNxEx ..), _, .ok true, _, _⟩ => u = t
  | _ => false

/-- The handler of thread `t` ends. -/
def handles (t : ι) : CallEvent ι → Bool
  | ⟨u, .handler, _, _, _, _⟩ => u = t
  | _ => false

/-- A handler succeeds: whose, and with what. -/
def success : CallEvent ι → Option (ι × JsonObject)
  | ⟨t, .handler, _, .ok response, _, _⟩ => some (t, response)
  | _ => none

/-- The handler of thread `t` raises. -/
def raises (t : ι) : CallEvent ι → Bool
  | ⟨u, .handler, _, .error _, _, _⟩ => u = t
  | _ => false

/-- A response is saved. -/
def saves : CallEvent ι → Bool
  | ⟨_, .redis _ (.setEx ..), _, .ok _, _, _⟩ => true
  | _ => false

/-- Thread `t` unlocks the key. -/
def unlocks (t : ι) : CallEvent ι → Bool
  | ⟨u, .redis _ (.delete _), _, .ok _, _, _⟩ => u = t
  | _ => false

/-- The handler of thread `t` is running: its request has the lock, and it has not ended. -/
def Running (events : List (CallEvent ι)) (t : ι) : Prop :=
  (∃ e ∈ events, locks t e) ∧ ∀ e ∈ events, ¬ handles t e

theorem locks_thread {t : ι} {e : CallEvent ι} (h : locks t e) : e.thread = t := by
  unfold locks at h
  split at h
  · exact of_decide_eq_true h
  · cases h

theorem raises_thread {t : ι} {e : CallEvent ι} (h : raises t e) : e.thread = t := by
  unfold raises at h
  split at h
  · exact of_decide_eq_true h
  · cases h

end Calls

end TicketCore
