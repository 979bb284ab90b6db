import TicketCore.Database
import TicketCore.Interleave.Run
import TicketCore.Redis

/-!
# The world of a deployment

What the API processes and the worker processes share: the PostgreSQL database, the numbered
databases of one Redis server and the job queue. `Async` is the type of an asynchronous function:
a program over the commands `Cmd`. `exec` is the meaning of a command for the thread that awaits
it, given what the environment chooses for this occurrence: whether the call raises, at what time
it happens, and in which order rows and hash entries are enumerated.

A call that raises has no effect. Closing a session is the exception: it never raises, and ends the
transaction.
-/

namespace TicketCore

open Interleave

/-- The settings the booking code reads, from `src/core/config.py`. -/
structure Settings where
  redisHost : String
  redisPort : Nat
  redisTtlSeconds : Int
  ticketReservationTimeSeconds : Int

/-- Where a Redis client is connected to. -/
structure RedisSettings where
  host : String
  port : Nat
  database : Nat
deriving DecidableEq, Repr

/-- `Settings.REDIS_URL`, from which the API's client is built: `redis://host:port/0`. -/
def Settings.redisUrl (settings : Settings) : RedisSettings :=
  ⟨settings.redisHost, settings.redisPort, 0⟩

/-- `WorkerSettings.redis_settings`, from which arq builds the pool in `ctx["redis"]`. -/
def Settings.workerRedisSettings (settings : Settings) : RedisSettings :=
  ⟨settings.redisHost, settings.redisPort, 1⟩

/-- Which numbered database the API's client and the worker's `ctx["redis"]` use, on one server,
with the other settings. -/
structure Deployment where
  apiRedis : Nat
  workerRedis : Nat
  redisTtlSeconds : Int
  ticketReservationTimeSeconds : Int

/-- The deployment that the repository ships. -/
def Settings.deployment (settings : Settings) : Deployment where
  apiRedis := settings.redisUrl.database
  workerRedis := settings.workerRedisSettings.database
  redisTtlSeconds := settings.redisTtlSeconds
  ticketReservationTimeSeconds := settings.ticketReservationTimeSeconds

/-- The settings of `k8s/01-config.yaml`. -/
def shippedSettings : Settings := ⟨"redis-svc", 6379, 10, 900⟩

/-- A deployment whose API and worker use one Redis database. -/
def sharedRedis : Deployment := ⟨0, 0, 10, 900⟩

/-- A job of the arq queue. -/
structure Job where
  function : String
  ticketId : Int
  deferBy : Int
deriving DecidableEq, Repr

/-- The shared state, over the threads `ι`. -/
structure World (ι : Type) where
  db : Database ι
  redis : Nat → RedisDb
  jobs : List Job

/-- A world in which nothing is stored. -/
def World.empty {ι : Type} : World ι where
  db := { tickets := .ofList [], ticketTypes := .ofList [], events := .ofList [], users := ∅ }
  redis _ := .empty
  jobs := []

/-- An awaited call. -/
inductive Cmd
  | db (statement : DbCmd)
  | redis (database : Nat) (command : RedisCmd)
  | enqueueJob (job : Job)
  /-- The current time, in microseconds. -/
  | now
  /-- The endpoint behind a decorator, where what it does is of no concern. -/
  | handler

/-- What a call answers. -/
@[reducible] def Cmd.Resp : Cmd → Type
  | .db statement => statement.Resp
  | .redis _ command => command.Resp
  | .enqueueJob _ => Unit
  | .now => Int
  | .handler => JsonObject

/-- What the environment chooses for one call. -/
structure Choice where
  /-- The exception with which the call fails. -/
  fault : Option Exn := none
  clock : Int := 0
  rows : List Int := []
  entries : List (String × String) := []
  /-- How the endpoint of a `handler` call ends. -/
  outcome : Except Exn JsonObject := .ok []

/-- Whether a call is one to PostgreSQL, Redis or arq that can fail. -/
def Cmd.mayFail : Cmd → Bool
  | .db .close | .redis _ (.expire _) | .redis _ (.expireEventStatic _)
  | .redis _ (.expireEventList _) | .now | .handler => false
  | _ => true

variable {ι : Type} [DecidableEq ι]

/-- Execute a call that does not fail. -/
def Cmd.run (t : ι) (choice : Choice) (w : World ι) :
    (cmd : Cmd) → Option (Except Exn cmd.Resp × World ι)
  | .db statement =>
      (statement.run t choice.clock choice.rows w.db).map fun (answer, db') =>
        (answer, { w with db := db' })
  | .redis n command =>
      (command.run choice.clock choice.entries (w.redis n)).map fun (answer, r) =>
        (.ok answer, { w with redis := Function.update w.redis n r })
  | .enqueueJob job => some (.ok (), { w with jobs := w.jobs ++ [job] })
  | .now => some (.ok choice.clock, w)
  | .handler => some (choice.outcome, w)

/-- The meaning of calls. -/
def exec : Exec ι (World ι) Cmd Cmd.Resp Exn Choice := fun t cmd choice w =>
  match choice.fault with
  | none => cmd.run t choice w
  | some e => if cmd.mayFail then some (.error e, w) else cmd.run t choice w

/-- An asynchronous function. -/
abbrev Async (α : Type) : Type := Program Cmd Cmd.Resp Exn α

/-- One executed call. -/
abbrev CallEvent (ι : Type) : Type :=
  Interleave.Event ι (World ι) Cmd Cmd.Resp Exn Choice

/-- A call either fails without an effect or is executed. -/
theorem exec_cases {t : ι} {cmd : Cmd} {choice : Choice} {w w' : World ι}
    {answer : Except Exn cmd.Resp} (ran : exec t cmd choice w = some (answer, w')) :
    (∃ e, choice.fault = some e ∧ cmd.mayFail ∧ answer = .error e ∧ w' = w) ∨
      cmd.run t choice w = some (answer, w') := by
  unfold exec at ran
  split at ran
  · exact .inr ran
  · rename_i e fault
    split at ran
    · rename_i may
      cases ran
      exact .inl ⟨e, fault, may, rfl, rfl⟩
    · exact .inr ran

theorem Cmd.run_db {t : ι} {statement : DbCmd} {choice : Choice} {w w' : World ι}
    {answer : Except Exn statement.Resp}
    (ran : (Cmd.db statement).run t choice w = some (answer, w')) :
    ∃ db', statement.run t choice.clock choice.rows w.db = some (answer, db') ∧
      w' = { w with db := db' } := by
  obtain ⟨⟨answer', db'⟩, done, same⟩ := Option.map_eq_some_iff.mp ran
  cases same
  exact ⟨db', done, rfl⟩

theorem Cmd.run_redis {t : ι} {n : Nat} {command : RedisCmd} {choice : Choice} {w w' : World ι}
    {answer : Except Exn command.Resp}
    (ran : (Cmd.redis n command).run t choice w = some (answer, w')) :
    ∃ a r, command.run choice.clock choice.entries (w.redis n) = some (a, r) ∧
      answer = .ok a ∧
      w' = { w with redis := Function.update w.redis n r } := by
  obtain ⟨⟨a, r⟩, done, same⟩ := Option.map_eq_some_iff.mp ran
  cases same
  exact ⟨a, r, done, rfl, rfl⟩

section Executed

variable {t : ι} {cmd : Cmd} {choice : Choice} {w w' : World ι} {answer : Except Exn cmd.Resp}

/-- The run of a call that has not raised. -/
theorem ran_of_ok {a : cmd.Resp} (ran : exec t cmd choice w = some (.ok a, w')) :
    cmd.run t choice w = some (.ok a, w') := by
  rcases exec_cases ran with ⟨_, _, _, failed, _⟩ | ran
  · cases failed
  · exact ran

theorem ran_db {statement : DbCmd} {a : statement.Resp}
    (ran : exec t (.db statement) choice w = some (.ok a, w')) :
    ∃ db', statement.run t choice.clock choice.rows w.db = some (.ok a, db') ∧
      w' = { w with db := db' } :=
  Cmd.run_db (ran_of_ok ran)

theorem ran_redis {n : Nat} {command : RedisCmd} {a : command.Resp}
    (ran : exec t (.redis n command) choice w = some (.ok a, w')) :
    ∃ r, command.run choice.clock choice.entries (w.redis n) = some (a, r) ∧
      w' = { w with redis := Function.update w.redis n r } := by
  obtain ⟨a', r, done, same, changed⟩ := Cmd.run_redis (ran_of_ok ran)
  cases same
  exact ⟨r, done, changed⟩

omit [DecidableEq ι] in
/-- A Redis database after a command on it. -/
theorem redis_update {n : Nat} {r : RedisDb} :
    ({ w with redis := Function.update w.redis n r } : World ι).redis n = r :=
  Function.update_self ..

theorem db_of_redis {n : Nat} {command : RedisCmd} {a : command.Resp}
    (ran : exec t (.redis n command) choice w = some (.ok a, w')) : w'.db = w.db := by
  obtain ⟨_, _, rfl⟩ := ran_redis ran
  rfl

/-- What a call can do to the database: move one table without ending the transaction, or end it. -/
theorem exec_database (ran : exec t cmd choice w = some (answer, w')) :
    (∃ statement : DbCmd, statement.Moved t w.db w'.db) ∨
      w'.db = w.db.commit t ∨ w'.db = w.db.rollback t := by
  rcases exec_cases ran with ⟨_, _, _, _, rfl⟩ | ran
  · exact .inl ⟨.close, .refl⟩
  cases cmd with
  | now | enqueueJob job => cases ran; exact .inl ⟨.close, .refl⟩
  | handler =>
      have done : (choice.outcome, w) = (answer, w') := Option.some.inj ran
      obtain ⟨_, rfl⟩ := Prod.mk.inj done
      exact .inl ⟨.close, .refl⟩
  | redis n command =>
      obtain ⟨a, r, _, _, rfl⟩ := Cmd.run_redis ran
      exact .inl ⟨.close, .refl⟩
  | db statement =>
      obtain ⟨db', done, rfl⟩ := Cmd.run_db ran
      by_cases ends : statement.Ends
      · exact .inr (ends.run done)
      · exact .inl ⟨statement, DbCmd.moved ends done⟩

/-- A statement leaves Redis alone. -/
theorem redis_of_db {statement : DbCmd} {a : statement.Resp}
    (ran : exec t (.db statement) choice w = some (.ok a, w')) : w'.redis = w.redis := by
  obtain ⟨_, _, rfl⟩ := ran_db ran
  rfl

/-- A call that raises has no effect, except that a sequence may have moved on. -/
theorem raised {e : Exn} (ran : exec t cmd choice w = some (.error e, w')) :
    w'.redis = w.redis ∧ (w'.db = w.db ∨ w'.db = { w.db with tickets := w.db.tickets.skip } ∨
      w'.db = { w.db with ticketTypes := w.db.ticketTypes.skip }) := by
  rcases exec_cases ran with ⟨_, _, _, _, rfl⟩ | ran
  · exact ⟨rfl, .inl rfl⟩
  · cases cmd with
    | now => cases ran
    | enqueueJob job => cases ran
    | handler =>
        have done : (choice.outcome, w) = (.error e, w') := Option.some.inj ran
        obtain ⟨_, rfl⟩ := Prod.mk.inj done
        exact ⟨rfl, .inl rfl⟩
    | redis n command =>
        obtain ⟨a, r, _, failed, _⟩ := Cmd.run_redis ran
        cases failed
    | db statement =>
        obtain ⟨db', done, rfl⟩ := Cmd.run_db ran
        exact ⟨rfl, DbCmd.raised done⟩

/-! Calls that do not fail. -/

theorem redis_clean {n : Nat} {command : RedisCmd} {e : Exn} (clean : choice.fault = none)
    (ran : exec t (.redis n command) choice w = some (.error e, w')) : False := by
  rcases exec_cases ran with ⟨_, fault, _⟩ | ran
  · rw [clean] at fault
    cases fault
  · obtain ⟨_, _, _, failed, _⟩ := Cmd.run_redis ran
    cases failed

theorem commit_clean {e : Exn} (clean : choice.fault = none)
    (ran : exec t (.db .commit) choice w = some (.error e, w')) : False := by
  rcases exec_cases ran with ⟨_, fault, _⟩ | ran
  · rw [clean] at fault
    cases fault
  · obtain ⟨_, done, _⟩ := Cmd.run_db ran
    cases done

theorem run_of_clean {statement : DbCmd} {a : Except Exn statement.Resp}
    (clean : choice.fault = none) (ran : exec t (.db statement) choice w = some (a, w')) :
    ∃ db', statement.run t choice.clock choice.rows w.db = some (a, db') := by
  rcases exec_cases ran with ⟨_, fault, _⟩ | ran
  · rw [clean] at fault
    cases fault
  · obtain ⟨db', done, _⟩ := Cmd.run_db ran
    exact ⟨db', done⟩

end Executed

/-! ## Answers -/

/-- The answers that a call can have. -/
def Cmd.Answers : (cmd : Cmd) → Except Exn cmd.Resp → Prop
  | .db .close, .error _ | .now, .error _ => False
  | .db (.hungTickets _), .ok ids => ids.Nodup
  | .db (.cancelHungTicket id _), .ok (some (id', _)) => id' = id
  | .db (.selectTicketForUpdate _ (some ownerId)), .ok (some ticket) => ticket.ownerId = ownerId
  | .redis _ (.evalReserve _), .ok result => result = -1 ∨ result = 0 ∨ result = 1
  | _, _ => True

omit [DecidableEq ι] in
theorem idsWhere_nodup {Row : Type} (s : RowStore ι Row) (p : Row → Bool) :
    (s.idsWhere p).Nodup := by
  have injective : Function.Injective fun n : Nat => (n : Int) + 1 := fun n m same => by
    dsimp only at same
    omega
  exact List.Nodup.filter _ (List.Nodup.map injective List.nodup_range)

omit [DecidableEq ι] in
theorem mem_idsWhere {Row : Type} {s : RowStore ι Row} {p : Row → Bool} {id : Int} :
    id ∈ s.idsWhere p ↔ (s.row id).any p := by
  unfold RowStore.idsWhere
  rw [List.mem_filter]
  refine ⟨And.right, fun holds => ⟨?_, holds⟩⟩
  obtain ⟨row, stored, _⟩ := (Option.any_eq_true _ _).mp holds
  have known := s.row_issued id (by rw [stored]; rfl)
  exact List.mem_map.mpr ⟨(id - 1).toNat, List.mem_range.mpr (by omega), by omega⟩

/-- What a call is answered is one of its answers. -/
theorem answers_of_exec {t : ι} {cmd : Cmd} {choice : Choice} {w w' : World ι}
    {answer : Except Exn cmd.Resp} (ran : exec t cmd choice w = some (answer, w')) :
    cmd.Answers answer := by
  rcases exec_cases ran with ⟨e, _, may, rfl, _⟩ | ran
  · cases cmd with
    | db statement => cases statement with
        | close => cases may
        | selectTicketForUpdate id ownerId => cases ownerId <;> trivial
        | _ => trivial
    | redis n command => cases command <;> trivial
    | now => cases may
    | enqueueJob job | handler => trivial
  · cases cmd with
    | now => cases ran; trivial
    | enqueueJob job | handler => trivial
    | redis n command =>
        obtain ⟨a, r, done, rfl, _⟩ := Cmd.run_redis ran
        cases command with
        | evalReserve ticketTypeId =>
            have done : (w.redis n).reserveScript ticketTypeId = (a, r) := Option.some.inj done
            unfold RedisDb.reserveScript at done
            split at done
            · cases done; exact .inl rfl
            · split at done
              · cases done; exact .inr (.inr rfl)
              · cases done; exact .inr (.inl rfl)
        | _ => trivial
    | db statement =>
        obtain ⟨db', done, _⟩ := Cmd.run_db ran
        cases statement with
        | close => cases done; trivial
        | hungTickets threshold =>
            cases done
            exact (arrange_perm _ _).nodup_iff.mpr (idsWhere_nodup _ _)
        | cancelHungTicket id threshold =>
            rcases DbCmd.run_cancelHungTicket done with ⟨rfl, _⟩ | ⟨ticket, _, _, _, rfl, _⟩
            · trivial
            · exact rfl
        | selectTicketForUpdate id ownerId =>
            cases ownerId with
            | none => trivial
            | some owner =>
                simp only [DbCmd.run, Database.selectTicketForUpdate] at done
                split at done
                · cases done; trivial
                · split at done
                  · cases done; trivial
                  · rename_i owned
                    split at done
                    · cases done; exact not_not.mp owned owner rfl
                    · cases done
        | _ => trivial

/-! ## The calls -/

/-- Await a statement. -/
def sql (statement : DbCmd) : Async statement.Resp := Program.call (Cmd.db statement)

/-- Await a Redis command. -/
def redis (database : Nat) (command : RedisCmd) : Async command.Resp :=
  Program.call (Cmd.redis database command)

/-- `arq_pool.enqueue_job`. -/
def enqueueJob (job : Job) : Async Unit := Program.call (Cmd.enqueueJob job)

/-- The current time, in microseconds. -/
def now : Async Int := Program.call Cmd.now

/-- `int(time.time())`. -/
def seconds (clock : Int) : Int := clock / 1000000

/-- The request's session of `get_db`: rolled back when the request raises, and closed at last. -/
def getDb {α : Type} (request : Async α) : Async α :=
  Program.ensuring (tryCatch request fun e => do sql .rollback; throw e) (sql .close)

/-- `async with session_maker() as session`. -/
def withSession {α : Type} (body : Async α) : Async α :=
  Program.ensuring body (sql .close)

/-! ## The calls of a session -/

section Sessions

variable {α : Type} {P : Cmd → Prop}

theorem only_rollback (rollback : P (.db .rollback)) (e : Exn) :
    (do sql .rollback; throw e : Async α).Only P :=
  Program.Only.bind (Program.Only.call rollback) fun _ => trivial

theorem only_getDb {request : Async α} (rollback : P (.db .rollback)) (close : P (.db .close))
    (h : request.Only P) : (getDb request).Only P :=
  Program.Only.ensuring (Program.Only.tryCatch h (only_rollback rollback)) (Program.Only.call close)

theorem only_withSession {body : Async α} (close : P (.db .close)) (h : body.Only P) :
    (withSession body).Only P :=
  Program.Only.ensuring h (Program.Only.call close)

/-- A run of a Redis command that does not fail. -/
theorem runs_redis_inv {t : ι} {w w' : World ι} {events : List (CallEvent ι)} {n : Nat}
    {command : RedisCmd} {outcome : Except Exn command.Resp}
    (run : (redis n command).Runs exec t w events outcome w')
    (clean : ∀ e ∈ events, e.choice.fault = none) :
    ∃ a r clock entries, command.run clock entries (w.redis n) = some (a, r) ∧
      outcome = .ok a ∧
      w' = { w with redis := Function.update w.redis n r } := by
  obtain ⟨choice, ran, rfl⟩ := Program.Runs.call_inv run
  cases outcome with
  | error e => exact (redis_clean (clean _ (List.mem_singleton_self _)) ran).elim
  | ok a =>
      obtain ⟨r, done, same⟩ := ran_redis ran
      exact ⟨a, r, choice.clock, choice.entries, done, rfl, same⟩

/-- A run of a request in its session: after the request only the session's end. -/
theorem runs_getDb_inv {t : ι} {w w' : World ι} {events : List (CallEvent ι)}
    {request : Async α}
    {outcome : Except Exn α} (rollback : P (.db .rollback)) (close : P (.db .close))
    (run : (getDb request).Runs exec t w events outcome w') :
    ∃ first middle w₁ second, request.Runs exec t w first middle w₁ ∧
      events = first ++ second ∧
      ∀ e ∈ second, P e.cmd := by
  obtain ⟨first, _, w₁, last, _, handled, closed, rfl, _⟩ := Program.Runs.ensuring_inv run
  have closes := (Program.Only.call close).runs closed
  rcases Program.Runs.tryCatch_inv handled with
    ⟨head, e, w₂, tail, ran, handler, rfl⟩ | ⟨a, ran, _⟩
  · refine ⟨head, _, w₂, tail ++ last, ran, List.append_assoc .., fun e' mem => ?_⟩
    rcases List.mem_append.mp mem with mem | mem
    · exact (only_rollback rollback e).runs handler e' mem
    · exact closes e' mem
  · exact ⟨first, _, w₁, last, ran, rfl, closes⟩

end Sessions

end TicketCore
