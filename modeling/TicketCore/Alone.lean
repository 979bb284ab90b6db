import TicketCore.Booking.Runs
import TicketCore.Interleave.Alone
import TicketCore.Reconcile.Refunds
import TicketCore.Worker

/-!
# Calls run alone

The rules of programs run alone for the calls of the booking code, where no call fails:
`CleanAt clock` is the guard, which also fixes the time that the program reads.
-/

namespace TicketCore

open Interleave RowStore

variable {ι : Type} [DecidableEq ι]

/-- The call has not failed, and reads this time if it reads one. -/
def CleanAt (clock : Int) (e : CallEvent ι) : Prop :=
  e.choice.fault = none ∧ (e.cmd = .now → e.choice.clock = clock)

instance (clock : Int) (e : CallEvent ι) : Decidable (CleanAt clock e) :=
  match same : e.cmd with
  | .now => decidable_of_iff (e.choice.fault = none ∧ e.choice.clock = clock)
      ⟨fun h => ⟨h.1, fun _ => h.2⟩, fun h => ⟨h.1, h.2 same⟩⟩
  | .db _ | .redis .. | .enqueueJob _ | .handler => decidable_of_iff (e.choice.fault = none)
      ⟨fun h => ⟨h, fun reads => by rw [same] at reads; cases reads⟩, fun h => h.1⟩

omit [DecidableEq ι] in
theorem CleanAt.clean {clock : Int} (e : CallEvent ι) (h : CleanAt clock e) :
    e.choice.fault = none :=
  h.1

/-- How a call ends, alone in this environment; `none` if it has to wait. -/
def outcomeOf {α : Type} (t : ι) (env : Nat → Choice) (p : Async α) (w : World ι) :
    Option (Except Exn α) :=
  (p.play exec t env w).map fun run => run.2.1

/-- No transaction is open, not even on events. -/
structure Database.Calm (db : Database ι) : Prop where
  quiet : db.Quiet
  events : db.events.Quiet

theorem release_of_quiet {Row : Type} {s : RowStore ι Row} {t : ι} (quiet : s.Quiet) :
    s.release t = s.held := funext fun id => by
  unfold release
  rw [quiet id]

/-- A table without locks has none to drop. -/
theorem rollback_of_quiet {Row : Type} {s : RowStore ι Row} {t : ι} (quiet : s.Quiet) :
    s.rollback t = s := by
  unfold rollback
  simp only [release_of_quiet quiet]

theorem read_calm {Row : Type} {s : RowStore ι Row} {t : ι} (quiet : s.Quiet) :
    s.read t = s.row :=
  funext fun _ => read_of_not_held (heldBy_of_quiet quiet)

omit [DecidableEq ι] in
theorem free_calm {Row : Type} {s : RowStore ι Row} {t : ι} {id : Int} (quiet : s.Quiet) :
    s.Free t id := by
  intro lock mem
  rw [quiet id] at mem
  cases mem

/-- A committed table reads as it was read before. -/
theorem read_commit {Row : Type} {s : RowStore ι Row} {t : ι} : (s.commit t).read t = s.read t :=
  funext fun _ => read_of_not_held heldBy_commit_self

theorem commit_of_quiet {Row : Type} {s : RowStore ι Row} {t : ι} (quiet : s.Quiet) :
    s.commit t = s := by
  unfold commit
  simp only [release_of_quiet quiet, read_calm quiet]

theorem Database.Calm.rollback {db : Database ι} (h : db.Calm) (t : ι) : db.rollback t = db := by
  unfold Database.rollback
  rw [rollback_of_quiet h.quiet.1, rollback_of_quiet h.quiet.2, rollback_of_quiet h.events]

theorem release_rollback {Row : Type} {s : RowStore ι Row} {t : ι} :
    (s.rollback t).release t = s.release t := by
  funext id
  refine Option.ext fun lock => ?_
  have once : (s.rollback t).held id = s.release t id := rfl
  rw [release_eq_some, once, release_eq_some]
  exact ⟨fun h => ⟨h.1.1, h.2⟩, fun h => ⟨h, h.2⟩⟩

/-- Rolling back again does nothing. -/
theorem rollback_rollback {db : Database ι} {t : ι} :
    (db.rollback t).rollback t = db.rollback t := by
  have twice : ∀ {Row : Type} {s : RowStore ι Row},
      (s.rollback t).rollback t = s.rollback t := by
    intro Row s
    have released := release_rollback (s := s) (t := t)
    unfold RowStore.rollback at released ⊢
    simp only [released]
  unfold Database.rollback
  simp only [twice]

namespace World

/-- The refund script for one ticket after another, in one Redis database. -/
def refundAll (w : World ι) (n : Nat) (refunds : List (Int × Int)) : World ι :=
  { w with redis := Function.update w.redis n ((w.redis n).refundAll refunds) }

variable {w : World ι} {n : Nat} {refunds : List (Int × Int)}

omit [DecidableEq ι] in
theorem refundAll_nil : w.refundAll n [] = w := by
  unfold refundAll
  rw [RedisDb.refundAll, Function.update_eq_self]

omit [DecidableEq ι] in
theorem refundAll_redis : (w.refundAll n refunds).redis n = (w.redis n).refundAll refunds :=
  redis_update

end World

section Calls

variable {t : ι} {guard : CallEvent ι → Prop} {w : World ι} {α : Type}

/-- The guard lets no call of this command fail. -/
def Works (guard : CallEvent ι → Prop) (cmd : Cmd) : Prop :=
  ∀ e, guard e → e.cmd = cmd → e.choice.fault = none

theorem ensures_sql_works {statement : DbCmd} (works : Works guard (.db statement))
    {post : Except Exn statement.Resp → World ι → Prop}
    (h : ∀ clock rows answer db', statement.run t clock rows w.db = some (answer, db') →
      post answer { w with db := db' }) :
    (sql statement).Ensures exec t guard post w := by
  refine Program.Ensures.call fun choice answer w' ran ok => ?_
  rcases exec_cases ran with ⟨_, fault, _⟩ | ran
  · rw [works _ ok rfl] at fault
    cases fault
  · obtain ⟨db', done, rfl⟩ := Cmd.run_db ran
    exact h _ _ _ _ done

theorem ensures_redis_works {n : Nat} {command : RedisCmd} (works : Works guard (.redis n command))
    {post : Except Exn command.Resp → World ι → Prop}
    (h : ∀ clock entries a r, command.run clock entries (w.redis n) = some (a, r) →
      post (.ok a) { w with redis := Function.update w.redis n r }) :
    (redis n command).Ensures exec t guard post w := by
  refine Program.Ensures.call fun choice answer w' ran ok => ?_
  rcases exec_cases ran with ⟨_, fault, _⟩ | ran
  · rw [works _ ok rfl] at fault
    cases fault
  · obtain ⟨a, r, done, rfl, rfl⟩ := Cmd.run_redis ran
    exact h _ _ _ _ done

/-- A call that fails has no effect. -/
theorem ensures_fault {cmd : Cmd} (raised : Exn) (may : cmd.mayFail = true)
    (fails : ∀ e, guard e → e.cmd = cmd → e.choice.fault = some raised)
    {post : Except Exn cmd.Resp → World ι → Prop} (h : post (.error raised) w) :
    (Program.call cmd : Async cmd.Resp).Ensures exec t guard post w := by
  refine Program.Ensures.call fun choice answer w' ran ok => ?_
  have fault : choice.fault = some raised := fails _ ok rfl
  unfold exec at ran
  rw [fault] at ran
  dsimp only at ran
  rw [if_pos may] at ran
  cases ran
  exact h

/-- A request's session: what it has not committed is rolled back when it raises, and at last. -/
theorem ensures_getDb (rollback : Works guard (.db .rollback)) (close : Works guard (.db .close))
    {body : Async α} {post : Except Exn α → World ι → Prop} (h : body.Ensures exec t guard
      (fun outcome w' => post outcome { w' with db := w'.db.rollback t }) w) :
    (getDb body).Ensures exec t guard post w := by
  refine Program.Ensures.ensuring (Program.Ensures.tryCatch (h.mono fun outcome w' holds => ?_))
  cases outcome with
  | ok a =>
      refine ensures_sql_works close ?_
      rintro _ _ _ _ ⟨⟩
      exact holds
  | error e =>
      refine Program.Ensures.bind (ensures_sql_works rollback ?_)
      rintro _ _ _ _ ⟨⟩
      refine ensures_sql_works close ?_
      rintro _ _ _ _ ⟨⟩
      show post (.error e) { w' with db := (w'.db.rollback t).rollback t }
      rw [rollback_rollback]
      exact holds

end Calls

section Rules

variable {t : ι} {guard : CallEvent ι → Prop} {w : World ι} {α : Type}
  (clean : ∀ e, guard e → e.choice.fault = none)

include clean

theorem ensures_sql {statement : DbCmd} {post : Except Exn statement.Resp → World ι → Prop}
    (h : ∀ clock rows answer db', statement.run t clock rows w.db = some (answer, db') →
      post answer { w with db := db' }) :
    (sql statement).Ensures exec t guard post w :=
  ensures_sql_works (fun e ok _ => clean e ok) h

theorem ensures_redis {n : Nat} {command : RedisCmd}
    {post : Except Exn command.Resp → World ι → Prop}
    (h : ∀ clock entries a r, command.run clock entries (w.redis n) = some (a, r) →
      post (.ok a) { w with redis := Function.update w.redis n r }) :
    (redis n command).Ensures exec t guard post w :=
  ensures_redis_works (fun e ok _ => clean e ok) h

/-- A session is closed at last, and the transaction is rolled back. -/
theorem ensures_withSession {body : Async α} {post : Except Exn α → World ι → Prop}
    (h : body.Ensures exec t guard
      (fun outcome w' => post outcome { w' with db := w'.db.rollback t }) w) :
    (withSession body).Ensures exec t guard post w := by
  refine Program.Ensures.ensuring (h.mono fun outcome w' holds => ensures_sql clean ?_)
  rintro _ _ _ _ ⟨⟩
  exact holds

/-- Refunds in turn. -/
theorem ensures_refunds {A : Type} {n : Nat} {typeOf ticketOf : A → Int} {xs : List A}
    {post : Except Exn PUnit → World ι → Prop}
    (h : post (.ok ⟨⟩) (w.refundAll n (xs.map fun x => (typeOf x, ticketOf x)))) :
    (xs.forM fun x => RedisKeys.refundInventoryIdempotent n (typeOf x) (ticketOf x)).Ensures exec t
      guard post w := by
  induction xs generalizing w with
  | nil =>
      rw [List.map_nil, World.refundAll_nil] at h
      exact h
  | cons x xs ih =>
      refine Program.Ensures.bind (ensures_redis clean ?_)
      rintro _ _ _ _ ⟨⟩
      refine ih ?_
      unfold World.refundAll
      rw [redis_update]
      dsimp only
      rw [Function.update_idem]
      exact h

omit clean in
theorem ensures_now {clock : Int} {post : Except Exn Int → World ι → Prop}
    (h : post (.ok clock) w) : now.Ensures exec t (CleanAt clock) post w := by
  refine Program.Ensures.call fun choice answer w' ran ok => ?_
  rcases exec_cases ran with ⟨_, _, may, _⟩ | ran
  · cases may
  · cases ran
    rw [ok.2 rfl]
    exact h

omit clean in
/-- The time may be any. -/
theorem ensures_anytime {post : Except Exn Int → World ι → Prop}
    (h : ∀ clock, post (.ok clock) w) :
    now.Ensures exec t guard post w := by
  refine Program.Ensures.call fun choice answer w' ran _ => ?_
  rcases exec_cases ran with ⟨_, _, may, _⟩ | ran
  · cases may
  · cases ran
    exact h _

theorem ensures_enqueueJob {job : Job} {post : Except Exn Unit → World ι → Prop}
    (h : post (.ok ()) { w with jobs := w.jobs ++ [job] }) :
    (enqueueJob job).Ensures exec t guard post w := by
  refine Program.Ensures.call fun choice answer w' ran ok => ?_
  rcases exec_cases ran with ⟨_, fault, _⟩ | ran
  · rw [clean _ ok] at fault
    cases fault
  · cases ran
    exact h

end Rules

end TicketCore
