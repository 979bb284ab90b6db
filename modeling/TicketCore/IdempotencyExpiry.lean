import TicketCore.Idempotency.Ownership
import Mathlib.Data.Fin.VecNotation

/-!
# Idempotency records that expire

Requests under one key, while Redis may drop their record as soon as its time is over.

* `keepsToOwn_of_exclusive`: nobody overwrites or deletes another request's record in a run in which
  no request acquires the lock while another one is between its own lock and its save or unlock.
* `slow_handler_overwrites`: a handler that outlives the record saves its response over the lock of
  the next request, because `save_response` and `unlock` do not look whose record it is.
-/

namespace TicketCore

open Interleave

variable {ι : Type} [DecidableEq ι] {contest : Contest ι} {events : List (CallEvent ι)}
  {w w' : World ι} {ghost : ι → Stage} {t : ι} {g g' : Stage} {cmd : Cmd} {d : Deployment}

/-- The threads: requests, and expiries of the record. -/
def Contest.expiringProgram (contest : Contest ι) (expires : ι → Bool) (t : ι) : Async Unit :=
  if expires t then redis contest.service.redis (.expire contest.redisKey)
  else unit (contest.program t)

namespace Expiry

/-- What the events say of a request at this stage. -/
def Noted (events : List (CallEvent ι)) (t : ι) : Stage → Prop
  | .start | .waiting => ∀ e ∈ events, ¬ locks t e ∧ ¬ settles t e
  | .running | .returned _ | .raised _ => Inside events t
  | _ => True

/-- The invariant. -/
structure Inv (contest : Contest ι) (events : List (CallEvent ι)) (w : World ι)
    (ghost : ι → Stage) : Prop where
  sane : Sane (contest.record w)
  noted : ∀ t, Noted events t (ghost t)
  owned : Exclusive events → Owned contest events w

/-- The discipline of requests whose records expire. -/
def discipline (contest : Contest ι) :
    Discipline ι (World ι) Cmd Cmd.Resp Exn Choice Stage where
  guard _ := True
  inv := Inv contest

/-- What happens to other requests says nothing about this one. -/
theorem Noted.other {e : CallEvent ι} (h : Noted events t g) (other : e.thread ≠ t) :
    Noted (events ++ [e]) t g := by
  have fresh : ¬ locks t e := fun locked => other (locks_thread locked)
  have unsettled : ¬ settles t e := fun settled => other (settles_thread settled)
  have kept : (∀ e ∈ events, ¬ locks t e ∧ ¬ settles t e) →
      ∀ e' ∈ events ++ [e], ¬ locks t e' ∧ ¬ settles t e' := by
    intro old e' mem
    rcases List.mem_append.mp mem with mem | mem
    · exact old e' mem
    · rw [List.mem_singleton.mp mem]
      exact ⟨fresh, unsettled⟩
  cases g with
  | start | waiting => exact kept h
  | running | returned response | raised x =>
      have inside : Inside events t := h
      exact inside.append unsettled
  | saved response | released x | refused | answered response => trivial

/-- The rule for one call. -/
theorem follows_call {post : Except Exn cmd.Resp → Stage → Prop}
    (step : ∀ events w choice answer w', Sane (contest.record w) → Noted events t g →
      exec t cmd choice w = some (answer, w') →
      ∃ g', Sane (contest.record w') ∧
        Noted (events ++ [⟨t, cmd, choice, answer, w, w'⟩]) t g' ∧
        (Owned contest events w → Exclusive (events ++ [⟨t, cmd, choice, answer, w, w'⟩]) →
          Owned contest (events ++ [⟨t, cmd, choice, answer, w, w'⟩]) w') ∧ post answer g') :
    (discipline contest).Follows exec t post (.call cmd) g := by
  refine Discipline.Follows.call fun events w ghost choice answer w' inv own ran _ => ?_
  have noted := inv.noted t
  rw [own] at noted
  obtain ⟨g', sane, noted', owned, holds⟩ := step events w choice answer w' inv.sane noted ran
  refine ⟨g', ⟨sane, ?_, fun exclusive => owned (inv.owned exclusive.before) exclusive⟩,
    holds⟩
  exact (Function.forall_update_iff ghost fun u g =>
    Noted (events ++ [⟨t, cmd, choice, answer, w, w'⟩]) u g).mpr
    ⟨noted', fun u other => (inv.noted u).other other.symm⟩

/-- A call that neither stores nor touches anything. -/
theorem owned_quiet {choice : Choice} {answer : Except Exn cmd.Resp}
    (stores : wrote (⟨t, cmd, choice, answer, w, w'⟩ : CallEvent ι) = none)
    (record : (contest.record w').isSome → (contest.record w).isSome)
    (touching : ∀ u, ¬ touches u (⟨t, cmd, choice, answer, w, w'⟩ : CallEvent ι))
    (h : Owned contest events w) :
    Owned contest (events ++ [⟨t, cmd, choice, answer, w, w'⟩]) w' :=
  Owned.quiet (e := ⟨t, cmd, choice, answer, w, w'⟩) h stores record
    fun u touched => (touching u touched).elim

/-- `SET NX EX` of the lock. -/
theorem follows_setNxEx {post : Except Exn Bool → Stage → Prop}
    (failed : ∀ e, post (.error e) .refused) (acquired : post (.ok true) .running)
    (taken : post (.ok false) .waiting) :
    (discipline contest).Follows exec t post (redis contest.service.redis (.setNxEx contest.redisKey
      (contest.lockRecord t) contest.service.ttlSeconds)) .start := by
  refine follows_call fun events w choice answer w' sane noted ran => ?_
  have fresh : ∀ e ∈ events, ¬ locks t e ∧ ¬ settles t e := noted
  rcases exec_cases ran with ⟨e, _, _, rfl, rfl⟩ | ran
  · exact ⟨.refused, sane, trivial, fun owned _ =>
      owned_quiet rfl id (fun _ touched => by cases touched) owned, failed e⟩
  obtain ⟨result, r, done, rfl, changed⟩ := Cmd.run_redis ran
  have record' := Contest.record_redis changed
  simp only [RedisCmd.run] at done
  split at done
  · rename_i absent
    cases done
    rw [Contest.record_setRecord] at record'
    refine ⟨.running, ?_, ?_, fun owned exclusive => ?_, acquired⟩
    · rw [record']
      exact lockRecord_sane
    · refine ⟨⟨_, List.mem_append_right _ (List.mem_singleton_self _), decide_eq_true rfl⟩,
        fun e mem => ?_⟩
      rcases List.mem_append.mp mem with mem | mem
      · exact (fresh e mem).2
      · rw [List.mem_singleton.mp mem]
        exact fun settled => by cases settled
    · exact Owned.lock (t := t) owned (decide_eq_true rfl) (fun _ touched => by cases touched)
        fun u other => exclusive.last (decide_eq_true rfl) other
  · cases done
    refine ⟨.waiting, by rw [record']; exact sane, fun e mem => ?_,
      fun owned _ => owned_quiet rfl (by rw [record']; exact id)
        (fun _ touched => by cases touched) owned, taken⟩
    rcases List.mem_append.mp mem with mem | mem
    · exact fresh e mem
    · rw [List.mem_singleton.mp mem]
      exact ⟨(fun locked => by cases locked), fun settled => by cases settled⟩

/-- `GET` of the record. -/
theorem follows_get {post : Except Exn (Option RecordText) → Stage → Prop}
    (failed : ∀ e, post (.error e) .refused)
    (read : ∀ raw, IdempotencyService.answerFromRecord (contest.hash t) raw ≠ .ok none →
      post (.ok raw) .refused) :
    (discipline contest).Follows exec t post
      (redis contest.service.redis (.get contest.redisKey)) .waiting := by
  refine follows_call fun events w choice answer w' sane noted ran => ?_
  rcases exec_cases ran with ⟨e, _, _, rfl, rfl⟩ | ran
  · exact ⟨.refused, sane, trivial, fun owned _ => owned_quiet rfl id nofun owned, failed e⟩
  obtain ⟨result, r, done, rfl, changed⟩ := Cmd.run_redis ran
  cases done
  have record' : contest.record w' = contest.record w := Contest.record_redis changed
  exact ⟨.refused, by rw [record']; exact sane, trivial,
    fun owned _ => owned_quiet rfl (by rw [record']; exact id) nofun owned,
    read _ (answerFromRecord_sane sane)⟩

/-- The handler of the request that has acquired the lock. -/
theorem follows_handler {post : Except Exn JsonObject → Stage → Prop}
    (returned : ∀ response, post (.ok response) (.returned response))
    (raised : ∀ x, post (.error x) (.raised x)) :
    (discipline contest).Follows exec t post (.call Cmd.handler) .running := by
  refine follows_call fun events w choice answer w' sane noted ran => ?_
  have inside : Inside events t := noted
  rcases exec_cases ran with ⟨e, _, may, _⟩ | ran
  · cases may
  cases ran
  cases choice.outcome with
  | ok response =>
      exact ⟨.returned response, sane, inside.append nofun,
        fun owned _ => owned_quiet rfl id nofun owned, returned response⟩
  | error x =>
      exact ⟨.raised x, sane, inside.append nofun,
        fun owned _ => owned_quiet rfl id nofun owned, raised x⟩

/-- `SET EX` of the response. -/
theorem follows_setEx {response : JsonObject} {post : Except Exn Unit → Stage → Prop}
    (failed : ∀ x, post (.error x) (.raised x)) (saved : post (.ok ()) (.saved response)) :
    (discipline contest).Follows exec t post (redis contest.service.redis (.setEx contest.redisKey
      (contest.savedRecord t response) contest.service.ttlSeconds)) (.returned response) := by
  refine follows_call fun events w choice answer w' sane noted ran => ?_
  have inside : Inside events t := noted
  rcases exec_cases ran with ⟨e, _, _, rfl, rfl⟩ | ran
  · exact ⟨.raised e, sane, inside.append nofun, fun owned _ => owned_quiet rfl id nofun owned,
      failed e⟩
  obtain ⟨result, r, done, rfl, changed⟩ := Cmd.run_redis ran
  cases done
  have record' := Contest.record_redis changed
  rw [Contest.record_setRecord] at record'
  exact ⟨.saved response, by rw [record']; exact fun _ => rfl, trivial,
    fun owned _ => Owned.save (t := t) owned inside (decide_eq_true rfl)
      (fun u touched => (of_decide_eq_true touched).symm) nofun, saved⟩

/-- `DEL` of the lock. -/
theorem follows_delete {x : Exn} {post : Except Exn Unit → Stage → Prop}
    (any : ∀ answer, post answer .refused) :
    (discipline contest).Follows exec t post
      (redis contest.service.redis (.delete contest.redisKey)) (.raised x) := by
  refine follows_call fun events w choice answer w' sane noted ran => ?_
  have inside : Inside events t := noted
  rcases exec_cases ran with ⟨e, _, _, rfl, rfl⟩ | ran
  · exact ⟨.refused, sane, trivial, fun owned _ => owned_quiet rfl id nofun owned, any _⟩
  obtain ⟨result, r, done, rfl, changed⟩ := Cmd.run_redis ran
  cases done
  have record' := Contest.record_redis changed
  rw [Contest.record_setRecord] at record'
  refine ⟨.refused, by rw [record']; trivial, trivial, fun owned _ => ?_, any _⟩
  refine Owned.quiet (e := ⟨t, _, _, _, w, w'⟩) owned rfl (by rw [record']; nofun)
    fun u touched => ?_
  have same : t = u := of_decide_eq_true touched
  rwa [← same]

/-- The record's time is over. -/
theorem follows_expire {post : Except Exn Unit → Stage → Prop}
    (any : ∀ answer, post answer .refused) :
    (discipline contest).Follows exec t post
      (redis contest.service.redis (.expire contest.redisKey)) .refused := by
  refine follows_call fun events w choice answer w' sane noted ran => ?_
  rcases exec_cases ran with ⟨e, _, may, _⟩ | ran
  · cases may
  obtain ⟨result, r, done, rfl, changed⟩ := Cmd.run_redis ran
  simp only [RedisCmd.run] at done
  split at done
  · cases done
  · split at done
    · cases done
      have record' := Contest.record_redis changed
      rw [Contest.record_setRecord] at record'
      exact ⟨.refused, by rw [record']; trivial, trivial,
        fun owned _ => owned_quiet rfl (by rw [record']; exact fun stored => by cases stored)
          (fun _ touched => by cases touched) owned, any _⟩
    · cases done

/-- Every request keeps the invariant. -/
theorem follows_program :
    (discipline contest).Follows exec t (fun _ _ => True) (contest.program t) .start := by
  refine Discipline.Follows.bind (fun cached g' => cached = none → g' = .running) ?_ ?_
  · refine Discipline.Follows.bind (fun acquired g' => (acquired = true ∧ g' = .running) ∨
      (acquired = false ∧ g' = .waiting))
      (follows_setNxEx (fun _ => trivial) (.inl ⟨rfl, rfl⟩) (.inr ⟨rfl, rfl⟩)) ?_
    rintro _ _ (⟨rfl, rfl⟩ | ⟨rfl, rfl⟩)
    · exact fun _ => rfl
    · refine Discipline.Follows.bind (fun raw _ =>
        IdempotencyService.answerFromRecord (contest.hash t) raw ≠ .ok none)
        (follows_get (fun _ => trivial) fun raw some => some) ?_
      intro raw g' some
      have same : contest.service.hashPayload (contest.request t).payload = contest.hash t := rfl
      rw [same]
      cases answered : IdempotencyService.answerFromRecord (contest.hash t) raw with
      | ok cached =>
          intro none
          rw [none] at answered
          exact (some answered).elim
      | error e => trivial
  · intro cached g' running
    cases cached with
    | some response => trivial
    | none =>
        rw [running rfl]
        refine Discipline.Follows.tryCatch (fun e g' => g' = .raised e) ?_ ?_
        · refine Discipline.Follows.bind (fun response g' => g' = .returned response)
            (follows_handler (fun _ => rfl) fun _ => rfl) ?_
          rintro response _ rfl
          exact Discipline.Follows.bind (fun _ _ => True)
            (follows_setEx (fun _ => rfl) trivial) fun _ _ _ => trivial
        · rintro x _ rfl
          refine Discipline.Follows.bind (fun _ _ => True) (follows_delete fun answer => ?_)
            fun _ _ _ => trivial
          cases answer with
          | ok _ => trivial
          | error _ => trivial

end Expiry

/-- **Requests that are inside one at a time keep to their own records.** -/
theorem keepsToOwn_of_exclusive {expires : ι → Bool}
    {c : Config ι (World ι) Cmd Cmd.Resp Exn Unit} (sane : Sane (contest.record w))
    (run : Config.Run exec ⟨w, contest.expiringProgram expires⟩ events c)
    (exclusive : Exclusive events) : KeepsToOwn contest events := by
  have start : (Expiry.discipline contest).Holds exec (fun _ _ _ => True) []
      ⟨w, contest.expiringProgram expires⟩ := by
    refine ⟨fun t => if expires t then .refused else .start, ⟨sane, fun t => ?_, fun _ => ?_⟩,
      fun t => ?_⟩
    · show Expiry.Noted [] t (if expires t then .refused else .start)
      split
      · trivial
      · exact fun _ mem => (List.not_mem_nil mem).elim
    · refine ⟨fun t _ inside => ?_, fun t inside => ?_, fun before e after split => ?_⟩
      · obtain ⟨⟨_, mem, _⟩, _⟩ := inside
        exact (List.not_mem_nil mem).elim
      · obtain ⟨⟨_, mem, _⟩, _⟩ := inside
        exact (List.not_mem_nil mem).elim
      · exact (List.append_ne_nil_of_right_ne_nil before
          (List.cons_ne_nil e after) split.symm).elim
    · show (Expiry.discipline contest).Follows exec t (fun _ _ => True)
        (if expires t then redis contest.service.redis (.expire contest.redisKey)
          else unit (contest.program t)) (if expires t then .refused else .start)
      split
      · exact Expiry.follows_expire fun _ => trivial
      · refine Discipline.Follows.bind (fun _ _ => True) (Expiry.follows_program.mono ?_)
          fun _ _ _ => trivial
        intro outcome g' _
        cases outcome with
        | ok _ => trivial
        | error _ => trivial
  obtain ⟨ghost, inv, _⟩ := start.run run fun _ _ => trivial
  exact (inv.owned exclusive).safe

/-! ## A handler that outlives its lock -/

/-- Two requests of one user, with the shipped time to live; the third thread is an expiry. -/
def twoRequests : Contest (Fin 3) where
  service := ⟨0, shippedSettings.deployment.redisTtlSeconds, id⟩
  userId := 1
  action := "create_ticket"
  idempotencyKey := "key"
  payload _ := some [("ticket", .obj [("ticket_type_id", .int 1)])]
  encode response := response

/-- The first request has saved its response and the response expires; then the second one acquires
the lock, its handler raises, and it unlocks. -/
theorem keepsToOwn_of_one_after_the_other :
    ∃ (events : List (CallEvent (Fin 3)))
      (c : Config (Fin 3) (World (Fin 3)) Cmd Cmd.Resp Exn Unit),
      Config.Run exec ⟨World.empty, twoRequests.expiringProgram (· = 2)⟩ events c ∧
      events.length = 7 ∧ KeepsToOwn twoRequests events := by
  have found : ((⟨World.empty, twoRequests.expiringProgram (· = 2)⟩ :
      Config (Fin 3) (World (Fin 3)) Cmd Cmd.Resp Exn Unit).replay exec
        [(0, {}), (0, { outcome := .ok [("id", .int 1)] }), (0, { clock := 5000000 }),
          (2, { clock := 15000000 }), (1, { clock := 16000000 }), (1, { outcome := .error .value }),
          (1, {})]).any (fun r => decide (r.1.length = 7) &&
            decide (∀ n : Fin r.1.length, ∀ t, locks t r.1[n] →
              ∀ u, u ≠ t → ¬ Inside (r.1.take n) u)) = true := by
    decide
  obtain ⟨events, c, run, holds⟩ := Config.exists_run_of_replay
    (P := fun events _ => decide (events.length = 7) &&
      decide (∀ n : Fin events.length, ∀ t, locks t events[n] →
        ∀ u, u ≠ t → ¬ Inside (events.take n) u)) found
  rw [Bool.and_eq_true] at holds
  have exclusive := exclusive_of_positions (of_decide_eq_true holds.2)
  exact ⟨events, c, run, of_decide_eq_true holds.1,
    keepsToOwn_of_exclusive (w := World.empty) trivial run exclusive⟩

/-- The first handler takes longer than the record lives. The second request acquires the lock, and
the first one saves its response over it. -/
theorem slow_handler_overwrites :
    ∃ (events : List (CallEvent (Fin 3)))
      (c : Config (Fin 3) (World (Fin 3)) Cmd Cmd.Resp Exn Unit),
      Config.Run exec ⟨World.empty, twoRequests.expiringProgram (· = 2)⟩ events c ∧
      twoRequests.record (World.empty : World (Fin 3)) = none ∧
      (∀ e ∈ events, e.choice.fault = none) ∧
      (events.map fun e => e.choice.clock).Pairwise (· ≤ ·) ∧
      ¬ KeepsToOwn twoRequests events := by
  have found : ((⟨World.empty, twoRequests.expiringProgram (· = 2)⟩ :
      Config (Fin 3) (World (Fin 3)) Cmd Cmd.Resp Exn Unit).replay exec
        [(0, {}), (2, { clock := 10000000 }), (1, { clock := 10000000 }),
          (0, { clock := 11000000, outcome := .ok [("id", .int 1)] }),
          (0, { clock := 12000000 })]).any (fun r =>
            (r.1.all fun e => e.choice.fault = none) &&
            (decide ((r.1.map fun e => e.choice.clock).Pairwise (· ≤ ·)) &&
            ((r.1[4]?.any fun e => touches 0 e && (twoRequests.record e.before).isSome) &&
              decide (writer (r.1.take 4) = some 1)))) = true := by
    decide
  obtain ⟨events, c, run, holds⟩ := Config.exists_run_of_replay
    (P := fun events _ => (events.all fun e : CallEvent (Fin 3) => e.choice.fault = none) &&
      (decide ((events.map fun e : CallEvent (Fin 3) => e.choice.clock).Pairwise (· ≤ ·)) &&
      ((events[4]?.any fun e => touches 0 e && (twoRequests.record e.before).isSome) &&
        decide (writer (events.take 4) = some 1)))) found
  rw [Bool.and_eq_true, Bool.and_eq_true, Bool.and_eq_true, List.all_eq_true] at holds
  obtain ⟨clean, clocks, here, foreign⟩ := holds
  obtain ⟨e, found', touched⟩ := (Option.any_eq_true _ _).mp here
  rw [Bool.and_eq_true] at touched
  refine ⟨events, c, run, rfl, fun e mem => of_decide_eq_true (clean e mem),
    of_decide_eq_true clocks, not_keepsToOwn found' touched.1 touched.2 ?_⟩
  rw [of_decide_eq_true foreign]
  decide

end TicketCore
