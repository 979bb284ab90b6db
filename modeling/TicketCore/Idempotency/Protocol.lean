import TicketCore.Idempotency.Contest

/-!
# The invariant of the idempotency protocol

While no record expires and no call to Redis fails, the record of the key is in one of three
states, a `Lock`: free, held by one request whose handler has not been settled yet, or completed
with the response of the one handler that has succeeded. `Protocol.Inv` says what that means for
the stages of all requests, and `Protocol.follows_idempotent` that every request keeps it.
-/

namespace TicketCore

open Interleave

variable {ι : Type} [DecidableEq ι]

/-- The state of the key's record. -/
inductive Lock (ι : Type)
  | free
  | held (t : ι)
  | completed (t : ι) (response : JsonObject)

namespace Stage

/-- The request has the lock. -/
def Holds : Stage → Prop
  | running | returned _ | raised _ => True
  | _ => False

/-- The response of the request's handler, before it is saved. -/
def response : Stage → Option JsonObject
  | returned response => some response
  | _ => none

/-- What the events say of a request at this stage. -/
def Traced (events : List (CallEvent ι)) (t : ι) : Stage → Prop
  | running => True
  | returned _ | raised _ | saved _ | released _ => ∃ e ∈ events, handles t e
  | start | waiting | refused | answered _ => ∀ e ∈ events, ¬ locks t e

/-- How a request ends. -/
def Ends (g : Stage) (outcome : Except Exn (Reply JsonObject)) : Prop :=
  match g with
  | saved response => outcome = .ok (.computed response)
  | released e => outcome = .error e
  | refused => ∃ e, outcome = .error e
  | answered response => outcome = .ok (.cached response)
  | _ => False

end Stage

namespace Protocol

variable (contest : Contest ι)

/-- The stored record in each state. -/
def text : Lock ι → Option RecordText
  | .free => none
  | .held t => some (contest.lockRecord t)
  | .completed t response => some (contest.savedRecord t response)

/-- The stages that a state of the record allows. -/
def Allows (lock : Lock ι) (t : ι) : Stage → Prop
  | .running | .returned _ | .raised _ => lock = .held t
  | .saved response => lock = .completed t response
  | .answered cached => ∃ u response, lock = .completed u response ∧
      cached = contest.encode response ∧ contest.hash u = contest.hash t
  | _ => True

/-- The handlers that have succeeded in each state. -/
def succeeded (ghost : ι → Stage) : Lock ι → List (ι × JsonObject)
  | .free => []
  | .held t => ((ghost t).response.map fun response => (t, response)).toList
  | .completed t response => [(t, response)]

/-- The invariant, for one state of the record. -/
structure InState (lock : Lock ι) (events : List (CallEvent ι)) (w : World ι)
    (ghost : ι → Stage) : Prop where
  record : contest.record w = text contest lock
  allows : ∀ t, Allows contest lock t (ghost t)
  holder : ∀ t, lock = .held t → (ghost t).Holds
  traced : ∀ t, (ghost t).Traced events t
  winners : events.filterMap success = succeeded ghost lock
  saved : (∃ e ∈ events, saves e) → ∃ t response, lock = .completed t response
  failed : ∀ t, (∃ e ∈ events, raises t e) →
    (∃ x, ghost t = .raised x) ∨ ∃ e ∈ events, unlocks t e ∧ contest.record e.after = none

/-- The invariant of the protocol. -/
def Inv (events : List (CallEvent ι)) (w : World ι) (ghost : ι → Stage) : Prop :=
  ∃ lock, InState contest lock events w ghost

/-- The discipline of the protocol: no call fails. -/
def discipline : Discipline ι (World ι) Cmd Cmd.Resp Exn Choice Stage where
  guard e := e.choice.fault = none
  inv := Inv contest

variable {contest} {lock lock' : Lock ι} {events : List (CallEvent ι)} {w w' : World ι}
  {ghost : ι → Stage} {t : ι} {g g' : Stage} {cmd : Cmd} {choice : Choice}
  {answer : Except Exn cmd.Resp}

omit [DecidableEq ι] in
/-- A request that neither has the lock nor knows the response allows every state. -/
theorem Allows.move (h : Allows contest lock t g) (other : ∀ u, lock = .held u → u ≠ t)
    (open' : ∀ u response, lock ≠ .completed u response) : Allows contest lock' t g := by
  cases g with
  | start | waiting | released e | refused => trivial
  | running | returned response | raised e => exact (other t h rfl).elim
  | saved response => exact (open' _ _ h).elim
  | answered cached =>
      obtain ⟨u, response, same, _⟩ := h
      exact (open' _ _ same).elim

/-- What happens to other requests says nothing about this one. -/
theorem Traced.other {e : CallEvent ι} (h : g.Traced events t) (other : e.thread ≠ t) :
    g.Traced (events ++ [e]) t := by
  have fresh : ¬ locks t e := fun locked => other (locks_thread locked)
  have kept : (∀ e ∈ events, ¬ locks t e) → ∀ e' ∈ events ++ [e], ¬ locks t e' := by
    intro old e' mem
    rcases List.mem_append.mp mem with mem | mem
    · exact old e' mem
    · rw [List.mem_singleton.mp mem]
      exact fresh
  cases g with
  | running => trivial
  | returned response | raised x | saved response | released x =>
      obtain ⟨e', mem, handled⟩ := h
      exact ⟨e', List.mem_append_left _ mem, handled⟩
  | start | waiting | refused | answered response => exact kept h

/-- What one call owes to keep the invariant. -/
theorem InState.next (h : InState contest lock events w ghost) (own : ghost t = g)
    (record : contest.record w' = text contest lock') (allows : Allows contest lock' t g')
    (allows' : ∀ u, u ≠ t → Allows contest lock u (ghost u) →
      Allows contest lock' u (ghost u))
    (holder : ∀ u, lock' = .held u → (u = t ∧ g'.Holds) ∨ (u ≠ t ∧ lock = .held u))
    (traced : g'.Traced (events ++ [⟨t, cmd, choice, answer, w, w'⟩]) t)
    (winners : succeeded ghost lock ++ (success ⟨t, cmd, choice, answer, w, w'⟩).toList =
      succeeded (Function.update ghost t g') lock')
    (saved :
      (saves ⟨t, cmd, choice, answer, w, w'⟩ ∨
        ∃ u response, lock = .completed u response) →
      ∃ u response, lock' = .completed u response)
    (failed : (raises t ⟨t, cmd, choice, answer, w, w'⟩ → ∃ x, g' = .raised x) ∧
      ((∃ x, g = .raised x) → (∃ x, g' = .raised x) ∨
        unlocks t ⟨t, cmd, choice, answer, w, w'⟩ ∧ contest.record w' = none)) :
    InState contest lock' (events ++ [⟨t, cmd, choice, answer, w, w'⟩]) w'
      (Function.update ghost t g') := by
  subst own
  refine ⟨record, ?_, ?_, ?_, ?_, ?_, ?_⟩
  · exact (Function.forall_update_iff ghost fun u g => Allows contest lock' u g).mpr
      ⟨allows, fun u other => allows' u other (h.allows u)⟩
  · intro u held
    rcases holder u held with ⟨rfl, mine⟩ | ⟨other, held'⟩
    · rwa [Function.update_self]
    · rw [Function.update_of_ne other]
      exact h.holder u held'
  · exact (Function.forall_update_iff ghost fun u g =>
      g.Traced (events ++ [⟨t, cmd, choice, answer, w, w'⟩]) u).mpr
      ⟨traced, fun u other => Traced.other (h.traced u) other.symm⟩
  · rw [List.filterMap_append, h.winners, ← winners]
    congr 1
  · rintro ⟨e, mem, done⟩
    rcases List.mem_append.mp mem with mem | mem
    · exact saved (.inr (h.saved ⟨e, mem, done⟩))
    · rw [List.mem_singleton.mp mem] at done
      exact saved (.inl done)
  · rintro u ⟨e, mem, raised⟩
    by_cases same : u = t
    · subst same
      rw [Function.update_self]
      rcases List.mem_append.mp mem with mem | mem
      · rcases h.failed u ⟨e, mem, raised⟩ with before | ⟨e', mem', freed⟩
        · rcases failed.2 before with still | freed
          · exact .inl still
          · exact .inr ⟨_, List.mem_append_right _ (List.mem_singleton_self _), freed⟩
        · exact .inr ⟨e', List.mem_append_left _ mem', freed⟩
      · rw [List.mem_singleton.mp mem] at raised
        exact .inl (failed.1 raised)
    · rw [Function.update_of_ne same]
      have early : e ∈ events := by
        rcases List.mem_append.mp mem with mem | mem
        · exact mem
        · rw [List.mem_singleton.mp mem] at raised
          exact (same (raises_thread raised).symm).elim
      rcases h.failed u ⟨e, early, raised⟩ with before | ⟨e', mem', freed⟩
      · exact .inl before
      · exact .inr ⟨e', List.mem_append_left _ mem', freed⟩

/-! ## The calls of a request -/

theorem follows_call {post : Except Exn cmd.Resp → Stage → Prop}
    (run : ∀ lock events w ghost choice answer w', InState contest lock events w ghost →
      ghost t = g → cmd.run t choice w = some (answer, w') →
      ∃ lock' g', InState contest lock' (events ++ [⟨t, cmd, choice, answer, w, w'⟩]) w'
        (Function.update ghost t g') ∧ post answer g') :
    (discipline contest).Follows exec t post (.call cmd) g := by
  refine Discipline.Follows.call fun events w ghost choice answer w' inv own ran clean => ?_
  obtain ⟨lock, state⟩ := inv
  have clean : choice.fault = none := clean
  rcases exec_cases ran with ⟨e, raised, _⟩ | ran
  · rw [clean] at raised
    cases raised
  · obtain ⟨lock', g', state', holds⟩ := run lock events w ghost choice answer w' state own ran
    exact ⟨g', ⟨lock', state'⟩, holds⟩

theorem succeeded_update (other : ∀ u, lock = .held u → u ≠ t) :
    succeeded (Function.update ghost t g') lock = succeeded ghost lock := by
  cases lock with
  | free | completed u response => rfl
  | held u =>
      show ((Function.update ghost t g' u).response.map _).toList = _
      rw [Function.update_of_ne (other u rfl)]
      rfl

/-- A request that does not have the lock goes on, and leaves the record as it is. -/
theorem InState.keep {command : RedisCmd} {answer : Except Exn command.Resp}
    (h : InState contest lock events w ghost)
    (own : ghost t = g) (record : contest.record w' = contest.record w) (outside : ¬ g.Holds)
    (allows : Allows contest lock t g') (traced : g'.Traced
      (events ++ [⟨t, .redis contest.service.redis command, choice, answer, w, w'⟩]) t)
    (keeps : saves (⟨t, .redis contest.service.redis command, choice, answer, w, w'⟩ :
      CallEvent ι) = false) :
    InState contest lock
      (events ++ [⟨t, .redis contest.service.redis command, choice, answer, w, w'⟩]) w'
      (Function.update ghost t g') := by
  have other : ∀ u, lock = .held u → u ≠ t := by
    rintro u held rfl
    have mine := h.holder u held
    rw [own] at mine
    exact outside mine
  refine h.next own (record.trans h.record) allows (fun _ _ allowed => allowed)
    (fun u held => .inr ⟨other u held, held⟩) traced ?_ ?_ ⟨nofun, ?_⟩
  · rw [succeeded_update other]
    exact List.append_nil _
  · rintro (done | before)
    · rw [keeps] at done
      cases done
    · exact before
  · rintro ⟨x, rfl⟩
    exact (outside trivial).elim

/-- `SET NX EX` of the lock. -/
theorem follows_setNxEx {post : Except Exn Bool → Stage → Prop}
    (acquired : post (.ok true) .running) (taken : post (.ok false) .waiting) :
    (discipline contest).Follows exec t post (redis contest.service.redis (.setNxEx contest.redisKey
      (contest.lockRecord t) contest.service.ttlSeconds)) .start := by
  refine follows_call fun lock events w ghost choice answer w' state own ran => ?_
  obtain ⟨result, r, done, rfl, changed⟩ := Cmd.run_redis ran
  have record' := Contest.record_redis changed
  have before := state.record
  have traced := state.traced t
  rw [own] at traced
  have fresh : ∀ e ∈ events, ¬ locks t e := traced
  unfold Contest.record at before
  simp only [RedisCmd.run] at done
  split at done
  · rename_i absent
    cases done
    rw [absent] at before
    rw [Contest.record_setRecord] at record'
    cases lock with
    | held u | completed u response => cases before
    | free =>
        refine ⟨.held t, .running, state.next own record' rfl ?_ ?_ trivial ?_ ?_
          ⟨?_, ?_⟩, acquired⟩
        · exact fun u _ allowed => allowed.move (fun _ same => by cases same)
            fun _ _ same => by cases same
        · exact fun u held => .inl ⟨(Lock.held.inj held).symm, trivial⟩
        · show [] = ((Function.update ghost t .running t).response.map _).toList
          rw [Function.update_self]
          rfl
        · rintro (done | ⟨_, _, same⟩)
          · cases done
          · cases same
        · intro raised
          cases raised
        · rintro ⟨_, same⟩
          cases same
  · rename_i stored found
    cases done
    refine ⟨lock, .waiting, state.keep own record' (fun same => by cases same) trivial ?_ rfl,
      taken⟩
    intro e mem
    rcases List.mem_append.mp mem with mem | mem
    · exact fresh e mem
    · rw [List.mem_singleton.mp mem]
      exact fun locked => by cases locked

/-- What the `GET` of a request that found the key taken leads to. -/
def stageAfterGet (contest : Contest ι) (t : ι) (raw : Option RecordText) : Stage :=
  match IdempotencyService.answerFromRecord (contest.hash t) raw with
  | .ok (some cached) => .answered cached
  | _ => .refused

omit [DecidableEq ι] in
/-- The state of the record allows what a `GET` leads to, and a completed record has a response. -/
theorem answerFromRecord_text (lock : Lock ι) (t : ι) :
    Allows contest lock t (stageAfterGet contest t (text contest lock)) ∧
      IdempotencyService.answerFromRecord (contest.hash t) (text contest lock) ≠ .ok none := by
  unfold stageAfterGet
  cases lock with
  | free => exact ⟨trivial, nofun⟩
  | held u =>
      simp only [text, Contest.lockRecord, IdempotencyService.answerFromRecord]
      split
      · rename_i cached answered
        split at answered
        · cases answered
        · cases answered
      · refine ⟨trivial, ?_⟩
        split
        · nofun
        · nofun
  | completed u response =>
      simp only [text, Contest.savedRecord, IdempotencyService.answerFromRecord]
      by_cases same : some (contest.hash u) = some (contest.hash t)
      · rw [if_neg (not_not.mpr same)]
        exact ⟨⟨u, response, rfl, rfl, Option.some.inj same⟩, nofun⟩
      · rw [if_pos same]
        exact ⟨trivial, nofun⟩

/-- `GET` of the record. -/
theorem follows_get {post : Except Exn (Option RecordText) → Stage → Prop}
    (read : ∀ raw, IdempotencyService.answerFromRecord (contest.hash t) raw ≠ .ok none →
      post (.ok raw) (stageAfterGet contest t raw)) :
    (discipline contest).Follows exec t post
      (redis contest.service.redis (.get contest.redisKey)) .waiting := by
  refine follows_call fun lock events w ghost choice answer w' state own ran => ?_
  obtain ⟨result, r, done, rfl, changed⟩ := Cmd.run_redis ran
  cases done
  have record' := Contest.record_redis changed
  have traced := state.traced t
  rw [own] at traced
  have fresh : ∀ e ∈ events, ¬ locks t e := traced
  have before : Option.map StoredRecord.text
      ((w.redis contest.service.redis).idempotency contest.redisKey) = text contest lock :=
    state.record
  rw [before]
  obtain ⟨allows, some⟩ := answerFromRecord_text lock t
  refine ⟨lock, stageAfterGet contest t (text contest lock),
    state.keep own record' nofun allows ?_ rfl, read _ some⟩
  have fresh' :
      ∀ e ∈ events ++ [⟨t, .redis contest.service.redis (.get contest.redisKey), choice,
      .ok (text contest lock), w, w'⟩], ¬ locks t e := by
    intro e mem
    rcases List.mem_append.mp mem with mem | mem
    · exact fresh e mem
    · rw [List.mem_singleton.mp mem]
      exact nofun
  unfold stageAfterGet
  split
  · exact fresh'
  · exact fresh'

/-- The handler of the request that has the lock. -/
theorem follows_handler {post : Except Exn JsonObject → Stage → Prop}
    (returned : ∀ response, post (.ok response) (.returned response))
    (raised : ∀ x, post (.error x) (.raised x)) :
    (discipline contest).Follows exec t post (.call Cmd.handler) .running := by
  refine follows_call fun lock events w ghost choice answer w' state own ran => ?_
  have held : lock = .held t := by
    have allows := state.allows t
    rw [own] at allows
    exact allows
  subst held
  cases ran
  have mine : handles t (⟨t, .handler, choice, choice.outcome, w, w⟩ : CallEvent ι) :=
    decide_eq_true rfl
  have nobody : succeeded ghost (.held t) = [] := by
    show ((ghost t).response.map _).toList = []
    rw [own]
    rfl
  have holder : ∀ u, Lock.held t = .held u → u = t := fun u held => (Lock.held.inj held).symm
  cases ended : choice.outcome with
  | ok response =>
      rw [ended] at mine
      refine ⟨.held t, .returned response, state.next own state.record rfl
        (fun _ _ allowed => allowed)
        (fun u held => .inl ⟨holder u held, trivial⟩)
        ⟨_, List.mem_append_right _ (List.mem_singleton_self _), mine⟩ ?_ ?_ ⟨nofun, nofun⟩,
        returned response⟩
      · rw [nobody]
        show [(t, response)] = ((Function.update ghost t _ t).response.map _).toList
        rw [Function.update_self]
        rfl
      · rintro (done | before)
        · cases done
        · exact before
  | error x =>
      rw [ended] at mine
      refine ⟨.held t, .raised x, state.next own state.record rfl (fun _ _ allowed => allowed)
        (fun u held => .inl ⟨holder u held, trivial⟩)
        ⟨_, List.mem_append_right _ (List.mem_singleton_self _), mine⟩ ?_ ?_
        ⟨fun _ => ⟨x, rfl⟩, nofun⟩, raised x⟩
      · rw [nobody]
        show [] = ((Function.update ghost t _ t).response.map _).toList
        rw [Function.update_self]
        rfl
      · rintro (done | before)
        · cases done
        · exact before

/-- `SET EX` of the response. -/
theorem follows_setEx {response : JsonObject} {post : Except Exn Unit → Stage → Prop}
    (saved : post (.ok ()) (.saved response)) :
    (discipline contest).Follows exec t post (redis contest.service.redis (.setEx contest.redisKey
      (contest.savedRecord t response) contest.service.ttlSeconds)) (.returned response) := by
  refine follows_call fun lock events w ghost choice answer w' state own ran => ?_
  have held : lock = .held t := by
    have allows := state.allows t
    rw [own] at allows
    exact allows
  subst held
  obtain ⟨result, r, done, rfl, changed⟩ := Cmd.run_redis ran
  cases done
  have record' := Contest.record_redis changed
  rw [Contest.record_setRecord] at record'
  have traced := state.traced t
  rw [own] at traced
  obtain ⟨e, mem, handled⟩ := traced
  refine ⟨.completed t response, .saved response, state.next own record' rfl ?_ nofun
    ⟨e, List.mem_append_left _ mem, handled⟩ ?_ (fun _ => ⟨t, response, rfl⟩)
    ⟨nofun, nofun⟩, saved⟩
  · exact fun u other allowed => allowed.move
      (fun v held => by cases held; exact other.symm) nofun
  · show ((ghost t).response.map _).toList ++ [] = [(t, response)]
    rw [own]
    rfl

/-- `DEL` of the lock. -/
theorem follows_delete {x : Exn} {post : Except Exn Unit → Stage → Prop}
    (released : post (.ok ()) (.released x)) :
    (discipline contest).Follows exec t post
      (redis contest.service.redis (.delete contest.redisKey)) (.raised x) := by
  refine follows_call fun lock events w ghost choice answer w' state own ran => ?_
  have held : lock = .held t := by
    have allows := state.allows t
    rw [own] at allows
    exact allows
  subst held
  obtain ⟨result, r, done, rfl, changed⟩ := Cmd.run_redis ran
  cases done
  have record' := Contest.record_redis changed
  rw [Contest.record_setRecord] at record'
  have traced := state.traced t
  rw [own] at traced
  obtain ⟨e, mem, handled⟩ := traced
  refine ⟨.free, .released x, state.next own record' trivial ?_ nofun
    ⟨e, List.mem_append_left _ mem, handled⟩ ?_ ?_
    ⟨nofun, fun _ => .inr ⟨decide_eq_true rfl, record'⟩⟩, released⟩
  · exact fun u other allowed => allowed.move
      (fun v held => by cases held; exact other.symm) nofun
  · show ((ghost t).response.map _).toList ++ [] = []
    rw [own]
    rfl
  · rintro (done | ⟨_, _, same⟩)
    · cases done
    · cases same

/-! ## A request -/

/-- **Every request keeps the protocol.** -/
theorem follows_program :
    (discipline contest).Follows exec t (fun outcome g' => g'.Ends outcome) (contest.program t)
      .start := by
  refine Discipline.Follows.bind (fun cached g' => (cached = none ∧ g' = .running) ∨
    ∃ response, cached = some response ∧ g' = .answered response) ?_ ?_
  · refine Discipline.Follows.bind (fun acquired g' => (acquired = true ∧ g' = .running) ∨
      (acquired = false ∧ g' = .waiting))
      (follows_setNxEx (.inl ⟨rfl, rfl⟩) (.inr ⟨rfl, rfl⟩)) ?_
    rintro _ _ (⟨rfl, rfl⟩ | ⟨rfl, rfl⟩)
    · exact .inl ⟨rfl, rfl⟩
    · refine Discipline.Follows.bind (fun raw g' => g' = stageAfterGet contest t raw ∧
        IdempotencyService.answerFromRecord (contest.hash t) raw ≠ .ok none)
        (follows_get fun raw some => ⟨rfl, some⟩) ?_
      rintro raw _ ⟨rfl, some⟩
      have same : contest.service.hashPayload (contest.request t).payload = contest.hash t := rfl
      rw [same]
      unfold stageAfterGet
      cases answered : IdempotencyService.answerFromRecord (contest.hash t) raw with
      | ok cached =>
          cases cached with
          | none => exact (some answered).elim
          | some response => exact .inr ⟨response, rfl, rfl⟩
      | error e => exact ⟨e, rfl⟩
  · rintro _ _ (⟨rfl, rfl⟩ | ⟨response, rfl, rfl⟩)
    · refine Discipline.Follows.tryCatch (fun e g' => g' = .raised e) ?_ ?_
      · refine Discipline.Follows.bind (fun response g' => g' = .returned response)
          (follows_handler (fun _ => rfl) fun _ => rfl) ?_
        rintro response _ rfl
        refine Discipline.Follows.bind (fun _ g' => g' = .saved response) (follows_setEx rfl) ?_
        rintro _ _ rfl
        exact rfl
      · rintro x _ rfl
        refine Discipline.Follows.bind (fun _ g' => g' = .released x) (follows_delete rfl) ?_
        rintro _ _ rfl
        exact rfl
    · exact rfl

end Protocol

end TicketCore
