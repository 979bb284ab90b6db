import TicketCore.Idempotency.Traffic
import TicketCore.Sessions
import Mathlib.Data.Fin.VecNotation

/-!
# Replay isolation

A response that is served from an idempotency record was computed before, by a request of the same
user to the same action with the same key and an equal payload; awaited calls may fail, and Redis
may drop records whose time is over.

* `Isolation.Inv`: every stored response has been saved by a request with the key and the payload
  hash of its record, and whoever has been answered read such a record.
* `replay_isolation` is the result for every run of requests on the four endpoints.
-/

namespace TicketCore

open Interleave

/-! ## The protocol -/

namespace Isolation

/-- How far a request has come. -/
inductive Progress
  | working
  | answered (response : JsonObject)
  | saved (response : JsonObject)

variable {ι : Type} [DecidableEq ι] {service : IdempotencyService} {traffic : ι → Traffic}
  {events : List (CallEvent ι)} {w w' : World ι} {ghost : ι → Progress} {t u : ι}
  {g g' : Progress} {cmd : Cmd}

/-- Thread `u` sends this request and has saved this response. -/
def Saved (traffic : ι → Traffic) (events : List (CallEvent ι)) (u : ι) (request : Request)
    (response : JsonObject) : Prop :=
  ∃ call, traffic u = .request call ∧ call.request = some request ∧
    (u, response) ∈ events.filterMap produced

/-- A request with this key and hash has saved this response. -/
def Backed (service : IdempotencyService) (traffic : ι → Traffic) (events : List (CallEvent ι))
    (redisKey hash : String) (response : JsonObject) : Prop :=
  ∃ u request, Saved traffic events u request response ∧ request.redisKey = redisKey ∧
    service.hashPayload request.payload = hash

/-- What the events say of a request at this stage: a stored response was there when the request
read its record. -/
def Noted (service : IdempotencyService) (traffic : ι → Traffic)
    (events : List (CallEvent ι)) (t : ι) :
    Progress → Prop
  | .answered response => ∃ earlier e later call request, events = earlier ++ e :: later ∧
      e.thread = t ∧ e.cmd = .redis service.redis (.get request.redisKey) ∧
      traffic t = .request call ∧ call.request = some request ∧
      Backed service traffic earlier request.redisKey (service.hashPayload request.payload) response
  | _ => True

/-- A record of this key holds a response to this hash. -/
def Holds (service : IdempotencyService) (w : World ι) (key hash : String)
    (response : JsonObject) : Prop :=
  ∃ record, (w.redis service.redis).idempotency key = some record ∧
    record.text = .valid ⟨.completed, some response, some hash⟩

/-- The invariant. -/
structure Inv (service : IdempotencyService) (traffic : ι → Traffic)
    (events : List (CallEvent ι)) (w : World ι) (ghost : ι → Progress) : Prop where
  stored : ∀ key hash response, Holds service w key hash response →
    Backed service traffic events key hash response
  produced : ∀ u response, (u, response) ∈ events.filterMap produced →
      ghost u = .saved response
  noted : ∀ t, Noted service traffic events t (ghost t)

/-- The discipline of requests on the endpoints. -/
def discipline (service : IdempotencyService) (traffic : ι → Traffic) :
    Discipline ι (World ι) Cmd Cmd.Resp Exn Choice Progress where
  guard _ := True
  inv := Inv service traffic

section Later

variable {e : CallEvent ι} {request : Request} {response : JsonObject} {key hash : String}

omit [DecidableEq ι] in
theorem Saved.later (h : Saved traffic events u request response) :
    Saved traffic (events ++ [e]) u request response := by
  obtain ⟨call, sent, keyed, mem⟩ := h
  exact ⟨call, sent, keyed, List.filterMap_append ▸ List.mem_append_left _ mem⟩

omit [DecidableEq ι] in
theorem Backed.later (h : Backed service traffic events key hash response) :
    Backed service traffic (events ++ [e]) key hash response := by
  obtain ⟨u, request, saved, keys, hashes⟩ := h
  exact ⟨u, request, saved.later, keys, hashes⟩

omit [DecidableEq ι] in
theorem Noted.later (h : Noted service traffic events t g) :
    Noted service traffic (events ++ [e]) t g := by
  cases g with
  | working | saved response => trivial
  | answered response =>
      obtain ⟨earlier, e', later, call, request, rfl, rest⟩ := h
      exact ⟨earlier, e', later ++ [e], call, request,
        by rw [List.append_assoc, List.cons_append],
        rest⟩

omit [DecidableEq ι] in
/-- A call that saves no response, and stores none. -/
theorem Inv.silent (h : Inv service traffic events w ghost) (quiet : TicketCore.produced e = none)
    (kept : ∀ key hash response, Holds service w' key hash response →
      Holds service w key hash response) :
    Inv service traffic (events ++ [e]) w' ghost where
  stored key hash response holds :=
    (h.stored key hash response (kept key hash response holds)).later
  produced u response mem := by
    rw [List.filterMap_append, List.filterMap_cons_none quiet, List.filterMap_nil,
      List.append_nil] at mem
    exact h.produced u response mem
  noted t := (h.noted t).later

end Later

/-! ## What the calls keep -/

section Calls

variable {request : Request} {call : ProtectedCall} {response : JsonObject}

/-- The rule for a call that saves no response, and stores none. -/
theorem follows_silent {post : Except Exn cmd.Resp → Progress → Prop}
    (silent : ∀ (choice : Choice) answer (w w' : World ι),
      exec t cmd choice w = some (answer, w') →
      produced (⟨t, cmd, choice, answer, w, w'⟩ : CallEvent ι) = none ∧
        ∀ key hash response, Holds service w' key hash response →
          Holds service w key hash response)
    (ends : ∀ answer, cmd.Answers answer → post answer g) :
    (discipline service traffic).Follows exec t post (.call cmd) g := by
  refine Discipline.Follows.call fun events w ghost choice answer w' inv own ran _ => ?_
  obtain ⟨quiet, kept⟩ := silent choice answer w w' ran
  refine ⟨g, ?_, ends answer (answers_of_exec ran)⟩
  rw [← own, Function.update_eq_self]
  exact Inv.silent inv quiet kept

/-- A call that is not about records stores nothing. -/
theorem holds_of_leaves {choice : Choice} {answer : Except Exn cmd.Resp} {key hash : String}
    (leaves : LeavesRecords cmd) (ran : exec t cmd choice w = some (answer, w'))
    (holds : Holds service w' key hash response) : Holds service w key hash response := by
  obtain ⟨record, found, text⟩ := holds
  rw [leaves.exec ran] at found
  exact ⟨record, found, text⟩

theorem follows_leaves {post : Except Exn cmd.Resp → Progress → Prop}
    (leaves : LeavesRecords cmd) (ends : ∀ answer, cmd.Answers answer → post answer g) :
    (discipline service traffic).Follows exec t post (.call cmd) g :=
  follows_silent (fun _ _ _ _ ran => ⟨leaves.produced, fun _ _ _ => holds_of_leaves leaves ran⟩)
    ends

/-- What a request does behind the decorator. -/
theorem follows_handler {α : Type} {func : Async α} (only : func.Only LeavesRecords) :
    (discipline service traffic).Follows exec t (fun _ g' => g' = g) func g := by
  refine Discipline.Follows.of_only only ?_ fun _ => rfl
  intro cmd events w ghost choice answer w' leaves inv own ran _
  rw [← own, Function.update_eq_self]
  exact Inv.silent inv leaves.produced fun _ _ _ => holds_of_leaves leaves ran

omit [DecidableEq ι] in
/-- A record that a command has put under a key, or taken away from it. -/
theorem holds_setRecord {n : Nat} {key key' hash : String} {stored : Option StoredRecord}
    (changed :
      w' = { w with redis := Function.update w.redis n ((w.redis n).setRecord key stored) })
    (plain : ∀ record, stored = some record → ∀ response hash,
      record.text ≠ .valid ⟨.completed, some response, hash⟩)
    (holds : Holds service w' key' hash response) : Holds service w key' hash response := by
  obtain ⟨record, found, text⟩ := holds
  subst changed
  by_cases here : service.redis = n
  · subst here
    rw [redis_update] at found
    by_cases same : key' = key
    · subst same
      have put : Function.update (w.redis service.redis).idempotency key' stored key' =
          some record :=
        found
      rw [Function.update_self] at put
      exact (plain record put response _ text).elim
    · exact ⟨record, (Function.update_of_ne same _ _).symm.trans found, text⟩
  · have other : Function.update w.redis n ((w.redis n).setRecord key stored) service.redis =
        w.redis service.redis := Function.update_of_ne here _ _
    exact ⟨record, other ▸ found, text⟩

/-- `SET NX EX` of the lock. -/
theorem follows_setNxEx {key : String} {hash : Option String} {ttl : Int}
    {post : Except Exn Bool → Progress → Prop} (ends : ∀ answer, post answer g) :
    (discipline service traffic).Follows exec t post
      (redis service.redis (.setNxEx key (.valid ⟨.inProgress, none, hash⟩) ttl)) g := by
  refine follows_silent
    (fun choice answer w w' ran => ⟨rfl, fun key' hash' response holds => ?_⟩)
    fun answer _ => ends answer
  rcases exec_cases ran with ⟨e, _, _, _, rfl⟩ | ran
  · exact holds
  obtain ⟨a, r, done, _, changed⟩ := Cmd.run_redis ran
  simp only [RedisCmd.run] at done
  split at done
  · cases done
    refine holds_setRecord changed ?_ holds
    rintro _ ⟨⟩ _ _ same
    cases same
  · cases done
    rw [Function.update_eq_self] at changed
    rwa [changed] at holds

/-- `DEL` of a record. -/
theorem follows_delete {key : String} {post : Except Exn Unit → Progress → Prop}
    (ends : ∀ answer, post answer g) :
    (discipline service traffic).Follows exec t post (redis service.redis (.delete key)) g := by
  refine follows_silent
    (fun choice answer w w' ran => ⟨rfl, fun key' hash' response holds => ?_⟩)
    fun answer _ => ends answer
  rcases exec_cases ran with ⟨e, _, _, _, rfl⟩ | ran
  · exact holds
  obtain ⟨a, r, done, _, changed⟩ := Cmd.run_redis ran
  cases done
  exact holds_setRecord changed nofun holds

/-- The record's time is over. -/
theorem follows_expire {key : String} {post : Except Exn Unit → Progress → Prop}
    (ends : ∀ answer, post answer g) :
    (discipline service traffic).Follows exec t post (redis service.redis (.expire key)) g := by
  refine follows_silent
    (fun choice answer w w' ran => ⟨rfl, fun key' hash' response holds => ?_⟩)
    fun answer _ => ends answer
  rcases exec_cases ran with ⟨e, _, _, _, rfl⟩ | ran
  · exact holds
  obtain ⟨a, r, done, _, changed⟩ := Cmd.run_redis ran
  simp only [RedisCmd.run] at done
  split at done
  · cases done
  · split at done
    · cases done
      exact holds_setRecord changed (fun _ stored => by cases stored) holds
    · cases done

/-- What the answer to the decorator makes of a request. -/
def progressOf : Except Exn (Option JsonObject) → Progress
  | .ok (some response) => .answered response
  | _ => .working

/-- A response is answered from a completed record with the hash of the request. -/
theorem record_of_answer {hash : String} {raw : Option RecordText}
    (answered : IdempotencyService.answerFromRecord hash raw = .ok (some response)) :
    raw = some (.valid ⟨.completed, some response, some hash⟩) := by
  unfold IdempotencyService.answerFromRecord at answered
  split at answered
  · cases answered
  · cases answered
  · rename_i data
    split at answered
    · cases answered
    · rename_i hashes
      split at answered
      · cases answered
      · rename_i completed
        obtain ⟨status, stored, digest⟩ := data
        have same : digest = some hash := not_not.mp hashes
        cases completed
        cases answered
        rw [same]

/-- `GET` of the record: what it answers is backed by the events before it. -/
theorem follows_get {post : Except Exn (Option RecordText) → Progress → Prop}
    (sent : traffic t = .request call) (keyed : call.request = some request)
    (failed : ∀ e, post (.error e) .working) (read : ∀ raw, post (.ok raw) (progressOf
      (IdempotencyService.answerFromRecord (service.hashPayload request.payload) raw))) :
    (discipline service traffic).Follows exec t post
      (redis service.redis (.get request.redisKey)) .working := by
  refine Discipline.Follows.call fun events w ghost choice answer w' inv own ran _ => ?_
  have inv : Inv service traffic events w ghost := inv
  have kept : ∀ key hash response, Holds service w' key hash response →
      Holds service w key hash response := by
    rcases exec_cases ran with ⟨e, _, _, _, rfl⟩ | ran
    · exact fun _ _ _ => id
    · obtain ⟨a, r, done, _, changed⟩ := Cmd.run_redis ran
      cases done
      rw [Function.update_eq_self] at changed
      exact changed ▸ fun _ _ _ => id
  have silent := inv.silent (e := ⟨t, _, choice, answer, w, w'⟩) rfl kept
  have stays : ghost = Function.update ghost t .working := by rw [← own, Function.update_eq_self]
  cases answer with
  | error e => exact ⟨.working, stays ▸ silent, failed e⟩
  | ok raw =>
      obtain ⟨r, done, _⟩ := ran_redis ran
      cases done
      refine ⟨_, ?_, read _⟩
      cases answered : IdempotencyService.answerFromRecord (service.hashPayload request.payload)
          (((w.redis service.redis).idempotency request.redisKey).map StoredRecord.text) with
      | error e => exact stays ▸ silent
      | ok cached =>
          cases cached with
          | none => exact stays ▸ silent
          | some response =>
              obtain ⟨record, found, text⟩ :=
                Option.map_eq_some_iff.mp (record_of_answer answered)
              refine ⟨silent.stored, fun u response' mem => ?_, ?_⟩
              · have saved := silent.produced u response' mem
                by_cases same : u = t
                · subst same
                  rw [own] at saved
                  cases saved
                · exact (Function.update_of_ne same _ _).trans saved
              · refine (Function.forall_update_iff ghost
                  fun u g => Noted service traffic _ u g).mpr
                  ⟨?_, fun u _ => silent.noted u⟩
                exact ⟨events, _, [], call, request, rfl, rfl, rfl, sent, keyed,
                  inv.stored _ _ _ ⟨record, found, text⟩⟩

/-- `SET EX` of the response. -/
theorem follows_setEx {ttl : Int} {post : Except Exn Unit → Progress → Prop}
    (sent : traffic t = .request call) (keyed : call.request = some request)
    (failed : ∀ e, post (.error e) .working) (saved : post (.ok ()) (.saved response)) :
    (discipline service traffic).Follows exec t post (redis service.redis (.setEx request.redisKey
        (.valid ⟨.completed, some response, some (service.hashPayload request.payload)⟩) ttl))
      .working := by
  refine Discipline.Follows.call fun events w ghost choice answer w' inv own ran _ => ?_
  have inv : Inv service traffic events w ghost := inv
  cases answer with
  | error e =>
      have same : w' = w := by
        rcases exec_cases ran with ⟨e, _, _, _, rfl⟩ | ran
        · rfl
        · obtain ⟨_, _, _, failed, _⟩ := Cmd.run_redis ran
          cases failed
      refine ⟨.working, ?_, failed e⟩
      rw [← own, Function.update_eq_self]
      exact inv.silent rfl fun _ _ _ holds => same ▸ holds
  | ok a =>
      obtain ⟨r, done, changed⟩ := ran_redis ran
      cases done
      have here : Saved traffic (events ++ [⟨t, .redis service.redis (.setEx request.redisKey
          (.valid ⟨.completed, some response, some (service.hashPayload request.payload)⟩) ttl),
          choice, .ok (), w, w'⟩]) t request response := by
        refine ⟨call, sent, keyed, ?_⟩
        rw [List.filterMap_append]
        exact List.mem_append_right _ (List.mem_singleton_self _)
      refine ⟨.saved response, ⟨?_, fun u response' mem => ?_, ?_⟩, saved⟩
      · rintro key hash response' ⟨record, found, text⟩
        rw [changed, redis_update] at found
        by_cases same : key = request.redisKey
        · subst same
          have put : Function.update (w.redis service.redis).idempotency request.redisKey _
            request.redisKey = some record := found
          rw [Function.update_self] at put
          cases put
          cases text
          exact ⟨t, request, here, rfl, rfl⟩
        · have old : (w.redis service.redis).idempotency key = some record :=
            (Function.update_of_ne same _ _).symm.trans found
          exact (inv.stored key hash response' ⟨record, old, text⟩).later
      · rw [List.filterMap_append] at mem
        rcases List.mem_append.mp mem with mem | mem
        · have saved := inv.produced u response' mem
          by_cases same : u = t
          · subst same
            rw [own] at saved
            cases saved
          · exact (Function.update_of_ne same _ _).trans saved
        · cases List.mem_singleton.mp mem
          exact Function.update_self ..
      · exact (Function.forall_update_iff ghost fun u g => Noted service traffic _ u g).mpr
          ⟨trivial, fun u _ => (inv.noted u).later⟩

end Calls

/-! ## Requests -/

/-- How a request ends: with the stored response that it was answered, or with the response it has
saved if it had a key. -/
def Ended {α : Type} (encode : α → JsonObject) : Except Exn (Reply α) → Progress → Prop
  | .ok (.cached response), g => g = .answered response
  | .ok (.computed response), g => g = .working ∨ g = .saved (encode response)
  | .error _, g => g = .working

section Requests

variable {α : Type} {encode : α → JsonObject} {func : Async α} {request : Request}
  {call : ProtectedCall}

theorem follows_checkAndLock (sent : traffic t = .request call)
    (keyed : call.request = some request) :
    (discipline service traffic).Follows exec t (fun outcome g' => g' = progressOf outcome)
      (service.checkAndLock request.userId request.action request.idempotencyKey request.payload)
      .working := by
  refine Discipline.Follows.bind (fun _ g' => g' = .working)
    (follows_setNxEx fun answer => ?_) ?_
  · cases answer with
    | ok _ => rfl
    | error _ => rfl
  · rintro acquired _ rfl
    split
    · rfl
    · exact Discipline.Follows.bind (fun raw g' => g' = progressOf
        (IdempotencyService.answerFromRecord (service.hashPayload request.payload) raw))
        (follows_get sent keyed (fun _ => rfl) fun _ => rfl) fun raw g' here => here

/-- The request behind the decorator. -/
theorem follows_idempotentRequest (only : func.Only LeavesRecords)
    (sent : traffic t = .request call) (keyed : call.request = some request) :
    (discipline service traffic).Follows exec t (Ended encode)
      (request.idempotent service encode func) .working := by
  refine Discipline.Follows.bind (fun cached g' => g' = progressOf (.ok cached))
    ((follows_checkAndLock sent keyed).mono fun outcome g' here => ?_) ?_
  · cases outcome with
    | ok _ => exact here
    | error _ => exact here
  rintro cached _ rfl
  cases cached with
  | some response => rfl
  | none =>
      refine Discipline.Follows.tryCatch (fun _ g' => g' = .working) ?_ ?_
      · refine Discipline.Follows.bind (fun _ g' => g' = .working)
          ((follows_handler only).mono fun outcome g' here => ?_) ?_
        · cases outcome with
          | ok _ => exact here
          | error _ => exact here
        · rintro response _ rfl
          exact Discipline.Follows.bind (fun _ g' => g' = .saved (encode response))
            (follows_setEx sent keyed (fun _ => rfl) rfl) fun _ _ saved => .inr saved
      · rintro e _ rfl
        refine Discipline.Follows.bind (fun _ g' => g' = .working)
          (follows_delete fun answer => ?_) ?_
        · cases answer with
          | ok _ => rfl
          | error _ => rfl
        · rintro _ _ rfl
          rfl

/-- An endpoint behind the decorator, with or without a key. -/
theorem follows_idempotent (only : func.Only LeavesRecords) (sent : traffic t = .request call) :
    (discipline service traffic).Follows exec t (Ended encode)
      (getDb (idempotent service call.endpoint.action call.userId call.idempotencyKey
        call.endpoint.kwargs encode func)) .working := by
  -- the request's session has nothing to do with records
  refine follows_getDb (Ended encode) (Ended encode) ?_ (fun _ _ ended => ended)
    (fun _ _ working => follows_leaves trivial fun answer _ => ?_)
    fun _ _ ended => follows_leaves trivial fun answer closes => ?_
  rotate_left
  · cases answer with
    | ok _ => exact working
    | error _ => exact working
  · cases answer with
    | ok _ => exact ended
    | error _ => exact closes.elim
  unfold idempotent
  split
  · rename_i absent
    refine Discipline.Follows.bind (fun _ g' => g' = .working)
      ((follows_handler only).mono fun outcome g' here => ?_) fun _ _ working => .inl working
    cases outcome with
    | ok _ => exact here
    | error _ => exact here
  · refine Discipline.Follows.bind (fun _ g' => g' = .working)
      ((follows_handler only).mono fun outcome g' here => ?_) fun _ _ working => .inl working
    cases outcome with
    | ok _ => exact here
    | error _ => exact here
  · rename_i key nonempty given
    dsimp only
    rw [ProtectedEndpoint.extractBusinessPayload_kwargs]
    refine follows_idempotentRequest only sent ?_
    unfold ProtectedCall.request
    rw [given]
    split
    · rename_i absent
      cases absent
    · rename_i empty
      exact (nonempty (Option.some.inj empty)).elim
    · rename_i same
      cases same
      rfl

end Requests

/-- How a thread ends. -/
def Replied : Except Exn (Option (Reply JsonObject)) → Progress → Prop
  | .ok (some reply), g => Ended id (.ok reply) g
  | .ok none, g | .error _, g => g = .working

/-- The reply of an endpoint as its thread ends with it. -/
theorem follows_encoded {α : Type} {encode : α → JsonObject} {p : Async (Reply α)}
    (h : (discipline service traffic).Follows exec t (Ended encode) p g) :
    (discipline service traffic).Follows exec t Replied
      (some <$> Reply.encoded encode <$> p : Async (Option (Reply JsonObject))) g := by
  refine Discipline.Follows.bind (fun reply g' => Ended id (.ok reply) g')
    (Discipline.Follows.bind (fun reply g' => Ended encode (.ok reply) g')
      (h.mono fun outcome g' ended => ?_) fun reply g' ended => ?_) fun _ _ ended => ended
  · cases outcome with
    | ok _ => exact ended
    | error _ => exact ended
  · cases reply with
    | computed _ => exact ended
    | cached _ => exact ended

/-- Every thread keeps the invariant. -/
theorem follows_traffic (d : Deployment) (isoformat : Int → String) :
    (discipline service traffic).Follows exec t Replied
      ((traffic t).program d service isoformat) .working := by
  cases sent : traffic t with
  | expiry key =>
      refine Discipline.Follows.bind (fun _ g' => g' = .working) (follows_expire fun answer => ?_)
        fun _ _ working => working
      cases answer with
      | ok _ => rfl
      | error _ => rfl
  | request call =>
      have behind := @follows_idempotent ι _ service traffic t
      obtain ⟨userId, endpoint, key⟩ := call
      cases endpoint with
      | createTicket ticket =>
          exact follows_encoded (behind (only_create.mono fun _ => leaves_of_tickets) sent)
      | ticketPayment ticketId =>
          exact follows_encoded (behind (only_payForTicket.mono fun _ => leaves_of_tickets) sent)
      | ticketTypeCreate eventId data =>
          exact follows_encoded
            (behind (only_createType.mono fun _ entry => leaves_of_catalog entry.ofCatalog) sent)
      | createEvent event date =>
          exact follows_encoded
            (behind (only_createEvent.mono fun _ entry => leaves_of_catalog entry.ofCatalog) sent)

end Isolation

variable {ι : Type} [DecidableEq ι] {d : Deployment} {service : IdempotencyService}
  {isoformat : Int → String} {traffic : ι → Traffic} {w : World ι}
  {events : List (CallEvent ι)}
  {c : Config ι (World ι) Cmd Cmd.Resp Exn (Option (Reply JsonObject))}

/-- **Replay isolation.** A response that is served from a record was saved before that by a request
of the same user, to the same action, with the same key and an equal payload, and that request has
returned it to its own client. -/
theorem replay_isolation
    (fresh : ∀ key, (w.redis service.redis).idempotency key = none)
    (collisionFree : ∀ t u call call', traffic t = .request call →
      traffic u = .request call' →
      service.sha256 (Json.dumps (.obj call.endpoint.fields)) =
        service.sha256 (Json.dumps (.obj call'.endpoint.fields)) →
      Json.dumps (.obj call.endpoint.fields) = Json.dumps (.obj call'.endpoint.fields))
    (run : Config.Run exec ⟨w, fun t => (traffic t).program d service isoformat⟩ events c)
    {t : ι} {response : JsonObject} (served : c.Finished t (.ok (some (.cached response)))) :
    ∃ u call origin request, u ≠ t ∧ traffic t = .request call ∧
      traffic u = .request origin ∧
      call.request = some request ∧ origin.request = some request ∧
      (∃ earlier e later, events = earlier ++ e :: later ∧ e.thread = t ∧
        e.cmd = .redis service.redis (.get request.redisKey) ∧
        (u, response) ∈ earlier.filterMap produced) ∧
      ∀ outcome, c.Finished u outcome → outcome = .ok (some (.computed response)) := by
  have start : (Isolation.discipline service traffic).Holds exec (fun _ => Isolation.Replied) []
      ⟨w, fun t => (traffic t).program d service isoformat⟩ := by
    refine ⟨fun _ => .working, ⟨?_, ?_, fun _ => trivial⟩,
      fun t => Isolation.follows_traffic d isoformat⟩
    · rintro key hash response ⟨record, found, _⟩
      rw [fresh key] at found
      cases found
    · exact fun _ _ mem => (List.not_mem_nil mem).elim
  obtain ⟨ghost, inv, follows⟩ := start.run run fun _ _ => trivial
  rw [List.nil_append] at inv
  have answered : ghost t = .answered response := Discipline.Holds.post_of_finished follows served
  have noted := inv.noted t
  rw [answered] at noted
  obtain ⟨earlier, e, later, call, request, rfl, own, read, sent, keyed, backed⟩ := noted
  obtain ⟨u, request', ⟨origin, sent', keyed', mem⟩, keys, hashes⟩ := backed
  obtain rfl : request' = request :=
    request_eq keyed' keyed (collisionFree u t origin call sent' sent) keys hashes
  have saved : ghost u = .saved response := inv.produced u response <| by
    rw [List.filterMap_append]
    exact List.mem_append_left _ mem
  refine ⟨u, call, origin, request', ?_, sent, sent', keyed, keyed',
    ⟨earlier, e, later, rfl, own, read, mem⟩, fun outcome ended => ?_⟩
  · rintro rfl
    rw [answered] at saved
    cases saved
  · have replied : Isolation.Replied outcome (ghost u) :=
      Discipline.Holds.post_of_finished follows ended
    rw [saved] at replied
    match outcome with
    | .ok (some (.computed response')) =>
        rcases replied with working | same
        · cases working
        · cases same
          rfl
    | .ok (some (.cached response')) => cases replied
    | .ok none | .error e => cases replied

/-! ## One request sent twice -/

/-- An administrator creates an event, and sends the request again. -/
def eventTwice (_ : Fin 2) : Traffic :=
  .request ⟨1, .createEvent
    ⟨"Tour", 0, "Poland", "Krakow", "Main 1", by decide, by decide, by decide,
    by decide⟩ "2026-01-01T00:00:00Z", some "key"⟩

/-- Thread `t` has been served from a record. -/
def servedFromRecord
    (c : Config (Fin 2) (World (Fin 2)) Cmd Cmd.Resp Exn (Option (Reply JsonObject)))
    (t : Fin 2) : Bool :=
  match c.result t with
  | some (.ok (some (.cached _))) => true
  | _ => false

set_option maxRecDepth 2048 in
/-- The second request is answered what the first one has returned. -/
theorem replay_isolation_of_two :
    ∃ (events : List (CallEvent (Fin 2)))
      (c : Config (Fin 2) (World (Fin 2)) Cmd Cmd.Resp Exn (Option (Reply JsonObject)))
      (response : JsonObject),
      c.Finished 1 (.ok (some (.cached response))) ∧
      ∃ u call origin request, u ≠ 1 ∧ eventTwice 1 = .request call ∧
        eventTwice u = .request origin ∧
        call.request = some request ∧ origin.request = some request ∧
        (∃ earlier e later, events = earlier ++ e :: later ∧ e.thread = 1 ∧
          e.cmd = .redis 0 (.get request.redisKey) ∧
          (u, response) ∈ earlier.filterMap produced) ∧
        ∀ outcome, c.Finished u outcome → outcome = .ok (some (.computed response)) := by
  have found :
      ((⟨World.empty, fun t => (eventTwice t).program shippedSettings.deployment ⟨0, 10, id⟩
      fun _ => "2026-01-01T00:00:00Z"⟩ :
      Config (Fin 2) (World (Fin 2)) Cmd Cmd.Resp Exn (Option (Reply JsonObject))).replay exec
        ([0, 0, 0, 0, 0, 0, 0, 1, 1, 1].map fun t => (t, {}))).any (fun r =>
          servedFromRecord r.2 1) = true := by
    decide
  obtain ⟨events, c, run, ended⟩ :=
    Config.exists_run_of_replay (P := fun _ c => servedFromRecord c 1) found
  unfold servedFromRecord at ended
  split at ended
  · rename_i response result
    have served := Config.finished_of_result result
    exact ⟨events, c, response, served,
      replay_isolation (fun _ => rfl) (fun _ _ _ _ _ _ => id) run served⟩
  · cases ended

end TicketCore
