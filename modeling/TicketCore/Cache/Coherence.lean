import TicketCore.Cache.Errand

/-!
# What an errand does

What a step of an errand makes of the locks of its transaction, of the committed rows and of the
caches.

* `coherent_step`: the errands of all calls keep their meaning.
* `Commits` are the changes to the committed rows that there are, with the errands between which
  they happen.
-/

namespace TicketCore.Cache

open Interleave RowStore

variable {ι : Type} [DecidableEq ι] {d : Deployment} {About Named : Int → Prop} {t u : ι}
  {w w' : World ι} {g g' : Errand} {cmd : Cmd} {choice : Choice} {answer : Except Exn cmd.Resp}

/-! ## Locks -/

/-- The transaction has no event and no ticket type locked. -/
def Unlocked (db : Database ι) (t : ι) : Prop :=
  (∀ id, db.events.heldBy t id = none) ∧ ∀ id, db.ticketTypes.heldBy t id = none

/-- What an errand of transaction `t` means for the database. -/
def Coherent (db : Database ι) (t : ι) : Errand → Prop
  | .lost | .working => True
  | .editing ticketTypeId => (∀ id, db.events.heldBy t id = none) ∧
      ∀ id version, db.ticketTypes.heldBy t id = some version → id = ticketTypeId ∧
      version.isSome
  | _ => Unlocked db t

theorem Coherent.congr {db db' : Database ι} (h : Coherent db t g)
    (events : ∀ id, db'.events.heldBy t id = db.events.heldBy t id)
    (types : ∀ id, db'.ticketTypes.heldBy t id = db.ticketTypes.heldBy t id) :
    Coherent db' t g := by
  have free : Unlocked db t → Unlocked db' t := fun free =>
    ⟨fun id => (events id).trans (free.1 id), fun id => (types id).trans (free.2 id)⟩
  cases g with
  | lost | working => trivial
  | editing ticketTypeId =>
      refine ⟨fun id => (events id).trans (h.1 id), fun id version held => ?_⟩
      rw [types] at held
      exact h.2 id version held
  | _ => exact free h

theorem Coherent.relaxed {db : Database ι} (h : Coherent db t g) (opened : g.Open) :
    Coherent db t g.relaxed := by
  cases g with
  | lost | pledged _ | dirty | bumping => exact opened.elim
  | _ => exact h

theorem Coherent.of_db (h : Coherent w.db t g) (same : w'.db = w.db) : Coherent w'.db t g := by
  rwa [same]

/-- A call that raises leaves the locks as they are. -/
theorem Coherent.of_raised {e : Exn} (h : Coherent w.db t g)
    (ran : exec t cmd choice w = some (.error e, w')) : Coherent w'.db t g := by
  rcases (raised ran).2 with same | same | same
  · exact h.of_db same
  · rw [same]
    exact h.congr (fun _ => rfl) fun _ => rfl
  · rw [same]
    exact h.congr (fun _ => rfl) fun _ => rfl

/-- The other transactions keep their locks. -/
theorem Coherent.other (h : Coherent w.db u g) (other : u ≠ t)
    (ran : exec t cmd choice w = some (answer, w')) : Coherent w'.db u g := by
  rcases exec_database ran with ⟨_, moved⟩ | same | same
  · exact h.congr (fun _ => moved.events.heldBy_other other)
      fun _ => moved.ticketTypes.heldBy_other other
  · rw [same]
    exact h.congr (fun _ => heldBy_commit_other other) fun _ => heldBy_commit_other other
  · rw [same]
    exact h.congr (fun _ => heldBy_rollback_other other) fun _ => heldBy_rollback_other other

/-- What a call leaves alone that writes no event and no ticket type. -/
theorem Apart.same {a : cmd.Resp} (apart : Apart cmd)
    (ran : exec t cmd choice w = some (.ok a, w')) :
    w'.db.events = w.db.events ∧ w'.db.ticketTypes = w.db.ticketTypes := by
  have ran := ran_of_ok ran
  cases cmd with
  | now | enqueueJob job => cases ran; exact ⟨rfl, rfl⟩
  | handler =>
      have done : (choice.outcome, w) = (.ok a, w') := Option.some.inj ran
      obtain ⟨_, rfl⟩ := Prod.mk.inj done
      exact ⟨rfl, rfl⟩
  | redis n command =>
      obtain ⟨_, _, _, _, rfl⟩ := Cmd.run_redis ran
      exact ⟨rfl, rfl⟩
  | db statement =>
      obtain ⟨db', done, rfl⟩ := Cmd.run_db ran
      have idle : ¬ statement.Ends ∧ (∀ id, ¬ statement.locksType id) ∧
          (∀ id, ¬ statement.locksEvent id) ∧ ¬ statement.InsertsType ∧
              ¬ statement.InsertsEvent := by
        cases statement with
        | insertTicketType eventId data | insertEvent data => exact apart.elim
        | _ => exact ⟨apart.1, apart.2.1, apart.2.2, not_false, not_false⟩
      obtain ⟨goes, types, events, newType, newEvent⟩ := idle
      have moved := DbCmd.moved goes done
      exact ⟨moved.events.still events newEvent, moved.ticketTypes.still types newType⟩

/-- A read leaves the database alone. -/
theorem Coherent.of_apart {a : cmd.Resp} (h : Coherent w.db t g) (apart : Apart cmd)
    (ran : exec t cmd choice w = some (.ok a, w')) : Coherent w'.db t g := by
  obtain ⟨events, types⟩ := apart.same ran
  exact h.congr (fun _ => by rw [events]) fun _ => by rw [types]

theorem unlocked_of_commit (ran : exec t (.db .commit) choice w = some (.ok (), w')) :
    Unlocked w'.db t := by
  obtain ⟨_, done, rfl⟩ := ran_db ran
  cases done
  exact ⟨fun _ => heldBy_commit_self, fun _ => heldBy_commit_self⟩

/-- **A step keeps the meaning of its errand.** -/
theorem Step.coherent (step : Step d About Named g cmd answer g') (h : Coherent w.db t g)
    (ran : exec t cmd choice w = some (answer, w')) : Coherent w'.db t g' := by
  cases step with
  | lost | fault | work | keyless => trivial
  | refused opened => exact (h.of_raised ran).relaxed opened
  | apart opened apart => exact (h.of_apart apart ran).relaxed opened
  | rolled _ | closed _ =>
      obtain ⟨_, done, rfl⟩ := ran_db ran
      cases done
      exact ⟨fun _ => heldBy_rollback_self, fun _ => heldBy_rollback_self⟩
  | look _ =>
      have h : Unlocked w.db t := h
      obtain ⟨events, types⟩ :=
        Apart.same (by exact ⟨not_false, fun _ => not_false, fun _ => not_false⟩) ran
      refine ⟨fun id => by rw [events, h.1], fun id version held => ?_⟩
      rw [types, h.2] at held
      cases held
  | @insert eventId id data _ =>
      have h : Unlocked w.db t := h
      obtain ⟨_, done, rfl⟩ := ran_db ran
      rcases DbCmd.run_insertTicketType done with ⟨failed, _⟩ | ⟨new, rfl⟩
      · cases failed
      cases new
      refine ⟨h.1, fun id' version held => ?_⟩
      rw [heldBy_eq_some] at held
      change (RowStore.insert ..).held id' = _ at held
      rw [insert_held] at held
      by_cases same : id' = w.db.ticketTypes.next
      · subst same
        rw [Function.update_self] at held
        cases held
        exact ⟨rfl, rfl⟩
      · rw [Function.update_of_ne same, ← heldBy_eq_some, h.2] at held
        cases held
  | @edit ticketTypeId net =>
      obtain ⟨_, done, rfl⟩ := ran_db ran
      rcases DbCmd.run_updateTicketType done with
        ⟨failed, _⟩ | ⟨row, read, ⟨row', _, _, rfl⟩ | ⟨_, _, failed, _⟩⟩
      · cases failed
      · refine ⟨h.1, fun id' version held => ?_⟩
        change (RowStore.hold ..).heldBy t id' = _ at held
        by_cases same : id' = ticketTypeId
        · subst same
          rw [heldBy_hold_self (read_issued (by rw [read]; rfl))] at held
          cases held
          exact ⟨rfl, rfl⟩
        · rw [heldBy_hold_of_ne same] at held
          exact h.2 id' version held
      · cases failed
  | commit _ | pledge => exact unlocked_of_commit ran
  | astray => exact h.of_raised ran
  | warm _ | drop _ | bump | store _ | key | miss | keep => exact h.of_db (db_of_redis ran)
  | reread | see | load | page =>
      obtain ⟨events, types⟩ :=
        Apart.same (by exact ⟨not_false, fun _ => not_false, fun _ => not_false⟩) ran
      exact Coherent.congr (g := .resting) h (fun _ => by rw [events]) fun _ => by rw [types]

theorem coherent_step {ghost : ι → Errand} (step : Step d About Named (ghost t) cmd answer g')
    (coherent : ∀ u, Coherent w.db u (ghost u)) (ran : exec t cmd choice w = some (answer, w')) :
    ∀ u, Coherent w'.db u (Function.update ghost t g' u) := by
  intro u
  by_cases same : u = t
  · subst same
    rw [Function.update_self]
    exact step.coherent (coherent u) ran
  · rw [Function.update_of_ne same]
    exact (coherent u).other same ran

/-! ## The committed rows -/

/-- The rows of events and ticket types change only by a commit. -/
theorem rows_of_uncommitted (ran : exec t cmd choice w = some (answer, w'))
    (other : cmd = .db .commit → ∃ e, answer = .error e) :
    w'.db.events.row = w.db.events.row ∧ w'.db.ticketTypes.row = w.db.ticketTypes.row := by
  cases answer with
  | error e =>
      rcases (raised ran).2 with same | same | same
      · rw [same]
        exact ⟨rfl, rfl⟩
      · rw [same]
        exact ⟨rfl, rfl⟩
      · rw [same]
        exact ⟨rfl, skip_row⟩
  | ok a =>
      have ran := ran_of_ok ran
      cases cmd with
      | now | enqueueJob job => cases ran; exact ⟨rfl, rfl⟩
      | handler =>
          have done : (choice.outcome, w) = (.ok a, w') := Option.some.inj ran
          obtain ⟨_, rfl⟩ := Prod.mk.inj done
          exact ⟨rfl, rfl⟩
      | redis n command =>
          obtain ⟨_, _, _, _, rfl⟩ := Cmd.run_redis ran
          exact ⟨rfl, rfl⟩
      | db statement =>
          obtain ⟨db', done, rfl⟩ := Cmd.run_db ran
          by_cases ends : statement.Ends
          · cases statement with
            | commit =>
                obtain ⟨e, failed⟩ := other rfl
                cases failed
            | rollback | close => cases done; exact ⟨rfl, rfl⟩
            | _ => exact ends.elim
          · exact ⟨(DbCmd.moved ends done).events.row, (DbCmd.moved ends done).ticketTypes.row⟩

/-- What a step makes of the committed rows. -/
inductive Commits (db db' : Database ι) : Errand → Errand → Prop
  | same {g g' : Errand} : db'.events.row = db.events.row →
      db'.ticketTypes.row = db.ticketTypes.row → Commits db db' g g'
  | dirty {g : Errand} : g.Open → Commits db db' g .dirty
  | pledged {ticketTypeId : Int} : db'.events.row = db.events.row →
      (∀ id, db'.ticketTypes.row id = db.ticketTypes.row id ∨
        id = ticketTypeId ∧ (db'.ticketTypes.row id).isSome) →
      Commits db db' (.editing ticketTypeId) (.pledged ticketTypeId)

/-- **A step changes the committed rows in one of two ways, or not at all.** -/
theorem Step.commits (step : Step d About Named g cmd answer g') (found : g ≠ .lost)
    (h : Coherent w.db t g) (ran : exec t cmd choice w = some (answer, w')) :
    Commits w.db w'.db g g' := by
  have still : (cmd = .db .commit → ∃ e, answer = .error e) →
      Commits w.db w'.db g g' := fun other =>
    .same (rows_of_uncommitted ran other).1 (rows_of_uncommitted ran other).2
  cases step with
  | lost => exact (found rfl).elim
  | commit opened => exact .dirty opened
  | @pledge ticketTypeId =>
      obtain ⟨_, done, rfl⟩ := ran_db ran
      cases done
      refine .pledged (funext fun id => read_of_not_held (h.1 id)) fun id => ?_
      cases held : w.db.ticketTypes.heldBy t id with
      | none => exact .inl (read_of_not_held held)
      | some version =>
          have row : (w.db.ticketTypes.commit t).row id = version := read_of_heldBy held
          refine .inr ⟨(h.2 id version held).1, ?_⟩
          show ((w.db.ticketTypes.commit t).row id).isSome
          rw [row]
          exact (h.2 id version held).2
  | fault | refused _ | astray => exact still fun _ => ⟨_, rfl⟩
  | apart _ apart =>
      refine still fun same => ?_
      subst same
      exact (apart.1 trivial).elim
  | work _ works =>
      refine still fun same => ?_
      cases same
      exact works.elim
  | _ => exact still nofun

/-! ## The caches -/

/-- The caches of events are as they were. -/
structure SameCaches (r r' : RedisDb) : Prop where
  static : r'.eventStatic = r.eventStatic
  version : r'.eventListVersion = r.eventListVersion
  lists : r'.eventLists = r.eventLists

theorem SameCaches.refl (r : RedisDb) : SameCaches r r := ⟨rfl, rfl, rfl⟩

theorem LeavesCaches.run {clock : Int} {listing : List (String × String)} {r r' : RedisDb}
    {command : RedisCmd} {a : command.Resp} (leaves : LeavesCaches command)
    (ran : command.run clock listing r = some (a, r')) : SameCaches r r' := by
  cases command with
  | evalReserve ticketTypeId =>
      rcases RedisDb.reserveScript_cases (Option.some.inj ran) with
        ⟨_, _, same⟩ | ⟨_, _, _, _, same⟩ | ⟨_, _, _, _, same⟩
      · rw [same]
        exact .refl r
      · rw [same]
        exact ⟨rfl, rfl, rfl⟩
      · rw [same]
        exact .refl r
  | evalSafeIncr ticketTypeId =>
      cases ran
      unfold RedisDb.safeIncrScript
      split
      · exact ⟨rfl, rfl, rfl⟩
      · exact ⟨rfl, rfl, rfl⟩
  | evalRefund ticketTypeId ticketId =>
      cases ran
      unfold RedisDb.refundScript RedisDb.safeIncrScript
      split
      · exact ⟨rfl, rfl, rfl⟩
      · split
        · exact ⟨rfl, rfl, rfl⟩
        · exact ⟨rfl, rfl, rfl⟩
  | setNxEx key text ttl =>
      simp only [RedisCmd.run] at ran
      split at ran
      · cases ran; exact ⟨rfl, rfl, rfl⟩
      · cases ran; exact ⟨rfl, rfl, rfl⟩
  | expire key =>
      simp only [RedisCmd.run] at ran
      split at ran
      · cases ran
      · split at ran
        · cases ran; exact ⟨rfl, rfl, rfl⟩
        · cases ran
  | setInventory ticketTypeId value | incrInventory ticketTypeId | deleteInventory ticketTypeId
  | hset field value | hdel field | hgetall | getEventStatic eventId | getEventListVersion
  | getEventList key | get key | setEx key text ttl | delete key =>
      cases ran
      exact ⟨rfl, rfl, rfl⟩
  | setEventStatic eventId event ttl | deleteEventStatic eventId | setEventListVersion version
  | incrEventListVersion | setEventList key events ttl | expireEventStatic eventId
  | expireEventList key => exact leaves.elim

theorem LeavesCaches.same {n m : Nat} {command : RedisCmd} {a : command.Resp}
    (leaves : LeavesCaches command) (ran : exec t (.redis n command) choice w = some (.ok a, w')) :
    SameCaches (w.redis m) (w'.redis m) := by
  obtain ⟨r, done, rfl⟩ := ran_redis ran
  dsimp only
  by_cases here : m = n
  · subst here
    rw [Function.update_self]
    exact leaves.run done
  · rw [Function.update_of_ne here]
    exact .refl _

omit [DecidableEq ι] in
theorem SameCaches.of_redis (same : w'.redis = w.redis) {n : Nat} :
    SameCaches (w.redis n) (w'.redis n) := by
  rw [same]
  exact .refl _

theorem Apart.caches {a : cmd.Resp} (apart : Apart cmd) {n : Nat}
    (ran : exec t cmd choice w = some (.ok a, w')) : SameCaches (w.redis n) (w'.redis n) := by
  cases cmd with
  | redis m command => exact LeavesCaches.same apart ran
  | db statement => exact .of_redis (redis_of_db ran)
  | now | enqueueJob job =>
      have ran := ran_of_ok ran
      cases ran
      exact .refl _
  | handler =>
      have done : (choice.outcome, w) = (.ok a, w') := Option.some.inj (ran_of_ok ran)
      obtain ⟨_, rfl⟩ := Prod.mk.inj done
      exact .refl _

end TicketCore.Cache
