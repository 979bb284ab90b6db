import TicketCore.Booking.Runs
import TicketCore.Refund.Collector
import TicketCore.Sessions
import Mathlib.Data.Fin.VecNotation

/-!
# The credit of a deleted ticket

The owner of a reserved ticket deletes it while collectors run, at any clock times and in any order
of the steps. The deletion returns the slot itself, and a collector does if it has listed the
ticket's entry and then does not find the ticket any more.

* `deleted_once`: the slot is returned exactly once, if no collector asks the database for the
  ticket after its deletion, and then only.
* `deletion_credited_twice`: a collector lists the entry before the deletion and asks for the ticket
  after it.
-/

namespace TicketCore

open Interleave RowStore Booking

variable {ι : Type}

/-- A `SELECT` asks for a ticket that is not there. -/
def missesTicket (ticketId : Int) (e : CallEvent ι) : Bool :=
  match e.cmd with
  | .db (.selectStatuses ids) => ticketId ∈ ids ∧ (e.before.db.tickets.row ticketId).isNone
  | _ => false

/-- The account of a ticket, in the worker's Redis database. -/
def accountOf (d : Deployment) (ticketId : Int) (ticket : Ticket) : Account :=
  ⟨d.workerRedis, ticket.ticketTypeId, ticketId⟩

/-- The reservation entry of the ticket, if there is one, has the ticket's type. -/
def EntryOf (ticketId ticketTypeId : Int) (entries : List (String × String)) : Prop :=
  ∀ entry ∈ entries, ∀ lock, readReservation entry = some lock →
    lock.ticketId = ticketId → lock.ticketTypeId = ticketTypeId

/-- The deletion of a ticket, next to collectors. -/
structure Deletion (ι : Type) where
  deployment : Deployment
  deleter : ι
  ticketId : Int
  ticket : Ticket
  /-- The ticket is in the set of the processed tickets already. -/
  refunded : Bool

namespace Deletion

variable [DecidableEq ι] (D : Deletion ι)

/-- The account of the ticket. -/
def account : Account := accountOf D.deployment D.ticketId D.ticket

/-- The ticket is there as it was or not at all, and the collectors have locked nothing. -/
def Kept (db : Database ι) : Prop :=
  (∀ version, db.tickets.Version D.ticketId version → version = D.ticket) ∧
    ∀ u, u ≠ D.deleter → db.tickets.Holds u Locks.none

/-- The watch of the ticket: a refund is due once a `SELECT` has missed it. -/
def watch : Watch ι where
  account := D.account
  refunded := D.refunded
  Stamped _ := True
  Due e := missesTicket D.ticketId e
  looks e due := by
    unfold missesTicket at due
    split at due
    · rename_i ids select
      rw [select]
      trivial
    · cases due
  Also w := D.Kept w.db
  also_refund _ _ _ kept := kept
  owner := some D.deleter
  also_rollback w t _ kept := by
    refine ⟨fun version held => kept.1 version held.of_rollback, fun u other => ?_⟩
    by_cases same : u = t
    · subst same
      exact .rollback_self
    · exact (kept.2 u other).rollback_other same

variable {D} {t : ι} {g : Part}

/-! ## The collectors -/

/-- The `SELECT` of a collector: it finds the ticket as it was, or misses it. -/
theorem follows_selectStatuses (collector : t ≠ D.deleter)
    (reserved : D.ticket.status = .reserved)
    {locks : List Reservation} (fits : ∀ lock ∈ locks, D.watch.Fits lock) :
    D.watch.discipline.Follows exec t (fun outcome g' => match outcome with
      | .ok dbTickets => D.watch.Matches
        (locks.filter fun lock => Worker.Orphaned dbTickets lock) g'
      | .error _ =>
          g'.gave = 0) (sql (.selectStatuses (locks.map Reservation.ticketId))) .idle := by
  refine Watch.follows_call (.inl trivial) (fun _ _ => rfl)
    fun events w ghost choice answer w' inv own ran => ?_
  cases ran
  obtain ⟨versions, idle⟩ := inv.also
  have lookup : D.ticketId ∈ locks.map Reservation.ticketId →
      (w.db.selectStatuses t (locks.map Reservation.ticketId)).lookup D.ticketId =
        (w.db.tickets.row D.ticketId).map Ticket.status := fun asked => by
    rw [Database.lookup_selectStatuses, if_pos asked, (idle t collector).read_of_none rfl]
  have fits' : ∀ lock ∈ locks.filter fun lock => Worker.Orphaned
      (w.db.selectStatuses t (locks.map Reservation.ticketId)) lock, D.watch.Fits lock :=
    fun lock mem => fits lock (List.mem_of_mem_filter mem)
  by_cases missed : D.ticketId ∈ locks.map Reservation.ticketId ∧
    (w.db.tickets.row D.ticketId).isNone
  · have due : D.watch.Due (⟨t, .db (.selectStatuses (locks.map Reservation.ticketId)), choice,
        .ok (w.db.selectStatuses t (locks.map Reservation.ticketId)), w, w⟩ : CallEvent ι) :=
      decide_eq_true missed
    obtain ⟨lock, mem, mine⟩ := List.mem_map.mp missed.1
    have none := lookup missed.1
    rw [Option.isNone_iff_eq_none.mp missed.2] at none
    refine ⟨.owing, inv.aside own rfl rfl (fun _ => .inr trivial) (fun pending => pending.elim)
      ⟨_, List.mem_append_right _ (List.mem_singleton_self _), due⟩ inv.also,
      fits', fun _ => ?_,
      fun _ _ _ => .inl rfl, .inr (.inl rfl)⟩
    refine ⟨lock, List.mem_filter.mpr ⟨mem, decide_eq_true (.inl ?_)⟩, mine⟩
    rw [mine]
    exact none
  · refine ⟨.idle, inv.aside own rfl rfl (fun due => (missed (of_decide_eq_true due)).elim)
      (fun pending => pending.elim) trivial inv.also, fits', nofun,
      fun lock mem mine => ?_, .inl rfl⟩
    -- the ticket has been found `RESERVED`, so its lock is no orphan
    obtain ⟨mem, orphaned⟩ := List.mem_filter.mp mem
    have asked : D.ticketId ∈ locks.map Reservation.ticketId :=
      List.mem_map.mpr ⟨lock, mem, mine⟩
    have orphaned : Worker.Orphaned _ lock := of_decide_eq_true orphaned
    have mine : lock.ticketId = D.ticketId := mine
    unfold Worker.Orphaned at orphaned
    rw [mine, lookup asked] at orphaned
    obtain ⟨version, stored⟩ := Option.ne_none_iff_exists'.mp fun none =>
      missed ⟨asked, Option.isNone_iff_eq_none.mpr none⟩
    rw [stored, versions version (.inl stored), Option.map_some, reserved] at orphaned
    rcases orphaned with orphaned | orphaned
    · cases orphaned
    · cases orphaned

/-- A collector. -/
theorem follows_collector (collector : t ≠ D.deleter) (reserved : D.ticket.status = .reserved) :
    D.watch.discipline.Follows exec t Watch.Ends
      (Worker.reconcileRedisOrphans D.deployment) .idle := by
  refine Watch.follows_reconcileRedisOrphans (fun same => collector (Option.some.inj same).symm) rfl
    (fun locks g' => g' = .idle ∧ ∀ lock ∈ locks, D.watch.Fits lock)
    (fun locks g' => g' = .idle ∧ ∀ lock ∈ locks, D.watch.Fits lock) ?_ ?_ ?_ ?_ ?_
  · exact Watch.follows_getAllActiveReservations fun w locks _ fits _ =>
      ⟨.idle, .inl rfl, rfl, fits⟩
  · rintro _ ⟨rfl, _⟩
    exact ⟨rfl, fun _ => id⟩
  · rintro locks _ ⟨rfl, fits⟩
    refine Watch.follows_call (.inl trivial) nofun
      fun events w ghost choice answer w' inv own ran => ?_
    cases ran
    exact ⟨.idle, inv.aside own rfl rfl nofun (fun pending => pending.elim) trivial inv.also, rfl,
      fun lock mem => fits lock (List.mem_of_mem_filter mem)⟩
  · rintro _ ⟨rfl, _⟩
    exact ⟨rfl, fun _ => id⟩
  · rintro locks _ ⟨rfl, fits⟩
    exact follows_selectStatuses collector reserved fits

/-! ## The deletion -/

/-- A deletion that succeeds has returned the slot. -/
def Delivers {α : Type} (outcome : Except Exn α) (g : Part) : Prop :=
  (∃ a, outcome = .ok a) → g = .returned

theorem Delivers.raised {α : Type} {e : Exn} : Delivers (.error e : Except Exn α) g :=
  fun ok => by obtain ⟨_, ok⟩ := ok; cases ok

/-- A statement of the deletion. -/
theorem follows_statement {statement : DbCmd} {post : Except Exn statement.Resp → Part → Prop}
    (quiet : ¬ Looks (.db statement)) (fault : ∀ e g', post (.error e) g')
    (run : ∀ db clock order answer db', D.Kept db →
      statement.run D.deleter clock order db = some (answer, db') → D.Kept db' ∧
      post answer g) :
    D.watch.discipline.Follows exec D.deleter post (sql statement) g := by
  refine Watch.follows_call (.inr quiet) (fun _ e => fault e _)
    fun events w ghost choice answer w' inv own ran => ?_
  obtain ⟨db', done, rfl⟩ := Cmd.run_db ran
  obtain ⟨kept, holds⟩ := run w.db choice.clock choice.rows answer db' inv.also done
  have knows := inv.knows D.deleter
  rw [own] at knows
  exact ⟨g, inv.aside own rfl rfl (fun due => (quiet (D.watch.looks _ due)).elim) .inr
    (knows.later id) kept, holds⟩

theorem Kept.ended {db : Database ι} (h : D.Kept db) : D.Kept (db.rollback D.deleter) :=
  ⟨fun version held => h.1 version held.of_rollback,
    fun u other => (h.2 u other).rollback_other other⟩

theorem follows_rollback {post : Except Exn Unit → Part → Prop} (rolled : post (.ok ()) g)
    (fault : ∀ e g', post (.error e) g') :
    D.watch.discipline.Follows exec D.deleter post (sql .rollback) g :=
  follows_statement (fun looks => looks.elim) fault fun db clock order answer db' kept ran => by
    cases ran
    exact ⟨kept.ended, rolled⟩

/-- The script of the deletion returns the slot. -/
theorem follows_evalSafeIncr (oneRedis : D.deployment.apiRedis = D.deployment.workerRedis) :
    D.watch.discipline.Follows exec D.deleter Delivers
      (redis D.deployment.apiRedis (.evalSafeIncr D.ticket.ticketTypeId)) .idle := by
  rw [oneRedis]
  refine Watch.follows_call (.inl trivial) (fun _ _ => .raised)
    fun events w ghost choice answer w' inv own ran => ?_
  obtain ⟨a, r, done, rfl, changed⟩ := Cmd.run_redis ran
  cases done
  have changed : w' = D.account.put w ((w.redis D.account.database).safeIncrScript
      D.account.ticketTypeId) := changed
  obtain ⟨k, value⟩ := Option.isSome_iff_exists.mp inv.key
  have value : D.account.counter w = some k := value
  have counter : D.account.counter w' = some (k + 1) := by
    rw [changed, Account.put_counter, RedisDb.safeIncrScript_inventory, Function.update_self,
      show (w.redis D.account.database).inventory D.account.ticketTypeId = some k from value]
    rfl
  have same : D.account.Refunded w' ↔ D.account.Refunded w := by
    rw [changed, Account.put_refunded, RedisDb.safeIncrScript_canceledTickets]
    rfl
  have entries : D.account.entries w' = D.account.entries w := by
    rw [changed, Account.put_entries, RedisDb.safeIncrScript_activeReservations]
    rfl
  refine ⟨.returned, inv.next own ?_ ?_ same.mpr ?_ (fun _ => rfl)
    (fun refunded => .inl (same.mp refunded))
    nofun (fun pending => pending.elim) trivial ?_, fun _ => rfl⟩
  · exact Option.isSome_iff_exists.mpr ⟨k + 1, counter⟩
  · show D.watch.Consistent (D.account.entries w')
    rw [entries]
    exact inv.consistent
  · have decided : decide (D.account.Refunded w') = decide (D.account.Refunded w) :=
      decide_eq_decide.mpr same
    show (D.account.credit _).toNat + _ + 0 = (decide (D.account.Refunded w')).toNat + 1
    rw [Account.credit_of_moves _ value counter, decided]
    · show 1 + (decide (D.account.Refunded w)).toNat + 0 =
        (decide (D.account.Refunded w)).toNat + 1
      omega
    · exact decide_eq_true ⟨rfl, rfl⟩
  · rw [changed]
    exact inv.also

/-- The entry goes last. -/
theorem follows_hdel (oneRedis : D.deployment.apiRedis = D.deployment.workerRedis) :
    D.watch.discipline.Follows exec D.deleter Delivers
      (redis D.deployment.apiRedis (.hdel (toString D.ticketId))) .returned := by
  rw [oneRedis]
  refine Watch.follows_call (.inr fun looks => looks.elim) (fun _ _ => .raised)
    fun events w ghost choice answer w' inv own ran => ?_
  obtain ⟨a, r, done, rfl, changed⟩ := Cmd.run_redis ran
  cases done
  have changed : w' = D.account.put w ((w.redis D.account.database).hdel (toString D.ticketId)) :=
    changed
  have counter : D.account.counter w' = D.account.counter w := by
    rw [changed, Account.put_counter]
    rfl
  refine ⟨.returned, inv.still own ?_ (fun entry mem => ?_) ?_ (Account.not_credit rfl) rfl nofun
    (fun pending => pending.elim) trivial ?_, fun _ => rfl⟩
  · show (D.account.counter w').isSome
    rw [counter]
    exact inv.key
  · have mem : entry ∈ D.account.entries w' := mem
    rw [changed, Account.put_entries] at mem
    exact (RedisDb.mem_hdel.mp mem).1
  · show D.account.Refunded w' ↔ _
    rw [changed, Account.put_refunded]
    rfl
  · rw [changed]
    exact inv.also

/-- The `try` block of the deletion. -/
theorem follows_remove (oneRedis : D.deployment.apiRedis = D.deployment.workerRedis) :
    D.watch.discipline.Follows exec D.deleter Delivers
      (TicketService.remove D.deployment D.ticketId D.ticket) .idle := by
  refine Discipline.Follows.bind (fun _ g' => g' = .idle)
    (follows_statement (fun looks => looks.elim) (fun _ _ => .raised)
      fun db clock order answer db' kept ran => ?_) ?_
  · rcases DbCmd.run_addTicketsSold ran with
      ⟨_, rfl, rfl⟩ | ⟨row, _, _, ⟨row', _, rfl, rfl⟩ |
      ⟨violated, _, rfl, rfl⟩⟩
    · exact ⟨kept, rfl⟩
    · exact ⟨kept, rfl⟩
    · exact ⟨kept, .raised⟩
  rintro _ _ rfl
  refine Discipline.Follows.bind (fun _ g' => g' = .idle)
    (follows_statement (fun looks => looks.elim) (fun _ _ => .raised)
      fun db clock order answer db' kept ran => ?_) ?_
  · rcases DbCmd.run_deleteTicket ran with ⟨_, rfl, rfl⟩ | ⟨_, free, rfl, rfl⟩
    · exact ⟨kept, rfl⟩
    · refine ⟨⟨fun version held => ?_, fun u other =>
        (kept.2 u other).hold_other other free⟩, rfl⟩
      rcases Version.of_hold held with before | ⟨_, deleted⟩
      · exact kept.1 version before
      · cases deleted
  rintro _ _ rfl
  refine Discipline.Follows.bind (fun _ g' => g' = .idle)
    (follows_statement (fun looks => looks.elim) (fun _ _ => .raised)
      fun db clock order answer db' kept ran => ?_) ?_
  · obtain ⟨rfl, rfl⟩ := DbCmd.run_commit ran
    exact ⟨⟨fun version held => kept.1 version held.of_commit,
      fun u other => (kept.2 u other).commit_other other⟩, rfl⟩
  rintro _ _ rfl
  refine Discipline.Follows.bind (fun _ g' => g' = .returned)
    ((follows_evalSafeIncr oneRedis).mono fun outcome g' holds => ?_) ?_
  · cases outcome with
    | ok _ => exact holds ⟨_, rfl⟩
    | error _ => exact .raised
  rintro _ _ rfl
  exact follows_hdel oneRedis

theorem follows_delete (ownerId : Int)
    (oneRedis : D.deployment.apiRedis = D.deployment.workerRedis) :
    D.watch.discipline.Follows exec D.deleter Delivers
      (TicketService.delete D.deployment ownerId D.ticketId) .idle := by
  refine Discipline.Follows.bind (fun found g' => g' = .idle ∧ ∀ ticket, found = some ticket →
    ticket = D.ticket) (follows_statement (fun looks => looks.elim) (fun _ _ => .raised)
      fun db clock order answer db' kept ran => ?_) ?_
  · obtain ⟨rfl, rfl⟩ := DbCmd.run_selectTicket ran
    exact ⟨kept, rfl, fun ticket selected =>
      kept.1 ticket (version_of_read (DbCmd.selectTicket_some selected).1)⟩
  rintro found _ ⟨rfl, same⟩
  cases found with
  | none => exact .raised
  | some ticket =>
      rw [same ticket rfl]
      refine Discipline.Follows.tryCatch (fun _ _ => True) ((follows_remove oneRedis).mono
        fun outcome g' holds => ?_) fun e g' _ => ?_
      · cases outcome with
        | ok _ => exact holds
        | error _ => trivial
      · exact follows_rollbackOnSQLAlchemyError
          (follows_rollback .raised fun _ _ => .raised) .raised

/-- The whole request. -/
theorem follows_deletion (ownerId : Int)
    (oneRedis : D.deployment.apiRedis = D.deployment.workerRedis) :
    D.watch.discipline.Follows exec D.deleter Delivers
      ((Operation.delete ownerId D.ticketId).program D.deployment) .idle := by
  refine follows_getDb Delivers Delivers (follows_delete ownerId oneRedis) (fun _ _ holds => holds)
    (fun _ _ _ => follows_rollback .raised fun _ _ => .raised) fun outcome g' holds => ?_
  refine follows_statement (fun looks => looks.elim) (fun _ _ => .raised)
    fun db clock order answer db' kept ran => ?_
  cases ran
  exact ⟨kept.ended, holds⟩

/-! ## The race -/

theorem Inv.start {w : World ι} (quiet : w.db.Quiet)
    (stored : w.db.tickets.row D.ticketId = some D.ticket) (key : (D.account.counter w).isSome)
    (entry : EntryOf D.ticketId D.ticket.ticketTypeId (D.account.entries w))
    (refunded : D.refunded = decide (D.account.Refunded w)) :
    D.watch.Inv [] w fun _ => .idle where
  key := key
  consistent e mem lock read mine := ⟨entry e mem lock read mine, trivial⟩
  kept earlier := by
    have earlier : D.refunded = true := earlier
    rw [refunded] at earlier
    exact of_decide_eq_true earlier
  credited := by
    show 0 + D.refunded.toNat = (decide (D.account.Refunded w)).toNat + 0
    rw [refunded, zero_add, add_zero]
  settled now := .inl (refunded.trans (decide_eq_true now))
  owed due := by
    obtain ⟨_, mem, _⟩ := due
    exact (List.not_mem_nil mem).elim
  knows _ := trivial
  also := by
    refine ⟨fun version held => ?_, fun _ _ => .of_quiet quiet.1⟩
    have row := version_of_quiet quiet.1 held
    rw [stored] at row
    exact (Option.some.inj row).symm

section Credits

variable {events : List (CallEvent ι)} {w : World ι} {ghost : ι → Part}

/-- Once the deletion has succeeded, it has returned the slot, and perhaps a collector has, too. -/
theorem Inv.credits (h : D.watch.Inv events w ghost) (delivered : ghost D.deleter = .returned) :
    D.account.credits events + D.refunded.toNat = (decide (D.account.Refunded w)).toNat + 1 := by
  have given : D.watch.given ghost = 1 := by
    show (ghost D.deleter).gave = 1
    rw [delivered]
    rfl
  have credited := h.credited
  rw [given] at credited
  exact credited

theorem Inv.credited_once (h : D.watch.Inv events w ghost) (delivered : ghost D.deleter = .returned)
    (calm : D.refunded = true ∨ ∀ e ∈ events, ¬ missesTicket D.ticketId e) :
    D.account.credits events = 1 := by
  have credits := Inv.credits h delivered
  by_cases earlier : D.refunded = true
  · have refunded : D.account.Refunded w := h.kept earlier
    rw [earlier, decide_eq_true refunded] at credits
    exact Nat.add_right_cancel credits
  · have never := calm.resolve_left earlier
    have unrefunded : ¬ D.account.Refunded w := fun refunded => by
      rcases h.settled refunded with before | ⟨e, mem, due⟩
      · exact earlier before
      · exact never e mem due
    have fresh : D.refunded = false := Bool.eq_false_of_not_eq_true earlier
    rw [fresh, decide_eq_false unrefunded] at credits
    exact credits

theorem Inv.credited_twice (h : D.watch.Inv events w ghost)
    (delivered : ghost D.deleter = .returned)
    (fresh : D.refunded = false) (missed : ∃ e ∈ events, missesTicket D.ticketId e)
    (ended : ∀ t, ¬ (ghost t).Pending) : D.account.credits events = 2 := by
  have credits := Inv.credits h delivered
  have refunded : D.account.Refunded w := (h.owed missed).resolve_right fun pending => by
    obtain ⟨t, pending⟩ := pending
    exact ended t pending
  rw [fresh, decide_eq_true refunded] at credits
  exact credits

end Credits

end Deletion

/-- **A deleted ticket is credited exactly once, unless a collector misses it.** -/
theorem deleted_once [DecidableEq ι] {ops : ι → Operation} {d : Deployment} {w : World ι}
    {deleter : ι} {ownerId ticketId : Int} {ticket : Ticket} {events : List (CallEvent ι)}
    {c : Config ι (World ι) Cmd Cmd.Resp Exn Unit} (oneRedis : d.apiRedis = d.workerRedis)
    (deletes : ops deleter = .delete ownerId ticketId)
    (collects : ∀ t, t ≠ deleter → ops t = .reconcileRedisOrphans) (quiet : w.db.Quiet)
    (stored : w.db.tickets.row ticketId = some ticket) (reserved : ticket.status = .reserved)
    (key : ((accountOf d ticketId ticket).counter w).isSome)
    (entry : EntryOf ticketId ticket.ticketTypeId ((accountOf d ticketId ticket).entries w))
    (run : Config.Run exec (config ops d w) events c) (success : c.Finished deleter (.ok ())) :
    (((accountOf d ticketId ticket).Refunded w ∨ ∀ e ∈ events, ¬ missesTicket ticketId e) →
        (accountOf d ticketId ticket).credits events = 1) ∧
      ((∀ t, c.Finished t (.ok ())) → ((accountOf d ticketId ticket).credits events = 1 ↔
        (accountOf d ticketId ticket).Refunded w ∨
        ∀ e ∈ events, ¬ missesTicket ticketId e)) := by
  let D : Deletion ι :=
    ⟨d, deleter, ticketId, ticket, decide ((accountOf d ticketId ticket).Refunded w)⟩
  have start : D.watch.discipline.Holds exec (fun t outcome g =>
      (t = deleter → Deletion.Delivers outcome g) ∧ (t ≠ deleter → Watch.Ends outcome g)) []
      (config ops d w) := by
    refine ⟨fun _ => .idle, Deletion.Inv.start quiet stored key entry rfl, fun t => ?_⟩
    by_cases same : t = deleter
    · subst same
      show D.watch.discipline.Follows exec t _ ((ops t).program d) .idle
      rw [deletes]
      exact (Deletion.follows_deletion (D := D) ownerId oneRedis).mono fun outcome g holds =>
        ⟨fun _ => holds, fun other => (other rfl).elim⟩
    · show D.watch.discipline.Follows exec t _ ((ops t).program d) .idle
      rw [collects t same]
      exact (Deletion.follows_collector (D := D) same reserved).mono fun outcome g ends =>
        ⟨fun deleting => (same deleting).elim, fun _ => ends⟩
  obtain ⟨ghost, inv, follows⟩ := start.run run fun _ _ => trivial
  have delivered : ghost deleter = .returned :=
    (Discipline.Holds.post_of_finished follows success).1 rfl ⟨(), rfl⟩
  have once : ((accountOf d ticketId ticket).Refunded w ∨
      ∀ e ∈ events, ¬ missesTicket ticketId e) →
        (accountOf d ticketId ticket).credits events = 1 := fun calm =>
    Deletion.Inv.credited_once (D := D) inv delivered (calm.imp_left decide_eq_true)
  refine ⟨once, fun finished => ⟨fun single => ?_, once⟩⟩
  by_contra late
  obtain ⟨fresh, missed⟩ := not_or.mp late
  have twice := Deletion.Inv.credited_twice (D := D) inv delivered (decide_eq_false fresh)
    (by push Not at missed; exact missed) fun t => ?_
  · have twice : (accountOf d ticketId ticket).credits events = 2 := twice
    omega
  · by_cases same : t = deleter
    · subst same
      rw [delivered]
      exact id
    · exact ((Discipline.Holds.post_of_finished follows (finished t)).2 same).2 ⟨(), rfl⟩

/-! ## Two collectors -/

/-- A reserved ticket of a type of five, with its entry in Redis. -/
def oneEntered : World (Fin 2) where
  db :=
    { tickets := .ofList [⟨1, 1, .reserved, 0⟩]
      ticketTypes := .ofList [exampleType 5 1]
      users := {1}
      events := .ofList [exampleEvent] }
  redis _ := { RedisDb.empty.setInventory 1 (some 4) with activeReservations := [("1", "1:0")] }
  jobs := []

/-- The ticket. -/
def enteredTicket : Ticket := ⟨1, 1, .reserved, 0⟩

/-- A deletion of the ticket and a collector. -/
def deletionAndCollector : Fin 2 → Operation := ![.delete 1 1, .reconcileRedisOrphans]

theorem oneEntered_entry :
    EntryOf 1 1 ((accountOf sharedRedis 1 enteredTicket).entries oneEntered) := by
  intro entry mem lock read _
  rw [List.mem_singleton.mp mem] at read
  have lock' : readReservation ("1", "1:0") = some ⟨1, 1, 0⟩ := by decide
  rw [lock'] at read
  cases read
  rfl

/-- Two minutes after the booking. -/
def late : Choice := { clock := 120000000 }

/-- Both threads have returned, and the slot has been returned `credits` times. -/
def creditedBy (credits : Nat) (events : List (CallEvent (Fin 2)))
    (c : Config (Fin 2) (World (Fin 2)) Cmd Cmd.Resp Exn Unit) : Bool :=
  decide (∀ t, c.result t = some (.ok ())) &&
    decide ((accountOf sharedRedis 1 enteredTicket).credits events = credits)

/-- The collector looks for the ticket while it is still there. -/
theorem deleted_once_after_collector :
    ∃ (events : List (CallEvent (Fin 2)))
      (c : Config (Fin 2) (World (Fin 2)) Cmd Cmd.Resp Exn Unit),
      Config.Run exec (config deletionAndCollector sharedRedis oneEntered) events c ∧
      (∀ t, c.Finished t (.ok ())) ∧
      (accountOf sharedRedis 1 enteredTicket).credits events = 1 := by
  have found : ((config deletionAndCollector sharedRedis oneEntered).replay exec
      (([1, 1, 1, 1, 0, 0, 0, 0, 0, 0, 0] : List (Fin 2)).map fun t => (t, late))).any (fun r =>
        (r.1.all fun e => !missesTicket 1 e) && decide (∀ t, r.2.result t = some (.ok ()))) =
        true := by
    decide
  obtain ⟨events, c, run, holds⟩ := Config.exists_run_of_replay
    (P := fun events c => (events.all fun e : CallEvent (Fin 2) => !missesTicket 1 e) &&
      decide (∀ t, c.result t = some (.ok ()))) found
  rw [Bool.and_eq_true, List.all_eq_true] at holds
  have calm : ∀ e ∈ events, ¬ missesTicket 1 e := fun e mem missed => by
    have here := holds.1 e mem
    rw [missed] at here
    cases here
  have finished : ∀ t, c.Finished t (.ok ()) := fun t =>
    Config.finished_of_result (of_decide_eq_true holds.2 t)
  have collects : ∀ t : Fin 2, t ≠ 0 → deletionAndCollector t = .reconcileRedisOrphans := by
    intro t other
    rw [Fin.eq_one_of_ne_zero t other]
    rfl
  have shared : sharedRedis.apiRedis = sharedRedis.workerRedis := rfl
  have deletes : deletionAndCollector 0 = .delete 1 1 := rfl
  have stored : oneEntered.db.tickets.row 1 = some enteredTicket := rfl
  exact ⟨events, c, run, finished,
    (deleted_once shared deletes collects (by decide) stored rfl rfl
    oneEntered_entry run (finished 0)).1 (.inr calm)⟩

/-- The collector lists the entry before the deletion, and asks for the ticket after it. -/
theorem deletion_credited_twice :
    ∃ (events : List (CallEvent (Fin 2)))
      (c : Config (Fin 2) (World (Fin 2)) Cmd Cmd.Resp Exn Unit),
      oneEntered.db.tickets.row 1 = some enteredTicket ∧ enteredTicket.status = .reserved ∧
      Config.Run exec (config deletionAndCollector sharedRedis oneEntered) events c ∧
      (∀ t, c.Finished t (.ok ())) ∧
      (accountOf sharedRedis 1 enteredTicket).credits events = 2 := by
  have found : ((config deletionAndCollector sharedRedis oneEntered).replay exec
      (([1, 1, 0, 0, 0, 0, 1, 1, 1, 0, 0, 0] : List (Fin 2)).map fun t => (t, late))).any (fun r =>
        creditedBy 2 r.1 r.2) = true := by
    decide
  obtain ⟨events, c, run, holds⟩ := Config.exists_run_of_replay (P := creditedBy 2) found
  unfold creditedBy at holds
  rw [Bool.and_eq_true] at holds
  exact ⟨events, c, rfl, rfl, run, fun t => Config.finished_of_result
    (of_decide_eq_true holds.1 t),
    of_decide_eq_true holds.2⟩

end TicketCore
