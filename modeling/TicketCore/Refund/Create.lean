import TicketCore.Refund.Attempt
import TicketCore.Sessions

/-!
# How a booking can fail

The calls of `TicketService.create` and the function itself under the discipline of an `Attempt`.
`follows_program` says how the whole request leaves it: `Ended` tells, for the call of the
transaction that has raised, whether the slot was taken and whether the ticket's entry was written.
-/

namespace TicketCore.Attempt

open Interleave RowStore

variable {ι : Type} [DecidableEq ι] {a : Account} {t : ι} {g g' : Attempt} {d : Deployment}

/-! ## Statements -/

/-- A statement that leaves the tickets alone. -/
theorem follows_apart {statement : DbCmd} {post : Except Exn statement.Resp → Attempt → Prop}
    (free : g.failure = none ∨ failureOf (.db statement) = none)
    (apart : ∀ (db : Database ι) clock order answer db',
      statement.run t clock order db = some (answer, db') → db'.tickets = db.tickets)
    (answered : ∀ answer, post answer (g.fail (failureIn (.db statement) answer))) :
    (discipline a t).Follows exec t post (sql statement) g := by
  refine follows_statement free (fun _ x => answered (.error x))
    fun db clock order answer db' written ran => ⟨g.writing, g.closed, ?_, answered answer⟩
  rw [apart db clock order answer db' ran]
  exact written

theorem follows_addTicketsSold {ticketTypeId delta : Int}
    {post : Except Exn Unit → Attempt → Prop} (free : g.failure = none)
    (answered : ∀ answer, post answer
      (g.fail (failureIn (.db (.addTicketsSold ticketTypeId delta)) answer))) :
    (discipline a t).Follows exec t post (sql (.addTicketsSold ticketTypeId delta)) g := by
  refine follows_apart (.inl free) (fun db clock order answer db' ran => ?_) answered
  rcases DbCmd.run_addTicketsSold ran with
    ⟨_, _, rfl⟩ | ⟨_, _, _, ⟨_, _, _, rfl⟩ | ⟨_, _, _, rfl⟩⟩
  · rfl
  · rfl
  · rfl

/-- The `INSERT` takes the id that the account is about. -/
theorem follows_insertTicket {ownerId ticketTypeId : Int}
    {post : Except Exn Int → Attempt → Prop} (inserted : post (.ok a.ticketId) inserted)
    (fault : ∀ x writing, writing ≠ .committed → post (.error x)
      { reserved.fail (failureIn (.db (.insertTicket ownerId ticketTypeId)) (.error x)) with
        writing := writing }) :
    (discipline a t).Follows exec t post (sql (.insertTicket ownerId ticketTypeId)) reserved := by
  refine follows_statement (.inl rfl) (fun _ x => fault x .fresh nofun)
    fun db clock order answer db' written ran => ⟨.inserted, false, ?_⟩
  rcases DbCmd.run_insertTicket ran with
    ⟨_, rfl, rfl⟩ | ⟨_, rfl, rfl⟩ | ⟨_, _, rfl, rfl⟩
  · exact ⟨⟨nofun, fun _ => written.absent nofun, written.others, nofun⟩,
      fault _ .inserted nofun⟩
  · exact ⟨⟨nofun, fun _ => written.absent nofun, written.others, nofun⟩,
      fault _ .inserted nofun⟩
  · refine ⟨⟨nofun, fun _ => ?_, fun u other => ?_, nofun⟩, ?_⟩
    · rw [insert_row]
      exact written.absent nofun
    · rw [heldBy_insert_other other]
      exact written.others u other
    · rw [written.next rfl]
      exact inserted

theorem follows_commit {post : Except Exn Unit → Attempt → Prop} (free : g.failure = none)
    (committed : post (.ok ()) { g with writing := .committed })
    (fault : ∀ x, post (.error x) (g.fail (failureIn (.db .commit) (.error x)))) :
    (discipline a t).Follows exec t post (sql .commit) g := by
  refine follows_statement (.inl free) (fun _ => fault)
    fun db clock order answer db' written ran => ⟨.committed, g.closed, ?_⟩
  obtain ⟨rfl, rfl⟩ := DbCmd.run_commit ran
  refine ⟨⟨nofun, fun uncommitted => (uncommitted rfl).elim,
    fun u other => (heldBy_commit_other other).trans (written.others u other),
    fun _ => heldBy_commit_self⟩, ?_⟩
  have same : g.fail (failureIn (.db .commit) (.ok ())) = g := by
    unfold fail failureIn
    rw [Option.or_none]
  rw [same]
  exact committed

theorem fail_none : g.fail none = g := by
  unfold fail
  rw [Option.or_none]

/-- A rollback, which may raise as well. -/
theorem follows_rollback {post : Except Exn Unit → Attempt → Prop}
    (rolled : ∀ answer, post answer g) :
    (discipline a t).Follows exec t post (sql .rollback) g := by
  refine follows_statement (.inr rfl) (fun _ x => ?_)
    fun db clock order answer db' written ran => ⟨g.writing, g.closed, ?_, ?_⟩
  · rw [failureIn_none rfl, fail_none]
    exact rolled _
  · cases ran
    exact ⟨written.next, written.absent,
      fun u other => (heldBy_rollback_other other).trans (written.others u other),
      fun _ => heldBy_rollback_self⟩
  · rw [failureIn_none rfl, fail_none]
    exact rolled _

/-- The session is closed at last. -/
theorem follows_close {post : Except Exn Unit → Attempt → Prop}
    (closed : post (.ok ()) { g with closed := true }) :
    (discipline a t).Follows exec t post (sql .close) g := by
  refine follows_statement (.inr rfl) nofun
    fun db clock order answer db' written ran => ⟨g.writing, true, ?_, ?_⟩
  · cases ran
    exact ⟨written.next, written.absent,
      fun u other => (heldBy_rollback_other other).trans (written.others u other),
      fun _ => heldBy_rollback_self⟩
  · cases ran
    rw [failureIn_none rfl, fail_none]
    exact closed

/-! ## Other calls -/

section Calls

variable {events : List (CallEvent ι)} {w : World ι}

omit [DecidableEq ι] in
/-- The counter is set, to whatever value. -/
theorem Entered.setInventory (h : g.Entered a w) {value : Option Int}
    (key : g'.keyed → value.isSome) (entered : g'.entered = g.entered)
    (stamp : g'.stamp = g.stamp) :
    g'.Entered a (a.put w ((w.redis a.database).setInventory a.ticketTypeId value)) where
  key keyed := by
    rw [Account.counter_setInventory]
    exact key keyed
  fresh := by
    rw [Account.put_refunded]
    exact h.fresh
  entries := by
    rw [Account.put_entries, entered, stamp]
    exact h.entries
  entry := by
    rw [Account.put_entries, entered, stamp]
    exact h.entry

/-- The script takes a slot, if the counter says that there is one. -/
theorem follows_evalReserve {post : Except Exn Int → Attempt → Prop}
    (cold : g.keyed = false → post (.ok (-1)) g) (soldOut : post (.ok 0) g)
    (taken : post (.ok 1) { g with keyed := true, taken := true }) (free : g.taken = false)
    (fault : ∀ x, post (.error x) g) :
    (discipline a t).Follows exec t post (redis a.database (.evalReserve a.ticketTypeId)) g := by
  refine follows_call (.inr rfl) (fun _ x => by rw [failureIn_none rfl, fail_none]; exact fault x)
    fun events w choice answer w' inv ran => ?_
  obtain ⟨r, redis', done, rfl, changed⟩ := Cmd.run_redis ran
  have done : (w.redis a.database).reserveScript a.ticketTypeId = (r, redis') :=
    Option.some.inj done
  have changed : w' = a.put w redis' := changed
  subst changed
  have unmoved : ∀ {r}, redis' = w.redis a.database →
      Inv a t (events ++ [⟨t, .redis a.database (.evalReserve a.ticketTypeId), choice, .ok r, w,
        a.put w redis'⟩]) (a.put w redis') g := fun {r} same => by
    have world : a.put w redis' = w := by
      rw [same]
      unfold Account.put
      rw [Function.update_eq_self]
    rw [world]
    have tells :=
      inv.tells.aside (e := ⟨t, .redis a.database (.evalReserve a.ticketTypeId), choice,
      .ok r, w, w⟩) rfl rfl rfl (.inr rfl)
    rw [show failsAt _ = none from rfl, fail_none] at tells
    exact ⟨tells, inv.entered, inv.written⟩
  unfold RedisDb.reserveScript at done
  split at done
  · rename_i missing
    cases done
    refine ⟨g, unmoved rfl, cold ?_⟩
    cases keyed : g.keyed with
    | false => rfl
    | true =>
        have present := inv.entered.key keyed
        rw [show a.counter w = none from missing] at present
        cases present
  · rename_i k value
    split at done
    · cases done
      refine ⟨{ g with keyed := true, taken := true },
        ⟨?_, inv.entered.setInventory (fun _ => rfl) rfl rfl, ?_⟩, taken⟩
      · refine inv.tells.append ?_ ?_ ?_ ?_ (.inr rfl) ?_ (.inr rfl)
        · rw [free, Account.debit_of_moves _ (show a.counter w = some k from value)]
          · rfl
          · exact Account.counter_setInventory
          · exact decide_eq_true ⟨rfl, rfl⟩
        · rw [Account.not_credit rfl]
          rfl
        · exact (Bool.or_false _).symm
        · exact (Option.or_none).symm
        · exact (Option.or_none).symm
      · exact ⟨inv.written.next, inv.written.absent, inv.written.others, inv.written.closed⟩
    · cases done
      exact ⟨g, unmoved rfl, soldOut⟩

/-- The counter is filled from the database. -/
theorem follows_setInventory {value : Int} {post : Except Exn Unit → Attempt → Prop}
    (filled : post (.ok ()) { g with keyed := true }) (fault : ∀ x, post (.error x) g) :
    (discipline a t).Follows exec t post
      (redis a.database (.setInventory a.ticketTypeId value)) g := by
  refine follows_call (.inr rfl) (fun _ x => by rw [failureIn_none rfl, fail_none]; exact fault x)
    fun events w choice answer w' inv ran => ?_
  obtain ⟨r, redis', done, rfl, changed⟩ := Cmd.run_redis ran
  cases done
  have changed : w' = a.put w ((w.redis a.database).setInventory a.ticketTypeId (some value)) :=
    changed
  subst changed
  refine ⟨{ g with keyed := true }, ⟨?_, inv.entered.setInventory (fun _ => rfl) rfl rfl, ?_⟩,
    filled⟩
  · refine inv.tells.append ?_ ?_ ?_ ?_ (.inr rfl) ?_ (.inr rfl)
    · rw [Account.not_debit rfl]
      rfl
    · rw [Account.not_credit rfl]
      rfl
    · exact (Bool.or_false _).symm
    · exact (Option.or_none).symm
    · exact (Option.or_none).symm
  · exact ⟨inv.written.next, inv.written.absent, inv.written.others, inv.written.closed⟩

/-- The `INCR` of an `except` block. -/
theorem follows_incrInventory {post : Except Exn Unit → Attempt → Prop} (keyed : g.keyed = true)
    (owed : g.returned = false) (returned : post (.ok ()) { g with returned := true })
    (fault : ∀ x, post (.error x) g) :
    (discipline a t).Follows exec t post (redis a.database (.incrInventory a.ticketTypeId)) g := by
  refine follows_call (.inr rfl) (fun _ x => by rw [failureIn_none rfl, fail_none]; exact fault x)
    fun events w choice answer w' inv ran => ?_
  obtain ⟨r, redis', done, rfl, changed⟩ := Cmd.run_redis ran
  cases done
  obtain ⟨k, value⟩ := Option.isSome_iff_exists.mp (inv.entered.key keyed)
  have changed : w' = a.put w ((w.redis a.database).setInventory a.ticketTypeId
      (some ((a.counter w).getD 0 + 1))) := changed
  rw [value, Option.getD_some] at changed
  subst changed
  refine ⟨{ g with returned := true },
    ⟨?_, inv.entered.setInventory (fun _ => rfl) rfl rfl, ?_⟩, returned⟩
  · refine inv.tells.append ?_ ?_ ?_ ?_ (.inr rfl) ?_ (.inr rfl)
    · rw [Account.not_debit rfl]
      rfl
    · rw [owed, Account.credit_of_moves _ value]
      · rfl
      · exact Account.counter_setInventory
      · exact decide_eq_true ⟨rfl, rfl⟩
    · exact (Bool.or_true _).symm
    · exact (Option.or_none).symm
    · exact (Option.or_none).symm
  · exact ⟨inv.written.next, inv.written.absent, inv.written.others, inv.written.closed⟩

/-- The clock is read once. -/
theorem follows_now {post : Except Exn Int → Attempt → Prop}
    (read : ∀ clock, post (.ok clock) (stamped (seconds clock))) :
    (discipline a t).Follows exec t post now inserted := by
  refine follows_call (.inr rfl) nofun fun events w choice answer w' inv ran => ?_
  cases ran
  refine ⟨stamped (seconds choice.clock), ⟨?_, ?_, ?_⟩, read _⟩
  · refine inv.tells.append ?_ ?_ rfl rfl (.inr rfl) rfl (.inl rfl)
    · rw [Account.not_debit rfl]
      rfl
    · rw [Account.not_credit rfl]
      rfl
  · refine ⟨inv.entered.key, inv.entered.fresh, fun entry mem lock reads mine => ?_, nofun⟩
    cases (inv.entered.entries entry mem lock reads mine).1
  · exact ⟨nofun, fun _ => inv.written.absent nofun, inv.written.others, nofun⟩

/-- The ticket's entry is written. -/
theorem follows_hset {stamp : Int} {post : Except Exn Unit → Attempt → Prop}
    (entered : post (.ok ()) (listed stamp)) (fault : ∀ x, post (.error x) (stamped stamp)) :
    (discipline a t).Follows exec t post (redis a.database (.hset (toString a.ticketId)
      (reservationValue a.ticketTypeId stamp))) (stamped stamp) := by
  refine follows_call (.inl rfl) (fun _ x => by rw [failureIn_none rfl, fail_none]; exact fault x)
    fun events w choice answer w' inv ran => ?_
  obtain ⟨r, redis', done, rfl, changed⟩ := Cmd.run_redis ran
  cases done
  have changed : w' = a.put w ((w.redis a.database).hset (toString a.ticketId)
      (reservationValue a.ticketTypeId stamp)) := changed
  have entries : a.entries w' =
      ((w.redis a.database).hdel (toString a.ticketId)).activeReservations ++
      [(toString a.ticketId, reservationValue a.ticketTypeId stamp)] := by
    rw [changed, Account.put_entries]
    rfl
  have counter : a.counter w' = a.counter w := by
    rw [changed, Account.put_counter]
    rfl
  refine ⟨listed stamp, ⟨?_, ⟨?_, ?_, ?_, ?_⟩, ?_⟩, entered⟩
  · exact (inv.tells.aside counter rfl rfl (.inl rfl)).congr rfl rfl rfl rfl
  · rw [counter]
    exact inv.entered.key
  · rw [changed, Account.put_refunded]
    exact inv.entered.fresh
  · intro entry mem lock reads mine
    rw [entries] at mem
    rcases List.mem_append.mp mem with mem | mem
    · cases (inv.entered.entries entry (RedisDb.mem_hdel.mp mem).1 lock reads mine).1
    · rw [List.mem_singleton.mp mem, readReservation_reservationValue] at reads
      cases reads
      exact ⟨rfl, rfl, rfl⟩
  · rw [entries]
    exact fun _ => ⟨stamp, rfl, List.mem_append_right _ (List.mem_singleton_self _)⟩
  · rw [changed]
    exact ⟨nofun, fun _ => inv.written.absent nofun, inv.written.others, nofun⟩

theorem follows_enqueueJob {job : Job} {post : Except Exn Unit → Attempt → Prop}
    (answered : ∀ answer, post answer g) :
    (discipline a t).Follows exec t post (enqueueJob job) g := by
  refine follows_call (.inr rfl)
    (fun _ x => by rw [failureIn_none rfl, fail_none]; exact answered _)
    fun events w choice answer w' inv ran => ?_
  cases ran
  refine ⟨g,
    ⟨?_, ⟨inv.entered.key, inv.entered.fresh, inv.entered.entries, inv.entered.entry⟩,
    inv.written⟩, answered _⟩
  have tells := inv.tells.aside (e := ⟨t, .enqueueJob job, choice, .ok (), w,
    { w with jobs := w.jobs ++ [job] }⟩) rfl rfl rfl (.inr rfl)
  rwa [show failsAt _ = none from rfl, fail_none] at tells

end Calls

/-! ## The function -/

/-- What has become of an attempt whose transaction has failed. -/
def Ended (g : Attempt) : Prop :=
  match g.failure with
  | none => True
  | some .cold => g.taken = false
  | some .books =>
      g.keyed = true ∧ g.taken = true ∧ g.entered = false ∧ g.writing ≠ .committed
  | some .commit =>
      g.keyed = true ∧ g.taken = true ∧ g.entered = true ∧ g.writing ≠ .committed

/-- A `try` block that has raised. -/
structure Failing (g : Attempt) : Prop where
  ended : g.Ended
  taken : g.taken = true
  keyed : g.keyed = true
  owed : g.returned = false

theorem Ended.of_none (none : g.failure = none) : g.Ended := by
  unfold Ended
  rw [none]
  trivial

/-- An exception of a call is the failure of the call, or none. -/
theorem failureIn_cases {cmd : Cmd} {failure : Failure} (same : failureOf cmd = some failure)
    (answer : Except Exn cmd.Resp) :
    failureIn cmd answer = none ∨ failureIn cmd answer = some failure := by
  unfold failureIn
  split
  · exact .inl rfl
  · split
    · exact .inr same
    · exact .inl rfl

/-- The `SELECT`, the script and what it takes. -/
theorem follows_reserveCold (database : d.apiRedis = a.database) :
    (discipline a t).Follows exec t (fun outcome g' => match outcome with
      | .ok (result : Int) => (result = 1 ∧ g' = reserved) ∨ (result = 0 ∧ g' = warm)
      | .error _ => g'.Ended) (TicketService.reserveCold d a.ticketTypeId) start := by
  unfold TicketService.reserveCold
  rw [database]
  refine Discipline.Follows.bind (fun _ g' => g' = start) (follows_apart (.inl rfl)
    (fun db clock order answer db' ran => by rw [(DbCmd.run_getTicketType ran).2])
    fun answer => ?_) ?_
  · cases answer with
    | ok _ => rfl
    | error x =>
        have ended : ∀ failure, failure = none ∨ failure = some .cold →
            (start.fail failure).Ended := fun failure cases => by
          rcases cases with rfl | rfl
          · exact trivial
          · exact rfl
        exact ended _ (failureIn_cases rfl _)
  rintro ticketType _ rfl
  cases ticketType with
  | none => exact trivial
  | some row =>
      refine Discipline.Follows.bind (fun _ g' => g' = warm)
        (follows_setInventory rfl fun _ => trivial) ?_
      rintro _ _ rfl
      exact follows_evalReserve nofun (.inr ⟨rfl, rfl⟩) (.inl ⟨rfl, rfl⟩) rfl
        fun _ => trivial

/-- The `try` block. -/
theorem follows_book {userId : Int} (database : d.apiRedis = a.database) :
    (discipline a t).Follows exec t (fun outcome g' => match outcome with
      | .ok _ => g'.failure = none
      | .error _ => g'.Failing) (TicketService.book d userId a.ticketTypeId) reserved := by
  unfold TicketService.book
  rw [database]
  -- a failing `UPDATE` or `INSERT` leaves no entry behind
  have books : ∀ failure writing, failure = none ∨ failure = some .books →
      writing ≠ .committed →
      { reserved.fail failure with writing := writing }.Failing :=
    fun failure writing cases uncommitted => by
      rcases cases with rfl | rfl
      · exact ⟨trivial, rfl, rfl, rfl⟩
      · exact ⟨⟨rfl, rfl, rfl, uncommitted⟩, rfl, rfl, rfl⟩
  refine Discipline.Follows.bind (fun _ g' => g' = reserved)
    (follows_addTicketsSold rfl fun answer => ?_) ?_
  · cases answer with
    | ok _ => rfl
    | error x =>
        exact books (failureIn (.db (.addTicketsSold a.ticketTypeId 1)) (.error x)) .fresh
          (failureIn_cases rfl _) nofun
  rintro _ _ rfl
  refine Discipline.Follows.bind (fun id g' => id = a.ticketId ∧ g' = inserted)
    (follows_insertTicket ⟨rfl, rfl⟩ fun x writing uncommitted => ?_) ?_
  · exact books _ writing (failureIn_cases rfl _) uncommitted
  rintro _ _ ⟨rfl, rfl⟩
  refine Discipline.Follows.bind (fun clock g' => g' = stamped (seconds clock))
    (follows_now fun _ => rfl) ?_
  rintro clock _ rfl
  refine Discipline.Follows.bind (fun _ g' => g' = listed (seconds clock))
    (follows_hset rfl fun _ => ⟨trivial, rfl, rfl, rfl⟩) ?_
  rintro _ _ rfl
  -- a failing `COMMIT` does
  have commits : ∀ failure, failure = none ∨ failure = some .commit →
      ((listed (seconds clock)).fail failure).Failing := fun failure cases => by
    rcases cases with rfl | rfl
    · exact ⟨trivial, rfl, rfl, rfl⟩
    · exact ⟨⟨rfl, rfl, rfl, nofun⟩, rfl, rfl, rfl⟩
  refine Discipline.Follows.bind
    (fun _ g' => g' = { listed (seconds clock) with writing := .committed })
    (follows_commit rfl rfl fun x => ?_) ?_
  · exact commits _ (failureIn_cases rfl _)
  rintro _ _ rfl
  refine Discipline.Follows.bind
    (fun _ g' => g' = { listed (seconds clock) with writing := .committed })
    (follows_apart (.inl rfl) (fun db clock order answer db' ran => by
      rw [(DbCmd.run_refreshTicket ran).1]) fun answer => ?_) ?_
  · rw [failureIn_none rfl, fail_none]
    cases answer with
    | ok _ => rfl
    | error _ => exact ⟨trivial, rfl, rfl, rfl⟩
  rintro newTicket _ rfl
  refine Discipline.Follows.bind
    (fun _ g' => g' = { listed (seconds clock) with writing := .committed })
    (follows_enqueueJob fun answer => ?_) ?_
  · cases answer with
    | ok _ => rfl
    | error _ => exact ⟨trivial, rfl, rfl, rfl⟩
  rintro _ _ rfl
  exact rfl

/-- An attempt that has failed so far can still return the slot. -/
theorem Failing.returned (h : g.Failing) : { g with returned := true }.Ended := by
  have ended := h.ended
  unfold Ended at ended ⊢
  split at ended
  · rename_i unfailed
    rw [show ({ g with returned := true } : Attempt).failure = none from unfailed]
    trivial
  · rw [h.taken] at ended
    cases ended
  · rename_i books
    rw [show ({ g with returned := true } : Attempt).failure = some .books from books]
    exact ended
  · rename_i commit
    rw [show ({ g with returned := true } : Attempt).failure = some .commit from commit]
    exact ended

/-- The `except` blocks. -/
theorem follows_compensate {α : Type} {e : Exn} (database : d.apiRedis = a.database)
    (failing : g.Failing) :
    (discipline a t).Follows exec t (fun _ g' => g'.Ended)
      (TicketService.compensate (α := α) d a.ticketTypeId e) g := by
  unfold TicketService.compensate
  rw [database]
  split
  · refine Discipline.Follows.bind (fun _ g' => g' = g) (follows_rollback fun answer => ?_) ?_
    · cases answer with
      | ok _ => rfl
      | error _ => exact failing.ended
    rintro _ _ rfl
    refine Discipline.Follows.bind (fun _ g' => g'.Ended)
      (follows_incrInventory failing.keyed failing.owed failing.returned fun _ => failing.ended)
      fun _ g' ended => ?_
    split
    · exact ended
    · exact ended
  · exact failing.ended

theorem follows_create {userId : Int} {ticketData : TicketCreate}
    (database : d.apiRedis = a.database) (same : ticketData.ticketTypeId = a.ticketTypeId) :
    (discipline a t).Follows exec t (fun _ g' => g'.Ended)
      (TicketService.create d userId ticketData) start := by
  unfold TicketService.create
  rw [same]
  refine Discipline.Follows.bind (fun first g' => (first = -1 ∧ g' = start) ∨
    (first = 0 ∧ g' = start) ∨ (first = 1 ∧ g' = reserved)) ?_ fun first g₁ reserving => ?_
  · rw [database]
    exact follows_evalReserve (fun _ => .inl ⟨rfl, rfl⟩) (.inr (.inl ⟨rfl, rfl⟩))
      (.inr (.inr ⟨rfl, rfl⟩)) rfl fun _ => trivial
  refine Discipline.Follows.bind (fun result g' => (result = 1 ∧ g' = reserved) ∨
    (result = 0 ∧ g'.Ended)) ?_ fun result g₂ taking => ?_
  · rcases reserving with ⟨rfl, rfl⟩ | ⟨rfl, rfl⟩ | ⟨rfl, rfl⟩
    · refine (follows_reserveCold database).mono fun outcome g' holds => ?_
      cases outcome with
      | ok result => exact holds.imp_right fun ⟨zero, warm⟩ => ⟨zero, by rw [warm]; trivial⟩
      | error _ => exact holds
    · exact .inr ⟨rfl, trivial⟩
    · exact .inl ⟨rfl, rfl⟩
  rcases taking with ⟨rfl, rfl⟩ | ⟨rfl, ended⟩
  · refine Discipline.Follows.bind (fun _ g' => g'.Ended) ?_ fun _ _ ended => ended
    refine Discipline.Follows.tryCatch (fun _ g' => g'.Failing)
      ((follows_book database).mono fun outcome g' holds => ?_) fun e g' failing => ?_
    · cases outcome with
      | ok _ => exact .of_none holds
      | error _ => exact holds
    · refine (follows_compensate database failing).mono fun outcome g'' ended => ?_
      cases outcome with
      | ok _ => exact ended
      | error _ => exact ended
  · exact ended

/-- The whole request, session included. -/
theorem follows_program {userId : Int} {ticketData : TicketCreate}
    (database : d.apiRedis = a.database) (same : ticketData.ticketTypeId = a.ticketTypeId) :
    (discipline a t).Follows exec t (fun _ g' => g'.Ended ∧ g'.closed = true)
      ((Operation.create userId ticketData).program d) start := by
  exact follows_unit (follows_getDb _ (fun _ g' => g'.Ended) (follows_create database same)
    (fun _ _ ended => ended) (fun _ _ ended => follows_rollback fun _ => ended)
    fun _ _ ended => follows_close ⟨ended, rfl⟩)

end TicketCore.Attempt
