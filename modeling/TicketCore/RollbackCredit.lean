import TicketCore.Booking.Runs
import TicketCore.Refund.Collector
import TicketCore.Refund.Create
import TicketCore.Routing
import Mathlib.Data.Fin.VecNotation

/-!
# The credit of a booking that is rolled back

A booking takes a slot from the counter, and then its transaction fails. Its `except` block returns
the slot. If it is the commit that has failed, the reservation entry is left behind, and a collector
that comes more than a minute later returns the slot, too.

* `credited_once_of_rollback`: exactly when the slot is taken once and returned once.
* `rollback_credited_twice`: the commit fails, and a collector runs two minutes later.
-/

namespace TicketCore

open Interleave RowStore Booking

variable {ι : Type} [DecidableEq ι]

/-- The entry that a booking has left behind. -/
structure Aftermath where
  account : Account
  /-- The timestamp of the entry, if there is one. -/
  entry : Option Int

namespace Aftermath

variable (A : Aftermath)

/-- The clock is read more than the grace period after the entry was written. -/
def Late (e : CallEvent ι) : Prop :=
  ∃ stamp second, A.entry = some stamp ∧ secondOf e = some second ∧
    second - stamp > Worker.gracePeriodSeconds

/-- Nobody sees such a ticket, and the entry is there until it is refunded. -/
structure Left (w : World ι) : Prop where
  absent : w.db.tickets.row A.account.ticketId = none
  idle : ∀ u, w.db.tickets.heldBy u A.account.ticketId = none
  entry : ∀ stamp, A.entry = some stamp → (toString A.account.ticketId,
    reservationValue A.account.ticketTypeId stamp) ∈ A.account.entries w ∨ A.account.Refunded w

/-- The watch of the ticket: a refund is due once a collector comes late. -/
def watch : Watch ι where
  account := A.account
  refunded := false
  Stamped stamp := A.entry = some stamp
  Due := A.Late
  looks e due := by
    obtain ⟨_, second, _, read, _⟩ := due
    unfold secondOf at read
    split at read
    · rename_i clock
      rw [clock]
      trivial
    · cases read
  Also := A.Left
  also_refund w ticketTypeId ticketId left := by
    refine ⟨left.absent, left.idle, fun stamp same => ?_⟩
    by_cases mine : ticketId = A.account.ticketId
    · exact .inr (Account.refunded_refund.mpr (.inl mine))
    · rcases left.entry stamp same with stored | refunded
      · refine .inl ?_
        unfold Account.refund
        rw [Account.put_entries]
        exact RedisDb.mem_refundScript_of_ne stored fun equal =>
          mine (DecimalText.toString_injective equal).symm
      · exact .inr (Account.refunded_refund.mpr (.inr refunded))
  owner := none
  also_rollback w t _ left := by
    refine ⟨left.absent, fun u => ?_, left.entry⟩
    by_cases same : u = t
    · subst same
      exact heldBy_rollback_self
    · exact (heldBy_rollback_other same).trans (left.idle u)

variable {A} {t : ι} {g : Part} {d : Deployment}

/-! ## The collectors -/

/-- What a collector knows of the locks that it has listed. -/
structure Lists (A : Aftermath) (locks : List Reservation) (g : Part) : Prop where
  fits : ∀ lock ∈ locks, lock.ticketId = A.account.ticketId →
    lock.ticketTypeId = A.account.ticketTypeId ∧ A.entry = some lock.timestamp
  listed : g = .listed → ∃ lock ∈ locks, lock.ticketId = A.account.ticketId
  known : ∀ lock ∈ locks, lock.ticketId = A.account.ticketId → g = .listed
  settled : (g = .idle ∧ A.entry = none) ∨ g = .listed ∨ g = .done

theorem follows_list : (A.watch (ι := ι)).discipline.Follows exec t (fun outcome g' =>
    match outcome with
    | .ok locks => A.Lists locks g'
    | .error _ => g'.gave = 0) (RedisKeys.getAllActiveReservations A.account.database) .idle := by
  refine Watch.follows_getAllActiveReservations fun w locks left fits source => ?_
  by_cases present : ∃ lock ∈ locks, lock.ticketId = A.account.ticketId
  · exact ⟨.listed, .inr (.inl rfl), fits, fun _ => present, fun _ _ _ => rfl, .inr (.inl rfl)⟩
  have unknown : ∀ lock ∈ locks, lock.ticketId = A.account.ticketId →
      ∀ g : Part, g = .listed :=
    fun lock mem mine => (present ⟨lock, mem, mine⟩).elim
  cases entry : A.entry with
  | none => exact ⟨.idle, .inl rfl, fits, nofun, fun lock mem mine => unknown lock mem mine _,
      .inl ⟨rfl, entry⟩⟩
  | some stamp =>
      rcases left.entry stamp entry with stored | refunded
      · -- an entry that is there is listed
        have mem := (source ⟨A.account.ticketId, A.account.ticketTypeId, stamp⟩).mpr
          ⟨_, stored, readReservation_reservationValue ..⟩
        exact (present ⟨_, mem, rfl⟩).elim
      · exact ⟨.done, .inr (.inr ⟨rfl, refunded⟩), fits, nofun,
          fun lock mem mine => unknown lock mem mine _, .inr (.inr rfl)⟩

/-- The look at the clock: it decides whether the entry's lock is suspicious. -/
theorem follows_clock {locks : List Reservation} (lists : A.Lists locks g) :
    (A.watch (ι := ι)).discipline.Follows exec t (fun outcome g' => match outcome with
      | .ok clock => (A.watch (ι := ι)).Matches (locks.filter fun lock =>
          Worker.Suspicious (seconds clock) lock) g'
      | .error _ => g'.gave = 0) now g := by
  have calm : g.raised.Pending ∨ ¬ Looks .now := by
    rcases lists.settled with ⟨rfl, _⟩ | rfl | rfl
    · exact .inl trivial
    · exact .inl trivial
    · exact .inl trivial
  refine Watch.follows_call calm nofun fun events w ghost choice answer w' inv own ran => ?_
  cases ran
  have fits : ∀ lock ∈ locks.filter fun lock => Worker.Suspicious (seconds choice.clock) lock,
      (A.watch (ι := ι)).Fits lock := fun lock mem => lists.fits lock (List.mem_of_mem_filter mem)
  have knows := inv.knows t
  rw [own] at knows
  rcases lists.settled with ⟨rfl, none⟩ | rfl | rfl
  · refine ⟨.idle, inv.aside own rfl rfl (fun due => ?_)
      (fun pending => pending.elim) trivial inv.also,
      fits, nofun, fun lock mem mine => ?_, .inl rfl⟩
    · obtain ⟨stamp, _, entry, _⟩ := due
      rw [none] at entry
      cases entry
    · cases lists.known lock (List.mem_of_mem_filter mem) mine
  · obtain ⟨lock, mem, mine⟩ := lists.listed rfl
    have entry := (lists.fits lock mem mine).2
    by_cases late : Worker.Suspicious (seconds choice.clock) lock
    · have due : A.Late (⟨t, .now, choice, .ok choice.clock, w, w⟩ : CallEvent ι) :=
        ⟨lock.timestamp, seconds choice.clock, entry, rfl, late⟩
      exact ⟨.owing, inv.aside own rfl rfl (fun _ => .inr trivial) (fun pending => pending.elim)
        ⟨_, List.mem_append_right _ (List.mem_singleton_self _), due⟩ inv.also, fits,
        fun _ => ⟨lock, List.mem_filter.mpr ⟨mem, decide_eq_true late⟩, mine⟩,
        fun _ _ _ => .inl rfl,
        .inr (.inl rfl)⟩
    · refine ⟨.idle, inv.aside own rfl rfl (fun due => ?_) (fun pending => pending.elim) trivial
        inv.also, fits, nofun, fun lock' mem' mine' => ?_, .inl rfl⟩
      · obtain ⟨stamp, second, entry', read, elapsed⟩ := due
        rw [entry] at entry'
        cases entry'
        cases read
        exact (late elapsed).elim
      · obtain ⟨listed, suspicious⟩ := List.mem_filter.mp mem'
        have entry' := (lists.fits lock' listed mine').2
        rw [entry] at entry'
        have elapsed : Worker.Suspicious (seconds choice.clock) lock' :=
          of_decide_eq_true suspicious
        unfold Worker.Suspicious at elapsed late
        rw [← Option.some.inj entry'] at elapsed
        exact (late elapsed).elim
  · refine ⟨.done, inv.aside own rfl rfl (fun _ => .inl knows)
      (fun pending => pending.elim) knows
      inv.also, fits, nofun, fun lock mem mine => ?_, .inr (.inr rfl)⟩
    cases lists.known lock (List.mem_of_mem_filter mem) mine

/-- The `SELECT` never finds the ticket. -/
theorem follows_select {locks : List Reservation}
    (matching : (A.watch (ι := ι)).Matches locks g) :
    (A.watch (ι := ι)).discipline.Follows exec t (fun outcome g' => match outcome with
      | .ok dbTickets => (A.watch (ι := ι)).Matches (locks.filter fun lock =>
          Worker.Orphaned dbTickets lock) g'
      | .error _ => g'.gave = 0) (sql (.selectStatuses (locks.map Reservation.ticketId))) g := by
  have raised : g.raised = .failed := by
    rcases matching.settled with rfl | rfl | rfl
    · rfl
    · rfl
    · rfl
  refine Watch.follows_call (.inl (by rw [raised]; trivial)) (fun _ _ => by rw [raised]; rfl)
    fun events w ghost choice answer w' inv own ran => ?_
  cases ran
  have knows := inv.knows t
  rw [own] at knows
  refine ⟨g, inv.aside own rfl rfl (fun due => ?_) .inr (knows.later id) inv.also,
    fun lock mem => matching.fits lock (List.mem_of_mem_filter mem), fun owing => ?_,
    fun lock mem => matching.known lock (List.mem_of_mem_filter mem), matching.settled⟩
  · obtain ⟨_, _, _, read, _⟩ := due
    cases read
  · obtain ⟨lock, mem, mine⟩ := matching.owing owing
    have mine' : lock.ticketId = A.account.ticketId := mine
    refine ⟨lock, List.mem_filter.mpr ⟨mem, decide_eq_true (.inl ?_)⟩, mine⟩
    rw [Database.lookup_selectStatuses, mine', read_of_not_held (inv.also.idle t), inv.also.absent,
      Option.map_none, ite_self]

/-- A collector. -/
theorem follows_collector (database : d.workerRedis = A.account.database) :
    (A.watch (ι := ι)).discipline.Follows exec t Watch.Ends
      (Worker.reconcileRedisOrphans d) .idle := by
  refine Watch.follows_reconcileRedisOrphans nofun database A.Lists (A.watch (ι := ι)).Matches
    (by rw [database]; exact follows_list) (fun g' lists => ?_) (fun locks g' => follows_clock)
    (fun g' matching => ?_) fun locks g' => follows_select
  · rcases lists.settled with ⟨rfl, _⟩ | rfl | rfl
    · exact ⟨rfl, fun _ => id⟩
    · exact ⟨rfl, fun _ => id⟩
    · exact ⟨rfl, fun _ => id⟩
  · rcases matching.settled with rfl | rfl | rfl
    · exact ⟨rfl, fun _ => id⟩
    · obtain ⟨_, mem, _⟩ := matching.owing rfl
      exact (List.not_mem_nil mem).elim
    · exact ⟨rfl, fun _ => id⟩

theorem Inv.start {w : World ι} (key : (A.account.counter w).isSome)
    (entries : ∀ entry ∈ A.account.entries w, ∀ lock, readReservation entry = some lock →
      lock.ticketId = A.account.ticketId → lock.ticketTypeId = A.account.ticketTypeId ∧
        A.entry = some lock.timestamp)
    (fresh : ¬ A.account.Refunded w) (left : A.Left w) :
    (A.watch (ι := ι)).Inv [] w fun _ => .idle where
  key := key
  consistent := entries
  kept := nofun
  credited := by
    have unrefunded : ¬ (A.watch (ι := ι)).account.Refunded w := fresh
    rw [decide_eq_false unrefunded]
    rfl
  settled refunded := (fresh refunded).elim
  owed due := by
    obtain ⟨_, mem, _⟩ := due
    exact (List.not_mem_nil mem).elim
  knows _ := trivial
  also := left

/-- The collectors credit the ticket once, if one of them comes late. -/
theorem Inv.credits {events : List (CallEvent ι)} {w : World ι} {ghost : ι → Part}
    (h : A.watch.Inv events w ghost)
    (complete : (∃ e ∈ events, A.Late e) → ∀ u, ¬ (ghost u).Pending) :
    (A.account.credits events = 1 ∧ ∃ e ∈ events, A.Late e) ∨
      (A.account.credits events = 0 ∧ ¬ ∃ e ∈ events, A.Late e) := by
  have credited : A.account.credits events + 0 = (decide (A.account.Refunded w)).toNat + 0 :=
    h.credited
  rw [add_zero, add_zero] at credited
  by_cases late : ∃ e ∈ events, A.Late e
  · have refunded : A.account.Refunded w := (h.owed late).resolve_right fun pending => by
      obtain ⟨u, pending⟩ := pending
      exact complete late u pending
    rw [decide_eq_true refunded] at credited
    exact .inl ⟨credited, late⟩
  · have unrefunded : ¬ A.account.Refunded w := fun refunded => by
      rcases h.settled refunded with before | due
      · cases before
      · exact late due
    rw [decide_eq_false unrefunded] at credited
    exact .inr ⟨credited, late⟩

end Aftermath

/-! ## The attempt -/

namespace Attempt

variable {a : Account} {t : ι} {w : World ι}

/-- Redis has nothing of the ticket with this id. -/
structure Unused (a : Account) (w : World ι) : Prop where
  fresh : ¬ a.Refunded w
  entries : ∀ entry ∈ a.entries w, ∀ lock, readReservation entry = some lock →
    lock.ticketId ≠ a.ticketId

theorem Inv.start (id : a.ticketId = w.db.tickets.next) (unused : Unused a w) :
    Inv a t [] w start where
  tells :=
    { debits := rfl
      credits := rfl
      compensated :=
        ⟨fun found => by obtain ⟨_, mem, _⟩ := found; exact (List.not_mem_nil mem).elim,
        nofun⟩
      failure _ :=
        ⟨fun found => by obtain ⟨_, mem, _⟩ := found; exact (List.not_mem_nil mem).elim,
        nofun⟩
      stamp _ :=
        ⟨fun found => by obtain ⟨_, mem, _⟩ := found; exact (List.not_mem_nil mem).elim,
        nofun⟩ }
  entered :=
    { key := nofun
      fresh := unused.fresh
      entries := fun entry mem lock reads mine => (unused.entries entry mem lock reads mine).elim
      entry := nofun }
  written :=
    { next := fun _ => id.symm
      absent := fun _ => by rw [id]; exact row_next
      others := fun u _ => by rw [id]; exact heldBy_next
      closed := nofun }

/-- What an attempt that is rolled back leaves behind. -/
theorem Inv.left {g : Attempt} {events : List (CallEvent ι)} (h : Inv a t events w g)
    (closed : g.closed = true) (uncommitted : g.writing ≠ .committed) :
    (⟨a, if g.entered then g.stamp else none⟩ : Aftermath).Left w where
  absent := h.written.absent uncommitted
  idle u := by
    by_cases same : u = t
    · subst same
      exact h.written.closed closed
    · exact h.written.others u same
  entry stamp same := by
    dsimp only at same
    split at same
    · rename_i entered
      obtain ⟨stamp', read, stored⟩ := h.entered.entry entered
      rw [same, Option.some.injEq] at read
      subst read
      exact .inl stored
    · cases same

/-- The watch of what is left behind. -/
theorem Inv.watch {g : Attempt} {events : List (CallEvent ι)} (h : Inv a t events w g)
    (keyed : g.keyed = true) (closed : g.closed = true) (uncommitted : g.writing ≠ .committed) :
    ((⟨a, if g.entered then g.stamp else none⟩ : Aftermath).watch (ι := ι)).Inv [] w
      fun _ => .idle := by
  refine Aftermath.Inv.start (h.entered.key keyed) (fun entry mem lock reads mine => ?_)
    h.entered.fresh (h.left closed uncommitted)
  obtain ⟨entered, type, stamp⟩ := h.entered.entries entry mem lock reads mine
  refine ⟨type, ?_⟩
  dsimp only
  rw [if_pos entered, stamp]

end Attempt

/-! ## The booking and the collectors -/

/-- A collector looks at the clock more than the grace period after the booking has. -/
def ComesLate (events events' : List (CallEvent ι)) : Prop :=
  ∃ stamp second, (∃ e ∈ events, secondOf e = some stamp) ∧
    (∃ e ∈ events', secondOf e = some second) ∧ second - stamp > Worker.gracePeriodSeconds

/-- The account of the ticket that a booking is to insert. -/
def accountOfNext (d : Deployment) (ticketTypeId : Int) (w : World ι) : Account :=
  ⟨d.workerRedis, ticketTypeId, w.db.tickets.next⟩

/-- The collectors take no slot. -/
theorem debits_of_collectors {a : Account} {d : Deployment} {w : World ι}
    {events : List (CallEvent ι)} {c : Config ι (World ι) Cmd Cmd.Resp Exn Unit}
    (run : Config.Run exec (config (fun _ => .reconcileRedisOrphans) d w) events c) :
    a.debits events = 0 := by
  have only := run.only (P := fun _ cmd => a.takes cmd = false) fun _ =>
    only_reconcileRedisOrphans (fun _ => rfl) rfl rfl rfl fun _ _ => rfl
  refine List.countP_eq_zero.mpr fun e mem => ?_
  rw [Account.not_debit (only.1 e mem)]
  exact Bool.false_ne_true

/-- How a booking leaves the account of its ticket. -/
theorem attempt_of_runs {d : Deployment} {w w₁ : World ι} {t : ι} {userId : Int}
    {ticketData : TicketCreate} {events : List (CallEvent ι)} {outcome : Except Exn Unit}
    (oneRedis : d.apiRedis = d.workerRedis)
    (unused : Attempt.Unused (accountOfNext d ticketData.ticketTypeId w) w)
    (run : ((Operation.create userId ticketData).program d).Runs exec t w events outcome w₁) :
    ∃ g, Attempt.Inv (accountOfNext d ticketData.ticketTypeId w) t events w₁ g ∧ g.Ended ∧
      g.closed = true := by
  have follows : (Attempt.discipline (accountOfNext d ticketData.ticketTypeId w) t).Follows exec t
      (fun _ g => g.Ended ∧ g.closed = true)
          ((Operation.create userId ticketData).program d) .start :=
    Attempt.follows_program oneRedis rfl
  have start : (Attempt.discipline (accountOfNext d ticketData.ticketTypeId w) t).inv [] w
      fun _ => .start := Attempt.Inv.start rfl unused
  obtain ⟨g, inv, ended, closed⟩ := follows.runs start rfl run fun _ _ => trivial
  have inv : Attempt.Inv (accountOfNext d ticketData.ticketTypeId w) t events w₁
      (Function.update (fun _ => Attempt.start) t g t) := inv
  rw [Function.update_self] at inv
  exact ⟨g, inv, ended, closed⟩

/-- The collectors, after an attempt that has taken a slot and is rolled back. -/
theorem credits_of_collectors {d : Deployment} {a : Account} {t : ι} {w : World ι} {g : Attempt}
    {events events' : List (CallEvent ι)} {c : Config ι (World ι) Cmd Cmd.Resp Exn Unit}
    (database : d.workerRedis = a.database) (inv : Attempt.Inv a t events w g)
    (keyed : g.keyed = true) (closed : g.closed = true) (uncommitted : g.writing ≠ .committed)
    (collectors : Config.Run exec (config (fun _ => .reconcileRedisOrphans) d w) events' c)
    (complete : ComesLate events events' → ∀ u, c.Finished u (.ok ())) :
    (a.credits events' = 1 ∧ g.entered = true ∧ ComesLate events events') ∨
      (a.credits events' = 0 ∧ ¬ (g.entered = true ∧ ComesLate events events')) := by
  let A : Aftermath := ⟨a, if g.entered then g.stamp else none⟩
  have late : (∃ e ∈ events', A.Late e) ↔ g.entered = true ∧ ComesLate events events' := by
    constructor
    · rintro ⟨e, mem, stamp, second, entry, read, elapsed⟩
      have entry : (if g.entered then g.stamp else none) = some stamp := entry
      split at entry
      · rename_i entered
        exact ⟨entered, stamp, second, (inv.tells.stamp stamp).mpr entry,
          ⟨e, mem, read⟩, elapsed⟩
      · cases entry
    · rintro ⟨entered, stamp, second, stamped, ⟨e, mem, read⟩, elapsed⟩
      refine ⟨e, mem, stamp, second, ?_, read, elapsed⟩
      show (if g.entered then g.stamp else none) = some stamp
      rw [if_pos entered]
      exact (inv.tells.stamp stamp).mp stamped
  have start : (A.watch (ι := ι)).discipline.Holds exec (fun _ => Watch.Ends) []
      (config (fun _ => .reconcileRedisOrphans) d w) :=
    ⟨fun _ => .idle, inv.watch keyed closed uncommitted,
      fun _ => Aftermath.follows_collector database⟩
  obtain ⟨ghost, kept, follows⟩ := start.run collectors fun _ _ => trivial
  have pending : (∃ e ∈ events', A.Late e) → ∀ u, ¬ (ghost u).Pending := fun due u =>
    (Discipline.Holds.post_of_finished follows (complete (late.mp due).2 u)).2 ⟨(), rfl⟩
  rcases Aftermath.Inv.credits kept pending with ⟨once, due⟩ | ⟨never, due⟩
  · exact .inl ⟨once, late.mp due⟩
  · exact .inr ⟨never, fun both => due (late.mpr both)⟩

/-- **A booking that is rolled back is credited exactly once**, if its `INCR` or a late collector
does it, and not both. -/
theorem credited_once_of_rollback {d : Deployment} {w w₁ : World ι} {t : ι} {userId : Int}
    {ticketData : TicketCreate} {events events' : List (CallEvent ι)} {outcome : Except Exn Unit}
    {c : Config ι (World ι) Cmd Cmd.Resp Exn Unit} (oneRedis : d.apiRedis = d.workerRedis)
    (unused : Attempt.Unused (accountOfNext d ticketData.ticketTypeId w) w)
    (run : ((Operation.create userId ticketData).program d).Runs exec t w events outcome w₁)
    (failed : ∃ e ∈ events, (failsAt e).isSome)
    (collectors : Config.Run exec (config (fun _ => .reconcileRedisOrphans) d w₁) events' c)
    (complete : ComesLate events events' → ∀ u, c.Finished u (.ok ())) :
    ((accountOfNext d ticketData.ticketTypeId w).debits (events ++ events') = 1 ∧
      (accountOfNext d ticketData.ticketTypeId w).credits (events ++ events') = 1) ↔
    ((∃ e ∈ events, failsAt e = some .books) ∧ ∃ e ∈ events, compensates e) ∨
      ((∃ e ∈ events, failsAt e = some .commit) ∧
        ((∃ e ∈ events, compensates e) ↔ ¬ ComesLate events events')) := by
  obtain ⟨g, inv, ended, closed⟩ := attempt_of_runs oneRedis unused run
  have debits : (accountOfNext d ticketData.ticketTypeId w).debits (events ++ events') =
      g.taken.toNat := by
    unfold Account.debits
    rw [List.countP_append]
    have none := debits_of_collectors (a := accountOfNext d ticketData.ticketTypeId w) collectors
    have taken := inv.tells.debits
    unfold Account.debits at none taken
    rw [none, taken, add_zero]
  have credits : (accountOfNext d ticketData.ticketTypeId w).credits (events ++ events') =
      g.returned.toNat + (accountOfNext d ticketData.ticketTypeId w).credits events' := by
    have returned := inv.tells.credits
    unfold Account.credits at returned ⊢
    rw [List.countP_append, returned]
  rw [debits, credits, inv.tells.failure, inv.tells.failure, inv.tells.compensated]
  obtain ⟨e, mem, some⟩ := failed
  obtain ⟨failure, fails⟩ := Option.isSome_iff_exists.mp some
  have failure' := (inv.tells.failure failure).mp ⟨e, mem, fails⟩
  unfold Attempt.Ended at ended
  rw [failure'] at ended ⊢
  cases failure with
  | cold =>
      have untaken : g.taken = false := ended
      rw [untaken]
      simp
  | books =>
      obtain ⟨keyed, taken, entered, uncommitted⟩ := ended
      have collected := (credits_of_collectors rfl inv keyed closed uncommitted collectors
        complete).resolve_left fun both => by
          rw [entered] at both
          cases both.2.1
      rw [taken, collected.1]
      cases g.returned <;> simp
  | commit =>
      obtain ⟨keyed, taken, entered, uncommitted⟩ := ended
      rw [taken]
      rcases credits_of_collectors rfl inv keyed closed uncommitted collectors complete with
        ⟨once, _, late⟩ | ⟨never, calm⟩
      · rw [once]
        cases g.returned <;> simp [late]
      · have calm : ¬ ComesLate events events' := fun late => calm ⟨entered, late⟩
        rw [never]
        cases g.returned <;> simp [calm]

/-! ## Two commits that fail -/

/-- Five tickets are for sale, and the counter says so. -/
def fiveUnsold : World (Fin 2) where
  db :=
    { tickets := .ofList []
      ticketTypes := .ofList [exampleType 5 0]
      users := {1}
      events := .ofList [exampleEvent] }
  redis _ := RedisDb.empty.setInventory 1 (some 5)
  jobs := []

theorem fiveUnsold_unused : Attempt.Unused (accountOfNext sharedRedis 1 fiveUnsold) fiveUnsold where
  fresh := List.not_mem_nil
  entries _ mem := (List.not_mem_nil mem).elim

/-- A booking of one of them. -/
def failingBooking : Async Unit := (Operation.create 1 ⟨1, Int.one_pos⟩).program sharedRedis

/-- The commit raises, and the `INCR` of the `except` block, too, if `twice`. -/
def commitFails (twice : Bool) (n : Nat) : Choice :=
  if n = 5 then { fault := some .sqlalchemy }
  else if n = 7 ∧ twice then { fault := some .redis }
  else {}

/-- Two collectors, one step after the other, two minutes after the booking. -/
def twoCollectors (first second : Fin 2) : List (Fin 2 × Choice) :=
  (List.replicate 5 [first, second]).flatten.map fun t => (t, { clock := 120000000 })

/-- The collectors have come late, and both have returned. -/
def collectedLate (events' : List (CallEvent (Fin 2)))
    (c : Config (Fin 2) (World (Fin 2)) Cmd Cmd.Resp Exn Unit) : Bool :=
  events'.any (fun e => secondOf e = some 120) && decide (∀ t, c.result t = some (.ok ()))

/-- The commit raises in this run, and the entry is a minute older than the collectors. -/
def failedCommit (events : List (CallEvent (Fin 2))) : Bool :=
  events.any (fun e => failsAt e = some .commit) && events.any (fun e => secondOf e = some 0)

/-- The `INCR` raises as well, and the collectors return the slot. -/
theorem credited_once_by_collector :
    ∃ (events events' : List (CallEvent (Fin 2))) (outcome : Except Exn Unit)
      (w₁ : World (Fin 2)) (c : Config (Fin 2) (World (Fin 2)) Cmd Cmd.Resp Exn Unit),
      failingBooking.Runs exec 0 fiveUnsold events outcome w₁ ∧
      Config.Run exec (config (fun _ => .reconcileRedisOrphans) sharedRedis w₁) events' c ∧
      (accountOfNext sharedRedis 1 fiveUnsold).debits (events ++ events') = 1 ∧
      (accountOfNext sharedRedis 1 fiveUnsold).credits (events ++ events') = 1 := by
  have found : (failingBooking.play exec 0 (commitFails true) fiveUnsold).any (fun r =>
      (failedCommit r.1 && r.1.all fun e => !compensates e) &&
        ((config (fun _ => .reconcileRedisOrphans) sharedRedis r.2.2).replay exec
          (twoCollectors 0 1)).any
          fun r' => collectedLate r'.1 r'.2) = true := by
    decide
  obtain ⟨events, outcome, w₁, run, holds⟩ := Program.exists_runs_of_play
    (P := fun (events : List (CallEvent (Fin 2))) _ (w₁ : World (Fin 2)) =>
      (failedCommit events && events.all fun e => !compensates e) &&
        ((config (fun _ => .reconcileRedisOrphans) sharedRedis w₁).replay exec
          (twoCollectors 0 1)).any
          fun r' => collectedLate r'.1 r'.2) found
  simp only [failedCommit, Bool.and_eq_true, List.any_eq_true, List.all_eq_true, Bool.not_eq_true',
    decide_eq_true_eq] at holds
  obtain ⟨⟨⟨⟨e, mem, commit⟩, stamped⟩, uncompensated⟩, next⟩ := holds
  obtain ⟨events', c, collectors, holds'⟩ :=
    Config.exists_run_of_replay (P := collectedLate) next
  simp only [collectedLate, Bool.and_eq_true, List.any_eq_true, decide_eq_true_eq] at holds'
  obtain ⟨clock, ended⟩ := holds'
  have late : ComesLate events events' := ⟨0, 120, stamped, clock, by decide⟩
  have finished : ∀ t, c.Finished t (.ok ()) := fun t => Config.finished_of_result (ended t)
  refine ⟨events, events', outcome, w₁, c, run, collectors,
    (credited_once_of_rollback rfl fiveUnsold_unused run
      ⟨e, mem, by rw [commit]; rfl⟩ collectors
      fun _ => finished).mpr (.inr ⟨⟨e, mem, commit⟩, ?_⟩)⟩
  refine ⟨fun found => ?_, fun early => (early late).elim⟩
  obtain ⟨e, mem, compensated⟩ := found
  rw [uncompensated e mem] at compensated
  cases compensated

/-- Both collectors have returned, and a slot has been taken once and returned twice. -/
def returnedTwice (events events' : List (CallEvent (Fin 2)))
    (c : Config (Fin 2) (World (Fin 2)) Cmd Cmd.Resp Exn Unit) : Bool :=
  decide (∀ t, c.result t = some (.ok ())) &&
    decide ((accountOfNext sharedRedis 1 fiveUnsold).debits (events ++ events') = 1 ∧
      (accountOfNext sharedRedis 1 fiveUnsold).credits (events ++ events') = 2)

/-- The commit raises, the `INCR` returns the slot, and two minutes later the collectors do. -/
theorem rollback_credited_twice :
    ∃ (events events' : List (CallEvent (Fin 2))) (outcome : Except Exn Unit)
      (w₁ : World (Fin 2)) (c : Config (Fin 2) (World (Fin 2)) Cmd Cmd.Resp Exn Unit),
      failingBooking.Runs exec 0 fiveUnsold events outcome w₁ ∧
      (∃ e ∈ events, failsAt e = some .commit) ∧
      Config.Run exec (config (fun _ => .reconcileRedisOrphans) sharedRedis w₁) events' c ∧
      (∀ t, c.Finished t (.ok ())) ∧
      (accountOfNext sharedRedis 1 fiveUnsold).debits (events ++ events') = 1 ∧
      (accountOfNext sharedRedis 1 fiveUnsold).credits (events ++ events') = 2 := by
  have found : (failingBooking.play exec 0 (commitFails false) fiveUnsold).any (fun r =>
      failedCommit r.1 &&
        ((config (fun _ => .reconcileRedisOrphans) sharedRedis r.2.2).replay exec
          (twoCollectors 0 1)).any
          fun r' => returnedTwice r.1 r'.1 r'.2) = true := by
    decide
  obtain ⟨events, outcome, w₁, run, holds⟩ := Program.exists_runs_of_play
    (P := fun (events : List (CallEvent (Fin 2))) _ (w₁ : World (Fin 2)) => failedCommit events &&
      ((config (fun _ => .reconcileRedisOrphans) sharedRedis w₁).replay exec
        (twoCollectors 0 1)).any
        fun r' => returnedTwice events r'.1 r'.2) found
  rw [Bool.and_eq_true] at holds
  obtain ⟨commit, next⟩ := holds
  obtain ⟨events', c, collectors, ended⟩ := Config.exists_run_of_replay
    (P := returnedTwice events) next
  simp only [failedCommit, Bool.and_eq_true, List.any_eq_true, decide_eq_true_eq] at commit
  simp only [returnedTwice, Bool.and_eq_true, decide_eq_true_eq] at ended
  exact ⟨events, events', outcome, w₁, c, run, commit.1, collectors,
    fun t => Config.finished_of_result (ended.1 t), ended.2⟩

end TicketCore
