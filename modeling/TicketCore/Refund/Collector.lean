import TicketCore.Refund.Watch
import TicketCore.Sessions
import TicketCore.Worker

/-!
# The garbage collector of Redis

What a run of `reconcile_redis_orphans` keeps of a `Watch`. `follows_refunds` is the rule for the
loop over the orphaned locks, and `follows_reconcileRedisOrphans` the one for the whole task: what
is left to say of a watch is what its listing, its look at the clock and its `SELECT` find out.
-/

namespace TicketCore.Watch

open Interleave

variable {ι : Type} [DecidableEq ι] {K : Watch ι} {t : ι} {g : Part} {d : Deployment}

/-- What a collector is to do about the ticket, with these locks still to refund. -/
structure Matches (K : Watch ι) (locks : List Reservation) (g : Part) : Prop where
  fits : ∀ lock ∈ locks, K.Fits lock
  owing : g = .owing → ∃ lock ∈ locks, lock.ticketId = K.account.ticketId
  known : ∀ lock ∈ locks, lock.ticketId = K.account.ticketId → g = .owing ∨ g = .done
  settled : g = .idle ∨ g = .owing ∨ g = .done

/-- How a collector ends. -/
def Ends {α : Type} (outcome : Except Exn α) (g : Part) : Prop :=
  g.gave = 0 ∧ ((∃ a, outcome = .ok a) → ¬ g.Pending)

/-- A collector that has raised. -/
theorem Ends.raised {α : Type} {e : Exn} (collector : g.gave = 0) :
    Ends (.error e : Except Exn α) g :=
  ⟨collector, fun ok => by obtain ⟨_, ok⟩ := ok; cases ok⟩

/-- The loop over the orphaned locks. -/
theorem follows_refunds {locks : List Reservation} (start : K.Matches locks g) :
    K.discipline.Follows exec t Ends (locks.forM fun lock =>
      RedisKeys.refundInventoryIdempotent K.account.database lock.ticketTypeId
        lock.ticketId) g := by
  refine Discipline.Follows.forM K.Matches (fun lock rest g' matching => ?_) (fun g' matching => ?_)
    start
  · have head := List.mem_cons_self (a := lock) (l := rest)
    have collector : g'.gave = 0 := by
      rcases matching.settled with rfl | rfl | rfl
      · rfl
      · rfl
      · rfl
    refine follows_refund (matching.fits lock head) collector
      (fun _ => .raised rfl)
      (fun mine => ⟨matching.known lock head mine, ?_⟩) fun other => ?_
    · exact ⟨fun lock' mem => matching.fits lock' (List.mem_cons_of_mem _ mem), nofun,
        fun _ _ _ => .inr rfl, .inr (.inr rfl)⟩
    · refine ⟨fun lock' mem => matching.fits lock' (List.mem_cons_of_mem _ mem), fun owing => ?_,
        fun lock' mem => matching.known lock' (List.mem_cons_of_mem _ mem), matching.settled⟩
      obtain ⟨lock', mem, mine⟩ := matching.owing owing
      rcases List.mem_cons.mp mem with rfl | mem
      · exact (other mine).elim
      · exact ⟨lock', mem, mine⟩
  · rcases matching.settled with rfl | rfl | rfl
    · exact ⟨rfl, fun _ => id⟩
    · obtain ⟨_, mem, _⟩ := matching.owing rfl
      exact (List.not_mem_nil mem).elim
    · exact ⟨rfl, fun _ => id⟩

/-- A collector's session is closed. -/
theorem follows_close {post : Except Exn Unit → Part → Prop} (collector : K.owner ≠ some t)
    (closed : post (.ok ()) g) : K.discipline.Follows exec t post (sql .close) g := by
  refine follows_call (.inr fun looks => looks.elim) nofun
    fun events w ghost choice answer w' inv own ran => ?_
  cases ran
  have knows := inv.knows t
  rw [own] at knows
  exact ⟨g, inv.aside own rfl rfl (fun due => (K.looks _ due).elim) .inr (knows.later id)
    (K.also_rollback w t collector inv.also), closed⟩

/-- `HGETALL`, and what is read from it. -/
theorem follows_getAllActiveReservations {Listed : List Reservation → Part → Prop}
    (listed : ∀ w locks, K.Also w → (∀ lock ∈ locks, K.Fits lock) →
      (∀ lock, lock ∈ locks ↔ ∃ entry ∈ K.account.entries w,
        readReservation entry = some lock) →
        ∃ g', (g' = .idle ∨ g' = .listed ∨ (g' = .done ∧ K.account.Refunded w)) ∧
          Listed locks g') :
    K.discipline.Follows exec t (fun outcome g' => match outcome with
      | .ok locks => Listed locks g'
      | .error _ => g'.gave = 0)
      (RedisKeys.getAllActiveReservations K.account.database) .idle := by
  refine Discipline.Follows.bind (fun rawData g' => g'.gave = 0 ∧
    ∀ locks, rawData.mapM readReservation = some locks → Listed locks g') ?_ ?_
  · refine follows_call (.inl trivial) (fun _ _ => rfl)
      fun events w ghost choice answer w' inv own ran => ?_
    obtain ⟨a, r, done, rfl, changed⟩ := Cmd.run_redis ran
    cases done
    have redis : w'.redis = w.redis := by
      rw [changed]
      exact Function.update_eq_self ..
    have db : w' = { w with redis := w'.redis } := by rw [changed]
    rw [redis] at db
    have perm := arrange_perm choice.entries (w.redis K.account.database).activeReservations
    have goes : ∀ g', (g' = .idle ∨ g' = .listed ∨ (g' = .done ∧ K.account.Refunded w)) →
        K.Inv
          (events ++ [⟨t, .redis K.account.database .hgetall, choice, .ok (arrange choice.entries
          (w.redis K.account.database).activeReservations), w, w'⟩]) w'
          (Function.update ghost t g') := fun g' chosen => by
      refine inv.aside own redis ?_ (fun due => (K.looks _ due).elim)
        (fun pending => pending.elim) ?_
        (by rw [db]; exact inv.also)
      · rcases chosen with rfl | rfl | ⟨rfl, _⟩ <;> rfl
      · rcases chosen with rfl | rfl | ⟨rfl, refunded⟩
        · trivial
        · trivial
        · rw [db]
          exact refunded
    cases read : (arrange choice.entries (w.redis K.account.database).activeReservations).mapM
        readReservation with
    | none =>
        refine ⟨.idle, goes .idle (.inl rfl), rfl, fun locks same => ?_⟩
        rw [read] at same
        cases same
    | some locks =>
        have source : ∀ lock, lock ∈ locks ↔ ∃ entry ∈ K.account.entries w,
            readReservation entry = some lock := fun lock =>
          (mem_mapM_readReservation read).trans
            (exists_congr fun entry => and_congr_left fun _ => perm.mem_iff)
        obtain ⟨g', chosen, holds⟩ := listed w locks inv.also (fun lock mem => by
          obtain ⟨entry, stored, reads⟩ := (source lock).mp mem
          exact inv.consistent entry stored lock reads) source
        refine ⟨g', goes g' chosen, ?_, fun locks' same => ?_⟩
        · rcases chosen with rfl | rfl | ⟨rfl, _⟩ <;> rfl
        · rw [read] at same
          cases same
          exact holds
  · rintro rawData g' ⟨gave, holds⟩
    split
    · exact gave
    · rename_i locks read
      exact holds locks read

/-- The whole task, from what its listing, its look at the clock and its `SELECT` find out. -/
theorem follows_reconcileRedisOrphans (collector : K.owner ≠ some t)
    (database : d.workerRedis = K.account.database)
    (Listed Suspected : List Reservation → Part → Prop)
    (list : K.discipline.Follows exec t (fun outcome g' => match outcome with
      | .ok locks => Listed locks g'
      | .error _ => g'.gave = 0) (RedisKeys.getAllActiveReservations d.workerRedis) .idle)
    (listed_nil : ∀ g', Listed [] g' → Ends (.ok ()) g')
    (clock : ∀ locks g', Listed locks g' → K.discipline.Follows exec t (fun outcome g'' =>
      match outcome with
      | .ok clock =>
          Suspected (locks.filter fun lock => Worker.Suspicious (seconds clock) lock) g''
      | .error _ => g''.gave = 0) now g')
    (suspected_nil : ∀ g', Suspected [] g' → Ends (.ok ()) g')
    (select : ∀ locks g', Suspected locks g' → K.discipline.Follows exec t (fun outcome g'' =>
      match outcome with
      | .ok dbTickets =>
          K.Matches (locks.filter fun lock => Worker.Orphaned dbTickets lock) g''
      | .error _ => g''.gave = 0)
      (sql (.selectStatuses (locks.map Reservation.ticketId))) g') :
    K.discipline.Follows exec t Ends (Worker.reconcileRedisOrphans d) .idle := by
  refine Discipline.Follows.bind Listed (list.mono fun outcome g' holds => ?_)
    fun locks g₁ listed => ?_
  · cases outcome with
    | ok locks => exact holds
    | error e => exact .raised holds
  split
  · rename_i none
    subst none
    exact listed_nil g₁ listed
  refine Discipline.Follows.bind (fun clock g' =>
    Suspected (locks.filter fun lock => Worker.Suspicious (seconds clock) lock) g')
    ((clock locks g₁ listed).mono fun outcome g' holds => ?_) fun clock g₂ suspected => ?_
  · cases outcome with
    | ok clock => exact holds
    | error e => exact .raised holds
  dsimp only
  split
  · rename_i none
    rw [none] at suspected
    exact suspected_nil g₂ suspected
  refine Discipline.Follows.bind (fun dbTickets g' => K.Matches (List.filter (fun lock =>
    Worker.Orphaned dbTickets lock) (locks.filter fun lock =>
      Worker.Suspicious (seconds clock) lock)) g') ?_ fun dbTickets g₃ matching => ?_
  · refine follows_withSession (fun outcome g' => match outcome with
      | .ok dbTickets => K.Matches (List.filter (fun lock =>
          Worker.Orphaned dbTickets lock) (locks.filter fun lock =>
            Worker.Suspicious (seconds clock) lock)) g'
      | .error _ => g'.gave = 0) (select _ g₂ suspected) fun outcome g' holds => ?_
    refine follows_close collector ?_
    cases outcome with
    | ok dbTickets => exact holds
    | error e => exact .raised holds
  · rw [database]
    exact follows_refunds matching

end TicketCore.Watch
