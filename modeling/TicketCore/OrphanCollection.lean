import TicketCore.Alone
import Mathlib.Data.Fin.VecNotation

/-!
# The garbage collector of Redis

A run of `reconcile_redis_orphans` that nothing disturbs, over any hash that `TicketService.create`
has written.

* `orphans_collected`: the collector refunds exactly the entries that are due, each once, and
  another run at the same time finds nothing to do.
-/

namespace TicketCore

open Interleave RowStore RedisDb

variable {ι : Type} [DecidableEq ι]

/-- The entry that `TicketService.create` writes for a lock. -/
def Reservation.entry (lock : Reservation) : String × String :=
  (toString lock.ticketId, reservationValue lock.ticketTypeId lock.timestamp)

theorem readReservation_entry (lock : Reservation) : readReservation lock.entry = some lock :=
  readReservation_reservationValue ..

/-- No live ticket stands behind a lock. -/
def Abandoned (db : Database ι) (lock : Reservation) : Prop :=
  ∀ ticket ∈ db.tickets.row lock.ticketId, ticket.status = .canceled

instance (db : Database ι) (lock : Reservation) : Decidable (Abandoned db lock) :=
  match row : db.tickets.row lock.ticketId with
  | none => isTrue fun _ mem => by rw [row] at mem; cases mem
  | some ticket => decidable_of_iff (ticket.status = .canceled)
      ⟨fun h _ mem => by rw [row] at mem; cases mem; exact h, fun h => h ticket row⟩

/-- The lock is older than the grace period, its ticket is absent or `CANCELED`, and it has not been
refunded. -/
def Due (d : Deployment) (clock : Int) (w : World ι) (lock : Reservation) : Prop :=
  (Worker.Suspicious (seconds clock) lock ∧ Abandoned w.db lock) ∧
    toString lock.ticketId ∉ (w.redis d.workerRedis).canceledTickets

instance (d : Deployment) (clock : Int) (w : World ι) (lock : Reservation) :
    Decidable (Due d clock w lock) :=
  inferInstanceAs (Decidable (_ ∧ _))

/-! ## Reading the hash -/

theorem filterMap_entry (locks : List Reservation) :
    (locks.map Reservation.entry).filterMap readReservation = locks := by
  rw [List.filterMap_map]
  exact (List.filterMap_congr fun lock _ => readReservation_entry lock).trans List.filterMap_some

/-- A hash that is enumerated in any order is read back. -/
theorem read_entries {locks : List Reservation} {hash : List (String × String)}
    (written : hash.Perm (locks.map Reservation.entry)) :
    hash.mapM readReservation = some (hash.filterMap readReservation) ∧
      (hash.filterMap readReservation).Perm locks := by
  have all : ∀ entry ∈ hash, ∃ lock, readReservation entry = some lock := fun entry mem => by
    obtain ⟨lock, _, rfl⟩ := List.mem_map.mp (written.mem_iff.mp mem)
    exact ⟨lock, readReservation_entry lock⟩
  constructor
  · clear written
    induction hash with
    | nil => rfl
    | cons entry hash ih =>
        obtain ⟨lock, read⟩ := all entry (List.mem_cons_self ..)
        rw [List.mapM_cons, read, ih fun other mem => all other (List.mem_cons_of_mem _ mem),
          List.filterMap_cons_some read]
        rfl
  · have read := written.filterMap readReservation
    rwa [filterMap_entry] at read

/-! ## A run of the collector -/

section Collector

variable {d : Deployment} {t : ι} {clock : Int} {w w' : World ι} {locks : List Reservation}

/-- What the collector does with locks of which some are suspicious. -/
theorem ensures_refundOrphans {suspiciousLocks : List Reservation} (calm : w.db.Calm)
    {post : Except Exn Unit → World ι → Prop}
    (h : post (.ok ()) (w.refundAll d.workerRedis ((suspiciousLocks.filter fun lock =>
      Abandoned w.db lock).map fun lock => (lock.ticketTypeId, lock.ticketId)))) :
    (Worker.refundOrphans d suspiciousLocks).Ensures exec t (CleanAt clock) post w := by
  refine Program.Ensures.bind (ensures_withSession CleanAt.clean (ensures_sql CleanAt.clean ?_))
  rintro _ _ _ _ ⟨⟩
  have statuses : ∀ lock ∈ suspiciousLocks,
      Worker.Orphaned (w.db.selectStatuses t (suspiciousLocks.map Reservation.ticketId)) lock ↔
        Abandoned w.db lock := fun lock mem => by
    unfold Worker.Orphaned
    rw [Database.lookup_selectStatuses, if_pos (List.mem_map_of_mem mem),
      read_of_not_held (heldBy_of_quiet calm.quiet.1)]
    unfold Abandoned
    cases w.db.tickets.row lock.ticketId with
    | none => exact ⟨fun _ _ mem => (Option.not_mem_none _ mem).elim, fun _ => .inl rfl⟩
    | some ticket =>
        exact ⟨fun holds _ mem => by
            cases mem
            exact Option.some.inj (holds.resolve_left nofun),
          fun holds => .inr (congrArg some (holds ticket rfl))⟩
  have orphans : (suspiciousLocks.filter fun lock => Worker.Orphaned
        (w.db.selectStatuses t (suspiciousLocks.map Reservation.ticketId)) lock) =
      suspiciousLocks.filter fun lock => Abandoned w.db lock :=
    List.filter_congr fun lock mem => decide_eq_decide.mpr (statuses lock mem)
  dsimp only [Program.Then]
  rw [orphans, calm.rollback]
  exact ensures_refunds CleanAt.clean h

/-- **A run of the collector refunds the suspicious locks without a live ticket.** -/
theorem ensures_collector (calm : w.db.Calm)
    (written : (w.redis d.workerRedis).activeReservations.Perm (locks.map Reservation.entry)) :
    (Worker.reconcileRedisOrphans d).Ensures exec t (CleanAt clock) (fun outcome w' =>
      outcome = .ok () ∧ ∃ read : List Reservation, read.Perm locks ∧
        w' = w.refundAll d.workerRedis ((read.filter fun lock =>
          Worker.Suspicious (seconds clock) lock ∧ Abandoned w.db lock).map
            fun lock => (lock.ticketTypeId, lock.ticketId))) w := by
  refine Program.Ensures.bind (Program.Ensures.bind (ensures_redis CleanAt.clean ?_))
  rintro _ listing _ _ ⟨⟩
  obtain ⟨decoded, perm⟩ := read_entries ((arrange_perm listing _).trans written)
  dsimp only [Program.Then]
  rw [decoded, Function.update_eq_self]
  generalize (arrange listing _).filterMap readReservation = read at perm
  have untouched : w = w.refundAll d.workerRedis [] := World.refundAll_nil.symm
  show Program.Ensures exec t _ _ (if read = [] then _ else _) w
  split
  · rename_i empty
    subst empty
    exact ⟨rfl, [], perm, untouched⟩
  · refine Program.Ensures.bind (ensures_now ?_)
    have split : (read.filter fun lock => Worker.Suspicious (seconds clock) lock ∧
        Abandoned w.db lock) = (read.filter fun lock =>
          Worker.Suspicious (seconds clock) lock).filter fun lock => Abandoned w.db lock := by
      rw [List.filter_filter]
      exact List.filter_congr fun lock _ => by rw [Bool.decide_and, Bool.and_comm]
    show Program.Ensures exec t _ _ (if _ = [] then _ else _) w
    split
    · rename_i none
      refine ⟨rfl, read, perm, ?_⟩
      rw [split, none]
      exact untouched
    · refine ensures_refundOrphans calm ⟨rfl, read, perm, ?_⟩
      rw [split]

end Collector

/-! ## The entries that are due -/

section Entries

omit [DecidableEq ι]

variable {d : Deployment} {clock : Int} {w : World ι} {locks read : List Reservation}

/-- The ticket type that stands with a ticket in these locks. -/
def typeIn (locks : List Reservation) (id : Int) : Int :=
  ((locks.find? fun lock => lock.ticketId = id).map Reservation.ticketTypeId).getD 0

theorem eq_of_ticketId (distinct : (locks.map Reservation.ticketId).Nodup)
    {lock lock' : Reservation}
    (mem : lock ∈ locks) (mem' : lock' ∈ locks) (same : lock.ticketId = lock'.ticketId) :
    lock = lock' :=
  List.inj_on_of_nodup_map distinct mem mem' same

theorem typeIn_of_mem (distinct : (locks.map Reservation.ticketId).Nodup) {lock : Reservation}
    (mem : lock ∈ locks) : typeIn locks lock.ticketId = lock.ticketTypeId := by
  unfold typeIn
  cases found : locks.find? fun other => other.ticketId = lock.ticketId with
  | none =>
      have absent := List.find?_eq_none.mp found lock mem
      exact (absent (decide_eq_true rfl)).elim
  | some other =>
      have same : other.ticketId = lock.ticketId :=
        of_decide_eq_true (List.find?_some (p := fun other : Reservation =>
          decide (other.ticketId = lock.ticketId)) found)
      have isLock := eq_of_ticketId distinct (List.mem_of_find?_eq_some found) mem same
      rw [isLock]
      rfl

/-- The tickets of the suspicious locks without a live ticket. -/
def orphanIds (clock : Int) (w : World ι) (read : List Reservation) : Finset Int :=
  ((read.filter fun lock => Worker.Suspicious (seconds clock) lock ∧ Abandoned w.db lock).map
    Reservation.ticketId).toFinset

theorem mem_orphanIds {id : Int} : id ∈ orphanIds clock w read ↔
    ∃ lock ∈ read, (Worker.Suspicious (seconds clock) lock ∧ Abandoned w.db lock) ∧
      lock.ticketId = id := by
  unfold orphanIds
  rw [List.mem_toFinset, List.mem_map]
  simp only [List.mem_filter, decide_eq_true_eq, and_assoc]

/-- What is refunded for the first time is what is due. -/
theorem mem_fresh_orphanIds (perm : read.Perm locks) {id : Int} :
    id ∈ (w.redis d.workerRedis).fresh (orphanIds clock w read) ↔
      ∃ lock ∈ locks, Due d clock w lock ∧ lock.ticketId = id := by
  rw [mem_fresh, mem_orphanIds]
  constructor
  · rintro ⟨⟨lock, mem, orphan, rfl⟩, fresh⟩
    exact ⟨lock, perm.mem_iff.mp mem, ⟨orphan, fresh⟩, rfl⟩
  · rintro ⟨lock, mem, due, rfl⟩
    exact ⟨⟨lock, perm.mem_iff.mpr mem, due.1, rfl⟩, due.2⟩

variable (distinct : (locks.map Reservation.ticketId).Nodup) (perm : read.Perm locks)

include distinct perm

theorem refundAll_orphans : (w.redis d.workerRedis).refundAll ((read.filter fun lock =>
      Worker.Suspicious (seconds clock) lock ∧ Abandoned w.db lock).map
        fun lock => (lock.ticketTypeId, lock.ticketId)) =
    (w.redis d.workerRedis).refunded (typeIn locks) (orphanIds clock w read) := by
  have typed : ∀ refund ∈ (read.filter fun lock => Worker.Suspicious (seconds clock) lock ∧
        Abandoned w.db lock).map fun lock => (lock.ticketTypeId, lock.ticketId),
      refund.1 = typeIn locks refund.2 := fun refund refunded => by
    obtain ⟨lock, mem, rfl⟩ := List.mem_map.mp refunded
    exact (typeIn_of_mem distinct (perm.mem_iff.mp (List.mem_filter.mp mem).1)).symm
  rw [refundAll_eq typed, List.map_map]
  rfl

/-- As many tickets of a type are refunded for the first time as locks of this type are due. -/
theorem card_due (ticketTypeId : Int) :
    (((w.redis d.workerRedis).fresh (orphanIds clock w read)).filter fun id =>
      typeIn locks id = ticketTypeId).card =
    locks.countP fun lock => Due d clock w lock ∧ lock.ticketTypeId = ticketTypeId := by
  have ids : ((w.redis d.workerRedis).fresh (orphanIds clock w read)).filter (fun id =>
        typeIn locks id = ticketTypeId) =
      ((locks.filter fun lock => Due d clock w lock ∧ lock.ticketTypeId = ticketTypeId).map
        Reservation.ticketId).toFinset := by
    ext id
    rw [Finset.mem_filter, mem_fresh_orphanIds perm, List.mem_toFinset, List.mem_map]
    simp only [List.mem_filter, decide_eq_true_eq]
    constructor
    · rintro ⟨⟨lock, mem, due, rfl⟩, same⟩
      rw [typeIn_of_mem distinct mem] at same
      exact ⟨lock, ⟨mem, due, same⟩, rfl⟩
    · rintro ⟨lock, ⟨mem, due, same⟩, rfl⟩
      refine ⟨⟨lock, mem, due, rfl⟩, ?_⟩
      rw [typeIn_of_mem distinct mem, same]
  rw [ids, List.toFinset_card_of_nodup (distinct.sublist (List.filter_sublist.map _)),
    List.length_map, List.countP_eq_length_filter]

/-- The entries of the locks that are not due stay. -/
theorem entries_left : (locks.map Reservation.entry).filter (fun entry =>
      entry.1 ∉ ((w.redis d.workerRedis).fresh (orphanIds clock w read)).image toString) =
    (locks.filter fun lock => ¬ Due d clock w lock).map Reservation.entry := by
  rw [List.filter_map]
  refine congrArg _ (List.filter_congr fun lock mem => decide_eq_decide.mpr (not_congr ?_))
  show toString lock.ticketId ∈ _ ↔ _
  rw [Finset.mem_image]
  constructor
  · rintro ⟨id, refunded, same⟩
    obtain ⟨lock', mem', due, rfl⟩ := (mem_fresh_orphanIds perm).mp refunded
    rwa [← eq_of_ticketId distinct mem' mem (DecimalText.toString_injective same)]
  · intro due
    exact ⟨lock.ticketId, (mem_fresh_orphanIds perm).mpr ⟨lock, mem, due, rfl⟩, rfl⟩

omit distinct in
/-- The tickets that are processed afterwards. -/
theorem processed_left : (w.redis d.workerRedis).canceledTickets ∪
      (orphanIds clock w read).image toString =
    (w.redis d.workerRedis).canceledTickets ∪ ((locks.filter fun lock => Due d clock w lock).map
      fun lock => toString lock.ticketId).toFinset := by
  ext member
  simp only [Finset.mem_union, Finset.mem_image, mem_orphanIds, List.mem_toFinset, List.mem_map,
    List.mem_filter, decide_eq_true_eq]
  constructor
  · rintro (before | ⟨_, ⟨lock, mem, orphan, rfl⟩, rfl⟩)
    · exact .inl before
    · by_cases processed : toString lock.ticketId ∈ (w.redis d.workerRedis).canceledTickets
      · exact .inl processed
      · exact .inr ⟨lock, ⟨perm.mem_iff.mp mem, orphan, processed⟩, rfl⟩
  · rintro (before | ⟨lock, ⟨mem, due⟩, rfl⟩)
    · exact .inl before
    · exact .inr ⟨_, ⟨lock, perm.mem_iff.mpr mem, due.1, rfl⟩, rfl⟩

end Entries

/-! ## A run collects what is due -/

/-- **The collector refunds exactly the entries that are due**: their counters rise by one for each
of them, their ids are processed, their entries are gone, and nothing else changes. Another run at
the same time changes nothing. -/
theorem orphans_collected {d : Deployment} {t : ι} {clock : Int} {w w' : World ι}
    {locks : List Reservation} {events : List (CallEvent ι)} {outcome : Except Exn Unit}
    (distinct : (locks.map Reservation.ticketId).Nodup)
    (written : (w.redis d.workerRedis).activeReservations = locks.map Reservation.entry)
    (calm : w.db.Calm) (run : (Worker.reconcileRedisOrphans d).Runs exec t w events outcome w')
    (clean : ∀ e ∈ events, CleanAt clock e) :
    outcome = .ok () ∧
    (w.redis d.workerRedis).activeReservations.mapM readReservation = some locks ∧
    (∀ ticketTypeId, (w'.redis d.workerRedis).inventory ticketTypeId =
      ((w.redis d.workerRedis).inventory ticketTypeId).map (· + ((locks.countP fun lock =>
        Due d clock w lock ∧ lock.ticketTypeId = ticketTypeId : Nat) : Int))) ∧
    (w'.redis d.workerRedis).canceledTickets = (w.redis d.workerRedis).canceledTickets ∪
      ((locks.filter fun lock => Due d clock w lock).map
        fun lock => toString lock.ticketId).toFinset ∧
    (w'.redis d.workerRedis).activeReservations =
      (locks.filter fun lock => ¬ Due d clock w lock).map Reservation.entry ∧
    w' = { w with redis := Function.update w.redis d.workerRedis
                    { w.redis d.workerRedis with
                      inventory := (w'.redis d.workerRedis).inventory
                      canceledTickets := (w'.redis d.workerRedis).canceledTickets
                      activeReservations := (w'.redis d.workerRedis).activeReservations } } ∧
    ∀ events' outcome' w'',
      (Worker.reconcileRedisOrphans d).Runs exec t w' events' outcome' w'' →
      (∀ e ∈ events', CleanAt clock e) → w'' = w' := by
  have decoded := (read_entries (List.Perm.of_eq written)).1
  rw [written, filterMap_entry] at decoded
  obtain ⟨rfl, read, perm, rfl⟩ :=
    (ensures_collector calm (List.Perm.of_eq written)).runs run clean
  have left : (w.refundAll d.workerRedis ((read.filter fun lock =>
        Worker.Suspicious (seconds clock) lock ∧ Abandoned w.db lock).map
          fun lock => (lock.ticketTypeId, lock.ticketId))).redis d.workerRedis =
      (w.redis d.workerRedis).refunded (typeIn locks) (orphanIds clock w read) :=
    World.refundAll_redis.trans (refundAll_orphans distinct perm)
  have entries : (locks.map Reservation.entry).filter (fun entry =>
        entry.1 ∉ ((w.redis d.workerRedis).fresh (orphanIds clock w read)).image toString) =
      (locks.filter fun lock => ¬ Due d clock w lock).map Reservation.entry :=
    entries_left distinct perm
  rw [← written] at entries
  refine ⟨rfl, written ▸ decoded, fun ticketTypeId => ?_, ?_, ?_, ?_, ?_⟩
  · rw [left, ← card_due distinct perm]
    rfl
  · rw [left, ← processed_left perm]
    rfl
  · rw [left, ← entries]
    rfl
  · rw [left]
    unfold World.refundAll
    rw [refundAll_orphans distinct perm]
    rfl
  · intro events' outcome' w'' run' clean'
    have written' : ((w.refundAll d.workerRedis ((read.filter fun lock =>
          Worker.Suspicious (seconds clock) lock ∧ Abandoned w.db lock).map
            fun lock => (lock.ticketTypeId, lock.ticketId))).redis
            d.workerRedis).activeReservations =
        (locks.filter fun lock => ¬ Due d clock w lock).map Reservation.entry := by
      rw [left, ← entries]
      rfl
    generalize again : w.refundAll d.workerRedis ((read.filter fun lock =>
      Worker.Suspicious (seconds clock) lock ∧ Abandoned w.db lock).map
        fun lock => (lock.ticketTypeId, lock.ticketId)) = w₁ at left written' run'
    have same : w₁.db = w.db := by
      rw [← again]
      rfl
    have calm' : w₁.db.Calm := by rwa [same]
    obtain ⟨_, read', perm', rfl⟩ :=
      (ensures_collector calm' (List.Perm.of_eq written')).runs run' clean'
    have processed :
      ∀ refund ∈ (read'.filter fun lock => Worker.Suspicious (seconds clock) lock ∧
          Abandoned w₁.db lock).map fun lock => (lock.ticketTypeId, lock.ticketId),
        toString refund.2 ∈ (w₁.redis d.workerRedis).canceledTickets :=
          fun refund refunded => by
      obtain ⟨lock, mem, rfl⟩ := List.mem_map.mp refunded
      obtain ⟨mem, orphan⟩ := List.mem_filter.mp mem
      have orphan := of_decide_eq_true orphan
      rw [same] at orphan
      have spared := of_decide_eq_true (List.mem_filter.mp (perm'.mem_iff.mp mem)).2
      rw [left]
      refine Finset.mem_union_left _ ?_
      by_contra fresh
      exact spared ⟨orphan, fresh⟩
    unfold World.refundAll
    rw [refundAll_of_processed processed, Function.update_eq_self]

/-- A lock of a `CANCELED` ticket, one of a `RESERVED` ticket, one without a ticket and a young
one. -/
def mixedLocks : List Reservation := [⟨1, 1, 0⟩, ⟨2, 1, 0⟩, ⟨7, 2, 0⟩, ⟨8, 1, 100⟩]

/-- The hash of these locks, and a counter for the first type. -/
def mixedEntries {ι : Type} : World ι where
  db :=
    { (World.empty : World ι).db with
      tickets := .ofList [⟨1, 1, .canceled, 0⟩, ⟨1, 1, .reserved, 0⟩] }
  redis _ :=
    { RedisDb.empty with
      inventory := fun id => if id = 1 then some 5 else none
      activeReservations := mixedLocks.map Reservation.entry }
  jobs := []

/-- Two of the four entries are due two minutes after they were written. -/
theorem orphans_collected_of_mixed :
    ∃ (events : List (CallEvent Unit)) (outcome : Except Exn Unit) (w' : World Unit),
      (Worker.reconcileRedisOrphans sharedRedis).Runs exec () mixedEntries events outcome w' ∧
      (w'.redis 0).inventory 1 = some 6 ∧ (w'.redis 0).inventory 2 = none ∧
      (w'.redis 0).activeReservations = [("2", "1:0"), ("8", "1:100")] := by
  have found : ((Worker.reconcileRedisOrphans sharedRedis).play exec () (fun _ =>
      { clock := 120000000 }) mixedEntries).any (fun r =>
        r.1.all fun e => decide (CleanAt 120000000 e)) = true := by
    decide
  obtain ⟨events, outcome, w', run, clean⟩ := Program.exists_runs_of_play
    (P := fun events _ _ => events.all fun e => decide (CleanAt 120000000 e)) found
  have clean : ∀ e ∈ events, CleanAt 120000000 e := fun e mem =>
    of_decide_eq_true (List.all_eq_true.mp clean e mem)
  have calm : (mixedEntries : World Unit).db.Calm := ⟨by decide, by decide⟩
  have distinct : (mixedLocks.map Reservation.ticketId).Nodup := by decide
  obtain ⟨_, _, counters, _, entries, _⟩ := orphans_collected distinct rfl calm run clean
  refine ⟨events, outcome, w', run, ?_, ?_, ?_⟩
  · exact (counters 1).trans (by decide)
  · exact (counters 2).trans (by decide)
  · exact entries.trans (by decide)

end TicketCore
