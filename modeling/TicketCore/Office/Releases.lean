import TicketCore.BatchRelease
import TicketCore.Office.Tickets

/-!
# Reservations of the office that run out

The worker's tasks, each to its end, with API and worker on one Redis database:
`release_unpaid_ticket` does what `Office.release` does, `reconcile_hung_tickets` does what
`Office.sweep` does, and `reconcile_redis_orphans` finds nothing to do.
-/

namespace TicketCore

open Interleave RowStore

variable {ι : Type} [DecidableEq ι] {d : Deployment} {t : ι} {w w' : World ι} {ids : List Int}
  {ticketId : Int}

/-! ## One reservation -/

section Single

variable {ticket : Ticket}

/-- A `RESERVED` ticket is canceled. -/
theorem ensures_cancelTicket (h : Mirrored d w) (shared : d.workerRedis = d.apiRedis)
    (stored : w.db.office.tickets ticketId = some ticket) (reserved : ticket.status = .reserved)
    (working : Working t w w.db.office w') :
    (Worker.cancelTicket d ticketId ticket).Ensures exec t Unfailing
      (Served d t w (w.db.office.release ticketId)) w' := by
  have releases : ∀ {result : Except Exn Office}, w.db.office.count ticket.ticketTypeId
      (-1) = result →
      w.db.office.release ticketId = result.map fun counted =>
        ((), counted.setTicket ticketId (some (ticket.withStatus .canceled))) := fun counted => by
    unfold Office.release
    rw [stored]
    dsimp only
    rw [if_neg (not_not.mpr reserved), ← counted]
  refine Program.Ensures.bind ((ensures_count working).mono ?_)
  rintro (e | _) w₁ ends
  · obtain ⟨refused, working⟩ := ends
    exact working.refused h (releases refused)
  obtain ⟨counted, moved, working⟩ := ends
  obtain ⟨tickets, events, users⟩ := Office.count_rest moved
  have unchanged := working.redis
  refine Program.Ensures.bind (ensures_redis unfailing_clean ?_)
  rintro _ _ _ _ ⟨⟩
  refine Program.Ensures.bind
    (ensures_updateTicketStatus (working.rebase _) (by rw [tickets, stored])
    fun w₂ working => ?_)
  refine ensures_sql unfailing_clean ?_
  rintro _ _ _ _ ⟨⟩
  have same : counted.setTicket ticketId (some (ticket.withStatus .canceled)) = { counted with
      tickets := Function.update w.db.tickets.row ticketId
          (some (ticket.withStatus .canceled)) } := by
    unfold Office.setTicket
    rw [tickets]
    rfl
  -- The ticket is `RESERVED`, so its refund has not been made.
  have fresh : toString ticketId ∉ (w.redis d.apiRedis).canceledTickets := fun processed =>
    (h.mirrors.processed ticketId processed).2 ⟨ticket, stored, reserved⟩
  have known := w.db.tickets.row_issued ticketId (Option.isSome_of_mem stored)
  have redis : w₂.redis d.apiRedis = (({ w.redis d.apiRedis with
      canceledTickets := insert (toString ticketId)
        (w.redis d.apiRedis).canceledTickets }).safeIncrScript
        ticket.ticketTypeId).hdel (toString ticketId) := by
    rw [working.redis]
    dsimp only
    rw [shared, Function.update_self, unchanged]
    exact if_neg fresh
  refine (working.served (releases moved) rfl (working.committed rfl ?_ ?_)).of_db rfl
  · dsimp only
    rw [redis, same]
    have settled : ∀ after, some (ticket.withStatus .canceled) = some after →
        after.status ≠ .reserved :=
      fun after found reserved => by
        cases found
        cases reserved
    have entries : ({ w.redis d.apiRedis with
        canceledTickets := insert (toString ticketId)
          (w.redis d.apiRedis).canceledTickets }.safeIncrScript
          ticket.ticketTypeId).activeReservations = (w.redis d.apiRedis).activeReservations :=
      RedisDb.safeIncrScript_activeReservations
    refine (h.mirrors.leave settled (Office.lowered_of_count moved) (fun id => ?_)
      (fun id mem => ?_)
      entries).grow working.opened.issued
    · rw [RedisDb.safeIncrScript_inventory]
      by_cases same : id = ticket.ticketTypeId
      · subst same
        rw [Function.update_self, if_pos rfl]
      · rw [Function.update_of_ne same, if_neg same]
        exact counter_still _
    · rw [RedisDb.safeIncrScript_canceledTickets] at mem
      rcases Finset.mem_insert.mp mem with same | old
      · exact .inr ⟨DecimalText.toString_injective same, known.2⟩
      · exact .inl old
  · dsimp only
    rw [redis]
    exact h.caches.of_offers (RedisDb.SameCaches.safeIncr ⟨rfl, rfl, rfl⟩)
      ((Office.offers_of_count moved).trans ⟨rfl, rfl⟩)

/-- **`release_unpaid_ticket` lets a reservation run out**, as the office does. -/
theorem ensures_releaseUnpaidTicket (h : Mirrored d w) (shared : d.workerRedis = d.apiRedis) :
    (Worker.releaseUnpaidTicket d ticketId).Ensures exec t Unfailing
      (Done d w (w.db.office.release ticketId)) w := by
  refine ensures_withSession unfailing_clean (Program.Ensures.tryCatch (Program.Ensures.bind
    (ensures_selectTicketForUpdate (.start h.calm) none fun w₁ working => ?_)))
  rw [filter_matchesAny]
  have stays : w.db.office.release ticketId = .ok ((), w.db.office) →
      Served d t w (w.db.office.release ticketId) (.ok ()) w₁ := fun nothing =>
    working.answered h nothing
  cases stored : w.db.office.tickets ticketId with
  | none =>
      refine stays ?_
      unfold Office.release
      rw [stored]
  | some ticket =>
      show Program.Ensures exec t Unfailing _ (if ticket.status ≠ .reserved then _ else _) _
      split
      · rename_i other
        refine stays ?_
        unfold Office.release
        rw [stored]
        exact if_pos other
      · rename_i reserved
        refine (ensures_cancelTicket h shared stored (not_not.mp reserved) working).mono ?_
        rintro (e | _) w₂ served
        · refine Program.Ensures.bind (ensures_sql unfailing_clean ?_)
          rintro _ _ _ _ ⟨⟩
          show Done d w _ _ { w₂ with db := (w₂.db.rollback t).rollback t }
          rw [rollback_rollback]
          exact served
        · exact served

end Single

/-! ## All reservations up to a time -/

section Batch

variable {threshold : Int}

omit [DecidableEq ι] in
/-- The slots of a type are as many as its tickets. -/
theorem slotsOf_eq_card {db : Database ι} (distinct : ids.Nodup) (ticketTypeId : Int) :
    slotsOf db ids ticketTypeId =
      ((ids.toFinset.filter fun id => ticketTypeOf db id = ticketTypeId).card : Int) := by
  have filtered : ids.toFinset.filter (fun id => ticketTypeOf db id = ticketTypeId) =
      (ids.filter fun id => ticketTypeOf db id == ticketTypeId).toFinset := by
    ext id
    rw [Finset.mem_filter, List.mem_toFinset, List.mem_toFinset, List.mem_filter, beq_iff_eq]
  unfold slotsOf
  rw [filtered, List.toFinset_card_of_nodup (distinct.filter _), List.count, List.countP_map,
    List.countP_eq_length_filter]
  rfl

omit [DecidableEq ι] in
/-- The hung tickets of the office are those that the batch finds. -/
theorem slotsOf_eq_ncard {db : Database ι} (perm : ids.Perm (hungTickets db threshold))
    (ticketTypeId : Int) :
    slotsOf db ids ticketTypeId = ((db.office.hung threshold ticketTypeId).ncard : Int) := by
  have distinct : ids.Nodup := perm.nodup_iff.mpr (idsWhere_nodup _ _)
  have same : db.office.hung threshold ticketTypeId =
      ((ids.toFinset.filter fun id => ticketTypeOf db id = ticketTypeId : Finset Int) :
          Set Int) := by
    ext id
    rw [Finset.mem_coe, Finset.mem_filter, List.mem_toFinset, perm.mem_iff, mem_hungTickets]
    constructor
    · rintro ⟨ticket, stored, hung, typed⟩
      exact ⟨⟨ticket, stored, hung⟩, (ticketTypeOf_of_row stored).trans typed⟩
    · rintro ⟨⟨ticket, stored, hung⟩, typed⟩
      exact ⟨ticket, stored, hung, (ticketTypeOf_of_row stored).symm.trans typed⟩
  rw [same, Set.ncard_coe_finset, slotsOf_eq_card distinct]

/-- The batch has gone through, so no type has fewer slots taken than hung tickets. -/
theorem sweep_of_released {canceled : Finset Int} {refunds : List (Int × Int)}
    (released : Releasing d.workerRedis t w canceled (slotsOf w.db ids) refunds w')
    (perm : ids.Perm (hungTickets w.db threshold)) (same : canceled = ids.toFinset)
    (calm : w'.db.Calm) : w.db.office.sweep threshold = .ok ((), w'.db.office) := by
  have lowered : ∀ id, Option.Rel (Lowered (w.db.office.hung threshold id).ncard)
      (w.db.ticketTypes.row id) (w'.db.ticketTypes.row id) := fun id => by
    have row := released.types id
    rwa [read_calm calm.quiet.2, slotsOf_eq_ncard perm] at row
  have enough : ∀ id row, w.db.office.types id = some row →
      ((w.db.office.hung threshold id).ncard : Int) ≤ row.ticketsSold := fun id row stored => by
    have stored : w.db.ticketTypes.row id = some row := stored
    have rows := lowered id
    rw [stored] at rows
    generalize w'.db.ticketTypes.row id = after at rows
    cases rows with
    | @some _ row' less =>
        have sold := less.ticketsSold
        have nonneg := row'.check_ticket_sold
        omega
  unfold Office.sweep
  rw [if_pos enough]
  have types : (fun id => (w.db.office.types id).bind fun row =>
      (row.addTicketsSold (-(w.db.office.hung threshold id).ncard)).toOption) =
          w'.db.ticketTypes.row := by
    funext id
    show (w.db.ticketTypes.row id).bind _ = _
    have rows := lowered id
    generalize w'.db.ticketTypes.row id = after at rows
    generalize w.db.ticketTypes.row id = before at rows
    cases rows with
    | none => rfl
    | @some row row' less =>
        have left : 0 + ((w.db.office.hung threshold id).ncard : Int) ≤ row.ticketsSold := by
          have sold := less.ticketsSold
          have nonneg := row'.check_ticket_sold
          omega
        obtain ⟨row'', changed⟩ := Lowered.zero.next left (Int.natCast_nonneg _)
        have again := Lowered.of_addTicketsSold changed
        rw [neg_neg] at again
        rw [Option.bind_some, changed, less.unique again]
        rfl
  have tickets : (fun id => (w.db.office.tickets id).map fun ticket =>
      if Database.Hung threshold ticket then ticket.withStatus .canceled else ticket) =
        w'.db.tickets.row := by
    funext id
    show (w.db.tickets.row id).map _ = _
    have row := released.tickets id
    rw [read_calm calm.quiet.1] at row
    have hungs : id ∈ canceled ↔
        ∃ ticket, w.db.tickets.row id = some ticket ∧ Database.Hung threshold ticket := by
      rw [same, List.mem_toFinset, perm.mem_iff, mem_hungTickets]
    rw [row]
    cases stored : w.db.tickets.row id with
    | none =>
        split
        · rfl
        · rfl
    | some ticket =>
        by_cases hung : Database.Hung threshold ticket
        · rw [if_pos (hungs.mpr ⟨ticket, stored, hung⟩), Option.map_some,
            Option.map_some, if_pos hung]
        · rw [Option.map_some, if_neg hung, if_neg]
          intro mem
          obtain ⟨_, found, holds⟩ := hungs.mp mem
          cases stored.symm.trans found
          exact hung holds
  rw [types, tickets]
  unfold Database.office
  rw [released.events, released.users]

omit [DecidableEq ι] in
/-- Some type has fewer slots taken than hung tickets, if the batch has not gone through. -/
theorem sweep_of_short (perm : ids.Perm (hungTickets w.db threshold)) (short : Short w.db ids) :
    w.db.office.sweep threshold = .error (.integrity .checkTicketSold) := by
  obtain ⟨id, row, stored, less⟩ := short
  rw [slotsOf_eq_ncard perm] at less
  exact if_neg fun enough => absurd (enough id row stored) (not_le.mpr less)

/-- `RESERVED` tickets are canceled, each once, and Redis follows. -/
theorem Mirrored.released (h : Mirrored d w) (shared : d.workerRedis = d.apiRedis)
    (released : Releasing d.workerRedis t w ids.toFinset (slotsOf w.db ids) (refundsOf w.db ids) w')
    (calm : w'.db.Calm) (le : w.db.tickets.issued ≤ w'.db.tickets.issued) (distinct : ids.Nodup)
    (reserved : ∀ id ∈ ids, ReservedIn w.db.tickets.row id) : Mirrored d w' := by
  have tickets : ∀ id, w'.db.tickets.row id = if id ∈ ids then
      (w.db.tickets.row id).map (·.withStatus .canceled) else w.db.tickets.row id := fun id => by
    have row := released.tickets id
    rw [read_calm calm.quiet.1] at row
    simp only [List.mem_toFinset] at row
    exact row
  have unreserved : ∀ id ∈ ids, ¬ ReservedIn w'.db.tickets.row id := by
    rintro id mem ⟨ticket, row, status⟩
    rw [tickets, if_pos mem] at row
    obtain ⟨before, _, rfl⟩ := Option.map_eq_some_iff.mp row
    cases status
  have redis : w'.redis d.apiRedis =
      (w.redis d.apiRedis).refunded (ticketTypeOf w.db) ids.toFinset := by
    have typed : ∀ refund ∈ refundsOf w.db ids, refund.1 = ticketTypeOf w.db refund.2 :=
      fun refund mem => by
        obtain ⟨id, _, rfl⟩ := List.mem_map.mp mem
        rfl
    have each : (refundsOf w.db ids).map Prod.snd = ids := by
      unfold refundsOf
      rw [List.map_map]
      exact List.map_id ids
    rw [released.redis, shared, World.refundAll_redis, RedisDb.refundAll_eq typed, each]
  have fresh : (w.redis d.apiRedis).fresh ids.toFinset = ids.toFinset := by
    refine Finset.filter_true_of_mem fun id mem processed => ?_
    exact (h.mirrors.processed id processed).2 (reserved id (List.mem_toFinset.mp mem))
  have lowered : ∀ id, Option.Rel (Lowered (slotsOf w.db ids id)) (w.db.ticketTypes.row id)
      (w'.db.ticketTypes.row id) := fun id => by
    have row := released.types id
    rw [read_calm calm.quiet.2] at row
    exact row
  have inventory : ∀ id,
      ((w.redis d.apiRedis).refunded (ticketTypeOf w.db) ids.toFinset).inventory id =
      ((w.redis d.apiRedis).inventory id).map (· + slotsOf w.db ids id) := fun id => by
    show ((w.redis d.apiRedis).inventory id).map _ = _
    rw [fresh, slotsOf_eq_card distinct]
  refine ⟨calm, ?_, ?_⟩
  · rw [redis]
    refine h.mirrors.settle le lowered inventory (fun id => ?_) (fun id mem => ?_)
      fun entry mem => ?_
    · rintro ⟨ticket, row, status⟩
      by_cases mem : id ∈ ids
      · exact (unreserved id mem ⟨ticket, row, status⟩).elim
      · rw [tickets, if_neg mem] at row
        exact ⟨ticket, row, status⟩
    · rcases Finset.mem_union.mp mem with old | new
      · exact .inl old
      · obtain ⟨id', listed, same⟩ := Finset.mem_image.mp new
        obtain rfl := DecimalText.toString_injective same
        have listed := List.mem_toFinset.mp listed
        obtain ⟨ticket, row, _⟩ := reserved id' listed
        have known := w.db.tickets.row_issued id' (by rw [row]; rfl)
        exact .inr ⟨by omega, unreserved id' listed⟩
    · obtain ⟨old, absent⟩ := List.mem_filter.mp mem
      rw [decide_eq_true_eq, fresh] at absent
      refine ⟨old, fun id key ⟨ticket, row, status⟩ => ⟨ticket, ?_, status⟩⟩
      have outside : id ∉ ids := fun mem =>
        absent (Finset.mem_image.mpr ⟨id, List.mem_toFinset.mpr mem, key.symm⟩)
      rw [tickets, if_neg outside, row]
  · rw [redis]
    refine h.caches.of_offers ⟨rfl, rfl, rfl⟩
      (.of_types (congrArg RowStore.row released.events) fun id => ?_)
    have rows := lowered id
    show Option.Rel _ (w.db.ticketTypes.row id) (w'.db.ticketTypes.row id)
    generalize w'.db.ticketTypes.row id = after at rows
    generalize w.db.ticketTypes.row id = before at rows
    cases rows with
    | none => exact .none
    | some less => exact .some less.response

/-- **`reconcile_hung_tickets` lets all reservations up to a time run out**, as the office does. -/
theorem ensures_hungTickets (h : Mirrored d w) (shared : d.workerRedis = d.apiRedis) :
    (Worker.reconcileHungTickets d).Ensures exec t Unfailing (fun outcome w' => ∃ clock, Done d w
      (w.db.office.sweep (clock - d.ticketReservationTimeSeconds * 1000000)) outcome w') w := by
  refine Program.Ensures.bind (ensures_anytime fun clock => ?_)
  refine ensures_withSession unfailing_clean (Program.Ensures.bind (ensures_sql unfailing_clean ?_))
  intro _ rows _ _ ran
  cases ran
  have perm :=
    arrange_perm rows (hungTickets w.db (clock - d.ticketReservationTimeSeconds * 1000000))
  have distinct := perm.nodup_iff.mpr (idsWhere_nodup _ _)
  refine (ensures_reconcileIds unfailing_clean h.calm distinct
    fun id mem => perm.mem_iff.mp mem).mono ?_
  rintro (e | _) w' ends
  · obtain ⟨rfl, ⟨opened, redis⟩, short⟩ := ends
    have working : Working t w (w'.db.seen t) w' := ⟨opened, rfl, redis⟩
    exact ⟨clock, working.refused h (sweep_of_short perm short)⟩
  · obtain ⟨⟨calm, le⟩, released⟩ := ends
    refine ⟨clock, ?_, ?_⟩
    · refine h.released shared released calm le distinct fun id mem => ?_
      obtain ⟨ticket, row, hung⟩ := mem_hungTickets.mp (perm.mem_iff.mp mem)
      exact ⟨ticket, row, hung.1⟩
    · rw [sweep_of_released released perm rfl calm]
      exact .answered

end Batch

/-! ## The garbage collector of Redis -/

/-- Entries that can be read are read. -/
theorem exists_mapM_readReservation {rawData : List (String × String)}
    (read : ∀ entry ∈ rawData, (readReservation entry).isSome) :
    ∃ locks, rawData.mapM readReservation = some locks := by
  induction rawData with
  | nil => exact ⟨[], rfl⟩
  | cons entry rest ih =>
      obtain ⟨lock, here⟩ := Option.isSome_iff_exists.mp (read entry (List.mem_cons_self ..))
      obtain ⟨locks, later⟩ := ih fun other mem => read other (List.mem_cons_of_mem _ mem)
      refine ⟨lock :: locks, ?_⟩
      rw [List.mapM_cons, here, later]
      rfl

/-- **`reconcile_redis_orphans` finds no entry without a `RESERVED` ticket**, and does nothing. -/
theorem ensures_redisOrphans (h : Mirrored d w) (shared : d.workerRedis = d.apiRedis) :
    (Worker.reconcileRedisOrphans d).Ensures exec t Unfailing
      (Done d w (.ok ((), w.db.office))) w := by
  have nothing : Done d w (.ok ((), w.db.office)) (.ok ()) w := ⟨h, .answered⟩
  refine Program.Ensures.bind (Program.Ensures.bind (ensures_redis unfailing_clean ?_))
  rintro _ listing _ _ ⟨⟩
  dsimp only [Program.Then]
  rw [Function.update_eq_self]
  have entries : ∀ entry, entry ∈ arrange listing (w.redis d.workerRedis).activeReservations ↔
      entry ∈ (w.redis d.apiRedis).activeReservations := fun entry => by
    rw [← shared]
    exact (arrange_perm listing _).mem_iff
  generalize arrange listing (w.redis d.workerRedis).activeReservations = rawData at entries
  obtain ⟨locks, decoded⟩ := exists_mapM_readReservation fun entry mem => by
    obtain ⟨_, _, _, read⟩ := h.mirrors.entries entry ((entries entry).mp mem)
    exact read
  have live : ∀ lock ∈ locks, ReservedIn w.db.tickets.row lock.ticketId := fun lock mem => by
    obtain ⟨entry, listed, read⟩ := (mem_mapM_readReservation decoded).mp mem
    obtain ⟨id, key, reserved, _⟩ := h.mirrors.entries entry ((entries entry).mp listed)
    have known : readReservation (toString id, entry.2) = some lock := by
      rw [← key]
      exact read
    rw [ticketId_of_readReservation known]
    exact reserved
  rw [decoded]
  show Program.Ensures exec t Unfailing _ (if locks = [] then _ else _) w
  split
  · exact nothing
  refine Program.Ensures.bind (ensures_anytime fun clock => ?_)
  show Program.Ensures exec t Unfailing _ (if _ = [] then _ else _) w
  split
  · exact nothing
  refine Program.Ensures.bind (ensures_withSession unfailing_clean (ensures_sql unfailing_clean ?_))
  rintro _ _ _ _ ⟨⟩
  dsimp only [Program.Then]
  rw [h.calm.rollback]
  have none : ((locks.filter fun lock => Worker.Suspicious (seconds clock) lock).filter fun lock =>
      Worker.Orphaned (w.db.selectStatuses t ((locks.filter fun lock =>
        Worker.Suspicious (seconds clock) lock).map Reservation.ticketId)) lock) = [] := by
    refine List.filter_eq_nil_iff.mpr fun lock mem orphaned => ?_
    obtain ⟨ticket, row, status⟩ := live lock (List.mem_filter.mp mem).1
    have orphaned := of_decide_eq_true orphaned
    unfold Worker.Orphaned at orphaned
    rw [Database.lookup_selectStatuses, if_pos (List.mem_map_of_mem mem),
      read_calm h.calm.quiet.1, row, Option.map_some, status] at orphaned
    rcases orphaned with absent | canceled
    · cases absent
    · cases canceled
  rw [none]
  exact nothing

end TicketCore
