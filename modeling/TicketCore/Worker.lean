import TicketCore.World

/-!
# The worker's tasks

`release_unpaid_ticket`, `reconcile_hung_tickets` and `reconcile_redis_orphans` of `src/worker.py`,
with the two helpers of `RedisKeys` that they call. The metrics decorator around each task returns
and raises what the task does.
-/

namespace TicketCore

namespace RedisKeys

/-- `RedisKeys.refund_inventory_idempotent`. -/
def refundInventoryIdempotent (database : Nat) (ticketTypeId ticketId : Int) : Async Unit :=
  redis database (.evalRefund ticketTypeId (toString ticketId))

/-- `RedisKeys.get_all_active_reservations`. -/
def getAllActiveReservations (database : Nat) : Async (List Reservation) := do
  let rawData : List (String × String) ← redis database .hgetall
  match rawData.mapM readReservation with
  | none => throw .value
  | some reservations => pure reservations

end RedisKeys

namespace Worker

/-! ## The timeout of one ticket -/

/-- What is left to do for a ticket in status `RESERVED`; the commit flushes the new status. -/
def cancelTicket (d : Deployment) (ticketId : Int) (ticket : Ticket) : Async Unit := do
  sql (.addTicketsSold ticket.ticketTypeId (-1))
  RedisKeys.refundInventoryIdempotent d.workerRedis ticket.ticketTypeId ticketId
  sql (.updateTicketStatus ticketId .canceled)
  sql .commit

/-- The `try` block of `release_unpaid_ticket`. -/
def releaseReserved (d : Deployment) (ticketId : Int) : Async Unit := do
  let ticket : Option Ticket ← sql (.selectTicketForUpdate ticketId none)
  match ticket with
  | none => pure ()
  | some ticket => if ticket.status ≠ .reserved then pure () else cancelTicket d ticketId ticket

/-- `release_unpaid_ticket`. -/
def releaseUnpaidTicket (d : Deployment) (ticketId : Int) : Async Unit :=
  withSession (tryCatch (releaseReserved d ticketId) fun e => do sql .rollback; throw e)

/-! ## The garbage collector of the database -/

/-- The rows of the cancelling `UPDATE`, in turn, with what it returns. -/
def cancelHungTickets (threshold : Int) : List Int → Async (List (Int × Int))
  | [] => pure []
  | id :: ids => do
      let row : Option (Int × Int) ← sql (.cancelHungTicket id threshold)
      let rows ← cancelHungTickets threshold ids
      pure (row.toList ++ rows)

/-- `Counter(t.ticket_type_id for t in canceled_tickets)`: in the order of first occurrence. -/
def typeCount (canceledTickets : List (Int × Int)) : List (Int × Int) :=
  let types := canceledTickets.map Prod.snd
  types.reverse.dedup.reverse.map fun ticketTypeId => (ticketTypeId, types.count ticketTypeId)

/-- The keys of that counter: the ticket types of these tickets, each once. -/
def kindsOf (canceledTickets : List (Int × Int)) : List Int :=
  (canceledTickets.map Prod.snd).reverse.dedup.reverse

theorem mem_kindsOf {canceledTickets : List (Int × Int)} {ticketTypeId : Int} :
    ticketTypeId ∈ kindsOf canceledTickets ↔ ticketTypeId ∈ canceledTickets.map Prod.snd := by
  unfold kindsOf
  rw [List.mem_reverse, List.mem_dedup, List.mem_reverse]

theorem kindsOf_nodup (canceledTickets : List (Int × Int)) : (kindsOf canceledTickets).Nodup :=
  List.nodup_reverse.mpr (List.nodup_dedup _)

theorem typeCount_eq (canceledTickets : List (Int × Int)) :
    typeCount canceledTickets = (kindsOf canceledTickets).map fun ticketTypeId =>
      (ticketTypeId, ((canceledTickets.map Prod.snd).count ticketTypeId : Int)) := rfl

/-- The part of `reconcile_hung_tickets` inside its session. -/
def reconcile (d : Deployment) (threshold : Int) : Async Unit := do
  let ids : List Int ← sql (.hungTickets threshold)
  let canceledTickets ← cancelHungTickets threshold ids
  if canceledTickets = [] then pure ()
  else
    (typeCount canceledTickets).forM fun (ticketTypeId, count) =>
      sql (.addTicketsSold ticketTypeId (-count))
    canceledTickets.forM fun (ticketId, ticketTypeId) =>
      RedisKeys.refundInventoryIdempotent d.workerRedis ticketTypeId ticketId
    sql .commit

/-- `reconcile_hung_tickets`. -/
def reconcileHungTickets (d : Deployment) : Async Unit := do
  let clock ← now
  withSession (reconcile d (clock - d.ticketReservationTimeSeconds * 1000000))

/-! ## The garbage collector of Redis -/

/-- `GRACE_PERIOD_SECONDS`. -/
def gracePeriodSeconds : Int := 60

/-- Whether a lock is old enough to be looked at. -/
def Suspicious (currentTime : Int) (lock : Reservation) : Prop :=
  currentTime - lock.timestamp > gracePeriodSeconds

instance (currentTime : Int) (lock : Reservation) : Decidable (Suspicious currentTime lock) :=
  inferInstanceAs (Decidable (_ > _))

/-- Whether the database has no live ticket for a lock. -/
def Orphaned (dbTickets : List (Int × TicketStatus)) (lock : Reservation) : Prop :=
  dbTickets.lookup lock.ticketId = none ∨ dbTickets.lookup lock.ticketId = some .canceled

instance (dbTickets : List (Int × TicketStatus)) (lock : Reservation) :
    Decidable (Orphaned dbTickets lock) :=
  inferInstanceAs (Decidable (_ ∨ _))

/-- Refund the suspicious locks that the database does not know. -/
def refundOrphans (d : Deployment) (suspiciousLocks : List Reservation) : Async Unit := do
  let dbTickets : List (Int × TicketStatus) ←
    withSession (sql (.selectStatuses (suspiciousLocks.map Reservation.ticketId)))
  let orphanedLocks := suspiciousLocks.filter fun lock => Orphaned dbTickets lock
  orphanedLocks.forM fun lock =>
    RedisKeys.refundInventoryIdempotent d.workerRedis lock.ticketTypeId lock.ticketId

/-- `reconcile_redis_orphans`. -/
def reconcileRedisOrphans (d : Deployment) : Async Unit := do
  let activeRedisLocks ← RedisKeys.getAllActiveReservations d.workerRedis
  if activeRedisLocks = [] then pure ()
  else
    let clock ← now
    let suspiciousLocks := activeRedisLocks.filter fun lock => Suspicious (seconds clock) lock
    if suspiciousLocks = [] then pure () else refundOrphans d suspiciousLocks

end Worker

end TicketCore
