import TicketCore.Catalog
import TicketCore.Interleave.Run

/-!
# Which database a command goes to

Every Redis command of the services goes to the database of the API's client, and every one of the
worker's tasks to the database of `ctx["redis"]`. `Routed` says this of a single command, and
`only_routed` of every operation; `only_onWorker` is the sharper bound for the tasks that cancel
tickets.
-/

namespace TicketCore

open Interleave

/-- The refund script and the listing of the hash go to the worker's database, and everything else
to the API's. -/
def Routed (d : Deployment) : Cmd → Prop
  | .redis n (.evalRefund ..) | .redis n .hgetall => n = d.workerRedis
  | .redis n _ => n = d.apiRedis
  | _ => True

/-- A Redis command for the worker's database. -/
def OnWorker (d : Deployment) : Cmd → Prop
  | .redis n _ => n = d.workerRedis
  | _ => True

/-- A call of the services of tickets and payments. -/
def OfTickets (d : Deployment) : Cmd → Prop
  | .redis n (.evalReserve _) | .redis n (.setInventory ..) | .redis n (.incrInventory _)
  | .redis n (.evalSafeIncr _) | .redis n (.hset ..) | .redis n (.hdel _) => n = d.apiRedis
  | .redis .. | .handler => False
  | .db _ | .enqueueJob _ | .now => True

variable {d : Deployment} {P : Cmd → Prop}

theorem OfTickets.routed {cmd : Cmd} (h : OfTickets d cmd) : Routed d cmd := by
  cases cmd with
  | redis n command =>
      cases command with
      | evalReserve ticketTypeId | setInventory ticketTypeId value | incrInventory ticketTypeId
      | evalSafeIncr ticketTypeId | hset field value | hdel field => exact h
      | _ => exact h.elim
  | _ => trivial

theorem OfCatalog.routed {cmd : Cmd} (h : OfCatalog d cmd) : Routed d cmd := by
  cases cmd with
  | redis n command =>
      cases command with
      | setInventory ticketTypeId value | deleteInventory ticketTypeId | getEventStatic eventId
      | setEventStatic eventId event ttl | deleteEventStatic eventId | getEventListVersion
      | setEventListVersion version | incrEventListVersion | getEventList key
      | setEventList key events ttl => exact h
      | _ => exact h.elim
  | _ => trivial

/-! ## The services -/

section Services

theorem only_reserveCold {ticketTypeId : Int} :
    (TicketService.reserveCold d ticketTypeId).Only (OfTickets d) :=
  only_then trivial fun ticketType => match ticketType with
    | none => trivial
    | some _ => only_then rfl fun _ => Program.Only.call rfl

theorem only_book {userId ticketTypeId : Int} :
    (TicketService.book d userId ticketTypeId).Only (OfTickets d) :=
  only_then trivial fun _ => only_then trivial fun _ => only_then trivial fun _ =>
    only_then rfl fun _ => only_then trivial fun _ => only_then trivial fun _ =>
      only_then trivial fun _ => trivial

theorem only_compensate {α : Type} {ticketTypeId : Int} (e : Exn) :
    (TicketService.compensate (α := α) d ticketTypeId e).Only (OfTickets d) := by
  unfold TicketService.compensate
  split
  · refine only_then trivial fun _ => only_then rfl fun _ => ?_
    split
    · trivial
    · trivial
  · trivial

theorem only_create {userId : Int} {ticketData : TicketCreate} :
    (TicketService.create d userId ticketData).Only (OfTickets d) := by
  refine only_then rfl fun first => Program.Only.bind ?_ fun result => ?_
  · unfold TicketService.fallback
    split
    · exact only_reserveCold
    · trivial
  · split
    · trivial
    · exact Program.Only.bind (Program.Only.tryCatch only_book only_compensate) fun _ => trivial

theorem only_delete {ownerId ticketId : Int} :
    (TicketService.delete d ownerId ticketId).Only (OfTickets d) :=
  only_then trivial fun ticket => match ticket with
    | none => trivial
    | some _ => Program.Only.tryCatch
        (only_then trivial fun _ => only_then trivial fun _ => only_then trivial fun _ =>
          only_then rfl fun _ => Program.Only.call rfl)
        (only_rollbackOnSQLAlchemyError trivial)

theorem only_payForTicket {ticketId ownerId : Int} :
    (PaymentService.payForTicket d ticketId ownerId).Only (OfTickets d) := by
  refine only_then trivial fun ticket => ?_
  cases ticket with
  | none => trivial
  | some ticket =>
      dsimp only
      split
      · trivial
      · trivial
      · refine Program.Only.bind
          (Program.Only.tryCatch ?_ (only_rollbackOnSQLAlchemyError trivial))
          fun _ => trivial
        exact only_then trivial fun _ => only_then trivial fun _ => only_then trivial fun _ =>
          only_then rfl fun _ => trivial

end Services

/-! ## The tasks -/

section Tasks

theorem only_releaseUnpaidTicket {ticketId : Int} (statement : ∀ s, P (.db s))
    (refund : ∀ ty id, P (.redis d.workerRedis (.evalRefund ty id))) :
    (Worker.releaseUnpaidTicket d ticketId).Only P := by
  refine only_withSession (statement _) (Program.Only.tryCatch ?_ (only_rollback (statement _)))
  refine only_then (statement _) fun ticket => ?_
  cases ticket with
  | none => trivial
  | some ticket =>
      dsimp only
      split
      · trivial
      · exact only_then (statement _) fun _ => only_then (refund _ _) fun _ =>
          only_then (statement _) fun _ => Program.Only.call (statement _)

theorem only_cancelHungTickets {threshold : Int} (statement : ∀ s, P (.db s)) (ids : List Int) :
    (Worker.cancelHungTickets threshold ids).Only P := by
  induction ids with
  | nil => trivial
  | cons id ids ih =>
      exact only_then (statement _) fun _ => Program.Only.bind ih fun _ => trivial

theorem only_reconcileHungTickets (statement : ∀ s, P (.db s)) (now : P .now)
    (refund : ∀ ty id, P (.redis d.workerRedis (.evalRefund ty id))) :
    (Worker.reconcileHungTickets d).Only P := by
  refine only_then now fun clock => only_withSession (statement _) ?_
  refine only_then (statement _) fun ids =>
    Program.Only.bind (only_cancelHungTickets statement ids) fun canceledTickets => ?_
  split
  · trivial
  · refine Program.Only.bind (Program.Only.forM fun _ _ => Program.Only.call (statement _))
      fun _ => ?_
    exact Program.Only.bind (Program.Only.forM fun _ _ => Program.Only.call (refund _ _))
      fun _ => Program.Only.call (statement _)

theorem only_reconcileRedisOrphans (select : ∀ ids, P (.db (.selectStatuses ids)))
    (close : P (.db .close)) (now : P .now) (listing : P (.redis d.workerRedis .hgetall))
    (refund : ∀ ty id, P (.redis d.workerRedis (.evalRefund ty id))) :
    (Worker.reconcileRedisOrphans d).Only P := by
  refine Program.Only.bind (only_then listing fun rawData => ?_) fun locks => ?_
  · split
    · trivial
    · trivial
  · split
    · trivial
    · refine only_then now fun clock => ?_
      dsimp only
      split
      · trivial
      · refine Program.Only.bind (only_withSession close (Program.Only.call (select _)))
          fun dbTickets => ?_
        exact Program.Only.forM fun _ _ => Program.Only.call (refund _ _)

end Tasks

/-! ## The operations -/

/-- Every operation sends its Redis commands where they belong. -/
theorem only_routed (op : Operation) : (op.program d).Only (Routed d) := by
  cases op with
  | create userId ticketData =>
      exact (only_unit (only_getDb trivial trivial only_create)).mono fun _ => OfTickets.routed
  | delete ownerId ticketId =>
      exact (only_getDb trivial trivial only_delete).mono fun _ => OfTickets.routed
  | payForTicket ticketId ownerId =>
      exact (only_unit (only_getDb trivial trivial only_payForTicket)).mono
        fun _ => OfTickets.routed
  | releaseUnpaidTicket ticketId =>
      exact only_releaseUnpaidTicket (fun _ => trivial) fun _ _ => rfl
  | reconcileHungTickets =>
      exact only_reconcileHungTickets (fun _ => trivial) trivial fun _ _ => rfl
  | reconcileRedisOrphans =>
      exact only_reconcileRedisOrphans (fun _ => trivial) trivial trivial rfl fun _ _ => rfl
  | createType eventId typeData | updateType ticketTypeId updateData | deleteType ticketTypeId =>
      exact (only_typeOperation (by exact trivial)).mono fun _ => OfCatalog.routed

/-- A task that cancels `RESERVED` tickets. -/
def Cancels : Operation → Prop
  | .releaseUnpaidTicket _ | .reconcileHungTickets => True
  | _ => False

/-- The tasks that cancel tickets never send a command to another database than the worker's. -/
theorem only_onWorker {op : Operation} (cancels : Cancels op) :
    (op.program d).Only (OnWorker d) := by
  cases op with
  | releaseUnpaidTicket ticketId =>
      exact only_releaseUnpaidTicket (fun _ => trivial) fun _ _ => rfl
  | reconcileHungTickets =>
      exact only_reconcileHungTickets (fun _ => trivial) trivial fun _ _ => rfl
  | _ => exact cancels.elim

end TicketCore
