import TicketCore.Booking.Runs
import TicketCore.Custody.Registry
import TicketCore.Routing
import Mathlib.Data.Fin.VecNotation

/-!
# Refunds of sold tickets

A timeout and the garbage collector of the database run the refund script inside an open
transaction. When a later call of it raises, the transaction is rolled back, and the ticket is
`RESERVED` again while its refund stands: it can still be paid for.

* `sold_unrefunded_of_run`: no `SOLD` ticket is refunded, as long as no call of such a task raises
  while a ticket that it has locked is already processed.
* `refunded_and_sold`: the commit of a timeout fails, and the ticket is paid for.
-/

namespace TicketCore

open Interleave RowStore Booking Custody

variable {ι : Type} [DecidableEq ι]

/-- A booking, a payment, a timeout or the garbage collector of the database. -/
def Sells : Operation → Prop
  | .create .. | .payForTicket .. | .releaseUnpaidTicket _ | .reconcileHungTickets => True
  | _ => False

/-- No `SOLD` ticket is in the set of the processed tickets. -/
def SoldUnrefunded (d : Deployment) (w : World ι) : Prop :=
  ∀ id ticket, w.db.tickets.row id = some ticket → ticket.status = .sold →
    ¬ Processed id (w.redis d.workerRedis)

/-- The processed tickets have been issued, and the ones that are left are `CANCELED`. -/
def ProcessedCanceled (d : Deployment) (w : World ι) : Prop :=
  ∀ id, Processed id (w.redis d.workerRedis) → (1 ≤ id ∧ id ≤ w.db.tickets.issued) ∧
    ∀ ticket, w.db.tickets.row id = some ticket → ticket.status = .canceled

/-- A call of a task that cancels tickets raises, and a ticket that the task has locked is already
processed. -/
def LosesRefund (d : Deployment) (ops : ι → Operation) (e : CallEvent ι) : Prop :=
  Cancels (ops e.thread) ∧ (∃ exn, e.answer = .error exn) ∧
    ∃ id, (e.before.db.tickets.heldBy e.thread id).isSome ∧
      Processed id (e.before.redis d.workerRedis)

/-! ## The commands of a sale -/

/-- A call that does not list the reservations, and runs the refund script only for a task that
cancels tickets. -/
def Refunding (op : Operation) : Cmd → Prop
  | .redis _ .hgetall => False
  | .redis _ (.evalRefund ..) => Cancels op
  | _ => True

variable {d : Deployment} {ops : ι → Operation} {w w' : World ι} {id : Int}

theorem OfTickets.refunding {op : Operation} {cmd : Cmd} (h : OfTickets d cmd) :
    Refunding op cmd := by
  cases cmd with
  | redis n command =>
      cases command with
      | evalRefund ticketTypeId ticketId | hgetall => exact h.elim
      | _ => trivial
  | _ => trivial

theorem only_refunding {op : Operation} (sells : Sells op) :
    (op.program d).Only (Refunding op) := by
  cases op with
  | create userId ticketData =>
      exact (only_unit (only_getDb trivial trivial only_create)).mono fun _ => OfTickets.refunding
  | payForTicket ticketId ownerId =>
      exact (only_unit (only_getDb trivial trivial only_payForTicket)).mono fun _ =>
        OfTickets.refunding
  | releaseUnpaidTicket ticketId =>
      exact only_releaseUnpaidTicket (fun _ => trivial) fun _ _ => trivial
  | reconcileHungTickets =>
      exact only_reconcileHungTickets (fun _ => trivial) trivial fun _ _ => trivial
  | _ => exact sells.elim

/-! ## One ticket -/

/-- What a sale keeps of a ticket. -/
structure Unrefunded (ops : ι → Operation) (d : Deployment) (id : Int) (w : World ι)
    (ghost : ι → Milestone) : Prop where
  accounted : Accounted id w.db (w.redis d.apiRedis) ghost
  sold : ∀ ticket, w.db.tickets.Version id ticket → ticket.status = .sold →
    ¬ Processed id (w.redis d.apiRedis)
  cancels : ∀ u, (ghost u).Settles → Cancels (ops u)
  lists : ∀ u, ¬ (ghost u).Suspects

/-- An event that does not lose a refund. -/
def Keeps (d : Deployment) (ops : ι → Operation) (e : CallEvent ι) : Prop :=
  Refunding (ops e.thread) e.cmd ∧ ¬ LosesRefund d ops e

theorem unrefunded_kept (shared : d.apiRedis = d.workerRedis) :
    Kept d id (Keeps d ops) fun _ => Unrefunded ops d id := by
  intro t events w ghost cmd choice answer w' g' coherent inv ran ok step
  have refunding : Refunding (ops t) cmd := ok.1
  have firm : (ghost t).Settles → Processed id (w.redis d.apiRedis) →
      ∃ a, answer = .ok a := by
    intro settles processed
    cases answer with
    | ok a => exact ⟨a, rfl⟩
    | error exn =>
        obtain ⟨_, version, reserved, _⟩ := (coherent t).settles settles
        refine (ok.2 ⟨inv.cancels t settles, ⟨exn, rfl⟩, id, ?_, shared ▸ processed⟩).elim
        exact Option.isSome_iff_exists.mpr ⟨version, reserved.version⟩
  have collects : ghost t = .doomed → Past w.db id := fun doomed =>
    (inv.lists t (by rw [doomed]; trivial)).elim
  refine ⟨accounted_step shared step coherent ran firm collects inv.accounted, ?_, ?_, ?_⟩
  · intro ticket version sold processed
    rcases sold_of_exec ran version sold with before | rfl
    · have earlier := inv.sold ticket before sold
      generalize own : ghost t = g at step
      cases step.registers shared ran with
      | same _ same | entered _ same | cleared _ _ same => exact earlier (same.mp processed)
      | refunded refunds _ _ =>
          rcases (coherent t).refunds (own ▸ refunds) with suspects | unsold
          · exact inv.lists t suspects
          · exact unsold ticket before sold
    · generalize own : ghost t = g at step
      cases step with
      | apart apart => exact apart.2 rfl
      | fail _ =>
          have same : SameTicket id w w' := .of_raised ran
          exact inv.sold ticket ((version_congr same.row same.held).mp version) sold
            ((same.processed _).mp processed)
      | @pay stored reserved =>
          have locked := coherent t
          rw [own] at locked
          refine inv.accounted.unprocessed coherent locked.2 ⟨.inl locked.1, reserved⟩
            (by rw [own]; exact not_false) ?_
          rwa [redis_of_db ran] at processed
  · refine (Function.forall_update_iff ghost fun u g => g.Settles → Cancels (ops u)).mpr
      ⟨fun settles => ?_, fun u _ => inv.cancels u⟩
    rcases step.settles_of settles with before | ⟨_, _, ticketTypeId, rfl⟩
    · exact inv.cancels t before
    · exact refunding
  · refine (Function.forall_update_iff ghost fun u g => ¬ g.Suspects).mpr
      ⟨fun suspects => ?_, fun u _ => inv.lists u⟩
    rcases step.suspects_of suspects with before | rfl
    · exact inv.lists t before
    · exact refunding

/-! ## The sale -/

/-- **No `SOLD` ticket is refunded, as long as no task loses a refund.** -/
theorem sold_unrefunded_of_run {events : List (CallEvent ι)}
    {c : Config ι (World ι) Cmd Cmd.Resp Exn Unit} (shared : d.apiRedis = d.workerRedis)
    (sells : ∀ t, Sells (ops t)) (quiet : w.db.Quiet) (start : ProcessedCanceled d w)
    (run : Config.Run exec (config ops d w) events c)
    (kept : ∀ e ∈ events, ¬ LosesRefund d ops e) : SoldUnrefunded d c.shared := by
  intro id ticket stored sold processed
  have inv : Unrefunded ops d id w fun _ => .away :=
    { accounted := fun processed => by
        obtain ⟨known, canceled⟩ := start id (shared ▸ processed)
        refine .inl ⟨known, fun ticket version => ?_⟩
        rw [canceled ticket (version_of_quiet quiet.1 version)]
        nofun
      sold := fun ticket version sold processed => by
        have canceled := (start id (shared ▸ processed)).2 ticket
          (version_of_quiet quiet.1 version)
        rw [sold] at canceled
        cases canceled
      cancels := fun _ settles => settles.elim
      lists := fun _ suspects => suspects }
  have only := (run.only fun t => only_refunding (d := d) (sells t)).1
  obtain ⟨_, _, kept, _⟩ := (unrefunded_kept shared).run (fun t => .operation (ops t))
    quiet.1 inv run fun e mem => ⟨only e mem, kept e mem⟩
  exact kept.sold ticket (.inl stored) sold (shared ▸ processed)

/-- A booking, the timeout of its ticket and the payment of it. -/
def bookExpirePay : Fin 3 → Operation :=
  ![.create 1 ⟨1, Int.one_pos⟩, .releaseUnpaidTicket 1, .payForTicket 1 1]

/-- The booking, then the timeout, of which the call number `n` fails, then the payment. -/
def lateSchedule (n : Nat) : List (Fin 3 × Choice) :=
  let calm : Choice := {}
  List.replicate 9 (0, calm) ++ List.replicate n (1, calm) ++
    [(1, { fault := some .sqlalchemy })] ++ List.replicate 2 (1, calm) ++ List.replicate 6 (2, calm)

theorem bookExpirePay_sells (t : Fin 3) : Sells (bookExpirePay t) :=
  match t with
  | 0 | 1 | 2 => trivial

/-- A commit, or a call that does not fail. -/
def onlyCommitsFail (e : CallEvent (Fin 3)) : Bool :=
  match e.cmd with
  | .db .commit => true
  | _ => e.choice.fault = none

/-- Nothing is processed when a call raises. -/
def raisesEarly (events : List (CallEvent (Fin 3))) : Bool :=
  events.all fun e => match e.answer with
    | .ok _ => true
    | .error _ => (e.before.redis 0).canceledTickets = ∅

/-- The first ticket is sold. -/
def firstSold (w : World (Fin 3)) : Bool :=
  (w.db.tickets.row 1).any fun ticket => ticket.status = .sold

/-- The first `UPDATE` of the timeout fails: nothing is refunded when the ticket is paid for. -/
theorem sold_unrefunded_after_failed_update :
    ∃ (events : List (CallEvent (Fin 3)))
      (c : Config (Fin 3) (World (Fin 3)) Cmd Cmd.Resp Exn Unit),
      Config.Run exec (config bookExpirePay sharedRedis saleDay) events c ∧
      firstSold c.shared ∧ SoldUnrefunded sharedRedis c.shared := by
  have found : ((config bookExpirePay sharedRedis saleDay).replay exec (lateSchedule 1)).any
      (fun r => raisesEarly r.1 && firstSold r.2.shared) = true := by
    decide
  obtain ⟨events, c, run, holds⟩ := Config.exists_run_of_replay
    (P := fun events c => raisesEarly events && firstSold c.shared) found
  rw [Bool.and_eq_true] at holds
  obtain ⟨early, sold⟩ := holds
  refine ⟨events, c, run, sold, sold_unrefunded_of_run rfl bookExpirePay_sells (by decide)
    (fun id processed => (Finset.notMem_empty _ processed).elim) run fun e mem loses => ?_⟩
  obtain ⟨_, ⟨exn, raised⟩, id, _, processed⟩ := loses
  have none := List.all_eq_true.mp early e mem
  rw [raised] at none
  have processed : toString id ∈ (e.before.redis 0).canceledTickets := processed
  rw [of_decide_eq_true none] at processed
  exact Finset.notMem_empty _ processed

/-- The commit of the timeout fails: the refund stands when the ticket is paid for. -/
theorem refunded_and_sold :
    ∃ (events : List (CallEvent (Fin 3)))
      (c : Config (Fin 3) (World (Fin 3)) Cmd Cmd.Resp Exn Unit),
      sharedRedis.apiRedis = sharedRedis.workerRedis ∧ (∀ t, Sells (bookExpirePay t)) ∧
      (saleDay : World (Fin 3)).db.Quiet ∧
      ProcessedCanceled sharedRedis (saleDay : World (Fin 3)) ∧
      Config.Run exec (config bookExpirePay sharedRedis saleDay) events c ∧
      (∀ e ∈ events, e.choice.fault ≠ none → e.cmd = .db .commit) ∧
      ¬ SoldUnrefunded sharedRedis c.shared := by
  have found : ((config bookExpirePay sharedRedis saleDay).replay exec (lateSchedule 4)).any
      (fun r => r.1.all onlyCommitsFail && (firstSold r.2.shared &&
        decide ("1" ∈ (r.2.shared.redis 0).canceledTickets))) = true := by
    decide
  obtain ⟨events, c, run, holds⟩ := Config.exists_run_of_replay
    (P := fun events c => events.all onlyCommitsFail && (firstSold c.shared &&
      decide ("1" ∈ (c.shared.redis 0).canceledTickets))) found
  rw [Bool.and_eq_true, Bool.and_eq_true, List.all_eq_true] at holds
  obtain ⟨commits, sold, processed⟩ := holds
  obtain ⟨ticket, stored, status⟩ := (Option.any_eq_true _ _).mp sold
  refine ⟨events, c, rfl, bookExpirePay_sells, by decide,
    fun id processed => (Finset.notMem_empty _ processed).elim, run, fun e mem faulty => ?_,
    fun unrefunded => ?_⟩
  · have commit := commits e mem
    unfold onlyCommitsFail at commit
    split at commit
    · assumption
    · exact (faulty (of_decide_eq_true commit)).elim
  · have mem : "1" ∈ (c.shared.redis 0).canceledTickets := of_decide_eq_true processed
    exact unrefunded 1 ticket stored (of_decide_eq_true status) mem

end TicketCore
