import TicketCore.Booking.Runs
import TicketCore.Custody.Registry
import TicketCore.Routing
import Mathlib.Data.Fin.VecNotation
import Mathlib.Data.Set.Basic
import Mathlib.Order.CompletePartialOrder

/-!
# The registry of reservations

A booking enters its ticket into the hash of the active reservations before it commits; a payment
and a deletion remove the entry after they have committed, and a timeout and the garbage collector
of the database before.

* `registry_exact`: without failures, whenever no call is in flight the entries are those of the
  `RESERVED` tickets, and none of them is processed.
-/

namespace TicketCore

open Interleave RowStore Booking Custody

variable {ι : Type} [DecidableEq ι]

/-- A booking, a payment, a deletion, a timeout or the garbage collector of the database. -/
def Handles : Operation → Prop
  | .create .. | .payForTicket .. | .delete .. | .releaseUnpaidTicket _ | .reconcileHungTickets =>
      True
  | _ => False

/-- The ids in the hash of the active reservations. -/
def enteredIds (d : Deployment) (w : World ι) : Set Int :=
  {id | Listed id (w.redis d.apiRedis)}

/-- The ids of the `RESERVED` tickets. -/
def reservedIds (w : World ι) : Set Int :=
  {id | ∃ ticket, w.db.tickets.row id = some ticket ∧ ticket.status = .reserved}

/-- The ids in the set of the processed tickets. -/
def processedIds (d : Deployment) (w : World ι) : Set Int :=
  {id | Processed id (w.redis d.workerRedis)}

/-- The hash has exactly the `RESERVED` tickets, and no processed one. -/
structure RegistryExact (d : Deployment) (w : World ι) : Prop where
  entries : enteredIds d w = reservedIds w
  disjoint : Disjoint (enteredIds d w) (processedIds d w)

/-- A call that does not list the reservations. -/
def Unlisting : Cmd → Prop
  | .redis _ .hgetall => False
  | _ => True

variable {d : Deployment} {ops : ι → Operation} {w : World ι} {id : Int}

theorem OfTickets.unlisting {cmd : Cmd} (h : OfTickets d cmd) : Unlisting cmd := by
  cases cmd with
  | redis n command =>
      cases command with
      | hgetall => exact h.elim
      | _ => trivial
  | _ => trivial

theorem only_unlisting {op : Operation} (handles : Handles op) :
    (op.program d).Only Unlisting := by
  cases op with
  | create userId ticketData =>
      exact (only_unit (only_getDb trivial trivial only_create)).mono fun _ => OfTickets.unlisting
  | delete ownerId ticketId =>
      exact (only_getDb trivial trivial only_delete).mono fun _ => OfTickets.unlisting
  | payForTicket ticketId ownerId =>
      exact (only_unit (only_getDb trivial trivial only_payForTicket)).mono fun _ =>
        OfTickets.unlisting
  | releaseUnpaidTicket ticketId =>
      exact only_releaseUnpaidTicket (fun _ => trivial) fun _ _ => trivial
  | reconcileHungTickets =>
      exact only_reconcileHungTickets (fun _ => trivial) trivial fun _ _ => trivial
  | _ => exact handles.elim

/-! ## One ticket -/

/-- What the calls keep of a ticket: how its entry, its row and its place among the processed
tickets belong together, and which call accounts for a difference. -/
structure Registered (d : Deployment) (id : Int) (w : World ι) (ghost : ι → Milestone) :
    Prop where
  accounted : Accounted id w.db (w.redis d.apiRedis) ghost
  unlisted : Processed id (w.redis d.apiRedis) → ¬ Listed id (w.redis d.apiRedis)
  settles : ∀ u, (ghost u).Settles → Processed id (w.redis d.apiRedis)
  entered : ∀ u clock, ghost u = .entered clock → Listed id (w.redis d.apiRedis)
  /-- An entry without a row is about to be committed, or about to be removed. -/
  absent : Listed id (w.redis d.apiRedis) → w.db.tickets.row id = none →
    ∃ u, (∃ clock, ghost u = .entered clock) ∨ ghost u = .gone
  /-- The entry of a ticket that is `RESERVED` no more is about to be removed. -/
  left : ∀ ticket, Listed id (w.redis d.apiRedis) → w.db.tickets.row id = some ticket →
    ticket.status ≠ .reserved → ∃ u ownerId, ghost u = .paid ownerId
  /-- A `RESERVED` ticket without an entry is about to be canceled. -/
  reserved : ∀ ticket, w.db.tickets.row id = some ticket → ticket.status = .reserved →
    Listed id (w.redis d.apiRedis) ∨ ∃ u, (ghost u).Settles
  lists : ∀ u, ¬ (ghost u).Suspects

/-- An event of a call that does not fail and does not list the reservations. -/
def Undisturbed (e : CallEvent ι) : Prop :=
  e.choice.fault = none ∧ Unlisting e.cmd

section Steps

variable {t : ι} {events : List (CallEvent ι)} {ghost : ι → Milestone}
  {w' : World ι} {cmd : Cmd} {choice : Choice} {answer : Except Exn cmd.Resp} {g' : Milestone}

variable (shared : d.apiRedis = d.workerRedis) (inv : Registered d id w ghost)
  (coherent : ∀ u, Coherent w.db u id (ghost u)) (step : Step d id (ghost t) cmd answer g')
  (ran : exec t cmd choice w = some (answer, w')) (clean : choice.fault = none)

include shared inv coherent step ran

/-- The entry of a ticket that is being booked stays. -/
theorem Registered.step_entered {u : ι} {clock : Int}
    (own : Function.update ghost t g' u = .entered clock) : Listed id (w'.redis d.apiRedis) := by
  have registers := step.registers shared ran
  by_cases before : ghost u = .entered clock
  · have booking := coherent u
    rw [before] at booking
    obtain ⟨absent, ticket, held, status⟩ := booking
    have version : w.db.tickets.Version id ticket := .inr ⟨u, heldBy_eq_some.mp held⟩
    have acting := coherent t
    have lists := inv.lists t
    rcases registers.listed (inv.entered u clock before) with stays | clears | refunds
    · exact stays
    · generalize ghost t = g at clears acting
      cases clears with
      | keep | clear => exact (acting.2.left ticket version status).elim
    · generalize ghost t = g at refunds acting lists
      cases refunds with
      | refund _ =>
          rw [acting.1] at absent
          cases absent
      | credit =>
          obtain ⟨_, _, h⟩ := acting
          rw [h.row] at absent
          cases absent
      | collect => exact (lists trivial).elim
  · by_cases same : u = t
    · subst same
      rw [Function.update_self] at own
      exact (step.entered_of ran own).resolve_left before
    · rw [Function.update_of_ne same] at own
      exact (before own).elim

include clean

theorem Registered.step_absent (listed : Listed id (w'.redis d.apiRedis))
    (absent : w'.db.tickets.row id = none) :
    ∃ u, (∃ clock, Function.update ghost t g' u = .entered clock) ∨
      Function.update ghost t g' u = .gone := by
  rcases (step.registers shared ran).of_listed listed with before | ⟨clock, _, rfl⟩
  · have commits := step.commits (coherent t) ran
    have stays : w.db.tickets.row id = none → ∃ u,
        (∃ clock, Function.update ghost t g' u = .entered clock) ∨
          Function.update ghost t g' u = .gone := by
      intro row
      obtain ⟨u, active⟩ := inv.absent before row
      refine ⟨u, ?_⟩
      by_cases same : u = t
      · subst same
        rw [Function.update_self]
        have own := coherent u
        cases answer with
        | error e =>
            obtain ⟨_, _, entered, gone, _⟩ := step.clean own clean ran
            rcases active with ⟨clock, active⟩ | active
            · exact (entered clock active).elim
            · exact (gone active).elim
        | ok a =>
            rcases active with ⟨clock, active⟩ | active
            · rw [active] at step own
              exact (step.of_entered own ran).elim (fun same => .inl ⟨clock, same⟩)
                fun row => (row absent).elim
            · rw [active] at step
              exact (step.of_gone ran).elim .inr fun gone => (gone listed).elim
      · rwa [Function.update_of_ne same]
    generalize own : ghost t = g at commits
    cases commits with
    | same row => exact stays (row.symm.trans absent)
    | booked _ row _ | canceled _ row _ | sold _ row _ =>
        rw [absent] at row
        cases row
    | vanished _ => exact ⟨t, .inr (by rw [Function.update_self])⟩
  · exact ⟨t, .inl ⟨clock, by rw [Function.update_self]⟩⟩

theorem Registered.step_left {ticket : Ticket} (listed : Listed id (w'.redis d.apiRedis))
    (row : w'.db.tickets.row id = some ticket) (left : ticket.status ≠ .reserved) :
    ∃ u ownerId, Function.update ghost t g' u = .paid ownerId := by
  have commits := step.commits (coherent t) ran
  have own := coherent t
  rcases (step.registers shared ran).of_listed listed with before | ⟨clock, stamped, rfl⟩
  · have stays : w.db.tickets.row id = some ticket →
        ∃ u ownerId, Function.update ghost t g' u = .paid ownerId := by
      intro stored
      obtain ⟨u, ownerId, active⟩ := inv.left ticket before stored left
      refine ⟨u, ownerId, ?_⟩
      by_cases same : u = t
      · subst same
        rw [Function.update_self]
        cases answer with
        | error e =>
            obtain ⟨_, _, _, _, deleted⟩ := step.clean own clean ran
            rw [deleted ownerId active] at stored
            cases stored
        | ok a =>
            rw [active] at step
            exact (step.of_paid ran).resolve_right fun gone => gone listed
      · rwa [Function.update_of_ne same]
    have settles := inv.settles t
    generalize ghost t = g at commits settles
    cases commits with
    | same same => exact stays (same.symm.trans row)
    | booked _ row' reserved =>
        rw [row] at row'
        cases row'
        exact (left reserved).elim
    | canceled active _ _ => exact (inv.unlisted (settles active) before).elim
    | @sold paid _ _ _ => exact ⟨t, paid.ownerId, by rw [Function.update_self]⟩
    | vanished row' =>
        rw [row] at row'
        cases row'
  · rw [stamped] at commits own
    cases commits with
    | same same =>
        rw [row, own.1] at same
        cases same

theorem Registered.step_reserved {ticket : Ticket} (row : w'.db.tickets.row id = some ticket)
    (status : ticket.status = .reserved) : Listed id (w'.redis d.apiRedis) ∨
      ∃ u, (Function.update ghost t g' u).Settles := by
  have commits := step.commits (coherent t) ran
  have registers := step.registers shared ran
  have own := coherent t
  have lists := inv.lists t
  have kept : w.db.tickets.row id = some ticket → Listed id (w'.redis d.apiRedis) ∨
      ∃ u, (Function.update ghost t g' u).Settles := by
    intro stored
    rcases inv.reserved ticket stored status with listed | ⟨u, settles⟩
    · rcases registers.listed listed with stays | clears | refunds
      · exact .inl stays
      · generalize ghost t = g at clears own
        cases clears with
        | keep | clear => exact (own.2.left ticket (.inl stored) status).elim
      · generalize ghost t = g at refunds lists
        cases refunds with
        | refund _ | credit => exact .inr ⟨t, by rw [Function.update_self]; trivial⟩
        | collect => exact (lists trivial).elim
    · by_cases same : u = t
      · subst same
        cases answer with
        | error e => exact ((step.clean own clean ran).2.1 settles).elim
        | ok a =>
            rcases step.settles own ran settles with settles | past
            · exact .inr ⟨u, by rwa [Function.update_self]⟩
            · exact (past.left ticket (.inl row) status).elim
      · exact .inr ⟨u, by rwa [Function.update_of_ne same]⟩
  have entered := inv.entered t
  generalize ghost t = g at commits registers entered
  cases commits with
  | same same => exact kept (same.symm.trans row)
  | booked _ _ _ =>
      rcases registers.listed (entered _ rfl) with stays | clears | refunds
      · exact .inl stays
      · cases clears
      · cases refunds
  | canceled _ row' _ | sold _ row' _ =>
      rw [row] at row'
      cases row'
      cases status
  | vanished row' =>
      rw [row] at row'
      cases row'

end Steps

/-- **Every step keeps the registry of a ticket.** -/
theorem registered_kept (shared : d.apiRedis = d.workerRedis) :
    Kept d id Undisturbed fun _ : List (CallEvent ι) => Registered d id := by
  intro t events w ghost cmd choice answer w' g' coherent inv ran ok step
  obtain ⟨clean, unlisting⟩ := ok
  have registers := step.registers shared ran
  have lists : ghost t ≠ .doomed := fun doomed => inv.lists t (by rw [doomed]; trivial)
  have firm : (ghost t).Settles → Processed id (w.redis d.apiRedis) →
      ∃ a, answer = .ok a := by
    intro settles _
    cases answer with
    | ok a => exact ⟨a, rfl⟩
    | error e => exact ((step.clean (coherent t) clean ran).2.1 settles).elim
  refine ⟨accounted_step shared step coherent ran firm (fun doomed => (lists doomed).elim)
    inv.accounted, fun processed => ?_, ?_, fun u clock =>
      inv.step_entered shared coherent step ran,
    inv.step_absent shared coherent step ran clean, fun ticket =>
      inv.step_left shared coherent step ran clean, fun ticket =>
      inv.step_reserved shared coherent step ran clean, ?_⟩
  · by_cases booking : ∃ clock, ghost t = .stamped clock
    · obtain ⟨clock, stamped⟩ := booking
      have own := coherent t
      rw [stamped] at own registers
      obtain ⟨_, ticket, held, status⟩ := own
      have fresh := inv.accounted.unprocessed coherent held
        ⟨.inr ⟨t, heldBy_eq_some.mp held⟩, status⟩ (by rw [stamped]; exact not_false)
      cases registers with
      | same _ same | entered _ same => exact (fresh (same.mp processed)).elim
      | cleared clears => cases clears
      | refunded refunds => cases refunds
    · exact registers.unlisted inv.unlisted (fun clock own => booking ⟨clock, own⟩) processed
  · refine (Function.forall_update_iff ghost fun u g => g.Settles →
      Processed id (w'.redis d.apiRedis)).mpr ⟨?_, fun u _ settles => ?_⟩
    · exact step.processed_of_settles shared ran (inv.settles t)
    · exact registers.processed (inv.settles u settles)
  · refine (Function.forall_update_iff ghost fun u g => ¬ g.Suspects).mpr
      ⟨fun suspects => ?_, fun u _ => inv.lists u⟩
    rcases step.suspects_of suspects with before | rfl
    · exact inv.lists t before
    · exact unlisting

/-! ## The registry -/

omit [DecidableEq ι] in
/-- Every ticket is registered when the registry is exact. -/
theorem RegistryExact.registered (h : RegistryExact d w) (shared : d.apiRedis = d.workerRedis)
    (quiet : w.db.Quiet)
    (issued : ∀ id ∈ processedIds d w, 1 ≤ id ∧ id ≤ w.db.tickets.issued) :
    Registered d id w fun _ => .away := by
  have disjoint : Processed id (w.redis d.apiRedis) → ¬ Listed id (w.redis d.apiRedis) :=
    fun processed listed => Set.disjoint_left.mp h.disjoint listed (show Processed id _ from
      shared ▸ processed)
  have entry : ∀ ticket, w.db.tickets.row id = some ticket → ticket.status = .reserved →
      Listed id (w.redis d.apiRedis) := fun ticket row status => by
    have mem : id ∈ reservedIds w := ⟨ticket, row, status⟩
    rwa [← h.entries] at mem
  have row : Listed id (w.redis d.apiRedis) →
      ∃ ticket, w.db.tickets.row id = some ticket ∧ ticket.status = .reserved :=
        fun listed => by
    have mem : id ∈ enteredIds d w := listed
    rwa [h.entries] at mem
  refine ⟨fun processed => .inl ⟨issued id (show Processed id _ from shared ▸ processed),
    fun ticket version status => ?_⟩, disjoint, fun _ => False.elim, nofun,
    fun listed absent => ?_,
    fun ticket listed stored left => ?_, fun ticket stored status =>
      .inl (entry ticket stored status),
    fun _ => not_false⟩
  · exact disjoint processed (entry ticket (version_of_quiet quiet.1 version) status)
  · obtain ⟨ticket, stored, _⟩ := row listed
    rw [absent] at stored
    cases stored
  · obtain ⟨ticket', stored', status⟩ := row listed
    rw [stored] at stored'
    cases stored'
    exact (left status).elim

omit [DecidableEq ι] in
/-- A registered ticket of which no call has anything left to do. -/
theorem Registered.at_rest {ghost : ι → Milestone} (inv : Registered d id w ghost)
    (rest : ∀ u, (ghost u).AtRest) :
    Listed id (w.redis d.apiRedis) ↔
      ∃ ticket, w.db.tickets.row id = some ticket ∧ ticket.status = .reserved := by
  have idle : ∀ {u g}, ghost u = g → g.AtRest := fun {u} _ own => own ▸ rest u
  constructor
  · intro listed
    cases row : w.db.tickets.row id with
    | none =>
        obtain ⟨u, ⟨clock, own⟩ | own⟩ := inv.absent listed row
        · exact (idle own).elim
        · exact (idle own).elim
    | some ticket =>
        refine ⟨ticket, rfl, ?_⟩
        by_contra left
        obtain ⟨u, ownerId, own⟩ := inv.left ticket listed row left
        exact idle own
  · rintro ⟨ticket, row, status⟩
    rcases inv.reserved ticket row status with listed | ⟨u, settles⟩
    · exact listed
    · have own := rest u
      generalize ghost u = g at settles own
      cases g with
      | refunded _ | settled _ | credited _ => exact own.elim
      | _ => exact settles.elim

/-- **Whenever no call is in flight, the registry is exact.** -/
theorem registry_exact {events : List (CallEvent ι)}
    {c : Config ι (World ι) Cmd Cmd.Resp Exn Unit}
    (shared : d.apiRedis = d.workerRedis) (handles : ∀ t, Handles (ops t)) (quiet : w.db.Quiet)
    (start : RegistryExact d w)
    (issued : ∀ id ∈ processedIds d w, 1 ≤ id ∧ id ≤ w.db.tickets.issued)
    (run : Config.Run exec (config ops d w) events c)
    (clean : ∀ e ∈ events, e.choice.fault = none)
    (idle : ∀ t, ¬ c.InFlight events t) : RegistryExact d c.shared := by
  have only := (run.only fun t => only_unlisting (d := d) (handles t)).1
  have registered : ∀ id, ∃ ghost : ι → Milestone, Registered d id c.shared ghost ∧
      ∀ u, (ghost u).AtRest := fun id => by
    obtain ⟨ghost, _, inv, _, rest⟩ := (registered_kept shared).run
      (fun t => .operation (ops t)) quiet.1 (start.registered shared quiet issued) run
      fun e mem => ⟨clean e mem, only e mem⟩
    exact ⟨ghost, inv, fun u => rest u (idle u)⟩
  refine ⟨Set.ext fun id => ?_, Set.disjoint_left.mpr fun id listed processed => ?_⟩
  · obtain ⟨ghost, inv, rest⟩ := registered id
    exact inv.at_rest rest
  · obtain ⟨ghost, inv, _⟩ := registered id
    have processed : Processed id (c.shared.redis d.workerRedis) := processed
    exact inv.unlisted (shared ▸ processed) listed

/-- Two bookings, and a payment for the ticket of the first one. -/
def twoBookingsOnePayment : Fin 3 → Operation :=
  ![.create 1 ⟨1, Int.one_pos⟩, .create 1 ⟨1, Int.one_pos⟩, .payForTicket 1 1]

omit [DecidableEq ι] in
/-- Nothing is registered before the first booking. -/
theorem saleDay_exact : RegistryExact sharedRedis (saleDay : World ι) where
  entries := Set.ext fun id => by
    constructor
    · rintro ⟨_, mem⟩
      exact (List.not_mem_nil mem).elim
    · rintro ⟨ticket, row, _⟩
      rw [row_none_of_not_issued (by show ¬ (1 ≤ id ∧ id ≤ ((0 : Nat) : Int)); omega)] at row
      cases row
  disjoint := Set.disjoint_left.mpr fun _ _ processed => Finset.notMem_empty _ processed

/-- The second booking is committed between the commit of the payment and the removal of its
entry. -/
theorem registry_exact_after_payment :
    ∃ (events : List (CallEvent (Fin 3)))
      (c : Config (Fin 3) (World (Fin 3)) Cmd Cmd.Resp Exn Unit),
      Config.Run exec (config twoBookingsOnePayment sharedRedis saleDay) events c ∧
      (∀ t, c.result t = some (.ok ())) ∧ RegistryExact sharedRedis c.shared := by
  have found : ((config twoBookingsOnePayment sharedRedis saleDay).replay exec
      ((List.replicate 9 0 ++ [1, 1, 1, 1, 2, 2, 2, 1, 1, 2, 2, 1, 1, 1, 2] : List (Fin 3)).map
        fun t => (t, {}))).any (fun r => (r.1.all fun e => e.choice.fault = none) &&
          decide (∀ t, r.2.result t = some (.ok ()))) = true := by
    decide
  obtain ⟨events, c, run, holds⟩ := Config.exists_run_of_replay
    (P := fun events c => (events.all fun e : CallEvent (Fin 3) => e.choice.fault = none) &&
      decide (∀ t, c.result t = some (.ok ()))) found
  rw [Bool.and_eq_true, List.all_eq_true] at holds
  obtain ⟨clean, returned⟩ := holds
  have returned := of_decide_eq_true returned
  have handles : ∀ t, Handles (twoBookingsOnePayment t) := fun t =>
    match t with
    | 0 | 1 | 2 => trivial
  refine ⟨events, c, run, returned, registry_exact rfl handles (by decide) saleDay_exact
    (fun _ processed => (Finset.notMem_empty _ processed).elim) run
    (fun e mem => of_decide_eq_true (clean e mem)) fun t flight => ?_⟩
  have running := flight.2
  rw [returned t] at running
  cases running

end TicketCore
