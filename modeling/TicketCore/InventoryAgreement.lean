import TicketCore.Booking.Runs
import TicketCore.Routing

/-!
# The inventory of the API and of the worker

`Settings.REDIS_URL` ends in `/0`, and `WorkerSettings.redis_settings` has `database=1`: the
counter and the reservation entries of the API are in another numbered database than the ones of
the worker.

* `agreement_iff`: in every reachable state a task credits the counter that `TicketService.create`
  reads only where that counter does not exist, and the garbage collector of Redis reads the
  entries that `TicketService.create` writes only as long as there is none.
* `expiry_misses_counter`: a ticket is booked and runs out. The counter stays down, and the entry is
  never read.
-/

namespace TicketCore

open Interleave Booking

variable {ι : Type} {d : Deployment} {w w' : World ι}

/-! ## Agreement -/

/-- The counter that `TicketService.create` reads. -/
def createCounter (d : Deployment) (w : World ι) (ticketTypeId : Int) : Option Int :=
  (w.redis d.apiRedis).inventory ticketTypeId

/-- The entries that `TicketService.create` writes. -/
def createEntries (d : Deployment) (w : World ι) : List (String × String) :=
  (w.redis d.apiRedis).activeReservations

/-- The entries that `reconcile_redis_orphans` reads. -/
def collectorEntries (d : Deployment) (w : World ι) : List (String × String) :=
  (w.redis d.workerRedis).activeReservations

/-- For every type of which tickets have been canceled, the counter is higher by their number. -/
def CreditsCanceled (d : Deployment) (w w' : World ι) : Prop :=
  ∀ ticketTypeId k, 0 < w.db.canceledSince w'.db ticketTypeId →
    createCounter d w ticketTypeId = some k →
      createCounter d w' ticketTypeId = some (k + w.db.canceledSince w'.db ticketTypeId)

/-- No entry is overlooked. -/
def ReadsEntries (d : Deployment) (w : World ι) : Prop :=
  ∀ entry ∈ createEntries d w, entry ∈ collectorEntries d w

theorem creditsCanceled_iff
    (same : ∀ ticketTypeId, createCounter d w' ticketTypeId = createCounter d w ticketTypeId) :
    CreditsCanceled d w w' ↔ ∀ ticketTypeId, 0 < w.db.canceledSince w'.db ticketTypeId →
      createCounter d w ticketTypeId = none := by
  constructor
  · intro credits ticketTypeId canceled
    cases value : createCounter d w ticketTypeId with
    | none => rfl
    | some k =>
        have credited := credits ticketTypeId k canceled value
        rw [same, value, Option.some.injEq] at credited
        omega
  · intro missing ticketTypeId k canceled value
    rw [missing ticketTypeId canceled] at value
    cases value

theorem readsEntries_iff (none : collectorEntries d w = []) :
    ReadsEntries d w ↔ createEntries d w = [] := by
  unfold ReadsEntries
  rw [none, List.eq_nil_iff_forall_not_mem]
  exact ⟨fun reads entry mem => (List.not_mem_nil (reads entry mem)).elim,
    fun empty entry mem => (empty entry mem).elim⟩

/-! ## Two databases -/

variable [DecidableEq ι] {ops : ι → Operation} {events events' : List (CallEvent ι)}
  {c : Config ι (World ι) Cmd Cmd.Resp Exn Unit} {t : ι} {op : Operation}
  {outcome : Except Exn Unit}

/-- Nothing is ever entered into the worker's database. -/
theorem collectorEntries_of_run (apart : d.apiRedis ≠ d.workerRedis)
    (start : collectorEntries d w = []) (run : Config.Run exec (config ops d w) events c) :
    collectorEntries d c.shared = [] := by
  refine run.keeps (P := fun _ => Routed d) (I := fun w => collectorEntries d w = [])
    (fun t => only_routed (ops t)) (fun t cmd choice answer w w' routed none ran => ?_) start
  rcases exec_cases ran with ⟨_, _, _, _, rfl⟩ | ran
  · exact none
  cases cmd with
  | db statement =>
      obtain ⟨db', _, rfl⟩ := Cmd.run_db ran
      exact none
  | enqueueJob job | now | handler =>
      cases ran
      exact none
  | redis n command =>
      obtain ⟨a, r, done, _, rfl⟩ := Cmd.run_redis ran
      unfold collectorEntries at none ⊢
      dsimp only
      by_cases here : d.workerRedis = n
      · subst here
        rw [Function.update_self]
        cases command with
        | evalRefund ticketTypeId ticketId =>
            cases done
            refine List.eq_nil_iff_forall_not_mem.mpr fun entry mem => ?_
            have mem := RedisDb.mem_refundScript mem
            rw [none] at mem
            exact List.not_mem_nil mem
        | hgetall =>
            cases done
            exact none
        | _ => exact (apart routed.symm).elim
      · rw [Function.update_of_ne here]
        exact none

/-- A task that cancels tickets leaves the API's database alone. -/
theorem createCounter_of_task (apart : d.apiRedis ≠ d.workerRedis) (cancels : Cancels op)
    (run : (op.program d).Runs exec t w events outcome w') (ticketTypeId : Int) :
    createCounter d w' ticketTypeId = createCounter d w ticketTypeId := by
  refine (only_onWorker cancels).keeps
    (I := fun w' => createCounter d w' ticketTypeId = createCounter d w ticketTypeId) run
    (fun cmd choice answer w₁ w₂ onWorker kept ran => ?_) rfl
  rcases exec_cases ran with ⟨_, _, _, _, rfl⟩ | ran
  · exact kept
  cases cmd with
  | db statement =>
      obtain ⟨db', _, rfl⟩ := Cmd.run_db ran
      exact kept
  | enqueueJob job | now | handler =>
      cases ran
      exact kept
  | redis n command =>
      obtain ⟨a, r, _, _, rfl⟩ := Cmd.run_redis ran
      have elsewhere : d.apiRedis ≠ n := by
        rw [show n = d.workerRedis from onWorker]
        exact apart
      rw [← kept]
      unfold createCounter
      dsimp only
      rw [Function.update_of_ne elsewhere]

/-- **The API and the worker agree only on an inventory that is not there.** -/
theorem agreement_iff (settings : Settings)
    (start : collectorEntries settings.deployment w = [])
    (run : Config.Run exec (config ops settings.deployment w) events c) (cancels : Cancels op)
    (task : (op.program settings.deployment).Runs exec t c.shared events' outcome w') :
    (CreditsCanceled settings.deployment c.shared w' ∧
        ReadsEntries settings.deployment c.shared) ↔
      (∀ ticketTypeId, 0 < c.shared.db.canceledSince w'.db ticketTypeId →
        createCounter settings.deployment c.shared ticketTypeId = none) ∧
      createEntries settings.deployment c.shared = [] := by
  have apart : settings.deployment.apiRedis ≠ settings.deployment.workerRedis := zero_ne_one
  rw [creditsCanceled_iff (createCounter_of_task apart cancels task),
    readsEntries_iff (collectorEntries_of_run apart start run)]

/-! ## One ticket runs out -/

/-- A reserved ticket, of which neither the API nor the worker has a trace in Redis. -/
def untraced : World Unit where
  db :=
    { tickets := .ofList [⟨1, 1, .reserved, 0⟩]
      ticketTypes := .ofList [exampleType 3 1]
      users := {1}
      events := .ofList [exampleEvent] }
  redis _ := .empty
  jobs := []

/-- Without a counter and without entries there is nothing to disagree about. -/
theorem agreement_iff_untraced :
    ∃ events' outcome w', ((Operation.releaseUnpaidTicket 1).program
        shippedSettings.deployment).Runs exec () untraced events' outcome w' ∧
      untraced.db.canceledSince w'.db 1 = 1 ∧
      CreditsCanceled shippedSettings.deployment untraced w' ∧
      ReadsEntries shippedSettings.deployment untraced := by
  have found : (((Operation.releaseUnpaidTicket 1).program shippedSettings.deployment).play exec ()
      (fun _ => {}) untraced).any (fun r =>
        decide (untraced.db.canceledSince r.2.2.db 1 = 1)) = true := by
    decide
  obtain ⟨events', outcome, w', task, canceled⟩ := Program.exists_runs_of_play
    (P := fun _ _ (w' : World Unit) => decide (untraced.db.canceledSince w'.db 1 = 1)) found
  let threads := config (fun _ : Unit => .releaseUnpaidTicket 1) shippedSettings.deployment untraced
  have start : Config.Run exec threads [] threads := .nil
  exact ⟨events', outcome, w', task, of_decide_eq_true canceled,
    (agreement_iff shippedSettings rfl start (by exact trivial) task).mpr
      ⟨fun _ _ => rfl, rfl⟩⟩

/-- Three tickets of a type are on sale. -/
def threeOnSale : World Unit where
  db :=
    { tickets := .ofList []
      ticketTypes := .ofList [exampleType 3 0]
      users := {1}
      events := .ofList [exampleEvent] }
  redis _ := .empty
  jobs := []

/-- The booking of a ticket of that type. -/
def booking : Operation := .create 1 ⟨1, Int.one_pos⟩

/-- The timeout of the ticket. -/
def expiry : Async Unit := (Operation.releaseUnpaidTicket 1).program shippedSettings.deployment

/-- One ticket is canceled, the counter stays at two, and the entry is not read. -/
def missed (w w' : World Unit) : Bool :=
  w.db.canceledSince w'.db 1 = 1 ∧ createCounter shippedSettings.deployment w 1 = some 2 ∧
    createCounter shippedSettings.deployment w' 1 = some 2 ∧
    createEntries shippedSettings.deployment w = [("1", "1:0")] ∧
    collectorEntries shippedSettings.deployment w = []

/-- A ticket is booked and runs out. -/
theorem expiry_misses_counter :
    ∃ (events events' : List (CallEvent Unit))
      (c : Config Unit (World Unit) Cmd Cmd.Resp Exn Unit)
      (outcome : Except Exn Unit) (w' : World Unit),
      Config.Run exec (config (fun _ => booking) shippedSettings.deployment threeOnSale)
        events c ∧
      expiry.Runs exec () c.shared events' outcome w' ∧
      ¬ CreditsCanceled shippedSettings.deployment c.shared w' ∧
      ¬ ReadsEntries shippedSettings.deployment c.shared := by
  have found : ((config (fun _ => booking) shippedSettings.deployment threeOnSale).replay exec
      (List.replicate 12 ((), {}))).any (fun r =>
        (expiry.play exec () (fun _ => {}) r.2.shared).any fun r' => missed r.2.shared r'.2.2) =
        true := by
    decide
  obtain ⟨events, c, run, next⟩ := Config.exists_run_of_replay
    (P := fun _ c => (expiry.play exec () (fun _ => {}) c.shared).any fun r' =>
      missed c.shared r'.2.2) found
  obtain ⟨events', outcome, w', task, holds⟩ := Program.exists_runs_of_play
    (P := fun _ _ w' => missed c.shared w') next
  obtain ⟨canceled, counter, counter', entries, read⟩ := of_decide_eq_true holds
  refine ⟨events, events', c, outcome, w', run, task, fun credits => ?_, fun reads => ?_⟩
  · have credited := credits 1 2 (by rw [canceled]; decide) counter
    rw [counter', canceled] at credited
    cases credited
  · have mem := reads ("1", "1:0") (by rw [entries]; exact List.mem_singleton_self _)
    rw [read] at mem
    exact List.not_mem_nil mem

end TicketCore
