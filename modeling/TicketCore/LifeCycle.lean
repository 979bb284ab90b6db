import TicketCore.Booking.Runs
import Mathlib.Data.Fin.VecNotation

/-!
# The life cycle of a ticket

Payments, timeouts and the garbage collector race for the same tickets, and any of their calls may
fail. `life_cycle` says what holds between any two states of a run: a ticket leaves `RESERVED` at
most once, at most one payment of a ticket succeeds, and every ticket type is counted down by
exactly the number of its tickets that went to `CANCELED`.
-/

namespace TicketCore

open Interleave RowStore Booking

variable {ι : Type} [DecidableEq ι]

/-- A payment, a timeout or the garbage collector. -/
def Settling : Operation → Prop
  | .payForTicket .. | .releaseUnpaidTicket _ | .reconcileHungTickets => True
  | _ => False

theorem Settling.onTickets {op : Operation} (h : Settling op) : OnTickets op := by
  cases op with
  | createType eventId typeData | updateType id updateData | deleteType id => exact h.elim
  | _ => trivial

theorem Settling.settles {op : Operation} (h : Settling op) {change : Change}
    (makes : op.Makes change) : change.Settles := by
  cases op with
  | payForTicket ticketId ownerId | releaseUnpaidTicket ticketId | reconcileHungTickets =>
      cases change with
      | booked id | removed id => exact makes.elim
      | paid id | canceled ids => trivial
  | _ => exact h.elim

/-- An event at which a ticket's payment is committed. -/
def PaidAt (id : Int) (e : CallEvent ι) : Prop :=
  (Change.paid id).Commits e.before.db e.after.db

section Runs

variable {ops : ι → Operation} {d : Deployment} {w : World ι}
  {events events' : List (CallEvent ι)} {c c' : Config ι (World ι) Cmd Cmd.Resp Exn Unit}

omit [DecidableEq ι] in
/-- The committed rows after an event that settles tickets or leaves them alone. -/
theorem settled_of_explained (settling : ∀ t, Settling (ops t)) {e : CallEvent ι}
    (explained : e.before.db.SameRows e.after.db ∨ Performs ⟨ops, w.db⟩ e) :
    e.before.db.Settled e.after.db := by
  rcases explained with ⟨same, _⟩ | ⟨change, makes, commits⟩
  · intro id
    rw [same]
    exact .inl rfl
  · exact commits.settled ((settling e.thread).settles makes)

/-- Once a payment is committed the ticket is sold, and no other payment of it is committed. -/
theorem paid_once {id : Int} (run : Config.Run exec c events c')
    (each : ∀ e ∈ events, e.before.db.Settled e.after.db) :
    (∀ e ∈ events, PaidAt id e →
        ∃ ticket, c'.shared.db.tickets.row id = some ticket ∧ ticket.status = .sold) ∧
      ∀ e ∈ events, ∀ e' ∈ events, PaidAt id e → PaidAt id e' →
        e.thread = e'.thread := by
  induction run with
  | nil =>
      exact ⟨fun _ mem => (List.not_mem_nil mem).elim, fun _ mem => (List.not_mem_nil mem).elim⟩
  | @snoc events last c₁ c₂ _ step ih =>
      obtain ⟨sold, unique⟩ := ih fun e mem => each e (List.mem_append_left _ mem)
      have settled := each last (List.mem_append_right _ (List.mem_singleton_self _))
      cases step with
      | @mk t cmd next choice answer after poised ran =>
          have again : ∀ e ∈ events, PaidAt id e → ¬ PaidAt id
              (⟨t, cmd, choice, answer, c₁.shared, after⟩ : CallEvent ι) := by
            rintro e mem paid ⟨⟨ticket, stored, reserved, _⟩, _⟩
            obtain ⟨ticket', stored', status⟩ := sold e mem paid
            rw [stored'] at stored
            cases stored
            rw [reserved] at status
            cases status
          refine ⟨fun e mem paid => ?_, fun e mem e' mem' paid paid' => ?_⟩
          · rcases List.mem_append.mp mem with mem | mem
            · obtain ⟨ticket, stored, status⟩ := sold e mem paid
              have left : ticket.status ≠ .reserved := by rw [status]; decide
              exact ⟨ticket, (settled id).frozen stored left, status⟩
            · rw [List.mem_singleton.mp mem] at paid
              obtain ⟨⟨ticket, _, _, rows⟩, _⟩ := paid
              exact ⟨ticket.withStatus .sold, by rw [rows, Function.update_self], rfl⟩
          · rcases List.mem_append.mp mem with mem | mem
            · rcases List.mem_append.mp mem' with mem' | mem'
              · exact unique e mem e' mem' paid paid'
              · rw [List.mem_singleton.mp mem'] at paid'
                exact (again e mem paid paid').elim
            · rcases List.mem_append.mp mem' with mem' | mem'
              · rw [List.mem_singleton.mp mem] at paid
                exact (again e' mem' paid' paid).elim
              · rw [List.mem_singleton.mp mem, List.mem_singleton.mp mem']

/-- **The life cycle of tickets under concurrency.** -/
theorem life_cycle (settling : ∀ t, Settling (ops t)) (quiet : w.db.Quiet)
    (keys : w.db.ForeignKeys) (run : Config.Run exec (config ops d w) events c)
    (run' : Config.Run exec c events' c') :
    c.shared.db.Settled c'.shared.db ∧
      (∀ ticketId t ownerId u ownerId', ops t = .payForTicket ticketId ownerId →
        ops u = .payForTicket ticketId ownerId' → c'.Finished t (.ok ()) →
        c'.Finished u (.ok ()) → t = u) ∧
      (∀ id, Database.Moved (-(c.shared.db.canceledSince c'.shared.db id))
        (c.shared.db.ticketTypes.row id) (c'.shared.db.ticketTypes.row id)) ∧
      ∀ e ∈ events ++ events', e.before.db.SameRows e.after.db ∨
        ∃ change : Change, change.Settles ∧ change.Commits e.before.db e.after.db := by
  obtain ⟨ghost, inv, follows⟩ := holds_run (fun t => (settling t).onTickets) quiet keys
    (run.append run') fun e _ => deletesActive_of_no_deletes (fun t _ _ same => by
      have mine := settling t
      rw [same] at mine
      exact mine) e
  have settled : ∀ e ∈ events ++ events', e.before.db.Settled e.after.db := fun e mem =>
    settled_of_explained settling (inv.history e mem)
  have balanced : ∀ e ∈ events ++ events', e.before.db.Balanced e.after.db := fun e mem => by
    rcases inv.history e mem with ⟨tickets, types⟩ | ⟨_, _, commits⟩
    · exact .of_rows tickets types
    · exact commits.balanced
  have later : c.shared.db.Settled c'.shared.db :=
    run'.relates (R := fun w w' => w.db.Settled w'.db) (fun _ => .refl _)
      (fun _ _ _ first second => first.trans second)
      fun e mem => settled e (List.mem_append_right _ mem)
  refine ⟨later, ?_, fun id => ?_, fun e mem => ?_⟩
  · intro ticketId t ownerId u ownerId' pays pays' success success'
    have paid : ∀ v owner, ops v = .payForTicket ticketId owner → c'.Finished v (.ok ()) →
        ∃ e ∈ events ++ events', e.thread = v ∧ PaidAt ticketId e := by
      intro v owner pays finished
      have owes := Discipline.Holds.post_of_finished follows finished
      obtain ⟨e, mem, rfl, change, makes, commits⟩ :=
        inv.committed v (owes.committed ticketId owner pays rfl)
      have makes : (ops e.thread).Makes change := makes
      rw [pays] at makes
      cases change with
      | paid id =>
          have same : id = ticketId := makes
          subst same
          exact ⟨e, mem, rfl, commits⟩
      | _ => exact makes.elim
    obtain ⟨e, mem, rfl, paidAt⟩ := paid t ownerId pays success
    obtain ⟨e', mem', rfl, paidAt'⟩ := paid u ownerId' pays' success'
    exact (paid_once (run.append run') settled).2 e mem e' mem' paidAt paidAt'
  · have moved := run'.relates (R := fun w w' => w.db.Balanced w'.db) (fun _ => .refl _)
      (fun _ _ _ first second => first.trans second)
      (fun e mem => balanced e (List.mem_append_right _ mem)) id
    rw [later.activeTickets id] at moved
    rwa [sub_sub_cancel_left] at moved
  · rcases inv.history e mem with same | ⟨change, makes, commits⟩
    · exact .inl same
    · exact .inr ⟨change, (settling e.thread).settles makes, commits⟩

end Runs

/-- A reserved ticket of a type of five, in a database that nobody else uses. -/
def oneReserved : World (Fin 2) where
  db :=
    { tickets := .ofList [⟨1, 1, .reserved, 0⟩]
      ticketTypes := .ofList [exampleType 5 1]
      users := {1}
      events := .ofList [exampleEvent] }
  redis _ := .empty
  jobs := []

/-- A payment of the ticket and its timeout. -/
def paymentAndTimeout : Fin 2 → Operation := ![.payForTicket 1 1, .releaseUnpaidTicket 1]

/-- Both threads have returned. -/
def bothReturn (c : Config (Fin 2) (World (Fin 2)) Cmd Cmd.Resp Exn Unit) : Bool :=
  decide (∀ t, c.result t = some (.ok ()))

/-- The payment has locked the ticket; the timeout waits for it and then finds the ticket paid
for. -/
theorem life_cycle_of_payment_and_timeout :
    ∃ (events events' : List (CallEvent (Fin 2)))
      (c c' : Config (Fin 2) (World (Fin 2)) Cmd Cmd.Resp Exn Unit),
      Config.Run exec (config paymentAndTimeout shippedSettings.deployment oneReserved) events c ∧
      Config.Run exec c events' c' ∧ (∀ t, c'.result t = some (.ok ())) ∧
      c.shared.db.Settled c'.shared.db ∧
      (∀ ticketId t ownerId u ownerId', paymentAndTimeout t = .payForTicket ticketId ownerId →
        paymentAndTimeout u = .payForTicket ticketId ownerId' → c'.Finished t (.ok ()) →
        c'.Finished u (.ok ()) → t = u) ∧
      (∀ id, Database.Moved (-(c.shared.db.canceledSince c'.shared.db id))
        (c.shared.db.ticketTypes.row id) (c'.shared.db.ticketTypes.row id)) ∧
      ∀ e ∈ events ++ events', e.before.db.SameRows e.after.db ∨
        ∃ change : Change, change.Settles ∧ change.Commits e.before.db e.after.db := by
  have found : ((config paymentAndTimeout shippedSettings.deployment oneReserved).replay exec
      ([0, 0].map fun t => (t, {}))).any (fun r =>
        (r.2.replay exec ([0, 1, 0, 0, 1, 0].map fun t => (t, {}))).any fun r' =>
          bothReturn r'.2) = true := by
    decide
  obtain ⟨events, c, run, next⟩ := Config.exists_run_of_replay
    (P := fun _ c => (c.replay exec ([0, 1, 0, 0, 1, 0].map fun t => (t, {}))).any fun r' =>
      bothReturn r'.2) found
  obtain ⟨events', c', run', ended⟩ := Config.exists_run_of_replay
    (P := fun _ c => bothReturn c) next
  have settling : ∀ t, Settling (paymentAndTimeout t) :=
    Fin.forall_fin_two.mpr ⟨trivial, trivial⟩
  exact ⟨events, events', c, c', run, run', of_decide_eq_true ended,
    life_cycle settling (by decide) (by decide) run run'⟩

end TicketCore
