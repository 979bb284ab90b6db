import TicketCore.Alone
import TicketCore.Counter.Newcomer
import TicketCore.FlashSale

/-!
# The counter after a cold start

A booking that finds no counter reads the row, sets the counter to what is left and takes its slot,
in three steps. Another booking may do the same, and may have taken a slot from the counter in
between, which the second `SET` puts back on sale.

* `cold_counter_exact`: while no `SET` changes a counter that it finds, the counter shows in the end
  what the row has left, and turns away whoever comes to a type that is sold out.
-/

namespace TicketCore

open Interleave RowStore Counter

variable {ι : Type} [DecidableEq ι]

/-- A `SET` of the counter finds none, or one with the value that it sets. -/
def setsTheSame (d : Deployment) (ticketTypeId : Int) (e : CallEvent ι) : Bool :=
  match e.cmd with
  | .redis n (.setInventory id value) =>
      !(n = d.apiRedis && id = ticketTypeId) ||
        ((e.before.redis d.apiRedis).inventory ticketTypeId).all (· = value)
  | _ => true

omit [DecidableEq ι] in
theorem lands_of_setsTheSame {d : Deployment} {ticketTypeId : Int} {e : CallEvent ι}
    (h : setsTheSame d ticketTypeId e) : (⟨d, ticketTypeId, none⟩ : Gauge ι).Lands e := by
  intro value same k row counter _
  have found : (e.before.redis d.apiRedis).inventory ticketTypeId = some k := counter
  unfold setsTheSame at h
  rw [same] at h
  simp only [decide_true, Bool.and_self, Bool.not_true, Bool.false_or, found, Option.all_some,
    decide_eq_true_eq] at h
  exact h.symm

/-- The gate turns a booking away when the counter is spent, and nothing else is asked. -/
theorem create_of_spent {d : Deployment} {w w' : World ι} {t : ι} {userId : Int}
    {ticketData : TicketCreate} {events : List (CallEvent ι)} {outcome : Except Exn TicketResponse}
    (spent : (w.redis d.apiRedis).inventory ticketData.ticketTypeId = some 0)
    (run : (TicketService.create d userId ticketData).Runs exec t w events outcome w')
    (clean : ∀ e ∈ events, e.choice.fault = none) :
    outcome = .error TicketService.ticketsSoldOut ∧ w' = w := by
  have ensures : (TicketService.create d userId ticketData).Ensures exec t
      (fun e => e.choice.fault = none)
      (fun outcome w' => outcome = .error TicketService.ticketsSoldOut ∧ w' = w) w := by
    refine Program.Ensures.bind
      (ensures_redis (fun _ ok => ok) fun clock entries result r done => ?_)
    have reserved : RedisDb.reserveScript (w.redis d.apiRedis) ticketData.ticketTypeId =
        (result, r) :=
      Option.some.inj done
    rcases RedisDb.reserveScript_cases reserved with
      ⟨missing, _⟩ | ⟨k, found, positive, _⟩ | ⟨_, _, _, rfl, rfl⟩
    · rw [spent] at missing
      cases missing
    · rw [spent] at found
      cases found
      exact absurd positive (lt_irrefl 0)
    · rw [Function.update_eq_self]
      exact ⟨rfl, rfl⟩
  exact ensures.runs run clean

section Runs

variable [Fintype ι] {d : Deployment} {w : World ι} {userId : ι → Int}
  {ticketData : TicketCreate}
  {row : TicketType} {events : List (CallEvent ι)} {c : Config ι (World ι) Cmd Cmd.Resp Exn Unit}

/-- **Bookings that start without a counter leave an exact one**, while no `SET` changes a counter
that it finds. -/
theorem cold_counter_exact (quiet : w.db.Quiet)
    (stored : w.db.ticketTypes.row ticketData.ticketTypeId = some row)
    (missing : (w.redis d.apiRedis).inventory ticketData.ticketTypeId = none)
    (run : Config.Run exec (Booking.config (fun t => .create (userId t) ticketData) d w) events c)
    (clean : ∀ e ∈ events, e.choice.fault = none)
    (same : ∀ e ∈ events, setsTheSame d ticketData.ticketTypeId e)
    (finished : ∀ t, ∃ outcome, c.Finished t outcome) (caller : ι) :
    ∃ row', c.shared.db.ticketTypes.row ticketData.ticketTypeId = some row' ∧
      (c.shared.redis d.apiRedis).inventory ticketData.ticketTypeId =
        some (row'.ticketsQuantity - row'.ticketsSold) ∧
      (row'.ticketsSold = row'.ticketsQuantity → ∀ t userId' events' outcome w',
        (TicketService.create d userId' ticketData).Runs exec t c.shared events' outcome w' →
        (∀ e ∈ events', e.choice.fault = none) →
        outcome = .error TicketService.ticketsSoldOut ∧ w' = c.shared) := by
  let a : Gauge ι := ⟨d, ticketData.ticketTypeId, none⟩
  have deals : ∀ t, Deals ticketData.ticketTypeId (.create (userId t) ticketData) :=
    fun _ => trivial
  have rereads := rereads_of_run deals quiet.1 (fun _ _ _ other => by cases other) run
  have own : ∀ t, Counter.Own w.db.ticketTypes ticketData.ticketTypeId t (.ticket 0 0 .fresh) :=
    fun t =>
    .of_free (heldBy_of_quiet quiet.2) rfl not_false
  have none : a.counter w = none := missing
  have balanced : a.Balanced w (fun _ => .ticket 0 0 .fresh) row :=
    { shows := fun k shown => by
        rw [none] at shown
        cases shown
      missing := fun _ => ⟨rfl, fun _ => trivial⟩ }
  have start : a.Inv w fun _ => .ticket 0 0 .fresh :=
    { stored := ⟨row, stored, balanced, fun _ _ revised => by cases revised⟩
      own := own
      changes := fun t => iff_of_false not_false fun revised => by
        obtain ⟨_, revised⟩ := revised
        cases revised
      cold := fun _ _ => rfl }
  have first : ∀ t, Draft.first ticketData.ticketTypeId (.create (userId t) ticketData) =
      .ticket 0 0 .fresh := fun t => if_pos rfl
  obtain ⟨ghost, inv, ends, _⟩ := Gauge.governs.run
    (c := Booking.config (fun t => .create (userId t) ticketData) d w) (fun _ _ g => g.Settled)
        (fun D' governs t => by
    have follows := follows_operation (t := t) governs (deals t)
    rwa [first] at follows) start run fun e mem =>
    ⟨clean e mem, lands_of_setsTheSame (same e mem), rereads e mem⟩
  have settled : ∀ t, (ghost t).Settled := fun t => by
    obtain ⟨outcome, ended⟩ := finished t
    exact ends t outcome ended
  obtain ⟨row', stored', shows⟩ := inv.settled settled
  obtain ⟨k, counter⟩ := Option.isSome_iff_exists.mp (inv.present (settled caller))
  have exactly : (c.shared.redis d.apiRedis).inventory ticketData.ticketTypeId =
      some (row'.ticketsQuantity - row'.ticketsSold) :=
    counter.trans (congrArg some (shows k counter))
  refine ⟨row', stored', exactly, fun soldOut t userId' events' outcome w' run' clean' => ?_⟩
  refine create_of_spent ?_ run' clean'
  rw [exactly, soldOut, sub_self]

end Runs

/-- Two tickets are left, and their counter is missing. -/
def twoLeft : World (Fin 2) where
  db :=
    { tickets := .ofList []
      ticketTypes := .ofList [exampleType 3 1]
      users := {1, 2}
      events := .ofList [exampleEvent] }
  redis _ := .empty
  jobs := []

/-- The call is a `SET` of a counter. -/
def setsInventory (e : CallEvent ι) : Bool :=
  match e.cmd with
  | .redis _ (.setInventory _ _) => true
  | _ => false

/-- Two bookings that both miss the counter, and both set it before either takes its slot. -/
theorem cold_counter_exact_of_twoLeft :
    ∃ (events : List (CallEvent (Fin 2)))
      (c : Config (Fin 2) (World (Fin 2)) Cmd Cmd.Resp Exn Unit),
      Config.Run exec
        (Booking.config (fun t => .create (![1, 2] t) onSale) shippedSettings.deployment
        twoLeft) events c ∧
      events.countP setsInventory = 2 ∧
      ∃ row', c.shared.db.ticketTypes.row onSale.ticketTypeId = some row' ∧
        (c.shared.redis shippedSettings.deployment.apiRedis).inventory onSale.ticketTypeId =
          some (row'.ticketsQuantity - row'.ticketsSold) := by
  have found : ((Booking.config (fun t => .create (![1, 2] t) onSale) shippedSettings.deployment
      twoLeft).replay exec
        (([0, 1, 0, 1, 0, 1, 0, 1, 0, 0, 0, 0, 0, 0, 0, 0, 1, 1, 1, 1, 1, 1, 1, 1] :
        List (Fin 2)).map fun t => (t, {}))).any (fun r =>
          (r.1.all fun e => decide (e.choice.fault = none) &&
            setsTheSame shippedSettings.deployment 1 e) && (decide (∀ t, (r.2.result t).isSome) &&
            decide (r.1.countP setsInventory = 2))) = true := by
    decide
  obtain ⟨events, c, run, holds⟩ := Config.exists_run_of_replay
    (P := fun events c => (events.all fun e : CallEvent (Fin 2) => decide (e.choice.fault = none) &&
        setsTheSame shippedSettings.deployment 1 e) && (decide (∀ t, (c.result t).isSome) &&
        decide (events.countP setsInventory = 2))) found
  simp only [Bool.and_eq_true, List.all_eq_true, decide_eq_true_eq] at holds
  obtain ⟨each, ended, both⟩ := holds
  have finished : ∀ t, ∃ outcome, c.Finished t outcome := fun t => by
    obtain ⟨outcome, result⟩ := Option.isSome_iff_exists.mp (ended t)
    exact ⟨outcome, Config.finished_of_result result⟩
  obtain ⟨row', stored, counter, _⟩ := cold_counter_exact
    ⟨by decide, by decide⟩ rfl rfl run (fun e mem => (each e mem).1)
    (fun e mem => (each e mem).2) finished 0
  exact ⟨events, c, run, both, row', stored, counter⟩

/-- The second booking sets the counter back after the first has taken the only slot, and gives the
slot back that the `CHECK` has refused it: the counter offers a slot that is sold. -/
theorem cold_counter_off :
    ∃ (events : List (CallEvent (Fin 2)))
      (c : Config (Fin 2) (World (Fin 2)) Cmd Cmd.Resp Exn Unit),
      Config.Run exec
        (Booking.config (fun t => .create (![1, 2] t) onSale) shippedSettings.deployment
        oneLeft) events c ∧
      (∀ e ∈ events, e.choice.fault = none) ∧ (∀ t, ∃ outcome, c.Finished t outcome) ∧
      (c.shared.redis shippedSettings.deployment.apiRedis).inventory
        onSale.ticketTypeId = some 1 ∧
      ∃ row', c.shared.db.ticketTypes.row onSale.ticketTypeId = some row' ∧
        row'.ticketsQuantity - row'.ticketsSold = 0 := by
  have found : ((Booking.config (fun t => .create (![1, 2] t) onSale) shippedSettings.deployment
      oneLeft).replay exec (([0, 1, 0, 1, 0, 0, 1, 1, 0, 0, 0, 0, 0, 1, 1, 1, 1, 1, 0, 0, 0] :
        List (Fin 2)).map fun t => (t, {}))).any (fun r =>
          (r.1.all fun e => e.choice.fault = none) && (decide (∀ t, (r.2.result t).isSome) &&
          (decide ((r.2.shared.redis 0).inventory 1 = some 1) &&
          (r.2.shared.db.ticketTypes.row 1).any fun row =>
            row.ticketsQuantity - row.ticketsSold = 0))) = true := by
    decide
  obtain ⟨events, c, run, holds⟩ := Config.exists_run_of_replay
    (P := fun events c => (events.all fun e : CallEvent (Fin 2) => e.choice.fault = none) &&
      (decide (∀ t, (c.result t).isSome) && (decide ((c.shared.redis 0).inventory 1 = some 1) &&
        (c.shared.db.ticketTypes.row 1).any fun row =>
          row.ticketsQuantity - row.ticketsSold = 0))) found
  simp only [Bool.and_eq_true, List.all_eq_true, decide_eq_true_eq] at holds
  obtain ⟨clean, ended, counter, spent⟩ := holds
  obtain ⟨row', stored, spent⟩ := (Option.any_eq_true _ _).mp spent
  refine ⟨events, c, run, clean, fun t => ?_, counter, row', stored, of_decide_eq_true spent⟩
  obtain ⟨outcome, result⟩ := Option.isSome_iff_exists.mp (ended t)
  exact ⟨outcome, Config.finished_of_result result⟩

end TicketCore
