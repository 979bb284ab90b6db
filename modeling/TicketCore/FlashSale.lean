import TicketCore.Booking.Runs
import TicketCore.Sale.Calls
import TicketCore.Sessions
import Mathlib.Data.Fin.VecNotation

/-!
# The flash sale

Any number of users book the same ticket type at the same time, with or without its counter in
Redis. `flash_sale` says that exactly as many bookings succeed as there are slots left, that the
others are told that the type is sold out, and that the counter is never negative.
-/

namespace TicketCore

open Interleave RowStore Booking

namespace Sale

variable {ι : Type} [Fintype ι] [DecidableEq ι] {sale : Sale} {t : ι}

/-- The cold branch fills the counter from the database and takes a slot from it. -/
theorem follows_reserveCold :
    (sale.discipline ι).Follows exec t (fun outcome g' =>
      (outcome = .ok 1 ∧ g' = .reserved) ∨ (outcome = .ok 0 ∧ g' = .lost))
      (TicketService.reserveCold sale.deployment sale.ticketTypeId) .start := by
  refine Discipline.Follows.bind
    (fun ticketType g' => ∃ row : TicketType, ticketType = some row ∧
    g' = .read (row.ticketsQuantity - row.ticketsSold))
    (follows_getTicketType fun row => ⟨row, rfl, rfl⟩) ?_
  rintro _ _ ⟨row, rfl, rfl⟩
  refine Discipline.Follows.bind (fun _ g' => g' = .warmed) (follows_setInventory rfl) ?_
  rintro _ _ rfl
  exact follows_evalReserve (.inr rfl) nofun (.inl ⟨rfl, rfl⟩) (.inr ⟨rfl, rfl⟩)

/-- A booking with a slot is committed, or turned away by the `CHECK`. -/
theorem follows_book {userId : Int} (user : userId ∈ sale.users) :
    (sale.discipline ι).Follows exec t (fun outcome g' =>
      (∃ id ticket, outcome = .ok (id, ticket) ∧ g' = .committed id) ∨
        (outcome = .error (.integrity .checkSoldLimit) ∧ g' = .failing))
      (TicketService.book sale.deployment userId sale.ticketTypeId) .reserved := by
  refine Discipline.Follows.bind (fun _ g' => ∃ row row', g' = .charged row row')
    (follows_addTicketsSold (fun row row' => ⟨row, row', rfl⟩) (.inr ⟨rfl, rfl⟩)) ?_
  rintro _ _ ⟨row, row', rfl⟩
  refine Discipline.Follows.bind (fun id g' => ∃ ticket, g' = .inserted row row' id ticket)
    (follows_insertTicket user fun id ticket => ⟨ticket, rfl⟩) ?_
  rintro id _ ⟨ticket, rfl⟩
  refine Discipline.Follows.bind (fun _ g' => g' = .inserted row row' id ticket)
    (follows_now fun _ => rfl) ?_
  rintro clock _ rfl
  refine Discipline.Follows.bind (fun _ g' => g' = .inserted row row' id ticket)
    (follows_hset rfl) ?_
  rintro _ _ rfl
  refine Discipline.Follows.bind (fun _ g' => g' = .committed id) (follows_commit rfl) ?_
  rintro _ _ rfl
  refine Discipline.Follows.bind (fun _ g' => g' = .committed id)
    (follows_refreshTicket fun _ => rfl) ?_
  rintro newTicket _ rfl
  refine Discipline.Follows.bind (fun _ g' => g' = .committed id) (follows_enqueueJob rfl) ?_
  rintro _ _ rfl
  exact .inl ⟨id, newTicket, rfl, rfl⟩

/-- How a booking ends. -/
def Ends {α : Type} (outcome : Except Exn α) (g : Phase) : Prop :=
  (∃ a id, outcome = .ok a ∧ g = .committed id) ∨
    (outcome = .error TicketService.ticketsSoldOut ∧ g = .lost)

theorem follows_compensate :
    (sale.discipline ι).Follows exec t Ends (TicketService.compensate (α := Int × Ticket)
      sale.deployment sale.ticketTypeId (.integrity .checkSoldLimit)) .failing := by
  refine Discipline.Follows.bind (fun _ g' => g' = .failing) (follows_rollback rfl rfl rfl) ?_
  rintro _ _ rfl
  refine Discipline.Follows.bind (fun _ g' => g' = .lost) (follows_incrInventory rfl) ?_
  rintro _ _ rfl
  exact .inr ⟨rfl, rfl⟩

theorem follows_create {userId : Int} {ticketData : TicketCreate} (user : userId ∈ sale.users)
    (same : ticketData.ticketTypeId = sale.ticketTypeId) :
    (sale.discipline ι).Follows exec t Ends
      (TicketService.create sale.deployment userId ticketData) .start := by
  unfold TicketService.create
  rw [same]
  refine Discipline.Follows.bind (fun first g' => (first = -1 ∧ g' = .start) ∨
    (first = 1 ∧ g' = .reserved) ∨ (first = 0 ∧ g' = .lost))
    (follows_evalReserve (.inl rfl) (fun _ => .inl ⟨rfl, rfl⟩) (.inr (.inl ⟨rfl, rfl⟩))
      (.inr (.inr ⟨rfl, rfl⟩))) fun first g₁ reserved => ?_
  refine Discipline.Follows.bind (fun result g' =>
    (result = 1 ∧ g' = .reserved) ∨ (result = 0 ∧ g' = .lost)) ?_ fun result g₂ taken => ?_
  · rcases reserved with ⟨rfl, rfl⟩ | ⟨rfl, rfl⟩ | ⟨rfl, rfl⟩
    · refine follows_reserveCold.mono fun outcome g' holds => ?_
      rcases holds with ⟨rfl, rfl⟩ | ⟨rfl, rfl⟩
      · exact .inl ⟨rfl, rfl⟩
      · exact .inr ⟨rfl, rfl⟩
    · exact .inl ⟨rfl, rfl⟩
    · exact .inr ⟨rfl, rfl⟩
  rcases taken with ⟨rfl, rfl⟩ | ⟨rfl, rfl⟩
  · refine Discipline.Follows.bind (fun _ g' => ∃ id, g' = .committed id) ?_ ?_
    · refine Discipline.Follows.tryCatch
        (fun e g' => e = .integrity .checkSoldLimit ∧ g' = .failing) ?_ ?_
      · refine (follows_book user).mono fun outcome g' holds => ?_
        rcases holds with ⟨id, ticket, rfl, rfl⟩ | ⟨rfl, rfl⟩
        · exact ⟨id, rfl⟩
        · exact ⟨rfl, rfl⟩
      · rintro _ _ ⟨rfl, rfl⟩
        refine follows_compensate.mono fun outcome g' ends => ?_
        rcases ends with ⟨a, id, rfl, rfl⟩ | ⟨rfl, rfl⟩
        · exact ⟨id, rfl⟩
        · exact .inr ⟨rfl, rfl⟩
    · rintro ⟨id, newTicket⟩ _ ⟨id', rfl⟩
      exact .inl ⟨_, id', rfl, rfl⟩
  · exact .inr ⟨rfl, rfl⟩

theorem Ends.idle {α : Type} {outcome : Except Exn α} {g : Phase} (sale : Sale)
    (h : Ends outcome g) :
    g.tickets = Locks.none ∧ g.types sale.ticketTypeId = Locks.none := by
  rcases h with ⟨_, _, _, rfl⟩ | ⟨_, rfl⟩
  · exact ⟨rfl, rfl⟩
  · exact ⟨rfl, rfl⟩

/-- The whole request, session included. -/
theorem follows_program (sale : Sale) {userId : Int} {ticketData : TicketCreate}
    (user : userId ∈ sale.users) (same : ticketData.ticketTypeId = sale.ticketTypeId) :
    (sale.discipline ι).Follows exec t Ends
      ((Operation.create userId ticketData).program sale.deployment) .start := by
  refine follows_unit (follows_getDb Ends Ends (follows_create user same) (fun _ _ ends => ends)
    (fun e g' ends => ?_) fun outcome g' ends => ?_)
  · rcases ends with ⟨_, _, ⟨⟩, _⟩ | ⟨⟨⟩, rfl⟩
    exact follows_rollback rfl rfl (.inr ⟨rfl, rfl⟩)
  · refine follows_close (ends.idle sale).1 (ends.idle sale).2 ?_
    rcases ends with ⟨a, id, rfl, rfl⟩ | ⟨rfl, rfl⟩
    · exact .inl ⟨(), id, rfl, rfl⟩
    · exact .inr ⟨rfl, rfl⟩

/-! ## The sale -/

variable {d : Deployment} {w : World ι} {userId : ι → Int} {ticketData : TicketCreate}
  {row : TicketType} {events : List (CallEvent ι)} {c : Config ι (World ι) Cmd Cmd.Resp Exn Unit}

/-- The invariant holds before the sale. -/
theorem Inv.start (quiet : w.db.Quiet) (users : w.db.users = sale.users)
    (stored : w.db.ticketTypes.row sale.ticketTypeId = some row)
    (quantity : row.ticketsQuantity = sale.quantity) (sold : row.ticketsSold = sale.sold)
    (key : sale.counter w = none ∨ sale.counter w = some (sale.quantity - sale.sold)) :
    sale.Inv [] w fun _ => .start := by
  have soldNow : sale.soldNow (fun _ : ι => .start) = sale.sold := by
    unfold Sale.soldNow
    rw [tally_const_zero (f := Phase.won) rfl, add_zero]
  have taken : sale.taken (fun _ : ι => .start) = sale.sold := by
    unfold Sale.taken
    rw [soldNow, tally_const_zero (f := Phase.inflight) rfl, add_zero]
  refine ⟨fun _ => .of_quiet quiet.1, fun _ => .of_quiet quiet.2, users,
    ⟨row, stored, quantity, by rw [soldNow, sold]⟩, fun _ => trivial, fun k value => ?_,
    fun _ turned => turned.elim, fun _ mem => (List.not_mem_nil mem).elim⟩
  rw [taken]
  rcases key with none | left
  · rw [none] at value
    cases value
  · rw [left] at value
    cases value
    have limit := row.check_sold_limit
    omega

/-- When all bookings have ended, what the invariant has kept decides how many have won. -/
theorem Inv.exact {ghost : ι → Phase} {outcome : ι → Except Exn Unit}
    (h : sale.Inv events w ghost) (ends : ∀ t, Ends (outcome t) (ghost t)) :
    (tally Phase.won ghost = min (Fintype.card ι : Int) (sale.quantity - sale.sold)) ∧
      ∀ t, Phase.won (ghost t) = if outcome t = .ok () then 1 else 0 := by
  have inflight : tally Phase.inflight ghost = 0 := Finset.sum_eq_zero fun t _ => by
    rcases ends t with ⟨_, _, _, won⟩ | ⟨_, lost⟩
    · rw [won]; rfl
    · rw [lost]; rfl
  have counts : ∀ t, Phase.won (ghost t) = if outcome t = .ok () then 1 else 0 := fun t => by
    rcases ends t with ⟨_, _, returned, won⟩ | ⟨raised, lost⟩
    · rw [won, returned, if_pos rfl]; rfl
    · rw [lost, raised, if_neg nofun]; rfl
  have card := tally_eq_card counts
  have bound : (Finset.univ.filter fun t => outcome t = .ok ()).card ≤ Fintype.card ι :=
    Finset.card_le_univ _
  obtain ⟨row', _, quantity, sold⟩ := h.stored
  have limit := row'.check_sold_limit
  have soldNow : sale.soldNow ghost = sale.sold + tally Phase.won ghost := rfl
  have taken : sale.taken ghost = sale.soldNow ghost + tally Phase.inflight ghost := rfl
  refine ⟨?_, counts⟩
  by_cases all : ∀ t, outcome t = .ok ()
  · rw [Finset.filter_true_of_mem fun t _ => all t, Finset.card_univ] at card
    omega
  · obtain ⟨t, raised⟩ := not_forall.mp all
    rcases ends t with ⟨_, _, returned, _⟩ | ⟨_, lost⟩
    · exact (raised returned).elim
    · have full := h.lost t (by rw [lost]; trivial)
      omega

end Sale

section Runs

variable {ι : Type} [Fintype ι] [DecidableEq ι] {d : Deployment} {w : World ι}
  {userId : ι → Int}
  {ticketData : TicketCreate} {row : TicketType} {events : List (CallEvent ι)}
  {c : Config ι (World ι) Cmd Cmd.Resp Exn Unit}

/-- **A flash sale sells exactly the slots that are left.** -/
theorem flash_sale (quiet : w.db.Quiet) (users : ∀ t, userId t ∈ w.db.users)
    (stored : w.db.ticketTypes.row ticketData.ticketTypeId = some row)
    (key : (w.redis d.apiRedis).inventory ticketData.ticketTypeId = none ∨
      (w.redis d.apiRedis).inventory ticketData.ticketTypeId =
        some (row.ticketsQuantity - row.ticketsSold))
    (run : Config.Run exec (config (fun t => .create (userId t) ticketData) d w) events c)
    (clean : ∀ e ∈ events, e.choice.fault = none) :
    (∀ e ∈ events, ∀ k,
      (e.after.redis d.apiRedis).inventory ticketData.ticketTypeId = some k →
      0 ≤ k) ∧
    ((∀ t, ∃ outcome, c.Finished t outcome) →
      ((Finset.univ.filter fun t => c.result t = some (.ok ())).card : Int) =
        min (Fintype.card ι : Int) (row.ticketsQuantity - row.ticketsSold) ∧
      (∀ t, c.Finished t (.ok ()) ∨ c.Finished t (.error TicketService.ticketsSoldOut)) ∧
      ∃ row', c.shared.db.ticketTypes.row ticketData.ticketTypeId = some row' ∧
        row'.ticketsSold = row.ticketsSold +
          min (Fintype.card ι : Int) (row.ticketsQuantity - row.ticketsSold)) := by
  let sale : Sale :=
    ⟨ticketData.ticketTypeId, row.ticketsQuantity, row.ticketsSold, d, w.db.users⟩
  have start : (sale.discipline ι).Holds exec (fun _ => Sale.Ends) []
      (config (fun t => .create (userId t) ticketData) d w) :=
    ⟨fun _ => .start, Sale.Inv.start quiet rfl stored rfl rfl key, fun t =>
      sale.follows_program (users t) rfl⟩
  obtain ⟨ghost, inv, follows⟩ := start.run run clean
  refine ⟨inv.nonneg, fun finished => ?_⟩
  choose outcome finished using finished
  have ends : ∀ t, Sale.Ends (outcome t) (ghost t) := fun t =>
    Discipline.Holds.post_of_finished follows (finished t)
  obtain ⟨won, counts⟩ := inv.exact ends
  have same : ∀ t, c.result t = some (outcome t) := fun t => by
    unfold Config.result
    rw [show c.threads t = .done (outcome t) from finished t]
  refine ⟨?_, fun t => ?_, ?_⟩
  · rw [← won, tally_eq_card counts]
    simp only [same, Option.some.injEq]
  · rcases ends t with ⟨a, id, returned, _⟩ | ⟨raised, _⟩
    · exact .inl (by rw [← returned]; exact finished t)
    · exact .inr (by rw [← raised]; exact finished t)
  · obtain ⟨row', stored', _, sold⟩ := inv.stored
    exact ⟨row', stored', by rw [sold, ← won]; rfl⟩

end Runs

/-- One ticket is on sale, and its counter is missing. -/
def oneLeft : World (Fin 2) where
  db :=
    { tickets := .ofList []
      ticketTypes := .ofList [exampleType 1 0]
      users := {1, 2}
      events := .ofList [exampleEvent] }
  redis _ := .empty
  jobs := []

/-- The ticket type on sale. -/
def onSale : TicketCreate := ⟨1, Int.one_pos⟩

/-- Both bookings fill the counter, the second one after the first has taken its slot; the `CHECK`
turns the second booking away. -/
theorem flash_sale_with_stale_counter :
    ∃ (events : List (CallEvent (Fin 2)))
      (c : Config (Fin 2) (World (Fin 2)) Cmd Cmd.Resp Exn Unit),
      Config.Run exec (config (fun t => .create (![1, 2] t) onSale) shippedSettings.deployment
        oneLeft) events c ∧
      (Finset.univ.filter fun t => c.result t = some (.ok ())).card = 1 ∧
      (∀ e ∈ events, ∀ k, (e.after.redis 0).inventory 1 = some k → 0 ≤ k) ∧
      (∀ t, c.Finished t (.ok ()) ∨ c.Finished t (.error TicketService.ticketsSoldOut)) ∧
      ∃ row', c.shared.db.ticketTypes.row 1 = some row' ∧ row'.ticketsSold = 1 := by
  have found : ((config (fun t => .create (![1, 2] t) onSale) shippedSettings.deployment
      oneLeft).replay exec (([0, 1, 0, 1, 0, 0, 1, 1, 0, 0, 0, 0, 0, 1, 1, 1, 1, 1, 0, 0, 0] :
        List (Fin 2)).map fun t => (t, {}))).any (fun r =>
          (r.1.all fun e => e.choice.fault = none) &&
            decide (∀ t, (r.2.result t).isSome)) = true := by
    decide
  obtain ⟨events, c, run, holds⟩ := Config.exists_run_of_replay
    (P := fun events c => (events.all fun e : CallEvent (Fin 2) => e.choice.fault = none) &&
      decide (∀ t, (c.result t).isSome)) found
  rw [Bool.and_eq_true, List.all_eq_true] at holds
  obtain ⟨clean, ended⟩ := holds
  have users : ∀ t : Fin 2, (![1, 2] : Fin 2 → Int) t ∈ oneLeft.db.users := by decide
  have empty : (oneLeft.redis shippedSettings.deployment.apiRedis).inventory
      onSale.ticketTypeId = none :=
    rfl
  obtain ⟨nonneg, counts⟩ := flash_sale (by decide) users rfl (.inl empty) run
    fun e mem => of_decide_eq_true (clean e mem)
  obtain ⟨card, all, row', stored, sold⟩ := counts fun t => by
    obtain ⟨outcome, result⟩ := Option.isSome_iff_exists.mp (of_decide_eq_true ended t)
    exact ⟨outcome, Config.finished_of_result result⟩
  have one : min (Fintype.card (Fin 2) : Int) (1 - 0) = 1 := rfl
  refine ⟨events, c, run, ?_, nonneg, all, row', stored, ?_⟩
  · exact_mod_cast card.trans one
  · exact sold

end TicketCore
