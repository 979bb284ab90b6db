import TicketCore.Office.Events
import TicketCore.Office.Releases
import TicketCore.SequentialLedger

/-!
# The whole system in sequence

Everything that an API process or a worker process runs, one call after another, each to its end,
with API and worker on one Redis database, where no awaited call fails. Between two calls Redis may
lose keys.

* `office_of_season`: outcomes and tables are those of the office, so neither the counters nor the
  caches ever show in an answer.
* `inventory_of_season`: between two calls every inventory key is that of a ticket type and stands
  for what is left of it.
-/

namespace TicketCore

open Interleave RowStore

variable {ι : Type}

/-- A finished call with its answer. -/
abbrev AnsweredCall (ι : Type) : Type :=
  Call Activity ι (World ι) Cmd Cmd.Resp Exn Choice Office.Answer

variable [DecidableEq ι] {d : Deployment} {t : ι} {w w' : World ι} {events : List (CallEvent ι)}

/-- Calls one after another, each by any thread and to its end; between them Redis may lose keys. -/
inductive Season (d : Deployment) (w : World ι) : List (AnsweredCall ι) → World ι → Prop
  | start : Season d w [] w
  | call {calls : List (AnsweredCall ι)} {w₁ w₂ : World ι} {t : ι} {activity : Activity}
      {events : List (CallEvent ι)} {outcome : Except Exn Office.Answer} :
      Season d w calls w₁ →
      (activity.answering d).Runs exec t w₁ events outcome w₂ →
      Season d w (calls ++ [⟨activity, w₁, events, outcome⟩]) w₂
  | forget {calls : List (AnsweredCall ι)} {w₁ : World ι} {r : RedisDb} :
      Season d w calls w₁ →
      (w₁.redis d.apiRedis).Forgets r →
      Season d w calls { w₁ with redis := Function.update w₁.redis d.apiRedis r }

/-! ## One call -/

section OneCall

variable {α : Type} {p : Async α} {form : α → Office.Answer} {suits : Notes → Prop}
  {result : Notes → Except Exn (α × Office)} {outcome : Except Exn Office.Answer}

/-- What a call returns is an answer. -/
theorem answer_of_done (h : p.Ensures exec t Unfailing
      (fun outcome w' => ∃ notes, suits notes ∧ Done d w (result notes) outcome w') w)
    (run : (answered form p).Runs exec t w events outcome w')
    (clean : ∀ e ∈ events, Unfailing e) :
    Mirrored d w' ∧ ∃ notes, suits notes ∧
      w.db.office.Gives (Office.answer form (result notes)) outcome w'.db.office := by
  have ensured : (answered form p).Ensures exec t Unfailing (fun outcome w' => Mirrored d w' ∧
      ∃ notes, suits notes ∧
      w.db.office.Gives (Office.answer form (result notes)) outcome w'.db.office)
      w := by
    refine Program.Ensures.bind (h.mono fun outcome w' ⟨notes, suited, ends⟩ => ?_)
    cases outcome with
    | ok a => exact ⟨ends.mirrored, notes, suited, ends.gives.answer⟩
    | error e => exact ⟨ends.mirrored, notes, suited, ends.gives.answer⟩
  exact ensured.runs run clean

/-- The same of a request in its session. -/
theorem answer_of_request (h : p.Ensures exec t Unfailing
      (fun outcome w' => ∃ notes, suits notes ∧ Served d t w (result notes) outcome w') w)
    (run : (answered form (getDb p)).Runs exec t w events outcome w')
    (clean : ∀ e ∈ events, Unfailing e) :
    Mirrored d w' ∧ ∃ notes, suits notes ∧
      w.db.office.Gives (Office.answer form (result notes)) outcome w'.db.office :=
  answer_of_done (ensures_getDb (works_unfailing _) (works_unfailing _) h) run clean

/-- A request that needs no notes. -/
theorem ensures_noted {result : Except Exn (α × Office)}
    (h : p.Ensures exec t Unfailing (Served d t w result) w) :
    p.Ensures exec t Unfailing
      (fun outcome w' => ∃ _ : Notes, True ∧ Served d t w result outcome w') w :=
  h.mono fun _ _ served => ⟨⟨0, 0, []⟩, trivial, served⟩

/-- **One call is one request of the office.** -/
theorem Mirrored.serves {activity : Activity} (h : Mirrored d w)
    (shared : d.workerRedis = d.apiRedis)
    (run : (activity.answering d).Runs exec t w events outcome w')
    (clean : ∀ e ∈ events, Unfailing e) :
    Mirrored d w' ∧
      w.db.office.Serves d.ticketReservationTimeSeconds activity outcome w'.db.office := by
  have task : ∀ {result : Except Exn (Unit × Office)} {p : Async Unit},
      p.Ensures exec t Unfailing (Done d w result) w →
      p.Ensures exec t Unfailing
          (fun outcome w' => ∃ _ : Notes, True ∧ Done d w result outcome w') w :=
    fun h => h.mono fun _ _ ends => ⟨⟨0, 0, []⟩, trivial, ends⟩
  cases activity with
  | operation op =>
      cases op with
      | create userId ticketData => exact answer_of_request (ensures_booking h) run clean
      | delete ownerId ticketId =>
          exact answer_of_request (ensures_noted (ensures_delete h)) run clean
      | payForTicket ticketId ownerId =>
          exact answer_of_request (ensures_noted (ensures_payForTicket h)) run clean
      | releaseUnpaidTicket ticketId =>
          exact answer_of_done (task (ensures_releaseUnpaidTicket h shared)) run clean
      | reconcileHungTickets =>
          have swept : (Worker.reconcileHungTickets d).Ensures exec t Unfailing (fun outcome w' =>
              ∃ notes : Notes, True ∧ Done d w (w.db.office.sweep
                (notes.clock - d.ticketReservationTimeSeconds * 1000000)) outcome w') w :=
            (ensures_hungTickets h shared).mono fun _ _ ⟨clock, ends⟩ =>
              ⟨⟨0, clock, []⟩, trivial, ends⟩
          exact answer_of_done swept run clean
      | reconcileRedisOrphans =>
          exact answer_of_done (task (ensures_redisOrphans h shared)) run clean
      | createType eventId typeData => exact answer_of_request (ensures_createType h) run clean
      | updateType ticketTypeId updateData =>
          exact answer_of_request (ensures_noted (ensures_updateTicketType h)) run clean
      | deleteType ticketTypeId =>
          exact answer_of_request (ensures_noted (ensures_deleteType h)) run clean
  | createEvent eventData => exact answer_of_request (ensures_createEvent h) run clean
  | updateEvent eventId updateData =>
      exact answer_of_request (ensures_noted (ensures_changeEvent h)) run clean
  | deleteEvent eventId => exact answer_of_request (ensures_noted (ensures_deleteEvent h)) run clean
  | getEvent eventId => exact answer_of_request (ensures_showEvent h) run clean
  | getEvents offset limit => exact answer_of_request (ensures_showEvents h) run clean
  | getTicket ownerId ticketId =>
      exact answer_of_request (ensures_noted (ensures_getTicket h)) run clean
  | getTickets ownerId offset limit => exact answer_of_request (ensures_getTickets h) run clean
  | getType ticketTypeId => exact answer_of_request (ensures_noted (ensures_getType h)) run clean
  | getTypes eventId offset limit => exact answer_of_request (ensures_getTypes h) run clean

end OneCall

omit [DecidableEq ι] in
/-- What Redis has lost does not make it wrong. -/
theorem Mirrored.forget {r : RedisDb} (h : Mirrored d w)
    (forgets : (w.redis d.apiRedis).Forgets r) :
    Mirrored d { w with redis := Function.update w.redis d.apiRedis r } where
  calm := h.calm
  mirrors := by
    rw [redis_update]
    exact h.mirrors.forget forgets.inventory forgets.canceledTickets forgets.activeReservations
  caches := by
    rw [redis_update]
    exact h.caches.forget forgets

/-! ## The theorems -/

section Seasons

variable {calls : List (AnsweredCall ι)}

/-- Redis says what the tables hold before every call, and the office has served the calls. -/
theorem Season.mirrored (season : Season d w calls w') (shared : d.workerRedis = d.apiRedis)
    (start : Mirrored d w) (clean : ∀ call ∈ calls, ∀ e ∈ call.events, Unfailing e) :
    (∀ call ∈ calls, Mirrored d call.before) ∧ Mirrored d w' ∧
      w.db.office.Day d.ticketReservationTimeSeconds
        (calls.map fun call => (call.label, call.outcome))
        w'.db.office := by
  induction season with
  | start => exact ⟨fun _ mem => (List.not_mem_nil mem).elim, start, .open⟩
  | @call calls w₁ w₂ t activity events outcome _ run ih =>
      obtain ⟨before, mirrored, day⟩ :=
        ih fun call mem => clean call (List.mem_append_left _ mem)
      obtain ⟨mirrored', serves⟩ := mirrored.serves shared run
        (clean _ (List.mem_append_right _ (List.mem_singleton_self _)))
      refine ⟨fun call mem => ?_, mirrored', ?_⟩
      · rcases List.mem_append.mp mem with mem | mem
        · exact before call mem
        · rw [List.mem_singleton.mp mem]
          exact mirrored
      · rw [List.map_append]
        exact day.next serves
  | forget _ forgets ih =>
      obtain ⟨before, mirrored, day⟩ := ih clean
      exact ⟨before, mirrored.forget forgets, day⟩

/-- Every inventory key is that of a ticket type and stands for what is left of it, the processed
set names no `RESERVED` ticket, and the reservation hash names no other. -/
def InventoryRight (d : Deployment) (w : World ι) : Prop :=
  (∀ id k, (w.redis d.apiRedis).inventory id = some k →
    ∃ row, w.db.ticketTypes.row id = some row ∧
    k = row.ticketsQuantity - row.ticketsSold) ∧
  (∀ id : Int, toString id ∈ (w.redis d.apiRedis).canceledTickets →
    ¬ ReservedIn w.db.tickets.row id) ∧
  ∀ entry ∈ (w.redis d.apiRedis).activeReservations, ∃ id : Int, entry.1 = toString id ∧
    ReservedIn w.db.tickets.row id

omit [DecidableEq ι] in
theorem Mirrored.inventoryRight (h : Mirrored d w) : InventoryRight d w := by
  refine ⟨h.mirrors.counters, fun id mem => (h.mirrors.processed id mem).2, fun entry mem => ?_⟩
  obtain ⟨id, named, reserved, _⟩ := h.mirrors.entries entry mem
  exact ⟨id, named, reserved⟩

/-- **In sequence the inventory is right**: without failures, whatever Redis has lost, it is right
before every call and after the last. -/
theorem inventory_of_season (shared : d.workerRedis = d.apiRedis) (start : Mirrored d w)
    (season : Season d w calls w')
    (clean : ∀ call ∈ calls, ∀ e ∈ call.events, Unfailing e) :
    (∀ call ∈ calls, InventoryRight d call.before) ∧ InventoryRight d w' := by
  obtain ⟨before, mirrored, _⟩ := season.mirrored shared start clean
  exact ⟨fun call mem => (before call mem).inventoryRight, mirrored.inventoryRight⟩

/-! ## Seasons from empty tables -/

/-- One thread has a season. -/
theorem season_of_serial (serial : Serial exec t (Activity.answering d) w calls w') :
    Season d w calls w' := by
  induction serial with
  | nil => exact .start
  | snoc _ run ih => exact ih.call run

end Seasons

theorem openingDay_mirrored : Mirrored sharedRedis openingDay :=
  mirrored_of_empty ⟨by decide, by decide⟩ rfl

/-- A type goes on sale; of three tickets one is paid for, one runs out and is not paid for any
more, and one is deleted; the event is shown from the tables and from the cache. -/
def openingScript : List Activity :=
  [.operation (.createType 1 standardType), .getEvent 1, .operation (.create 1 standardTicket),
    .operation (.payForTicket 1 1), .operation (.create 1 standardTicket), .getEvents 0 10,
    .operation (.releaseUnpaidTicket 2), .operation (.payForTicket 2 1),
    .operation (.create 1 standardTicket), .getEvent 1, .operation (.delete 1 3),
    .getEvents 0 10, .getType 1]

theorem openingScript_season : ∃ calls w', Season sharedRedis openingDay calls w' ∧
    (∀ call ∈ calls, ∀ e ∈ call.events, Unfailing e) ∧ calls.length = 13 ∧
    (w'.redis 0).inventory 1 = some 2 := by
  have found : (Serial.play exec () (Activity.answering sharedRedis)
      (openingScript.map fun activity => (activity, fun _ => {})) openingDay).any (fun r =>
        (r.1.all fun call => call.events.all fun e => Unfailing e) && decide (r.1.length = 13) &&
        decide ((r.2.redis 0).inventory 1 = some 2)) = true := by
    decide
  obtain ⟨calls, w', serial, holds⟩ := exists_serial_of_play
    (P := fun (calls : List (AnsweredCall Unit)) w' =>
      (calls.all fun call => call.events.all fun e => Unfailing e) && decide (calls.length = 13) &&
        decide ((w'.redis 0).inventory 1 = some 2)) found
  rw [Bool.and_eq_true, Bool.and_eq_true] at holds
  obtain ⟨⟨clean, length⟩, counter⟩ := holds
  exact ⟨calls, w', season_of_serial serial, fun call mem e mem' => of_decide_eq_true
    (List.all_eq_true.mp (List.all_eq_true.mp clean call mem) e mem'), of_decide_eq_true length,
    of_decide_eq_true counter⟩

theorem inventory_of_opening_day : ∃ calls w', Season sharedRedis openingDay calls w' ∧
  calls.length = 13 ∧
    (w'.redis 0).inventory 1 = some 2 ∧
    (∀ call ∈ calls, InventoryRight sharedRedis call.before) ∧
    InventoryRight sharedRedis w' := by
  obtain ⟨calls, w', season, clean, length, counter⟩ := openingScript_season
  exact ⟨calls, w', season, length, counter,
    inventory_of_season rfl openingDay_mirrored season clean⟩

end TicketCore
