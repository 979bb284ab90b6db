import TicketCore.Office.Session

/-!
# Tickets of the office

The calls of `TicketService` and `PaymentService`, each to its end: outcome and tables are those of
`Office.book`, `Office.giveUp` and `Office.pay`, and of what is shown of tickets.

The counter of a type with a key is what is left of it, so the reserve script refuses a booking
exactly when all tickets are taken, and the constraint on the count never does.
-/

namespace TicketCore

open Interleave RowStore

namespace Office

variable {office counted : Office} {ticketTypeId delta userId slots id : Int} {row : TicketType}
  {notes : Notes}

/-- What a count that moves leaves as it is. -/
theorem count_rest (moved : office.count ticketTypeId delta = .ok counted) :
    counted.tickets = office.tickets ∧ counted.events = office.events ∧
    counted.users = office.users := by
  unfold count at moved
  split at moved
  · cases moved
    exact ⟨rfl, rfl, rfl⟩
  · split at moved
    · cases moved
      exact ⟨rfl, rfl, rfl⟩
    · cases moved

theorem count_of_row (stored : office.types ticketTypeId = some row)
    (moved : office.count ticketTypeId delta = .ok counted) :
    ∃ row', row.addTicketsSold delta = .ok row' ∧
      counted = office.setType ticketTypeId (some row') := by
  unfold count at moved
  rw [stored] at moved
  dsimp only at moved
  split at moved
  · rename_i row' changed
    cases moved
    exact ⟨row', changed, rfl⟩
  · cases moved

/-- The slots that a count gives back. -/
theorem lowered_of_count (moved : office.count ticketTypeId (-slots) = .ok counted) (id : Int) :
    Option.Rel (Lowered (if id = ticketTypeId then slots else 0)) (office.types id)
      (counted.types id) := by
  unfold count at moved
  split at moved
  · rename_i absent
    cases moved
    split
    · rename_i same
      rw [same, absent]
      exact .none
    · exact Lowered.still _
  · rename_i row stored
    split at moved
    · rename_i row' changed
      cases moved
      unfold setType
      dsimp only
      split
      · rename_i same
        subst same
        rw [Function.update_self, stored]
        have lowered := Lowered.of_addTicketsSold changed
        rw [neg_neg] at lowered
        exact .some lowered
      · rename_i other
        rw [Function.update_of_ne other]
        exact Lowered.still _
    · cases moved

theorem book_soldOut (stored : office.types ticketTypeId = some row)
    (spent : row.ticketsSold = row.ticketsQuantity) :
    office.book userId ticketTypeId notes = .error TicketService.ticketsSoldOut := by
  unfold book
  rw [stored]
  exact if_pos spent

theorem book_stranger (stored : office.types ticketTypeId = some row)
    (left : row.ticketsSold ≠ row.ticketsQuantity) (stranger : userId ∉ office.users) :
    office.book userId ticketTypeId notes = .error (.integrity .fkOwner) := by
  unfold book
  rw [stored]
  dsimp only
  rw [if_neg left, if_pos stranger]

theorem book_user (stored : office.types ticketTypeId = some row)
    (left : row.ticketsSold ≠ row.ticketsQuantity) (user : userId ∈ office.users)
    (moved : office.count ticketTypeId 1 = .ok counted) :
    office.book userId ticketTypeId notes = .ok (⟨notes.id, ticketTypeId, .reserved⟩,
      counted.setTicket notes.id (some ⟨ticketTypeId, userId, .reserved, notes.clock⟩)) := by
  unfold book
  rw [stored]
  dsimp only
  rw [if_neg left, if_neg (not_not.mpr user), moved]
  rfl

end Office

variable {ι : Type} [DecidableEq ι] {d : Deployment} {t : ι} {w w₀ w' : World ι} {id : Int}

/-! ## A ticket more -/

section Create

variable {ticketTypeId userId : Int}

/-- A slot has been taken from the counter of the type. -/
structure SlotTaken (d : Deployment) (ticketTypeId : Int) (w : World ι) : Prop where
  calm : w.db.Calm
  mirrors : Mirrors w.db.ticketTypes.row w.db.tickets.row w.db.tickets.issued
    ((w.redis d.apiRedis).incrInventory ticketTypeId)
  caches : w.db.office.Caches (w.redis d.apiRedis)
  counter : ∃ k, 0 ≤ k ∧ (w.redis d.apiRedis).inventory ticketTypeId = some k

omit [DecidableEq ι] in
/-- The type of the slot has tickets left. -/
theorem SlotTaken.row (h : SlotTaken d ticketTypeId w) :
    ∃ row, w.db.ticketTypes.row ticketTypeId = some row ∧
      row.ticketsSold < row.ticketsQuantity := by
  obtain ⟨k, nonneg, counter⟩ := h.counter
  obtain ⟨row, stored, left⟩ := h.mirrors.counters ticketTypeId _ (Function.update_self ..)
  rw [counter, Option.getD_some] at left
  exact ⟨row, stored, by omega⟩

/-- The answer of the reserve script, once there is a key. -/
def Reserved (d : Deployment) (ticketTypeId : Int) (w : World ι) (result : Int) (w' : World ι) :
    Prop :=
  w'.db = w.db ∧
      ((result = 0 ∧ Mirrored d w' ∧ ∃ row, w.db.ticketTypes.row ticketTypeId = some row ∧
      row.ticketsSold = row.ticketsQuantity) ∨ (result = 1 ∧ SlotTaken d ticketTypeId w'))

theorem ensures_evalReserve (h : Mirrored d w) :
    (redis d.apiRedis (.evalReserve ticketTypeId)).Ensures exec t Unfailing
      (Program.Then (fun result w' =>
        (result = -1 ∧ (w.redis d.apiRedis).inventory ticketTypeId = none ∧ w' = w) ∨
          Reserved d ticketTypeId w result w') fun _ _ => False) w := by
  refine ensures_redis unfailing_clean fun _ _ result r ran => ?_
  have still :
      ({ w with redis := Function.update w.redis d.apiRedis (w.redis d.apiRedis) } : World ι) =
      w := by
    rw [Function.update_eq_self]
  rcases RedisDb.reserveScript_cases (Option.some.inj ran) with
    ⟨missing, rfl, rfl⟩ | ⟨k, counter, positive, rfl, rfl⟩ |
      ⟨k, counter, spent, rfl, rfl⟩
  · exact .inl ⟨rfl, missing, still⟩
  · refine .inr ⟨rfl, .inr ⟨rfl, h.calm, ?_, ?_, k - 1, by omega, ?_⟩⟩
    · rw [redis_update, RedisDb.incrInventory_setInventory counter]
      exact h.mirrors
    · rw [redis_update]
      exact h.caches.of_offers ⟨rfl, rfl, rfl⟩ .refl
    · rw [redis_update]
      exact Function.update_self ..
  · rw [still]
    obtain ⟨row, stored, left⟩ := h.mirrors.counters _ _ counter
    have limit := row.check_sold_limit
    exact .inr ⟨rfl, .inl ⟨rfl, h, row, stored, by omega⟩⟩

/-- A type without a key: its key is set first. -/
theorem ensures_reserveCold (h : Mirrored d w) :
    (TicketService.reserveCold d ticketTypeId).Ensures exec t Unfailing
      (Program.Then (fun result w' => Reserved d ticketTypeId w result w')
        fun e w' => e = TicketTypeService.ticketTypeNotFound ∧
          w.db.ticketTypes.row ticketTypeId = none ∧
          w' = w) w := by
  refine Program.Ensures.bind (ensures_getTicketType (.start h.calm) ?_)
  dsimp only [Program.Then]
  have types : w.db.office.types = w.db.ticketTypes.row := rfl
  rw [types]
  cases stored : w.db.ticketTypes.row ticketTypeId with
  | none => exact ⟨rfl, rfl, rfl⟩
  | some row =>
      refine Program.Ensures.bind (ensures_redis unfailing_clean ?_)
      rintro _ _ _ _ ⟨⟩
      have filled : Mirrored d { w with
          redis := Function.update w.redis d.apiRedis
            ((w.redis d.apiRedis).setInventory ticketTypeId
            (some (row.ticketsQuantity - row.ticketsSold))) } := by
        refine ⟨h.calm, ?_, ?_⟩
        · rw [redis_update]
          exact h.mirrors.fill stored
        · rw [redis_update]
          exact h.caches.of_offers ⟨rfl, rfl, rfl⟩ .refl
      refine (ensures_evalReserve filled).mono ?_
      rintro (_ | result) w' ends
      · exact ends.elim
      rcases ends with ⟨_, missing, _⟩ | reserved
      · rw [redis_update] at missing
        cases (Function.update_self ticketTypeId _ (w.redis d.apiRedis).inventory).symm.trans
          missing
      · obtain ⟨same, ⟨rfl, mirrored, row', found, spent⟩ | taken⟩ := reserved
        · exact ⟨same, .inl ⟨rfl, mirrored, row', found, spent⟩⟩
        · exact ⟨same, .inr taken⟩

theorem ensures_booked (h : SlotTaken d ticketTypeId w) :
    (TicketService.book d userId ticketTypeId).Ensures exec t Unfailing
      (Program.Then (fun a w' => Mirrored d w' ∧ ∃ notes : Notes,
        w.db.office.tickets notes.id = none ∧
          w.db.office.book userId ticketTypeId notes =
            .ok (⟨a.1, a.2.ticketTypeId, a.2.status⟩, w'.db.office))
        fun e w' => e = .integrity .fkOwner ∧
          (∀ notes, w.db.office.book userId ticketTypeId notes =
          .error (.integrity .fkOwner)) ∧ ∃ office, Working t w office w') w := by
  obtain ⟨row, stored, left⟩ := h.row
  obtain ⟨k, _, counter⟩ := h.counter
  have stored' : w.db.office.types ticketTypeId = some row := stored
  refine Program.Ensures.bind ((ensures_count (.start h.calm)).mono ?_)
  rintro (e | _) w₁ ends
  · -- The type has tickets left, so its count can move.
    obtain ⟨refused, _⟩ := ends
    have sold := row.check_ticket_sold
    have moves : ∃ row', row.addTicketsSold 1 = .ok row' :=
      TicketType.addTicketsSold_isOk (by omega) (by omega)
    obtain ⟨row', moved⟩ := moves
    unfold Office.count at refused
    rw [stored'] at refused
    dsimp only at refused
    rw [moved] at refused
    cases refused
  obtain ⟨counted, moved, working⟩ := ends
  obtain ⟨row', changed, same⟩ := Office.count_of_row stored' moved
  obtain ⟨sold, quantity⟩ := TicketType.addTicketsSold_ok changed
  have there : counted.types ticketTypeId = some row' := by
    rw [same]
    exact Function.update_self ..
  refine Program.Ensures.bind ((ensures_insertTicket working there).mono ?_)
  rintro (e | id) w₂ ends
  · obtain ⟨rfl, stranger, working⟩ := ends
    rw [(Office.count_rest moved).2.2] at stranger
    exact ⟨rfl, fun notes => Office.book_stranger stored' (by omega) stranger, _, working⟩
  obtain ⟨user, free, ⟨next, known⟩, clock, working⟩ := ends
  rw [(Office.count_rest moved).2.2] at user
  rw [(Office.count_rest moved).1] at free
  refine Program.Ensures.bind (ensures_anytime fun time => ?_)
  refine Program.Ensures.bind (ensures_redis unfailing_clean ?_)
  rintro _ _ _ _ ⟨⟩
  refine Program.Ensures.bind (ensures_sql unfailing_clean ?_)
  rintro _ _ _ _ ⟨⟩
  have there : ((w₂.db.commit t).seen t).tickets id = some
      ⟨ticketTypeId, userId, .reserved, clock⟩ := by
    rw [seen_commit, working.seen]
    exact Function.update_self ..
  refine Program.Ensures.bind (ensures_refreshTicket there ?_)
  refine Program.Ensures.bind (ensures_enqueueJob unfailing_clean ?_)
  refine ⟨working.committed rfl ?_ ?_, ⟨id, clock, []⟩, free, ?_⟩
  · dsimp only
    rw [Function.update_self, working.redis, same]
    exact h.mirrors.book counter stored quantity sold next known rfl
      (by rw [readReservation_reservationValue]; rfl)
  · dsimp only
    rw [Function.update_self, working.redis]
    exact h.caches.of_offers ⟨rfl, rfl, rfl⟩
      ((Office.offers_of_count moved).trans ⟨rfl, rfl⟩)
  · rw [Office.book_user stored' (by omega) user moved]
    have after : (w₂.db.commit t).office = _ := working.seen
    show _ = Except.ok (_, (w₂.db.commit t).office)
    rw [after]

theorem ensures_compensate {office : Office} (h : SlotTaken d ticketTypeId w)
    (working : Working t w office w')
    (refused : ∀ notes, w.db.office.book userId ticketTypeId notes = .error
      (.integrity .fkOwner)) :
    (TicketService.compensate d ticketTypeId (.integrity .fkOwner) : Async (Int × Ticket)).Ensures
      exec t
      Unfailing (Program.Then (fun _ _ => False) fun e w' => ∀ notes,
        Served d t w (w.db.office.book userId ticketTypeId notes) (.error e) w') w' := by
  refine Program.Ensures.bind (ensures_sql unfailing_clean ?_)
  rintro _ _ _ _ ⟨⟩
  refine Program.Ensures.bind (ensures_redis unfailing_clean ?_)
  rintro _ _ _ _ ⟨⟩
  intro notes
  refine ⟨⟨?_, ?_, ?_⟩, ?_⟩
  · exact working.opened.rolledBack.rollback
  · show Mirrors w'.db.ticketTypes.row w'.db.tickets.row w'.db.tickets.issued
      (({ w' with redis := _ } : World ι).redis d.apiRedis)
    rw [redis_update, working.redis, working.opened.ticketTypes, working.opened.tickets]
    exact h.mirrors.grow working.opened.issued
  · show w'.db.office.Caches (({ w' with redis := _ } : World ι).redis d.apiRedis)
    rw [redis_update, working.redis, working.office_eq]
    exact h.caches.of_offers ⟨rfl, rfl, rfl⟩ .refl
  · show w.db.office.Gives _ _ w'.db.office
    rw [working.office_eq, refused]
    exact .refused

omit [DecidableEq ι] in
/-- There is an id that no ticket has. -/
theorem zero_free (w : World ι) : w.db.office.tickets 0 = none :=
  row_none_of_not_issued (by omega)

/-- **`TicketService.create` books a ticket**, or refuses it as the office does. -/
theorem ensures_booking {ticketData : TicketCreate} (h : Mirrored d w) :
    (TicketService.create d userId ticketData).Ensures exec t Unfailing (fun outcome w' =>
      ∃ notes : Notes, w.db.office.tickets notes.id = none ∧
        Served d t w (w.db.office.book userId ticketData.ticketTypeId notes) outcome w') w := by
  refine Program.Ensures.bind ((ensures_evalReserve h).mono ?_)
  rintro (_ | first) w₁ ends
  · exact ends.elim
  have reserved : (TicketService.fallback d ticketData.ticketTypeId first).Ensures exec t Unfailing
      (Program.Then (fun result w' => Reserved d ticketData.ticketTypeId w result w')
        fun e w' => e = TicketTypeService.ticketTypeNotFound ∧
          w.db.ticketTypes.row ticketData.ticketTypeId = none ∧ w' = w) w₁ := by
    unfold TicketService.fallback
    rcases ends with ⟨rfl, _, rfl⟩ | reserved
    · exact ensures_reserveCold h
    · rcases reserved with ⟨same, ⟨rfl, rest⟩ | ⟨rfl, rest⟩⟩
      · exact ⟨same, .inl ⟨rfl, rest⟩⟩
      · exact ⟨same, .inr ⟨rfl, rest⟩⟩
  refine Program.Ensures.bind (reserved.mono ?_)
  rintro (e | result) w₂ ends
  · obtain ⟨rfl, absent, rfl⟩ := ends
    refine ⟨⟨0, 0, []⟩, zero_free _, (Working.start h.calm).refused h ?_⟩
    have absent' : w₂.db.office.types ticketData.ticketTypeId = none := absent
    unfold Office.book
    rw [absent']
  rcases ends with ⟨same, ⟨rfl, mirrored, row, stored, spent⟩ | ⟨rfl, taken⟩⟩
  · refine ⟨⟨0, 0, []⟩, zero_free _, ?_⟩
    have stored' : w₂.db.office.types ticketData.ticketTypeId = some row := by
      unfold Database.office
      rw [same]
      exact stored
    have soldOut : w₂.db.office.book userId ticketData.ticketTypeId ⟨0, 0, []⟩ =
        .error TicketService.ticketsSoldOut := Office.book_soldOut stored' spent
    have served := ((Working.start (t := t) mirrored.calm).refused mirrored soldOut).of_db same
    rw [same] at served
    exact served
  · refine Program.Ensures.bind (Program.Ensures.tryCatch ((ensures_booked taken).mono ?_))
    rintro (e | ⟨id, newTicket⟩) w₃ ends
    · obtain ⟨rfl, refused, office, working⟩ := ends
      refine (ensures_compensate taken working refused).mono ?_
      rintro (e | _) w₄ ends
      · have served := (ends ⟨0, 0, []⟩).of_db same
        rw [same] at served
        exact ⟨⟨0, 0, []⟩, zero_free _, served⟩
      · exact ends.elim
    · obtain ⟨mirrored, notes, free, booked⟩ := ends
      rw [same] at free booked
      refine ⟨notes, free, ?_⟩
      unfold Served
      rw [mirrored.calm.rollback]
      refine ⟨mirrored, ?_⟩
      rw [booked]
      exact .answered

end Create

/-! ## A ticket less -/

section Settle

variable {ticket : Ticket} {ticketId ownerId : Int} {office : Office}

omit [DecidableEq ι] in
theorem ticketOf_some {db : Database ι}
    (found : db.office.ticketOf ownerId ticketId = some ticket) :
    db.office.tickets ticketId = some ticket := by
  unfold Office.ticketOf at found
  exact (Option.filter_eq_some_iff.mp found).1

/-- The `try` block of a deletion. -/
theorem ensures_remove (h : Mirrored d w)
    (found : w.db.office.ticketOf ownerId ticketId = some ticket) :
    (TicketService.remove d ticketId ticket).Ensures exec t Unfailing
      (Served d t w (w.db.office.giveUp ownerId ticketId)) w := by
  have stored := ticketOf_some found
  have given : ∀ {result : Except Exn Office}, w.db.office.count ticket.ticketTypeId
      (-1) = result →
      w.db.office.giveUp ownerId ticketId = result.map fun counted =>
        ((), counted.setTicket ticketId none) := fun counted => by
    unfold Office.giveUp
    rw [found, ← counted]
  refine Program.Ensures.bind ((ensures_count (.start h.calm)).mono ?_)
  rintro (e | _) w₁ ends
  · obtain ⟨refused, working⟩ := ends
    exact working.refused h (given refused)
  obtain ⟨counted, moved, working⟩ := ends
  obtain ⟨tickets, events, users⟩ := Office.count_rest moved
  refine Program.Ensures.bind
    (ensures_deleteTicket working (by rw [tickets, stored]) fun w₂ working => ?_)
  refine Program.Ensures.bind (ensures_sql unfailing_clean ?_)
  rintro _ _ _ _ ⟨⟩
  refine Program.Ensures.bind (ensures_redis unfailing_clean ?_)
  rintro _ _ _ _ ⟨⟩
  refine ensures_redis unfailing_clean ?_
  rintro _ _ _ _ ⟨⟩
  have same : counted.setTicket ticketId none =
      { counted with tickets := Function.update w.db.tickets.row ticketId none } := by
    unfold Office.setTicket
    rw [tickets]
    rfl
  refine working.served (given moved) rfl (working.committed rfl ?_ ?_)
  · dsimp only
    rw [Function.update_self, Function.update_self, working.redis, same]
    refine (h.mirrors.leave (fun _ none => by cases none) (Office.lowered_of_count moved)
      (fun id => ?_)
      (fun id mem => .inl ?_) RedisDb.safeIncrScript_activeReservations).grow working.opened.issued
    swap
    · rwa [RedisDb.safeIncrScript_canceledTickets] at mem
    rw [RedisDb.safeIncrScript_inventory]
    by_cases same : id = ticket.ticketTypeId
    · subst same
      rw [Function.update_self, if_pos rfl]
    · rw [Function.update_of_ne same, if_neg same]
      exact counter_still _
  · dsimp only
    rw [Function.update_self, Function.update_self, working.redis]
    exact h.caches.of_offers (RedisDb.SameCaches.safeIncr ⟨rfl, rfl, rfl⟩)
      ((Office.offers_of_count moved).trans ⟨rfl, rfl⟩)

/-- **`TicketService.delete` gives a ticket up**, as the office does. -/
theorem ensures_delete (h : Mirrored d w) :
    (TicketService.delete d ownerId ticketId).Ensures exec t Unfailing
      (Served d t w (w.db.office.giveUp ownerId ticketId)) w := by
  refine Program.Ensures.bind (ensures_selectTicket (.start h.calm) ?_)
  cases found : w.db.office.ticketOf ownerId ticketId with
  | none =>
      refine (Working.start h.calm).refused h ?_
      unfold Office.giveUp
      rw [found]
  | some ticket =>
      refine Program.Ensures.tryCatch ((ensures_remove h found).mono ?_)
      rintro (e | _) w₁ served
      · exact ensures_rollback served
      · exact served

/-- The `try` block of a payment. -/
theorem ensures_settle (h : Mirrored d w)
    (found : w.db.office.ticketOf ownerId ticketId = some ticket)
    (working : Working t w w.db.office w') (reserved : ticket.status = .reserved) :
    (PaymentService.settle d ticketId).Ensures exec t Unfailing (fun outcome w₁ =>
      Served d t w (w.db.office.pay ticketId ownerId)
        (outcome.map fun paid => ⟨ticketId, paid.status⟩) w₁)
      w' := by
  have stored := ticketOf_some found
  have pays : w.db.office.pay ticketId ownerId = .ok (⟨ticketId, .sold⟩,
      w.db.office.setTicket ticketId (some (ticket.withStatus .sold))) := by
    unfold Office.pay
    rw [found]
    dsimp only
    rw [reserved]
  refine Program.Ensures.bind (ensures_updateTicketStatus working stored fun w₁ working => ?_)
  refine Program.Ensures.bind (ensures_sql unfailing_clean ?_)
  rintro _ _ _ _ ⟨⟩
  have there : ((w₁.db.commit t).seen t).tickets ticketId = some (ticket.withStatus .sold) := by
    rw [seen_commit, working.seen]
    exact Function.update_self ..
  refine Program.Ensures.bind (ensures_refreshTicket there ?_)
  refine Program.Ensures.bind (ensures_redis unfailing_clean ?_)
  rintro _ _ _ _ ⟨⟩
  refine working.served pays rfl (working.committed rfl ?_ ?_)
  · dsimp only
    rw [Function.update_self, working.redis]
    exact (h.mirrors.leave (fun paid same reserved => by cases same; cases reserved)
      (fun id => Lowered.still (w.db.ticketTypes.row id)) (fun id => counter_still _)
      (fun _ mem => .inl mem) rfl).grow working.opened.issued
  · dsimp only
    rw [Function.update_self, working.redis]
    exact h.caches.of_offers ⟨rfl, rfl, rfl⟩ ⟨rfl, rfl⟩

/-- **`PaymentService.pay_for_ticket` pays for a ticket**, or refuses to as the office does. -/
theorem ensures_payForTicket (h : Mirrored d w) :
    (PaymentService.payForTicket d ticketId ownerId).Ensures exec t Unfailing
      (Served d t w (w.db.office.pay ticketId ownerId)) w := by
  refine Program.Ensures.bind (ensures_selectTicketForUpdate (.start h.calm) (some ownerId)
    fun w₁ working => ?_)
  rw [filter_matchesOwner]
  dsimp only [Program.Then]
  have owned : (w.db.office.tickets ticketId).filter (fun ticket => ticket.ownerId = ownerId) =
    w.db.office.ticketOf ownerId ticketId := rfl
  rw [owned]
  have refuses : ∀ {e : Exn}, w.db.office.pay ticketId ownerId = .error e →
      Served d t w (w.db.office.pay ticketId ownerId) (.error e) w₁ := fun refused =>
    working.refused h refused
  cases found : w.db.office.ticketOf ownerId ticketId with
  | none =>
      refine refuses ?_
      unfold Office.pay
      rw [found]
  | some ticket =>
      dsimp only
      cases status : ticket.status with
      | sold | canceled =>
          refine refuses ?_
          unfold Office.pay
          rw [found]
          dsimp only
          rw [status]
      | reserved =>
          refine Program.Ensures.bind (Program.Ensures.tryCatch
            ((ensures_settle h found working status).mono ?_))
          rintro (e | paid) w₂ served
          · refine (ensures_reraise served).mono ?_
            rintro (e | _) w' ends
            · exact ends
            · exact ends.elim
          · exact served

/-- `TicketService.get` shows a ticket with the title of its event. -/
theorem ensures_getTicket (h : Mirrored d w) :
    (TicketService.get ownerId ticketId).Ensures exec t Unfailing
      (Served d t w (w.db.office.showTicket ownerId ticketId)) w := by
  refine Program.Ensures.bind (ensures_selectTicket (.start h.calm) ?_)
  cases found : w.db.office.ticketOf ownerId ticketId with
  | none =>
      refine (Working.start h.calm).refused h ?_
      unfold Office.showTicket
      rw [found]
  | some ticket =>
      refine Program.Ensures.bind (ensures_sql unfailing_clean ?_)
      rintro _ _ _ _ ⟨⟩
      refine (Working.start h.calm).answered h ?_
      unfold Office.showTicket Database.ticketTypeWithEvent
      rw [found, read_calm h.calm.quiet.2, read_calm h.calm.events]
      rfl

/-- `TicketService.get_all_for_user` shows a page of the tickets of a user. -/
theorem ensures_getTickets {offset limit : Int} (h : Mirrored d w) :
    (TicketService.getAllForUser ownerId offset limit).Ensures exec t Unfailing (fun outcome w' =>
      ∃ notes : Notes, Enumerates w.db.office.tickets (fun ticket => ticket.ownerId = ownerId)
        notes.order ∧
        Served d t w (.ok (w.db.office.showTickets offset limit notes, w.db.office))
          outcome w') w := by
  refine Program.Ensures.bind (ensures_sql unfailing_clean fun _ rows _ _ ran => ?_)
  cases ran
  have tickets : w.db.tickets.read t = w.db.office.tickets := read_calm h.calm.quiet.1
  refine ⟨⟨0, 0, arrange rows
    (Database.idsSeen w.db.tickets t fun ticket => ticket.ownerId = ownerId)⟩,
    ?_, (Working.start h.calm).answered h ?_⟩
  · rw [← tickets]
    exact enumerates_scan rows
  · unfold Office.showTickets
    rw [← tickets]
    exact congrArg (fun shown => Except.ok (shown, w.db.office))
        (map_rowsAt fun row : Int × Ticket =>
      (⟨row.1, row.2.ticketTypeId, row.2.status⟩ : TicketResponse)).symm

end Settle

end TicketCore
