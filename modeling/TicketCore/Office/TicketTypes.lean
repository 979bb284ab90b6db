import TicketCore.Columns
import TicketCore.Office.Tickets

/-!
# Ticket types of the office

The calls of `TicketTypeService`, each to its end: outcome and tables are those of `Office.addType`,
`Office.changeType` and `Office.dropType`, and of what is shown of ticket types. After its commit a
call brings the key of the type up to date, drops the entry of its event and leaves the lists
behind.
-/

namespace TicketCore

open Interleave RowStore

/-! ## Changes without net effect -/

namespace TicketTypeUpdate

variable {data : TicketTypeUpdate} {row : TicketType}

theorem apply_net : (data.netChange row).apply row = data.apply row := by
  have name : ((data.netChange row).name = some none) = (data.name = some none) :=
    propext netField_eq_null
  have price : ((data.netChange row).price = some none) = (data.price = some none) :=
    propext netField_eq_null
  have quantity : ((data.netChange row).ticketsQuantity = some none) =
      (data.ticketsQuantity = some none) :=
    propext netField_eq_null
  have newName : (data.netChange row).name.join.getD row.name = data.name.join.getD row.name :=
    getD_netField
  have newPrice : (data.netChange row).price.join.getD row.price = data.price.join.getD row.price :=
    getD_netField
  unfold apply
  simp only [name, price, quantity, newName, newPrice, newQuantity_netChange]

theorem apply_of_isEmpty (empty : data.isEmpty = true) : data.apply row = .ok row := by
  unfold isEmpty at empty
  rw [Bool.and_eq_true, Bool.and_eq_true, Option.isNone_iff_eq_none, Option.isNone_iff_eq_none,
    Option.isNone_iff_eq_none] at empty
  obtain ⟨⟨name, price⟩, quantity⟩ := empty
  have limit : row.ticketsSold ≤ data.newQuantity.getD row.ticketsQuantity := by
    unfold newQuantity
    rw [quantity]
    exact row.check_sold_limit
  unfold apply
  rw [if_neg (by rw [name]; exact nofun), if_neg (by rw [price]; exact nofun),
    if_neg (by rw [quantity]; exact nofun), dif_pos limit]
  unfold newQuantity
  simp only [name, price, quantity]
  rfl

end TicketTypeUpdate

/-- What `invalidate` leaves of the caches: no entry of the event, and a new version of the
lists. -/
def RedisDb.invalidated (r : RedisDb) (eventId : Int) : RedisDb :=
  { r.setEventStatic eventId none with eventListVersion := some (r.eventListVersion.getD 0 + 1) }

variable {ι : Type} [DecidableEq ι] {d : Deployment} {t : ι} {w w₀ w₁ w' : World ι}
  {office : Office} {eventId ticketTypeId : Int} {row : TicketType} {updateData : TicketTypeUpdate}

theorem ensures_invalidate {post : Except Exn Unit → World ι → Prop}
    (next : ∀ w', w'.db = w.db →
      w'.redis d.apiRedis = (w.redis d.apiRedis).invalidated eventId →
      post (.ok ()) w') :
    (TicketTypeService.invalidate d eventId).Ensures exec t Unfailing post w := by
  refine Program.Ensures.bind (ensures_redis unfailing_clean ?_)
  rintro _ _ _ _ ⟨⟩
  refine ensures_redis unfailing_clean ?_
  rintro _ _ _ _ ⟨⟩
  refine next _ rfl ?_
  dsimp only
  rw [Function.update_self, Function.update_self]
  rfl

/-- What a transaction has committed, once Redis is brought up to date. -/
theorem Working.published {r : RedisDb} (h : Working t w₀ office w₁) (before : Mirrored d w₀)
    (same : w'.db = w₁.db.commit t) (redis : w'.redis d.apiRedis = r.invalidated eventId)
    (mirrors : Mirrors office.types office.tickets w₀.db.tickets.issued r)
    (caches : (w₀.redis d.apiRedis).SameCaches r)
    (others : ∀ id, id ≠ eventId → office.events id = w₀.db.office.events id ∧
      office.offer id = w₀.db.office.offer id) : Mirrored d w' := by
  have grown := mirrors.grow h.opened.issued
  refine h.committed same ?_ ?_
  · rw [redis]
    exact ⟨grown.counters, grown.processed, grown.entries⟩
  · rw [redis]
    exact (before.caches.of_offers caches .refl).invalidate others rfl

/-! ## Statements -/

/-- A ticket type is inserted, if its event is there. -/
theorem ensures_insertTicketType {typeData : TicketTypeCreate} (h : Working t w₀ office w) :
    (sql (.insertTicketType eventId typeData)).Ensures exec t Unfailing
      (Program.Then (fun id w' => (office.events eventId).isSome ∧ office.types id = none ∧
          Working t w₀ (office.setType id (some (typeData.row eventId))) w')
        fun e w' => e = .integrity .fkEvent ∧ (office.events eventId).isNone ∧
        Working t w₀ office w') w := by
  refine ensures_sql unfailing_clean fun _ _ answer db' ran => ?_
  have ran' := ran
  have event := congrFun h.event eventId
  simp only [DbCmd.run, Database.insertTicketType] at ran'
  split at ran'
  · rename_i absent
    cases ran'
    exact ⟨rfl, by rw [← event, absent]; rfl, h.next ran not_false h.seen⟩
  · rename_i found read
    split at ran'
    · cases ran'
    · cases ran'
      refine ⟨by rw [← event, read]; rfl, ?_, h.next ran not_false ?_⟩
      · rw [← h.ticketType, read_of_not_held heldBy_next, row_next]
      · rw [← h.seen]
        unfold Database.seen Office.setType
        rw [read_insert]

/-- A ticket type that is there is changed. -/
theorem ensures_updateTypeRow (h : Working t w₀ office w)
    (stored : office.types ticketTypeId = some row) :
    (sql (.updateTicketType ticketTypeId updateData)).Ensures exec t Unfailing
      (Program.Then (fun _ w' => ∃ row', updateData.apply row = .ok row' ∧
          Working t w₀ (office.setType ticketTypeId (some row')) w')
        fun e w' => ∃ violated, e = .integrity violated ∧
          updateData.apply row = .error violated ∧
          Working t w₀ office w') w := by
  refine ensures_sql unfailing_clean fun _ _ answer db' ran => ?_
  have read : w.db.ticketTypes.read t ticketTypeId = some row := by rw [h.ticketType, stored]
  have ran' := ran
  simp only [DbCmd.run, Database.updateTypeRow, read, if_pos (h.opened.unshared.2.1 ticketTypeId)]
    at ran'
  split at ran'
  · rename_i row' applied
    cases ran'
    refine ⟨row', applied, h.next ran not_false ?_⟩
    rw [seen_holdType (by rw [read]; rfl), h.seen]
  · rename_i violated refused
    cases ran'
    exact ⟨violated, rfl, refused, h⟩

/-- A ticket type that is there is deleted, if no ticket is of it. -/
theorem ensures_deleteTicketType (h : Working t w₀ office w)
    (stored : office.types ticketTypeId = some row) :
    (sql (.deleteTicketType ticketTypeId)).Ensures exec t Unfailing
      (Program.Then (fun _ w' => (¬ ∃ id ticket, office.tickets id = some ticket ∧
            ticket.ticketTypeId = ticketTypeId) ∧
            Working t w₀ (office.setType ticketTypeId none) w')
        fun e w' => e.isIntegrityError = true ∧
          (∃ id ticket, office.tickets id = some ticket ∧
          ticket.ticketTypeId = ticketTypeId) ∧ Working t w₀ office w') w := by
  refine ensures_sql unfailing_clean fun _ _ answer db' ran => ?_
  have read : w.db.ticketTypes.read t ticketTypeId = some row := by rw [h.ticketType, stored]
  have ran' := ran
  simp only [DbCmd.run, Database.deleteTicketType, read,
    if_pos (h.opened.unshared.2.1 ticketTypeId)] at ran'
  split at ran'
  · rename_i booked
    cases ran'
    obtain ⟨n, _, found⟩ := List.any_eq_true.mp booked
    obtain ⟨ticket, here, typed⟩ := (Option.any_eq_true _ _).mp found
    rw [h.ticket] at here
    exact ⟨rfl, ⟨_, ticket, here, of_decide_eq_true typed⟩, h⟩
  · rename_i free
    cases ran'
    rw [Bool.not_eq_true] at free
    refine ⟨?_, h.next ran not_false ?_⟩
    · rintro ⟨id, ticket, here, typed⟩
      rw [← h.ticket] at here
      exact Database.not_hasTickets free here typed
    · rw [seen_holdType (by rw [read]; rfl), h.seen]

/-! ## The services -/

omit [DecidableEq ι] in
/-- A change of a type does not show with other events. -/
theorem others_of_setType {version : Option TicketType}
    (before : ∀ row, w.db.office.types ticketTypeId = some row → row.eventId = eventId)
    (after : ∀ row, version = some row → row.eventId = eventId) (id : Int)
    (other : id ≠ eventId) :
    (w.db.office.setType ticketTypeId version).events id = w.db.office.events id ∧
      (w.db.office.setType ticketTypeId version).offer id = w.db.office.offer id := by
  refine ⟨rfl, Office.offer_setType (fun row stored same => ?_) fun row stored same => ?_⟩
  · exact other (same.symm.trans (before row stored))
  · exact other (same.symm.trans (after row stored))

/-- **`TicketTypeService.create` puts a ticket type on sale**, as the office does. -/
theorem ensures_createType {typeData : TicketTypeCreate} (h : Mirrored d w) :
    (TicketTypeService.create d eventId typeData).Ensures exec t Unfailing (fun outcome w' =>
      ∃ notes : Notes, w.db.office.types notes.id = none ∧
        Served d t w (w.db.office.addType eventId typeData notes) outcome w') w := by
  refine Program.Ensures.bind (Program.Ensures.tryCatch (Program.Ensures.bind
    ((ensures_insertTicketType (.start h.calm)).mono ?_)))
  rintro (e | id) w₁ ends
  · obtain ⟨rfl, absent, working⟩ := ends
    have free : w.db.office.types 0 = none := row_none_of_not_issued (by omega)
    have refuses : w.db.office.addType eventId typeData ⟨0, 0, []⟩ = .error
        (.integrity .fkEvent) :=
      if_pos absent
    refine (ensures_reraise (working.refused h refuses)).mono ?_
    rintro (e | _) w' served
    · exact ⟨⟨0, 0, []⟩, free, served⟩
    · exact served.elim
  obtain ⟨there, free, working⟩ := ends
  refine Program.Ensures.bind (ensures_sql unfailing_clean ?_)
  rintro _ _ _ _ ⟨⟩
  have inserted : ((w₁.db.commit t).seen t).types id = some (typeData.row eventId) := by
    rw [seen_commit, working.seen]
    exact Function.update_self ..
  refine Program.Ensures.bind (ensures_refreshTicketType inserted ?_)
  refine Program.Ensures.bind (ensures_redis unfailing_clean ?_)
  rintro _ _ _ _ ⟨⟩
  refine Program.Ensures.bind (ensures_invalidate fun w₂ same redis => ?_)
  refine ⟨⟨id, 0, []⟩, free, ?_⟩
  have adds : w.db.office.addType eventId typeData ⟨id, 0, []⟩ =
      .ok ((typeData.row eventId).response id,
          w.db.office.setType id (some (typeData.row eventId))) := by
    refine if_neg fun none => ?_
    rw [Option.isNone_iff_eq_none.mp none] at there
    cases there
  refine working.served adds same (working.published h same redis ?_ ?_ (others_of_setType ?_ ?_))
  · dsimp only
    rw [Function.update_self, working.redis]
    have fresh : (typeData.row eventId).ticketsQuantity - (typeData.row eventId).ticketsSold =
        (typeData.row eventId).ticketsQuantity := sub_zero _
    rw [← fresh]
    exact h.mirrors.write (some (typeData.row eventId))
  · dsimp only
    rw [Function.update_self, working.redis]
    exact ⟨rfl, rfl, rfl⟩
  · intro row stored
    rw [free] at stored
    cases stored
  · intro row stored
    cases stored
    rfl

/-- The flush of the changed attributes. -/
theorem ensures_flushUpdate (h : Mirrored d w)
    (stored : w.db.office.types ticketTypeId = some row) :
    (TicketTypeService.flushUpdate ticketTypeId (updateData.netChange row)).Ensures exec t Unfailing
      (Program.Then (fun _ w' => ∃ row', updateData.apply row = .ok row' ∧
          Working t w (w.db.office.setType ticketTypeId (some row')) w')
        fun e w' => ∃ violated, e = .integrity violated ∧
          updateData.apply row = .error violated ∧
          Working t w w.db.office w') w := by
  rw [← TicketTypeUpdate.apply_net]
  unfold TicketTypeService.flushUpdate
  split
  · rename_i empty
    refine ⟨row, TicketTypeUpdate.apply_of_isEmpty empty, ?_⟩
    have same : w.db.office.setType ticketTypeId (some row) = w.db.office := by
      unfold Office.setType
      rw [← stored, Function.update_eq_self]
    rw [same]
    exact .start h.calm
  · exact ensures_updateTypeRow (.start h.calm) stored

/-- The `try` block of an update. -/
theorem ensures_applyTypeUpdate (h : Mirrored d w)
    (stored : w.db.office.types ticketTypeId = some row) (given : updateData.isEmpty = false)
    (fits : TicketTypeService.tooSmall updateData.newQuantity row.ticketsSold = false) :
    (TicketTypeService.applyUpdate d ticketTypeId row updateData).Ensures exec t Unfailing
      (fun outcome w' => Served d t w (w.db.office.changeType ticketTypeId updateData)
        (outcome.map fun row => row.response ticketTypeId) w') w := by
  refine Program.Ensures.bind ((ensures_flushUpdate h stored).mono ?_)
  rintro (e | _) w₁ ends
  · obtain ⟨violated, rfl, refused, working⟩ := ends
    refine working.refused h ?_
    unfold Office.changeType
    rw [stored]
    dsimp only
    rw [given, fits, refused]
    rfl
  obtain ⟨row', applied, working⟩ := ends
  have changes : w.db.office.changeType ticketTypeId updateData =
      .ok (row'.response ticketTypeId, w.db.office.setType ticketTypeId (some row')) := by
    unfold Office.changeType
    rw [stored]
    dsimp only
    rw [given, fits, applied]
    rfl
  refine Program.Ensures.bind (ensures_sql unfailing_clean ?_)
  rintro _ _ _ _ ⟨⟩
  have changed : ((w₁.db.commit t).seen t).types ticketTypeId = some row' := by
    rw [seen_commit, working.seen]
    exact Function.update_self ..
  refine Program.Ensures.bind (ensures_refreshTicketType changed ?_)
  have event := TicketTypeUpdate.apply_event applied
  have others : ∀ id, id ≠ row'.eventId →
      (w.db.office.setType ticketTypeId (some row')).events id = w.db.office.events id ∧
        (w.db.office.setType ticketTypeId (some row')).offer id = w.db.office.offer id := by
    refine others_of_setType (fun row₀ found => ?_) fun row₀ found => ?_
    · rw [stored] at found
      cases found
      exact event.symm
    · cases found
      rfl
  cases unset : updateData.newQuantity with
  | none =>
      refine Program.Ensures.bind (ensures_invalidate fun w₂ same redis => ?_)
      refine working.served changes same (working.published h same redis ?_ ?_ others)
      · dsimp only
        rw [working.redis]
        refine h.mirrors.revise stored ?_
        rw [TicketTypeUpdate.apply_ok applied, TicketTypeUpdate.apply_quantity applied, unset]
        rfl
      · dsimp only
        rw [working.redis]
        exact ⟨rfl, rfl, rfl⟩
  | some q =>
      refine Program.Ensures.bind (ensures_redis unfailing_clean ?_)
      rintro _ _ _ _ ⟨⟩
      refine Program.Ensures.bind (ensures_invalidate fun w₂ same redis => ?_)
      refine working.served changes same (working.published h same redis ?_ ?_ others)
      · dsimp only
        rw [Function.update_self, working.redis]
        exact h.mirrors.write (some row')
      · dsimp only
        rw [Function.update_self, working.redis]
        exact ⟨rfl, rfl, rfl⟩

/-- **`TicketTypeService.update` changes a ticket type**, or refuses to as the office does. -/
theorem ensures_updateTicketType (h : Mirrored d w) :
    (TicketTypeService.update d ticketTypeId updateData).Ensures exec t Unfailing
      (Served d t w (w.db.office.changeType ticketTypeId updateData)) w := by
  have start : Working t w w.db.office w := .start h.calm
  refine Program.Ensures.bind (ensures_getTicketType start ?_)
  cases stored : w.db.office.types ticketTypeId with
  | none =>
      refine start.refused h ?_
      unfold Office.changeType
      rw [stored]
  | some row =>
      show Program.Ensures exec t Unfailing _ (if updateData.isEmpty then _ else _) w
      split
      · rename_i empty
        refine start.answered h ?_
        unfold Office.changeType
        rw [stored]
        exact if_pos empty
      rename_i given
      rw [Bool.not_eq_true] at given
      split
      · rename_i small
        refine start.refused h ?_
        unfold Office.changeType
        rw [stored]
        dsimp only
        rw [given, small]
        rfl
      rename_i fits
      rw [Bool.not_eq_true] at fits
      refine Program.Ensures.bind (Program.Ensures.tryCatch
        ((ensures_applyTypeUpdate h stored given fits).mono ?_))
      rintro (e | _) w₁ served
      · refine (ensures_reraise served).mono ?_
        rintro (e | _) w' ends
        · exact ends
        · exact ends.elim
      · exact served

/-- **`TicketTypeService.delete` takes a ticket type off sale**, or refuses to as the office
does. -/
theorem ensures_deleteType (h : Mirrored d w) :
    (TicketTypeService.delete d ticketTypeId).Ensures exec t Unfailing
      (Served d t w (w.db.office.dropType ticketTypeId)) w := by
  have start : Working t w w.db.office w := .start h.calm
  refine Program.Ensures.bind (ensures_getTicketType start ?_)
  cases stored : w.db.office.types ticketTypeId with
  | none => exact start.refused h (if_pos stored)
  | some row =>
      have there : w.db.office.types ticketTypeId ≠ none := fun none => by
        rw [stored] at none
        cases none
      refine Program.Ensures.tryCatch (Program.Ensures.bind
        ((ensures_deleteTicketType start stored).mono ?_))
      rintro (e | _) w₁ ends
      · obtain ⟨integrity, booked, working⟩ := ends
        have refuses : w.db.office.dropType ticketTypeId = .error (.domain .ticketTypeDeleteError
            "Cannot delete ticket type with existing tickets") :=
          (if_neg there).trans (if_pos booked)
        show (TicketTypeService.refuseDelete e).Ensures exec t Unfailing _ w₁
        unfold TicketTypeService.refuseDelete
        rw [if_pos integrity]
        refine Program.Ensures.bind (ensures_sql unfailing_clean ?_)
        rintro _ _ _ _ ⟨⟩
        show Done d w _ _ { w₁ with db := (w₁.db.rollback t).rollback t }
        rw [rollback_rollback]
        exact working.refused h refuses
      · obtain ⟨free, working⟩ := ends
        have drops : w.db.office.dropType ticketTypeId =
            .ok ((), w.db.office.setType ticketTypeId none) :=
          (if_neg there).trans (if_neg free)
        refine Program.Ensures.bind (ensures_sql unfailing_clean ?_)
        rintro _ _ _ _ ⟨⟩
        refine Program.Ensures.bind (ensures_redis unfailing_clean ?_)
        rintro _ _ _ _ ⟨⟩
        refine ensures_invalidate fun w₂ same redis => ?_
        refine working.served drops same
          (working.published h same redis ?_ ?_ (others_of_setType ?_ ?_))
        · dsimp only
          rw [Function.update_self, working.redis]
          exact h.mirrors.write none
        · dsimp only
          rw [Function.update_self, working.redis]
          exact ⟨rfl, rfl, rfl⟩
        · intro row' found
          rw [stored] at found
          cases found
          rfl
        · intro row' found
          cases found

/-- `TicketTypeService.get` shows a ticket type with its count. -/
theorem ensures_getType (h : Mirrored d w) :
    (TicketTypeService.get ticketTypeId).Ensures exec t Unfailing
      (Served d t w (w.db.office.showType ticketTypeId)) w := by
  have start : Working t w w.db.office w := .start h.calm
  refine Program.Ensures.bind (ensures_getTicketType start ?_)
  cases stored : w.db.office.types ticketTypeId with
  | none =>
      refine start.refused h ?_
      unfold Office.showType
      rw [stored]
  | some row =>
      refine start.answered h ?_
      unfold Office.showType
      rw [stored]

/-- `TicketTypeService.get_all_for_event` shows a page of the ticket types of an event. -/
theorem ensures_getTypes {offset limit : Int} (h : Mirrored d w) :
    (TicketTypeService.getAllForEvent eventId offset limit).Ensures exec t Unfailing
      (fun outcome w' =>
      ∃ notes : Notes, Enumerates w.db.office.types
        (fun row => row.eventId = eventId) notes.order ∧
        Served d t w (.ok (w.db.office.showTypes offset limit notes, w.db.office))
          outcome w') w := by
  refine Program.Ensures.bind (ensures_sql unfailing_clean fun _ rows _ _ ran => ?_)
  cases ran
  have types : w.db.ticketTypes.read t = w.db.office.types := read_calm h.calm.quiet.2
  refine ⟨⟨0, 0, arrange rows
    (Database.idsSeen w.db.ticketTypes t fun row => row.eventId = eventId)⟩,
    ?_, (Working.start h.calm).answered h ?_⟩
  · rw [← types]
    exact enumerates_scan rows
  · unfold Office.showTypes
    rw [← types]
    exact congrArg (fun shown => Except.ok (shown, w.db.office))
        (map_rowsAt fun row : Int × TicketType =>
      row.2.response row.1).symm

end TicketCore
