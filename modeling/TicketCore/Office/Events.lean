import TicketCore.Office.TicketTypes

/-!
# Events of the office

The calls of `EventService`, each to its end: outcome and tables are those of `Office.addEvent`,
`Office.changeEvent` and `Office.dropEvent`. What is read of events comes from the caches, if it is
there, and is what `Office.showEvent` and `Office.showEvents` show.
-/

namespace TicketCore

open Interleave RowStore

/-! ## Changes without net effect -/

namespace EventUpdate

variable {data : EventUpdate} {event : Event}

theorem setAttributes_net :
    (data.netChange event).setAttributes event = data.setAttributes event := by
  have title : (data.netChange event).title.join.getD event.title =
      data.title.join.getD event.title :=
    getD_netField
  have date : (data.netChange event).date.join.getD event.date = data.date.join.getD event.date :=
    getD_netField
  have country : (data.netChange event).country.join.getD event.country =
      data.country.join.getD event.country := getD_netField
  have city : (data.netChange event).city.join.getD event.city = data.city.join.getD event.city :=
    getD_netField
  have street : (data.netChange event).streetAddress.join.getD event.streetAddress =
      data.streetAddress.join.getD event.streetAddress := getD_netField
  unfold setAttributes
  rw [title, date, country, city, street]

theorem nullColumn_net : (data.netChange event).nullColumn = data.nullColumn := by
  have title : ((data.netChange event).title = some none) = (data.title = some none) :=
    propext netField_eq_null
  have date : ((data.netChange event).date = some none) = (data.date = some none) :=
    propext netField_eq_null
  have country : ((data.netChange event).country = some none) = (data.country = some none) :=
    propext netField_eq_null
  have city : ((data.netChange event).city = some none) = (data.city = some none) :=
    propext netField_eq_null
  have street : ((data.netChange event).streetAddress = some none) =
      (data.streetAddress = some none) :=
    propext netField_eq_null
  unfold nullColumn
  simp only [title, date, country, city, street]

theorem apply_net : (data.netChange event).apply event = data.apply event := by
  unfold apply
  rw [nullColumn_net, setAttributes_net]

theorem apply_of_isEmpty (empty : data.isEmpty = true) : data.apply event = .ok event := by
  unfold isEmpty at empty
  simp only [Bool.and_eq_true, Option.isNone_iff_eq_none] at empty
  obtain ⟨⟨⟨⟨title, date⟩, country⟩, city⟩, street⟩ := empty
  have null : data.nullColumn = none := by
    unfold nullColumn
    rw [title, date, country, city, street]
    rfl
  have same : data.setAttributes event = event := by
    unfold setAttributes
    rw [title, date, country, city, street]
    rfl
  unfold apply
  rw [null, same]

end EventUpdate

variable {ι : Type} [DecidableEq ι] {d : Deployment} {t : ι} {w w₀ w₁ w' : World ι}
  {office : Office} {eventId id : Int} {event : Event} {updateData : EventUpdate}

/-! ## Statements -/

/-- An event is inserted. -/
theorem ensures_insertEvent {eventData : EventCreate} (h : Working t w₀ office w)
    {post : Except Exn Int → World ι → Prop} (next : ∀ id w', office.events id = none →
      Working t w₀ (office.setEvent id (some eventData.row)) w' → post (.ok id) w') :
    (sql (.insertEvent eventData)).Ensures exec t Unfailing post w := by
  refine ensures_sql unfailing_clean fun _ _ answer db' ran => ?_
  have ran' := ran
  cases ran'
  refine next _ _ ?_ (h.next ran not_false ?_)
  · rw [← h.event, read_of_not_held heldBy_next, row_next]
  · rw [← h.seen]
    unfold Database.seen Office.setEvent
    rw [read_insert]

/-- `db.refresh` of an event that is there. -/
theorem ensures_refreshEvent (there : (w.db.seen t).events id = some event)
    {post : Except Exn Event → World ι → Prop} (next : post (.ok event) w) :
    (sql (.refreshEvent id)).Ensures exec t Unfailing post w := by
  refine ensures_sql unfailing_clean fun _ _ answer db' ran => ?_
  have there : w.db.events.read t id = some event := there
  simp only [DbCmd.run, there] at ran
  cases ran
  exact next

/-- An event is looked up with its ticket types. -/
theorem ensures_getEvent (h : Working t w₀ office w)
    {post : Except Exn (Option (Event × List (Int × TicketType))) → World ι → Prop}
    (absent : office.events eventId = none → post (.ok none) w)
    (found : ∀ event order, office.events eventId = some event →
      Enumerates office.types (fun row => row.eventId = eventId) order →
      post (.ok (some (event, Database.rowsAt w.db.ticketTypes t order))) w) :
    (EventRepository.get eventId).Ensures exec t Unfailing post w := by
  refine Program.Ensures.bind (ensures_sql unfailing_clean ?_)
  rintro _ _ _ _ ⟨⟩
  dsimp only [Program.Then]
  rw [h.event]
  cases stored : office.events eventId with
  | none => exact absent stored
  | some event =>
      refine Program.Ensures.bind (ensures_sql unfailing_clean ?_)
      rintro _ order _ _ ⟨⟩
      refine found event _ stored ?_
      rw [← h.ticketType]
      exact enumerates_scan order

/-- An event that is there is changed. -/
theorem ensures_updateEventRow (h : Working t w₀ office w)
    (stored : office.events eventId = some event) :
    (sql (.updateEvent eventId updateData)).Ensures exec t Unfailing
      (Program.Then (fun _ w' => ∃ event', updateData.apply event = .ok event' ∧
          Working t w₀ (office.setEvent eventId (some event')) w')
        fun e w' => ∃ violated, e = .integrity violated ∧
          updateData.apply event = .error violated ∧
          Working t w₀ office w') w := by
  refine ensures_sql unfailing_clean fun _ _ answer db' ran => ?_
  have read : w.db.events.read t eventId = some event := by rw [h.event, stored]
  have ran' := ran
  simp only [DbCmd.run, Database.updateEvent, read, if_pos (h.opened.unshared.2.2 eventId)] at ran'
  split at ran'
  · rename_i event' applied
    cases ran'
    refine ⟨event', applied, h.next ran not_false ?_⟩
    rw [seen_holdEvent (by rw [read]; rfl), h.seen]
  · rename_i violated refused
    cases ran'
    exact ⟨violated, rfl, refused, h⟩

/-- An event that is there is deleted, if it has no ticket types. -/
theorem ensures_deleteEventRow {order : List Int} (h : Working t w₀ office w)
    (stored : office.events eventId = some event)
    (types : Enumerates office.types (fun row => row.eventId = eventId) order) :
    (EventRepository.delete eventId (Database.rowsAt w.db.ticketTypes t order)).Ensures
      exec t Unfailing
      (Program.Then (fun _ w' =>
        (¬ ∃ id row, office.types id = some row ∧ row.eventId = eventId) ∧
          Working t w₀ (office.setEvent eventId none) w')
        fun e w' => e = .domain .eventDeleteError "Cannot delete event with existing tickets" ∧
          (∃ id row, office.types id = some row ∧ row.eventId = eventId) ∧
          Working t w₀ office w') w := by
  have read : w.db.events.read t eventId = some event := by rw [h.event, stored]
  have reads : w.db.ticketTypes.read t = office.types := h.ticketType
  have listed : ∀ id ∈ order, ∃ row, office.types id = some row ∧ row.eventId = eventId :=
    fun id mem => by
    obtain ⟨row, found, own⟩ := (Option.any_eq_true _ _).mp ((types.2 id).mp mem)
    exact ⟨row, found, of_decide_eq_true own⟩
  have ids : (Database.rowsAt w.db.ticketTypes t order).map Prod.fst = order := by
    rw [map_rowsAt, reads]
    refine (List.filterMap_congr fun id mem => ?_).trans List.filterMap_some
    obtain ⟨row, found, _⟩ := listed id mem
    rw [found]
    rfl
  refine Program.Ensures.tryCatch (ensures_sql unfailing_clean fun _ _ answer db' ran => ?_)
  rw [ids] at ran
  have next := h.next ran not_false rfl
  cases order with
  | cons id rest =>
      obtain ⟨row, found, own⟩ := listed id (List.mem_cons_self ..)
      have seen : (w.db.ticketTypes.read t id).isSome = true := by rw [reads, found]; rfl
      have first : (id :: rest).find?
          (fun typeId => (w.db.ticketTypes.read t typeId).isSome) = some id :=
        List.find?_cons_of_pos seen
      simp only [DbCmd.run, Database.deleteEvent, first, if_pos (h.opened.unshared.2.1 id)] at ran
      cases ran
      exact ⟨rfl, ⟨id, row, found, own⟩, h⟩
  | nil =>
      have free : ¬ ∃ id row, office.types id = some row ∧ row.eventId = eventId := by
        rintro ⟨id, row, found, own⟩
        refine List.not_mem_nil ((types.2 id).mpr ?_)
        rw [found]
        exact decide_eq_true own
      have settled : ¬ (¬ w.db.events.Free t eventId ∨ (serials w.db.ticketTypes.issued).filter
          (fun typeId => w.db.InFlux t eventId typeId) ≠ ∅) := by
        rintro (locked | flux)
        · exact locked (h.opened.unshared.2.2 eventId)
        · refine flux (Finset.filter_eq_empty_iff.mpr fun id _ moving => ?_)
          obtain ⟨lock, held, other, _⟩ := moving
          exact other (h.opened.unshared.2.1 id lock held)
      have none : ¬ Database.idsSeen w.db.ticketTypes t
          (fun row => row.eventId = eventId) ≠ [] := by
        refine not_not.mpr (List.eq_nil_iff_forall_not_mem.mpr fun id mem => free ?_)
        obtain ⟨row, found, own⟩ := (Option.any_eq_true _ _).mp (List.mem_filter.mp mem).2
        rw [reads] at found
        exact ⟨id, row, found, of_decide_eq_true own⟩
      simp only [DbCmd.run, Database.deleteEvent, List.find?_nil, read, if_neg settled, if_neg none]
        at ran
      cases ran
      refine ⟨free, next.opened, ?_, next.redis⟩
      rw [seen_holdEvent (by rw [read]; rfl), h.seen]

/-! ## The services -/

omit [DecidableEq ι] in
/-- A change of an event does not show with other events. -/
theorem others_of_setEvent {version : Option Event} (id : Int) (other : id ≠ eventId) :
    (w.db.office.setEvent eventId version).events id = w.db.office.events id ∧
      (w.db.office.setEvent eventId version).offer id = w.db.office.offer id :=
  ⟨Function.update_of_ne other .., rfl⟩

theorem ensures_invalidateEvent {post : Except Exn Unit → World ι → Prop}
    (next : ∀ w', w'.db = w.db →
      w'.redis d.apiRedis = (w.redis d.apiRedis).invalidated eventId →
      post (.ok ()) w') :
    (CachedEventRepository.invalidateEvent d eventId).Ensures exec t Unfailing post w :=
  ensures_invalidate next

/-- What is committed of an event leaves ticket types and tickets as they are. -/
theorem Working.announced {version : Option Event}
    (h : Working t w (w.db.office.setEvent eventId version) w₁) (before : Mirrored d w)
    (same : w'.db = w₁.db.commit t)
    (redis : w'.redis d.apiRedis = (w₁.redis d.apiRedis).invalidated eventId) :
    Mirrored d w' := by
  rw [h.redis] at redis
  exact h.published before same redis before.mirrors ⟨rfl, rfl, rfl⟩ others_of_setEvent

/-- **`EventService.create` announces an event**, as the office does. -/
theorem ensures_createEvent {eventData : EventCreate} (h : Mirrored d w) :
    (EventService.create d eventData).Ensures exec t Unfailing (fun outcome w' => ∃ notes : Notes,
      w.db.office.events notes.id = none ∧
        Served d t w (.ok (w.db.office.addEvent eventData notes)) outcome w') w := by
  refine Program.Ensures.bind (Program.Ensures.tryCatch (Program.Ensures.bind (Program.Ensures.bind
    (ensures_insertEvent (.start h.calm) fun id w₁ free working => ?_))))
  have inserted : (w₁.db.seen t).events id = some eventData.row := by
    rw [working.seen]
    exact Function.update_self ..
  refine Program.Ensures.bind (ensures_refreshEvent inserted ?_)
  refine Program.Ensures.bind (ensures_sql unfailing_clean ?_)
  rintro _ _ _ _ ⟨⟩
  refine Program.Ensures.bind (ensures_invalidateEvent fun w₂ same redis => ?_)
  exact ⟨⟨id, 0, []⟩, free, working.served rfl same (working.announced h same redis)⟩

/-- The flush of the changed attributes. -/
theorem ensures_flushEventUpdate (h : Mirrored d w)
    (stored : w.db.office.events eventId = some event) :
    (EventRepository.flushUpdate eventId (updateData.netChange event)).Ensures exec t Unfailing
      (Program.Then (fun _ w' => ∃ event', updateData.apply event = .ok event' ∧
          Working t w (w.db.office.setEvent eventId (some event')) w')
        fun e w' => ∃ violated, e = .integrity violated ∧
          updateData.apply event = .error violated ∧
          Working t w w.db.office w') w := by
  rw [← EventUpdate.apply_net]
  unfold EventRepository.flushUpdate
  split
  · rename_i empty
    refine ⟨event, EventUpdate.apply_of_isEmpty empty, ?_⟩
    have same : w.db.office.setEvent eventId (some event) = w.db.office := by
      unfold Office.setEvent
      rw [← stored, Function.update_eq_self]
    rw [same]
    exact .start h.calm
  · exact ensures_updateEventRow (.start h.calm) stored

/-- **`EventService.update` changes an event**, or refuses to as the office does. -/
theorem ensures_changeEvent (h : Mirrored d w) :
    (EventService.update d eventId updateData).Ensures exec t Unfailing
      (Served d t w (w.db.office.changeEvent eventId updateData)) w := by
  have start : Working t w w.db.office w := .start h.calm
  refine Program.Ensures.bind
    (ensures_getEvent start (fun absent => ?_) fun event order stored _ => ?_)
  · refine start.refused h ?_
    unfold Office.changeEvent
    rw [absent]
  show Program.Ensures exec t Unfailing _ (if updateData.isEmpty then _ else _) w
  split
  · rename_i empty
    refine start.answered h ?_
    unfold Office.changeEvent
    rw [stored]
    exact if_pos empty
  rename_i given
  refine Program.Ensures.tryCatch (Program.Ensures.bind (Program.Ensures.bind
    ((ensures_flushEventUpdate h stored).mono ?_)))
  rintro (e | _) w₁ ends
  · obtain ⟨violated, rfl, refused, working⟩ := ends
    refine ensures_rollback (working.refused h ?_)
    unfold Office.changeEvent
    rw [stored]
    dsimp only
    rw [if_neg given, refused]
  obtain ⟨event', applied, working⟩ := ends
  have changes : w.db.office.changeEvent eventId updateData =
      .ok (event'.response eventId, w.db.office.setEvent eventId (some event')) := by
    unfold Office.changeEvent
    rw [stored]
    dsimp only
    rw [if_neg given, applied]
  have changed : (w₁.db.seen t).events eventId = some event' := by
    rw [working.seen]
    exact Function.update_self ..
  refine Program.Ensures.bind (ensures_refreshEvent changed ?_)
  refine Program.Ensures.bind (ensures_sql unfailing_clean ?_)
  rintro _ _ _ _ ⟨⟩
  refine Program.Ensures.bind (ensures_sql unfailing_clean ?_)
  rintro _ _ _ _ ⟨⟩
  refine Program.Ensures.bind (ensures_invalidateEvent fun w₂ same redis => ?_)
  have attributes : updateData.setAttributes event = event' := by
    unfold EventUpdate.apply at applied
    split at applied
    · cases applied
    · exact Except.ok.inj applied
  show Served d t w _ (.ok ((updateData.setAttributes event).response eventId)) w₂
  rw [attributes]
  exact working.served changes same (working.announced h same redis)

/-- **`EventService.delete` calls an event off**, or refuses to as the office does. -/
theorem ensures_deleteEvent (h : Mirrored d w) :
    (EventService.delete d eventId).Ensures exec t Unfailing
      (Served d t w (w.db.office.dropEvent eventId)) w := by
  have start : Working t w w.db.office w := .start h.calm
  refine Program.Ensures.bind
    (ensures_getEvent start (fun absent => ?_) fun event order stored types => ?_)
  · exact start.refused h (if_pos absent)
  have there : w.db.office.events eventId ≠ none := fun none => by
    rw [stored] at none
    cases none
  refine Program.Ensures.tryCatch (Program.Ensures.bind
    ((ensures_deleteEventRow start stored types).mono ?_))
  rintro (e | _) w₁ ends
  · obtain ⟨rfl, typed, working⟩ := ends
    exact working.refused h ((if_neg there).trans (if_pos typed))
  · obtain ⟨free, working⟩ := ends
    refine Program.Ensures.bind (ensures_sql unfailing_clean ?_)
    rintro _ _ _ _ ⟨⟩
    refine ensures_invalidateEvent fun w₂ same redis => ?_
    exact working.served ((if_neg there).trans (if_neg free)) same (working.announced h same redis)

/-! ## What is read through the caches -/

omit [DecidableEq ι] in
/-- What is stored in the caches leaves the rest of Redis as it is. -/
theorem Mirrored.of_caches {r : RedisDb} (h : Mirrored d w) (caches : w.db.office.Caches r)
    (same : r.inventory = (w.redis d.apiRedis).inventory ∧
      r.canceledTickets = (w.redis d.apiRedis).canceledTickets ∧
      r.activeReservations = (w.redis d.apiRedis).activeReservations) :
    Mirrored d { w with redis := Function.update w.redis d.apiRedis r } := by
  obtain ⟨inventory, processed, entries⟩ := same
  refine ⟨h.calm, ?_, ?_⟩
  · rw [redis_update]
    refine ⟨fun id k counter => ?_, fun id mem => ?_, fun entry mem => ?_⟩
    · rw [inventory] at counter
      exact h.mirrors.counters id k counter
    · rw [processed] at mem
      exact h.mirrors.processed id mem
    · rw [entries] at mem
      exact h.mirrors.entries entry mem
  · rw [redis_update]
    exact caches

/-- The rows of an event's ticket types are what is offered of them. -/
theorem offers_of_enumerates {order : List Int}
    (types : Enumerates office.types (fun row => row.eventId = eventId) order)
    (h : Working t w₀ office w) :
    (Database.rowsAt w.db.ticketTypes t order).map (fun (typeId, row) => row.response typeId) =
      order.filterMap (office.offer eventId) := by
  refine (map_rowsAt fun row : Int × TicketType => row.2.response row.1).trans ?_
  refine List.filterMap_congr fun id mem => ?_
  obtain ⟨row, found, own⟩ := (Option.any_eq_true _ _).mp ((types.2 id).mp mem)
  unfold Office.offer
  rw [h.ticketType, found, Option.filter_some, if_pos own]

/-- **`CachedEventRepository.get` answers what the office shows**, from the cache or not. -/
theorem ensures_showEvent (h : Mirrored d w) :
    (EventService.get d eventId).Ensures exec t Unfailing (fun outcome w' => ∃ notes : Notes,
      Enumerates w.db.office.types (fun row => row.eventId = eventId) notes.order ∧
        Served d t w (w.db.office.showEvent eventId notes) outcome w') w := by
  have start : Working t w w.db.office w := .start h.calm
  refine Program.Ensures.bind (ensures_redis unfailing_clean ?_)
  rintro _ _ _ _ ⟨⟩
  dsimp only [Program.Then]
  rw [Function.update_eq_self]
  cases stored : (w.redis d.apiRedis).eventStatic eventId with
  | some cached =>
      obtain ⟨notes, types, shown⟩ := h.caches.details eventId cached stored
      exact ⟨notes, types, start.answered h shown⟩
  | none =>
      refine Program.Ensures.bind
        (ensures_getEvent start (fun absent => ?_) fun event order found types => ?_)
      · have all : Enumerates (w.db.ticketTypes.read t) (fun row => row.eventId = eventId) _ :=
          enumerates_scan []
        rw [start.ticketType] at all
        refine ⟨⟨0, 0, _⟩, all, start.refused h ?_⟩
        unfold Office.showEvent
        rw [absent]
      refine Program.Ensures.bind (ensures_redis unfailing_clean ?_)
      rintro clock _ _ _ ⟨⟩
      have shown : w.db.office.showEvent eventId ⟨0, 0, order⟩ =
          .ok (event.detailResponse eventId (Database.rowsAt w.db.ticketTypes t order),
              w.db.office) := by
        unfold Office.showEvent Event.detailResponse
        rw [found, offers_of_enumerates types start]
      have caches : w.db.office.Caches ((w.redis d.apiRedis).setEventStatic eventId (some
          ⟨event.detailResponse eventId (Database.rowsAt w.db.ticketTypes t order),
            deadlineOf clock RedisKeys.ttlStatic24h⟩)) := h.caches.fillDetail types shown
      have filled := h.of_caches caches ⟨rfl, rfl, rfl⟩
      exact ⟨⟨0, 0, order⟩, types,
        ((Working.start filled.calm).answered filled shown).of_db rfl⟩

/-- The key of a page carries the version of the lists, which it gives a first one if there is
none. -/
theorem ensures_eventList {offset limit : Int} (h : Mirrored d w)
    {post : Except Exn ListKey → World ι → Prop}
    (next : ∀ version w', Mirrored d w' → w'.db = w.db →
      (w'.redis d.apiRedis).eventListVersion = some version →
      post (.ok ⟨version, offset, limit⟩) w') :
    (RedisKeys.eventList d offset limit).Ensures exec t Unfailing post w := by
  refine Program.Ensures.bind (ensures_redis unfailing_clean ?_)
  rintro _ _ _ _ ⟨⟩
  dsimp only [Program.Then]
  rw [Function.update_eq_self]
  cases current : (w.redis d.apiRedis).eventListVersion with
  | some version => exact next version w h rfl current
  | none =>
      refine Program.Ensures.bind (ensures_redis unfailing_clean ?_)
      rintro _ _ _ _ ⟨⟩
      refine next 1 _ (h.of_caches (h.caches.firstVersion current) ⟨rfl, rfl, rfl⟩) rfl ?_
      rw [redis_update]

/-- **`CachedEventRepository.get_all` answers what the office shows**, from the cache or not. -/
theorem ensures_showEvents {offset limit : Int} (h : Mirrored d w) :
    (EventService.getAll d offset limit).Ensures exec t Unfailing
      (fun outcome w' => ∃ notes : Notes,
      Enumerates w.db.office.events (fun _ => true) notes.order ∧
        Served d t w (.ok (w.db.office.showEvents offset limit notes, w.db.office))
          outcome w') w := by
  refine Program.Ensures.bind (ensures_eventList h fun version w₁ mirrored same current => ?_)
  rw [← same]
  have start : Working t w₁ w₁.db.office w₁ := .start mirrored.calm
  refine Program.Ensures.bind (ensures_redis unfailing_clean ?_)
  rintro _ _ _ _ ⟨⟩
  dsimp only [Program.Then]
  rw [Function.update_eq_self]
  cases stored : (w₁.redis d.apiRedis).eventLists ⟨version, offset, limit⟩ with
  | some cached =>
      obtain ⟨newest, here, _, shown⟩ := mirrored.caches.lists _ cached stored
      rw [current] at here
      obtain ⟨notes, events, value⟩ := shown (Option.some.inj here)
      refine ⟨notes, events, (start.answered mirrored ?_).of_db same⟩
      rw [← value]
  | none =>
      refine Program.Ensures.bind (ensures_sql unfailing_clean fun _ rows _ _ ran => ?_)
      cases ran
      refine Program.Ensures.bind (ensures_redis unfailing_clean ?_)
      rintro clock _ _ _ ⟨⟩
      have events : Enumerates w₁.db.office.events (fun _ => true)
          (arrange rows (Database.idsSeen w₁.db.events t fun _ => true)) := by
        rw [← start.event]
        exact enumerates_scan rows
      have shown : ((Database.page w₁.db.events t rows (fun _ => true) offset limit).map
          fun row => row.2.response row.1) = w₁.db.office.showEvents offset limit
            ⟨0, 0, arrange rows (Database.idsSeen w₁.db.events t fun _ => true)⟩ := by
        unfold Office.showEvents
        rw [← start.event]
        exact map_rowsAt fun row : Int × Event => row.2.response row.1
      have caches : w₁.db.office.Caches
          ((w₁.redis d.apiRedis).setEventList ⟨version, offset, limit⟩
          (some ⟨_, deadlineOf clock RedisKeys.ttlLists1h⟩)) :=
        mirrored.caches.fillList current events shown
      have filled := mirrored.of_caches caches ⟨rfl, rfl, rfl⟩
      refine ⟨⟨0, 0, arrange rows (Database.idsSeen w₁.db.events t fun _ => true)⟩,
        events, ?_⟩
      rw [← shown]
      exact ((Working.start filled.calm).answered filled rfl).of_db same

end TicketCore
