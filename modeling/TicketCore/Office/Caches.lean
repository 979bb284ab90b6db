import TicketCore.Office

/-!
# The caches of the office

An answer about events may be kept in Redis: the detail of an event under its id, a page of the
events under the version of the lists. `Caches` says that what is kept is an answer that the office
would give.

* `Caches.of_offers` is for changes that no such answer shows, like a ticket more or less.
* `Caches.invalidate` is for changes of one event: its entry is dropped, and the version counts up.
* `Caches.forget` is for what Redis has lost.
-/

namespace TicketCore

/-- What Redis has cached is what the office answers. -/
structure Office.Caches (office : Office) (r : RedisDb) : Prop where
  details : ∀ eventId cached, r.eventStatic eventId = some cached →
    ∃ notes : Notes, Enumerates office.types (fun row => row.eventId = eventId) notes.order ∧
      office.showEvent eventId notes = .ok (cached.value, office)
  lists : ∀ key cached, r.eventLists key = some cached →
      ∃ version, r.eventListVersion = some version ∧
    key.version ≤ version ∧ (key.version = version → ∃ notes : Notes,
      Enumerates office.events (fun _ => true) notes.order ∧
        cached.value = office.showEvents key.offset key.limit notes)

/-- Two offices offer the same. -/
structure Office.Offers (office office' : Office) : Prop where
  events : office'.events = office.events
  offer : office'.offer = office.offer

/-- The cached answers of two Redis databases are the same. -/
structure RedisDb.SameCaches (r r' : RedisDb) : Prop where
  eventStatic : r'.eventStatic = r.eventStatic
  eventListVersion : r'.eventListVersion = r.eventListVersion
  eventLists : r'.eventLists = r.eventLists

/-- A Redis database that has lost keys. The version of the lists may go, or change, only together
with all the lists that are cached: a version that is counted up again must not find old lists. -/
structure RedisDb.Forgets (r r' : RedisDb) : Prop where
  inventory : ∀ id, r'.inventory id = none ∨ r'.inventory id = r.inventory id
  canceledTickets : r'.canceledTickets ⊆ r.canceledTickets
  activeReservations : r'.activeReservations ⊆ r.activeReservations
  eventStatic : ∀ id, r'.eventStatic id = none ∨ r'.eventStatic id = r.eventStatic id
  eventLists : ∀ key, r'.eventLists key = none ∨
    (r'.eventLists key = r.eventLists key ∧ r'.eventListVersion = r.eventListVersion)

theorem RedisDb.SameCaches.safeIncr {r r' : RedisDb} {ticketTypeId : Int} {field : String}
    (h : r.SameCaches r') : r.SameCaches ((r'.safeIncrScript ticketTypeId).hdel field) := by
  unfold safeIncrScript
  split
  · exact ⟨h.eventStatic, h.eventListVersion, h.eventLists⟩
  · exact ⟨h.eventStatic, h.eventListVersion, h.eventLists⟩

namespace Office

variable {office office' : Office} {r r' : RedisDb} {eventId ticketTypeId delta : Int}
  {row row' : TicketType}

theorem Offers.refl : office.Offers office := ⟨rfl, rfl⟩

theorem Offers.trans {office'' : Office} (h : office.Offers office')
    (h' : office'.Offers office'') :
    office.Offers office'' :=
  ⟨h'.events.trans h.events, h'.offer.trans h.offer⟩

/-- What is offered of an event is its types. -/
theorem offer_isSome : (office.offer eventId ticketTypeId).isSome =
    (office.types ticketTypeId).any fun row => row.eventId = eventId := by
  unfold offer
  cases office.types ticketTypeId with
  | none => rfl
  | some row =>
      by_cases same : row.eventId = eventId
      · rw [Option.filter_some, if_pos (decide_eq_true same)]
        exact (decide_eq_true same).symm
      · rw [Option.filter_some, if_neg (by simpa using same)]
        exact (decide_eq_false same).symm

/-- The entry of an event depends on the event and on what is offered of it. -/
theorem showEvent_congr {answer : EventDetailResponse} {notes : Notes}
    (shown : office.showEvent eventId notes = .ok (answer, office))
    (order : Enumerates office.types (fun row => row.eventId = eventId) notes.order)
    (event : office'.events eventId = office.events eventId)
    (offer : office'.offer eventId = office.offer eventId) :
    Enumerates office'.types (fun row => row.eventId = eventId) notes.order ∧
      office'.showEvent eventId notes = .ok (answer, office') := by
  refine ⟨⟨order.1, fun id => ?_⟩, ?_⟩
  · rw [order.2, ← offer_isSome, ← offer_isSome, offer]
  · unfold showEvent at shown ⊢
    rw [event, offer]
    cases stored : office.events eventId with
    | none =>
        rw [stored] at shown
        cases shown
    | some event =>
        rw [stored] at shown
        cases shown
        rfl

/-- A type whose row is no other to its event is offered the same. -/
theorem Offers.of_types (events : office'.events = office.events)
    (types : ∀ id, Option.Rel (fun row row' : TicketType => row'.response id = row.response id)
      (office.types id) (office'.types id)) : office.Offers office' where
  events := events
  offer := by
    funext eventId id
    unfold Office.offer
    have rel := types id
    revert rel
    generalize office.types id = before
    generalize office'.types id = after
    intro rel
    cases rel with
    | none => rfl
    | @some row row' same =>
        have event : row'.eventId = row.eventId := congrArg TicketTypeResponse.eventId same
        by_cases own : row.eventId = eventId
        · rw [Option.filter_some, Option.filter_some, if_pos (decide_eq_true own),
            if_pos (decide_eq_true (event.trans own)), Option.map_some, Option.map_some, same]
        · rw [Option.filter_some, Option.filter_some, if_neg (by rw [event]; simpa using own),
            if_neg (by simpa using own)]

theorem addTicketsSold_response (changed : row.addTicketsSold delta = .ok row') (id : Int) :
    row'.response id = row.response id := by
  unfold TicketType.addTicketsSold at changed
  split at changed
  · split at changed
    · cases changed
      rfl
    · cases changed
  · cases changed

/-- A count that moves is offered the same. -/
theorem offers_of_count (counted : office.count ticketTypeId delta = .ok office') :
    office.Offers office' := by
  have same : ∀ id, Option.Rel (fun row row' : TicketType => row'.response id = row.response id)
      (office.types id) (office.types id) := fun id => by
    cases office.types id with
    | none => exact .none
    | some row => exact .some rfl
  unfold count at counted
  split at counted
  · cases counted
    exact .refl
  · rename_i row stored
    split at counted
    · rename_i row' changed
      cases counted
      refine .of_types rfl fun id => ?_
      by_cases own : id = ticketTypeId
      · subst own
        unfold setType
        dsimp only
        rw [stored, Function.update_self]
        exact .some (addTicketsSold_response changed id)
      · unfold setType
        dsimp only
        rw [Function.update_of_ne own]
        exact same id
    · cases counted

/-- A change of one type is offered the same with all events that it is not of. -/
theorem offer_setType {version : Option TicketType}
    (before : ∀ row, office.types ticketTypeId = some row →
      row.eventId ≠ eventId) (after : ∀ row, version = some row → row.eventId ≠ eventId) :
    (office.setType ticketTypeId version).offer eventId = office.offer eventId := by
  have none : ∀ version : Option TicketType,
      (∀ row, version = some row → row.eventId ≠ eventId) →
      version.filter (fun row => row.eventId = eventId) = none := fun version other => by
    cases version with
    | none => rfl
    | some row =>
        rw [Option.filter_some]
        exact if_neg (by simpa using other row rfl)
  funext id
  unfold offer setType
  dsimp only
  by_cases own : id = ticketTypeId
  · subst own
    rw [Function.update_self, none _ after, none _ before]
  · rw [Function.update_of_ne own]

namespace Caches

/-- Nothing is cached. -/
theorem of_empty (details : ∀ id, r.eventStatic id = none)
    (lists : ∀ key, r.eventLists key = none) :
    office.Caches r where
  details id cached stored := by
    rw [details] at stored
    cases stored
  lists key cached stored := by
    rw [lists] at stored
    cases stored

/-- The same is cached, and the same is offered. -/
theorem of_offers (h : office.Caches r) (same : r.SameCaches r') (offers : office.Offers office') :
    office'.Caches r' where
  details id cached stored := by
    rw [same.eventStatic] at stored
    obtain ⟨notes, order, shown⟩ := h.details id cached stored
    exact ⟨notes, showEvent_congr shown order (by rw [offers.events]) (by rw [offers.offer])⟩
  lists key cached stored := by
    rw [same.eventLists] at stored
    rw [same.eventListVersion]
    obtain ⟨version, current, le, shown⟩ := h.lists key cached stored
    refine ⟨version, current, le, fun now => ?_⟩
    obtain ⟨notes, order, value⟩ := shown now
    unfold showEvents at value ⊢
    rw [offers.events]
    exact ⟨notes, order, value⟩

/-- **One event changes**: its entry is dropped, and the lists are left behind. -/
theorem invalidate {version : Int} (h : office.Caches r)
    (others : ∀ id, id ≠ eventId →
      office'.events id = office.events id ∧ office'.offer id = office.offer id)
    (counted : version = r.eventListVersion.getD 0 + 1) :
    office'.Caches { r.setEventStatic eventId none with eventListVersion := some version } where
  details id cached stored := by
    by_cases same : id = eventId
    · subst same
      have gone : (r.setEventStatic id none).eventStatic id = none := Function.update_self ..
      cases gone.symm.trans stored
    · have stored : r.eventStatic id = some cached :=
        (Function.update_of_ne same _ _).symm.trans stored
      obtain ⟨notes, order, shown⟩ := h.details id cached stored
      exact ⟨notes, showEvent_congr shown order (others id same).1 (others id same).2⟩
  lists key cached stored := by
    obtain ⟨before, current, le, _⟩ := h.lists key cached stored
    rw [current, Option.getD_some] at counted
    exact ⟨version, rfl, by omega, fun now => by omega⟩

/-- The entry of an event is stored. -/
theorem fillDetail {notes : Notes} {cached : TicketCore.Cached EventDetailResponse}
    (h : office.Caches r)
    (order : Enumerates office.types (fun row => row.eventId = eventId) notes.order)
    (shown : office.showEvent eventId notes = .ok (cached.value, office)) :
    office.Caches (r.setEventStatic eventId (some cached)) where
  details id other stored := by
    by_cases same : id = eventId
    · subst same
      have here : (r.setEventStatic id (some cached)).eventStatic id = some cached :=
        Function.update_self ..
      cases here.symm.trans stored
      exact ⟨notes, order, shown⟩
    · exact h.details id other ((Function.update_of_ne same _ _).symm.trans stored)
  lists := h.lists

/-- The lists get their first version. -/
theorem firstVersion {version : Int} (h : office.Caches r) (missing : r.eventListVersion = none) :
    office.Caches { r with eventListVersion := some version } where
  details := h.details
  lists key cached stored := by
    obtain ⟨_, current, _⟩ := h.lists key cached stored
    rw [missing] at current
    cases current

/-- A page is stored under the version there is. -/
theorem fillList {notes : Notes} {key : ListKey} {cached : TicketCore.Cached (List EventResponse)}
    (h : office.Caches r) (current : r.eventListVersion = some key.version)
    (order : Enumerates office.events (fun _ => true) notes.order)
    (shown : cached.value = office.showEvents key.offset key.limit notes) :
    office.Caches (r.setEventList key (some cached)) where
  details := h.details
  lists other cached' stored := by
    by_cases same : other = key
    · subst same
      have here : (r.setEventList other (some cached)).eventLists other = some cached :=
        Function.update_self ..
      cases here.symm.trans stored
      exact ⟨other.version, current, le_rfl, fun _ => ⟨notes, order, shown⟩⟩
    · exact h.lists other cached' ((Function.update_of_ne same _ _).symm.trans stored)

/-- What is left after Redis has lost keys is still right. -/
theorem forget (h : office.Caches r) (forgets : r.Forgets r') : office.Caches r' where
  details id cached stored := by
    rcases forgets.eventStatic id with gone | kept
    · rw [gone] at stored
      cases stored
    · rw [kept] at stored
      exact h.details id cached stored
  lists key cached stored := by
    rcases forgets.eventLists key with gone | ⟨kept, version⟩
    · rw [gone] at stored
      cases stored
    · rw [kept] at stored
      rw [version]
      exact h.lists key cached stored

end Caches

end Office

end TicketCore
