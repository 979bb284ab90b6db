import TicketCore.Office

/-!
# What an answered request has done

The inversion of each request of the office: where it is answered, what the tables are afterwards.
`Does` puts them together.

* `does_of_commits`: a commit does what one request does, or it is that of a sweep.
* `Day.releases`: what releases one after another keep.
-/

namespace TicketCore.Office

/-- What the request of an activity has done, in the cases in which it is answered. -/
inductive Does (office : Office) : Activity → Office → Prop
  | nothing {activity : Activity} : Does office activity office
  | book {userId : Int} {ticketData : TicketCreate} {notes : Notes} {counted : Office} :
      office.tickets notes.id = none → office.count ticketData.ticketTypeId 1 = .ok counted →
      Does office (.operation (.create userId ticketData))
        (counted.setTicket notes.id
          (some ⟨ticketData.ticketTypeId, userId, .reserved, notes.clock⟩))
  /-- A ticket that has gone is counted down like one that is there. -/
  | giveUp {ownerId ticketId ticketTypeId : Int} {counted : Office} :
      (∀ ticket, office.tickets ticketId = some ticket →
        ticket.ticketTypeId = ticketTypeId ∧ ticket.ownerId = ownerId) →
      office.count ticketTypeId (-1) = .ok counted →
      Does office (.operation (.delete ownerId ticketId)) (counted.setTicket ticketId none)
  | pay {ownerId ticketId : Int} {ticket : Ticket} :
      office.tickets ticketId = some ticket → ticket.ownerId = ownerId →
      ticket.status = .reserved →
      Does office (.operation (.payForTicket ticketId ownerId))
        (office.setTicket ticketId (some (ticket.withStatus .sold)))
  | release {ticketId : Int} {ticket : Ticket} {counted : Office} :
      office.tickets ticketId = some ticket → ticket.status = .reserved →
      office.count ticket.ticketTypeId (-1) = .ok counted →
      Does office (.operation (.releaseUnpaidTicket ticketId))
        (counted.setTicket ticketId (some (ticket.withStatus .canceled)))
  | addType {eventId : Int} {typeData : TicketTypeCreate} {notes : Notes} :
      office.types notes.id = none →
      Does office (.operation (.createType eventId typeData))
        (office.setType notes.id (some (typeData.row eventId)))
  | changeType {ticketTypeId : Int} {updateData data : TicketTypeUpdate} {row row' : TicketType} :
      office.types ticketTypeId = some row → data.apply row = .ok row' →
      Does office (.operation (.updateType ticketTypeId updateData))
        (office.setType ticketTypeId (some row'))
  | dropType {ticketTypeId : Int} :
      Does office (.operation (.deleteType ticketTypeId)) (office.setType ticketTypeId none)
  | addEvent {eventData : EventCreate} {eventId : Int} {event : Event} :
      Does office (.createEvent eventData) (office.setEvent eventId (some event))
  | changeEvent {eventId : Int} {updateData : EventUpdate} {event : Event} :
      Does office (.updateEvent eventId updateData) (office.setEvent eventId (some event))
  | dropEvent {eventId : Int} : Does office (.deleteEvent eventId) (office.setEvent eventId none)

variable {office after counted : Office} {userId ownerId ticketId ticketTypeId eventId delta : Int}
  {notes : Notes}

theorem exists_of_answer {α : Type} (form : α → Answer) {result : Except Exn (α × Office)}
    {shown : Answer}
    (ok : answer form result = .ok (shown, after)) : ∃ a, result = .ok (a, after) := by
  cases result with
  | error e => cases ok
  | ok given =>
      cases ok
      exact ⟨given.1, rfl⟩

/-! ## A count that moves -/

/-- There is no such type, or its count has moved. -/
theorem count_ok (ok : office.count ticketTypeId delta = .ok counted) :
    (office.types ticketTypeId = none ∧ counted = office) ∨
      ∃ row row', office.types ticketTypeId = some row ∧ row.addTicketsSold delta = .ok row' ∧
        counted = office.setType ticketTypeId (some row') := by
  unfold count at ok
  split at ok
  · rename_i absent
    cases ok
    exact .inl ⟨absent, rfl⟩
  · rename_i row stored
    split at ok
    · rename_i row' moved
      cases ok
      exact .inr ⟨row, row', stored, moved, rfl⟩
    · cases ok

theorem tickets_of_count (ok : office.count ticketTypeId delta = .ok counted) :
    counted.tickets = office.tickets := by
  rcases count_ok ok with ⟨_, rfl⟩ | ⟨_, _, _, _, rfl⟩
  · rfl
  · rfl

/-! ## Tickets -/

theorem book_ok {shown : TicketResponse}
    (ok : office.book userId ticketTypeId notes = .ok (shown, after)) :
    ∃ counted, office.count ticketTypeId 1 = .ok counted ∧
      after = counted.setTicket notes.id
        (some ⟨ticketTypeId, userId, .reserved, notes.clock⟩) := by
  unfold book at ok
  split at ok
  · cases ok
  split at ok
  · cases ok
  split at ok
  · cases ok
  cases moved : office.count ticketTypeId 1 with
  | error e =>
      rw [moved] at ok
      cases ok
  | ok counted =>
      rw [moved] at ok
      cases ok
      exact ⟨counted, rfl, rfl⟩

theorem ticketOf_eq_some {ticket : Ticket} : office.ticketOf ownerId ticketId = some ticket ↔
    office.tickets ticketId = some ticket ∧ ticket.ownerId = ownerId := by
  unfold ticketOf
  rw [Option.filter_eq_some_iff, decide_eq_true_iff]

theorem giveUp_ok {shown : Unit} (ok : office.giveUp ownerId ticketId = .ok (shown, after)) :
    ∃ ticket counted, office.tickets ticketId = some ticket ∧ ticket.ownerId = ownerId ∧
      office.count ticket.ticketTypeId (-1) = .ok counted ∧
      after = counted.setTicket ticketId none := by
  unfold giveUp at ok
  split at ok
  · cases ok
  rename_i ticket found
  obtain ⟨stored, owned⟩ := ticketOf_eq_some.mp found
  cases moved : office.count ticket.ticketTypeId (-1) with
  | error e =>
      rw [moved] at ok
      cases ok
  | ok counted =>
      rw [moved] at ok
      cases ok
      exact ⟨ticket, counted, stored, owned, moved, rfl⟩

theorem pay_ok {shown : TicketPaymentSchema}
    (ok : office.pay ticketId ownerId = .ok (shown, after)) :
    ∃ ticket, office.tickets ticketId = some ticket ∧ ticket.ownerId = ownerId ∧
      ticket.status = .reserved ∧
      after = office.setTicket ticketId (some (ticket.withStatus .sold)) := by
  unfold pay at ok
  split at ok
  · cases ok
  rename_i ticket found
  obtain ⟨stored, owned⟩ := ticketOf_eq_some.mp found
  split at ok
  · cases ok
  · cases ok
  rename_i reserved
  cases ok
  exact ⟨ticket, stored, owned, reserved, rfl⟩

/-- A ticket that is not reserved stays as it is. -/
theorem release_ok {shown : Unit} (ok : office.release ticketId = .ok (shown, after)) :
    after = office ∨
    ∃ ticket counted, office.tickets ticketId = some ticket ∧ ticket.status = .reserved ∧
      office.count ticket.ticketTypeId (-1) = .ok counted ∧
      after = counted.setTicket ticketId (some (ticket.withStatus .canceled)) := by
  unfold release at ok
  split at ok
  · cases ok
    exact .inl rfl
  rename_i ticket stored
  split at ok
  · cases ok
    exact .inl rfl
  rename_i reserved
  cases moved : office.count ticket.ticketTypeId (-1) with
  | error e =>
      rw [moved] at ok
      cases ok
  | ok counted =>
      rw [moved] at ok
      cases ok
      exact .inr ⟨ticket, counted, stored, not_not.mp reserved, moved, rfl⟩

/-! ## Ticket types and events -/

theorem addType_ok {typeData : TicketTypeCreate} {shown : TicketTypeResponse}
    (ok : office.addType eventId typeData notes = .ok (shown, after)) :
    after = office.setType notes.id (some (typeData.row eventId)) := by
  unfold addType at ok
  split at ok
  · cases ok
  · cases ok
    rfl

theorem changeType_ok {updateData : TicketTypeUpdate} {shown : TicketTypeResponse}
    (ok : office.changeType ticketTypeId updateData = .ok (shown, after)) : after = office ∨
    ∃ row row', office.types ticketTypeId = some row ∧ updateData.apply row = .ok row' ∧
      after = office.setType ticketTypeId (some row') := by
  unfold changeType at ok
  split at ok
  · cases ok
  rename_i row stored
  split at ok
  · cases ok
    exact .inl rfl
  split at ok
  · cases ok
  split at ok
  · cases ok
  rename_i row' applied
  cases ok
  exact .inr ⟨row, row', stored, applied, rfl⟩

theorem dropType_ok {shown : Unit} (ok : office.dropType ticketTypeId = .ok (shown, after)) :
    after = office.setType ticketTypeId none := by
  unfold dropType at ok
  split at ok
  · cases ok
  split at ok
  · cases ok
  · cases ok
    rfl

theorem changeEvent_ok {updateData : EventUpdate} {shown : EventResponse}
    (ok : office.changeEvent eventId updateData = .ok (shown, after)) : after = office ∨
    ∃ event event', office.events eventId = some event ∧ updateData.apply event = .ok event' ∧
      after = office.setEvent eventId (some event') := by
  unfold changeEvent at ok
  split at ok
  · cases ok
  rename_i event stored
  split at ok
  · cases ok
    exact .inl rfl
  split at ok
  · cases ok
  rename_i event' applied
  cases ok
  exact .inr ⟨event, event', stored, applied, rfl⟩

theorem dropEvent_ok {shown : Unit} (ok : office.dropEvent eventId = .ok (shown, after)) :
    after = office.setEvent eventId none := by
  unfold dropEvent at ok
  split at ok
  · cases ok
  split at ok
  · cases ok
  · cases ok
    rfl

/-! ## What is only shown -/

theorem showTicket_ok {shown : TicketDetailResponse}
    (ok : office.showTicket ownerId ticketId = .ok (shown, after)) : after = office := by
  unfold showTicket at ok
  split at ok
  · cases ok
  · cases ok
    rfl

theorem showType_ok {shown : TicketTypeDetailResponse}
    (ok : office.showType ticketTypeId = .ok (shown, after)) : after = office := by
  unfold showType at ok
  split at ok
  · cases ok
  · cases ok
    rfl

theorem showEvent_ok {shown : EventDetailResponse}
    (ok : office.showEvent eventId notes = .ok (shown, after)) : after = office := by
  unfold showEvent at ok
  split at ok
  · cases ok
  · cases ok
    rfl

/-! ## All requests -/

theorem does_changeType {updateData data : TicketTypeUpdate} {shown : TicketTypeResponse}
    (ok : office.changeType ticketTypeId data = .ok (shown, after)) :
    office.Does (.operation (.updateType ticketTypeId updateData)) after := by
  rcases changeType_ok ok with rfl | ⟨row, row', stored, applied, rfl⟩
  · exact .nothing
  · exact .changeType stored applied

theorem does_changeEvent {updateData data : EventUpdate} {shown : EventResponse}
    (ok : office.changeEvent eventId data = .ok (shown, after)) :
    office.Does (.updateEvent eventId updateData) after := by
  rcases changeEvent_ok ok with rfl | ⟨_, _, _, _, rfl⟩
  · exact .nothing
  · exact .changeEvent

theorem does_release {shown : Unit} (ok : office.release ticketId = .ok (shown, after)) :
    office.Does (.operation (.releaseUnpaidTicket ticketId)) after := by
  rcases release_ok ok with rfl | ⟨ticket, counted, stored, reserved, moved, rfl⟩
  · exact .nothing
  · exact .release stored reserved moved

/-- **What an answered request has done.** -/
theorem does_of_serve {seconds : Int} {activity : Activity} {answer : Answer}
    (single : activity ≠ .operation .reconcileHungTickets) (suits : office.Suits notes activity)
    (ok : office.serve seconds notes activity = .ok (answer, after)) :
    office.Does activity after := by
  cases activity with
  | operation op =>
      cases op with
      | create userId ticketData =>
          obtain ⟨_, ok⟩ := exists_of_answer _ ok
          obtain ⟨counted, moved, rfl⟩ := book_ok ok
          exact .book suits moved
      | delete ownerId ticketId =>
          obtain ⟨_, ok⟩ := exists_of_answer (fun _ => .done) ok
          obtain ⟨ticket, counted, stored, owned, moved, rfl⟩ := giveUp_ok ok
          refine .giveUp (fun ticket' there => ?_) moved
          cases stored.symm.trans there
          exact ⟨rfl, owned⟩
      | payForTicket ticketId ownerId =>
          obtain ⟨_, ok⟩ := exists_of_answer _ ok
          obtain ⟨ticket, stored, owned, reserved, rfl⟩ := pay_ok ok
          exact .pay stored owned reserved
      | releaseUnpaidTicket ticketId =>
          obtain ⟨_, ok⟩ := exists_of_answer (fun _ => .done) ok
          exact does_release ok
      | reconcileHungTickets => exact (single rfl).elim
      | reconcileRedisOrphans =>
          cases ok
          exact .nothing
      | createType eventId typeData =>
          obtain ⟨_, ok⟩ := exists_of_answer _ ok
          cases addType_ok ok
          exact .addType suits
      | updateType ticketTypeId updateData =>
          obtain ⟨_, ok⟩ := exists_of_answer _ ok
          exact does_changeType ok
      | deleteType ticketTypeId =>
          obtain ⟨_, ok⟩ := exists_of_answer (fun _ => .done) ok
          cases dropType_ok ok
          exact .dropType
  | createEvent eventData =>
      cases ok
      exact .addEvent
  | updateEvent eventId updateData =>
      obtain ⟨_, ok⟩ := exists_of_answer _ ok
      exact does_changeEvent ok
  | deleteEvent eventId =>
      obtain ⟨_, ok⟩ := exists_of_answer (fun _ => .done) ok
      cases dropEvent_ok ok
      exact .dropEvent
  | getEvents offset limit | getTickets ownerId offset limit | getTypes eventId offset limit =>
      cases ok
      exact .nothing
  | getEvent eventId =>
      obtain ⟨_, ok⟩ := exists_of_answer _ ok
      cases showEvent_ok ok
      exact .nothing
  | getTicket ownerId ticketId =>
      obtain ⟨_, ok⟩ := exists_of_answer _ ok
      cases showTicket_ok ok
      exact .nothing
  | getType ticketTypeId =>
      obtain ⟨_, ok⟩ := exists_of_answer _ ok
      cases showType_ok ok
      exact .nothing

/-! ## Commits -/

/-- What releases keep, one after another. -/
theorem Day.releases {seconds : Int} {R : Office → Prop} {ids : List Int}
    (day : office.Day seconds
      (ids.map fun id => (.operation (.releaseUnpaidTicket id), .ok .done)) after)
    (start : R office) (each : ∀ {before after ticketId}, R before →
      before.Does (.operation (.releaseUnpaidTicket ticketId)) after → R after) : R after := by
  generalize listed : ids.map _ = requests at day
  induction day generalizing ids with
  | «open» => exact start
  | @next requests before after activity outcome day serves ih =>
      cases ids using List.reverseRecOn with
      | nil => exact (List.append_ne_nil_of_right_ne_nil _ (List.cons_ne_nil _ _) listed.symm).elim
      | append_singleton ids id =>
          rw [List.map_append] at listed
          obtain ⟨rfl, last⟩ := List.append_inj' listed rfl
          cases last
          obtain ⟨notes, _, gives⟩ := serves
          cases released : before.serve seconds notes (.operation (.releaseUnpaidTicket id)) with
          | error e =>
              rw [released] at gives
              cases gives
          | ok given =>
              obtain ⟨answer, served⟩ := given
              rw [released] at gives
              cases gives
              obtain ⟨a, ok⟩ := exists_of_answer (fun _ => .done) released
              exact each (ih rfl) (does_release ok)

/-- **What a commit has done**: what one request does, or many releases. -/
theorem does_of_commits {seconds : Int} {shown : Reading → Prop} {activity : Activity}
    (commits : office.Commits seconds shown activity after) : office.Does activity after ∨
      (activity = .operation .reconcileHungTickets ∧ ∃ ids : List Int, office.Day seconds
        (ids.map fun id => (.operation (.releaseUnpaidTicket id), .ok .done)) after) := by
  cases commits with
  | served once suits ok =>
      exact .inl (does_of_serve (fun same => by rw [same] at once; cases once) suits ok)
  | patchedType loaded ok => exact .inl (does_changeType ok)
  | patchedEvent loaded ok => exact .inl (does_changeEvent ok)
  | swept _ _ _ _ day => exact .inr ⟨rfl, _, day⟩
  | @missed ownerId ticketId ticket after _ absent moved =>
      have same : after.setTicket ticketId none = after := by
        unfold setTicket
        rw [← absent, ← tickets_of_count moved, Function.update_eq_self]
      have does : office.Does (.operation (.delete ownerId ticketId))
          (after.setTicket ticketId none) :=
        .giveUp (fun ticket there => by rw [absent] at there; cases there) moved
      rw [same] at does
      exact .inl does

end TicketCore.Office
