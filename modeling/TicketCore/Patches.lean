import TicketCore.Access
import TicketCore.Alone
import TicketCore.Columns

/-!
# Partial updates

The two `PATCH` endpoints, of events and of ticket types, run alone on a stored row.

* `TicketTypeUpdate.validate` and `EventUpdate.validate` are the validation of a JSON body.
* `ensures_updateType` and `ensures_updateEvent`: what the call of the service ends with.
* `patch_storable`: when a `PATCH` ends with a domain error or with a row that the table can hold.
-/

namespace TicketCore

open Interleave RowStore

/-! ## Validation -/

/-- `str_strip_whitespace`, on a field that is absent, null or a text. -/
def stripField (field : Option (Option String)) : Option (Option String) :=
  field.map fun text => text.map strip

/-- Validation of the JSON body of a `TicketTypeUpdate`. -/
def TicketTypeUpdate.validate (name : Option (Option String))
    (price ticketsQuantity : Option (Option Int)) :
    Option TicketTypeUpdate :=
  if h : (stripField name).join.all
      (fun text => 1 ≤ text.length ∧ text.length ≤ 50) = true ∧
      price.join.all (fun p => 0 ≤ p) = true ∧
      ticketsQuantity.join.all (fun q => 0 < q) = true then
    some
      { name := stripField name
        price := price
        ticketsQuantity := ticketsQuantity
        name_length := fun text given => of_decide_eq_true (join_all h.1 text given)
        price_nonneg := fun p given => of_decide_eq_true (join_all h.2.1 p given)
        quantity_pos := fun q given => of_decide_eq_true (join_all h.2.2 q given) }
  else none

/-- `min_length=1` and `max_length=100`. -/
def shortText (field : Option (Option String)) : Bool :=
  field.join.all fun text => 1 ≤ text.length ∧ text.length ≤ 100

theorem shortText_length {field : Option (Option String)} (short : shortText field = true) :
    ShortText field := fun text given => of_decide_eq_true (join_all short text given)

/-- Validation of the JSON body of an `EventUpdate`; `date` is the instant of a date with an
offset. -/
def EventUpdate.validate (title : Option (Option String)) (date : Option (Option Int))
    (country city streetAddress : Option (Option String)) : Option EventUpdate :=
  if h : shortText (stripField title) = true ∧ shortText (stripField country) = true ∧
      shortText (stripField city) = true ∧ shortText (stripField streetAddress) = true then
    some
      { title := stripField title
        date := date
        country := stripField country
        city := stripField city
        streetAddress := stripField streetAddress
        title_length := shortText_length h.1
        country_length := shortText_length h.2.1
        city_length := shortText_length h.2.2.1
        street_address_length := shortText_length h.2.2.2 }
  else none

/-! ## Alone on a stored row -/

theorem works_honest {ι : Type} {cmd : Cmd} (sent : cmd.rejection = none) :
    Works (Honest : CallEvent ι → Prop) cmd := by
  intro e ok same
  rw [← sent, ← same]
  exact ok

variable {ι : Type} [DecidableEq ι] {t : ι} {w : World ι} {id : Int} {d : Deployment}

/-- What the transaction has written is read back. -/
theorem read_hold_calm {Row : Type} {s : RowStore ι Row} {row row' : Row} (quiet : s.Quiet)
    (stored : s.row id = some row) :
    (s.hold t id (some row')).read t = Function.update s.row id (some row') := by
  rw [read_hold (s.row_issued id (by rw [stored]; rfl)), read_calm quiet]

/-- The `except SQLAlchemyError` block, alone on a database where no transaction is open. -/
theorem ensures_rollbackOnSQLAlchemyError {α : Type} {e : Exn}
    {post : Except Exn α → World ι → Prop}
    (calm : w.db.Calm) (sql : e.isSQLAlchemyError = true) (raised : post (.error e) w) :
    (rollbackOnSQLAlchemyError e : Async α).Ensures exec t Honest post w := by
  unfold rollbackOnSQLAlchemyError
  rw [if_pos sql]
  refine Program.Ensures.bind (ensures_sql_works (works_honest rfl) ?_)
  rintro _ _ _ _ ⟨⟩
  rw [calm.rollback]
  exact raised

/-! ## Ticket types -/

section TicketTypes

variable {data : TicketTypeUpdate} {row : TicketType}

/-- No field of the update is null, and the values of all can be sent. -/
def TicketTypeUpdate.Storable (data : TicketTypeUpdate) : Prop :=
  data.NoNull ∧ data.sendable = true

/-- An update without net change is storable. -/
theorem storable_of_isEmpty (fits : row.Fits) (empty : (data.netChange row).isEmpty = true) :
    data.Storable := by
  have stores := TicketTypeUpdate.stores_of_isEmpty empty
  refine ⟨⟨stores.name.given, stores.price.given, stores.ticketsQuantity.given⟩, ?_⟩
  rw [← TicketTypeUpdate.sendable_netChange fits]
  unfold TicketTypeUpdate.isEmpty at empty
  rw [Bool.and_eq_true, Bool.and_eq_true] at empty
  unfold TicketTypeUpdate.sendable
  rw [Option.isNone_iff_eq_none.mp empty.1.1, Option.isNone_iff_eq_none.mp empty.1.2,
    Option.isNone_iff_eq_none.mp empty.2]
  rfl

/-- The flush of the changed attributes. -/
theorem ensures_flushType (quiet : w.db.ticketTypes.Quiet)
    (stored : w.db.ticketTypes.row id = some row)
    (fits : row.Fits) (limit : row.ticketsSold ≤ data.newQuantity.getD row.ticketsQuantity) :
    (TicketTypeService.flushUpdate id (data.netChange row)).Ensures exec t Honest
      (fun outcome w' =>
        (data.Storable ∧ outcome = .ok () ∧ ∃ row', data.Stores row row' ∧
          w'.db.ticketTypes.read t = Function.update w.db.ticketTypes.row id (some row')) ∨
        (¬data.Storable ∧ (∃ e, outcome = .error e ∧ e.isSQLAlchemyError = true) ∧
          w' = w)) w := by
  unfold TicketTypeService.flushUpdate
  split
  · rename_i empty
    refine .inl ⟨storable_of_isEmpty fits empty, rfl, row,
      TicketTypeUpdate.stores_of_isEmpty empty, ?_⟩
    rw [read_calm quiet, ← stored, Function.update_eq_self]
  · by_cases sends : data.sendable = true
    · have sent : (data.netChange row).sendable = true :=
        (TicketTypeUpdate.sendable_netChange fits).trans sends
      have accepted : (Cmd.db (.updateTicketType id (data.netChange row))).rejection = none :=
        if_pos sent
      refine ensures_sql_works (works_honest accepted) fun clock rows answer db' ran => ?_
      have read : w.db.ticketTypes.read t id = some row := by rw [read_calm quiet, stored]
      simp only [DbCmd.run, Database.updateTypeRow, read, if_pos (free_calm quiet)] at ran
      by_cases given : data.NoNull
      · obtain ⟨row', ok, stores⟩ := TicketTypeUpdate.apply_netChange given limit
        rw [ok] at ran
        cases ran
        exact .inl ⟨⟨given, sends⟩, rfl, row', stores, read_hold_calm quiet stored⟩
      · obtain ⟨violated, error⟩ :
            ∃ violated, (data.netChange row).apply row = .error violated :=
          TicketTypeUpdate.apply_null (mt TicketTypeUpdate.noNull_netChange.mp given)
        rw [error] at ran
        cases ran
        exact .inr ⟨fun storable => given storable.1, ⟨_, rfl, rfl⟩, rfl⟩
    · have refused : (Cmd.db (.updateTicketType id (data.netChange row))).rejection =
          some .sqlalchemy := by
        refine if_neg ?_
        rw [TicketTypeUpdate.sendable_netChange fits]
        exact sends
      refine ensures_fault .sqlalchemy rfl (fun e ok same => ?_) ?_
      · rw [← refused, ← same]
        exact ok
      · exact .inr ⟨fun storable => sends storable.2, ⟨_, rfl, rfl⟩, rfl⟩

/-- The `try` block of the update. -/
theorem ensures_applyUpdate (calm : w.db.Calm) (stored : w.db.ticketTypes.row id = some row)
    (fits : row.Fits) (limit : row.ticketsSold ≤ data.newQuantity.getD row.ticketsQuantity) :
    (TicketTypeService.applyUpdate d id row data).Ensures exec t Honest
      (fun outcome w' =>
        (data.Storable ∧ (∃ row', outcome = .ok row') ∧ ∃ row', data.Stores row row' ∧
          w'.db.ticketTypes.row = Function.update w.db.ticketTypes.row id (some row')) ∨
        (¬data.Storable ∧ (∃ e, outcome = .error e ∧ e.isSQLAlchemyError = true) ∧
          w' = w)) w := by
  refine Program.Ensures.bind
    ((ensures_flushType calm.quiet.2 stored fits limit).mono fun outcome w₁ flushed => ?_)
  rcases flushed with
    ⟨storable, rfl, row', stores, read⟩ | ⟨refused, ⟨e, rfl, sql⟩, rfl⟩
  · refine Program.Ensures.bind (ensures_sql_works (works_honest rfl) ?_)
    rintro _ _ _ _ ⟨⟩
    refine Program.Ensures.bind
      (ensures_sql_works (works_honest rfl) fun clock rows answer db' ran => ?_)
    have reread : (w₁.db.commit t).ticketTypes.read t id = some row' := by
      show (w₁.db.ticketTypes.commit t).read t id = some row'
      rw [read_commit, read, Function.update_self]
    simp only [DbCmd.run, reread] at ran
    cases ran
    have finish : ∀ w₂ : World ι, w₂.db = w₁.db.commit t →
        (do TicketTypeService.invalidate d row'.eventId; pure row' : Async TicketType).Ensures exec
          t Honest
          (fun outcome w' => (data.Storable ∧ (∃ row', outcome = .ok row') ∧ ∃ row',
            data.Stores row row' ∧
              w'.db.ticketTypes.row = Function.update w.db.ticketTypes.row id (some row')) ∨
            (¬data.Storable ∧ (∃ e, outcome = .error e ∧ e.isSQLAlchemyError = true) ∧
                w' = w)) w₂ := by
      intro w₂ same
      refine Program.Ensures.bind (Program.Ensures.bind
        (ensures_redis_works (works_honest rfl) fun _ _ _ _ _ =>
          ensures_redis_works (works_honest rfl) fun _ _ _ _ _ => ?_))
      refine .inl ⟨storable, ⟨row', rfl⟩, row', stores, ?_⟩
      show w₂.db.ticketTypes.row = _
      rw [same]
      exact read
    cases data.newQuantity with
    | none => exact finish _ rfl
    | some quantity =>
        exact Program.Ensures.bind
          (ensures_redis_works (works_honest rfl) fun _ _ _ _ _ => finish _ rfl)
  · exact .inr ⟨refused, ⟨e, rfl, sql⟩, rfl⟩

/-- The call of the service, on a payload that is not empty. -/
theorem ensures_updateType (calm : w.db.Calm) (stored : w.db.ticketTypes.row id = some row)
    (fits : row.Fits) (filled : data.isEmpty = false) :
    (TicketTypeService.update d id data).Ensures exec t Honest
      (fun outcome w' =>
        (TicketTypeService.tooSmall data.newQuantity row.ticketsSold = true ∧
          (∃ quantity sold, outcome = .error
            (TicketTypeService.ticketTypeQuantity quantity sold)) ∧
            w' = w) ∨
        (TicketTypeService.tooSmall data.newQuantity row.ticketsSold = false ∧
          ((data.Storable ∧ (∃ response, outcome = .ok response) ∧
            ∃ row', data.Stores row row' ∧
            w'.db.ticketTypes.row = Function.update w.db.ticketTypes.row id (some row')) ∨
          (¬data.Storable ∧ (∃ e, outcome = .error e ∧ e.isSQLAlchemyError = true) ∧
            w' = w)))) w := by
  refine Program.Ensures.bind
    (ensures_sql_works (works_honest rfl) fun clock rows answer db' ran => ?_)
  have read : w.db.ticketTypes.read t id = some row := by rw [read_calm calm.quiet.2, stored]
  cases ran
  rw [read]
  show (if data.isEmpty then _ else _ : Async TicketTypeResponse).Ensures exec t Honest _ w
  rw [if_neg (by rw [filled]; exact Bool.false_ne_true)]
  split
  · rename_i small
    exact .inl ⟨small, ⟨_, _, rfl⟩, rfl⟩
  · rename_i enough
    rw [Bool.not_eq_true] at enough
    have limit : row.ticketsSold ≤ data.newQuantity.getD row.ticketsQuantity := by
      cases quantity : data.newQuantity with
      | none => exact row.check_sold_limit
      | some q =>
          rw [quantity] at enough
          exact not_lt.mp (of_decide_eq_false enough)
    refine Program.Ensures.bind (Program.Ensures.tryCatch
      ((ensures_applyUpdate calm stored fits limit).mono fun outcome w₁ applied => ?_))
    rcases applied with ⟨storable, ⟨loaded, rfl⟩, row', stores, rows⟩ |
      ⟨refused, ⟨e, rfl, sql⟩, rfl⟩
    · exact .inr ⟨enough, .inl ⟨storable, ⟨_, rfl⟩, row', stores, rows⟩⟩
    · exact ensures_rollbackOnSQLAlchemyError calm sql
        (.inr ⟨enough, .inr ⟨refused, ⟨e, rfl, sql⟩, rfl⟩⟩)

/-- The `PATCH` ends with a domain error and the row as it was, or returns and has stored a row that
the table can hold, with the given fields replaced and the others kept. -/
def TicketTypeUpdate.PatchSafe (data : TicketTypeUpdate) (id : Int) (row : TicketType)
    (w : World ι) (outcome : Except Exn Unit) (w' : World ι) : Prop :=
  ((outcome = .error emptyUpdateData ∨
      ∃ quantity sold, outcome = .error (TicketTypeService.ticketTypeQuantity quantity sold)) ∧
    w'.db.ticketTypes.row = w.db.ticketTypes.row) ∨
  (outcome = .ok () ∧ ∃ row', data.Stores row row' ∧ row'.Fits ∧
    w'.db.ticketTypes.row = Function.update w.db.ticketTypes.row id (some row'))

omit [DecidableEq ι] in
/-- A database error is none of these ends. -/
theorem not_patchSafe {w' : World ι} {e : Exn} (sql : e.isSQLAlchemyError = true) :
    ¬data.PatchSafe id row w (.error e) w' := by
  rintro (⟨same | ⟨_, _, same⟩, _⟩ | ⟨same, _⟩)
  · cases same
    cases sql
  · cases same
    cases sql
  · cases same

/-- The endpoint. -/
theorem ensures_patchType {service : IdempotencyService} {isoformat : Int → String} {userId : Int}
    (calm : w.db.Calm) (stored : w.db.ticketTypes.row id = some row) (fits : row.Fits) :
    ((Route.ticketTypeUpdate id data).program d service isoformat userId).Ensures exec t Honest
      (fun outcome w' => data.PatchSafe id row w outcome w' ↔
        data.isEmpty = true ∨
          TicketTypeService.tooSmall data.newQuantity row.ticketsSold = true ∨
          data.Storable) w := by
  refine Program.Ensures.bind (ensures_getDb (works_honest rfl) (works_honest rfl) ?_)
  by_cases empty : data.isEmpty = true
  · rw [if_pos empty]
    exact ⟨fun _ => .inl empty, fun _ => .inl ⟨.inl rfl, rfl⟩⟩
  · rw [if_neg empty]
    rw [Bool.not_eq_true] at empty
    refine (ensures_updateType calm stored fits empty).mono fun outcome w' ends => ?_
    rcases ends with ⟨small, ⟨quantity, sold, rfl⟩, rfl⟩ | ⟨enough, ends⟩
    · exact ⟨fun _ => .inr (.inl small), fun _ => .inl ⟨.inr ⟨_, _, rfl⟩, rfl⟩⟩
    rcases ends with ⟨storable, ⟨response, rfl⟩, row', stores, rows⟩ |
      ⟨refused, ⟨e, rfl, sql⟩, rfl⟩
    · exact ⟨fun _ => .inr (.inr storable), fun _ =>
        .inr ⟨rfl, row', stores, stores.fits fits storable.2, rows⟩⟩
    · refine ⟨fun safe => absurd safe (not_patchSafe sql), ?_⟩
      rintro (empty' | small | storable)
      · rw [empty] at empty'
        cases empty'
      · rw [enough] at small
        cases small
      · exact absurd storable refused

end TicketTypes

/-! ## Events -/

section Events

variable {data : EventUpdate} {event : Event}

/-- No field of the update is null, and the values of all can be sent. -/
def EventUpdate.Storable (data : EventUpdate) : Prop := data.NoNull ∧ data.sendable = true

/-- An update without net change is storable. -/
theorem storable_of_noChange (fits : event.Fits) (empty : (data.netChange event).isEmpty = true) :
    data.Storable := by
  have stores := EventUpdate.stores_of_isEmpty empty
  refine ⟨EventUpdate.noNull_iff.mpr
    ⟨stores.title.given, stores.date.given, stores.country.given,
    stores.city.given, stores.streetAddress.given⟩, ?_⟩
  rw [← EventUpdate.sendable_netChange fits]
  unfold EventUpdate.isEmpty at empty
  rw [Bool.and_eq_true, Bool.and_eq_true, Bool.and_eq_true, Bool.and_eq_true] at empty
  obtain ⟨⟨⟨⟨title, date⟩, country⟩, city⟩, street⟩ := empty
  unfold EventUpdate.sendable
  rw [Option.isNone_iff_eq_none.mp title, Option.isNone_iff_eq_none.mp date,
    Option.isNone_iff_eq_none.mp country, Option.isNone_iff_eq_none.mp city,
    Option.isNone_iff_eq_none.mp street]
  rfl

/-- The flush of the changed attributes. -/
theorem ensures_flushEvent (quiet : w.db.events.Quiet) (stored : w.db.events.row id = some event)
    (fits : event.Fits) :
    (EventRepository.flushUpdate id (data.netChange event)).Ensures exec t Honest
      (fun outcome w' =>
        (data.Storable ∧ outcome = .ok () ∧ ∃ event', data.Stores event event' ∧
          w'.db.events.read t = Function.update w.db.events.row id (some event')) ∨
        (¬data.Storable ∧ (∃ e, outcome = .error e ∧ e.isSQLAlchemyError = true) ∧
          w' = w)) w := by
  unfold EventRepository.flushUpdate
  split
  · rename_i empty
    refine .inl ⟨storable_of_noChange fits empty, rfl, event,
      EventUpdate.stores_of_isEmpty empty, ?_⟩
    rw [read_calm quiet, ← stored, Function.update_eq_self]
  · by_cases sends : data.sendable = true
    · have sent : (data.netChange event).sendable = true :=
        (EventUpdate.sendable_netChange fits).trans sends
      have accepted : (Cmd.db (.updateEvent id (data.netChange event))).rejection = none :=
        if_pos sent
      refine ensures_sql_works (works_honest accepted) fun clock rows answer db' ran => ?_
      have read : w.db.events.read t id = some event := by rw [read_calm quiet, stored]
      simp only [DbCmd.run, Database.updateEvent, read, if_pos (free_calm quiet)] at ran
      by_cases given : data.NoNull
      · obtain ⟨event', ok, stores⟩ :
            ∃ event', (data.netChange event).apply event = .ok event' ∧
            data.Stores event event' := EventUpdate.apply_netChange given
        rw [ok] at ran
        cases ran
        exact .inl ⟨⟨given, sends⟩, rfl, event', stores, read_hold_calm quiet stored⟩
      · obtain ⟨violated, error⟩ :
            ∃ violated, (data.netChange event).apply event = .error violated :=
          EventUpdate.apply_null (mt EventUpdate.noNull_netChange.mp given)
        rw [error] at ran
        cases ran
        exact .inr ⟨fun storable => given storable.1, ⟨_, rfl, rfl⟩, rfl⟩
    · have refused : (Cmd.db (.updateEvent id (data.netChange event))).rejection =
          some .sqlalchemy := by
        refine if_neg ?_
        rw [EventUpdate.sendable_netChange fits]
        exact sends
      refine ensures_fault .sqlalchemy rfl (fun e ok same => ?_) ?_
      · rw [← refused, ← same]
        exact ok
      · exact .inr ⟨fun storable => sends storable.2, ⟨_, rfl, rfl⟩, rfl⟩

/-- The `try` block of the update. -/
theorem ensures_applyEventUpdate (calm : w.db.Calm) (stored : w.db.events.row id = some event)
    (fits : event.Fits) :
    (EventService.applyUpdate d id event data).Ensures exec t Honest
      (fun outcome w' =>
        (data.Storable ∧ (∃ response, outcome = .ok response) ∧
          ∃ event', data.Stores event event' ∧
          w'.db.events.row = Function.update w.db.events.row id (some event')) ∨
        (¬data.Storable ∧ (∃ e, outcome = .error e ∧ e.isSQLAlchemyError = true) ∧
          w' = w)) w := by
  refine Program.Ensures.bind (Program.Ensures.bind
    ((ensures_flushEvent calm.events stored fits).mono fun outcome w₁ flushed => ?_))
  rcases flushed with
    ⟨storable, rfl, event', stores, read⟩ | ⟨refused, ⟨e, rfl, sql⟩, rfl⟩
  · refine Program.Ensures.bind
      (ensures_sql_works (works_honest rfl) fun clock rows answer db' ran => ?_)
    have reread : w₁.db.events.read t id = some event' := by rw [read, Function.update_self]
    simp only [DbCmd.run, reread] at ran
    cases ran
    refine Program.Ensures.bind (ensures_sql_works (works_honest rfl) ?_)
    rintro _ _ _ _ ⟨⟩
    refine Program.Ensures.bind (ensures_sql_works (works_honest rfl) ?_)
    rintro _ _ _ _ ⟨⟩
    refine Program.Ensures.bind (Program.Ensures.bind
      (ensures_redis_works (works_honest rfl) fun _ _ _ _ _ =>
        ensures_redis_works (works_honest rfl) fun _ _ _ _ _ => ?_))
    exact .inl ⟨storable, ⟨_, rfl⟩, event', stores, read⟩
  · exact .inr ⟨refused, ⟨e, rfl, sql⟩, rfl⟩

/-- The call of the service, on a payload that is not empty. -/
theorem ensures_updateEvent (calm : w.db.Calm) (stored : w.db.events.row id = some event)
    (fits : event.Fits) (filled : data.isEmpty = false) :
    (EventService.update d id data).Ensures exec t Honest
      (fun outcome w' =>
        (data.Storable ∧ (∃ response, outcome = .ok response) ∧
          ∃ event', data.Stores event event' ∧
          w'.db.events.row = Function.update w.db.events.row id (some event')) ∨
        (¬data.Storable ∧ (∃ e, outcome = .error e ∧ e.isSQLAlchemyError = true) ∧
          w' = w)) w := by
  refine Program.Ensures.bind (Program.Ensures.bind
    (ensures_sql_works (works_honest rfl) fun clock rows answer db' ran => ?_))
  have read : w.db.events.read t id = some event := by rw [read_calm calm.events, stored]
  cases ran
  rw [read]
  refine Program.Ensures.bind (ensures_sql_works (works_honest rfl) ?_)
  rintro _ _ _ _ ⟨⟩
  show (if data.isEmpty then _ else _ : Async EventResponse).Ensures exec t Honest _ w
  rw [if_neg (by rw [filled]; exact Bool.false_ne_true)]
  refine Program.Ensures.tryCatch
    ((ensures_applyEventUpdate calm stored fits).mono fun outcome w₁ applied => ?_)
  rcases applied with ⟨storable, ⟨response, rfl⟩, event', stores, rows⟩ |
    ⟨refused, ⟨e, rfl, sql⟩, rfl⟩
  · exact .inl ⟨storable, ⟨_, rfl⟩, event', stores, rows⟩
  · exact ensures_rollbackOnSQLAlchemyError calm sql (.inr ⟨refused, ⟨e, rfl, sql⟩, rfl⟩)

/-- The `PATCH` ends with a domain error and the row as it was, or returns and has stored a row that
the table can hold, with the given fields replaced and the others kept. -/
def EventUpdate.PatchSafe (data : EventUpdate) (id : Int) (event : Event) (w : World ι)
    (outcome : Except Exn Unit) (w' : World ι) : Prop :=
  (outcome = .error emptyUpdateData ∧ w'.db.events.row = w.db.events.row) ∨
  (outcome = .ok () ∧ ∃ event', data.Stores event event' ∧ event'.Fits ∧
    w'.db.events.row = Function.update w.db.events.row id (some event'))

/-- The endpoint. -/
theorem ensures_patchEvent {service : IdempotencyService} {isoformat : Int → String}
    {userId : Int}
    (calm : w.db.Calm) (stored : w.db.events.row id = some event) (fits : event.Fits) :
    ((Route.updateEvent id data).program d service isoformat userId).Ensures exec t Honest
      (fun outcome w' => data.PatchSafe id event w outcome w' ↔ data.isEmpty = true ∨
        data.Storable)
      w := by
  refine Program.Ensures.bind (ensures_getDb (works_honest rfl) (works_honest rfl) ?_)
  by_cases empty : data.isEmpty = true
  · rw [if_pos empty]
    exact ⟨fun _ => .inl empty, fun _ => .inl ⟨rfl, rfl⟩⟩
  · rw [if_neg empty]
    rw [Bool.not_eq_true] at empty
    refine (ensures_updateEvent calm stored fits empty).mono fun outcome w' ends => ?_
    rcases ends with ⟨storable, ⟨response, rfl⟩, event', stores, rows⟩ |
      ⟨refused, ⟨e, rfl, sql⟩, rfl⟩
    · exact ⟨fun _ => .inr storable, fun _ =>
        .inr ⟨rfl, event', stores, stores.fits fits storable.2, rows⟩⟩
    · constructor
      · rintro (⟨same, _⟩ | ⟨same, _⟩)
        · cases same
          cases sql
        · cases same
      · rintro (empty' | storable)
        · rw [empty] at empty'
          cases empty'
        · exact absurd storable refused

end Events

/-! ## Every accepted body -/

/-- **Partial updates are storable**: a `PATCH` with an accepted body, run alone on a stored row,
ends with a domain error and the row as it was, or with a row that the table can hold, if and only
if the body is empty, or the new quantity is below the number of sold tickets, or no field is null
and each value can be sent as a value of its column. -/
theorem patch_storable (d : Deployment) (service : IdempotencyService) (isoformat : Int → String)
    (userId : Int) (t : ι) (w : World ι) (calm : w.db.Calm) :
    (∀ (name : Option (Option String)) (price ticketsQuantity : Option (Option Int))
      (data : TicketTypeUpdate) (id : Int) (row : TicketType),
      TicketTypeUpdate.validate name price ticketsQuantity = some data →
      w.db.ticketTypes.row id = some row → row.Fits →
      ∀ (events : List (CallEvent ι)) (outcome : Except Exn Unit) (w' : World ι),
        ((Route.ticketTypeUpdate id data).program d service isoformat userId).Runs exec t w
          events outcome
          w' → (∀ e ∈ events, Honest e) →
        (data.PatchSafe id row w outcome w' ↔ data.isEmpty = true ∨
          TicketTypeService.tooSmall data.newQuantity row.ticketsSold = true ∨ data.Storable)) ∧
    ∀ (title : Option (Option String)) (date : Option (Option Int))
      (country city streetAddress : Option (Option String)) (data : EventUpdate) (id : Int)
      (event : Event),
      EventUpdate.validate title date country city streetAddress = some data →
      w.db.events.row id = some event → event.Fits →
      ∀ (events : List (CallEvent ι)) (outcome : Except Exn Unit) (w' : World ι),
        ((Route.updateEvent id data).program d service isoformat userId).Runs exec t w events
          outcome w' →
        (∀ e ∈ events, Honest e) →
        (data.PatchSafe id event w outcome w' ↔ data.isEmpty = true ∨ data.Storable) := by
  constructor
  · intro _ _ _ data id row _ stored fits events outcome w' run honest
    exact (ensures_patchType calm stored fits).runs run honest
  · intro _ _ _ _ _ data id event _ stored fits events outcome w' run honest
    exact (ensures_patchEvent calm stored fits).runs run honest

/-! ## Two bodies -/

/-- An event with a type of five tickets, two of them sold. -/
def oneType : World Unit where
  db :=
    { tickets := .ofList []
      ticketTypes := .ofList [exampleType 5 2]
      users := {1}
      events := .ofList [exampleEvent] }
  redis _ := .empty
  jobs := []

/-- How the `PATCH` of the only type is run. -/
def patchOne (data : TicketTypeUpdate) : Async Unit :=
  (Route.ticketTypeUpdate 1 data).program sharedRedis ⟨0, 10, fun text => text⟩ (fun _ => "") 1

/-- `{"city": "Poznan"}`. -/
def cityOnly : EventUpdate where
  title := none
  date := none
  country := none
  city := some (some "Poznan")
  streetAddress := none
  title_length := shortText_none
  country_length := shortText_none
  city_length _ given := by
    cases given
    decide
  street_address_length := shortText_none

/-- How the `PATCH` of the only event is run. -/
def patchEvent (data : EventUpdate) : Async Unit :=
  (Route.updateEvent 1 data).program sharedRedis ⟨0, 10, fun text => text⟩ (fun _ => "") 1

/-- A run with an honest database, as the play of a program finds it. -/
theorem exists_honest_run {p : Async Unit} {w : World Unit}
    (found : (p.play exec () (fun _ => {}) w).any
      (fun r => r.1.all fun e => decide (Honest e)) = true) :
    ∃ events outcome w', p.Runs exec () w events outcome w' ∧ ∀ e ∈ events, Honest e := by
  obtain ⟨events, outcome, w', run, honest⟩ := Program.exists_runs_of_play
    (P := fun events _ _ => events.all fun e => decide (Honest e)) found
  exact ⟨events, outcome, w', run, fun e mem =>
    of_decide_eq_true (List.all_eq_true.mp honest e mem)⟩

/-- A new quantity of the type is stored, and a new city of the event. -/
theorem patch_storable_of_quantity :
    (∃ (events : List (CallEvent Unit)) (outcome : Except Exn Unit) (w' : World Unit),
      (patchOne (quantityOnly 9 (by decide))).Runs exec () oneType events outcome w' ∧
      (quantityOnly 9 (by decide)).PatchSafe 1
        ⟨"standard", 100, 5, 2, 1, by decide, by decide, by decide, by decide⟩ oneType
          outcome w') ∧
    EventUpdate.validate none none none (some (some "Poznan")) none = some cityOnly ∧
    ∃ (events : List (CallEvent Unit)) (outcome : Except Exn Unit) (w' : World Unit),
      (patchEvent cityOnly).Runs exec () oneType events outcome w' ∧
      cityOnly.PatchSafe 1 exampleEvent oneType outcome w' := by
  have calm : oneType.db.Calm := ⟨by decide, by decide⟩
  refine ⟨?_, rfl, ?_⟩
  · obtain ⟨events, outcome, w', run, honest⟩ :=
      exists_honest_run (p := patchOne (quantityOnly 9 (by decide))) (w := oneType) (by decide)
    refine ⟨events, outcome, w', run, ?_⟩
    refine ((patch_storable sharedRedis ⟨0, 10, fun text => text⟩ (fun _ => "") 1 () oneType
      calm).1 none none (some (some 9)) _ 1 _ rfl rfl
      ⟨by decide, by decide, by decide, by decide, by decide, by decide⟩
      events outcome w' run honest).mpr ?_
    exact .inr (.inr ⟨⟨nofun, nofun, nofun⟩, by decide⟩)
  · obtain ⟨events, outcome, w', run, honest⟩ :=
      exists_honest_run (p := patchEvent cityOnly) (w := oneType) (by decide)
    refine ⟨events, outcome, w', run, ?_⟩
    refine ((patch_storable sharedRedis ⟨0, 10, fun text => text⟩ (fun _ => "") 1 () oneType
      calm).2 none none none (some (some "Poznan")) none cityOnly 1 exampleEvent rfl rfl
      ⟨⟨by decide, by decide⟩, by decide, ⟨by decide, by decide⟩,
        ⟨by decide, by decide⟩,
        ⟨by decide, by decide⟩⟩ events outcome w' run honest).mpr ?_
    exact .inr ⟨rfl, by decide⟩

/-- The body `{"name": null}` is accepted, and its `PATCH` ends with the violation of `NOT NULL`. -/
theorem not_patchSafe_of_null :
    TicketTypeUpdate.validate (some none) none none = some nullName ∧
    ∃ (events : List (CallEvent Unit)) (outcome : Except Exn Unit) (w' : World Unit),
      (patchOne nullName).Runs exec () oneType events outcome w' ∧
      (∀ e ∈ events, Honest e) ∧
      outcome = .error (.integrity (.notNull "name")) ∧
      ¬nullName.PatchSafe 1
        ⟨"standard", 100, 5, 2, 1, by decide, by decide, by decide, by decide⟩ oneType
          outcome w' := by
  refine ⟨rfl, ?_⟩
  have found : ((patchOne nullName).play exec () (fun _ => {}) oneType).any (fun r =>
      (r.1.all fun e => decide (Honest e)) &&
        decide (r.2.1 = .error (.integrity (.notNull "name")))) = true := by
    decide
  obtain ⟨events, outcome, w', run, holds⟩ := Program.exists_runs_of_play
    (P := fun events outcome _ => (events.all fun e => decide (Honest e)) &&
      decide (outcome = .error (.integrity (.notNull "name")))) found
  rw [Bool.and_eq_true, List.all_eq_true] at holds
  have raised := of_decide_eq_true holds.2
  refine ⟨events, outcome, w', run, fun e mem => of_decide_eq_true (holds.1 e mem), raised, ?_⟩
  rw [raised]
  exact not_patchSafe rfl

end TicketCore
