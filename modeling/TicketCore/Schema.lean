import Mathlib.Data.Int.Basic
import Mathlib.Tactic.Linarith

/-!
# Tables, payloads and exceptions

The rows of `src/models`, the payloads of `src/schemas` and the exceptions of
`src/core/exception.py` that the booking services read, write and raise.

* `TicketType` carries the four `CHECK` constraints of its table as fields, so a stored row always
  satisfies them; `addTicketsSold` and `TicketTypeUpdate.apply` are the two ways a statement
  changes a row, and name the constraint that rejects the change.
* `Event` is a row of its own, with `EventUpdate.apply` as the way to change one.
* `Exn` is what an awaited call can raise. `isSQLAlchemyError` and `isIntegrityError` are the two
  classes the services catch.

Ids and counters are unbounded integers, and instants are integers in microseconds, the resolution
of a PostgreSQL timestamp. The column `updated_at`, which no modelled code reads, is left out.
-/

namespace TicketCore

/-! ## Rows -/

/-- The life-cycle states of a ticket reservation. -/
inductive TicketStatus
  | reserved
  | sold
  | canceled
deriving DecidableEq, Repr

/-- A row of `tickets`. -/
structure Ticket where
  ticketTypeId : Int
  ownerId : Int
  status : TicketStatus
  createdAt : Int
deriving DecidableEq, Repr

/-- A ticket that takes up a slot of its type. -/
def Ticket.Active (ticket : Ticket) : Prop := ticket.status ≠ .canceled

instance (ticket : Ticket) : Decidable ticket.Active := inferInstanceAs (Decidable (_ ≠ _))

/-- The constraints whose violation is an `IntegrityError`. -/
inductive Constraint
  | checkTicketPrice
  | checkTicketQuantity
  | checkTicketSold
  | checkSoldLimit
  | notNull (column : String)
  | fkTicketType
  | fkOwner
  | fkEvent
deriving DecidableEq, Repr

/-- `"ck_ticket_types_check_sold_limit" in error_msg or "checkviolation" in error_msg`: the driver
puts the name of its exception class, `CheckViolationError` for every `CHECK`, into the text. -/
def Constraint.isCheckViolation : Constraint → Bool
  | .checkTicketPrice | .checkTicketQuantity | .checkTicketSold | .checkSoldLimit => true
  | .notNull _ | .fkTicketType | .fkOwner | .fkEvent => false

/-- A row of `ticket_types`, with the constraints of `__table_args__`. -/
structure TicketType where
  name : String
  price : Int
  ticketsQuantity : Int
  ticketsSold : Int
  eventId : Int
  check_ticket_price : 0 ≤ price
  check_ticket_quantity : 0 < ticketsQuantity
  check_ticket_sold : 0 ≤ ticketsSold
  check_sold_limit : ticketsSold ≤ ticketsQuantity
deriving DecidableEq

/-- `SET tickets_sold = tickets_sold + delta`. PostgreSQL checks constraints in the order of their
names, so the limit comes before the sign. -/
def TicketType.addTicketsSold (row : TicketType) (delta : Int) : Except Constraint TicketType :=
  if limit : row.ticketsSold + delta ≤ row.ticketsQuantity then
    if sold : 0 ≤ row.ticketsSold + delta then
      .ok { row with
        ticketsSold := row.ticketsSold + delta
        check_ticket_sold := sold
        check_sold_limit := limit }
    else .error .checkTicketSold
  else .error .checkSoldLimit

/-- A row of `events`. -/
structure Event where
  title : String
  date : Int
  country : String
  city : String
  streetAddress : String
deriving DecidableEq, Repr

/-- The event of the examples in `src/schemas/event.py`. -/
def exampleEvent : Event :=
  ⟨"Korn Europe Tour 2026", 1767276945000000, "Poland", "Wroclaw", "Sucha 1"⟩

/-- The ticket type of the examples, of the first event: it has `quantity` tickets, at least one, of
which `sold` are sold, if there are so many. -/
def exampleType (quantity sold : Nat) : TicketType where
  name := "standard"
  price := 100
  ticketsQuantity := max 1 quantity
  ticketsSold := min sold (max 1 quantity)
  eventId := 1
  check_ticket_price := by decide
  check_ticket_quantity := by omega
  check_ticket_sold := by omega
  check_sold_limit := by omega

/-! ## Payloads -/

/-- `TicketCreate`. -/
structure TicketCreate where
  ticketTypeId : Int
  positive : 0 < ticketTypeId

/-- `TicketResponse`. -/
structure TicketResponse where
  id : Int
  ticketTypeId : Int
  status : TicketStatus
deriving DecidableEq, Repr

/-- `TicketDetailResponse`. -/
structure TicketDetailResponse where
  id : Int
  ticketTypeId : Int
  status : TicketStatus
  eventTitle : String
deriving DecidableEq, Repr

/-- `Ticket.event_title`, of a ticket with its loaded type and event. -/
def eventTitle (ticketType : Option (TicketType × Option Event)) : String :=
  match ticketType with
  | some (_, some event) => event.title
  | _ => "Unknown"

/-- `TicketPaymentSchema`. -/
structure TicketPaymentSchema where
  id : Int
  status : TicketStatus
deriving DecidableEq, Repr

/-- `TicketTypeCreate`, less the `event_id` that the endpoint passes on its own. -/
structure TicketTypeCreate where
  name : String
  price : Int
  ticketsQuantity : Int
  name_length : 1 ≤ name.length ∧ name.length ≤ 50
  price_nonneg : 0 ≤ price
  quantity_pos : 0 < ticketsQuantity

/-- The row that `TicketType(**type_dict)` inserts. -/
def TicketTypeCreate.row (data : TicketTypeCreate) (eventId : Int) : TicketType where
  name := data.name
  price := data.price
  ticketsQuantity := data.ticketsQuantity
  ticketsSold := 0
  eventId := eventId
  check_ticket_price := data.price_nonneg
  check_ticket_quantity := data.quantity_pos
  check_ticket_sold := le_rfl
  check_sold_limit := data.quantity_pos.le

/-- `TicketTypeResponse`. -/
structure TicketTypeResponse where
  id : Int
  name : String
  price : Int
  ticketsQuantity : Int
  eventId : Int
deriving DecidableEq, Repr

/-- `TicketTypeResponse.model_validate(row)`. -/
def TicketType.response (row : TicketType) (id : Int) : TicketTypeResponse :=
  ⟨id, row.name, row.price, row.ticketsQuantity, row.eventId⟩

/-- `TicketTypeDetailResponse`. -/
structure TicketTypeDetailResponse extends TicketTypeResponse where
  ticketsSold : Int
deriving DecidableEq, Repr

/-- `TicketTypeDetailResponse.model_validate(row)`. -/
def TicketType.detailResponse (row : TicketType) (id : Int) : TicketTypeDetailResponse :=
  ⟨row.response id, row.ticketsSold⟩

/-- `TicketTypeUpdate.model_dump(exclude_unset=True)`: a field is absent, null or a value. -/
structure TicketTypeUpdate where
  name : Option (Option String)
  price : Option (Option Int)
  ticketsQuantity : Option (Option Int)
  name_length : ∀ text, name = some (some text) → 1 ≤ text.length ∧ text.length ≤ 50
  price_nonneg : ∀ p, price = some (some p) → 0 ≤ p
  quantity_pos : ∀ q, ticketsQuantity = some (some q) → 0 < q

/-- `not update_dict`. -/
def TicketTypeUpdate.isEmpty (data : TicketTypeUpdate) : Bool :=
  data.name.isNone && data.price.isNone && data.ticketsQuantity.isNone

/-- `update_dict.get("tickets_quantity")`. -/
def TicketTypeUpdate.newQuantity (data : TicketTypeUpdate) : Option Int :=
  data.ticketsQuantity.join

/-- The columns a flush writes: a field set to the value it was loaded with has no net change. -/
def TicketTypeUpdate.netChange (data : TicketTypeUpdate) (loaded : TicketType) :
    TicketTypeUpdate where
  name := if data.name = some (some loaded.name) then none else data.name
  price := if data.price = some (some loaded.price) then none else data.price
  ticketsQuantity :=
    if data.ticketsQuantity = some (some loaded.ticketsQuantity) then none else data.ticketsQuantity
  name_length text some := by
    split at some
    · cases some
    · exact data.name_length text some
  price_nonneg p some := by
    split at some
    · cases some
    · exact data.price_nonneg p some
  quantity_pos q some := by
    split at some
    · cases some
    · exact data.quantity_pos q some

/-- `UPDATE ticket_types SET ...` with the given columns: `NOT NULL` first, then the one `CHECK` a
validated payload can violate. -/
def TicketTypeUpdate.apply (data : TicketTypeUpdate) (row : TicketType) :
    Except Constraint TicketType :=
  if data.name = some none then .error (.notNull "name")
  else if data.price = some none then .error (.notNull "price")
  else if data.ticketsQuantity = some none then .error (.notNull "tickets_quantity")
  else if limit : row.ticketsSold ≤ data.newQuantity.getD row.ticketsQuantity then
    .ok { row with
      name := data.name.join.getD row.name
      price := data.price.join.getD row.price
      ticketsQuantity := data.newQuantity.getD row.ticketsQuantity
      check_ticket_price := by
        cases set : data.price with
        | none => exact row.check_ticket_price
        | some value =>
            cases value with
            | none => exact row.check_ticket_price
            | some p => exact data.price_nonneg p set
      check_ticket_quantity := by
        unfold newQuantity
        cases set : data.ticketsQuantity with
        | none => exact row.check_ticket_quantity
        | some value =>
            cases value with
            | none => exact row.check_ticket_quantity
            | some q => exact data.quantity_pos q set
      check_sold_limit := limit }
  else .error .checkSoldLimit

/-! ## Payloads of events -/

/-- `EventCreate`. -/
structure EventCreate where
  title : String
  date : Int
  country : String
  city : String
  streetAddress : String
  title_length : 1 ≤ title.length ∧ title.length ≤ 100
  country_length : 1 ≤ country.length ∧ country.length ≤ 100
  city_length : 1 ≤ city.length ∧ city.length ≤ 100
  street_address_length : 1 ≤ streetAddress.length ∧ streetAddress.length ≤ 100

/-- The row that `Event(**event_data.model_dump())` inserts. -/
def EventCreate.row (data : EventCreate) : Event :=
  ⟨data.title, data.date, data.country, data.city, data.streetAddress⟩

/-- `EventResponse`. -/
structure EventResponse where
  id : Int
  title : String
  date : Int
  country : String
  city : String
  streetAddress : String
deriving DecidableEq, Repr

/-- `EventResponse.model_validate(event)`. -/
def Event.response (event : Event) (id : Int) : EventResponse :=
  ⟨id, event.title, event.date, event.country, event.city, event.streetAddress⟩

/-- `EventDetailResponse`. -/
structure EventDetailResponse extends EventResponse where
  ticketTypes : List TicketTypeResponse
deriving DecidableEq, Repr

/-- `EventDetailResponse.model_validate(event)`, of an event with its loaded ticket types. -/
def Event.detailResponse (event : Event) (id : Int) (ticketTypes : List (Int × TicketType)) :
    EventDetailResponse :=
  ⟨event.response id, ticketTypes.map fun (typeId, row) => row.response typeId⟩

/-- A text field of an update: absent, null, or a text of one to a hundred characters. -/
def ShortText (field : Option (Option String)) : Prop :=
  ∀ text, field = some (some text) → 1 ≤ text.length ∧ text.length ≤ 100

/-- An absent field. -/
theorem shortText_none : ShortText none := by
  intro text given
  cases given

/-- `EventUpdate.model_dump(exclude_unset=True)`: a field is absent, null or a value. -/
structure EventUpdate where
  title : Option (Option String)
  date : Option (Option Int)
  country : Option (Option String)
  city : Option (Option String)
  streetAddress : Option (Option String)
  title_length : ShortText title
  country_length : ShortText country
  city_length : ShortText city
  street_address_length : ShortText streetAddress

/-- `not update_dict`. -/
def EventUpdate.isEmpty (data : EventUpdate) : Bool :=
  data.title.isNone && data.date.isNone && data.country.isNone && data.city.isNone &&
    data.streetAddress.isNone

/-- `setattr(event, key, value)` for each field that is set to a value. -/
def EventUpdate.setAttributes (data : EventUpdate) (event : Event) : Event where
  title := data.title.join.getD event.title
  date := data.date.join.getD event.date
  country := data.country.join.getD event.country
  city := data.city.join.getD event.city
  streetAddress := data.streetAddress.join.getD event.streetAddress

/-- The first column that is set to null, in the order of the table. -/
def EventUpdate.nullColumn (data : EventUpdate) : Option String :=
  if data.title = some none then some "title"
  else if data.date = some none then some "date"
  else if data.country = some none then some "country"
  else if data.city = some none then some "city"
  else if data.streetAddress = some none then some "street_address"
  else none

/-- The fields that differ from the loaded row; the others have no net change. -/
def EventUpdate.netChange (data : EventUpdate) (loaded : Event) : EventUpdate where
  title := if data.title = some (some loaded.title) then none else data.title
  date := if data.date = some (some loaded.date) then none else data.date
  country := if data.country = some (some loaded.country) then none else data.country
  city := if data.city = some (some loaded.city) then none else data.city
  streetAddress :=
    if data.streetAddress = some (some loaded.streetAddress) then none else data.streetAddress
  title_length text set := by
    split at set
    · cases set
    · exact data.title_length text set
  country_length text set := by
    split at set
    · cases set
    · exact data.country_length text set
  city_length text set := by
    split at set
    · cases set
    · exact data.city_length text set
  street_address_length text set := by
    split at set
    · cases set
    · exact data.street_address_length text set

/-- `UPDATE events SET ...` with the given columns. -/
def EventUpdate.apply (data : EventUpdate) (row : Event) : Except Constraint Event :=
  match data.nullColumn with
  | some column => .error (.notNull column)
  | none => .ok (data.setAttributes row)

/-! ## Exceptions -/

/-- The domain errors of `src/core/exception.py` that the modelled services raise. -/
inductive DomainError
  | ticketsSoldOutError
  | ticketNotFoundError
  | ticketTypeNotFoundError
  | ticketTypeDeleteError
  | ticketTypeQuantity
  | idempotencyConflictError
  | idempotencyStateError
  | ticketReservationExpireError
  | ticketAlreadyPaidError
  | eventNotFoundError
  | eventDeleteError
  | emptyUpdateDataError
deriving DecidableEq, Repr

/-- What an awaited call can raise. -/
inductive Exn
  /-- A domain error with its text. -/
  | domain (error : DomainError) (message : String)
  /-- An `IntegrityError` of the database. -/
  | integrity (violated : Constraint)
  /-- Any other `SQLAlchemyError`. -/
  | sqlalchemy
  /-- An error of Redis or of the job queue, which lives in Redis. -/
  | redis
  /-- A `ValueError`. -/
  | value
deriving DecidableEq, Repr

/-- `isinstance(e, IntegrityError)`. -/
def Exn.isIntegrityError : Exn → Bool
  | .integrity _ => true
  | _ => false

/-- An `IntegrityError` whose text says that a `CHECK` was violated. -/
def Exn.isCheckViolation : Exn → Bool
  | .integrity violated => violated.isCheckViolation
  | _ => false

/-- `isinstance(e, SQLAlchemyError)`. -/
def Exn.isSQLAlchemyError : Exn → Bool
  | .integrity _ | .sqlalchemy => true
  | _ => false

/-! ## What the two updates of a ticket type change -/

variable {row row' : TicketType} {delta : Int}

theorem TicketType.addTicketsSold_ok (h : row.addTicketsSold delta = .ok row') :
    row'.ticketsSold = row.ticketsSold + delta ∧
      row'.ticketsQuantity = row.ticketsQuantity := by
  unfold addTicketsSold at h
  split at h
  · split at h
    · cases h; exact ⟨rfl, rfl⟩
    · cases h
  · cases h

/-- The statement goes through exactly when the new count is between zero and the quantity. -/
theorem TicketType.addTicketsSold_isOk (lower : 0 ≤ row.ticketsSold + delta)
    (upper : row.ticketsSold + delta ≤ row.ticketsQuantity) :
    ∃ row', row.addTicketsSold delta = .ok row' := by
  unfold addTicketsSold
  rw [dif_pos upper, dif_pos lower]
  exact ⟨_, rfl⟩

theorem TicketType.addTicketsSold_error {violated : Constraint}
    (h : row.addTicketsSold delta = .error violated) :
    (violated = .checkSoldLimit ∧ row.ticketsQuantity < row.ticketsSold + delta) ∨
      (violated = .checkTicketSold ∧ row.ticketsSold + delta < 0) := by
  unfold addTicketsSold at h
  split at h
  · split at h
    · cases h
    · rename_i negative
      cases h; exact .inr ⟨rfl, not_le.mp negative⟩
  · rename_i beyond
    cases h; exact .inl ⟨rfl, not_le.mp beyond⟩

theorem TicketTypeUpdate.apply_ok {data : TicketTypeUpdate} (h : data.apply row = .ok row') :
    row'.ticketsSold = row.ticketsSold := by
  unfold apply at h
  split at h
  · cases h
  split at h
  · cases h
  split at h
  · cases h
  split at h
  · cases h; rfl
  · cases h

theorem TicketTypeUpdate.apply_quantity {data : TicketTypeUpdate} (h : data.apply row = .ok row') :
    row'.ticketsQuantity = data.newQuantity.getD row.ticketsQuantity := by
  unfold apply at h
  split at h
  · cases h
  split at h
  · cases h
  split at h
  · cases h
  split at h
  · cases h; rfl
  · cases h

theorem TicketTypeUpdate.apply_event {data : TicketTypeUpdate} (h : data.apply row = .ok row') :
    row'.eventId = row.eventId := by
  unfold apply at h
  split at h
  · cases h
  split at h
  · cases h
  split at h
  · cases h
  split at h
  · cases h; rfl
  · cases h

theorem TicketTypeUpdate.apply_error {data : TicketTypeUpdate} {violated : Constraint}
    (h : data.apply row = .error violated) : violated ≠ .checkTicketSold := by
  unfold apply at h
  split at h
  · cases h; nofun
  split at h
  · cases h; nofun
  split at h
  · cases h; nofun
  split at h
  · cases h
  · cases h; nofun

end TicketCore
