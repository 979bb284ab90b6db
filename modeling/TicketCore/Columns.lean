import TicketCore.World

/-!
# What a column holds

The limits of the column types of `ticket_types` and `events`, as the migration creates them:
lengths, 32-bit integers, texts and instants. A parameter that the driver cannot send as a value of
its column fails the statement before it is executed.

* `Sets` says what a field of a partial update does to the stored value; `sets_net` and its
  companions relate it to the flush, which leaves out what has no net change.
* `TicketType.Fits` and `Event.Fits` are the limits of a stored row, beyond the constraints that a
  `TicketType` carries.
* `TicketTypeUpdate.apply_netChange` and `EventUpdate.apply_netChange`: what the flush of an update
  stores.
* `Cmd.rejection` is the error of a statement with a parameter that cannot be sent.
-/

namespace TicketCore

open Interleave

/-! ## Fields of a partial update -/

section Fields

variable {α : Type} [DecidableEq α] {field : Option (Option α)} {old new : α}

/-- An absent field keeps the stored value, a given one replaces it, and null is never stored. -/
def Sets (field : Option (Option α)) (old new : α) : Prop :=
  field.elim (new = old) fun value => value = some new

/-- A field that is set to the stored value has no net change. -/
def netField (field : Option (Option α)) (old : α) : Option (Option α) :=
  if field = some (some old) then none else field

theorem netField_eq_null : netField field old = some none ↔ field = some none := by
  unfold netField
  split
  · rename_i same
    rw [same]
    exact ⟨nofun, nofun⟩
  · exact Iff.rfl

theorem getD_netField : (netField field old).join.getD old = field.join.getD old := by
  unfold netField
  split
  · rename_i same
    rw [same]
    rfl
  · rfl

/-- What is written for a field. -/
theorem sets_net (given : field ≠ some none) :
    Sets field old ((netField field old).join.getD old) := by
  rw [getD_netField]
  match field with
  | none => rfl
  | some none => exact (given rfl).elim
  | some (some value) => rfl

/-- A field without net change. -/
theorem sets_of_netField_none (none : netField field old = none) : Sets field old old := by
  unfold netField at none
  split at none
  · rename_i same
    rw [same]
    rfl
  · rw [none]
    rfl

/-- A limit that the stored value keeps is kept by a field when it is kept by its net change. -/
theorem all_netField {limit : α → Bool} (kept : limit old = true) :
    (netField field old).join.all limit = field.join.all limit := by
  unfold netField
  split
  · rename_i same
    rw [same]
    exact kept.symm
  · rfl

end Fields

/-! ## Column types -/

/-- The range of an `INTEGER`. -/
def fitsInteger (n : Int) : Bool := -2147483648 ≤ n && n ≤ 2147483647

/-- The texts of a `VARCHAR`: a NUL character cannot be stored. -/
def fitsText (text : String) : Bool := text.toList.all (· ≠ '\x00')

/-- The instants that the driver sends for a `TIMESTAMP WITH TIME ZONE`: those from the year 1 to
the year 9999 in UTC. -/
def fitsTimestamp (instant : Int) : Bool :=
  -62135596800000000 ≤ instant && instant ≤ 253402300799999999

/-- The limits of a row of `ticket_types`. -/
structure TicketType.Fits (row : TicketType) : Prop where
  name_length : row.name.length ≤ 50
  name : fitsText row.name = true
  price : fitsInteger row.price = true
  ticketsQuantity : fitsInteger row.ticketsQuantity = true
  ticketsSold : fitsInteger row.ticketsSold = true
  eventId : fitsInteger row.eventId = true

/-- The limits of a text column of `events`. -/
def FitsColumn (text : String) : Prop := text.length ≤ 100 ∧ fitsText text = true

/-- The limits of a row of `events`. -/
structure Event.Fits (event : Event) : Prop where
  title : FitsColumn event.title
  date : fitsTimestamp event.date = true
  country : FitsColumn event.country
  city : FitsColumn event.city
  streetAddress : FitsColumn event.streetAddress

/-! ## Updates of ticket types -/

/-- `{"tickets_quantity": q}`. -/
def quantityOnly (q : Int) (pos : 0 < q) : TicketTypeUpdate where
  name := none
  price := none
  ticketsQuantity := some (some q)
  name_length := nofun
  price_nonneg := nofun
  quantity_pos _ given := by
    cases given
    exact pos

/-- `{"name": null}`. -/
def nullName : TicketTypeUpdate where
  name := some none
  price := none
  ticketsQuantity := none
  name_length := nofun
  price_nonneg := nofun
  quantity_pos := nofun

namespace TicketTypeUpdate

variable {data : TicketTypeUpdate} {row row' : TicketType}

/-- Every value can be sent. -/
def sendable (data : TicketTypeUpdate) : Bool :=
  data.name.join.all fitsText && data.price.join.all fitsInteger &&
    data.ticketsQuantity.join.all fitsInteger

/-- No field is null. -/
def NoNull (data : TicketTypeUpdate) : Prop :=
  data.name ≠ some none ∧ data.price ≠ some none ∧ data.ticketsQuantity ≠ some none

instance (data : TicketTypeUpdate) : Decidable data.NoNull := inferInstanceAs (Decidable (_ ∧ _))

/-- The given fields are replaced, and the others are kept. -/
structure Stores (data : TicketTypeUpdate) (row row' : TicketType) : Prop where
  name : Sets data.name row.name row'.name
  price : Sets data.price row.price row'.price
  ticketsQuantity : Sets data.ticketsQuantity row.ticketsQuantity row'.ticketsQuantity
  ticketsSold : row'.ticketsSold = row.ticketsSold
  eventId : row'.eventId = row.eventId

theorem noNull_netChange : (data.netChange row).NoNull ↔ data.NoNull :=
  and_congr (not_congr netField_eq_null)
    (and_congr (not_congr netField_eq_null) (not_congr netField_eq_null))

theorem sendable_netChange (fits : row.Fits) : (data.netChange row).sendable = data.sendable := by
  have name : (data.netChange row).name.join.all fitsText = data.name.join.all fitsText :=
    all_netField fits.name
  have price : (data.netChange row).price.join.all fitsInteger = data.price.join.all fitsInteger :=
    all_netField fits.price
  have quantity : (data.netChange row).ticketsQuantity.join.all fitsInteger =
      data.ticketsQuantity.join.all fitsInteger := all_netField fits.ticketsQuantity
  unfold sendable
  rw [name, price, quantity]

theorem newQuantity_netChange :
    (data.netChange row).newQuantity.getD row.ticketsQuantity =
      data.newQuantity.getD row.ticketsQuantity :=
  getD_netField

/-- What is written, when no column is set to null. -/
theorem apply_eq (given : data.NoNull)
    (limit : row.ticketsSold ≤ data.newQuantity.getD row.ticketsQuantity) :
    ∃ row', data.apply row = .ok row' ∧ row'.name = data.name.join.getD row.name ∧
      row'.price = data.price.join.getD row.price ∧
      row'.ticketsQuantity = data.newQuantity.getD row.ticketsQuantity ∧
      row'.ticketsSold = row.ticketsSold ∧ row'.eventId = row.eventId := by
  unfold apply
  rw [if_neg given.1, if_neg given.2.1, if_neg given.2.2, dif_pos limit]
  exact ⟨_, rfl, rfl, rfl, rfl, rfl, rfl⟩

/-- A column that is set to null fails the statement. -/
theorem apply_null (null : ¬data.NoNull) : ∃ violated, data.apply row = .error violated := by
  unfold apply
  split
  · exact ⟨_, rfl⟩
  split
  · exact ⟨_, rfl⟩
  split
  · exact ⟨_, rfl⟩
  · rename_i name price quantity
    exact absurd ⟨name, price, quantity⟩ null

/-- **The flush of an update** replaces the given fields and keeps the others. -/
theorem apply_netChange (given : data.NoNull)
    (limit : row.ticketsSold ≤ data.newQuantity.getD row.ticketsQuantity) :
    ∃ row', (data.netChange row).apply row = .ok row' ∧ data.Stores row row' := by
  rw [← newQuantity_netChange] at limit
  obtain ⟨row', ok, name, price, quantity, sold, event⟩ :=
    apply_eq (noNull_netChange.mpr given) limit
  refine ⟨row', ok, ?_, ?_, ?_, sold, event⟩
  · rw [name]
    exact sets_net given.1
  · rw [price]
    exact sets_net given.2.1
  · rw [quantity]
    exact sets_net given.2.2

/-- An update without net change stores the row that is there. -/
theorem stores_of_isEmpty (empty : (data.netChange row).isEmpty = true) : data.Stores row row := by
  unfold isEmpty at empty
  rw [Bool.and_eq_true, Bool.and_eq_true] at empty
  exact ⟨sets_of_netField_none (Option.isNone_iff_eq_none.mp empty.1.1),
    sets_of_netField_none (Option.isNone_iff_eq_none.mp empty.1.2),
    sets_of_netField_none (Option.isNone_iff_eq_none.mp empty.2), rfl, rfl⟩

end TicketTypeUpdate

/-- A stored value is the one that was given or the old one, so it keeps a limit that both keep. -/
theorem Sets.limit {α : Type} {field : Option (Option α)} {old new : α}
    (sets : Sets field old new) (limit : α → Prop) (kept : limit old)
    (given : ∀ value, field = some (some value) → limit value) : limit new := by
  match field with
  | none =>
      have same : new = old := sets
      rw [same]
      exact kept
  | some value =>
      have same : value = some new := sets
      exact given new (by rw [same])

/-- A null field stores nothing. -/
theorem Sets.given {α : Type} {field : Option (Option α)} {old new : α}
    (sets : Sets field old new) :
    field ≠ some none := by
  rintro rfl
  cases sets

theorem join_all {α : Type} {field : Option (Option α)} {limit : α → Bool}
    (all : field.join.all limit = true) : ∀ value, field = some (some value) →
      limit value = true := by
  rintro value rfl
  exact all

/-- What an update of sendable values stores keeps the limits of the table. -/
theorem TicketTypeUpdate.Stores.fits {data : TicketTypeUpdate} {row row' : TicketType}
    (stores : data.Stores row row') (fits : row.Fits) (sends : data.sendable = true) :
    row'.Fits := by
  unfold sendable at sends
  rw [Bool.and_eq_true, Bool.and_eq_true] at sends
  exact
    { name_length := stores.name.limit (fun text => text.length ≤ 50) fits.name_length
        fun text given => (data.name_length text given).2
      name := stores.name.limit (fun text => fitsText text = true) fits.name
        (join_all sends.1.1)
      price := stores.price.limit (fun n => fitsInteger n = true) fits.price
        (join_all sends.1.2)
      ticketsQuantity := stores.ticketsQuantity.limit (fun n => fitsInteger n = true)
        fits.ticketsQuantity (join_all sends.2)
      ticketsSold := stores.ticketsSold ▸ fits.ticketsSold
      eventId := stores.eventId ▸ fits.eventId }

/-! ## Updates of events -/

namespace EventUpdate

variable {data : EventUpdate} {event event' : Event}

/-- Every value can be sent. -/
def sendable (data : EventUpdate) : Bool :=
  data.title.join.all fitsText && data.date.join.all fitsTimestamp &&
    data.country.join.all fitsText &&
    data.city.join.all fitsText && data.streetAddress.join.all fitsText

/-- No field is null. -/
def NoNull (data : EventUpdate) : Prop := data.nullColumn = none

instance (data : EventUpdate) : Decidable data.NoNull := inferInstanceAs (Decidable (_ = _))

/-- The given fields are replaced, and the others are kept. -/
structure Stores (data : EventUpdate) (event event' : Event) : Prop where
  title : Sets data.title event.title event'.title
  date : Sets data.date event.date event'.date
  country : Sets data.country event.country event'.country
  city : Sets data.city event.city event'.city
  streetAddress : Sets data.streetAddress event.streetAddress event'.streetAddress

theorem noNull_iff : data.NoNull ↔ data.title ≠ some none ∧ data.date ≠ some none ∧
    data.country ≠ some none ∧ data.city ≠ some none ∧
    data.streetAddress ≠ some none := by
  unfold NoNull nullColumn
  split
  · rename_i null
    exact ⟨nofun, fun given => absurd null given.1⟩
  rename_i title
  split
  · rename_i null
    exact ⟨nofun, fun given => absurd null given.2.1⟩
  rename_i date
  split
  · rename_i null
    exact ⟨nofun, fun given => absurd null given.2.2.1⟩
  rename_i country
  split
  · rename_i null
    exact ⟨nofun, fun given => absurd null given.2.2.2.1⟩
  rename_i city
  split
  · rename_i null
    exact ⟨nofun, fun given => absurd null given.2.2.2.2⟩
  rename_i streetAddress
  exact ⟨fun _ => ⟨title, date, country, city, streetAddress⟩, fun _ => rfl⟩

theorem noNull_netChange : (data.netChange event).NoNull ↔ data.NoNull := by
  rw [noNull_iff, noNull_iff]
  exact and_congr (not_congr netField_eq_null) <| and_congr (not_congr netField_eq_null) <|
    and_congr (not_congr netField_eq_null) <|
      and_congr (not_congr netField_eq_null) (not_congr netField_eq_null)

theorem sendable_netChange (fits : event.Fits) :
    (data.netChange event).sendable = data.sendable := by
  have title : (data.netChange event).title.join.all fitsText = data.title.join.all fitsText :=
    all_netField fits.title.2
  have date : (data.netChange event).date.join.all fitsTimestamp =
      data.date.join.all fitsTimestamp :=
    all_netField fits.date
  have country : (data.netChange event).country.join.all fitsText =
      data.country.join.all fitsText :=
    all_netField fits.country.2
  have city : (data.netChange event).city.join.all fitsText = data.city.join.all fitsText :=
    all_netField fits.city.2
  have street : (data.netChange event).streetAddress.join.all fitsText =
      data.streetAddress.join.all fitsText := all_netField fits.streetAddress.2
  unfold sendable
  rw [title, date, country, city, street]

/-- A column that is set to null fails the statement. -/
theorem apply_null (null : ¬data.NoNull) : ∃ violated, data.apply event = .error violated := by
  unfold apply
  split
  · exact ⟨_, rfl⟩
  · rename_i absent
    exact absurd absent null

/-- **The flush of an update** replaces the given fields and keeps the others. -/
theorem apply_netChange (given : data.NoNull) :
    ∃ event', (data.netChange event).apply event = .ok event' ∧ data.Stores event event' := by
  have absent : (data.netChange event).nullColumn = none := noNull_netChange.mpr given
  obtain ⟨title, date, country, city, street⟩ := noNull_iff.mp given
  unfold apply
  rw [absent]
  exact ⟨_, rfl, sets_net title, sets_net date, sets_net country, sets_net city,
    sets_net street⟩

/-- An update without net change stores the row that is there. -/
theorem stores_of_isEmpty (empty : (data.netChange event).isEmpty = true) :
    data.Stores event event := by
  unfold isEmpty at empty
  rw [Bool.and_eq_true, Bool.and_eq_true, Bool.and_eq_true, Bool.and_eq_true] at empty
  obtain ⟨⟨⟨⟨title, date⟩, country⟩, city⟩, street⟩ := empty
  exact ⟨sets_of_netField_none (Option.isNone_iff_eq_none.mp title),
    sets_of_netField_none (Option.isNone_iff_eq_none.mp date),
    sets_of_netField_none (Option.isNone_iff_eq_none.mp country),
    sets_of_netField_none (Option.isNone_iff_eq_none.mp city),
    sets_of_netField_none (Option.isNone_iff_eq_none.mp street)⟩

/-- A text column of an event keeps its limits. -/
theorem fitsColumn_of_sets {field : Option (Option String)} {old new : String}
    (sets : Sets field old new) (kept : FitsColumn old) (short : ShortText field)
    (sends : field.join.all fitsText = true) : FitsColumn new :=
  sets.limit FitsColumn kept fun text given =>
    ⟨(short text given).2, join_all sends text given⟩

/-- What an update of sendable values stores keeps the limits of the table. -/
theorem Stores.fits (stores : data.Stores event event') (fits : event.Fits)
    (sends : data.sendable = true) : event'.Fits := by
  unfold sendable at sends
  rw [Bool.and_eq_true, Bool.and_eq_true, Bool.and_eq_true, Bool.and_eq_true] at sends
  obtain ⟨⟨⟨⟨title, date⟩, country⟩, city⟩, street⟩ := sends
  exact
    { title := fitsColumn_of_sets stores.title fits.title data.title_length title
      date := stores.date.limit (fun n => fitsTimestamp n = true) fits.date (join_all date)
      country := fitsColumn_of_sets stores.country fits.country data.country_length country
      city := fitsColumn_of_sets stores.city fits.city data.city_length city
      streetAddress :=
        fitsColumn_of_sets stores.streetAddress fits.streetAddress
          data.street_address_length street }

end EventUpdate

/-! ## Statements that are not executed -/

/-- The error of a statement with a parameter that cannot be sent: the driver's `DataError`, which
is a `SQLAlchemyError` and no `IntegrityError`. -/
def Cmd.rejection : Cmd → Option Exn
  | .db (.updateTicketType _ data) => if data.sendable then none else some .sqlalchemy
  | .db (.updateEvent _ data) => if data.sendable then none else some .sqlalchemy
  | _ => none

/-- No call fails but a statement with a parameter that cannot be sent. -/
def Honest {ι : Type} (e : CallEvent ι) : Prop := e.choice.fault = e.cmd.rejection

instance {ι : Type} (e : CallEvent ι) : Decidable (Honest e) :=
  inferInstanceAs (Decidable (_ = _))

end TicketCore
