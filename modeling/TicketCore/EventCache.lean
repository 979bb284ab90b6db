import TicketCore.Booking.Runs
import TicketCore.Cache.Coherence
import TicketCore.Cache.Programs
import Mathlib.Data.Fin.VecNotation
import Mathlib.Tactic.FinCases

/-!
# The cached entry of an event

A reader that misses the entry reads the event and its ticket types and stores what it has read; a
writer commits and deletes the entry. A reader that has read before the commit may store after the
deletion, and the entry is then out of date for a day.

* `event_cache_coherent_iff`: with no call in flight, the entry is what is committed if and only if
  the last write of the entry was not a `SET` of something else than was committed at the time.
-/

namespace TicketCore

open Interleave RowStore Cache

variable {ι : Type} [DecidableEq ι]

/-- The DTO is that of the event and its ticket types as they are committed. -/
def Shows (db : Database ι) (eventId : Int) (eventDto : EventDetailResponse) : Prop :=
  ∃ (event : Event) (ids : List Int), db.events.row eventId = some event ∧ ids.Nodup ∧
    (∀ id, id ∈ ids ↔ (db.ticketTypes.row id).any fun row => row.eventId = eventId) ∧
    eventDto = event.detailResponse eventId
      (ids.filterMap fun id => (db.ticketTypes.row id).map fun row => (id, row))

omit [DecidableEq ι] in
theorem Shows.of_rows {db db' : Database ι} {eventId : Int} {eventDto : EventDetailResponse}
    (h : Shows db eventId eventDto) (events : db'.events.row = db.events.row)
    (types : db'.ticketTypes.row = db.ticketTypes.row) : Shows db' eventId eventDto := by
  unfold Shows
  rw [events, types]
  exact h

section Entry

variable (d : Deployment) (eventId : Int)

/-- A `SET` or a `DEL` of the entry. -/
def writesEntry (e : CallEvent ι) : Bool :=
  match e.cmd with
  | .redis n (.setEventStatic id _ _) | .redis n (.deleteEventStatic id) =>
      n = d.apiRedis && id = eventId
  | _ => false

/-- A `SET` of something else than is committed at the time. -/
def Stale (e : CallEvent ι) : Prop :=
  ∃ eventDto ttl, e.cmd = .redis d.apiRedis (.setEventStatic eventId eventDto ttl) ∧
    ¬ Shows e.before.db eventId eventDto

/-- The last call that has written the entry. -/
def lastWrite (events : List (CallEvent ι)) : Option (CallEvent ι) :=
  (events.filter (writesEntry d eventId)).getLast?

/-- The last write of the entry is not stale. -/
def LeftFresh (events : List (CallEvent ι)) : Prop :=
  ∀ e, lastWrite d eventId events = some e → ¬ Stale d eventId e

variable {d eventId} {events : List (CallEvent ι)} {e : CallEvent ι}

omit [DecidableEq ι] in
theorem leftFresh_snoc (writes : writesEntry d eventId e = true) :
    LeftFresh d eventId (events ++ [e]) ↔ ¬ Stale d eventId e := by
  have last : lastWrite d eventId (events ++ [e]) = some e := by
    rw [lastWrite, List.filter_append, List.filter_cons_of_pos writes, List.filter_nil,
      List.getLast?_concat]
  unfold LeftFresh
  rw [last]
  exact ⟨fun fresh => fresh e rfl, fun fresh e' same => by cases same; exact fresh⟩

omit [DecidableEq ι] in
theorem leftFresh_other (leaves : writesEntry d eventId e = false) :
    LeftFresh d eventId (events ++ [e]) ↔ LeftFresh d eventId events := by
  have last : lastWrite d eventId (events ++ [e]) = lastWrite d eventId events := by
    rw [lastWrite, List.filter_append, List.filter_cons_of_neg (by rw [leaves]; exact nofun),
      List.filter_nil, List.append_nil]
    rfl
  unfold LeftFresh
  rw [last]

end Entry

/-- The ticket type is of the event, if it is there. -/
def TypeOf (db : Database ι) (eventId id : Int) : Prop :=
  ∀ row, db.ticketTypes.row id = some row → row.eventId = eventId

/-- A call that reads the event, or changes it or its ticket types. -/
def OnEvent (db : Database ι) (eventId : Int) : Activity → Prop
  | .getEvent id | .updateEvent id _ | .deleteEvent id | .operation
    (.createType id _) => id = eventId
  | .operation (.updateType id _) | .operation (.deleteType id) => TypeOf db eventId id
  | _ => False

omit [DecidableEq ι] in
theorem OnEvent.concerns {db : Database ι} {eventId : Int} {activity : Activity}
    (h : OnEvent db eventId activity) : Concerns (· = eventId) (TypeOf db eventId) activity := by
  cases activity with
  | getEvent id | updateEvent id updateData | deleteEvent id => exact h
  | operation op =>
      cases op with
      | createType id typeData | updateType id updateData | deleteType id => exact h
      | _ => exact h.elim
  | _ => exact h.elim

omit [DecidableEq ι] in
theorem OnEvent.onEntries {db : Database ι} {eventId : Int} {activity : Activity}
    (h : OnEvent db eventId activity) : OnEntries activity := by
  cases activity with
  | getEvent id | updateEvent id updateData | deleteEvent id => trivial
  | operation op =>
      cases op with
      | createType id typeData | updateType id updateData | deleteType id => trivial
      | _ => exact h.elim
  | _ => exact h.elim

namespace Cache

variable {d : Deployment} {eventId : Int} {Named : Int → Prop} {events : List (CallEvent ι)}
  {w w' : World ι} {ghost : ι → Errand} {t : ι} {g g' : Errand} {cmd : Cmd} {choice : Choice}
  {answer : Except Exn cmd.Resp}

/-! ## The types that are named -/

/-- The ticket types that are named are of the event, in every version. -/
def NamedOf (Named : Int → Prop) (eventId : Int) (s : RowStore ι TicketType) : Prop :=
  ∀ id row, s.Version id row → Named id → row.eventId = eventId

theorem NamedOf.step (h : NamedOf Named eventId w.db.ticketTypes) (found : g ≠ .lost)
    (step : Step d (· = eventId) Named g cmd answer g')
    (ran : exec t cmd choice w = some (answer, w')) : NamedOf Named eventId w'.db.ticketTypes := by
  have of_types : w'.db.ticketTypes = w.db.ticketTypes →
      NamedOf Named eventId w'.db.ticketTypes :=
    fun same => by rwa [same]
  have of_raised : ∀ {e : Exn}, exec t cmd choice w = some (.error e, w') →
      NamedOf Named eventId w'.db.ticketTypes := fun failed => by
    rcases (raised failed).2 with same | same | same
    · exact of_types (by rw [same])
    · exact of_types (by rw [same])
    · rw [same]
      exact h
  cases step with
  | lost => exact (found rfl).elim
  | fault | refused _ | astray => exact of_raised ran
  | apart _ apart => exact of_types (apart.same ran).2
  | look _ | see | load | page | reread =>
      exact of_types
        (Apart.same (by exact ⟨not_false, fun _ => not_false, fun _ => not_false⟩) ran).2
  | rolled _ | closed _ =>
      obtain ⟨_, done, rfl⟩ := ran_db ran
      cases done
      exact fun id row version => h id row version.of_rollback
  | commit _ | pledge =>
      obtain ⟨_, done, rfl⟩ := ran_db ran
      cases done
      exact fun id row version => h id row version.of_commit
  | insert about =>
      obtain ⟨_, done, rfl⟩ := ran_db ran
      rcases DbCmd.run_insertTicketType done with ⟨failed, _⟩ | ⟨_, rfl⟩
      · cases failed
      intro id row version named
      rcases version.of_insert with old | ⟨_, rfl⟩
      · exact h id row old named
      · exact about
  | @edit ticketTypeId net =>
      obtain ⟨_, done, rfl⟩ := ran_db ran
      rcases DbCmd.run_updateTicketType done with
        ⟨failed, _⟩ | ⟨row, read, ⟨row', ok, _, rfl⟩ | ⟨_, _, failed, _⟩⟩
      · cases failed
      · intro id version held named
        rcases held.of_hold with old | ⟨rfl, same⟩
        · exact h id version old named
        · cases same
          rw [TicketTypeUpdate.apply_event ok]
          exact h id row (version_of_read read) named
      · cases failed
  | @work _ statement _ _ works =>
      obtain ⟨_, done, rfl⟩ := ran_db ran
      cases statement with
      | deleteTicketType id =>
          rcases DbCmd.run_deleteTicketType done with
            ⟨failed, _⟩ | ⟨_, _, rfl | ⟨_, rfl⟩⟩
          · cases failed
          · exact h
          · intro id' row version named
            rcases version.of_hold with old | ⟨_, absent⟩
            · exact h id' row old named
            · cases absent
      | insertEvent data | updateEvent id data | deleteEvent id ids =>
          have moved := DbCmd.moved (by exact not_false) done
          exact of_types (moved.ticketTypes.still (fun _ => not_false) not_false)
      | _ => exact works.elim
  | warm _ | drop _ | bump | store _ | key | keyless | miss | keep =>
      exact of_types (by rw [db_of_redis ran])

/-- What a call finds under the ids that are named. -/
theorem NamedOf.finds (h : NamedOf Named eventId w.db.ticketTypes)
    (ran : exec t cmd choice w = some (answer, w')) : Finds (· = eventId) Named cmd answer := by
  cases cmd with
  | db statement =>
      cases answer with
      | error e => cases statement <;> trivial
      | ok a =>
          obtain ⟨_, done, rfl⟩ := ran_db ran
          cases statement with
          | getTicketType id =>
              have read := (DbCmd.run_getTicketType done).1
              cases a with
              | none => trivial
              | some row => exact h id row (version_of_read (Except.ok.inj read).symm)
          | refreshTicketType id =>
              rcases (DbCmd.run_refreshTicketType done).2 with
                ⟨_, failed⟩ | ⟨row, read, same⟩
              · cases failed
              · cases same
                exact h id a (version_of_read read)
          | _ => trivial
  | _ => trivial

/-! ## The entry -/

/-- The call is yet to delete the entry, which may be out of date: it has committed a change. -/
def Owes (types : Int → Option TicketType) : Errand → Prop
  | .dirty => True
  | .pledged id => (types id).isSome
  | _ => False

/-- What holds of the cached entry: while no call owes its deletion, it is up to date if and only if
the last write of it was. -/
structure Entry (d : Deployment) (eventId : Int) (Named : Int → Prop)
    (events : List (CallEvent ι)) (w : World ι) (ghost : ι → Errand) : Prop where
  found : ∀ t, ghost t ≠ .lost
  named : NamedOf Named eventId w.db.ticketTypes
  missing : (w.redis d.apiRedis).eventStatic eventId = none → LeftFresh d eventId events
  cached : ∀ cached, (w.redis d.apiRedis).eventStatic eventId = some cached →
    (∃ u, Owes w.db.ticketTypes.row (ghost u)) ∨
      (Shows w.db eventId cached.value ↔ LeftFresh d eventId events)

/-- A step that leaves the entry and the committed rows alone, and pays no debt. -/
theorem Entry.still (h : Entry d eventId Named events w ghost) (found : g' ≠ .lost)
    (named : NamedOf Named eventId w'.db.ticketTypes)
    (leaves : writesEntry d eventId (⟨t, cmd, choice, answer, w, w'⟩ : CallEvent ι) = false)
    (entry : (w'.redis d.apiRedis).eventStatic = (w.redis d.apiRedis).eventStatic)
    (rows : w'.db.events.row = w.db.events.row ∧ w'.db.ticketTypes.row = w.db.ticketTypes.row)
    (owes : Owes w.db.ticketTypes.row (ghost t) → Owes w.db.ticketTypes.row g') :
    Entry d eventId Named (events ++ [⟨t, cmd, choice, answer, w, w'⟩]) w'
      (Function.update ghost t g') where
  found := (Function.forall_update_iff ghost fun _ g => g ≠ .lost).mpr
    ⟨found, fun u _ => h.found u⟩
  named := named
  missing absent := by
    rw [entry] at absent
    exact (leftFresh_other leaves).mpr (h.missing absent)
  cached cached stored := by
    rw [entry] at stored
    rcases h.cached cached stored with ⟨u, debt⟩ | shows
    · refine .inl ?_
      rw [rows.2]
      by_cases same : u = t
      · subst same
        exact ⟨u, by rw [Function.update_self]; exact owes debt⟩
      · exact ⟨u, by rwa [Function.update_of_ne same]⟩
    · refine .inr ?_
      rw [leftFresh_other leaves, ← shows]
      exact ⟨fun now => now.of_rows rows.1.symm rows.2.symm,
        fun before => before.of_rows rows.1 rows.2⟩

/-- A step that leaves the entry alone and owes its deletion. -/
theorem Entry.owed (h : Entry d eventId Named events w ghost) (found : g' ≠ .lost)
    (named : NamedOf Named eventId w'.db.ticketTypes)
    (leaves : writesEntry d eventId (⟨t, cmd, choice, answer, w, w'⟩ : CallEvent ι) = false)
    (entry : (w'.redis d.apiRedis).eventStatic = (w.redis d.apiRedis).eventStatic)
    (owes : Owes w'.db.ticketTypes.row g') :
    Entry d eventId Named (events ++ [⟨t, cmd, choice, answer, w, w'⟩]) w'
      (Function.update ghost t g') where
  found := (Function.forall_update_iff ghost fun _ g => g ≠ .lost).mpr
    ⟨found, fun u _ => h.found u⟩
  named := named
  missing absent := by
    rw [entry] at absent
    exact (leftFresh_other leaves).mpr (h.missing absent)
  cached _ _ := .inl ⟨t, by rwa [Function.update_self]⟩

omit [DecidableEq ι] in
theorem writesEntry_of_leaves {n : Nat} {command : RedisCmd} {answer : Except Exn command.Resp}
    (leaves : LeavesCaches command) :
    writesEntry d eventId (⟨t, .redis n command, choice, answer, w, w'⟩ : CallEvent ι) =
      false := by
  cases command with
  | setEventStatic id eventDto ttl | deleteEventStatic id => exact leaves.elim
  | _ => rfl

omit [DecidableEq ι] in
theorem writesEntry_of_apart (apart : Apart cmd) :
    writesEntry d eventId (⟨t, cmd, choice, answer, w, w'⟩ : CallEvent ι) = false := by
  cases cmd with
  | redis n command => exact writesEntry_of_leaves apart
  | _ => rfl

/-- **A step keeps what holds of the entry.** -/
theorem Entry.step (h : Entry d eventId Named events w ghost)
    (step : Step d (· = eventId) Named (ghost t) cmd answer g')
    (coherent : Coherent w.db t (ghost t)) (ran : exec t cmd choice w = some (answer, w'))
    (clean : choice.fault = none) (entry : cmd ≠ .redis d.apiRedis .getEventListVersion) :
    Entry d eventId Named (events ++ [⟨t, cmd, choice, answer, w, w'⟩]) w'
      (Function.update ghost t g') := by
  have found := h.found t
  have named := h.named.step found step ran
  have commits := step.commits found coherent ran
  have still := @Entry.still _ _ d eventId Named events w w' ghost t g' cmd choice answer h
  have owed := @Entry.owed _ _ d eventId Named events w w' ghost t g' cmd choice answer h
  generalize own : ghost t = g at step found commits still coherent
  have calm : writesEntry d eventId (⟨t, cmd, choice, answer, w, w'⟩ : CallEvent ι) = false →
      SameCaches (w.redis d.apiRedis) (w'.redis d.apiRedis) →
      (cmd = .db .commit → ∃ e, answer = .error e) → g' ≠ .lost →
      (Owes w.db.ticketTypes.row g → Owes w.db.ticketTypes.row g') →
      Entry d eventId Named (events ++ [⟨t, cmd, choice, answer, w, w'⟩]) w'
        (Function.update ghost t g') := fun leaves same other found owes =>
    still found named leaves same.static (rows_of_uncommitted ran other) owes
  have others : g' ≠ .lost → ∀ u, Function.update ghost t g' u ≠ .lost := fun found =>
    (Function.forall_update_iff ghost fun _ g => g ≠ .lost).mpr ⟨found, fun u _ => h.found u⟩
  have idle : ∀ {P : Prop}, g.Open → Owes w.db.ticketTypes.row g → P := fun opened debt => by
    cases g with
    | dirty | pledged _ => exact opened.elim
    | _ => exact debt.elim
  have relaxed : g.relaxed ≠ .lost := by
    cases g with
    | _ => exact fun same => by cases same
  cases step with
  | lost => exact (found rfl).elim
  | fault => exact (redis_clean clean ran).elim
  | keyless => exact (entry rfl).elim
  | refused opened =>
      refine calm ?_ (.of_redis (raised ran).1) (fun _ => ⟨_, rfl⟩) relaxed (idle opened)
      cases cmd with
      | redis n command => exact (redis_clean clean ran).elim
      | _ => rfl
  | apart opened apart =>
      refine calm (writesEntry_of_apart apart) (apart.caches ran)
        (fun same => ?_) relaxed (idle opened)
      subst same
      exact (apart.1 trivial).elim
  | rolled opened | closed opened =>
      exact calm rfl (.of_redis (redis_of_db ran)) nofun nofun (idle opened)
  | work opened works =>
      refine calm rfl (.of_redis (redis_of_db ran)) (fun same => ?_) nofun (idle opened)
      cases same
      exact works.elim
  | look _ | insert _ | edit | see | load | page =>
      exact calm rfl (.of_redis (redis_of_db ran)) nofun nofun (idle trivial)
  | reread => exact calm rfl (.of_redis (redis_of_db ran)) nofun nofun fun _ => trivial
  | @astray ticketTypeId e =>
      refine calm rfl (.of_redis (raised ran).1) nofun nofun fun debt => ?_
      have debt : (w.db.ticketTypes.row ticketTypeId).isSome := debt
      obtain ⟨_, done⟩ := run_of_clean clean ran
      rcases (DbCmd.run_refreshTicketType done).2 with ⟨absent, _⟩ | ⟨_, _, failed⟩
      · rw [read_of_not_held (coherent.2 ticketTypeId)] at absent
        rw [absent] at debt
        cases debt
      · cases failed
  | warm leaves => exact calm (writesEntry_of_leaves leaves) (leaves.same ran) nofun nofun id
  | key | @miss key =>
      refine calm rfl (LeavesCaches.same (by exact trivial) ran) nofun nofun (idle trivial)
  | commit opened =>
      exact owed nofun named rfl (SameCaches.of_redis (n := d.apiRedis) (redis_of_db ran)).static
        trivial
  | @pledge ticketTypeId =>
      have same : SameCaches (w.redis d.apiRedis) (w'.redis d.apiRedis) :=
        .of_redis (redis_of_db ran)
      by_cases present : (w'.db.ticketTypes.row ticketTypeId).isSome
      · exact owed nofun named rfl same.static present
      · refine still nofun named rfl same.static ?_ False.elim
        cases commits with
        | same events types => exact ⟨events, types⟩
        | pledged events types =>
            refine ⟨events, funext fun id => (types id).resolve_right fun changed => present ?_⟩
            rw [← changed.1]
            exact changed.2
  | @drop id about =>
      subst about
      obtain ⟨r, done, rfl⟩ := ran_redis ran
      cases done
      have writes : ∀ after,
          writesEntry d id (⟨t, .redis d.apiRedis (.deleteEventStatic id), choice,
          .ok (), w, after⟩ : CallEvent ι) = true := fun after => by
        simp only [writesEntry, decide_true, Bool.and_self]
      refine ⟨others nofun, named, fun _ => (leftFresh_snoc (writes _)).mpr fun stale => ?_,
        fun cached stored => ?_⟩
      · obtain ⟨_, _, same, _⟩ := stale
        cases same
      · rw [redis_update] at stored
        simp only [RedisDb.setEventStatic, Function.update_self] at stored
        cases stored
  | @store id ttl eventDto about =>
      subst about
      obtain ⟨r, done, rfl⟩ := ran_redis ran
      cases done
      have writes : ∀ after,
          writesEntry d id (⟨t, .redis d.apiRedis (.setEventStatic id eventDto ttl),
          choice, .ok (), w, after⟩ : CallEvent ι) = true := fun after => by
        simp only [writesEntry, decide_true, Bool.and_self]
      refine ⟨others nofun, named, fun absent => ?_, fun cached stored => .inr ?_⟩
      · rw [redis_update] at absent
        simp only [RedisDb.setEventStatic, Function.update_self] at absent
        cases absent
      · rw [redis_update] at stored
        simp only [RedisDb.setEventStatic, Function.update_self] at stored
        cases stored
        rw [leftFresh_snoc (writes _)]
        constructor
        · rintro shows ⟨eventDto', ttl', same, stale⟩
          cases same
          exact stale shows
        · intro fresh
          by_contra hides
          exact fresh ⟨eventDto, ttl, rfl, hides⟩
  | bump =>
      obtain ⟨r, done, rfl⟩ := ran_redis ran
      cases done
      exact still nofun named rfl (by rw [redis_update]) ⟨rfl, rfl⟩ False.elim
  | keep =>
      obtain ⟨r, done, rfl⟩ := ran_redis ran
      cases done
      exact still nofun named rfl (by rw [redis_update]; rfl) ⟨rfl, rfl⟩ False.elim

/-! ## Runs -/

/-- No call fails, and none reads the lists of events. -/
def entering (d : Deployment) (eventId : Int) (Named : Int → Prop) :
    Discipline ι (World ι) Cmd Cmd.Resp Exn Choice Errand where
  guard e := e.choice.fault = none ∧ e.cmd ≠ .redis d.apiRedis .getEventListVersion
  inv events w ghost := (∀ t, Coherent w.db t (ghost t)) ∧ Entry d eventId Named events w ghost

theorem entering_governs :
    (protocol d (· = eventId) Named).Governs (entering (ι := ι) d eventId Named) exec := by
  intro t events w ghost cmd choice answer w' inv ran ok
  obtain ⟨coherent, entry⟩ := inv
  obtain ⟨clean, unlisted⟩ := ok
  exact ⟨⟨answers_of_exec ran, entry.named.finds ran⟩, fun g' step =>
    ⟨coherent_step step coherent ran, entry.step step (coherent t) ran clean unlisted⟩⟩

omit [DecidableEq ι] in
/-- With no deletion owed, the entry is up to date if and only if its last write was. -/
theorem Entry.coherent_iff (h : Entry d eventId Named events w ghost)
    (rest : ∀ u, ghost u = .resting) :
    (∀ cached, (w.redis d.apiRedis).eventStatic eventId = some cached →
      Shows w.db eventId cached.value) ↔ LeftFresh d eventId events := by
  cases entry : (w.redis d.apiRedis).eventStatic eventId with
  | none => exact ⟨fun _ => h.missing entry, fun _ _ absent => by cases absent⟩
  | some cached =>
      rcases h.cached cached entry with ⟨u, debt⟩ | shows
      · rw [rest u] at debt
        exact debt.elim
      · rw [← shows]
        exact ⟨fun all => all cached rfl, fun now _ same => by cases same; exact now⟩

end Cache

section Runs

variable {activities : ι → Activity} {d : Deployment} {eventId : Int} {w : World ι}
  {events : List (CallEvent ι)} {c : Config ι (World ι) Cmd Cmd.Resp Exn Unit}

/-- **With no call in flight, the cached event is the committed one if and only if the last write of
the entry was not stale.** -/
theorem event_cache_coherent_iff (onEvent : ∀ t, OnEvent w.db eventId (activities t))
    (quiet : w.db.Quiet) (quietEvents : w.db.events.Quiet)
    (fresh : ∀ cached, (w.redis d.apiRedis).eventStatic eventId = some cached →
      Shows w.db eventId cached.value)
    (run : Config.Run exec ⟨w, fun t => (activities t).program d⟩ events c)
    (clean : ∀ e ∈ events, e.choice.fault = none) (idle : ∀ t, ¬ c.InFlight events t) :
    (∀ cached, (c.shared.redis d.apiRedis).eventStatic eventId = some cached →
      Shows c.shared.db eventId cached.value) ↔ LeftFresh d eventId events := by
  have start : Entry d eventId (TypeOf w.db eventId) [] w fun _ : ι => .resting :=
    { found := fun _ same => by cases same
      named := fun id row version named => named row (version_of_quiet quiet.2 version)
      missing := fun _ _ absent => by cases absent
      cached := fun cached stored => .inr (iff_of_true (fresh cached stored) fun _ absent => by
        cases absent) }
  have unlocked : ∀ t : ι, Coherent w.db t .resting := fun t =>
    ⟨fun id => heldBy_of_quiet quietEvents, fun id => heldBy_of_quiet quiet.2⟩
  have only := (run.only fun t => only_entry (onEvent t).onEntries).1
  obtain ⟨ghost, ⟨_, entry⟩, _, rests⟩ := entering_governs.run
    (fun _ _ => Settled) (fun D' governs t => follows_activity governs (onEvent t).concerns)
    ⟨unlocked, start⟩ run fun e mem => ⟨clean e mem, fun same => by
      have ofEntry : OfEntry d e.cmd := only e mem
      rw [same] at ofEntry
      exact ofEntry.elim⟩
  exact entry.coherent_iff fun u => (rests u (idle u)).elim (fun rest => rest)
    fun ⟨_, settled⟩ => settled.resolve_left (entry.found u)

end Runs

/-- `{"title": "Korn"}`. -/
def renamed : EventUpdate where
  title := some (some "Korn")
  date := none
  country := none
  city := none
  streetAddress := none
  title_length _ given := by
    cases given
    decide
  country_length := shortText_none
  city_length := shortText_none
  street_address_length := shortText_none

/-- An event with a ticket type, and no entry of it. -/
def oneShow : World (Fin 3) where
  db :=
    { tickets := .ofList []
      ticketTypes := .ofList [exampleType 3 0]
      users := {1}
      events := .ofList [exampleEvent] }
  redis _ := .empty
  jobs := []

/-- The event is renamed, next to two readers. -/
def renamedWhileRead : Fin 3 → Activity := ![.getEvent 1, .updateEvent 1 renamed, .getEvent 1]

theorem onEvent_renamedWhileRead : ∀ t, OnEvent oneShow.db 1 (renamedWhileRead t) := fun t => by
  fin_cases t
  · exact rfl
  · exact rfl
  · exact rfl

/-- A `SET` of the entry of the first event stores what is committed. -/
def storesCommitted (e : CallEvent ι) : Bool :=
  match e.cmd with
  | .redis _ (.setEventStatic _ eventDto _) => (e.before.db.events.row 1).any fun event =>
      eventDto = event.detailResponse 1
        ((e.before.db.ticketTypes.idsWhere fun row => row.eventId = 1).filterMap fun id =>
          (e.before.db.ticketTypes.row id).map fun row => (id, row))
  | _ => true

omit [DecidableEq ι] in
theorem not_stale_of_storesCommitted {e : CallEvent ι} (h : storesCommitted e) :
    ¬ Stale sharedRedis 1 e := by
  rintro ⟨eventDto, ttl, same, hides⟩
  unfold storesCommitted at h
  rw [same] at h
  obtain ⟨event, stored, shown⟩ := (Option.any_eq_true _ _).mp h
  exact hides ⟨event, _, stored, idsWhere_nodup _ _, fun id => mem_idsWhere,
    of_decide_eq_true shown⟩

/-- The first reader stores what it has read before the commit, the writer deletes it, and the
second reader stores the event as it is committed. -/
theorem event_cache_coherent_iff_of_renamedWhileRead :
    ∃ (events : List (CallEvent (Fin 3)))
      (c : Config (Fin 3) (World (Fin 3)) Cmd Cmd.Resp Exn Unit),
      Config.Run exec ⟨oneShow, fun t => (renamedWhileRead t).program sharedRedis⟩ events c ∧
      (∀ t, c.result t = some (.ok ())) ∧
      (events.filter (writesEntry sharedRedis 1)).length = 3 ∧
      ∃ cached, (c.shared.redis 0).eventStatic 1 = some cached ∧
        Shows c.shared.db 1 cached.value := by
  have found : (Config.replay exec ⟨oneShow, fun t => (renamedWhileRead t).program sharedRedis⟩
      (([0, 0, 0, 1, 1, 1, 1, 1, 1, 0, 0, 1, 1, 1, 2, 2, 2, 2, 2] : List (Fin 3)).map
        fun t => (t, {}))).any (fun r => (r.1.all fun e => decide (e.choice.fault = none)) &&
          (decide (∀ t, r.2.result t = some (.ok ())) &&
          (decide ((r.1.filter (writesEntry sharedRedis 1)).length = 3) &&
          ((lastWrite sharedRedis 1 r.1).all storesCommitted &&
            ((r.2.shared.redis 0).eventStatic 1).isSome)))) = true := by
    decide
  obtain ⟨events, c, run, holds⟩ := Config.exists_run_of_replay
    (P := fun events c =>
      (events.all fun e : CallEvent (Fin 3) => decide (e.choice.fault = none)) &&
      (decide (∀ t, c.result t = some (.ok ())) &&
      (decide ((events.filter (writesEntry sharedRedis 1)).length = 3) &&
      ((lastWrite sharedRedis 1 events).all storesCommitted &&
        ((c.shared.redis 0).eventStatic 1).isSome)))) found
  simp only [Bool.and_eq_true, List.all_eq_true, decide_eq_true_eq] at holds
  obtain ⟨clean, returned, writes, last, stored⟩ := holds
  obtain ⟨cached, stored⟩ := Option.isSome_iff_exists.mp stored
  refine ⟨events, c, run, returned, writes, cached, stored, ?_⟩
  refine (event_cache_coherent_iff onEvent_renamedWhileRead ⟨by decide, by decide⟩ (by decide)
    (fun _ absent => by cases absent) run clean
    fun t flight => ?_).mpr (fun e same => ?_) cached stored
  · have running := flight.2
    rw [returned t] at running
    cases running
  · rw [same] at last
    exact not_stale_of_storesCommitted last

/-- The first reader stores what it has read after the writer has deleted the entry, and the second
one is served the old title. -/
theorem event_cache_stale :
    ∃ (events : List (CallEvent (Fin 3)))
      (c : Config (Fin 3) (World (Fin 3)) Cmd Cmd.Resp Exn Unit),
      Config.Run exec ⟨oneShow, fun t => (renamedWhileRead t).program sharedRedis⟩ events c ∧
      (∀ e ∈ events, e.choice.fault = none) ∧ (∀ t, c.result t = some (.ok ())) ∧
      ∃ cached, (c.shared.redis 0).eventStatic 1 = some cached ∧
        ¬ Shows c.shared.db 1 cached.value := by
  have found : (Config.replay exec ⟨oneShow, fun t => (renamedWhileRead t).program sharedRedis⟩
      (([0, 0, 0, 1, 1, 1, 1, 1, 1, 1, 1, 1, 0, 0, 2, 2] : List (Fin 3)).map
        fun t => (t, {}))).any (fun r => (r.1.all fun e => decide (e.choice.fault = none)) &&
          (decide (∀ t, r.2.result t = some (.ok ())) &&
          (((r.2.shared.redis 0).eventStatic 1).any (fun cached =>
            cached.value.title = exampleEvent.title) &&
          (r.2.shared.db.events.row 1).any fun event => event.title = "Korn"))) = true := by
    decide
  obtain ⟨events, c, run, holds⟩ := Config.exists_run_of_replay
    (P := fun events c =>
      (events.all fun e : CallEvent (Fin 3) => decide (e.choice.fault = none)) &&
      (decide (∀ t, c.result t = some (.ok ())) &&
      (((c.shared.redis 0).eventStatic 1).any (fun cached =>
        cached.value.title = exampleEvent.title) &&
      (c.shared.db.events.row 1).any fun event => event.title = "Korn"))) found
  simp only [Bool.and_eq_true, List.all_eq_true, decide_eq_true_eq] at holds
  obtain ⟨clean, returned, old, new⟩ := holds
  obtain ⟨cached, stored, old⟩ := (Option.any_eq_true _ _).mp old
  obtain ⟨event, row, new⟩ := (Option.any_eq_true _ _).mp new
  refine ⟨events, c, run, clean, returned, cached, stored, ?_⟩
  rintro ⟨event', _, row', _, _, shown⟩
  rw [row] at row'
  cases row'
  have title : cached.value.title = event.title := congrArg (fun eventDto => eventDto.title) shown
  rw [of_decide_eq_true old, of_decide_eq_true new] at title
  exact absurd title (by decide)

end TicketCore
