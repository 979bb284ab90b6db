import TicketCore.Booking.Runs
import TicketCore.Cache.Coherence
import TicketCore.Cache.Programs
import Mathlib.Data.Fin.VecNotation

/-!
# The cached lists of events

A page of events is cached under a key that carries the version of the lists, and every write of an
event counts the version up after its commit. A reader takes the version before it reads the page,
so a page that a commit has overtaken is stored under a version that this commit is yet to leave
behind.

* `list_cache_coherent`: with no call in flight, every page under the current version is the page of
  the committed events, and a call of `get_all` returns what the database would.
-/

namespace TicketCore

open Interleave RowStore Cache

variable {ι : Type} [DecidableEq ι]

/-- A call of `EventService` that lists or writes events. -/
def OnEvents : Activity → Prop
  | .getEvents .. | .createEvent _ | .updateEvent .. | .deleteEvent _ => True
  | _ => False

theorem OnEvents.concerns {activity : Activity} (h : OnEvents activity) :
    Concerns (fun _ => True) (fun _ => False) activity := by
  cases activity with
  | getEvents offset limit | updateEvent eventId updateData | deleteEvent eventId => trivial
  | createEvent eventData => exact fun _ => trivial
  | _ => exact h.elim

/-- A page of events as a function of the committed events, the offset and the limit. -/
abbrev PageFunction : Type := (Int → Option Event) → Int → Int → List (Int × Event)

/-- The database answers a page by this function. -/
def Pages (pageOf : PageFunction) (e : CallEvent ι) : Prop :=
  ∀ offset limit, e.cmd = .db (.eventsPage offset limit) →
    Database.page e.before.db.events e.thread e.choice.rows (fun _ => true) offset limit =
      pageOf e.before.db.events.row offset limit

/-- The page as it is cached and returned. -/
def listDto (events : List (Int × Event)) : List EventResponse :=
  events.map fun (id, event) => event.response id

namespace Cache

/-- A commit is still to be counted in the version of the lists. -/
def Pending : Errand → Prop
  | .dirty | .bumping => True
  | _ => False

/-- A page that may be stored under this key: it is up to date, or its version is not, or soon will
not be. -/
def Sound (pageOf : PageFunction) (w : World ι) (ghost : ι → Errand) (current : Int)
    (key : ListKey) (eventsDto : List EventResponse) : Prop :=
  key.version ≤ current ∧ (key.version = current →
    (∃ u, Pending (ghost u)) ∨
    eventsDto = listDto (pageOf w.db.events.row key.offset key.limit))

/-- What holds of the cached pages, and of the versions and pages in hand. -/
structure Versioned (pageOf : PageFunction) (d : Deployment) (current : Int) (w : World ι)
    (ghost : ι → Errand) : Prop where
  found : ∀ t, ghost t ≠ .lost
  version : (w.redis d.apiRedis).eventListVersion = some current
  keyed : ∀ t version, ghost t = .keyed version → version ≤ current
  lists : ∀ key cached, (w.redis d.apiRedis).eventLists key = some cached →
    Sound pageOf w ghost current key cached.value
  paged : ∀ t key eventsDto, ghost t = .paged key eventsDto →
    Sound pageOf w ghost current key eventsDto

variable {pageOf : PageFunction} {d : Deployment} {About Named : Int → Prop} {w w' : World ι}
  {ghost : ι → Errand} {current current' : Int} {t : ι} {g g' : Errand} {cmd : Cmd}
  {choice : Choice} {answer : Except Exn cmd.Resp}

/-- What is in hand after a step, and what is stored. -/
theorem Versioned.next (h : Versioned pageOf d current w ghost) (found : g' ≠ .lost)
    (version : (w'.redis d.apiRedis).eventListVersion = some current') (le : current ≤ current')
    (sound : ∀ key eventsDto, Sound pageOf w ghost current key eventsDto →
      Sound pageOf w' (Function.update ghost t g') current' key eventsDto)
    (keyed : ∀ version, g' = .keyed version → version ≤ current')
    (lists : ∀ key cached, (w'.redis d.apiRedis).eventLists key = some cached →
      (w.redis d.apiRedis).eventLists key = some cached ∨
        Sound pageOf w' (Function.update ghost t g') current' key cached.value)
    (paged : ∀ key eventsDto, g' = .paged key eventsDto →
      Sound pageOf w' (Function.update ghost t g') current' key eventsDto) :
    Versioned pageOf d current' w' (Function.update ghost t g') := by
  have other : ∀ {P : Errand → Prop} u, P (Function.update ghost t g' u) → P g' ∨
      P (ghost u) :=
    fun {P} u holds => by
      by_cases same : u = t
      · subst same
        rw [Function.update_self] at holds
        exact .inl holds
      · rw [Function.update_of_ne same] at holds
        exact .inr holds
  refine ⟨fun u lost => ?_, version, fun u version own => ?_, fun key cached stored => ?_,
    fun u key eventsDto own => ?_⟩
  · rcases other (P := (· = .lost)) u lost with lost | lost
    · exact found lost
    · exact h.found u lost
  · rcases other (P := (· = .keyed version)) u own with own | own
    · exact keyed version own
    · exact (h.keyed u version own).trans le
  · rcases lists key cached stored with before | new
    · exact sound key _ (h.lists key cached before)
    · exact new
  · rcases other (P := (· = .paged key eventsDto)) u own with own | own
    · exact paged key eventsDto own
    · exact sound key _ (h.paged u key eventsDto own)

/-- A pending commit makes every page sound whose version is not ahead. -/
theorem Sound.of_pending {key : ListKey} {eventsDto : List EventResponse} (pending : Pending g')
    (le : key.version ≤ current) :
    Sound pageOf w' (Function.update ghost t g') current key eventsDto :=
  ⟨le, fun _ => .inl ⟨t, by rwa [Function.update_self]⟩⟩

/-- What is sound stays so when no row changes and nothing pending is done. -/
theorem Sound.still {key : ListKey} {eventsDto : List EventResponse}
    (h : Sound pageOf w ghost current key eventsDto)
    (rows : w'.db.events.row = w.db.events.row) (pending : Pending (ghost t) → Pending g') :
    Sound pageOf w' (Function.update ghost t g') current key eventsDto := by
  refine ⟨h.1, fun same => (h.2 same).imp (fun holds => ?_)
    fun page => by rw [rows]; exact page⟩
  obtain ⟨u, holds⟩ := holds
  by_cases other : u = t
  · subst other
    exact ⟨u, by rw [Function.update_self]; exact pending holds⟩
  · exact ⟨u, by rwa [Function.update_of_ne other]⟩

/-- A step that writes neither events nor lists, and takes no version and no page in hand. -/
theorem Versioned.still (h : Versioned pageOf d current w ghost) (found : g' ≠ .lost)
    (rows : w'.db.events.row = w.db.events.row)
    (version : (w'.redis d.apiRedis).eventListVersion = (w.redis d.apiRedis).eventListVersion)
    (lists : (w'.redis d.apiRedis).eventLists = (w.redis d.apiRedis).eventLists)
    (pending : Pending (ghost t) → Pending g')
    (keyed : ∀ version, g' = .keyed version → version ≤ current)
    (paged : ∀ key eventsDto, g' ≠ .paged key eventsDto) :
    Versioned pageOf d current w' (Function.update ghost t g') :=
  h.next found (version.trans h.version) le_rfl (fun _ _ sound => sound.still rows pending) keyed
    (fun key cached stored => .inl (by rw [← lists]; exact stored))
    fun key eventsDto own => (paged key eventsDto own).elim

omit [DecidableEq ι] in
theorem relaxed_lost (g : Errand) : g.relaxed ≠ .lost := by
  cases g with
  | _ => nofun

omit [DecidableEq ι] in
theorem Errand.Open.not_pending {g : Errand} (opened : g.Open) : ¬ Pending g := by
  cases g with
  | dirty | bumping => exact opened.elim
  | _ => exact not_false

theorem relaxed_fresh (g : Errand) : (∀ version, g.relaxed ≠ .keyed version) ∧
    ∀ key eventsDto, g.relaxed ≠ .paged key eventsDto := by
  cases g with
  | _ => exact ⟨nofun, nofun⟩

/-- The page that a transaction without locks is answered. -/
theorem page_of_unlocked {key : ListKey} {events : List (Int × Event)}
    (pages :
      Pages pageOf ⟨t, .db (.eventsPage key.offset key.limit), choice, .ok events, w, w'⟩)
    (ran : exec t (.db (.eventsPage key.offset key.limit)) choice w = some (.ok events, w')) :
    events = pageOf w.db.events.row key.offset key.limit ∧ w' = w := by
  obtain ⟨_, done, rfl⟩ := ran_db ran
  cases done
  exact ⟨pages _ _ rfl, rfl⟩

/-- **A step keeps every page sound.** -/
theorem Versioned.step (step : Step d About Named (ghost t) cmd answer g')
    (coherent : Coherent w.db t (ghost t)) (h : Versioned pageOf d current w ghost)
    (ran : exec t cmd choice w = some (answer, w')) (clean : choice.fault = none)
    (pages : Pages pageOf ⟨t, cmd, choice, answer, w, w'⟩) :
    ∃ current', Versioned pageOf d current' w' (Function.update ghost t g') := by
  have found := h.found t
  have commits := step.commits found coherent ran
  have keyed := h.keyed t
  have paged := h.paged t
  have still := @Versioned.still _ _ _ _ w w' ghost current t g' h
  generalize own : ghost t = g at step found commits keyed paged still
  have calm : SameCaches (w.redis d.apiRedis) (w'.redis d.apiRedis) →
      w'.db.events.row = w.db.events.row → g' ≠ .lost → (Pending g → Pending g') →
      (∀ version, g' ≠ .keyed version) → (∀ key eventsDto, g' ≠ .paged key eventsDto) →
      ∃ current', Versioned pageOf d current' w' (Function.update ghost t g') :=
    fun same rows found pending unkeyed unpaged =>
      ⟨current, still found rows same.version same.lists pending
        (fun version own => (unkeyed version own).elim) unpaged⟩
  have rows : (cmd = .db .commit → ∃ e, answer = .error e) →
      w'.db.events.row = w.db.events.row := fun other => (rows_of_uncommitted ran other).1
  have idle : ∀ {P : Prop}, g.Open → Pending g → P := fun opened pending =>
    (opened.not_pending pending).elim
  cases step with
  | lost => exact (found rfl).elim
  | fault => exact (redis_clean clean ran).elim
  | keyless =>
      obtain ⟨r, done, rfl⟩ := ran_redis ran
      have missing : (w.redis d.apiRedis).eventListVersion = none :=
        congrArg Prod.fst (Option.some.inj done)
      rw [h.version] at missing
      cases missing
  | refused opened =>
      exact calm (.of_redis (raised ran).1) (rows fun _ => ⟨_, rfl⟩)
        (relaxed_lost _) (idle opened)
        (relaxed_fresh _).1 (relaxed_fresh _).2
  | apart opened apart =>
      refine calm (apart.caches ran) (rows fun same => ?_) (relaxed_lost _) (idle opened)
        (relaxed_fresh _).1 (relaxed_fresh _).2
      subst same
      exact (apart.1 trivial).elim
  | rolled opened | closed opened =>
      exact calm (.of_redis (redis_of_db ran)) (rows nofun) nofun (idle opened) nofun nofun
  | work opened works =>
      refine calm (.of_redis (redis_of_db ran))
        (rows fun same => ?_) nofun (idle opened) nofun nofun
      cases same
      exact works.elim
  | look _ | insert _ | edit | see | load =>
      exact calm (.of_redis (redis_of_db ran)) (rows nofun) nofun (idle trivial) nofun nofun
  | reread => exact calm (.of_redis (redis_of_db ran)) (rows nofun) nofun nofun nofun nofun
  | astray => exact calm (.of_redis (raised ran).1) (rows nofun) nofun nofun nofun nofun
  | warm leaves =>
      exact calm (leaves.same ran) (rows nofun) nofun (fun pending => pending) nofun nofun
  | pledge =>
      refine calm (.of_redis (redis_of_db ran)) ?_ nofun (idle trivial) nofun nofun
      cases commits with
      | same events _ => exact events
      | pledged events _ => exact events
  | drop _ =>
      obtain ⟨r, done, rfl⟩ := ran_redis ran
      cases done
      exact ⟨current, still nofun rfl (by rw [redis_update]; rfl) (by rw [redis_update]; rfl)
        (fun _ => trivial) nofun
        nofun⟩
  | store _ =>
      obtain ⟨r, done, rfl⟩ := ran_redis ran
      cases done
      exact ⟨current, still nofun rfl (by rw [redis_update]; rfl)
        (by rw [redis_update]; rfl) nofun nofun nofun⟩
  | commit opened =>
      have same : SameCaches (w.redis d.apiRedis) (w'.redis d.apiRedis) :=
        .of_redis (redis_of_db ran)
      exact ⟨current, h.next nofun (same.version.trans h.version) le_rfl
        (fun _ _ sound => .of_pending trivial sound.1) nofun
        (fun key cached stored => .inl (by rw [← same.lists]; exact stored)) nofun⟩
  | bump =>
      obtain ⟨r, done, rfl⟩ := ran_redis ran
      cases done
      refine ⟨current + 1, h.next nofun ?_ (by omega) (fun key _ sound => ?_) nofun
        (fun key cached stored => .inl (by rw [redis_update] at stored; exact stored)) nofun⟩
      · rw [redis_update, h.version]
        rfl
      · have le := sound.1
        exact ⟨by omega, fun same => absurd same (by omega)⟩
  | @key version =>
      obtain ⟨r, done, rfl⟩ := ran_redis ran
      have read : (w.redis d.apiRedis).eventListVersion = some version :=
        congrArg Prod.fst (Option.some.inj done)
      have newest : version = current := Option.some.inj (read.symm.trans h.version)
      have same : w.redis d.apiRedis = r := congrArg Prod.snd (Option.some.inj done)
      exact ⟨current, still nofun rfl (by rw [redis_update, same])
        (by rw [redis_update, same]) nofun
        (fun version own => by cases own; exact newest.le) nofun⟩
  | @miss key =>
      have leaves : LeavesCaches (.getEventList key) := trivial
      have same := leaves.same (m := d.apiRedis) ran
      exact ⟨current, still nofun (rows nofun) same.version same.lists nofun keyed nofun⟩
  | @page key events =>
      obtain ⟨answered, rfl⟩ := page_of_unlocked pages ran
      refine ⟨current, h.next nofun h.version le_rfl (fun _ _ sound => ?_) nofun
        (fun _ _ stored => .inl stored) ?_⟩
      · exact sound.still rfl fun pending => by rw [own] at pending; exact pending.elim
      · rintro _ _ ⟨⟩
        exact ⟨keyed _ rfl, fun _ => .inr (by rw [answered]; rfl)⟩
  | @keep key ttl eventsDto =>
      obtain ⟨r, done, rfl⟩ := ran_redis ran
      cases done
      have stays : ∀ {key eventsDto}, Sound pageOf w ghost current key eventsDto →
          Sound pageOf _ (Function.update ghost t .resting) current key eventsDto := fun sound =>
        sound.still rfl fun pending => by rw [own] at pending; exact pending.elim
      refine ⟨current, h.next nofun (by rw [redis_update]; exact h.version) le_rfl
        (fun _ _ sound => stays sound)
        nofun (fun key' cached stored => ?_) nofun⟩
      rw [redis_update] at stored
      by_cases same : key' = key
      · subst same
        simp only [RedisDb.setEventList, Function.update_self] at stored
        cases stored
        exact .inr (stays (paged _ _ rfl))
      · simp only [RedisDb.setEventList, Function.update_of_ne same] at stored
        exact .inl stored

/-! ## Runs -/

/-- Every page stays sound, when no call fails. -/
def versioning (pageOf : PageFunction) (d : Deployment) :
    Discipline ι (World ι) Cmd Cmd.Resp Exn Choice Errand where
  guard e := e.choice.fault = none ∧ Pages pageOf e
  inv _ w ghost := (∀ t, Coherent w.db t (ghost t)) ∧
    ∃ current, Versioned pageOf d current w ghost

theorem versioning_governs :
    (protocol d (fun _ => True) fun _ => False).Governs (versioning (ι := ι) pageOf d) exec := by
  rintro t events w ghost cmd choice answer w' ⟨coherent, current, versioned⟩ ran
    ⟨clean, pages⟩
  refine ⟨⟨answers_of_exec ran, ?_⟩,
    fun g' step => ⟨coherent_step step coherent ran, ?_⟩⟩
  · unfold Finds
    split
    · exact fun _ => trivial
    · exact fun _ => trivial
    · trivial
  · exact versioned.step step (coherent t) ran clean pages

omit [DecidableEq ι] in
/-- With no commit pending, what is stored under the current version is up to date. -/
theorem Versioned.up_to_date (h : Versioned pageOf d current w ghost)
    (rest : ∀ u, ghost u = .resting) {key : ListKey} {cached : Cached (List EventResponse)}
    (stored : (w.redis d.apiRedis).eventLists key = some cached)
    (newest : (w.redis d.apiRedis).eventListVersion = some key.version) :
    cached.value = listDto (pageOf w.db.events.row key.offset key.limit) := by
  have same : key.version = current := Option.some.inj (newest.symm.trans h.version)
  rcases (h.lists key cached stored).2 same with ⟨u, pending⟩ | page
  · rw [rest u] at pending
    exact pending.elim
  · exact page

end Cache

/-! ## A call alone -/

section Alone

variable {pageOf : PageFunction} {d : Deployment} {w w' : World ι} {t : ι} {offset limit : Int}
  {events : List (CallEvent ι)}

/-- What the uncached `get_all` returns. -/
theorem getAll_uncached {outcome : Except Exn (List (Int × Event))}
    (run : (EventRepository.getAll offset limit).Runs exec t w events outcome w')
    (clean : ∀ e ∈ events, e.choice.fault = none) (pages : ∀ e ∈ events, Pages pageOf e) :
    outcome = .ok (pageOf w.db.events.row offset limit) := by
  obtain ⟨choice, ran, rfl⟩ := Program.Runs.call_inv run
  have page := pages _ (List.mem_singleton_self _) offset limit rfl
  obtain ⟨_, done⟩ := run_of_clean (clean _ (List.mem_singleton_self _)) ran
  have answered := congrArg Prod.fst (Option.some.inj done)
  exact answered.symm.trans (congrArg Except.ok page)

/-- The key of a page while there is a version. -/
theorem eventList_current {version : Int} {outcome : Except Exn ListKey}
    (current : (w.redis d.apiRedis).eventListVersion = some version)
    (run : (RedisKeys.eventList d offset limit).Runs exec t w events outcome w')
    (clean : ∀ e ∈ events, e.choice.fault = none) :
    outcome = .ok ⟨version, offset, limit⟩ ∧ w' = w := by
  rcases Program.Runs.bind_inv run with
    ⟨first, found, w₁, second, head, tail, rfl⟩ | ⟨e, head, _⟩
  · obtain ⟨_, r, clock, entries, done, same, rfl⟩ := runs_redis_inv head fun e mem =>
      clean e (List.mem_append_left _ mem)
    cases same
    have answered : (w.redis d.apiRedis).eventListVersion = found ∧ w.redis d.apiRedis = r :=
      Prod.mk.inj (Option.some.inj done)
    obtain ⟨read, rfl⟩ := answered
    rw [current] at read
    subst read
    cases tail with
    | done => exact ⟨rfl, by rw [Function.update_eq_self]⟩
  · obtain ⟨_, _, _, _, _, same, _⟩ := runs_redis_inv head clean
    cases same

/-- What the cached `get_all` returns when every page under the current version is up to date. -/
theorem getAll_cached {version : Int} {outcome : Except Exn (List EventResponse)}
    (current : (w.redis d.apiRedis).eventListVersion = some version)
    (fresh : ∀ key cached, (w.redis d.apiRedis).eventLists key = some cached →
      (w.redis d.apiRedis).eventListVersion = some key.version →
      cached.value = listDto (pageOf w.db.events.row key.offset key.limit))
    (run : (CachedEventRepository.getAll d offset limit).Runs exec t w events outcome w')
    (clean : ∀ e ∈ events, e.choice.fault = none) (pages : ∀ e ∈ events, Pages pageOf e) :
    outcome = .ok (listDto (pageOf w.db.events.row offset limit)) := by
  rcases Program.Runs.bind_inv run with
    ⟨first, key, w₁, rest, keyed, run, rfl⟩ | ⟨e, keyed, _⟩
  swap
  · obtain ⟨failed, _⟩ := eventList_current current keyed clean
    cases failed
  obtain ⟨same, stays⟩ := eventList_current current keyed fun e mem =>
    clean e (List.mem_append_left _ mem)
  cases same
  subst w₁
  replace clean := fun e mem => clean e (List.mem_append_right first mem)
  replace pages := fun e mem => pages e (List.mem_append_right first mem)
  rcases Program.Runs.bind_inv run with
    ⟨first, found, w₁, rest, got, run, rfl⟩ | ⟨e, got, _⟩
  swap
  · obtain ⟨_, _, _, _, _, failed, _⟩ := runs_redis_inv got clean
    cases failed
  obtain ⟨_, r, clock, entries, done, same, rfl⟩ := runs_redis_inv got fun e mem =>
    clean e (List.mem_append_left _ mem)
  cases same
  have answered : ((w.redis d.apiRedis).eventLists ⟨version, offset, limit⟩).map
      Cached.value = found :=
    congrArg Prod.fst (Option.some.inj done)
  subst answered
  cases stored : (w.redis d.apiRedis).eventLists ⟨version, offset, limit⟩ with
  | some cached =>
      rw [stored] at run
      cases run with
      | done => exact congrArg Except.ok (fresh _ cached stored current)
  | none =>
      rw [stored] at run
      replace clean := fun e mem => clean e (List.mem_append_right first mem)
      replace pages := fun e mem => pages e (List.mem_append_right first mem)
      rcases Program.Runs.bind_inv run with
        ⟨first, page, w₁, rest, read, run, rfl⟩ | ⟨e, read, _⟩
      swap
      · cases getAll_uncached read clean pages
      have page := getAll_uncached read (fun e mem => clean e (List.mem_append_left _ mem))
        fun e mem => pages e (List.mem_append_left _ mem)
      cases page
      rcases Program.Runs.bind_inv run with ⟨_, _, _, _, _, run, _⟩ | ⟨e, kept, _⟩
      · cases run with
        | done => rfl
      · obtain ⟨_, _, _, _, _, failed, _⟩ := runs_redis_inv kept fun e mem =>
          clean e (List.mem_append_right first mem)
        cases failed

end Alone

/-! ## Pages at rest -/

section Runs

variable {pageOf : PageFunction} {activities : ι → Activity} {d : Deployment} {w : World ι}
  {version : Int} {events : List (CallEvent ι)} {c : Config ι (World ι) Cmd Cmd.Resp Exn Unit}

/-- **With no call in flight, the pages under the current version are those of the committed events,
and `get_all` returns what the uncached one returns.** -/
theorem list_cache_coherent (onEvents : ∀ t, OnEvents (activities t)) (quiet : w.db.Quiet)
    (quietEvents : w.db.events.Quiet)
    (versioned : (w.redis d.apiRedis).eventListVersion = some version)
    (empty : ∀ key, (w.redis d.apiRedis).eventLists key = none)
    (run : Config.Run exec ⟨w, fun t => (activities t).program d⟩ events c)
    (clean : ∀ e ∈ events, e.choice.fault = none) (pages : ∀ e ∈ events, Pages pageOf e)
    (idle : ∀ t, ¬ c.InFlight events t) :
    (∀ key cached, (c.shared.redis d.apiRedis).eventLists key = some cached →
      (c.shared.redis d.apiRedis).eventListVersion = some key.version →
      cached.value = listDto (pageOf c.shared.db.events.row key.offset key.limit)) ∧
    ∀ (t : ι) offset limit cachedEvents cachedOutcome w₁ uncachedEvents uncachedOutcome w₂,
      (CachedEventRepository.getAll d offset limit).Runs exec t c.shared cachedEvents cachedOutcome
        w₁ →
      (EventRepository.getAll offset limit).Runs exec t c.shared uncachedEvents
        uncachedOutcome w₂ →
      (∀ e ∈ cachedEvents ++ uncachedEvents, e.choice.fault = none ∧ Pages pageOf e) →
      cachedOutcome = uncachedOutcome.map listDto := by
  have start : Versioned pageOf d version w fun _ => .resting :=
    { found := fun _ => nofun
      version := versioned
      keyed := fun _ _ own => nomatch own
      lists := fun key cached stored => by
        rw [empty] at stored
        cases stored
      paged := fun _ _ _ own => nomatch own }
  have unlocked : ∀ t : ι, Coherent w.db t .resting := fun t =>
    ⟨fun id => heldBy_of_quiet quietEvents, fun id => heldBy_of_quiet quiet.2⟩
  obtain ⟨ghost, ⟨coherent, current, h⟩, _, rests⟩ := versioning_governs.run
    (fun _ _ => Settled) (fun D' governs t => follows_activity governs (onEvents t).concerns)
    ⟨unlocked, version, start⟩ run fun e mem => ⟨clean e mem, pages e mem⟩
  have rest : ∀ u, ghost u = .resting := fun u =>
    (rests u (idle u)).elim (fun rest => rest) fun ⟨_, settled⟩ =>
      settled.resolve_left (h.found u)
  have fresh : ∀ key cached, (c.shared.redis d.apiRedis).eventLists key = some cached →
      (c.shared.redis d.apiRedis).eventListVersion = some key.version →
      cached.value = listDto (pageOf c.shared.db.events.row key.offset key.limit) :=
    fun _ _ stored newest => h.up_to_date rest stored newest
  refine ⟨fresh, ?_⟩
  intro t offset limit cachedEvents cachedOutcome w₁ uncachedEvents uncachedOutcome w₂
    cached uncached
    guarded
  rw [getAll_cached h.version fresh cached (fun e mem => (guarded e (List.mem_append_left _ mem)).1)
      fun e mem => (guarded e (List.mem_append_left _ mem)).2,
    getAll_uncached uncached (fun e mem => (guarded e (List.mem_append_right _ mem)).1)
      fun e mem => (guarded e (List.mem_append_right _ mem)).2]
  rfl

end Runs

/-- The payload of the event of the examples. -/
def exampleEventCreate : EventCreate where
  title := exampleEvent.title
  date := exampleEvent.date
  country := exampleEvent.country
  city := exampleEvent.city
  streetAddress := exampleEvent.streetAddress
  title_length := by decide
  country_length := by decide
  city_length := by decide
  street_address_length := by decide

/-- One event, and the first version of its lists. -/
def listedOnce {ι : Type} : World ι where
  db := { (World.empty : World ι).db with events := .ofList [exampleEvent] }
  redis _ := { RedisDb.empty with eventListVersion := some 1 }
  jobs := []

/-- The rows of two events, in the order of their ids. -/
def firstTwo : PageFunction := fun rows offset limit =>
  (([1, 2].filterMap fun id => (rows id).map fun event => (id, event)).drop offset.toNat).take
    limit.toNat

/-- The database has answered this call by `firstTwo`, and the call has not failed. -/
def pagesFirstTwo (e : CallEvent (Fin 3)) : Bool :=
  decide (e.choice.fault = none) &&
    match e.cmd with
    | .db (.eventsPage offset limit) =>
        decide (Database.page e.before.db.events e.thread e.choice.rows
          (fun _ => true) offset limit =
          firstTwo e.before.db.events.row offset limit)
    | _ => true

theorem pages_of_firstTwo {e : CallEvent (Fin 3)} (h : pagesFirstTwo e) :
    e.choice.fault = none ∧ Pages firstTwo e := by
  rw [pagesFirstTwo, Bool.and_eq_true] at h
  refine ⟨of_decide_eq_true h.1, fun offset limit same => ?_⟩
  have holds := h.2
  rw [same] at holds
  exact of_decide_eq_true holds

/-- Two readers of the list, and a new event. -/
def listingWhileCreating : Fin 3 → Activity :=
  ![.getEvents 0 10, .createEvent exampleEventCreate, .getEvents 0 10]

/-- The page of the first reader is stored after the commit that it misses. -/
theorem list_cache_coherent_while_creating :
    ∃ (events : List (CallEvent (Fin 3)))
      (c : Config (Fin 3) (World (Fin 3)) Cmd Cmd.Resp Exn Unit),
      Config.Run exec ⟨listedOnce, fun t => (listingWhileCreating t).program sharedRedis⟩
        events c ∧
      (∀ t, c.result t = some (.ok ())) ∧
      ((c.shared.redis 0).eventLists ⟨1, 0, 10⟩).map (·.value.length) = some 1 ∧
      ∃ cached, (c.shared.redis 0).eventLists ⟨2, 0, 10⟩ = some cached ∧
        cached.value = listDto (firstTwo c.shared.db.events.row 0 10) := by
  have found : (Config.replay exec
      ⟨listedOnce, fun t => (listingWhileCreating t).program sharedRedis⟩
      (([0, 0, 0, 1, 1, 1, 1, 1, 1, 0, 0, 2, 2, 2, 2, 2] : List (Fin 3)).map
        fun t => (t, {}))).any (fun r => r.1.all pagesFirstTwo &&
          (decide (∀ t, r.2.result t = some (.ok ())) &&
          (decide (((r.2.shared.redis 0).eventLists ⟨1, 0, 10⟩).map
            (·.value.length) = some 1) &&
          (decide ((r.2.shared.redis 0).eventListVersion = some 2) &&
            ((r.2.shared.redis 0).eventLists ⟨2, 0, 10⟩).isSome)))) = true := by
    decide
  obtain ⟨events, c, run, holds⟩ := Config.exists_run_of_replay
    (P := fun events c => events.all pagesFirstTwo &&
      (decide (∀ t, c.result t = some (.ok ())) &&
      (decide (((c.shared.redis 0).eventLists ⟨1, 0, 10⟩).map (·.value.length) = some 1) &&
      (decide ((c.shared.redis 0).eventListVersion = some 2) &&
        ((c.shared.redis 0).eventLists ⟨2, 0, 10⟩).isSome)))) found
  simp only [Bool.and_eq_true, List.all_eq_true, decide_eq_true_eq] at holds
  obtain ⟨pages, returned, stale, newest, stored⟩ := holds
  have onEvents : ∀ t, OnEvents (listingWhileCreating t) := fun t =>
    match t with
    | 0 | 1 | 2 => trivial
  obtain ⟨fresh, _⟩ :=
    list_cache_coherent onEvents (by decide) (by decide) rfl (fun _ => rfl) run
    (fun e mem => (pages_of_firstTwo (pages e mem)).1)
    (fun e mem => (pages_of_firstTwo (pages e mem)).2) fun t flight => by
      have running := flight.2
      rw [returned t] at running
      cases running
  obtain ⟨cached, stored⟩ := Option.isSome_iff_exists.mp stored
  exact ⟨events, c, run, returned, stale, cached, stored, fresh _ cached stored newest⟩

end TicketCore
