import TicketCore.Catalog
import Mathlib.Data.Fin.VecNotation

/-!
# The version of the event lists

`RedisKeys.event_list` reads the version of the event lists, and sets it to one when it found none;
`RedisKeys.bump_event_list_version` increments it. `CachedEventRepository.get_all` serves the page
that is cached under the key that `event_list` has returned, or caches one there.

* `list_version_kept_iff`: the version never falls exactly when no reader sets it while it is above
  one. Then a reader that comes after a bump gets a version that no state before the bump had, and
  no page that has been cached before the bump is served to it, if in the beginning no page was
  under a version still to come.
* `list_version_reset`: a reader that found no version sets it back after two bumps.
-/

namespace TicketCore

open Interleave

variable {ι : Type} [DecidableEq ι]

/-- A call about the event lists. -/
inductive VersionCall
  | eventList (offset limit : Int)
  | bumpEventListVersion
  | getAll (offset limit : Int)

/-- What a call does; `event_list` returns the key of the page that it was asked for. -/
def VersionCall.program (d : Deployment) : VersionCall → Async (Option ListKey)
  | .eventList offset limit => do
      let key ← RedisKeys.eventList d offset limit
      pure (some key)
  | .bumpEventListVersion => do
      RedisKeys.bumpEventListVersion d
      pure none
  | .getAll offset limit => do
      let _ ← CachedEventRepository.getAll d offset limit
      pure none

/-- The version of the event lists. -/
def World.listVersion (w : World ι) (d : Deployment) : Option Int :=
  (w.redis d.apiRedis).eventListVersion

/-- The version that was there is there, or a later one. -/
def Upheld (d : Deployment) (w w' : World ι) : Prop :=
  ∀ v ∈ w.listVersion d, ∃ v' ∈ w'.listVersion d, v ≤ v'

/-- A reader sets the version while it is above one. -/
def Resets (d : Deployment) (e : CallEvent ι) : Prop :=
  e.cmd = .redis d.apiRedis (.setEventListVersion 1) ∧ e.choice.fault = none ∧
    ∃ v ∈ e.before.listVersion d, 1 < v

/-- A bump is executed. -/
def Bumps (d : Deployment) (e : CallEvent ι) : Prop :=
  e.cmd = .redis d.apiRedis .incrEventListVersion ∧ e.choice.fault = none

/-- A page is cached under this key. -/
def World.Caches (w : World ι) (d : Deployment) (key : ListKey) : Prop :=
  ((w.redis d.apiRedis).eventLists key).isSome

instance (w : World ι) (d : Deployment) (key : ListKey) : Decidable (w.Caches d key) :=
  inferInstanceAs (Decidable (_ = true))

/-- The version that the next `INCR` counts on from. -/
def World.listCount (w : World ι) (d : Deployment) : Int := (w.listVersion d).getD 0

/-- No page is cached under a version that is still to come; if there is no version, under none from
one on. -/
def Behind (d : Deployment) (w : World ι) : Prop := ∀ key, w.Caches d key →
  key.version ≤ w.listCount d

/-- A page that has been cached before a bump is never asked for by a call that begins after it. -/
def NeverRevived (d : Deployment) (w : World ι) (events : List (CallEvent ι)) : Prop :=
  ∀ first bump later, events = first ++ bump :: later → Bumps d bump →
    ∀ e ∈ later, (∀ e' ∈ first ++ [bump], e'.thread ≠ e.thread) →
    ∀ key, e.cmd = .redis d.apiRedis (.getEventList key) →
    ∀ w₁ ∈ Config.states w first, ¬ w₁.Caches d key

/-- The commands about the event lists. -/
inductive OfVersion (d : Deployment) : Cmd → Prop
  | get : OfVersion d (.redis d.apiRedis .getEventListVersion)
  | set : OfVersion d (.redis d.apiRedis (.setEventListVersion 1))
  | incr : OfVersion d (.redis d.apiRedis .incrEventListVersion)
  | getPage (key : ListKey) : OfVersion d (.redis d.apiRedis (.getEventList key))
  | setPage (key : ListKey) (page : List EventResponse) (ttl : Int) :
      OfVersion d (.redis d.apiRedis (.setEventList key page ttl))
  | page (offset limit : Int) : OfVersion d (.db (.eventsPage offset limit))

section Steps

variable {d : Deployment} {t : ι} {cmd : Cmd} {choice : Choice} {answer : Except Exn cmd.Resp}
  {w w' : World ι} {offset limit : Int} {key : ListKey}

omit [DecidableEq ι] in
theorem Upheld.trans {w₁ w₂ w₃ : World ι} (h : Upheld d w₁ w₂)
    (h' : Upheld d w₂ w₃) :
    Upheld d w₁ w₃ := fun v mem => by
  obtain ⟨v', mem', le⟩ := h v mem
  obtain ⟨v'', mem'', le'⟩ := h' v' mem'
  exact ⟨v'', mem'', le.trans le'⟩

omit [DecidableEq ι] in
theorem listVersion_update {r : RedisDb} :
    ({ w with redis := Function.update w.redis d.apiRedis r } : World ι).listVersion d =
      r.eventListVersion := by
  unfold World.listVersion
  rw [redis_update]

omit [DecidableEq ι] in
theorem caches_update {r : RedisDb} :
    ({ w with redis := Function.update w.redis d.apiRedis r } : World ι).Caches d key ↔
      (r.eventLists key).isSome := by
  unfold World.Caches
  rw [redis_update]

omit [DecidableEq ι] in
theorem listCount_of_version {v : Int} (here : w.listVersion d = some v) : w.listCount d = v := by
  unfold World.listCount
  rw [here]
  rfl

/-! ## Programs -/

/-- `CachedEventRepository.get_all`, once the key of the page is known. -/
def pageUnder (d : Deployment) (key : ListKey) (offset limit : Int) :
    Async (List EventResponse) := do
  let cachedData : Option (List EventResponse) ← redis d.apiRedis (.getEventList key)
  match cachedData with
  | some events => pure events
  | none =>
      let events ← EventRepository.getAll offset limit
      let eventsDto := events.map fun (id, event) => event.response id
      redis d.apiRedis (.setEventList key eventsDto RedisKeys.ttlLists1h)
      pure eventsDto

theorem getAll_eq : CachedEventRepository.getAll d offset limit =
    (RedisKeys.eventList d offset limit >>= fun key => pageUnder d key offset limit) := rfl

theorem only_eventList : (RedisKeys.eventList d offset limit).Only (OfVersion d) := by
  refine only_then .get fun versionVal => ?_
  cases versionVal with
  | none => exact only_then .set fun _ => trivial
  | some version => exact trivial

theorem only_pageUnder {P : Cmd → Prop} (get : P (.redis d.apiRedis (.getEventList key)))
    (load : P (.db (.eventsPage offset limit)))
    (set : ∀ page ttl, P (.redis d.apiRedis (.setEventList key page ttl))) :
    (pageUnder d key offset limit).Only P := by
  refine only_then get fun cachedData => ?_
  cases cachedData with
  | some events => exact trivial
  | none => exact only_then load fun _ => only_then (set _ _) fun _ => trivial

theorem only_program (call : VersionCall) : (call.program d).Only (OfVersion d) := by
  cases call with
  | eventList offset limit => exact only_eventList.bind fun _ => trivial
  | bumpEventListVersion => exact only_then .incr fun _ => trivial
  | getAll offset limit =>
      refine Program.Only.bind ?_ fun _ => trivial
      rw [getAll_eq]
      exact only_eventList.bind fun key => only_pageUnder (.getPage key) (.page offset limit)
        (.setPage key)

/-! ## Commands -/

/-- What one of the commands does to the version and to the pages. -/
inductive Turns (d : Deployment) (cmd : Cmd) (choice : Choice) (w w' : World ι) : Prop
  | keeps : (cmd = .redis d.apiRedis (.setEventListVersion 1) ∨
        cmd = .redis d.apiRedis .incrEventListVersion → choice.fault ≠ none) →
      w'.listVersion d = w.listVersion d →
      (∀ key, w'.Caches d key → w.Caches d key ∨
        ∃ page ttl, cmd = .redis d.apiRedis (.setEventList key page ttl)) →
      Turns d cmd choice w w'
  | sets : cmd = .redis d.apiRedis (.setEventListVersion 1) → choice.fault = none →
      w'.listVersion d = some 1 → (∀ key, w'.Caches d key → w.Caches d key) →
      Turns d cmd choice w w'
  | bumps : cmd = .redis d.apiRedis .incrEventListVersion →
      w'.listVersion d = some (w.listCount d + 1) →
      (∀ key, w'.Caches d key → w.Caches d key) →
      Turns d cmd choice w w'

/-- A command of these fails without an effect, or it is executed. -/
theorem OfVersion.ran (h : OfVersion d cmd) (ran : exec t cmd choice w = some (answer, w')) :
    (choice.fault ≠ none ∧ w' = w) ∨
      choice.fault = none ∧ cmd.run t choice w = some (answer, w') := by
  have fails : cmd.mayFail = true := by
    cases h with
    | get | set | incr | getPage _ | setPage _ _ _ | page _ _ => rfl
  unfold exec at ran
  split at ran
  · rename_i clean
    exact .inr ⟨clean, ran⟩
  · rename_i e fault
    rw [if_pos fails] at ran
    cases ran
    exact .inl ⟨by rw [fault]; exact Option.some_ne_none e, rfl⟩

theorem OfVersion.turns (h : OfVersion d cmd) (ran : exec t cmd choice w = some (answer, w')) :
    Turns d cmd choice w w' := by
  rcases h.ran ran with ⟨fault, rfl⟩ | ⟨clean, done⟩
  · exact .keeps (fun _ => fault) rfl fun _ => .inl
  have same : ∀ {r : RedisDb}, r = w.redis d.apiRedis →
      ({ w with redis := Function.update w.redis d.apiRedis r } : World ι) = w := by
    rintro _ rfl
    rw [Function.update_eq_self]
  cases h with
  | get | getPage _ =>
      obtain ⟨_, r, got, rfl, rfl⟩ := Cmd.run_redis done
      cases got
      rw [same rfl]
      exact .keeps (by rintro (⟨⟨⟩⟩ | ⟨⟨⟩⟩)) rfl fun _ => .inl
  | set =>
      obtain ⟨_, r, stored, rfl, rfl⟩ := Cmd.run_redis done
      cases stored
      refine .sets rfl clean listVersion_update fun _ cached => ?_
      have cached := caches_update.mp cached
      exact cached
  | incr =>
      obtain ⟨_, r, bumped, rfl, rfl⟩ := Cmd.run_redis done
      cases bumped
      refine .bumps rfl listVersion_update fun _ cached => ?_
      have cached := caches_update.mp cached
      exact cached
  | setPage key page ttl =>
      obtain ⟨_, r, stored, rfl, rfl⟩ := Cmd.run_redis done
      cases stored
      refine .keeps (by rintro (⟨⟨⟩⟩ | ⟨⟨⟩⟩)) listVersion_update
        fun other cached => ?_
      by_cases own : other = key
      · subst own
        exact .inr ⟨page, ttl, rfl⟩
      · have cached := caches_update.mp cached
        unfold RedisDb.setEventList at cached
        dsimp only at cached
        rw [Function.update_of_ne own] at cached
        exact .inl cached
  | page offset limit =>
      obtain ⟨db', done, rfl⟩ := Cmd.run_db done
      exact .keeps (by rintro (⟨⟨⟩⟩ | ⟨⟨⟩⟩)) rfl fun _ => .inl

omit [DecidableEq ι] in
/-- **A command lets the version fall exactly when it is a reader's reset.** -/
theorem Turns.upheld_iff (h : Turns d cmd choice w w') :
    Upheld d w w' ↔ ¬ Resets d (⟨t, cmd, choice, answer, w, w'⟩ : CallEvent ι) := by
  cases h with
  | keeps failed version _ =>
      refine ⟨fun _ resets => failed (.inl resets.1) resets.2.1,
        fun _ v mem => ⟨v, ?_, le_rfl⟩⟩
      rw [version]
      exact mem
  | sets command clean version _ =>
      constructor
      · rintro upheld ⟨_, _, v, mem, above⟩
        obtain ⟨v', mem', le⟩ := upheld v mem
        rw [version] at mem'
        cases mem'
        omega
      · intro resets v mem
        refine ⟨1, by rw [version]; rfl, ?_⟩
        by_contra above
        exact resets ⟨command, clean, v, mem, not_le.mp above⟩
  | bumps command version _ =>
      refine ⟨fun _ resets => ?_, fun _ v mem => ⟨v + 1, ?_, by omega⟩⟩
      · cases command.symm.trans resets.1
      · rw [version, listCount_of_version mem]
        rfl

omit [DecidableEq ι] in
/-- The count of the version does not fall without a reset. -/
theorem Turns.listCount_le (h : Turns d cmd choice w w')
    (kept : ¬ Resets d (⟨t, cmd, choice, answer, w, w'⟩ : CallEvent ι)) :
    w.listCount d ≤ w'.listCount d := by
  cases here : w.listVersion d with
  | some v =>
      obtain ⟨v', here', le⟩ := h.upheld_iff.mpr kept v here
      rw [listCount_of_version here, listCount_of_version here']
      exact le
  | none =>
      have zero : w.listCount d = 0 := by
        unfold World.listCount
        rw [here]
        rfl
      cases h with
      | keeps _ version _ =>
          unfold World.listCount
          rw [version]
      | sets _ _ version _ =>
          rw [listCount_of_version version, zero]
          exact Int.one_nonneg
      | bumps _ version _ =>
          rw [listCount_of_version version]
          omega

end Steps

/-! ## Pages -/

/-- No page is under a version that is still to come, and the version that a thread has in hand, its
ghost value, is none of those either. -/
def paged (d : Deployment) (w₀ : World ι) :
    Discipline ι (World ι) Cmd Cmd.Resp Exn Choice Int where
  guard e := ¬ Resets d e
  inv events w inHand := Behind d w ∧ (∀ t, inHand t ≤ w.listCount d) ∧
    ∀ w₁ ∈ Config.states w₀ events, ∀ key, w₁.Caches d key →
    key.version ≤ w.listCount d

/-- The command caches no page under a later version than this one. -/
def NotAhead (d : Deployment) (v : Int) (cmd : Cmd) : Prop :=
  OfVersion d cmd ∧ ∀ key page ttl, cmd = .redis d.apiRedis (.setEventList key page ttl) →
    key.version ≤ v

section Pages

variable {d : Deployment} {w₀ : World ι} {t : ι} {g : Int} {offset limit : Int}

theorem OfVersion.paged {cmd : Cmd} {events : List (CallEvent ι)} {w w' : World ι}
    {inHand : ι → Int}
    {choice : Choice} {answer : Except Exn cmd.Resp} {next : Int} (h : OfVersion d cmd)
    (inv : (paged d w₀).inv events w inHand) (ran : exec t cmd choice w = some (answer, w'))
    (guarded : ¬ Resets d (⟨t, cmd, choice, answer, w, w'⟩ : CallEvent ι))
    (own : ∀ key page ttl, cmd = .redis d.apiRedis (.setEventList key page ttl) →
      key.version ≤ inHand t)
    (le : next ≤ w'.listCount d) :
    (TicketCore.paged d w₀).inv (events ++ [⟨t, cmd, choice, answer, w, w'⟩]) w'
      (Function.update inHand t next) := by
  obtain ⟨behind, bounded, earlier⟩ := inv
  have turns := h.turns ran
  have up := turns.listCount_le guarded
  have behind' : Behind d w' := fun key cached => by
    refine le_trans ?_ up
    cases turns with
    | keeps _ _ pages =>
        rcases pages key cached with old | ⟨page, ttl, stored⟩
        · exact behind key old
        · exact (own key page ttl stored).trans (bounded t)
    | sets _ _ _ pages => exact behind key (pages key cached)
    | bumps _ _ pages => exact behind key (pages key cached)
  refine ⟨behind', (Function.forall_update_iff inHand fun _ v => v ≤ w'.listCount d).mpr
    ⟨le, fun u _ => (bounded u).trans up⟩, fun w₁ mem key cached => ?_⟩
  rw [Config.states_snoc] at mem
  rcases List.mem_append.mp mem with mem | mem
  · exact (earlier w₁ mem key cached).trans up
  · obtain rfl := List.mem_singleton.mp mem
    exact behind' key cached

/-- What caches no page under a later version leaves the version in hand. -/
theorem follows_inHand {α : Type} {p : Async α} {post : Except Exn α → Int → Prop}
    (only : p.Only (NotAhead d g)) (all : ∀ outcome, post outcome g) :
    (paged d w₀).Follows exec t post p g := by
  refine Discipline.Follows.of_only only
    (fun cmd events w inHand choice answer w' h inv same ran guarded => ?_) all
  subst same
  exact h.1.paged inv ran guarded h.2
    ((inv.2.1 t).trans ((h.1.turns ran).listCount_le guarded))

/-- The key that a reader gets is of a version in hand. -/
theorem follows_eventList : (paged d w₀).Follows exec t
    (fun outcome g' => ∀ key, outcome = .ok key → key.version ≤ g')
    (RedisKeys.eventList d offset limit) g := by
  refine Discipline.Follows.bind (fun found g' => ∀ v, found = some v → v ≤ g') ?_
    fun found g₁ known => ?_
  · refine Discipline.Follows.call fun events w inHand choice answer w' inv same ran guarded => ?_
    refine ⟨_, OfVersion.get.paged inv ran guarded nofun
      ((OfVersion.get.turns ran).listCount_le guarded), ?_⟩
    cases answer with
    | error e => exact nofun
    | ok found =>
        obtain ⟨r, got, rfl⟩ := ran_redis ran
        cases got
        exact fun v here => (listCount_of_version here).ge
  cases found with
  | some version =>
      rintro key ⟨⟩
      exact known version rfl
  | none =>
      refine Discipline.Follows.bind (fun _ g' => 1 ≤ g') ?_ fun _ g₂ le => ?_
      · refine Discipline.Follows.call
          fun events w inHand choice answer w' inv same ran guarded => ?_
        refine ⟨_, OfVersion.set.paged inv ran guarded nofun le_rfl, ?_⟩
        cases answer with
        | error e => exact nofun
        | ok _ =>
            obtain ⟨r, stored, rfl⟩ := ran_redis ran
            cases stored
            exact (listCount_of_version listVersion_update).ge
      · rintro key ⟨⟩
        exact le

/-- **Every call caches its page under a version that it has in hand.** -/
theorem follows_versionCall (call : VersionCall) :
    (paged d w₀).Follows exec t (fun _ _ => True) (call.program d) g := by
  cases call with
  | eventList offset limit =>
      refine Discipline.Follows.bind (fun _ _ => True)
        (follows_eventList.mono fun outcome _ _ => ?_)
        fun _ _ _ => trivial
      cases outcome with
      | ok _ => trivial
      | error _ => trivial
  | bumpEventListVersion =>
      refine Discipline.Follows.bind (fun _ _ => True)
        (follows_inHand (Program.Only.call ⟨.incr, nofun⟩) fun outcome => ?_)
        fun _ _ _ => trivial
      cases outcome with
      | ok _ => trivial
      | error _ => trivial
  | getAll offset limit =>
      refine Discipline.Follows.bind (fun _ _ => True) ?_ fun _ _ _ => trivial
      rw [getAll_eq]
      refine Discipline.Follows.bind (fun key g' => key.version ≤ g') ?_ fun key g₁ le => ?_
      · refine follows_eventList.mono fun outcome g' known => ?_
        cases outcome with
        | ok key => exact known key rfl
        | error _ => trivial
      have only : (pageUnder d key offset limit).Only (NotAhead d g₁) :=
        only_pageUnder ⟨.getPage key, nofun⟩ ⟨.page offset limit, nofun⟩ fun page ttl =>
          ⟨.setPage key page ttl, by rintro _ _ _ ⟨⟩; exact le⟩
      refine follows_inHand only fun outcome => ?_
      cases outcome with
      | ok _ => trivial
      | error _ => trivial

end Pages

/-! ## Readers after a bump -/

/-- Readers find at least the version `least`, and thread `t` asks for no page under a smaller
one. -/
def atLeast (d : Deployment) (least : Int) (t : ι) :
    Discipline ι (World ι) Cmd Cmd.Resp Exn Choice Unit where
  guard e := ¬ Resets d e
  inv events w _ := (∃ v ∈ w.listVersion d, least ≤ v) ∧
    ∀ e ∈ events, e.thread = t → ∀ key,
    e.cmd = .redis d.apiRedis (.getEventList key) → least ≤ key.version

/-- The command asks for no page under a smaller version. -/
def Recent (d : Deployment) (least : Int) (cmd : Cmd) : Prop :=
  OfVersion d cmd ∧ ∀ key, cmd = .redis d.apiRedis (.getEventList key) → least ≤ key.version

section Readers

variable {d : Deployment} {least : Int} {t u : ι}

/-- A command about the event lists keeps the version up. -/
theorem OfVersion.keeps {cmd : Cmd} {events : List (CallEvent ι)} {w w' : World ι}
    {ghost : ι → Unit} {choice : Choice} {answer : Except Exn cmd.Resp} (h : OfVersion d cmd)
    (inv : (atLeast d least t).inv events w ghost) (ran : exec u cmd choice w = some (answer, w'))
    (guarded : ¬ Resets d (⟨u, cmd, choice, answer, w, w'⟩ : CallEvent ι))
    (recent : u = t → ∀ key, cmd = .redis d.apiRedis (.getEventList key) →
      least ≤ key.version) :
    (atLeast d least t).inv (events ++ [⟨u, cmd, choice, answer, w, w'⟩]) w'
      (Function.update ghost u ()) := by
  obtain ⟨⟨v, here, le⟩, asked⟩ := inv
  obtain ⟨v', here', le'⟩ := (h.turns ran).upheld_iff.mpr guarded v here
  refine ⟨⟨v', here', le.trans le'⟩, fun e mem => ?_⟩
  rcases List.mem_append.mp mem with mem | mem
  · exact asked e mem
  · obtain rfl := List.mem_singleton.mp mem
    exact recent

/-- A call that has begun before. -/
theorem follows_begun {p : Async (Option ListKey)} (only : p.Only (OfVersion d)) (other : u ≠ t) :
    (atLeast d least t).Follows exec u (fun _ _ => True) p () :=
  Discipline.Follows.of_only only
    (fun _ _ _ _ _ _ _ h inv _ ran guarded => h.keeps inv ran guarded fun same => (other same).elim)
    fun _ => trivial

/-- A call that goes on with what is recent. -/
theorem follows_recent {α : Type} {p : Async α} (only : p.Only (Recent d least)) :
    (atLeast d least t).Follows exec t (fun _ _ => True) p () :=
  Discipline.Follows.of_only only
    (fun _ _ _ _ _ _ _ h inv _ ran guarded => h.1.keeps inv ran guarded fun _ => h.2)
    fun _ => trivial

/-- A reader that begins here finds no smaller version. -/
theorem follows_newcomer {α : Type} {post : Except Exn α → Unit → Prop}
    {f : ListKey → Async α} {offset limit : Int} (raised : ∀ e, post (.error e) ())
    (rest : ∀ key, least ≤ key.version → (atLeast d least t).Follows exec t post (f key) ()) :
    (atLeast d least t).Follows exec t post (RedisKeys.eventList d offset limit >>= f) () := by
  refine Discipline.Follows.bind (fun key _ => least ≤ key.version) ?_ fun key _ le => rest key le
  intro events w ghost choice answer w' inv _ ran guarded
  refine ⟨(), OfVersion.get.keeps inv ran guarded fun _ => nofun, ?_⟩
  cases answer with
  | error e => exact raised e
  | ok found =>
      obtain ⟨r, got, rfl⟩ := ran_redis ran
      cases got
      obtain ⟨v, here, le⟩ := inv.1
      have present : (w.redis d.apiRedis).eventListVersion = some v := here
      rw [present]
      exact le

/-- A call that begins here gets no smaller version, and asks for no page under one. -/
theorem follows_begins (call : VersionCall) :
    (atLeast d least t).Follows exec t
      (fun outcome _ => ∀ key, outcome = .ok (some key) → least ≤ key.version)
      (call.program d) () := by
  cases call with
  | eventList offset limit =>
      refine follows_newcomer (fun _ => nofun) fun key le => ?_
      rintro _ ⟨⟩
      exact le
  | bumpEventListVersion =>
      refine Discipline.Follows.bind (fun _ _ => True) ?_ fun _ _ _ => nofun
      refine (follows_recent (Program.Only.call ⟨.incr, nofun⟩)).mono fun outcome _ _ => ?_
      cases outcome with
      | ok _ => trivial
      | error _ => exact nofun
  | getAll offset limit =>
      refine Discipline.Follows.bind (fun _ _ => True) ?_ fun _ _ _ => nofun
      rw [getAll_eq]
      refine follows_newcomer (fun _ => nofun) fun key le => ?_
      refine (follows_recent (only_pageUnder ⟨.getPage key, ?_⟩ ⟨.page offset limit, nofun⟩
        fun page ttl => ⟨.setPage key page ttl, nofun⟩)).mono fun outcome _ _ => ?_
      · rintro _ ⟨⟩
        exact le
      · cases outcome with
        | ok _ => trivial
        | error _ => exact nofun

end Readers

/-! ## What a bump invalidates -/

section Runs

variable {d : Deployment} {calls : ι → VersionCall} {w : World ι} {events : List (CallEvent ι)}
  {c : Config ι (World ι) Cmd Cmd.Resp Exn (Option ListKey)}

/-- The calls, each about to begin. -/
def VersionCall.config (d : Deployment) (calls : ι → VersionCall) (w : World ι) :
    Config ι (World ι) Cmd Cmd.Resp Exn (Option ListKey) :=
  ⟨w, fun t => (calls t).program d⟩

theorem turns_of_run (run : Config.Run exec (VersionCall.config d calls w) events c)
    {e : CallEvent ι} (mem : e ∈ events) : Turns d e.cmd e.choice e.before e.after :=
  ((run.only fun t => only_program (calls t)).1 e mem).turns (run.executed e mem)

theorem upheld_iff_of_run (run : Config.Run exec (VersionCall.config d calls w) events c) :
    (Config.states w events).Pairwise (Upheld d) ↔ ∀ e ∈ events, ¬ Resets d e :=
  (run.pairwise_states fun _ _ _ first second => first.trans second).trans
    (forall₂_congr fun _ mem => (turns_of_run run mem).upheld_iff)

/-- Without a reset, the pages of all states so far are under versions that have come. -/
theorem pages_of_run (behind : Behind d w)
    (run : Config.Run exec (VersionCall.config d calls w) events c)
    (kept : ∀ e ∈ events, ¬ Resets d e) :
    ∀ w₁ ∈ Config.states w events, ∀ key, w₁.Caches d key →
      key.version ≤ c.shared.listCount d := by
  have start : (paged d w).Holds exec (fun _ _ _ => True) [] (VersionCall.config d calls w) := by
    refine ⟨fun _ => w.listCount d, ⟨behind, fun _ => le_rfl, fun w₁ mem key cached => ?_⟩,
      fun t => follows_versionCall (calls t)⟩
    obtain rfl := List.mem_singleton.mp mem
    exact behind key cached
  obtain ⟨_, ⟨_, _, pages⟩, _⟩ := start.run run kept
  exact pages

/-- A bump, and what comes after it without a reset: the version that the bump has set is the
least. -/
theorem atLeast_of_bump {first later : List (CallEvent ι)} {bump : CallEvent ι} {t : ι}
    (run : Config.Run exec (VersionCall.config d calls w) (first ++ bump :: later) c)
    (kept : ∀ e ∈ first ++ bump :: later, ¬ Resets d e) (bumps : Bumps d bump)
    (begins : ∀ e ∈ first ++ [bump], e.thread ≠ t) :
    ∃ c₁ : Config ι (World ι) Cmd Cmd.Resp Exn (Option ListKey),
      Config.Run exec (VersionCall.config d calls w) first c₁ ∧
      (∀ e ∈ later, e.thread = t → ∀ key, e.cmd = .redis d.apiRedis (.getEventList key) →
        c₁.shared.listCount d + 1 ≤ key.version) ∧
      ∀ key, c.Finished t (.ok (some key)) → c₁.shared.listCount d + 1 ≤ key.version := by
  rw [List.append_cons] at run kept
  obtain ⟨c₂, begun, rest⟩ := run.split
  have idle := begun.not_begun begins
  obtain ⟨c₁, before, step⟩ := begun.snoc_inv
  have raisedTo : c₂.shared.listVersion d = some (c₁.shared.listCount d + 1) := by
    have turns := turns_of_run begun (List.mem_append_right _ (List.mem_singleton_self _))
    obtain ⟨command, clean⟩ := bumps
    cases step with
    | mk _ _ =>
        cases turns with
        | keeps failed _ _ => exact (failed (.inr command) clean).elim
        | sets other _ _ _ => cases other.symm.trans command
        | bumps _ version _ => exact version
  have start : (atLeast d (c₁.shared.listCount d + 1) t).Holds exec
      (fun u outcome _ => u = t → ∀ key,
      outcome = .ok (some key) → c₁.shared.listCount d + 1 ≤ key.version) [] c₂ := by
    refine ⟨fun _ => (),
      ⟨⟨_, raisedTo, le_rfl⟩, fun _ mem => (List.not_mem_nil mem).elim⟩, fun u => ?_⟩
    by_cases same : u = t
    · subst same
      rw [idle]
      exact (follows_begins (calls u)).mono fun _ _ least _ => least
    · exact (follows_begun ((begun.only fun t => only_program (calls t)).2 u) same).mono
        fun _ _ _ equal => (same equal).elim
  obtain ⟨_, ⟨_, asked⟩, follows⟩ :=
    start.run rest fun e mem => kept e (List.mem_append_right _ mem)
  exact ⟨c₁, before, asked, fun key finished =>
    Discipline.Holds.post_of_finished follows finished rfl key rfl⟩

/-- **The version never falls if and only if no reader sets it while it is above one.** Then a
reader that begins after a bump gets a key with a version that was not there before the bump; and
where in the beginning no page is under a version that is still to come, no page that has been
cached before the bump is served to a call that begins after it. -/
theorem list_version_kept_iff (run : Config.Run exec (VersionCall.config d calls w) events c) :
    ((Config.states w events).Pairwise (Upheld d) ↔ ∀ e ∈ events, ¬ Resets d e) ∧
    ((∀ e ∈ events, ¬ Resets d e) → ∀ first bump later, events = first ++ bump :: later →
      Bumps d bump → ∀ t key, (∀ e ∈ first ++ [bump], e.thread ≠ t) →
      c.Finished t (.ok (some key)) →
      ∀ w₁ ∈ Config.states w first, ∀ v ∈ w₁.listVersion d, v < key.version) ∧
    (Behind d w → (((Config.states w events).Pairwise (Upheld d) ∧ NeverRevived d w events) ↔
      ∀ e ∈ events, ¬ Resets d e)) := by
  have iff := upheld_iff_of_run run
  refine ⟨iff, ?_, fun behind =>
    ⟨fun both => iff.mp both.1, fun kept => ⟨iff.mpr kept, ?_⟩⟩⟩
  · rintro kept first bump later rfl bumps t key begins finished w₁ mem v held
    obtain ⟨c₁, before, _, got⟩ := atLeast_of_bump run kept bumps begins
    have least := got key finished
    -- What was held before the bump is no more than what the bump found.
    have ordered := (upheld_iff_of_run before).mpr fun e mem => kept e (List.mem_append_left _ mem)
    have found : v ≤ c₁.shared.listCount d := by
      rcases before.eq_or_rel_last ordered mem with rfl | below
      · exact (listCount_of_version held).ge
      · obtain ⟨v', held', le⟩ := below v held
        rw [listCount_of_version held']
        exact le
    omega
  · rintro first bump later rfl bumps e mem begins key asks w₁ past cached
    obtain ⟨c₁, before, asked, _⟩ := atLeast_of_bump run kept bumps begins
    have recent := asked e mem rfl key asks
    have old := pages_of_run behind before
      (fun e mem => kept e (List.mem_append_left _ mem)) w₁ past key cached
    omega

end Runs

/-- A reader, a bump, and another reader. -/
def bumpBetweenReaders : Fin 3 → VersionCall :=
  ![.getAll 0 10, .bumpEventListVersion, .getAll 0 10]

/-- The first reader creates the version and caches its page, and the second one caches its own
under a later version. -/
theorem list_version_kept_of_bumpBetweenReaders :
    ∃ (events : List (CallEvent (Fin 3)))
      (c : Config (Fin 3) (World (Fin 3)) Cmd Cmd.Resp Exn (Option ListKey)),
      Config.Run exec (VersionCall.config sharedRedis bumpBetweenReaders World.empty) events c ∧
      (∀ e ∈ events, ¬ Resets sharedRedis e) ∧
      c.shared.Caches sharedRedis ⟨1, 0, 10⟩ ∧ c.shared.Caches sharedRedis ⟨2, 0, 10⟩ ∧
      NeverRevived sharedRedis World.empty events := by
  have found : ((VersionCall.config sharedRedis bumpBetweenReaders World.empty).replay exec
      (([0, 0, 0, 0, 0, 1, 2, 2, 2, 2] : List (Fin 3)).map fun t => (t, {}))).any (fun r =>
        decide ((Config.states World.empty r.1).map (·.listVersion sharedRedis) =
            [none, none, some 1, some 1, some 1, some 1, some 2, some 2, some 2, some 2, some 2] ∧
          r.2.shared.Caches sharedRedis ⟨1, 0, 10⟩ ∧
            r.2.shared.Caches sharedRedis ⟨2, 0, 10⟩)) =
        true := by
    decide
  obtain ⟨events, c, run, holds⟩ := Config.exists_run_of_replay
    (P := fun events c =>
      decide ((Config.states World.empty events).map (·.listVersion sharedRedis) =
          [none, none, some 1, some 1, some 1, some 1, some 2, some 2, some 2, some 2, some 2] ∧
        c.shared.Caches sharedRedis ⟨1, 0, 10⟩ ∧
        c.shared.Caches sharedRedis ⟨2, 0, 10⟩)) found
  obtain ⟨versions, first, second⟩ := of_decide_eq_true holds
  have ordered :
      ([none, none, some 1, some 1, some 1, some 1, some 2, some 2, some 2, some 2, some 2] :
      List (Option Int)).Pairwise fun version version' => ∀ v ∈ version, ∃ v' ∈ version',
          v ≤ v' := by
    decide
  rw [← versions] at ordered
  have upheld :=
    (List.pairwise_map (f := fun w₁ : World (Fin 3) => w₁.listVersion sharedRedis)).mp ordered
  obtain ⟨iff, _, pages⟩ := list_version_kept_iff run
  have kept := iff.mp upheld
  have empty : Behind sharedRedis (World.empty : World (Fin 3)) := fun key cached => by cases cached
  exact ⟨events, c, run, kept, first, second, ((pages empty).mpr kept).2⟩

/-- A reader and two bumps. -/
def readerAndBumps : Fin 3 → VersionCall :=
  ![.eventList 0 10, .bumpEventListVersion, .bumpEventListVersion]

/-- The reader finds no version, and sets it to one after both bumps. -/
theorem list_version_reset :
    ∃ (events : List (CallEvent (Fin 3)))
      (c : Config (Fin 3) (World (Fin 3)) Cmd Cmd.Resp Exn (Option ListKey)),
      Config.Run exec (VersionCall.config sharedRedis readerAndBumps World.empty) events c ∧
      ¬ (Config.states World.empty events).Pairwise (Upheld sharedRedis) := by
  have found : ((VersionCall.config sharedRedis readerAndBumps World.empty).replay exec
      (([0, 1, 2, 0] : List (Fin 3)).map fun t => (t, {}))).any (fun r =>
        decide ((Config.states World.empty r.1).map (·.listVersion sharedRedis) =
          [none, none, some 1, some 2, some 1])) = true := by
    decide
  obtain ⟨events, c, run, versions⟩ := Config.exists_run_of_replay
    (P := fun events _ => decide ((Config.states World.empty events).map
      (·.listVersion sharedRedis) = [none, none, some 1, some 2, some 1])) found
  have versions := of_decide_eq_true versions
  refine ⟨events, c, run, fun upheld => ?_⟩
  have ordered : ((Config.states World.empty events).map (·.listVersion sharedRedis)).Pairwise
      fun version version' => ∀ v ∈ version, ∃ v' ∈ version', v ≤ v' :=
        List.pairwise_map.mpr upheld
  rw [versions] at ordered
  revert ordered
  decide

end TicketCore
