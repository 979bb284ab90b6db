import TicketCore.CommitOrder
import TicketCore.CommitOrder.Routes
import TicketCore.SiteAccounts

/-!
# The order of commits of a site

Registrations, logins, changes of passwords, calls of the endpoints with tokens of any kind, visits
and the tasks of the worker, in any interleaving, whichever awaited calls fail.

* `Admits` says which activity a started call is admitted to.
* `order_of_site`: what happens to the tables is that users join, and one commit after another, each
  of them that of an admitted request as the office would have it at that moment, on what its own
  calls have been shown, and at most one for each request.
-/

namespace TicketCore

open Interleave RowStore CommitOrder

/-! ## Who is admitted to what -/

/-- The thread as which a call starts. -/
def SiteEvent.started (e : SiteEvent) : Option Nat :=
  match e.answer with
  | .started t => some t
  | _ => none

/-- The event is the step of a call under way. -/
def SiteEvent.isStep (e : SiteEvent) : Bool :=
  match e.action with
  | .awaits _ => true
  | _ => false

/-- The event starts this activity: a call whose token the endpoint's dependencies accept, on behalf
of the user of the token, or something that needs no token. -/
inductive Admits (lib : Library) (e : SiteEvent) : Activity → Prop
  | call {token : String} {route : Route} {userId : Int} {user : User} :
      e.action = .call token (.route route) →
      (Endpoint.route route).authorize lib e.now e.before.accounts token = .ok (userId, user) →
      Admits lib e (route.activity userId)
  | visit {activity : Activity} : e.action = .visit activity → activity.isOpen →
      Admits lib e activity

/-- Each request is a task of its own: no thread is started twice. -/
def OwnThreads (events : List SiteEvent) : Prop := (events.filterMap SiteEvent.started).Nodup

/-- The calls are the steps of the calls under way, in their order. -/
def Calls (events : List SiteEvent) (calls : List (CallEvent Nat)) : Prop :=
  List.Forall₂ (fun e call => e.action = .awaits call.thread ∧
    Config.Step exec e.before.config call e.after.config) (events.filter SiteEvent.isStep) calls

/-- No call is under way, no transaction is open, and tickets are those of users. -/
structure Site.AtRest (d : Deployment) (s : Site) : Prop where
  idle : ∀ t, s.config.threads t = pure ()
  opening : Opening d s.config.shared
  users : ∀ id, id ∈ s.config.shared.db.users ↔ (s.accounts.get id).isSome

variable {lib : Library} {d : Deployment} {service : IdempotencyService}
  {isoformat : Int → String}
  {s s' : Site} {events : List SiteEvent} {e : SiteEvent} {acts : Nat → Activity}
  {office : Office} {calls : List (CallEvent Nat)} {t : Nat}

theorem admits_unique {activity activity' : Activity} (h : Admits lib e activity)
    (h' : Admits lib e activity') : activity = activity' := by
  cases h with
  | call calls allowed =>
      cases h' with
      | call calls' allowed' =>
          cases calls.symm.trans calls'
          cases allowed.symm.trans allowed'
          rfl
      | visit visits _ => cases calls.symm.trans visits
  | visit visits _ =>
      cases h' with
      | call calls' _ => cases visits.symm.trans calls'
      | visit visits' _ =>
          cases visits.symm.trans visits'
          rfl

/-- What is started has been admitted. -/
theorem Site.Step.admits (step : Site.Step lib d service isoformat e)
    (starts : e.started = some t) :
    ∃ activity, Admits lib e activity := by
  cases step with
  | starts allowed _ => exact ⟨_, .call rfl allowed⟩
  | visits isOpen _ => exact ⟨_, .visit rfl isOpen⟩
  | _ => cases starts

/-! ## Users join -/

namespace Accounts

variable {a a' : Accounts}

theorem mem_ids {id : Int} : id ∈ (a.rows.map Prod.fst).toFinset ↔ (a.get id).isSome := by
  rw [List.mem_toFinset, List.mem_map, Option.isSome_iff_exists]
  constructor
  · rintro ⟨row, mem, rfl⟩
    exact ⟨row.2, get_eq_some.mpr mem⟩
  · rintro ⟨user, stored⟩
    exact ⟨(id, user), get_eq_some.mp stored, rfl⟩

/-- Nobody leaves. -/
def Keeps (a a' : Accounts) : Prop := ∀ id, (a.get id).isSome → (a'.get id).isSome

end Accounts

theorem Site.Step.keeps (step : Site.Step lib d service isoformat e) :
    e.before.accounts.Keeps e.after.accounts := fun _ here => step.moves.isSome here

namespace CommitOrder

variable {ι : Type} [DecidableEq ι]

/-- Users join; what is locked, known and committed stays. -/
theorem Inv.join {acts : ι → Activity} {calls : List (CallEvent ι)} {w : World ι}
    {ghost : ι → Pending}
    {users : Finset Int} (h : Inv d acts office calls w ghost) (more : w.db.users ⊆ users) :
    Inv d acts office calls { w with db := { w.db with users := users } } ghost where
  right t := by
    have right := h.right t
    refine ⟨right.tickets, right.types, right.events, fun f known => ?_⟩
    have true := right.knows f known
    cases f with
    | user id => exact more true
    | typeBorn id | typeGone id | ticket id identity | ticketGone id => exact true
  integral :=
    { h.integral with owners := fun id ticket here => more (h.integral.owners id ticket here) }
  references :=
    { h.references with
      owners := fun id ticket stored => more (h.references.owners id ticket stored) }
  keys := h.keys
  met := ⟨⟨h.met.1.types, h.met.1.tickets, h.met.1.events⟩,
    fun e mem => ⟨(h.met.2 e mem).types, (h.met.2 e mem).tickets, (h.met.2 e mem).events⟩⟩
  shown := h.shown
  canceled := h.canceled
  order := by
    obtain ⟨commits, order, done⟩ := h.order
    exact ⟨commits, order.join more, done⟩

end CommitOrder

/-! ## The invariant of a site -/

/-- The calls under way keep the discipline of commits, and the users of the tables are those of the
accounts. -/
structure Runs (d : Deployment) (acts : Nat → Activity) (office : Office)
    (events : List SiteEvent) (s : Site)
    (calls : List (CallEvent Nat)) (ghost : Nat → Pending) : Prop where
  steps : Calls events calls
  inv : CommitOrder.Inv d acts office calls s.config.shared ghost
  follows : ∀ t, (discipline d acts office).Follows exec t (fun _ g => g.Free)
      (s.config.threads t) (ghost t)
  waiting : ∀ t, t ∉ events.filterMap SiteEvent.started → ghost t = .start ∧
      s.config.threads t = pure ()
  begun : ∀ call ∈ calls, call.thread ∈ events.filterMap SiteEvent.started
  users : ∀ id, id ∈ s.config.shared.db.users ↔ (s.accounts.get id).isSome

/-- An event that is no step of a call. -/
theorem Calls.quiet (h : Calls events calls) (awaits : e.isStep = false) :
    Calls (events ++ [e]) calls := by
  unfold Calls
  rw [List.filter_append, List.filter_cons_of_neg (by rw [awaits]; exact Bool.false_ne_true),
    List.filter_nil, List.append_nil]
  exact h

/-- One more step of a call. -/
theorem Calls.snoc {call : CallEvent Nat} (h : Calls events calls)
    (action : e.action = .awaits call.thread)
    (step : Config.Step exec e.before.config call e.after.config) :
    Calls (events ++ [e]) (calls ++ [call]) := by
  have awaits : e.isStep = true := by
    unfold SiteEvent.isStep
    rw [action]
  unfold Calls
  rw [List.filter_append, List.filter_cons_of_pos awaits, List.filter_nil]
  exact List.rel_append h (.cons ⟨action, step⟩ .nil)

namespace Runs

variable {ghost : Nat → Pending}

theorem rest (rest : s.AtRest d) : Runs d acts s.config.shared.db.office [] s []
    fun _ => .start where
  steps := .nil
  inv := CommitOrder.Inv.start rest.opening
  follows t := by
    rw [rest.idle t]
    exact ⟨rfl, rfl, rfl⟩
  waiting t _ := ⟨rfl, rest.idle t⟩
  begun _ mem := (List.not_mem_nil mem).elim
  users := rest.users

/-- An event that starts nothing and is no step of a call. -/
theorem quiet (h : Runs d acts office events s calls ghost) (starts : e.started = none)
    (awaits : e.isStep = false) : Runs d acts office (events ++ [e]) s calls ghost where
  steps := h.steps.quiet awaits
  inv := h.inv
  follows := h.follows
  waiting := by
    rw [List.filterMap_append, List.filterMap_cons_none starts, List.filterMap_nil, List.append_nil]
    exact h.waiting
  begun call mem := by
    rw [List.filterMap_append]
    exact List.mem_append_left _ (h.begun call mem)
  users := h.users

/-- The accounts change. -/
theorem withAccounts {a : Accounts} (h : Runs d acts office events s calls ghost)
    (keeps : s.accounts.Keeps a) : Runs d acts office events (s.withAccounts a) calls ghost where
  steps := h.steps
  inv := h.inv.join fun id mem => Accounts.mem_ids.mpr (keeps id ((h.users id).mp mem))
  follows := h.follows
  waiting := h.waiting
  begun := h.begun
  users _ := Accounts.mem_ids

/-- What is about to be committed to the accounts does not matter. -/
theorem withUpdates (h : Runs d acts office events s calls ghost) (updates : List PasswordUpdate) :
    Runs d acts office events { s with updates } calls ghost :=
  ⟨h.steps, h.inv, h.follows, h.waiting, h.begun, h.users⟩

/-- A call begins. -/
theorem start {program : Async Unit} (h : Runs d acts office events s calls ghost)
    (starts : e.started = some t) (awaits : e.isStep = false)
    (first : t ∉ events.filterMap SiteEvent.started)
    (follows : (discipline d acts office).Follows exec t (fun _ g => g.Free) program .start) :
    Runs d acts office (events ++ [e]) (s.start t program) calls ghost where
  steps := h.steps.quiet awaits
  inv := h.inv
  follows u := by
    unfold Site.start
    dsimp only
    by_cases same : u = t
    · subst same
      rw [Function.update_self, (h.waiting u first).1]
      exact follows
    · rw [Function.update_of_ne same]
      exact h.follows u
  waiting u waits := by
    rw [List.filterMap_append, List.mem_append, not_or, List.filterMap_cons_some starts] at waits
    have other : u ≠ t := fun same => waits.2 (by rw [same]; exact List.mem_cons_self ..)
    unfold Site.start
    dsimp only
    rw [Function.update_of_ne other]
    exact h.waiting u waits.1
  begun call mem := by
    rw [List.filterMap_append]
    exact List.mem_append_left _ (h.begun call mem)
  users := h.users

/-- A call under way makes a step. -/
theorem awaits {call : CallEvent Nat} {c : Config Nat (World Nat) Cmd Cmd.Resp Exn Unit}
    (h : Runs d acts office events s calls ghost) (step : Config.Step exec s.config call c)
    (steps : Calls (events ++ [e]) (calls ++ [call])) (starts : e.started = none) :
    ∃ ghost', Runs d acts office (events ++ [e]) { s with config := c }
      (calls ++ [call]) ghost' := by
  obtain ⟨accounts, updates, config⟩ := s
  cases step with
  | @mk t cmd next choice answer after poised ran =>
      have here := h.follows t
      rw [show config.threads t = _ from poised] at here
      have still : (events ++ [e]).filterMap SiteEvent.started =
          events.filterMap SiteEvent.started := by
        rw [List.filterMap_append, List.filterMap_cons_none starts, List.filterMap_nil,
          List.append_nil]
      have busy : config.threads t ≠ pure () := fun idle => by
        rw [show config.threads t = _ from poised] at idle
        cases idle
      obtain ⟨g', inv, rest⟩ :=
        here calls config.shared ghost choice answer after h.inv rfl ran trivial
      refine ⟨Function.update ghost t g', steps, inv, fun u => ?_, fun u waits => ?_,
        fun call mem => ?_,
        fun id => ?_⟩
      · by_cases same : u = t
        · subst same
          dsimp only
          rw [Function.update_self, Function.update_self]
          exact rest
        · dsimp only
          rw [Function.update_of_ne same, Function.update_of_ne same]
          exact h.follows u
      · rw [still] at waits
        obtain ⟨fresh, idle⟩ := h.waiting u waits
        have other : u ≠ t := fun same => busy (same ▸ idle)
        dsimp only
        rw [Function.update_of_ne other, Function.update_of_ne other]
        exact ⟨fresh, idle⟩
      · rw [still]
        rcases List.mem_append.mp mem with mem | mem
        · exact h.begun call mem
        · rw [List.mem_singleton.mp mem]
          by_contra waits
          exact busy (h.waiting t waits).2
      · rw [show after.db.users = config.shared.db.users from users_of_exec ran]
        exact h.users id

end Runs

/-- Everything that happens at a site keeps its invariant. -/
theorem runs_of_run (rest : s.AtRest d) (run : Site.Run lib d service isoformat s events s')
    (own : OwnThreads events)
    (admitted : ∀ e ∈ events, ∀ t, e.started = some t → Admits lib e (acts t)) :
    ∃ calls ghost, Runs d acts s.config.shared.db.office events s' calls ghost := by
  induction run with
  | nil => exact ⟨[], _, .rest rest⟩
  | @snoc events e run step ih =>
      unfold OwnThreads at own
      rw [List.filterMap_append, List.nodup_append] at own
      obtain ⟨calls, ghost, runs⟩ :=
        ih own.1 fun e mem => admitted e (List.mem_append_left _ mem)
      have admitted := admitted e (List.mem_append_right _ (List.mem_singleton_self _))
      have first : ∀ t, e.started = some t → t ∉ events.filterMap SiteEvent.started :=
        fun t starts mem => by
        rw [List.filterMap_cons_some starts] at own
        exact own.2.2 t mem t (List.mem_cons_self ..) rfl
      have keeps := step.keeps
      cases step with
      | register ran => exact ⟨calls, ghost, (runs.withAccounts keeps).quiet rfl rfl⟩
      | login => exact ⟨calls, ghost, runs.quiet rfl rfl⟩
      | setActive => exact ⟨calls, ghost, (runs.withAccounts keeps).quiet rfl rfl⟩
      | rejected refused => exact ⟨calls, ghost, runs.quiet rfl rfl⟩
      | wrongPassword allowed ran => exact ⟨calls, ghost, runs.quiet rfl rfl⟩
      | changing allowed ran => exact ⟨calls, ghost, (runs.withUpdates _).quiet rfl rfl⟩
      | commitPassword waits ran =>
          exact ⟨calls, ghost, ((runs.withAccounts keeps).withUpdates _).quiet rfl rfl⟩
      | @starts s now userId token route user t outcome allowed free =>
          have mine := admits_unique (admitted t rfl) (.call rfl allowed)
          exact ⟨calls, ghost, runs.start rfl rfl (first t rfl) (follows_route mine)⟩
      | @visits s now activity t outcome isOpen free =>
          have mine := admits_unique (admitted t rfl) (.visit rfl isOpen)
          refine ⟨calls, ghost, runs.start rfl rfl (first t rfl) ?_⟩
          rw [← mine]
          exact follows_activity.mono fun _ _ settled => settled.free
      | awaits step => exact ⟨_, runs.awaits step (runs.steps.snoc rfl step) rfl⟩

/-- A thread has been started by one event. -/
theorem OwnThreads.unique (own : OwnThreads events) {e' : SiteEvent} (mem : e ∈ events)
    (mem' : e' ∈ events)
    (starts : e.started = some t) (starts' : e'.started = some t) : e = e' := by
  unfold OwnThreads List.Nodup at own
  rw [List.pairwise_filterMap] at own
  have apart : events.Pairwise fun e e' => e.started = some t → e'.started = some t → e = e' :=
    own.imp fun differ starts starts' => (differ t starts t starts' rfl).elim
  refine List.Pairwise.forall_of_forall_of_flip (fun _ _ _ _ => rfl) apart ?_ mem mem'
    starts starts'
  exact apart.imp fun same starts starts' => (same starts' starts).symm

/-- Each thread has been started for one activity. -/
theorem exists_acts (run : Site.Run lib d service isoformat s events s') (own : OwnThreads events) :
    ∃ acts : Nat → Activity, ∀ e ∈ events, ∀ t, e.started = some t →
      Admits lib e (acts t) := by
  have each : ∀ t, ∃ activity, ∀ e ∈ events, e.started = some t →
      Admits lib e activity := fun t => by
    by_cases there : ∃ e ∈ events, e.started = some t
    · obtain ⟨e, mem, starts⟩ := there
      obtain ⟨activity, admits⟩ := (run.step mem).admits starts
      refine ⟨activity, fun e' mem' starts' => ?_⟩
      rw [own.unique mem' mem starts' starts]
      exact admits
    · exact ⟨.getEvents 0 0, fun e mem starts => (there ⟨e, mem, starts⟩).elim⟩
  choose acts admits using each
  exact ⟨acts, fun e mem t => admits t e mem⟩

/-- **The order of commits of a site**: in any run the tables change by users who join and by
commits alone, each that of an admitted request as the office would have it at that moment, on what
its own calls have been shown, and no request is committed twice. -/
theorem order_of_site (rest : s.AtRest d) (run : Site.Run lib d service isoformat s events s')
    (own : OwnThreads events) :
    ∃ (acts : Nat → Activity) (calls commits : List (CallEvent Nat)),
      (∀ e ∈ events, ∀ t, e.started = some t → Admits lib e (acts t)) ∧
      Calls events calls ∧
      commits.Sublist calls ∧
      (∀ call ∈ commits, ∃ e ∈ events, e.started = some call.thread) ∧
      Order d acts s.config.shared.db.office calls commits s'.config.shared.db.office := by
  obtain ⟨acts, admitted⟩ := exists_acts run own
  obtain ⟨calls, ghost, runs⟩ := runs_of_run rest run own admitted
  obtain ⟨commits, order, _⟩ := runs.inv.order
  exact ⟨acts, calls, commits, admitted, runs.steps, order.sublist, fun call mem =>
    List.mem_filterMap.mp (runs.begun call (order.sublist.subset mem)), order⟩

/-! ## A ticket for a user who has logged in -/

/-- Steps of the calls under way are events of the site. -/
theorem Site.Run.awaits {c : Config Nat (World Nat) Cmd Cmd.Resp Exn Unit}
    (run : Site.Run lib d service isoformat s events s')
    (steps : Config.Run exec s'.config calls c) :
    ∃ later, Site.Run lib d service isoformat s (events ++ later) { s' with config := c } ∧
      ∀ e ∈ later, e.started = none ∧ ∃ t, e.action = .awaits t := by
  induction steps with
  | nil => exact ⟨[], by rwa [List.append_nil], fun _ mem => (List.not_mem_nil mem).elim⟩
  | @snoc calls call c₁ c₂ _ step ih =>
      obtain ⟨later, run, quiet⟩ := ih
      have next : Site.Step lib d service isoformat
          ⟨0, .awaits call.thread, .done, { s' with config := c₁ },
            { s' with config := c₂ }⟩ := .awaits step
      have longer := run.snoc next
      rw [List.append_assoc] at longer
      refine ⟨_, longer, fun e mem => ?_⟩
      rcases List.mem_append.mp mem with mem | mem
      · exact quiet e mem
      · rw [List.mem_singleton.mp mem]
        exact ⟨rfl, _, rfl⟩

/-- The user has registered, and another one. -/
def annAndBob : Accounts :=
  annRegistered.insert ⟨"bob@example.com", "quite secret", true, false⟩ (by decide)

/-- Tickets are on sale, and the other user has reserved one. -/
def shopDay : World Nat where
  db :=
    { tickets := .ofList [⟨1, 2, .reserved, 0⟩]
      ticketTypes := .ofList [exampleType 3 1]
      users := (annAndBob.rows.map Prod.fst).toFinset
      events := .ofList [exampleEvent] }
  redis _ := { RedisDb.empty with inventory := fun id => if id = 1 then some 2 else none }
  jobs := []

/-- The site of that day. -/
def annShop : Site := .initial annAndBob shopDay

theorem annShop_atRest : annShop.AtRest sharedRedis where
  idle _ := rfl
  opening :=
    { calm := ⟨⟨fun _ => rfl, fun _ => rfl⟩, fun _ => rfl⟩
      references := by decide
      keys := fun id key => by
        have key : (if id = 1 then some 2 else none : Option Int).isSome := key
        by_cases same : id = 1
        · subst same
          exact Int.le_refl 1
        · rw [if_neg same] at key
          cases key }
  users id := by
    rw [← Accounts.mem_ids]
    exact Iff.rfl

/-- The user books a ticket. -/
def annBooks : Route := .createTicket ⟨1, Int.one_pos⟩ none

/-- The user pays for it. -/
def annPays : Route := .ticketPayment 2 none

/-- The site once the booking has begun. -/
def annBooking : Site := annShop.start 0 (annBooks.program sharedRedis plainService toString 1)

/-- The site once the payment has begun, too. -/
def annPaying : Site := annBooking.start 1 (annPays.program sharedRedis plainService toString 1)

/-- The site once the timeout of the other user's ticket has begun, too. -/
def annShopping : Site :=
  annPaying.start 2 (Activity.program sharedRedis (.operation (.releaseUnpaidTicket 1)))

/-- A login, and three calls that begin. -/
def annCalls : List SiteEvent :=
  [⟨0, .loginForAccessToken "ann@example.com" "very secret", .loggedIn (.ok "1800:1"),
    annShop, annShop⟩,
    ⟨20, .call "1800:1" (.route annBooks), .started 0, annShop, annBooking⟩,
    ⟨20, .call "1800:1" (.route annPays), .started 1, annBooking, annPaying⟩,
    ⟨20, .visit (.operation (.releaseUnpaidTicket 1)), .started 2, annPaying, annShopping⟩]

/-- The token is that of the user. -/
theorem authorize_of_ann (route : Route) (user : (Endpoint.route route).isAdmin = false) :
    (Endpoint.route route).authorize plainLibrary 20 annAndBob "1800:1" =
      .ok (1, ⟨"ann@example.com", "very secret", true, false⟩) := by
  have shown : getCurrentUser plainLibrary 20 annAndBob "1800:1" =
      .ok (1, ⟨"ann@example.com", "very secret", true, false⟩) := by decide
  exact Endpoint.authorize_eq_ok.mpr ⟨shown, fun admin => by rw [user] at admin; cases admin⟩

theorem run_annCalls :
    Site.Run plainLibrary sharedRedis plainService toString annShop annCalls annShopping := by
  have token : AuthService.authenticate plainLibrary 0 annShop.accounts "ann@example.com"
      "very secret" =
      .ok "1800:1" := by decide
  have login : Site.Step plainLibrary sharedRedis plainService toString
      ⟨0, .loginForAccessToken "ann@example.com" "very secret", .loggedIn _, annShop,
        annShop⟩ := .login
  rw [token] at login
  have books : Site.Step plainLibrary sharedRedis plainService toString
      ⟨20, .call "1800:1" (.route annBooks), .started 0, annShop, annBooking⟩ :=
    .starts (authorize_of_ann annBooks rfl) rfl
  have pays : Site.Step plainLibrary sharedRedis plainService toString
      ⟨20, .call "1800:1" (.route annPays), .started 1, annBooking, annPaying⟩ :=
    .starts (authorize_of_ann annPays rfl) rfl
  have lapses : Site.Step plainLibrary sharedRedis plainService toString
      ⟨20, .visit (.operation (.releaseUnpaidTicket 1)), .started 2, annPaying, annShopping⟩ :=
    .visits rfl rfl
  exact (((Site.Run.nil.snoc login).snoc books).snoc pays).snoc lapses

/-- The user logs in, books a ticket and pays for it, and the reservation of the other user runs
out. -/
theorem ann_buys_ticket :
    ∃ events s', Site.Run plainLibrary sharedRedis plainService toString annShop events s' ∧
      OwnThreads events ∧
      (∃ e ∈ events, e.started = some 0 ∧
        Admits plainLibrary e (.operation (.create 1 ⟨1, Int.one_pos⟩))) ∧
      (∀ e ∈ events, ∀ token endpoint, e.action = .call token endpoint →
        e.now = 20 ∧ e.before.accounts = annAndBob ∧ token = "1800:1") ∧
      s'.config.result 0 = some (.ok ()) ∧
      s'.config.shared.db.tickets.row 1 = some ⟨1, 2, .canceled, 0⟩ ∧
      s'.config.shared.db.tickets.row 2 = some ⟨1, 1, .sold, 0⟩ := by
  have found : (annShopping.config.replay exec
      (([0, 0, 0, 0, 0, 0, 0, 0, 0, 1, 1, 1, 1, 1, 1, 2, 2, 2, 2, 2, 2] : List Nat).map
        fun t => (t, {}))).any (fun r =>
          decide (r.2.result 0 = some (.ok ()) ∧
            r.2.shared.db.tickets.row 1 = some ⟨1, 2, .canceled, 0⟩ ∧
            r.2.shared.db.tickets.row 2 = some ⟨1, 1, .sold, 0⟩)) = true := by
    decide
  obtain ⟨calls, c, steps, holds⟩ := Config.exists_run_of_replay
    (P := fun (_ : List (CallEvent Nat)) c => decide (c.result 0 = some (.ok ()) ∧
      c.shared.db.tickets.row 1 = some ⟨1, 2, .canceled, 0⟩ ∧
      c.shared.db.tickets.row 2 = some ⟨1, 1, .sold, 0⟩)) found
  obtain ⟨returned, lapsed, paid⟩ := of_decide_eq_true holds
  obtain ⟨later, run, quiet⟩ := run_annCalls.awaits steps
  have admits : Admits plainLibrary
      ⟨20, .call "1800:1" (.route annBooks), .started 0, annShop, annBooking⟩
          (annBooks.activity 1) :=
    .call rfl (authorize_of_ann annBooks rfl)
  refine ⟨_, _, run, ?_,
    ⟨_, List.mem_append_left _ (List.mem_cons_of_mem _ (List.mem_cons_self ..)),
    rfl, admits⟩, fun e mem token endpoint calls => ?_, returned, lapsed, paid⟩
  · unfold OwnThreads
    rw [List.filterMap_append, List.filterMap_eq_nil_iff.mpr fun e mem => (quiet e mem).1,
      List.append_nil]
    decide
  · rcases List.mem_append.mp mem with mem | mem
    · simp only [annCalls, List.mem_cons, List.not_mem_nil, or_false] at mem
      rcases mem with rfl | rfl | rfl | rfl
      · cases calls
      · cases calls
        exact ⟨rfl, rfl, rfl⟩
      · cases calls
        exact ⟨rfl, rfl, rfl⟩
      · cases calls
    · obtain ⟨_, t, awaits⟩ := quiet e mem
      cases awaits.symm.trans calls

/-- The calls of that day, and their commits. -/
theorem order_of_ann :
    ∃ events s', Site.Run plainLibrary sharedRedis plainService toString annShop events s' ∧
      s'.config.result 0 = some (.ok ()) ∧
      s'.config.shared.db.tickets.row 2 = some ⟨1, 1, .sold, 0⟩ ∧
      ∃ (acts : Nat → Activity) (calls commits : List (CallEvent Nat)),
        acts 0 = .operation (.create 1 ⟨1, Int.one_pos⟩) ∧ Calls events calls ∧
        Order sharedRedis acts annShop.config.shared.db.office calls commits
          s'.config.shared.db.office := by
  obtain ⟨events, s', run, own, ⟨e, mem, starts, admits⟩, _, returned, _, paid⟩ :=
    ann_buys_ticket
  obtain ⟨acts, calls, commits, admitted, steps, _, _, order⟩ :=
    order_of_site annShop_atRest run own
  have mine := admits_unique (admitted e mem 0 starts) admits
  exact ⟨events, s', run, returned, paid, acts, calls, commits, mine, steps, order⟩

end TicketCore
