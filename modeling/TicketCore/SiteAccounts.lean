import TicketCore.Deactivation

/-!
# The accounts of a site

Who may change the row of a user, over whole runs of a site: `Accounts.Moves` says what one event
does to it, `UserHistory` and `PasswordHistory` what a run has made of it.

* `updates_of_run`: what is about to be committed has been prepared by a call with a token and the
  password that was stored when that call loaded the row.
* `login_of_site`: who logs in shows the password that the user has set last, with the registration
  or by the commit of such a call; and nobody has become a superuser.
-/

namespace TicketCore

/-- A call of `change_password` with a token that is accepted as that of the user, and with the
password that was stored when the call loaded the row; this update is what it is about to commit. -/
structure ChangesPassword (lib : Library) (e : SiteEvent) (id : Int) (user : User)
    (passwords : PasswordChange) (update : PasswordUpdate) : Prop where
  call : ∃ token, e.action = .call token (.changeUserPassword passwords) ∧
    getCurrentUser lib e.now e.before.accounts token = .ok (id, user)
  verify : lib.verify user.hashedPassword passwords.oldPassword = true
  answer : e.answer = .changing update
  update : ∃ salt, update = ⟨id, lib.hash salt passwords.newPassword⟩

/-- The event sets the password of the user: with the registration, or by the commit of an earlier
call. -/
structure SetsPassword (lib : Library) (earlier : List SiteEvent) (e : SiteEvent) (id : Int)
    (email password : String) : Prop where
  asked : (∃ userIn : UserCreate, e.action = .registerUser userIn ∧ userIn.email = email ∧
      userIn.password = password ∧ e.before.accounts.get id = none) ∨
    ∃ update, e.action = .commitPassword update ∧ ∃ call ∈ earlier, ∃ user passwords,
      ChangesPassword lib call id user passwords update ∧ passwords.newPassword = password
  stored : ∃ user salt, e.after.accounts.get id = some user ∧
      user.hashedPassword = lib.hash salt password

/-- A change of the password is committed, and the user will be told so. A change can stand without
that, where the refresh after the commit fails. -/
def SiteEvent.Confirms (e : SiteEvent) (id : Int) : Prop :=
  ∃ response, e.answer = .passwordChanged (.ok response) ∧ response.id = id

/-- The password of the user has been set, and no change that was committed later has been
confirmed. -/
def LastSet (lib : Library) (events : List SiteEvent) (id : Int) (email password : String) : Prop :=
  ∃ earlier e later, events = earlier ++ e :: later ∧
    SetsPassword lib earlier e id email password ∧
    ∀ e' ∈ later, ¬ e'.Confirms id

/-- What an event may do to the row of a user. -/
inductive Accounts.Moves (lib : Library) (e : SiteEvent) (id : Int) : Option User →
    Option User → Prop
  | same {version : Option User} : ¬ e.Confirms id → Moves lib e id version version
  | joins {userIn : UserCreate} {salt : Nat} : e.action = .registerUser userIn →
      Moves lib e id none (some ⟨userIn.email, lib.hash salt userIn.password, true, false⟩)
  | setActive {user : User} {isActive : Bool} : ¬ e.Confirms id →
      Moves lib e id (some user) (some { user with isActive })
  | password {user : User} {update : PasswordUpdate} : e.action = .commitPassword update →
      update.userId = id → update ∈ e.before.updates →
      Moves lib e id (some user) (some { user with hashedPassword := update.hashedPassword })

/-- What a run has made of a row that was `first`, but for its password. -/
structure UserHistory (first : Option User) (user : User) : Prop where
  known : ∀ old, first = some old → user.email = old.email ∧
      user.isSuperuser = old.isSuperuser
  joined : first = none → user.isSuperuser = false

/-- Where the password comes from: it has been set last, or is still that of the beginning. -/
def PasswordHistory (lib : Library) (events : List SiteEvent) (id : Int) (first : Option User)
    (user : User) : Prop :=
  (∃ salt password, LastSet lib events id user.email password ∧
    user.hashedPassword = lib.hash salt password) ∨
  ∃ old, first = some old ∧ user.hashedPassword = old.hashedPassword ∧
    ∀ e ∈ events, ¬ e.Confirms id

variable {lib : Library} {d : Deployment} {service : IdempotencyService}
  {isoformat : Int → String}
  {s s' : Site} {events : List SiteEvent} {e : SiteEvent} {id now : Int} {a : Accounts}
  {token : String} {user : User}

/-! ## Tokens -/

theorem get_of_getCurrentUser (ok : getCurrentUser lib now a token = .ok (id, user)) :
    a.get id = some user := by
  unfold getCurrentUser at ok
  split at ok
  · cases ok
  split at ok
  · cases ok
  split at ok
  · cases ok
  split at ok
  · cases ok
  split at ok
  · cases ok
  · rename_i stored
    cases ok
    exact stored

theorem Endpoint.authorize_eq_ok {endpoint : Endpoint} :
    endpoint.authorize lib now a token = .ok (id, user) ↔
      getCurrentUser lib now a token = .ok (id, user) ∧
        (endpoint.isAdmin = true → user.isSuperuser = true) := by
  unfold authorize
  cases shown : getCurrentUser lib now a token with
  | error e => exact ⟨fun ok => (by cases ok), fun ok => (by cases ok.1)⟩
  | ok found =>
      show (if endpoint.isAdmin then getCurrentSuperuser found else pure found) = _ ↔ _
      unfold getCurrentSuperuser
      by_cases admin : endpoint.isAdmin = true
      · rw [if_pos admin]
        by_cases superuser : found.2.isSuperuser = false
        · rw [if_pos superuser]
          refine ⟨fun ok => (by cases ok), fun ok => ?_⟩
          cases ok.1
          rw [ok.2 admin] at superuser
          cases superuser
        · rw [if_neg superuser]
          refine ⟨fun ok => ⟨ok, fun _ => ?_⟩, And.left⟩
          cases ok
          exact (Bool.not_eq_false _).mp superuser
      · rw [if_neg admin]
        exact ⟨fun ok => ⟨ok, fun is => (admin is).elim⟩, And.left⟩

/-! ## One event -/

namespace Accounts

variable {a' : Accounts}

theorem get_next : a.get a.next = none := by
  cases stored : a.get a.next with
  | none => rfl
  | some user => exact (lt_irrefl _ (a.id_lt_next _ (get_eq_some.mp stored))).elim

theorem get_insert {user : User} {fresh : user.email ∉ a.rows.map fun row => row.2.email} :
    (a.insert user fresh).get id = if id = a.next then some user else a.get id := by
  ext found
  rw [get_eq_some, mem_insert]
  by_cases own : id = a.next
  · subst own
    rw [if_pos rfl]
    constructor
    · rintro (mem | new)
      · exact (lt_irrefl _ (a.id_lt_next _ mem)).elim
      · cases new
        rfl
    · intro same
      cases same
      exact .inr rfl
  · rw [if_neg own, get_eq_some]
    exact or_iff_left fun new => own (congrArg Prod.fst new)

/-- The tables are those before the call, or those that it has committed. -/
theorem get_ending {a'' : Accounts} {ending : Ending}
    {response result : Except AuthError UserResponse}
    (ran : ending.run a a' response = (result, a'')) : a'' = a ∨ a'' = a' := by
  cases ending with
  | commits | refreshRaises =>
      cases ran
      exact .inr rfl
  | commitRaises =>
      cases ran
      exact .inl rfl

theorem moves_register {salt : Nat} {ending : Ending} {userIn : UserCreate}
    {result : Except AuthError UserResponse} (action : e.action = .registerUser userIn)
    (quiet : ¬ e.Confirms id)
    (ran : AuthService.register lib salt ending a userIn = (result, a')) :
    Moves lib e id (a.get id) (a'.get id) := by
  unfold AuthService.register at ran
  split at ran
  · cases ran
    exact .same quiet
  rcases get_ending ran with rfl | rfl
  · exact .same quiet
  rw [get_insert]
  split
  · rename_i own
    rw [own, get_next]
    exact .joins action
  · exact .same quiet

/-- What is confirmed has been committed, for the user of the call. -/
theorem moves_commitPassword {ending : Ending} {update : PasswordUpdate}
    {result : Except AuthError UserResponse} (action : e.action = .commitPassword update)
    (answer : e.answer = .passwordChanged result) (waits : update ∈ e.before.updates)
    (ran : AuthService.commitPassword lib ending a update = (result, a')) :
    Moves lib e id (a.get id) (a'.get id) := by
  have fails : ∀ error, result = .error error → ¬ e.Confirms id := by
    rintro error rfl ⟨response, confirms, _⟩
    cases answer.symm.trans confirms
  unfold AuthService.commitPassword at ran
  dsimp only at ran
  split at ran
  · cases ran
    exact .same (fails _ rfl)
  rename_i user stored
  by_cases own : id = update.userId
  · subst own
    cases ending with
    | commits | refreshRaises =>
        cases ran
        rw [get_modify, if_pos rfl, stored]
        exact .password action rfl waits
    | commitRaises =>
        cases ran
        exact .same (fails _ rfl)
  · have quiet : ¬ e.Confirms id := by
      rintro ⟨response, confirms, named⟩
      cases answer.symm.trans confirms
      exact own (named.symm.trans (id_of_modelValidate (Ending.of_run ran).1))
    rcases get_ending ran with rfl | rfl
    · exact .same quiet
    · rw [get_modify, if_neg own]
      exact .same quiet

end Accounts

/-- **What one event does to the accounts.** -/
theorem Site.Step.moves (step : Site.Step lib d service isoformat e) :
    Accounts.Moves lib e id (e.before.accounts.get id) (e.after.accounts.get id) := by
  cases step with
  | register ran => exact Accounts.moves_register rfl (by rintro ⟨_, ⟨⟩, _⟩) ran
  | @setActive s now userId isActive =>
      show Accounts.Moves lib _ id (s.accounts.get id) ((s.accounts.modify userId _ _).get id)
      rw [Accounts.get_modify]
      split
      · cases s.accounts.get id with
        | none => exact .same (by rintro ⟨_, ⟨⟩, _⟩)
        | some user => exact .setActive (by rintro ⟨_, ⟨⟩, _⟩)
      · exact .same (by rintro ⟨_, ⟨⟩, _⟩)
  | commitPassword waits ran => exact Accounts.moves_commitPassword rfl rfl waits ran
  | login | rejected _ | wrongPassword _ _ | changing _ _ | starts _ _ | visits _ _ | awaits _ =>
      exact .same (by rintro ⟨_, ⟨⟩, _⟩)

/-- **What is about to be committed**: it was so in the beginning, or has been prepared by a
call. -/
theorem updates_of_run (run : Site.Run lib d service isoformat s events s')
    {update : PasswordUpdate} (waits : update ∈ s'.updates) : update ∈ s.updates ∨
      ∃ call ∈ events, ∃ user passwords,
        ChangesPassword lib call update.userId user passwords update := by
  induction run with
  | nil => exact .inl waits
  | @snoc events e _ step ih =>
      have before : update ∈ e.before.updates → update ∈ s.updates ∨
          ∃ call ∈ events ++ [e],
          ∃ user passwords, ChangesPassword lib call update.userId user passwords update :=
            fun there =>
        (ih there).imp_right fun ⟨call, mem, prepared⟩ =>
          ⟨call, List.mem_append_left _ mem, prepared⟩
      cases step with
      | changing allowed ran =>
          rcases List.mem_cons.mp waits with rfl | there
          · have current := (Endpoint.authorize_eq_ok.mp allowed).1
            obtain ⟨user, stored, verified, rfl⟩ := AuthService.preparePassword_eq_ok.mp ran
            cases (get_of_getCurrentUser current).symm.trans stored
            exact .inr ⟨_, List.mem_append_right _ (List.mem_singleton_self _), _, _,
              ⟨_, rfl, current⟩, verified, rfl, _, rfl⟩
          · exact before there
      | commitPassword _ _ => exact before (List.mem_of_mem_erase waits)
      | register _ | login | setActive | rejected _ | wrongPassword _ _ | starts _ _ | visits _ _
      | awaits _ => exact before waits

/-! ## Runs -/

theorem LastSet.snoc {email password : String} (h : LastSet lib events id email password)
    (quiet : ¬ e.Confirms id) : LastSet lib (events ++ [e]) id email password := by
  obtain ⟨earlier, set, later, rfl, sets, last⟩ := h
  refine ⟨earlier, set, later ++ [e], by rw [List.append_assoc, List.cons_append], sets,
    fun e' mem => ?_⟩
  rcases List.mem_append.mp mem with mem | mem
  · exact last e' mem
  · rw [List.mem_singleton.mp mem]
    exact quiet

theorem LastSet.last {email password : String}
    (sets : SetsPassword lib events e id email password) :
    LastSet lib (events ++ [e]) id email password :=
  ⟨events, e, [], rfl, sets, fun _ mem => (List.not_mem_nil mem).elim⟩

theorem Accounts.Moves.isSome {version version' : Option User}
    (h : Accounts.Moves lib e id version version') (here : version.isSome) : version'.isSome := by
  cases h with
  | same _ => exact here
  | joins _ => rfl
  | setActive _ => rfl
  | password _ _ _ => rfl

section

variable {first : Option User} {user' : User}

/-- What one event makes of a row whose history is known. -/
theorem UserHistory.moves {before : Option User}
    (known : ∀ user, before = some user → UserHistory first user)
    (stays : first.isSome → before.isSome) (moves : Accounts.Moves lib e id before (some user')) :
    UserHistory first user' := by
  cases moves with
  | same quiet => exact known user' rfl
  | joins action =>
      refine ⟨fun old here => ?_, fun _ => rfl⟩
      rw [here] at stays
      cases stays rfl
  | setActive quiet => exact ⟨(known _ rfl).known, (known _ rfl).joined⟩
  | password _ _ _ => exact ⟨(known _ rfl).known, (known _ rfl).joined⟩

/-- An event that keeps the password. -/
theorem PasswordHistory.snoc (h : PasswordHistory lib events id first user)
    (email : user'.email = user.email) (hashed : user'.hashedPassword = user.hashedPassword)
    (quiet : ¬ e.Confirms id) : PasswordHistory lib (events ++ [e]) id first user' := by
  unfold PasswordHistory
  rw [email, hashed]
  rcases h with ⟨salt, password, set, same⟩ | ⟨old, here, same, never⟩
  · exact .inl ⟨salt, password, set.snoc quiet, same⟩
  · refine .inr ⟨old, here, same, fun e' mem => ?_⟩
    rcases List.mem_append.mp mem with mem | mem
    · exact never e' mem
    · rw [List.mem_singleton.mp mem]
      exact quiet

/-- What one event makes of a password whose history is known, where every update has been
prepared. -/
theorem PasswordHistory.moves
    (known : ∀ user, e.before.accounts.get id = some user →
      PasswordHistory lib events id first user)
    (prepared : ∀ update ∈ e.before.updates, ∃ call ∈ events, ∃ user passwords,
      ChangesPassword lib call update.userId user passwords update)
    (stored : e.after.accounts.get id = some user')
    (moves : Accounts.Moves lib e id (e.before.accounts.get id) (e.after.accounts.get id)) :
    PasswordHistory lib (events ++ [e]) id first user' := by
  rw [stored] at moves
  generalize version : e.before.accounts.get id = before at known moves
  cases moves with
  | same quiet => exact (known user' rfl).snoc rfl rfl quiet
  | joins action =>
      exact .inl ⟨_, _, .last ⟨.inl ⟨_, action, rfl, rfl, version⟩, _, _, stored, rfl⟩,
        rfl⟩
  | setActive quiet => exact (known _ rfl).snoc rfl rfl quiet
  | @password user update action own waits =>
      subst own
      obtain ⟨call, mem, loaded, passwords, changes⟩ := prepared update waits
      obtain ⟨salt, made⟩ := changes.update
      have hashed : update.hashedPassword = lib.hash salt passwords.newPassword := by rw [made]
      exact .inl ⟨salt, passwords.newPassword,
        .last ⟨.inr ⟨update, action, call, mem, loaded, passwords, changes, rfl⟩, _, salt,
          stored, hashed⟩,
        hashed⟩

end

/-- **What a run makes of the accounts.** -/
theorem accounts_of_run (run : Site.Run lib d service isoformat s events s') :
    ((s.accounts.get id).isSome → (s'.accounts.get id).isSome) ∧
      ∀ user, s'.accounts.get id = some user → UserHistory (s.accounts.get id) user := by
  induction run with
  | nil =>
      refine ⟨fun here => here, fun user stored => ⟨fun old here => ?_, fun absent => ?_⟩⟩
      · cases stored.symm.trans here
        exact ⟨rfl, rfl⟩
      · cases stored.symm.trans absent
  | snoc run step ih =>
      refine ⟨fun here => step.moves.isSome (ih.1 here), fun user stored => ?_⟩
      have moves : Accounts.Moves lib _ id _ _ := step.moves
      rw [stored] at moves
      exact UserHistory.moves ih.2 ih.1 moves

/-- **What a run makes of the passwords**, if no change of one is under way in the beginning. -/
theorem password_of_run (idle : s.updates = []) (run : Site.Run lib d service isoformat s events s')
    (stored : s'.accounts.get id = some user) :
    PasswordHistory lib events id (s.accounts.get id) user := by
  induction run generalizing user with
  | nil => exact .inr ⟨user, stored, rfl, fun _ mem => (List.not_mem_nil mem).elim⟩
  | snoc run step ih =>
      refine PasswordHistory.moves (fun user there => ih there)
        (fun update waits => ?_) stored step.moves
      refine (updates_of_run run waits).resolve_left fun there => ?_
      rw [idle] at there
      exact List.not_mem_nil there

/-- Who is a superuser has been one from the beginning. -/
theorem superuser_from_start (run : Site.Run lib d service isoformat s events s')
    (stored : s'.accounts.get id = some user) (superuser : user.isSuperuser = true) :
    ∃ old, s.accounts.get id = some old ∧ old.isSuperuser = true := by
  have history := (accounts_of_run run).2 user stored
  cases first : s.accounts.get id with
  | none =>
      rw [history.joined first] at superuser
      cases superuser
  | some old =>
      rw [(history.known old first).2] at superuser
      exact ⟨old, rfl, superuser⟩

/-- **Who logs in**, after any run in which no change of a password was under way in the beginning:
a user whose address is the one of the registration, who is a superuser only if that one has been
one from the beginning, and who shows the password that has been set last. -/
theorem login_of_site (idle : s.updates = []) (run : Site.Run lib d service isoformat s events s')
    {email password : String}
    (login : AuthService.authenticate lib now s'.accounts email password = .ok
      (lib.createAccessToken now id)) :
    ∃ user, s'.accounts.get id = some user ∧ user.email = email ∧
      (user.isSuperuser = true → ∃ old, s.accounts.get id = some old ∧
        old.isSuperuser = true) ∧
      (∀ old, s.accounts.get id = some old → old.email = email) ∧
      (LastSet lib events id email password ∨ ∃ old, s.accounts.get id = some old ∧
        lib.verify old.hashedPassword password = true ∧ ∀ e ∈ events, ¬ e.Confirms id) := by
  obtain ⟨user, stored, rfl, _, verified⟩ := AuthService.authenticate_eq_ok.mp login
  have history := (accounts_of_run run).2 user stored
  refine ⟨user, stored, rfl, superuser_from_start run stored,
    fun old here => ((history.known old here).1).symm, ?_⟩
  rcases password_of_run idle run stored with
    ⟨salt, shown, set, same⟩ | ⟨old, here, same, never⟩
  · rw [same, lib.verify_hash] at verified
    rw [verified]
    exact .inl set
  · rw [same] at verified
    exact .inr ⟨old, here, verified, never⟩

/-- The user registers, logs in, and changes the password. -/
theorem login_of_ann :
    ∃ events s', Site.Run plainLibrary sharedRedis plainService toString
      (.initial .empty .empty) events s' ∧
      AuthService.authenticate plainLibrary 30 s'.accounts "ann@example.com" "still secret" =
        .ok "1830:1" ∧
      LastSet plainLibrary events 1 "ann@example.com" "still secret" := by
  have registered : AuthService.register plainLibrary 0 .commits .empty annInNormalForm =
      (.ok ⟨1, "ann@example.com", true, false⟩, annRegistered) := rfl
  have registers : Site.Step plainLibrary sharedRedis plainService toString
      ⟨0, .registerUser annInNormalForm, .registered _, .initial .empty .empty, _⟩ :=
        .register registered
  have allowed : (Endpoint.changeUserPassword annChange).authorize plainLibrary 20
      annRegistered "1800:1" =
      .ok (1, ⟨"ann@example.com", "very secret", true, false⟩) := by decide
  have changed : AuthService.changePassword plainLibrary 0 .commits annRegistered 1 annChange =
      (.ok ⟨1, "ann@example.com", true, false⟩, annRegistered.modify 1
        ({ · with hashedPassword := "still secret" }) fun _ => rfl) := rfl
  obtain ⟨later, s', run, accounts, _⟩ :=
    (Site.Run.nil.snoc registers).changePassword allowed changed
  have login : AuthService.authenticate plainLibrary 30 s'.accounts "ann@example.com"
      "still secret" =
      .ok (plainLibrary.createAccessToken 30 1) := by
    rw [accounts]
    decide
  obtain ⟨user, _, _, _, _, set | ⟨old, here, _⟩⟩ := login_of_site rfl run login
  · exact ⟨_, _, run, login, set⟩
  · cases here

end TicketCore
