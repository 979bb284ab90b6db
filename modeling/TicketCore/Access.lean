import TicketCore.Accounts
import TicketCore.Api

/-!
# Access

The endpoints of `src/api/v1` that require a token, the dependencies `get_current_user` and
`get_current_superuser` of `src/api/deps.py` that decide on it, and a site that serves requests: its
users table, what its processes share, and the calls under way.

* `Endpoint.authorize` decides on a call.
* `Site.Run.changePassword`: a change of a password during which nothing else happens is
  `AuthService.change_password`.
* `Site.Step` serves one request, or lets one call under way go on. A registration and a login are
  one transaction each; a change of a password is one step up to its commit, and one for the commit;
  every other call becomes a thread of its own.
-/

namespace TicketCore

open Interleave

/-! ## Dependencies -/

/-- `HTTPException`. -/
structure HttpException where
  statusCode : Nat
  detail : String
deriving DecidableEq, Repr

/-- `credentials_exception`. -/
def credentialsException : HttpException := ⟨401, "Could not validate credentials"⟩

/-- `get_current_user`, at `now` in seconds: the id and the row of the token's user. -/
def getCurrentUser (lib : Library) (now : Int) (a : Accounts) (token : String) :
    Except HttpException (Int × User) :=
  match lib.decode token with
  | none => .error credentialsException
  | some claims =>
      if claims.exp ≤ now then .error credentialsException
      else if claims.sub = "" then .error credentialsException
      else
        match DecimalText.readInt claims.sub.toList with
        | none => .error credentialsException
        | some userId =>
            match a.get userId with
            | none => .error credentialsException
            | some user => .ok (userId, user)

/-- `get_current_superuser`. -/
def getCurrentSuperuser (currentUser : Int × User) : Except HttpException (Int × User) :=
  if currentUser.2.isSuperuser = false then .error ⟨403, "User doesn't have permission"⟩
  else .ok currentUser

/-- A token that has not expired is that of the user to whom it was issued. -/
theorem getCurrentUser_createAccessToken {lib : Library} {issued now id : Int} {a : Accounts}
    {user : User} (unexpired : now < issued + lib.accessTokenExpireMinutes * 60)
    (stored : a.get id = some user) :
    getCurrentUser lib now a (lib.createAccessToken issued id) = .ok (id, user) := by
  have number := DecimalText.readInt_toString id
  have nonempty : toString id ≠ "" := by
    intro empty
    rw [empty] at number
    cases number
  unfold getCurrentUser Library.createAccessToken
  rw [lib.decode_encode]
  dsimp only
  rw [if_neg (not_le.mpr unexpired), if_neg nonempty, number]
  dsimp only
  rw [stored]

/-! ## Endpoints -/

/-- The endpoints about tickets, ticket types and events that require a token. -/
inductive Route
  | createTicket (ticket : TicketCreate) (idempotencyKey : Option String)
  | getTicket (ticketId : Int)
  | getTickets (offset limit : Int)
  | deleteTicket (ticketId : Int)
  | ticketPayment (ticketId : Int) (idempotencyKey : Option String)
  | createEvent (event : EventCreate) (date : String) (idempotencyKey : Option String)
  | updateEvent (eventId : Int) (updateData : EventUpdate)
  | deleteEvent (eventId : Int)
  | ticketTypeCreate (eventId : Int) (ticketTypeData : TicketTypeCreate)
      (idempotencyKey : Option String)
  | ticketTypeUpdate (ticketTypeId : Int) (updateData : TicketTypeUpdate)
  | ticketTypeDelete (ticketTypeId : Int)

/-- `EmptyUpdateDataError`. -/
def emptyUpdateData : Exn := .domain .emptyUpdateDataError "No field provided for update"

/-- The call tree of an endpoint, for the user whom the token has shown. -/
def Route.program (d : Deployment) (service : IdempotencyService) (isoformat : Int → String)
    (userId : Int) : Route → Async Unit
  | .createTicket ticket key => unit (TicketCore.createTicket d service userId ticket key)
  | .getTicket ticketId => unit (getDb (TicketService.get userId ticketId))
  | .getTickets offset limit => unit (getDb (TicketService.getAllForUser userId offset limit))
  | .deleteTicket ticketId => getDb (TicketService.delete d userId ticketId)
  | .ticketPayment ticketId key => unit (TicketCore.ticketPayment d service ticketId userId key)
  | .createEvent event date key =>
      unit (TicketCore.createEvent d service isoformat userId event date key)
  | .updateEvent eventId updateData =>
      unit (getDb (if updateData.isEmpty then throw emptyUpdateData
        else EventService.update d eventId updateData))
  | .deleteEvent eventId => getDb (EventService.delete d eventId)
  | .ticketTypeCreate eventId data key =>
      unit (TicketCore.ticketTypeCreate d service userId eventId data key)
  | .ticketTypeUpdate ticketTypeId updateData =>
      unit (getDb (if updateData.isEmpty then throw emptyUpdateData
        else TicketTypeService.update d ticketTypeId updateData))
  | .ticketTypeDelete ticketTypeId => getDb (TicketTypeService.delete d ticketTypeId)

/-- The endpoints that require a token. -/
inductive Endpoint
  | changeUserPassword (passwords : PasswordChange)
  | route (route : Route)

/-- The endpoints that depend on `get_current_superuser`; the others depend on
`get_current_user`. -/
def Endpoint.isAdmin : Endpoint → Bool
  | .route (.createEvent ..) | .route (.updateEvent ..) | .route (.deleteEvent ..)
  | .route (.ticketTypeCreate ..) | .route (.ticketTypeUpdate ..) | .route (.ticketTypeDelete ..) =>
      true
  | _ => false

/-- The endpoints that do more than read. -/
def Endpoint.acts : Endpoint → Bool
  | .route (.getTicket ..) | .route (.getTickets ..) => false
  | _ => true

/-- The dependency of an endpoint, on a token. -/
def Endpoint.authorize (lib : Library) (now : Int) (a : Accounts) (token : String)
    (endpoint : Endpoint) : Except HttpException (Int × User) := do
  let currentUser ← getCurrentUser lib now a token
  if endpoint.isAdmin then getCurrentSuperuser currentUser else pure currentUser

/-- Who is let in, with a token that has not expired. -/
theorem Endpoint.authorize_createAccessToken {lib : Library} {issued now id : Int} {a : Accounts}
    {user : User} (endpoint : Endpoint)
    (unexpired : now < issued + lib.accessTokenExpireMinutes * 60) (stored : a.get id = some user) :
    endpoint.authorize lib now a (lib.createAccessToken issued id) =
      if endpoint.isAdmin = true ∧ user.isSuperuser = false then
        .error ⟨403, "User doesn't have permission"⟩
      else .ok (id, user) := by
  unfold authorize
  rw [getCurrentUser_createAccessToken unexpired stored]
  show (if endpoint.isAdmin then getCurrentSuperuser (id, user) else pure (id, user)) = _
  unfold getCurrentSuperuser
  by_cases admin : endpoint.isAdmin = true
  · rw [if_pos admin]
    simp only [admin, true_and]
  · rw [if_neg admin, if_neg fun both => admin both.1]
    rfl

/-! ## A change of a password -/

/-- The `UPDATE` of a password that a call is about to commit. -/
structure PasswordUpdate where
  userId : Int
  hashedPassword : String
deriving DecidableEq, Repr

namespace AuthService

/-- `AuthService.change_password` up to its commit: the row of the user has been loaded before. -/
def preparePassword (lib : Library) (salt : Nat) (a : Accounts) (userId : Int)
    (passwords : PasswordChange) : Except AuthError PasswordUpdate :=
  match a.get userId with
  | none => .error (.invalidCredentialsError "User not found")
  | some user =>
      if lib.verify user.hashedPassword passwords.oldPassword = false then
        .error (.invalidCredentialsError "Incorrect old password")
      else .ok ⟨userId, lib.hash salt passwords.newPassword⟩

/-- `AuthService.change_password` from its commit on: only the hash is written, whatever the row has
become, and the row is read once more. -/
def commitPassword (lib : Library) (ending : Ending) (a : Accounts) (update : PasswordUpdate) :
    Except AuthError UserResponse × Accounts :=
  let hashedPassword := update.hashedPassword
  match a.get update.userId with
  | none => (.error .sqlalchemyError, a)
  | some user =>
      ending.run a (a.modify update.userId ({ · with hashedPassword }) fun _ => rfl)
        (UserResponse.modelValidate lib update.userId { user with hashedPassword })

section

variable {lib : Library} {salt : Nat} {ending : Ending} {a : Accounts} {userId : Int}
  {passwords : PasswordChange}

/-- What is prepared: the old password is that of the row. -/
theorem preparePassword_eq_ok {update : PasswordUpdate} :
    preparePassword lib salt a userId passwords = .ok update ↔
      ∃ user, a.get userId = some user ∧
        lib.verify user.hashedPassword passwords.oldPassword = true ∧
        update = ⟨userId, lib.hash salt passwords.newPassword⟩ := by
  unfold preparePassword
  cases a.get userId with
  | none => exact ⟨fun same => (by cases same), fun ⟨_, there, _⟩ => (by cases there)⟩
  | some user =>
      dsimp only
      split
      · rename_i wrong
        refine ⟨fun same => (by cases same), ?_⟩
        rintro ⟨_, ⟨⟩, verified, _⟩
        rw [wrong] at verified
        cases verified
      · rename_i verified
        rw [Bool.not_eq_false] at verified
        constructor
        · rintro ⟨⟩
          exact ⟨user, rfl, verified, rfl⟩
        · rintro ⟨_, ⟨⟩, _, rfl⟩
          rfl

/-- The two parts, one right after the other. -/
theorem changePassword_cases {result : Except AuthError UserResponse} {a' : Accounts}
    (ran : changePassword lib salt ending a userId passwords = (result, a')) :
    (∃ e, preparePassword lib salt a userId passwords = .error e ∧
      result = .error e ∧ a' = a) ∨
      ∃ update, preparePassword lib salt a userId passwords = .ok update ∧
        commitPassword lib ending a update = (result, a') := by
  unfold changePassword at ran
  unfold preparePassword
  cases stored : a.get userId with
  | none =>
      rw [stored] at ran
      cases ran
      exact .inl ⟨_, rfl, rfl, rfl⟩
  | some user =>
      rw [stored] at ran
      dsimp only at ran ⊢
      split
      · rename_i wrong
        rw [if_pos wrong] at ran
        cases ran
        exact .inl ⟨_, rfl, rfl, rfl⟩
      · rename_i verified
        rw [if_neg verified] at ran
        refine .inr ⟨_, rfl, ?_⟩
        unfold commitPassword
        dsimp only
        rw [stored]
        exact ran

end

end AuthService

/-! ## The site -/

/-- What runs without a token: the endpoints open to everyone, and the tasks of the worker. -/
def Activity.isOpen : Activity → Bool
  | .getEvent _ | .getEvents .. | .getType _ | .getTypes .. => true
  | .operation (.releaseUnpaidTicket _) | .operation .reconcileHungTickets
  | .operation .reconcileRedisOrphans => true
  | _ => false

/-- A site: the users table, the changes of passwords that are about to be committed, and the other
calls under way, on what the processes share. -/
structure Site where
  accounts : Accounts
  updates : List PasswordUpdate
  config : Config Nat (World Nat) Cmd Cmd.Resp Exn Unit

namespace Site

/-- The users table has changed; the other tables refer to its ids. -/
def withAccounts (s : Site) (a : Accounts) : Site :=
  { s with
    accounts := a
    config := { s.config with
      shared := { s.config.shared with
        db := { s.config.shared.db with users := (a.rows.map Prod.fst).toFinset } } } }

/-- A call begins, as thread `t`. -/
def start (s : Site) (t : Nat) (program : Async Unit) : Site :=
  { s with config := { s.config with threads := Function.update s.config.threads t program } }

/-- A site at rest: no call is under way. -/
def initial (a : Accounts) (w : World Nat) : Site where
  accounts := a
  updates := []
  config := ⟨w, fun _ => pure ()⟩

end Site

/-- What happens at a site. -/
inductive Action
  | registerUser (userIn : UserCreate)
  | loginForAccessToken (email password : String)
  | setActive (userId : Int) (isActive : Bool)
  | call (token : String) (endpoint : Endpoint)
  /-- A call of `change_password` goes on, from its commit. -/
  | commitPassword (update : PasswordUpdate)
  | visit (activity : Activity)
  | awaits (thread : Nat)

/-- How it is answered, at once. -/
inductive Answer
  | registered (result : Except AuthError UserResponse)
  | loggedIn (result : Except AuthError String)
  | passwordChanged (result : Except AuthError UserResponse)
  /-- The old password is the right one: this is about to be committed. -/
  | changing (update : PasswordUpdate)
  /-- The dependencies have refused the call. -/
  | rejected (refusal : HttpException)
  /-- The endpoint runs, as this thread. -/
  | started (thread : Nat)
  | done

/-- One action, with the time in seconds and the states of the site around it. -/
structure SiteEvent where
  now : Int
  action : Action
  answer : Answer
  before : Site
  after : Site

namespace Site

variable (lib : Library) (d : Deployment) (service : IdempotencyService)
  (isoformat : Int → String)

/-- One action at a site. -/
inductive Step : SiteEvent → Prop
  | register {s : Site} {now : Int} {userIn : UserCreate} {salt : Nat} {ending : Ending}
      {result : Except AuthError UserResponse} {a : Accounts}
      (ran : AuthService.register lib salt ending s.accounts userIn = (result, a)) :
      Step ⟨now, .registerUser userIn, .registered result, s, s.withAccounts a⟩
  | login {s : Site} {now : Int} {email password : String} :
      Step ⟨now, .loginForAccessToken email password,
        .loggedIn (AuthService.authenticate lib now s.accounts email password), s, s⟩
  | setActive {s : Site} {now userId : Int} {isActive : Bool} :
      Step ⟨now, .setActive userId isActive, .done, s,
        s.withAccounts (s.accounts.modify userId ({ · with isActive }) fun _ => rfl)⟩
  | rejected {s : Site} {now : Int} {token : String} {endpoint : Endpoint} {refusal : HttpException}
      (refused : endpoint.authorize lib now s.accounts token = .error refusal) :
      Step ⟨now, .call token endpoint, .rejected refusal, s, s⟩
  | wrongPassword {s : Site} {now userId : Int} {token : String} {passwords : PasswordChange}
      {user : User} {salt : Nat} {error : AuthError}
      (allowed : (Endpoint.changeUserPassword passwords).authorize lib now s.accounts token =
        .ok (userId, user))
      (ran : AuthService.preparePassword lib salt s.accounts userId passwords = .error error) :
      Step ⟨now, .call token (.changeUserPassword passwords),
        .passwordChanged (.error error), s, s⟩
  | changing {s : Site} {now userId : Int} {token : String} {passwords : PasswordChange}
      {user : User} {salt : Nat} {update : PasswordUpdate}
      (allowed : (Endpoint.changeUserPassword passwords).authorize lib now s.accounts token =
        .ok (userId, user))
      (ran : AuthService.preparePassword lib salt s.accounts userId passwords = .ok update) :
      Step ⟨now, .call token (.changeUserPassword passwords), .changing update, s,
        { s with updates := update :: s.updates }⟩
  | commitPassword {s : Site} {now : Int} {update : PasswordUpdate} {ending : Ending}
      {result : Except AuthError UserResponse} {a : Accounts} (waits : update ∈ s.updates)
      (ran : AuthService.commitPassword lib ending s.accounts update = (result, a)) :
      Step ⟨now, .commitPassword update, .passwordChanged result, s,
        { s.withAccounts a with updates := s.updates.erase update }⟩
  | starts {s : Site} {now userId : Int} {token : String} {route : Route} {user : User} {t : Nat}
      {outcome : Except Exn Unit}
      (allowed : (Endpoint.route route).authorize lib now s.accounts token = .ok (userId, user))
      (free : s.config.Finished t outcome) :
      Step ⟨now, .call token (.route route), .started t, s,
        s.start t (route.program d service isoformat userId)⟩
  | visits {s : Site} {now : Int} {activity : Activity} {t : Nat} {outcome : Except Exn Unit}
      (isOpen : activity.isOpen) (free : s.config.Finished t outcome) :
      Step ⟨now, .visit activity, .started t, s, s.start t (activity.program d)⟩
  | awaits {s : Site} {now : Int} {e : CallEvent Nat}
      {c : Config Nat (World Nat) Cmd Cmd.Resp Exn Unit} (step : Config.Step exec s.config e c) :
      Step ⟨now, .awaits e.thread, .done, s, { s with config := c }⟩

/-- Any finite sequence of actions at a site. -/
inductive Run (s : Site) : List SiteEvent → Site → Prop
  | nil : Run s [] s
  | snoc {events : List SiteEvent} {e : SiteEvent} (run : Run s events e.before)
      (step : Step lib d service isoformat e) : Run s (events ++ [e]) e.after

variable {lib d service isoformat}

/-- Each event of a run is a step. -/
theorem Run.step {s s' : Site} {events : List SiteEvent} {e : SiteEvent}
    (run : Run lib d service isoformat s events s') (mem : e ∈ events) :
    Step lib d service isoformat e := by
  induction run with
  | nil => cases mem
  | snoc _ step ih =>
      rcases List.mem_append.mp mem with earlier | last
      · exact ih earlier
      · rw [List.mem_singleton.mp last]
        exact step

/-- A change of a password during which nothing else happens at the site. -/
theorem Run.changePassword {s s' : Site} {events : List SiteEvent} {now userId : Int}
    {token : String} {passwords : PasswordChange} {user : User} {salt : Nat} {ending : Ending}
    {result : Except AuthError UserResponse} {a : Accounts}
    (run : Run lib d service isoformat s events s')
    (allowed : (Endpoint.changeUserPassword passwords).authorize lib now s'.accounts token =
      .ok (userId, user))
    (ran : AuthService.changePassword lib salt ending s'.accounts userId passwords = (result, a)) :
    ∃ later s'', Run lib d service isoformat s (events ++ later) s'' ∧ s''.accounts = a ∧
      ∃ e ∈ later, e.answer = .passwordChanged result := by
  rcases AuthService.changePassword_cases ran with
    ⟨e, wrong, rfl, rfl⟩ | ⟨update, right, committed⟩
  · exact ⟨_, _, run.snoc (.wrongPassword allowed wrong), rfl, _,
      List.mem_singleton_self _, rfl⟩
  · have called : Step lib d service isoformat ⟨now, .call token (.changeUserPassword passwords),
        .changing update, s', { s' with updates := update :: s'.updates }⟩ :=
          .changing allowed right
    have commits : Step lib d service isoformat
        ⟨now, .commitPassword update, .passwordChanged result,
        { s' with updates := update :: s'.updates }, _⟩ :=
      .commitPassword (List.mem_cons_self ..) committed
    have longer := (run.snoc called).snoc commits
    rw [List.append_assoc] at longer
    exact ⟨_, _, longer, rfl, _, List.mem_cons_of_mem _ (List.mem_singleton_self _), rfl⟩

/-- A refused call leaves the site as it was. -/
theorem Step.unchanged {e : SiteEvent} {refusal : HttpException}
    (step : Step lib d service isoformat e) (refused : e.answer = .rejected refusal) :
    e.after = e.before := by
  cases step with
  | rejected _ => rfl
  | _ => cases refused

/-- A call is refused exactly when the dependency of its endpoint raises. -/
theorem Step.rejected_iff {e : SiteEvent} {token : String} {endpoint : Endpoint}
    {refusal : HttpException} (step : Step lib d service isoformat e)
    (calls : e.action = .call token endpoint) :
    e.answer = .rejected refusal ↔
      endpoint.authorize lib e.now e.before.accounts token = .error refusal := by
  cases step with
  | rejected refused =>
      cases calls
      rw [refused, Answer.rejected.injEq, Except.error.injEq]
  | wrongPassword allowed _ =>
      cases calls
      rw [allowed]
      exact iff_of_false nofun nofun
  | changing allowed _ =>
      cases calls
      rw [allowed]
      exact iff_of_false nofun nofun
  | starts allowed _ =>
      cases calls
      rw [allowed]
      exact iff_of_false nofun nofun
  | _ => cases calls

end Site

end TicketCore
