import TicketCore.Access
import TicketCore.Credentials

/-!
# Deactivated users

A login asks whether the user is active. The dependencies of the protected endpoints do not, and a
token outlives the login.

* `deactivated_refused_iff`: in a run of the site, the calls of deactivated users are all refused,
  without an effect, if and only if each of them is refused for another reason: the endpoint is for
  superusers, and the user is none.
-/

namespace TicketCore

open Interleave

/-- The token has been issued to the user by a login among these events. -/
def Issued (lib : Library) (events : List SiteEvent) (token : String) (userId : Int) : Prop :=
  ∃ e ∈ events, ∃ email password, e.action = .loginForAccessToken email password ∧
    e.answer = .loggedIn (.ok token) ∧ token = lib.createAccessToken e.now userId

/-- The event is a call that would act, with a token that has been issued before and has not
expired, and its user is deactivated. -/
structure ByDeactivated (lib : Library) (earlier : List SiteEvent) (e : SiteEvent)
    (endpoint : Endpoint) (user : User) : Prop where
  acts : endpoint.acts = true
  token : ∃ token userId, e.action = .call token endpoint ∧ Issued lib earlier token userId ∧
    (∀ claims, lib.decode token = some claims → e.now < claims.exp) ∧
    e.before.accounts.get userId = some user
  inactive : user.isActive = false

/-- The call was refused by the dependencies, and has not changed anything. -/
def SiteEvent.Refused (e : SiteEvent) : Prop :=
  (∃ refusal, e.answer = .rejected refusal) ∧ e.after = e.before

section Step

variable {lib : Library} {d : Deployment} {service : IdempotencyService}
  {isoformat : Int → String}
  {earlier : List SiteEvent} {e : SiteEvent} {endpoint : Endpoint} {user : User}

/-- Being inactive is no reason to refuse a call. -/
theorem ByDeactivated.refused_iff (call : ByDeactivated lib earlier e endpoint user)
    (step : Site.Step lib d service isoformat e) :
    e.Refused ↔ endpoint.isAdmin = true ∧ user.isSuperuser = false := by
  obtain ⟨token, userId, calls, ⟨login, _, _, _, _, _, rfl⟩, unexpired, stored⟩ :=
    call.token
  have authorized := endpoint.authorize_createAccessToken (unexpired _ (lib.decode_encode _)) stored
  constructor
  · rintro ⟨⟨refusal, refused⟩, _⟩
    have raised := (step.rejected_iff calls).mp refused
    rw [authorized] at raised
    split at raised
    · assumption
    · cases raised
  · intro other
    rw [if_pos other] at authorized
    have refused := (step.rejected_iff calls).mpr authorized
    exact ⟨⟨_, refused⟩, step.unchanged refused⟩

end Step

/-! ## Refused calls -/

/-- **When a deactivated user cannot act.** In every run of registrations, logins, changes of
`is_active` and calls: the calls with an unexpired token of a user who is deactivated are all
refused before anything changes if and only if they all are to endpoints for superusers by users who
are none. -/
theorem deactivated_refused_iff {lib : Library} {d : Deployment} {service : IdempotencyService}
    {isoformat : Int → String} {s s' : Site} {events : List SiteEvent}
    (run : Site.Run lib d service isoformat s events s') :
    (∀ earlier e later endpoint user, events = earlier ++ e :: later →
      ByDeactivated lib earlier e endpoint user → e.Refused) ↔
    ∀ earlier e later endpoint user, events = earlier ++ e :: later →
      ByDeactivated lib earlier e endpoint user →
      endpoint.isAdmin = true ∧ user.isSuperuser = false := by
  have each : ∀ earlier e later endpoint user, events = earlier ++ e :: later →
      ByDeactivated lib earlier e endpoint user →
      (e.Refused ↔ endpoint.isAdmin = true ∧ user.isSuperuser = false) := by
    intro earlier e later endpoint user here call
    refine call.refused_iff (run.step ?_)
    rw [here]
    exact List.mem_append_right _ (List.mem_cons_self ..)
  constructor
  · intro refused earlier e later endpoint user here call
    exact (each earlier e later endpoint user here call).mp
      (refused earlier e later endpoint user here call)
  · intro other earlier e later endpoint user here call
    exact (each earlier e later endpoint user here call).mpr
      (other earlier e later endpoint user here call)

/-! ## A user who is deactivated -/

section Example

/-- A deployment whose digests are the texts themselves. -/
def plainService : IdempotencyService := ⟨0, 3600, id⟩

/-- The users table after the registration of `annInNormalForm`. -/
def annRegistered : Accounts :=
  (AuthService.register plainLibrary 0 .commits .empty annInNormalForm).2

/-- The row of the user is updated. -/
def annDeactivated : Accounts :=
  annRegistered.modify 1 ({ · with isActive := false }) fun _ => rfl

/-- A change of the password, from that of the registration. -/
def annChange : PasswordChange :=
  ⟨"very secret", "still secret", annInNormalForm.password_max, by decide, by decide⟩

/-- The site at which the user has registered. -/
def annSite : Site := .initial annRegistered .empty

/-- The site at which the user is deactivated. -/
def annSiteAfter : Site := annSite.withAccounts annDeactivated

/-- A login, and the deactivation after it. -/
def loginThenDeactivation : List SiteEvent :=
  [⟨0, .loginForAccessToken "ann@example.com" "very secret", .loggedIn (.ok "1800:1"),
    annSite, annSite⟩,
    ⟨10, .setActive 1 false, .done, annSite, annSiteAfter⟩]

theorem run_loginThenDeactivation :
    Site.Run plainLibrary sharedRedis plainService toString annSite loginThenDeactivation
      annSiteAfter := by
  have login : Site.Step plainLibrary sharedRedis plainService toString
      ⟨0, .loginForAccessToken "ann@example.com" "very secret",
        .loggedIn (AuthService.authenticate plainLibrary 0 annSite.accounts "ann@example.com"
          "very secret"),
        annSite, annSite⟩ := .login
  have token : AuthService.authenticate plainLibrary 0 annSite.accounts "ann@example.com"
      "very secret" = .ok "1800:1" := by decide
  rw [token] at login
  exact .snoc (.snoc .nil login) .setActive

/-- The row of the user after that. -/
def annInactive : User := ⟨"ann@example.com", "very secret", false, false⟩

/-- A call of the user after that. -/
theorem byDeactivated_of_ann {answer : Answer} {after : Site} {endpoint : Endpoint}
    (acts : endpoint.acts = true) :
    ByDeactivated plainLibrary loginThenDeactivation
      ⟨20, .call "1800:1" endpoint, answer, annSiteAfter, after⟩ endpoint annInactive where
  acts := acts
  token := by
    have stored : annSiteAfter.accounts.get 1 = some annInactive := by decide
    have unexpired : ∀ claims, readToken "1800:1" = some claims → 20 < claims.exp := by
      intro claims shown
      obtain rfl : (⟨"1", 1800⟩ : Claims) = claims :=
        Option.some.inj (Eq.trans (by decide) shown)
      decide
    exact ⟨"1800:1", 1, rfl, ⟨_, List.mem_cons_self .., _, _, rfl, rfl, by decide⟩,
      unexpired, stored⟩
  inactive := rfl

/-- The call of an endpoint for superusers is refused. -/
def deletionRefused : SiteEvent :=
  ⟨20, .call "1800:1" (.route (.deleteEvent 1)),
    .rejected ⟨403, "User doesn't have permission"⟩,
    annSiteAfter, annSiteAfter⟩

/-- The user asks for the deletion of an event, which is for superusers. -/
theorem deletion_refused_of_ann :
    Site.Run plainLibrary sharedRedis plainService toString annSite
        (loginThenDeactivation ++ [deletionRefused]) annSiteAfter ∧
      ByDeactivated plainLibrary loginThenDeactivation deletionRefused (.route (.deleteEvent 1))
        annInactive ∧
      deletionRefused.Refused := by
  have step : Site.Step plainLibrary sharedRedis plainService toString deletionRefused :=
    .rejected (by decide)
  have run := run_loginThenDeactivation.snoc step
  have call : ByDeactivated plainLibrary loginThenDeactivation deletionRefused
      (.route (.deleteEvent 1)) annInactive := byDeactivated_of_ann rfl
  refine ⟨run, call, (deactivated_refused_iff run).mpr ?_ _ _ [] _ _ rfl call⟩
  rintro earlier e later endpoint user here ⟨_, ⟨token, userId, calls, _, _, stored⟩, _⟩
  have mem : e ∈ loginThenDeactivation ++ [deletionRefused] := by
    rw [here]
    exact List.mem_append_right _ (List.mem_cons_self ..)
  rcases List.mem_append.mp mem with before | last
  · rcases List.mem_cons.mp before with rfl | second
    · cases calls
    · rw [List.mem_singleton.mp second] at calls
      cases calls
  · obtain rfl := List.mem_singleton.mp last
    cases calls
    have row : (userId, user) ∈ [((1 : Int), annInactive)] := Accounts.get_eq_some.mp stored
    rw [(Prod.mk.inj (List.mem_singleton.mp row)).2]
    exact ⟨rfl, rfl⟩

/-- The user changes the password after the deactivation: the call is let in, and the new password
is committed. -/
theorem password_changed_by_ann :
    ∃ e e' s' update response, Site.Run plainLibrary sharedRedis plainService toString annSite
        (loginThenDeactivation ++ [e] ++ [e']) s' ∧
      ByDeactivated plainLibrary loginThenDeactivation e
        (.changeUserPassword annChange) annInactive ∧
      ¬ e.Refused ∧ e.answer = .changing update ∧ e'.action = .commitPassword update ∧
      e'.answer = .passwordChanged (.ok response) ∧
      e'.after.accounts.rows ≠ e.before.accounts.rows := by
  have allowed : (Endpoint.changeUserPassword annChange).authorize plainLibrary 20
      annSiteAfter.accounts "1800:1" = .ok (1, annInactive) := by decide
  have prepared : AuthService.preparePassword plainLibrary 0 annSiteAfter.accounts 1 annChange =
      .ok ⟨1, "still secret"⟩ := by decide
  have committed : AuthService.commitPassword plainLibrary .commits annSiteAfter.accounts
      ⟨1, "still secret"⟩ =
        (.ok ⟨1, "ann@example.com", false, false⟩, annDeactivated.modify 1
        ({ · with hashedPassword := "still secret" }) fun _ => rfl) := rfl
  have called := run_loginThenDeactivation.snoc (.changing allowed prepared)
  have changed : Site.Step plainLibrary sharedRedis plainService toString
      ⟨21, .commitPassword ⟨1, "still secret"⟩, .passwordChanged _,
        { annSiteAfter with updates := [⟨1, "still secret"⟩] }, _⟩ :=
    .commitPassword (List.mem_cons_self ..) committed
  exact ⟨_, _, _, _, _, called.snoc changed, byDeactivated_of_ann rfl,
    fun ⟨⟨_, refused⟩, _⟩ => (nomatch refused), rfl, rfl, rfl, by decide⟩

end Example

end TicketCore
