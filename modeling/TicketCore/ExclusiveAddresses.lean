import TicketCore.Credentials
import TicketCore.Registration
import Mathlib.Data.Fin.VecNotation

/-!
# One user for an address

Any number of `AuthService.register` calls and `create_superuser` runs at the same time. The index
compares addresses as strings, so it tells users apart up to the case of letters only where every
address that is given is lower-cased; `create_superuser` does not lower-case its own. And a
`register` whose address is taken between its query and its `INSERT` ends with the violation of the
index.

* `OneSpelling` says that no address in play is spelled in two ways; `exclusive_of_run` is the
  invariant.
* `Said` is what the statements of one call have answered; `follows_register` walks through the
  call.
* `exclusive_per_address` puts the two together.
-/

namespace TicketCore

open Interleave UniqueIndex

/-- `lower` changes nothing in what the e-mail validation makes of a lower-cased string: the normal
form of an address has its characters composed and its domain lower-cased. -/
def Library.KeepsLower (lib : Library) : Prop :=
  ∀ v email, lib.emailField (lib.lower v) = some email → lib.lower email = email

namespace Registration

variable {ι : Type} [DecidableEq ι] {lib : Library} {s s' : UsersTable ι} {t : ι}
  {cmd : UserCmd}
  {fails : Bool} {answer : Except RegistrationError cmd.Resp} {calls : ι → Enrolment lib}

/-! ## Addresses -/

/-- No two users have addresses that are equal ignoring case. -/
def Exclusive (lib : Library) (s : UsersTable ι) : Prop :=
  (s.rows.map fun row => lib.lower row.2.email).Nodup

instance (lib : Library) (s : UsersTable ι) : Decidable (Exclusive lib s) :=
  inferInstanceAs (Decidable (List.Nodup _))

/-- The address is stored, or the address of a `create_superuser` run: it stands as it was given. -/
def AsGiven (s : UsersTable ι) (calls : ι → Enrolment lib) (x : String) : Prop :=
  (∃ e ∈ s.entries, e.value.email = x) ∨ ∃ t salt password,
    calls t = .createSuperuser salt x password

/-- The address is stored, or the address of a call. -/
def InPlay (s : UsersTable ι) (calls : ι → Enrolment lib) (x : String) : Prop :=
  (∃ e ∈ s.entries, e.value.email = x) ∨ ∃ t, (calls t).address = x

/-- No address that stands as it was given differs from another one in play in the case of letters
only. -/
def OneSpelling (s : UsersTable ι) (calls : ι → Enrolment lib) : Prop :=
  ∀ x y, AsGiven s calls x → InPlay s calls y → lib.lower x = lib.lower y → x = y

omit [DecidableEq ι] in
/-- The addresses of the other calls are lower-cased. -/
theorem InPlay.asGiven_or_lower (keeps : lib.KeepsLower) {x : String} (play : InPlay s calls x) :
    AsGiven s calls x ∨ lib.lower x = x := by
  rcases play with stored | ⟨t, rfl⟩
  · exact .inl (.inl stored)
  · cases call : calls t with
    | register salt signUp =>
        obtain ⟨v, password, accepted⟩ := signUp.accepted
        exact .inr (keeps v _ (UserCreate.of_validate accepted).1)
    | createSuperuser salt email password => exact .inl (.inr ⟨t, salt, password, call⟩)

omit [DecidableEq ι] in
/-- Addresses in play that are equal ignoring case are equal. -/
theorem OneSpelling.eq (one : OneSpelling s calls) (keeps : lib.KeepsLower) {x y : String}
    (here : InPlay s calls x) (there : InPlay s calls y) (same : lib.lower x = lib.lower y) :
    x = y := by
  rcases here.asGiven_or_lower keeps with given | lower
  · exact one x y given there same
  rcases there.asGiven_or_lower keeps with given | lower'
  · exact (one y x given here same.symm).symm
  · calc x = lib.lower x := lower.symm
      _ = lib.lower y := same
      _ = y := lower'

/-- What a call inserts has its address. -/
def Inserts (email : String) : UserCmd → Prop
  | .insertUser user => user.email = email
  | _ => True

theorem only_program (call : Enrolment lib) : call.program.Only (Inserts call.address) := by
  have only_send : ∀ {α : Type} {cmd : UserCmd} {f : cmd.Resp → Session α},
      Inserts call.address cmd → (∀ a, (f a).Only (Inserts call.address)) →
      (do let a ← send cmd; f a).Only (Inserts call.address) := fun inserts rest =>
    Program.Only.bind (Program.Only.call inserts) rest
  cases call with
  | register salt signUp =>
      have rollback : ∀ {α : Type} (e : RegistrationError),
          (do send .rollback; throw e : Session α).Only
            (Inserts signUp.email) := fun _ => only_send trivial fun _ => trivial
      refine Program.Only.bind (Program.Only.ensuring (Program.Only.tryCatch ?_ rollback)
        (Program.Only.call trivial)) fun _ => trivial
      refine only_send trivial fun taken => ?_
      split
      · trivial
      · refine Program.Only.bind (Program.Only.tryCatch ?_ fun e => ?_) fun _ => trivial
        · exact only_send rfl fun _ => only_send trivial fun _ => Program.Only.call trivial
        · unfold rollbackOnSQLAlchemyError
          split
          · exact rollback e
          · trivial
  | createSuperuser salt email password =>
      refine Program.Only.bind (Program.Only.ensuring ?_ (Program.Only.call trivial))
        fun _ => trivial
      refine only_send trivial fun result => ?_
      cases result with
      | some row => trivial
      | none => exact only_send rfl fun _ => only_send trivial fun _ => trivial

/-- A statement keeps what holds of the users that it inserts. -/
theorem all_of_exec {P : User → Prop} (h : s.All P)
    (new : ∀ user, cmd = .insertUser user → P user)
    (ran : UserCmd.exec t cmd fails s = some (answer, s')) : s'.All P := by
  rcases UserCmd.exec_cases ran with ⟨_, _, rfl⟩ | ran
  · exact h
  cases cmd with
  | insertUser user =>
      rcases UserCmd.run_insertUser ran with ⟨fresh, _, rfl⟩ | ⟨_, _, rfl⟩
      · exact h.add (new user rfl)
      · exact h
  | commit =>
      cases ran
      exact h.commit
  | rollback | close =>
      cases ran
      exact h.rollback
  | existsEmail email | selectByEmail email =>
      cases ran
      exact h
  | refreshUser id =>
      rw [UserCmd.run_refreshUser ran]
      exact h

/-- In every state of a run the addresses are told apart. -/
theorem exclusive_of_run {events : List (UserCmd.Event ι)}
    {c : Config ι (UsersTable ι) UserCmd UserCmd.Resp RegistrationError Unit}
    (keeps : lib.KeepsLower) (one : OneSpelling s calls)
    (run : Config.Run UserCmd.exec ⟨s, fun t => (calls t).program⟩ events c) :
    Exclusive lib c.shared := by
  have played : c.shared.All fun user => InPlay s calls user.email := by
    have start : s.All fun user => InPlay s calls user.email := fun e mem => .inl ⟨e, mem, rfl⟩
    refine run.keeps (I := fun s' => s'.All fun user => InPlay s calls user.email)
      (fun t => only_program (calls t)) ?_ start
    intro t cmd choice answer s₁ s₂ inserts h ran
    refine all_of_exec h (fun user same => ?_) ran
    subst same
    exact .inr ⟨t, inserts.symm⟩
  exact Table.rows_nodup fun e mem e' mem' same => one.eq keeps (played e mem) (played e' mem') same

/-! ## What a call is told -/

/-- The statement answers that the address is taken. -/
def TurnedAway : UserCmd.Event ι → Prop
  | ⟨_, .existsEmail _, _, answer, _, _⟩ => answer = .ok true
  | ⟨_, .insertUser _, _, answer, _, _⟩ => answer = .error (.uniqueViolation "ix_users_email")
  | _ => False

instance (e : UserCmd.Event ι) : Decidable (TurnedAway e) :=
  match e with
  | ⟨_, .existsEmail _, _, answer, _, _⟩ => inferInstanceAs (Decidable (answer = .ok true))
  | ⟨_, .insertUser _, _, answer, _, _⟩ =>
      inferInstanceAs (Decidable (answer = .error (.uniqueViolation "ix_users_email")))
  | ⟨_, .selectByEmail _, _, _, _, _⟩ | ⟨_, .commit, _, _, _, _⟩
  | ⟨_, .refreshUser _, _, _, _, _⟩
  | ⟨_, .rollback, _, _, _, _⟩ | ⟨_, .close, _, _, _, _⟩ =>
      inferInstanceAs (Decidable False)

/-- The `INSERT` is executed when the call, if it asked again, would find the address taken. -/
def Late : UserCmd.Event ι → Prop
  | ⟨t, .insertUser user, _, _, before, _⟩ => ∃ row ∈ before.read t,
    row.2.email = user.email
  | _ => False

/-- How far a registration has come. -/
inductive Progress
  /-- No statement has answered that the address is taken. -/
  | admitted
  /-- The query has. -/
  | refused
  /-- The `INSERT` has. -/
  | late
deriving DecidableEq

/-- What the progress says of the past. -/
structure Said (t : ι) (events : List (UserCmd.Event ι)) (g : Progress) : Prop where
  turnedAway : (∃ e ∈ events, e.thread = t ∧ TurnedAway e) ↔ g ≠ .admitted
  late : (∃ e ∈ events, e.thread = t ∧ Late e) ↔ g = .late

/-- One registration among the other calls, none of whose own statements fails. -/
def registering (t : ι) :
    Discipline ι (UsersTable ι) UserCmd UserCmd.Resp RegistrationError Bool Progress where
  guard e := e.thread = t → e.choice = false
  inv events _ ghost := Said t events (ghost t)

variable {events : List (UserCmd.Event ι)} {e : UserCmd.Event ι} {g g' : Progress} {α : Type}

omit [DecidableEq ι] in
theorem exists_snoc {P : UserCmd.Event ι → Prop} :
    (∃ e' ∈ events ++ [e], P e') ↔ (∃ e' ∈ events, P e') ∨ P e := by
  constructor
  · rintro ⟨e', mem, holds⟩
    rcases List.mem_append.mp mem with mem | mem
    · exact .inl ⟨e', mem, holds⟩
    · rw [List.mem_singleton.mp mem] at holds
      exact .inr holds
  · rintro (⟨e', mem, holds⟩ | holds)
    · exact ⟨e', List.mem_append_left _ mem, holds⟩
    · exact ⟨e, List.mem_append_right _ (List.mem_singleton_self _), holds⟩

/-- What an event of the call makes of its progress. -/
structure Moves (g g' : Progress) (e : UserCmd.Event ι) : Prop where
  turnedAway : g ≠ .admitted ∨ TurnedAway e ↔ g' ≠ .admitted
  late : g = .late ∨ Late e ↔ g' = .late

theorem Moves.stays (passed : ¬TurnedAway e) (early : ¬Late e) : Moves g g e :=
  ⟨or_iff_left passed, or_iff_left early⟩

theorem Moves.refuses (turned : TurnedAway e) (early : ¬Late e) : Moves .admitted .refused e where
  turnedAway := ⟨fun _ => nofun, fun _ => .inr turned⟩
  late := ⟨fun holds => holds.elim nofun fun late => absurd late early, nofun⟩

theorem Moves.misses (turned : TurnedAway e) (late : Late e) : Moves .admitted .late e where
  turnedAway := ⟨fun _ => nofun, fun _ => .inr turned⟩
  late := ⟨fun _ => rfl, fun _ => .inr late⟩

theorem Said.snoc (h : Said t events g) (own : e.thread = t) (moves : Moves g g' e) :
    Said t (events ++ [e]) g' where
  turnedAway := by rw [exists_snoc, h.turnedAway, ← moves.turnedAway, and_iff_right own]
  late := by rw [exists_snoc, h.late, ← moves.late, and_iff_right own]

theorem Said.snoc_other (h : Said t events g) (other : e.thread ≠ t) :
    Said t (events ++ [e]) g where
  turnedAway := by
    rw [exists_snoc, h.turnedAway]
    exact or_iff_left fun own => other own.1
  late := by
    rw [exists_snoc, h.late]
    exact or_iff_left fun own => other own.1

theorem Said.start : Said t [] .admitted where
  turnedAway :=
    ⟨fun ⟨_, mem, _⟩ => (List.not_mem_nil mem).elim, fun other => absurd rfl other⟩
  late := ⟨fun ⟨_, mem, _⟩ => (List.not_mem_nil mem).elim, nofun⟩

/-- What the other calls do tells this one nothing. -/
theorem follows_other {u : ι} {p : Session α} (other : u ≠ t) :
    (registering t).Follows UserCmd.exec u (fun _ _ => True) p g := by
  induction p with
  | done outcome => trivial
  | await cmd next ih =>
      intro events s ghost choice answer s' told _ _ _
      refine ⟨g, ?_, ih answer⟩
      show Said t _ (Function.update ghost u g t)
      rw [Function.update_of_ne other.symm]
      exact told.snoc_other other

/-- A statement of the call itself. -/
theorem follows_send {post : Except RegistrationError cmd.Resp → Progress → Prop}
    (h : ∀ s answer s', cmd.run t s = some (answer, s') →
      ∃ g', Moves g g' ⟨t, cmd, false, answer, s, s'⟩ ∧ post answer g') :
    (registering t).Follows UserCmd.exec t post (send cmd) g := by
  refine Discipline.Follows.call fun events s ghost choice answer s' told own ran ok => ?_
  obtain rfl : choice = false := ok rfl
  rcases UserCmd.exec_cases ran with ⟨failing, _⟩ | ran
  · cases failing
  obtain ⟨g', moves, holds⟩ := h s answer s' ran
  refine ⟨g', ?_, holds⟩
  show Said t _ (Function.update ghost t g' t)
  rw [Function.update_self]
  exact Said.snoc (own ▸ told) rfl moves

/-- A statement that ends the transaction. -/
theorem follows_endTransaction {statement : UserCmd}
    {post : Except RegistrationError statement.Resp → Progress → Prop}
    (ends : statement = .commit ∨ statement = .rollback ∨ statement = .close)
    (ended : ∀ a, post (.ok a) g) :
    (registering t).Follows UserCmd.exec t post (send statement) g := by
  refine follows_send fun s answer s' ran => ⟨g, ?_⟩
  rcases ends with rfl | rfl | rfl
  all_goals
    cases ran
    exact ⟨.stays not_false not_false, ended ()⟩

/-- How a registration ends. -/
def Ends {α : Type} : Except RegistrationError α → Progress → Prop
  | .ok _, g => g = .admitted
  | .error e, g => (g = .refused → e = userAlreadyExists) ∧
      (g = .late → e ≠ userAlreadyExists)

omit [DecidableEq ι] in
/-- Before the table has refused the address, every end is right. -/
theorem ends_mapError {result : Except AuthError α} : Ends (result.mapError .auth) .admitted := by
  cases result with
  | ok a => exact rfl
  | error e => exact ⟨nofun, nofun⟩

/-- The rollback before an exception is raised again. -/
theorem follows_rollback {e : RegistrationError}
    (h : Ends (.error e : Except RegistrationError α) g) : (registering t).Follows UserCmd.exec t
      (fun answer g' => Ends (answer.bind fun _ => (.error e : Except RegistrationError α)) g')
      (send .rollback) g :=
  follows_endTransaction (.inr (.inl rfl)) fun _ => h

theorem follows_handler {e : RegistrationError}
    (h : Ends (.error e : Except RegistrationError α) g) :
    (registering t).Follows UserCmd.exec t Ends
      (rollbackOnSQLAlchemyError e : Session α) g := by
  unfold rollbackOnSQLAlchemyError
  split
  · exact Discipline.Follows.thenThrow (follows_rollback h)
  · exact h

/-- The session of the request. -/
theorem follows_session {request : Session α}
    (h : (registering t).Follows UserCmd.exec t Ends request g) :
    (registering t).Follows UserCmd.exec t Ends (getDb request) g :=
  Discipline.Follows.undoing Ends Ends h (fun _ _ ends => ends)
    (fun _ _ ends => follows_rollback ends)
    fun _ _ ends => follows_endTransaction (.inr (.inr rfl)) fun _ => ends

/-- The query. -/
theorem follows_existsEmail {email : String} :
    (registering t).Follows UserCmd.exec t
      (fun answer g' => ∃ taken, answer = .ok taken ∧
        g' = if taken then .refused else .admitted)
      (send (.existsEmail email)) .admitted := by
  refine follows_send fun s answer s' ran => ?_
  cases ran
  cases taken : (s.read t).any fun row => row.2.email = email with
  | true => exact ⟨.refused, .refuses rfl not_false, _, rfl, rfl⟩
  | false => exact ⟨.admitted, .stays nofun not_false, _, rfl, rfl⟩

/-- The `INSERT`, which fails if the address is stored by then. -/
theorem follows_insertUser {user : User} :
    (registering t).Follows UserCmd.exec t
      (fun answer g' => (g' = .admitted ∧ ∃ id, answer = .ok id) ∨
        (g' = .late ∧ answer = .error (.uniqueViolation "ix_users_email")))
      (send (.insertUser user)) .admitted := by
  refine follows_send fun s answer s' ran => ?_
  rcases UserCmd.run_insertUser ran with ⟨fresh, rfl, _⟩ | ⟨stored, rfl, _⟩
  · have early : ¬∃ row ∈ s.read t, row.2.email = user.email := by
      rintro ⟨row, mem, same⟩
      obtain ⟨e, stored, _, rfl⟩ := Table.mem_read.mp mem
      exact fresh e stored same
    exact ⟨.admitted, .stays nofun early, .inl ⟨rfl, _, rfl⟩⟩
  · exact ⟨.late, .misses rfl stored, .inr ⟨rfl, rfl⟩⟩

/-- The refresh. -/
theorem follows_refreshUser {id : Int} :
    (registering t).Follows UserCmd.exec t (fun _ g' => g' = g) (send (.refreshUser id)) g :=
  follows_send fun _ _ _ _ => ⟨g, .stays not_false not_false, rfl⟩

/-- The `try` block. -/
theorem follows_store {newUser : User} :
    (registering t).Follows UserCmd.exec t Ends (store newUser) .admitted := by
  refine Discipline.Follows.bind (fun _ g' => g' = .admitted)
    (follows_insertUser.mono fun answer g' holds => ?_) fun id g' same => ?_
  · rcases holds with ⟨same, id, rfl⟩ | ⟨rfl, rfl⟩
    · exact same
    · exact ⟨nofun, fun _ => nofun⟩
  subst same
  refine Discipline.Follows.bind (fun _ g' => g' = .admitted)
    (follows_endTransaction (.inl rfl) fun _ => rfl) fun _ g' same => ?_
  subst same
  refine follows_refreshUser.mono fun answer g' same => ?_
  subst same
  cases answer with
  | ok row => exact rfl
  | error e => exact ⟨nofun, nofun⟩

/-- The call of the service. -/
theorem follows_register {salt : Nat} {userIn : UserCreate} :
    (registering t).Follows UserCmd.exec t Ends (register lib salt userIn) .admitted := by
  refine Discipline.Follows.bind (fun taken g' => g' = if taken then .refused else .admitted)
    (follows_existsEmail.mono fun answer g' holds => ?_) fun taken g' same => ?_
  · obtain ⟨taken, rfl, same⟩ := holds
    exact same
  subst same
  cases taken with
  | true => exact ⟨fun _ => rfl, nofun⟩
  | false =>
      refine Discipline.Follows.bind (fun _ g' => g' = .admitted) ?_ fun row g' same => ?_
      · refine Discipline.Follows.tryCatch
          (fun e g' => Ends (.error e : Except RegistrationError (Int × User)) g')
          (follows_store.mono fun outcome g' ends => ?_) fun e g' ends => ?_
        · cases outcome with
          | ok row => exact ends
          | error e => exact ends
        · refine (follows_handler ends).mono fun outcome g'' ends' => ?_
          cases outcome with
          | ok row => exact ends'
          | error e => exact ends'
      · subst same
        exact ends_mapError

/-- The request. -/
theorem follows_enrolment {salt : Nat} {signUp : SignUp lib} :
    (registering t).Follows UserCmd.exec t Ends (Enrolment.register salt signUp).program
      .admitted := by
  refine Discipline.Follows.bind (fun _ g' => g' = .admitted)
    ((follows_session follows_register).mono fun outcome g' ends => ?_) fun _ g' same => ?_
  · cases outcome with
    | ok response => exact ends
    | error e => exact ends
  · exact same

/-! ## The two properties -/

/-- **Registration is exclusive per address.** In every interleaving of registrations and
`create_superuser` runs:

* if no stored address and no address of a `create_superuser` run differs from another one in case
  only, then no two users have addresses that are equal ignoring case;
* a `register` none of whose statements fails, and which is told that its address is taken, raises
  `UserAlreadyExistsError` if and only if its `INSERT` is not executed when the address is taken by
  then. -/
theorem exclusive_per_address (lib : Library) (calls : ι → Enrolment lib) (s : UsersTable ι)
    (events : List (UserCmd.Event ι))
    (c : Config ι (UsersTable ι) UserCmd UserCmd.Resp RegistrationError Unit)
    (keeps : lib.KeepsLower)
    (run : Config.Run UserCmd.exec ⟨s, fun t => (calls t).program⟩ events c) :
    (OneSpelling s calls → Exclusive lib c.shared) ∧
    ∀ (t : ι) (salt : Nat) (signUp : SignUp lib) (outcome : Except RegistrationError Unit),
      calls t = .register salt signUp → c.result t = some outcome →
      (∀ e ∈ events, e.thread = t → e.choice = false) →
      (((∃ e ∈ events, e.thread = t ∧ TurnedAway e) →
        outcome = .error userAlreadyExists) ↔
        ¬∃ e ∈ events, e.thread = t ∧ Late e) := by
  refine ⟨fun one => exclusive_of_run keeps one run,
    fun t salt signUp outcome call ended clean => ?_⟩
  have start : (registering t).Holds UserCmd.exec (fun u outcome g => u = t → Ends outcome g) []
      ⟨s, fun u => (calls u).program⟩ := by
    refine ⟨fun _ => .admitted, .start, fun u => ?_⟩
    by_cases own : u = t
    · subst own
      dsimp only
      rw [call]
      exact follows_enrolment.mono fun _ _ ends _ => ends
    · exact (follows_other own).mono fun _ _ _ same => absurd same own
  obtain ⟨ghost, told, follows⟩ := start.run run clean
  have ends : Ends outcome (ghost t) :=
    Discipline.Holds.post_of_finished follows (Config.finished_of_result ended) rfl
  rw [List.nil_append] at told
  rw [told.turnedAway, told.late]
  cases progress : ghost t with
  | admitted => exact ⟨fun _ => nofun, fun _ other => absurd rfl other⟩
  | refused =>
      rw [progress] at ends
      cases outcome with
      | ok _ => cases ends
      | error e => exact ⟨fun _ => nofun, fun _ _ => congrArg Except.error (ends.1 rfl)⟩
  | late =>
      rw [progress] at ends
      cases outcome with
      | ok _ => cases ends
      | error e =>
          exact ⟨fun refused => absurd (Except.error.inj (refused nofun)) (ends.2 rfl),
            fun early => absurd rfl early⟩

/-! ## Two calls -/

/-- Two calls that are about to begin, on an empty table. -/
def bothEnrol (calls : Fin 2 → Enrolment plainLibrary) :
    Config (Fin 2) (UsersTable (Fin 2)) UserCmd UserCmd.Resp RegistrationError Unit :=
  ⟨.empty, fun t => (calls t).program⟩

/-- The registration of `ann@example.com`. -/
def annSignUp : SignUp plainLibrary :=
  ⟨annInNormalForm, "ann@example.com", "very secret", by decide⟩

/-- Two registrations of one address. -/
def bothRegister : Fin 2 → Enrolment plainLibrary := fun _ => .register 0 annSignUp

/-- A superuser with a capital in the address, and a registration. -/
def superuserAndUser : Fin 2 → Enrolment plainLibrary :=
  ![.createSuperuser 0 "Ann@example.com" "secret", .register 0 annSignUp]

theorem emailStr_plainLibrary (v : String) :
    plainLibrary.emailStr v = if v = "ann@example.com" then some v else none := rfl

theorem keepsLower_plainLibrary : plainLibrary.KeepsLower := by
  intro v email valid
  unfold Library.emailField at valid
  obtain ⟨accepted, _⟩ := Option.filter_eq_some_iff.mp valid
  rw [emailStr_plainLibrary] at accepted
  split at accepted
  · rename_i same
    rw [← Option.some.inj accepted, same]
    decide
  · cases accepted

/-- One registration after the other: the second one is refused by its query. -/
theorem exclusive_per_address_one_by_one :
    ∃ (events : List (UserCmd.Event (Fin 2)))
      (c : Config (Fin 2) (UsersTable (Fin 2)) UserCmd UserCmd.Resp RegistrationError Unit),
      Config.Run UserCmd.exec (bothEnrol bothRegister) events c ∧
      Exclusive plainLibrary c.shared ∧
      c.result 1 = some (.error userAlreadyExists) ∧
      ¬∃ e ∈ events, e.thread = 1 ∧ Late e := by
  have found : ((bothEnrol bothRegister).replay UserCmd.exec
      (([0, 0, 0, 0, 0, 1, 1, 1] : List (Fin 2)).map fun t => (t, false))).any (fun r =>
        (r.1.all fun e => e.choice = false) &&
          decide (r.2.result 1 = some (.error userAlreadyExists))) = true := by
    decide
  obtain ⟨events, c, run, holds⟩ := Config.exists_run_of_replay
    (P := fun events c => (events.all fun e : UserCmd.Event (Fin 2) => e.choice = false) &&
      decide (c.result 1 = some (.error userAlreadyExists))) found
  rw [Bool.and_eq_true, List.all_eq_true] at holds
  obtain ⟨clean, refused⟩ := holds
  have refused := of_decide_eq_true refused
  obtain ⟨exclusive, contract⟩ :=
    exclusive_per_address plainLibrary bothRegister .empty events c
    keepsLower_plainLibrary run
  refine ⟨events, c, run, exclusive ?_, refused, ?_⟩
  · rintro x y (⟨e, mem, _⟩ | ⟨t, salt, password, call⟩)
    · exact (List.not_mem_nil mem).elim
    · cases call
  · exact (contract 1 0 annSignUp _ rfl refused fun e mem _ => of_decide_eq_true (clean e mem)).mp
      fun _ => rfl

/-- A superuser and a user whose addresses differ in the case of one letter; and two registrations
of one address, of which the second one queries before the first one commits and then violates the
index. -/
theorem not_exclusive_of_superuser :
    (∃ (events : List (UserCmd.Event (Fin 2)))
      (c : Config (Fin 2) (UsersTable (Fin 2)) UserCmd UserCmd.Resp RegistrationError Unit),
      Config.Run UserCmd.exec (bothEnrol superuserAndUser) events c ∧
      (∀ e ∈ events, e.choice = false) ∧
      ¬Exclusive plainLibrary c.shared) ∧
    ∃ (events : List (UserCmd.Event (Fin 2)))
      (c : Config (Fin 2) (UsersTable (Fin 2)) UserCmd UserCmd.Resp RegistrationError Unit),
      Config.Run UserCmd.exec (bothEnrol bothRegister) events c ∧
      (∀ e ∈ events, e.choice = false) ∧
      (∃ e ∈ events, e.thread = 1 ∧ TurnedAway e) ∧
      c.result 1 = some (.error (.uniqueViolation "ix_users_email")) := by
  constructor
  · have found : ((bothEnrol superuserAndUser).replay UserCmd.exec
        (([0, 0, 0, 0, 1, 1, 1, 1, 1] : List (Fin 2)).map fun t => (t, false))).any (fun r =>
          (r.1.all fun e => e.choice = false) &&
            decide ¬Exclusive plainLibrary r.2.shared) = true := by
      decide
    obtain ⟨events, c, run, holds⟩ := Config.exists_run_of_replay
      (P := fun events c => (events.all fun e : UserCmd.Event (Fin 2) => e.choice = false) &&
        decide ¬Exclusive plainLibrary c.shared) found
    rw [Bool.and_eq_true, List.all_eq_true] at holds
    exact ⟨events, c, run, fun e mem => of_decide_eq_true (holds.1 e mem),
      of_decide_eq_true holds.2⟩
  · have found : ((bothEnrol bothRegister).replay UserCmd.exec
        (([0, 1, 0, 0, 0, 0, 1, 1, 1, 1] : List (Fin 2)).map fun t => (t, false))).any (fun r =>
          (r.1.all fun e => e.choice = false) &&
            decide (∃ e ∈ r.1, e.thread = 1 ∧ TurnedAway e) &&
              decide (r.2.result 1 = some (.error (.uniqueViolation "ix_users_email")))) =
                  true := by
      decide
    obtain ⟨events, c, run, holds⟩ := Config.exists_run_of_replay
      (P := fun events c => (events.all fun e : UserCmd.Event (Fin 2) => e.choice = false) &&
        decide (∃ e ∈ events, e.thread = 1 ∧ TurnedAway e) &&
          decide (c.result 1 = some (.error (.uniqueViolation "ix_users_email")))) found
    rw [Bool.and_eq_true, Bool.and_eq_true, List.all_eq_true] at holds
    obtain ⟨⟨clean, turned⟩, raised⟩ := holds
    exact ⟨events, c, run, fun e mem => of_decide_eq_true (clean e mem), of_decide_eq_true turned,
      of_decide_eq_true raised⟩

end Registration

end TicketCore
