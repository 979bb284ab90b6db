import TicketCore.Accounts
import TicketCore.UniqueIndex
import TicketCore.Interleave.Alone
import TicketCore.Interleave.Run

/-!
# Registration, statement by statement

`AuthService.register` of `src/services/auth.py` and `create_superuser` of `create_superuser.py`, as
programs of statements on the `users` table, so that calls can run at the same time. Each statement
sees what is committed when it is executed, and what its own transaction has inserted. The index
`ix_users_email` is consulted by the `INSERT`, which the commit sends.

A statement can fail for a reason of its own (the connection, a value that the column does not
hold): the environment chooses so. `register_alone` says that a registration which runs alone,
without such failures, is the function on the table that `Accounts` has for it.
-/

namespace TicketCore

open Interleave UniqueIndex

/-- The `users` table with `ix_users_email`. -/
abbrev UsersTable (ι : Type) : Type := Table ι User.email

/-- What a call raises: an exception of the service or of the driver, or the violation of the index,
which is an `IntegrityError`. -/
inductive RegistrationError
  | auth (e : AuthError)
  | uniqueViolation (index : String)
deriving DecidableEq, Repr

/-- `isinstance(e, SQLAlchemyError)`. -/
def RegistrationError.isSQLAlchemyError : RegistrationError → Bool
  | .auth .sqlalchemyError | .uniqueViolation _ => true
  | _ => false

/-! ## Statements -/

inductive UserCmd
  /-- `select(exists().where(User.email == email))`. -/
  | existsEmail (email : String)
  /-- `select(User).where(User.email == email)`. -/
  | selectByEmail (email : String)
  /-- The flush of a new user. -/
  | insertUser (user : User)
  | commit
  | refreshUser (id : Int)
  | rollback
  | close

namespace UserCmd

/-- What a statement answers. -/
@[reducible] def Resp : UserCmd → Type
  | .existsEmail _ => Bool
  | .selectByEmail _ => Option (Int × User)
  | .insertUser _ => Int
  | .commit => Unit
  | .refreshUser _ => Int × User
  | .rollback => Unit
  | .close => Unit

/-- Whether a statement can fail. -/
def mayFail : UserCmd → Bool
  | .close => false
  | _ => true

variable {ι : Type} [DecidableEq ι]

/-- Execute a statement that does not fail. -/
def run (t : ι) (s : UsersTable ι) :
    (cmd : UserCmd) → Option (Except RegistrationError cmd.Resp × UsersTable ι)
  | .existsEmail email => some (.ok ((s.read t).any fun row => row.2.email = email), s)
  | .selectByEmail email => some (.ok ((s.read t).find? fun row => row.2.email = email), s)
  | .insertUser user => (s.insert t user).map fun (id, s') =>
      (id.elim (.error (.uniqueViolation "ix_users_email")) .ok, s')
  | .commit => some (.ok (), s.commit t)
  | .refreshUser id =>
      match (s.read t).find? fun row => row.1 = id with
      | none => some (.error (.auth .sqlalchemyError), s)
      | some row => some (.ok row, s)
  | .rollback => some (.ok (), s.rollback t)
  | .close => some (.ok (), s.rollback t)

/-- The meaning of statements: the environment chooses which of them fail. -/
def exec : Exec ι (UsersTable ι) UserCmd UserCmd.Resp RegistrationError Bool :=
  fun t cmd fails s =>
  if fails && cmd.mayFail then some (.error (.auth .sqlalchemyError), s) else cmd.run t s

/-- One executed statement. -/
abbrev Event (ι : Type) : Type :=
  Interleave.Event ι (UsersTable ι) UserCmd UserCmd.Resp RegistrationError Bool

variable {t : ι} {s s' : UsersTable ι} {cmd : UserCmd} {fails : Bool}
  {answer : Except RegistrationError cmd.Resp}

/-- A statement either fails without an effect or is executed. -/
theorem exec_cases (ran : exec t cmd fails s = some (answer, s')) :
    (fails = true ∧ answer = .error (.auth .sqlalchemyError) ∧ s' = s) ∨
      cmd.run t s = some (answer, s') := by
  unfold exec at ran
  split at ran
  · rename_i failing
    cases ran
    exact .inl ⟨(Bool.and_eq_true_iff.mp failing).1, rfl, rfl⟩
  · exact .inr ran

/-- The refresh only reads. -/
theorem run_refreshUser {id : Int} {answer : Except RegistrationError (Int × User)}
    (ran : (refreshUser id).run t s = some (answer, s')) : s' = s := by
  dsimp only [run] at ran
  split at ran
  · cases ran
    rfl
  · cases ran
    rfl

/-- The refresh of a row that the transaction reads. -/
theorem run_refreshUser_of_find {id : Int} {row : Int × User}
    (found : (s.read t).find? (fun row => row.1 = id) = some row) :
    (refreshUser id).run t s = some (.ok row, s) := by
  dsimp only [run]
  rw [found]

/-- The insertion adds the user, or the index has the address. -/
theorem run_insertUser {user : User} {answer : Except RegistrationError Int}
    (ran : (insertUser user).run t s = some (answer, s')) :
    (∃ fresh, answer = .ok s.next ∧ s' = s.add t user fresh) ∨
      ((∃ row ∈ s.read t, row.2.email = user.email) ∧
        answer = .error (.uniqueViolation "ix_users_email") ∧ s' = s.draw) := by
  obtain ⟨⟨id, added⟩, inserted, same⟩ := Option.map_eq_some_iff.mp ran
  cases same
  rcases Table.insert_cases inserted with ⟨fresh, rfl, rfl⟩ | ⟨stored, rfl, rfl⟩
  · exact .inl ⟨fresh, rfl, rfl⟩
  · exact .inr ⟨stored, rfl, rfl⟩

end UserCmd

/-! ## The calls -/

namespace Registration

/-- An asynchronous function on the table. -/
abbrev Session (α : Type) : Type := Program UserCmd UserCmd.Resp RegistrationError α

/-- Await a statement. -/
def send (statement : UserCmd) : Session statement.Resp := Program.call statement

/-- `UserAlreadyExistsError`. -/
def userAlreadyExists : RegistrationError :=
  .auth (.userAlreadyExistsError "User with this email already exists")

/-- The session of `get_db`. -/
def getDb {α : Type} (request : Session α) : Session α :=
  Program.ensuring (tryCatch request fun e => do send .rollback; throw e) (send .close)

/-- `except SQLAlchemyError: await self.db.rollback(); raise`. -/
def rollbackOnSQLAlchemyError {α : Type} (e : RegistrationError) : Session α :=
  if e.isSQLAlchemyError then do
    send .rollback
    throw e
  else throw e

/-- The `try` block of `register`: the commit, which flushes the new user, and the refresh. -/
def store (newUser : User) : Session (Int × User) := do
  let id : Int ← send (.insertUser newUser)
  send .commit
  send (.refreshUser id)

/-- `AuthService.register`. -/
def register (lib : Library) (salt : Nat) (userIn : UserCreate) : Session UserResponse := do
  let taken : Bool ← send (.existsEmail userIn.email)
  if taken then throw userAlreadyExists
  else
    let (id, newUser) ← tryCatch
      (store ⟨userIn.email, lib.hash salt userIn.password, true, false⟩)
      rollbackOnSQLAlchemyError
    .done ((UserResponse.modelValidate lib id newUser).mapError .auth)

/-- `create_superuser`, with the line that it prints. -/
def createSuperuser (lib : Library) (salt : Nat) (email password : String) : Session String :=
  Program.ensuring (do
    let result : Option (Int × User) ← send (.selectByEmail email)
    match result with
    | some _ => pure ("User with " ++ email ++ " email already exist")
    | none =>
        let _ : Int ← send (.insertUser ⟨email, lib.hash salt password, true, true⟩)
        send .commit
        pure ("Superuser " ++ email ++ " created")) (send .close)

end Registration

/-- A `UserCreate` that the schema has accepted. -/
structure SignUp (lib : Library) extends UserCreate where
  accepted : ∃ email password, UserCreate.validate lib email password = some toUserCreate

/-- A call that inserts a user. -/
inductive Enrolment (lib : Library)
  | register (salt : Nat) (signUp : SignUp lib)
  | createSuperuser (salt : Nat) (email password : String)

namespace Enrolment

variable {lib : Library}

/-- The address that a call is given. -/
def address : Enrolment lib → String
  | .register _ signUp => signUp.email
  | .createSuperuser _ email _ => email

/-- The call, without what it returns. -/
def program : Enrolment lib → Registration.Session Unit
  | .register salt signUp => do
      let _ ← Registration.getDb (Registration.register lib salt signUp.toUserCreate)
      pure ()
  | .createSuperuser salt email password => do
      let _ ← Registration.createSuperuser lib salt email password
      pure ()

end Enrolment

/-! ## One registration at a time -/

section Alone

variable {ι : Type} [DecidableEq ι] {lib : Library} {t : ι} {a : Accounts}

/-- The table when no transaction is open. -/
def Accounts.table (a : Accounts) : UsersTable ι where
  entries := a.rows.map fun row => ⟨none, row.1, row.2⟩
  next := a.next
  id_lt_next e mem := by
    obtain ⟨row, stored, rfl⟩ := List.mem_map.mp mem
    exact a.id_lt_next row stored
  ids_nodup := by
    rw [List.map_map]
    exact a.ids_nodup
  keys_nodup := by
    rw [List.map_map]
    exact a.emails_nodup

theorem read_table : (a.table : UsersTable ι).read t = a.rows := by
  unfold Table.read Accounts.table
  rw [List.filter_map, List.map_map]
  simp [Function.comp_def, Entry.visible]

/-- The commit of an insertion. -/
theorem commit_add {user : User} {fresh : ∀ e ∈ a.table.entries, e.value.email ≠ user.email}
    (fresh' : user.email ∉ a.rows.map fun row => row.2.email) :
    ((a.table : UsersTable ι).add t user fresh).commit t = (a.insert user fresh').table := by
  refine Table.ext ?_ rfl
  unfold Table.commit Table.add Accounts.table Accounts.insert
  simp [Entry.commit]

/-- No statement fails. -/
def NoFailure (e : UserCmd.Event ι) : Prop := e.choice = false

/-- A statement that does not fail. -/
theorem ensures_send {statement : UserCmd}
    {post : Except RegistrationError statement.Resp → UsersTable ι → Prop} {s : UsersTable ι}
    (h : ∀ answer s', statement.run t s = some (answer, s') → post answer s') :
    (Registration.send statement).Ensures UserCmd.exec t NoFailure post s := by
  refine Program.Ensures.call fun choice answer s' ran clean => ?_
  rcases UserCmd.exec_cases ran with ⟨failing, _⟩ | ran
  · rw [show choice = false from clean] at failing
    cases failing
  · exact h answer s' ran

/-- The row of an insertion is found. -/
theorem find?_insert {user : User} (fresh : user.email ∉ a.rows.map fun row => row.2.email) :
    (a.insert user fresh).rows.find? (fun row => row.1 = a.next) = some (a.next, user) :=
  (Accounts.find?_key Prod.fst (a.insert user fresh).ids_nodup).mpr
    ⟨Accounts.mem_insert.mpr (.inr rfl), rfl⟩

/-- Without other calls and failing statements, `register` is the function on the table. -/
theorem register_alone {salt : Nat} {userIn : UserCreate} {events : List (UserCmd.Event ι)}
    {outcome : Except RegistrationError UserResponse} {s' : UsersTable ι}
    (run : (Registration.register lib salt userIn).Runs UserCmd.exec t a.table events outcome s')
    (clean : ∀ e ∈ events, NoFailure e) :
    outcome = (AuthService.register lib salt .commits a userIn).1.mapError .auth ∧
      s' = (AuthService.register lib salt .commits a userIn).2.table := by
  have ensures : (Registration.register lib salt userIn).Ensures UserCmd.exec t NoFailure
      (fun outcome (s' : UsersTable ι) =>
        outcome = (AuthService.register lib salt .commits a userIn).1.mapError .auth ∧
          s' = (AuthService.register lib salt .commits a userIn).2.table) a.table := by
    refine Program.Ensures.bind (ensures_send fun answer s₁ ran => ?_)
    cases ran
    rw [read_table]
    have asked : (a.rows.any fun row => decide (row.2.email = userIn.email)) =
        decide (userIn.email ∈ a.rows.map fun row => row.2.email) := by
      rw [Bool.eq_iff_iff, List.any_eq_true, decide_eq_true_iff, List.mem_map]
      simp only [decide_eq_true_iff]
    rw [asked]
    unfold AuthService.register
    by_cases taken : userIn.email ∈ a.rows.map fun row => row.2.email
    · rw [dif_pos taken, decide_eq_true taken]
      exact ⟨rfl, rfl⟩
    · rw [dif_neg taken, decide_eq_false taken]
      refine Program.Ensures.bind (Program.Ensures.tryCatch
        (Program.Ensures.bind (ensures_send fun answer s₁ ran => ?_)))
      rcases UserCmd.run_insertUser ran with ⟨fresh, rfl, rfl⟩ | ⟨⟨row, mem, same⟩, _⟩
      · refine Program.Ensures.bind (ensures_send fun answer s₂ ran => ?_)
        cases ran
        rw [commit_add taken]
        refine ensures_send fun answer s₃ ran => ?_
        let newUser : User := ⟨userIn.email, lib.hash salt userIn.password, true, false⟩
        have found : (UserCmd.refreshUser a.next).run t (a.insert newUser taken).table =
            some (.ok (a.next, newUser), (a.insert newUser taken).table) :=
          UserCmd.run_refreshUser_of_find (by rw [read_table, find?_insert])
        cases found.symm.trans ran
        exact ⟨rfl, rfl⟩
      · rw [read_table] at mem
        exact absurd (List.mem_map.mpr ⟨row, mem, same⟩) taken
  exact ensures.runs run clean

end Alone

end TicketCore
