import TicketCore.DecimalText
import Mathlib.Data.List.Nodup

/-!
# Accounts

The users of `src/models/user.py` with the schemas of `src/schemas/user.py`, the functions of
`src/core/security.py` and `AuthService` of `src/services/auth.py`. A call of the service is one
transaction on the users table, so it is a function of the table.

* `Accounts` is the users table, with its constraints.
* `Library` is what the service calls of other packages: lower-casing, e-mail validation, hashing
  and signing, with what is relied on of the last two.
-/

namespace TicketCore

/-! ## Strings -/

/-- Unicode's `White_Space`. -/
def isWhiteSpace (c : Char) : Bool :=
  let n := c.toNat
  (9 ≤ n && n ≤ 13) || n == 0x20 || n == 0x85 || n == 0xA0 || n == 0x1680 ||
    (0x2000 ≤ n && n ≤ 0x200A) || n == 0x2028 || n == 0x2029 || n == 0x202F || n == 0x205F ||
    n == 0x3000

/-- `str_strip_whitespace`: without the white space at both ends. -/
def strip (s : String) : String :=
  String.ofList ((s.toList.dropWhile isWhiteSpace).reverse.dropWhile isWhiteSpace).reverse

/-! ## Other packages -/

/-- The payload of a token: `sub`, and `exp` in seconds. -/
structure Claims where
  sub : String
  exp : Int
deriving DecidableEq, Repr

/-- What the service calls of other packages. -/
structure Library where
  /-- `str.lower`. -/
  lower : String → String
  /-- The validation of `EmailStr`: the address in its normal form, if it is one. -/
  emailStr : String → Option String
  /-- `PasswordHasher.hash`, with the salt that it has drawn. -/
  hash : Nat → String → String
  /-- `PasswordHasher.verify`, of a hash and a password. -/
  verify : String → String → Bool
  /-- A hash verifies the password that was hashed, and no other. -/
  verify_hash : ∀ salt password other, verify (hash salt password) other = true ↔
      other = password
  /-- `jwt.encode`, with the application's key and algorithm. -/
  encode : Claims → String
  /-- The payload of a token with a good signature, as `jwt.decode` reads it. -/
  decode : String → Option Claims
  /-- A token is read back as it was signed. -/
  decode_encode : ∀ claims, decode (encode claims) = some claims
  /-- `settings.ACCESS_TOKEN_EXPIRE_MINUTES`. -/
  accessTokenExpireMinutes : Int

/-! ## Schemas -/

/-- The e-mail field of the schemas: `EmailStr` with `min_length=5` and `max_length=254`, on a
string that has been stripped. -/
def Library.emailField (lib : Library) (v : String) : Option String :=
  (lib.emailStr (strip v)).filter fun email => 5 ≤ email.length ∧ email.length ≤ 254

/-- `UserCreate`, without the `is_active` that nothing reads. -/
structure UserCreate where
  email : String
  password : String
  password_min : 8 ≤ password.length
  password_max : password.length ≤ 100
deriving DecidableEq, Repr

/-- Validation of a `UserCreate`: the e-mail is lower-cased first. -/
def UserCreate.validate (lib : Library) (email password : String) : Option UserCreate :=
  match lib.emailField (lib.lower email) with
  | none => none
  | some email =>
      if h : 8 ≤ (strip password).length ∧ (strip password).length ≤ 100 then
        some ⟨email, strip password, h.1, h.2⟩
      else none

/-- `PasswordChange`. -/
structure PasswordChange where
  oldPassword : String
  newPassword : String
  oldPassword_max : oldPassword.length ≤ 100
  newPassword_min : 8 ≤ newPassword.length
  newPassword_max : newPassword.length ≤ 100
deriving DecidableEq, Repr

/-- Validation of a `PasswordChange`. -/
def PasswordChange.validate (oldPassword newPassword : String) : Option PasswordChange :=
  if old : (strip oldPassword).length ≤ 100 then
    if new : 8 ≤ (strip newPassword).length ∧ (strip newPassword).length ≤ 100 then
      some ⟨strip oldPassword, strip newPassword, old, new.1, new.2⟩
    else none
  else none

/-! ## The users table -/

/-- A row of `users`. -/
structure User where
  email : String
  hashedPassword : String
  isActive : Bool
  isSuperuser : Bool
deriving DecidableEq, Repr

/-- The users table. Ids come from a sequence, and no two rows have the same e-mail. -/
structure Accounts where
  rows : List (Int × User)
  next : Int
  id_lt_next : ∀ row ∈ rows, row.1 < next
  ids_nodup : (rows.map Prod.fst).Nodup
  emails_nodup : (rows.map fun row => row.2.email).Nodup

namespace Accounts

/-- A table without rows. -/
def empty : Accounts := ⟨[], 1, fun _ mem => (List.not_mem_nil mem).elim, .nil, .nil⟩

/-- `session.get(User, user_id)`. -/
def get (a : Accounts) (id : Int) : Option User :=
  (a.rows.find? fun row => row.1 = id).map Prod.snd

/-- `select(User).where(User.email == email)`. -/
def byEmail (a : Accounts) (email : String) : Option (Int × User) :=
  a.rows.find? fun row => row.2.email = email

/-- A row is inserted. -/
def insert (a : Accounts) (user : User) (fresh : user.email ∉ a.rows.map fun row => row.2.email) :
    Accounts where
  rows := a.rows ++ [(a.next, user)]
  next := a.next + 1
  id_lt_next row mem := by
    rcases List.mem_append.mp mem with old | new
    · have lt := a.id_lt_next row old
      omega
    · rw [List.mem_singleton.mp new]
      exact Int.lt_succ a.next
  ids_nodup := by
    rw [List.map_append, List.nodup_append]
    refine ⟨a.ids_nodup, List.nodup_singleton _, fun id mem other mem' => ?_⟩
    obtain ⟨row, old, rfl⟩ := List.mem_map.mp mem
    obtain rfl : other = a.next := List.mem_singleton.mp mem'
    exact Int.ne_of_lt (a.id_lt_next row old)
  emails_nodup := by
    rw [List.map_append, List.nodup_append]
    refine ⟨a.emails_nodup, List.nodup_singleton _, fun email mem other mem' => ?_⟩
    obtain rfl : other = user.email := List.mem_singleton.mp mem'
    exact fun same => fresh (same ▸ mem)

/-- A row is updated, and keeps its e-mail. -/
def modify (a : Accounts) (id : Int) (f : User → User)
    (keeps : ∀ user, (f user).email = user.email) :
    Accounts where
  rows := a.rows.map fun row => if row.1 = id then (row.1, f row.2) else row
  next := a.next
  id_lt_next row mem := by
    obtain ⟨old, stored, rfl⟩ := List.mem_map.mp mem
    have lt := a.id_lt_next old stored
    split
    · exact lt
    · exact lt
  ids_nodup := by
    rw [List.map_map]
    have same : Prod.fst ∘
        (fun row : Int × User => if row.1 = id then (row.1, f row.2) else row) =
        Prod.fst := funext fun row => by
      dsimp only [Function.comp]
      split
      · rfl
      · rfl
    rw [same]
    exact a.ids_nodup
  emails_nodup := by
    rw [List.map_map]
    have same : (fun row : Int × User => row.2.email) ∘
        (fun row : Int × User => if row.1 = id then (row.1, f row.2) else row) =
        fun row => row.2.email := funext fun row => by
      dsimp only [Function.comp]
      split
      · exact keeps row.2
      · rfl
    rw [same]
    exact a.emails_nodup

variable {a : Accounts} {id : Int} {user : User} {email : String}

/-- A search by a key that no two elements share. -/
theorem find?_key {A K : Type} [DecidableEq K] (key : A → K) {rows : List A} {k : K} {row : A}
    (distinct : (rows.map key).Nodup) :
    rows.find? (fun other => key other = k) = some row ↔ row ∈ rows ∧ key row = k := by
  constructor
  · intro first
    exact ⟨List.mem_of_find?_eq_some first, of_decide_eq_true
      (List.find?_some (p := fun other => decide (key other = k)) first)⟩
  · rintro ⟨mem, rfl⟩
    cases first : rows.find? fun other => key other = key row with
    | none => exact (List.find?_eq_none.mp first row mem (decide_eq_true rfl)).elim
    | some other =>
        have same : key other = key row := of_decide_eq_true
          (List.find?_some (p := fun other => decide (key other = key row)) first)
        rw [List.inj_on_of_nodup_map distinct (List.mem_of_find?_eq_some first) mem same]

theorem get_eq_some : a.get id = some user ↔ (id, user) ∈ a.rows := by
  unfold get
  rw [Option.map_eq_some_iff]
  constructor
  · rintro ⟨row, first, rfl⟩
    obtain ⟨mem, rfl⟩ := (find?_key _ a.ids_nodup).mp first
    exact mem
  · intro mem
    exact ⟨(id, user), (find?_key _ a.ids_nodup).mpr ⟨mem, rfl⟩, rfl⟩

theorem byEmail_eq_some : a.byEmail email = some (id, user) ↔
    (id, user) ∈ a.rows ∧ user.email = email :=
  find?_key (fun row : Int × User => row.2.email) a.emails_nodup

theorem mem_insert {fresh : user.email ∉ a.rows.map fun row => row.2.email} {row : Int × User} :
    row ∈ (a.insert user fresh).rows ↔ row ∈ a.rows ∨ row = (a.next, user) := by
  unfold insert
  rw [List.mem_append, List.mem_singleton]

/-- The row of an id after an update. -/
theorem get_modify {f : User → User} {keeps : ∀ user, (f user).email = user.email}
    {other : Int} :
    (a.modify id f keeps).get other =
      if other = id then (a.get other).map f else a.get other := by
  ext user
  rw [get_eq_some]
  have rows : (other, user) ∈ (a.modify id f keeps).rows ↔
      ∃ row ∈ a.rows, (if row.1 = id then (row.1, f row.2) else row) = (other, user) :=
        List.mem_map
  rw [rows]
  by_cases same : other = id
  · subst same
    rw [if_pos rfl, Option.map_eq_some_iff]
    constructor
    · rintro ⟨row, mem, updated⟩
      split at updated
      · rename_i here
        cases updated
        exact ⟨row.2, get_eq_some.mpr (here ▸ mem), rfl⟩
      · rename_i elsewhere
        exact (elsewhere (congrArg Prod.fst updated)).elim
    · rintro ⟨old, stored, rfl⟩
      exact ⟨(other, old), get_eq_some.mp stored, if_pos rfl⟩
  · rw [if_neg same, get_eq_some]
    constructor
    · rintro ⟨row, mem, updated⟩
      split at updated
      · rename_i here
        cases updated
        exact (same here).elim
      · rwa [← updated]
    · intro mem
      exact ⟨(other, user), mem, if_neg same⟩

end Accounts

/-! ## Tokens -/

namespace Library

/-- `create_access_token`, at `now` in seconds. -/
def createAccessToken (lib : Library) (now subject : Int) : String :=
  lib.encode ⟨toString subject, now + lib.accessTokenExpireMinutes * 60⟩

variable {lib : Library}

theorem createAccessToken_inj {now subject subject' : Int}
    (same : lib.createAccessToken now subject = lib.createAccessToken now subject') :
    subject = subject' := by
  have claims := congrArg lib.decode same
  unfold createAccessToken at claims
  rw [lib.decode_encode, lib.decode_encode] at claims
  exact DecimalText.toString_injective (congrArg Claims.sub (Option.some.inj claims))

end Library

/-! ## The service -/

/-- What the service raises. -/
inductive AuthError
  | userAlreadyExistsError (message : String)
  | invalidCredentialsError (message : String)
  | inactiveUserError (message : String)
  | sqlalchemyError
  | validationError
deriving DecidableEq, Repr

/-- How the end of a transaction goes: the commit can raise, and the refresh after it. -/
inductive Ending
  | commits
  | commitRaises
  | refreshRaises
deriving DecidableEq, Repr

/-- `UserResponse`. -/
structure UserResponse where
  id : Int
  email : String
  isActive : Bool
  isSuperuser : Bool
deriving DecidableEq, Repr

/-- `UserResponse.model_validate(user, from_attributes=True)`: the e-mail is validated once more. -/
def UserResponse.modelValidate (lib : Library) (id : Int) (user : User) :
    Except AuthError UserResponse :=
  match lib.emailField user.email with
  | none => .error .validationError
  | some email => .ok ⟨id, email, user.isActive, user.isSuperuser⟩

/-- The `try` block around the commit and what follows it, when the transaction leads from `a` to
`a'`. -/
def Ending.run (ending : Ending) (a a' : Accounts) (response : Except AuthError UserResponse) :
    Except AuthError UserResponse × Accounts :=
  match ending with
  | .commits => (response, a')
  | .commitRaises => (.error .sqlalchemyError, a)
  | .refreshRaises => (.error .sqlalchemyError, a')

namespace AuthService

/-- `AuthService.register`. -/
def register (lib : Library) (salt : Nat) (ending : Ending) (a : Accounts) (userIn : UserCreate) :
    Except AuthError UserResponse × Accounts :=
  if taken : userIn.email ∈ a.rows.map fun row => row.2.email then
    (.error (.userAlreadyExistsError "User with this email already exists"), a)
  else
    let newUser : User := ⟨userIn.email, lib.hash salt userIn.password, true, false⟩
    ending.run a (a.insert newUser taken) (UserResponse.modelValidate lib a.next newUser)

/-- `AuthService.authenticate`. -/
def authenticate (lib : Library) (now : Int) (a : Accounts) (email password : String) :
    Except AuthError String :=
  match a.byEmail email with
  | none => .error (.invalidCredentialsError "Incorrect email or password")
  | some (id, user) =>
      if lib.verify user.hashedPassword password = false then
        .error (.invalidCredentialsError "Incorrect email or password")
      else if user.isActive = false then .error (.inactiveUserError "User is inactive")
      else .ok (lib.createAccessToken now id)

/-- `AuthService.change_password`. -/
def changePassword (lib : Library) (salt : Nat) (ending : Ending) (a : Accounts) (userId : Int)
    (passwords : PasswordChange) : Except AuthError UserResponse × Accounts :=
  match a.get userId with
  | none => (.error (.invalidCredentialsError "User not found"), a)
  | some user =>
      if lib.verify user.hashedPassword passwords.oldPassword = false then
        (.error (.invalidCredentialsError "Incorrect old password"), a)
      else
        let hashedPassword := lib.hash salt passwords.newPassword
        ending.run a (a.modify userId ({ · with hashedPassword }) fun _ => rfl)
          (UserResponse.modelValidate lib userId { user with hashedPassword })

variable {lib : Library} {a a' : Accounts} {now id : Int} {email password : String} {user : User}

/-- Who gets a token: an active user, by the stored e-mail and password. -/
theorem authenticate_eq_ok :
    authenticate lib now a email password = .ok (lib.createAccessToken now id) ↔
      ∃ user, a.get id = some user ∧ user.email = email ∧ user.isActive = true ∧
        lib.verify user.hashedPassword password = true := by
  unfold authenticate
  constructor
  · intro returned
    split at returned
    · cases returned
    · rename_i found user first
      obtain ⟨mem, same⟩ := Accounts.byEmail_eq_some.mp first
      split at returned
      · cases returned
      · rename_i verified
        split at returned
        · cases returned
        · rename_i active
          obtain rfl := Library.createAccessToken_inj (Except.ok.inj returned)
          exact ⟨user, Accounts.get_eq_some.mpr mem, same, Bool.not_eq_false _ ▸ active,
            Bool.not_eq_false _ ▸ verified⟩
  · rintro ⟨user, stored, same, active, verified⟩
    rw [Accounts.byEmail_eq_some.mpr ⟨Accounts.get_eq_some.mp stored, same⟩]
    simp only [active, verified, Bool.true_eq_false, if_false]

end AuthService

end TicketCore
