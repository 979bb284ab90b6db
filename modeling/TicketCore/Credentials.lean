import TicketCore.Accounts

/-!
# Registered credentials

Registration and password change validate their strings, and store what the validation makes of
them. Login takes its strings as they are.

* `credentials_log_in_iff`: the strings with which a user registered log the user in exactly when
  the validation does not change them, and so does a new password.
-/

namespace TicketCore

open AuthService

/-! ## What the schemas accept -/

section Schemas

variable {lib : Library} {email password oldPassword newPassword : String} {userIn : UserCreate}
  {passwords : PasswordChange}

theorem UserCreate.of_validate (accepted : UserCreate.validate lib email password = some userIn) :
    lib.emailField (lib.lower email) = some userIn.email ∧ userIn.password = strip password := by
  unfold UserCreate.validate at accepted
  split at accepted
  · cases accepted
  · rename_i address valid
    split at accepted
    · cases accepted
      exact ⟨valid, rfl⟩
    · cases accepted

theorem PasswordChange.of_validate
    (accepted : PasswordChange.validate oldPassword newPassword = some passwords) :
    passwords.newPassword = strip newPassword := by
  unfold PasswordChange.validate at accepted
  split at accepted
  · split at accepted
    · cases accepted
      rfl
    · cases accepted
  · cases accepted

end Schemas

/-! ## What the calls leave behind -/

section Calls

variable {lib : Library} {salt : Nat} {ending : Ending} {a a' a'' : Accounts}
  {id : Int} {user : User}
  {userIn : UserCreate} {passwords : PasswordChange} {response : UserResponse}

/-- A transaction that returns has been committed. -/
theorem Ending.of_run {result : Except AuthError UserResponse}
    (ran : ending.run a a' result = (.ok response, a'')) : result = .ok response ∧ a'' = a' := by
  cases ending with
  | commits => exact Prod.mk.inj ran |>.imp_right Eq.symm
  | commitRaises => cases ran
  | refreshRaises => cases ran

theorem id_of_modelValidate (valid : UserResponse.modelValidate lib id user = .ok response) :
    response.id = id := by
  unfold UserResponse.modelValidate at valid
  split at valid
  · cases valid
  · cases valid
    rfl

/-- The row of a user who has registered. -/
theorem get_of_register (registered : register lib salt ending a userIn = (.ok response, a')) :
    a'.get response.id = some ⟨userIn.email, lib.hash salt userIn.password, true, false⟩ := by
  unfold register at registered
  split at registered
  · cases registered
  · obtain ⟨valid, rfl⟩ := Ending.of_run registered
    rw [id_of_modelValidate valid, Accounts.get_eq_some, Accounts.mem_insert]
    exact .inr rfl

/-- The row of a user who has changed the password. -/
theorem get_of_changePassword (stored : a.get id = some user)
    (changed : changePassword lib salt ending a id passwords = (.ok response, a')) :
    a'.get id = some { user with hashedPassword := lib.hash salt passwords.newPassword } := by
  unfold changePassword at changed
  rw [stored] at changed
  dsimp only at changed
  split at changed
  · cases changed
  · obtain ⟨_, rfl⟩ := Ending.of_run changed
    rw [Accounts.get_modify, if_pos rfl, stored]
    rfl

end Calls

/-! ## Logging in again -/

/-- **The strings of a registration log the user in if and only if validation leaves them as they
are**: the e-mail is in its normal form, and no white space surrounds the password. The same holds
of a new password. -/
theorem credentials_log_in_iff (lib : Library) (salt : Nat) (ending : Ending)
    (a a' : Accounts) (now : Int) (response : UserResponse) :
    (∀ email password userIn, UserCreate.validate lib email password = some userIn →
      register lib salt ending a userIn = (.ok response, a') →
      (authenticate lib now a' email password = .ok (lib.createAccessToken now response.id) ↔
        lib.emailField (lib.lower email) = some email ∧ strip password = password)) ∧
    ∀ id user oldPassword newPassword passwords, a.get id = some user → user.isActive = true →
      PasswordChange.validate oldPassword newPassword = some passwords →
      changePassword lib salt ending a id passwords = (.ok response, a') →
      (authenticate lib now a' user.email newPassword = .ok (lib.createAccessToken now id) ↔
        strip newPassword = newPassword) := by
  constructor
  · intro email password userIn accepted registered
    obtain ⟨address, stripped⟩ := UserCreate.of_validate accepted
    rw [authenticate_eq_ok, get_of_register registered, address, ← stripped]
    constructor
    · rintro ⟨user, same, rfl, _, verified⟩
      cases same
      exact ⟨rfl, ((lib.verify_hash ..).mp verified).symm⟩
    · rintro ⟨same, kept⟩
      exact ⟨_, rfl, Option.some.inj same, rfl, (lib.verify_hash ..).mpr kept.symm⟩
  · intro id user oldPassword newPassword passwords stored active accepted changed
    rw [authenticate_eq_ok,
      get_of_changePassword stored changed, ← PasswordChange.of_validate accepted]
    constructor
    · rintro ⟨_, same, _, _, verified⟩
      cases same
      exact ((lib.verify_hash ..).mp verified).symm
    · intro kept
      exact ⟨_, rfl, rfl, active, (lib.verify_hash ..).mpr kept.symm⟩

/-! ## Two registrations -/

/-- A token that shows its payload. -/
def plainToken (claims : Claims) : String := toString claims.exp ++ ":" ++ claims.sub

/-- What such a token shows. -/
def readToken (token : String) : Option Claims :=
  match DecimalText.readInt (token.toList.takeWhile (· ≠ ':')),
      token.toList.dropWhile (· ≠ ':') with
  | some exp, _ :: sub => some ⟨String.ofList sub, exp⟩
  | _, _ => none

theorem readToken_plainToken (claims : Claims) : readToken (plainToken claims) = some claims := by
  have text : (plainToken claims).toList =
      (toString claims.exp).toList ++ ':' :: claims.sub.toList := by
    have colon : ":".toList = [':'] := rfl
    unfold plainToken
    rw [String.toList_append, String.toList_append, colon, List.append_assoc, List.singleton_append]
  have digits : ∀ c ∈ (toString claims.exp).toList, decide (c ≠ ':') = true := fun c mem =>
    decide_eq_true fun same =>
      DecimalText.not_mem_toString claims.exp (by decide) (by decide) (same ▸ mem)
  unfold readToken
  rw [text, List.takeWhile_append_of_pos digits, List.dropWhile_append_of_pos digits,
    List.takeWhile_cons_of_neg (by decide), List.dropWhile_cons_of_neg (by decide), List.append_nil,
    DecimalText.readInt_toString]
  show some (⟨String.ofList claims.sub.toList, claims.exp⟩ : Claims) = some claims
  rw [String.ofList_toList]

/-- A library that hashes nothing, signs nothing and knows one address. -/
def plainLibrary : Library where
  lower s := String.ofList (s.toList.map Char.toLower)
  emailStr s := if s = "ann@example.com" then some s else none
  hash _ password := password
  verify hashed plain := plain = hashed
  verify_hash _ _ _ := decide_eq_true_iff
  encode := plainToken
  decode := readToken
  decode_encode := readToken_plainToken
  accessTokenExpireMinutes := 30

/-- A user who registers with an address in its normal form. -/
def annInNormalForm : UserCreate := ⟨"ann@example.com", "very secret", by decide, by decide⟩

/-- The user logs in with the strings of the registration. -/
theorem credentials_log_in_of_ann :
    ∃ response a', UserCreate.validate plainLibrary "ann@example.com" "very secret" =
        some annInNormalForm ∧
      register plainLibrary 0 .commits .empty annInNormalForm = (.ok response, a') ∧
      authenticate plainLibrary 0 a' "ann@example.com" "very secret" =
        .ok (plainLibrary.createAccessToken 0 response.id) := by
  have accepted : UserCreate.validate plainLibrary "ann@example.com" "very secret" =
      some annInNormalForm := by decide
  have registered : register plainLibrary 0 .commits .empty annInNormalForm =
      (.ok ⟨1, "ann@example.com", true, false⟩, _) := rfl
  exact ⟨_, _, accepted, registered,
    ((credentials_log_in_iff plainLibrary 0 .commits .empty _ 0 _).1
    _ _ _ accepted registered).mpr (by decide)⟩

/-- A user who registers with capitals in the address, or with a space after the password, is
refused at login with the same strings. -/
theorem registered_and_refused :
    ∃ response a', UserCreate.validate plainLibrary "Ann@Example.com" "very secret " =
        some annInNormalForm ∧
      register plainLibrary 0 .commits .empty annInNormalForm = (.ok response, a') ∧
      authenticate plainLibrary 0 a' "Ann@Example.com" "very secret " =
        .error (.invalidCredentialsError "Incorrect email or password") ∧
      authenticate plainLibrary 0 a' "ann@example.com" "very secret " =
        .error (.invalidCredentialsError "Incorrect email or password") :=
  ⟨⟨1, "ann@example.com", true, false⟩, _, by decide, rfl, by decide, by decide⟩

end TicketCore
