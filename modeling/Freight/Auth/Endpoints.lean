import Freight.Auth.Accounts
import Freight.Store.Currency

/-! The auth endpoints, each with what it answers and what it leaves stored. -/

namespace Freight.Auth

open Dispatch (Role UserStatus)

/-- A request to one of the auth endpoints. A part of the body that is no string is none. -/
inductive Request where
  | login (username password : Option String)
  | refresh (refreshToken : Option Nat)
  | me (token : Option Jwt)
  | logout (refreshToken : Option Nat)
  | changePassword (token : Option Jwt) (currentPassword newPassword : Option String)
  | verifyMfaLogin (mfaSessionToken : Option Jwt) (code recoveryCode : Option String)
  | enrollMfa (token : Option Jwt)
  | confirmMfa (token : Option Jwt) (code : Option String)
  | disableMfa (token : Option Jwt) (password : Option String)
  deriving DecidableEq

/-- What a request is answered with. -/
inductive Response where
  /-- A full session: an access token and a refresh token. -/
  | session (token : Jwt) (refreshToken : Nat) (role : Role)
  | mfaRequired (mfaSessionToken : Jwt)
  | profile (username : String) (role : Role) (mfaEnabled : Bool)
  | enrolled (manualEntrySecret : String)
  | recoveryCodes (codes : List String)
  | done (message : String)
  | failed (failure : Failure)
  deriving DecidableEq

/-- `issueSessionTokens`. -/
def issueSessionTokens (store : AuthStore) (user : Account) : AuthStore × Response :=
  (store.issueRefreshToken user.username,
    .session (signAccessToken store.now user) store.serial user.role)

/-- `validateLoginPayload`. -/
def validateLoginPayload (username password : Option String) : Except Failure (String × String) := do
  let username ← demand (username.filter fun username =>
      3 ≤ (trim username.toList).length && (trim username.toList).length ≤ 50)
    ⟨400, "AUTH_INVALID_USERNAME", "Username must be 3 to 50 characters long."⟩
  let password ← demand (password.filter fun password => 8 ≤ password.toList.length && password.toList.length ≤ 128)
    ⟨400, "AUTH_INVALID_PASSWORD", "Password must be at least 8 characters long."⟩
  return (username, password)

/-- Why an account whose password is right may still not sign in. -/
def statusProblem : UserStatus → Option Failure
  | .pending => some ⟨403, "AUTH_ACCOUNT_PENDING", "Your account is awaiting admin approval."⟩
  | .suspended =>
    some ⟨403, "AUTH_ACCOUNT_SUSPENDED", "This account has been suspended. Contact an administrator."⟩
  | .rejected =>
    some ⟨403, "AUTH_ACCOUNT_REJECTED", "Your account request was not approved. Contact your dispatcher."⟩
  | .approved => none

variable (ext : Externals) (store : AuthStore)

/-- `login`. -/
def login (username password : Option String) : Except Failure (AuthStore × Response) := do
  let (username, password) ← validateLoginPayload username password
  let invalid : Failure := ⟨401, "AUTH_INVALID_CREDENTIALS", "Invalid username or password"⟩
  -- An unknown name and a wrong password are answered alike.
  let user ← demand (store.users.find? username) invalid
  let hash ← demand user.passwordHash ⟨500, "AUTH_LOGIN_FAILED", "Login failed."⟩
  require (ext.compare password hash) invalid
  refuse (statusProblem user.status)
  -- With a second factor the password only buys a token to present it with.
  if user.totpEnabledAt.isSome then
    return (store, .mfaRequired (signMfaSessionToken store.now user.username))
  else return issueSessionTokens store user

/-- `verifyMfaLogin`: a recovery code is looked at before a code. -/
def verifyMfaLogin (mfaSessionToken : Option Jwt) (code recoveryCode : Option String) :
    Except Failure (AuthStore × Response) := do
  let session ← demand (verifyMfaSessionToken store.now mfaSessionToken)
    ⟨401, "AUTH_MFA_SESSION_INVALID", "Session expired — please log in again."⟩
  let notEnabled : Failure := ⟨401, "AUTH_MFA_NOT_ENABLED", "MFA is no longer enabled on this account."⟩
  let user ← demand (store.users.find? session.username) notEnabled
  let secret ← demand user.totpSecret notEnabled
  match recoveryCode.filter fun recoveryCode => recoveryCode ≠ "" with
  -- A recovery code is spent with its use.
  | some recoveryCode =>
    let remaining ← demand (consumeRecoveryCode ext user.totpRecoveryCodeHashes recoveryCode)
      ⟨401, "AUTH_MFA_RECOVERY_CODE_INVALID", "That recovery code is invalid or already used."⟩
    return issueSessionTokens (store.updateUser user.username (fun user =>
      { user with totpRecoveryCodeHashes := some remaining }) fun _ => rfl) user
  | none =>
    require (ext.totpKey = .usable) ⟨500, "AUTH_MFA_VERIFY_FAILED", "Could not verify MFA code."⟩
    require (verifyTotpCode ext secret code store.now) ⟨401, "AUTH_MFA_CODE_INVALID", "Incorrect code."⟩
    return issueSessionTokens store user

/-- `enrollMfa`. -/
def enrollMfa (claims : Claims) : Except Failure (AuthStore × Response) := do
  require (ext.totpKey ≠ .missing)
    ⟨503, "AUTH_MFA_NOT_CONFIGURED", "MFA is not configured on this server yet."⟩
  require (ext.totpKey = .usable) ⟨500, "AUTH_MFA_ENROLL_FAILED", "Could not start MFA enrollment."⟩
  let secret := ext.generateSecret store.serial
  -- The secret waits in a column of its own until a code confirms it.
  let stored := store.updateUser claims.username (fun user =>
    { user with totpPendingSecret := some secret }) fun _ => rfl
  return ({ stored with serial := store.serial + 1 }, .enrolled secret)

/-- `confirmMfa`. -/
def confirmMfa (claims : Claims) (code : Option String) : Except Failure (AuthStore × Response) := do
  let pendingSecret ← demand ((store.users.find? claims.username).bind Account.totpPendingSecret)
    ⟨400, "AUTH_MFA_NO_PENDING_ENROLLMENT", "Start enrollment first."⟩
  require (ext.totpKey = .usable) ⟨500, "AUTH_MFA_CONFIRM_FAILED", "Could not confirm MFA enrollment."⟩
  require (verifyTotpCode ext pendingSecret code store.now) ⟨401, "AUTH_MFA_CODE_INVALID", "Incorrect code."⟩
  let codes := ext.recoveryCodes store.serial
  -- From here on the account has its second factor, and the codes to do without it, once each.
  let stored := store.updateUser claims.username (fun user => { user with
    totpSecret := some pendingSecret, totpPendingSecret := none, totpEnabledAt := some store.now
    totpRecoveryCodeHashes := some (codes.map ext.hashCode) }) fun _ => rfl
  return ({ stored with serial := store.serial + 1 }, .recoveryCodes (codes.map displayRecoveryCode))

/-- `disableMfa`. -/
def disableMfa (claims : Claims) (password : Option String) : Except Failure (AuthStore × Response) := do
  let user ← demand (store.users.find? claims.username)
    ⟨401, "AUTH_ACCOUNT_NOT_FOUND", "Account no longer exists."⟩
  let hash ← demand user.passwordHash ⟨500, "AUTH_MFA_DISABLE_FAILED", "Could not disable MFA."⟩
  -- The password is asked for again, and no code.
  require (ext.compare (password.getD "") hash)
    ⟨401, "AUTH_CURRENT_PASSWORD_INVALID", "Current password is incorrect."⟩
  return (store.updateUser claims.username (fun user => { user with
    totpSecret := none, totpPendingSecret := none, totpEnabledAt := none
    totpRecoveryCodeHashes := none }) fun _ => rfl, .done "MFA disabled.")

/-- `refresh`. -/
def refresh (refreshToken : Option Nat) : Except Failure (AuthStore × Response) := do
  let number ← demand refreshToken ⟨400, "AUTH_REFRESH_TOKEN_REQUIRED", "refreshToken is required."⟩
  let username ← demand (store.validateRefreshToken number)
    ⟨401, "AUTH_REFRESH_TOKEN_INVALID", "Refresh token is invalid, expired, or revoked."⟩
  let user ← demand (store.users.find? username)
    ⟨401, "AUTH_REFRESH_USER_NOT_FOUND", "Account no longer exists."⟩
  return issueSessionTokens (store.revokeRefreshToken number) user

/-- `changePassword`. -/
def changePassword (claims : Claims) (currentPassword newPassword : Option String) :
    Except Failure (AuthStore × Response) := do
  let currentPassword ← demand (currentPassword.filter fun password => password ≠ "")
    ⟨400, "AUTH_CURRENT_PASSWORD_REQUIRED", "Current password is required."⟩
  let newPassword ← demand (newPassword.filter fun password => 8 ≤ password.toList.length && password.toList.length ≤ 128)
    ⟨400, "AUTH_INVALID_PASSWORD", "New password must be 8 to 128 characters long."⟩
  let user ← demand (store.users.find? claims.username)
    ⟨401, "AUTH_ACCOUNT_NOT_FOUND", "Account no longer exists."⟩
  let hash ← demand user.passwordHash ⟨500, "AUTH_PASSWORD_CHANGE_FAILED", "Failed to update password."⟩
  require (ext.compare currentPassword hash)
    ⟨401, "AUTH_CURRENT_PASSWORD_INVALID", "Current password is incorrect."⟩
  let stored := store.updateUser claims.username (fun user =>
    { user with passwordHash := some (ext.hash store.serial newPassword) }) fun _ => rfl
  -- Every session of the account ends with its old password.
  return ({ stored.revokeAllRefreshTokensForUser claims.username with serial := store.serial + 1 },
    .done "Password updated successfully.")

/-- `me`. -/
def me (claims : Claims) : Except Failure (AuthStore × Response) := do
  let user ← demand (store.users.find? claims.username)
    ⟨404, "AUTH_ACCOUNT_NOT_FOUND", "Account no longer exists."⟩
  return (store, .profile user.username user.role user.totpEnabledAt.isSome)

/-- `logout`, by whatever token was sent. -/
def logout (refreshToken : Option Nat) : AuthStore × Response :=
  match refreshToken with
  | some number => (store.revokeRefreshToken number, .done "Logged out.")
  | none => (store, .done "Logged out.")

/-- `authRoutes`: a request on its way through its route. -/
def route : Request → Except Failure (AuthStore × Response)
  | .login username password => login ext store username password
  | .refresh refreshToken => refresh store refreshToken
  -- Five routes ask for any valid token, and none of them names a role.
  | .me token => do me store (← authMiddleware store.now [] token)
  | .logout refreshToken => .ok (logout store refreshToken)
  | .changePassword token currentPassword newPassword => do
    changePassword ext store (← authMiddleware store.now [] token) currentPassword newPassword
  | .verifyMfaLogin mfaSessionToken code recoveryCode =>
    verifyMfaLogin ext store mfaSessionToken code recoveryCode
  | .enrollMfa token => do enrollMfa ext store (← authMiddleware store.now [] token)
  | .confirmMfa token code => do confirmMfa ext store (← authMiddleware store.now [] token) code
  | .disableMfa token password => do disableMfa ext store (← authMiddleware store.now [] token) password

/-- A request is answered; one that fails leaves everything as it was. -/
def serve (request : Request) : AuthStore × Response :=
  match route ext store request with
  | .ok answered => answered
  | .error failure => (store, .failed failure)

/-- The token that a request carries for `authMiddleware`. -/
def Request.authorization : Request → Option Jwt
  | .me token | .changePassword token _ _ | .enrollMfa token | .confirmMfa token _ | .disableMfa token _ =>
    token
  | .login .. | .refresh _ | .logout _ | .verifyMfaLogin .. => none

end Freight.Auth
