import Freight.Auth.SessionStore

/-! Sessions begun, carried on and ended, and the codes that are spent for them, a statement at a time. -/

namespace Freight.Auth

open Dispatch (Role UserStatus Requester)

/-- The claims of a token between the steps of a sign-in by phone. -/
structure OtpSession where
  phone : String
  inviteVerified : Bool := false
  expiresAt : Nat
  deriving DecidableEq

/-- `OTP_SESSION_TTL`, in seconds. -/
def otpSessionTtl : Nat := 10 * 60

/-- `verifyOtpSessionToken`: nothing where the token was not signed. -/
def verifyOtpSessionToken (now : Nat) (token : Option OtpSession) : Option OtpSession :=
  token.filter fun session => now < session.expiresAt

/-- What the endpoints take from elsewhere. -/
structure SessionExternals extends Externals where
  otp : OtpExternals

/-- A vehicle as a driver's invite shows it. -/
structure InvitedTo where
  plateNumber : String
  vehicleType : String
  maxWeightKg : Option ℚ
  maxRangeKm : Option ℚ
  deriving DecidableEq

/-- What a request is answered with. -/
inductive SessionResponse where
  | session (token : Jwt) (refreshToken : Nat) (role : Role)
  | mfaRequired (mfaSessionToken : Jwt)
  | otp (response : OtpResponse)
  | invited (session : OtpSession) (staffId fullName : Option String) (vehicle : Option InvitedTo)
  | statusSet (id : Nat) (username : String) (status : Decision)
  | done (message : String)
  | failed (failure : Failure)
  deriving DecidableEq

/-- A request, at the statement it has reached. -/
inductive SessionCall where
  /-- `login`, about to look the account up. -/
  | findUser (username password : String)
  /-- `verifyMfaLogin`, about to look the account up. -/
  | readFactor (mfaSessionToken : Option Jwt) (code recoveryCode : Option String)
  /-- About to write back the recovery codes that are left. -/
  | spendRecovery (user : Person) (remaining : List String) (hash : String)
  /-- `refresh`, about to look the token up. -/
  | validate (number : Nat)
  /-- About to look its account up. -/
  | readUser (token : SessionToken)
  /-- About to revoke the token. -/
  | rotate (user : Person) (token : SessionToken)
  /-- About to store a new token. -/
  | issue (user : Person) (via : Via)
  /-- `logout`. -/
  | revoke (number : Nat)
  /-- `requestOtp` or `verifyOtp`. -/
  | otp (call : OtpCall)
  /-- `verifyInvite`, about to look the driver up. -/
  | findInvitee (session : Option OtpSession) (inviteCode : String)
  | findInvite (session : OtpSession) (user : Person) (inviteCode : String)
  /-- About to mark the invite used. -/
  | redeem (session : OtpSession) (user : Person) (invite : Invite)
  | findVehicle (session : OtpSession) (user : Person)
  /-- `setPin`, about to look the driver up. -/
  | readOnboarding (session : Option OtpSession) (pin : String)
  | storePin (user : Person) (pin : String)
  | auditPin (user : Person)
  /-- `loginPin`, about to look the driver up. -/
  | readPin (session : Option OtpSession) (pin : String)
  /-- `changePassword`, about to look the account up. -/
  | readPassword (username currentPassword newPassword : String)
  | storePassword (ending : Revocation) (newPassword : String)
  /-- About to revoke every token of the account: the last statement. -/
  | revokeOwn (ending : Revocation)
  /-- `revokeUserSessions`, about to look the account up. -/
  | readOwner (id : Nat)
  /-- `updateUserStatus`, about to look the account up. -/
  | readTarget (requester : Requester) (id : Nat) (status : Decision)
  | countOthers (user : Person) (ending : Revocation)
  | storeStatus (user : Person) (status : Decision) (ending : Revocation)
  /-- About to revoke every token of an account, for an administrator. -/
  | revokeAll (ending : Revocation) (response : SessionResponse)
  /-- About to write to the audit log, with a revocation behind it or none. -/
  | audit (ended : Option Revocation) (response : SessionResponse)
  | done (response : SessionResponse)
  /-- The process has stopped. -/
  | stopped

/-- What a statement is answered with, and what is drawn meanwhile. -/
structure SessionAnswer extends OtpAnswer where
  /-- What a driver has been given to drive. -/
  vehicle : Option InvitedTo := none
  deriving DecidableEq

/-- A request to one of the endpoints. -/
inductive SessionEntry where
  | login (username password : Option String)
  | verifyMfaLogin (mfaSessionToken : Option Jwt) (code recoveryCode : Option String)
  | refresh (refreshToken : Option Nat)
  | logout (refreshToken : Option Nat)
  | requestOtp (phoneNumber : String)
  | verifyOtp (phoneNumber code : String)
  | verifyInvite (otpSessionToken : Option OtpSession) (inviteCode : String)
  | setPin (otpSessionToken : Option OtpSession) (pin : String)
  | loginPin (otpSessionToken : Option OtpSession) (pin : String)
  | changePassword (username : String) (currentPassword newPassword : Option String)
  | revokeUserSessions (id : Nat)
  | updateUserStatus (requester : Requester) (id : Nat) (status : Option String)
  deriving DecidableEq

/-- A failure, sent. -/
def refused (failure : Failure) : SessionCall := .done (.failed failure)

/-- `/^\d{4}$/`. -/
def fourDigits (pin : String) : Bool := pin.toList.length = 4 && pin.toList.all Char.isDigit

/-- What `changePassword` refuses before it asks the database. -/
def checkPasswords (currentPassword newPassword : Option String) : Except Failure (String × String) := do
  let currentPassword ← demand (currentPassword.filter fun password => password ≠ "")
    ⟨400, "AUTH_CURRENT_PASSWORD_REQUIRED", "Current password is required."⟩
  let newPassword ← demand (newPassword.filter fun password => 8 ≤ password.toList.length && password.toList.length ≤ 128)
    ⟨400, "AUTH_INVALID_PASSWORD", "New password must be 8 to 128 characters long."⟩
  return (currentPassword, newPassword)

/-- An endpoint up to its first statement. -/
def SessionEntry.start (ext : SessionExternals) : SessionEntry → SessionCall
  | .login username password =>
    match validateLoginPayload username password with
    | .error failure => refused failure
    | .ok (username, password) => .findUser username password
  | .verifyMfaLogin mfaSessionToken code recoveryCode => .readFactor mfaSessionToken code recoveryCode
  | .refresh none => refused ⟨400, "AUTH_REFRESH_TOKEN_REQUIRED", "refreshToken is required."⟩
  | .refresh (some number) => .validate number
  -- Without a token there is nothing to revoke, and the answer is the same.
  | .logout none => .done (.done "Logged out.")
  | .logout (some number) => .revoke number
  | .requestOtp phoneNumber => .otp (OtpEntry.start ext.otp (.requestOtp phoneNumber))
  | .verifyOtp phoneNumber code => .otp (OtpEntry.start ext.otp (.verifyOtp phoneNumber code))
  | .verifyInvite otpSessionToken inviteCode =>
    .findInvitee otpSessionToken (ext.toUpperCase (String.ofList (trim inviteCode.toList)))
  | .setPin otpSessionToken pin => .readOnboarding otpSessionToken pin
  | .loginPin otpSessionToken pin => .readPin otpSessionToken pin
  | .changePassword username currentPassword newPassword =>
    match checkPasswords currentPassword newPassword with
    | .error failure => refused failure
    | .ok (currentPassword, newPassword) => .readPassword username currentPassword newPassword
  | .revokeUserSessions id => .readOwner id
  | .updateUserStatus requester id status =>
    match decision status with
    | none => refused ⟨400, "ADMIN_USER_STATUS_INVALID", "Status must be 'suspended' or 'approved'."⟩
    | some status => .readTarget requester id status

/-- What a handler answers when a statement of its throws. -/
def SessionCall.caught : SessionCall → SessionCall
  | .findUser _ _ => refused ⟨500, "AUTH_LOGIN_FAILED", "Login failed."⟩
  | .readFactor .. | .spendRecovery .. => refused ⟨500, "AUTH_MFA_VERIFY_FAILED", "Could not verify MFA code."⟩
  | .validate _ | .readUser _ | .rotate .. => refused ⟨500, "AUTH_REFRESH_FAILED", "Could not refresh session."⟩
  -- A token is issued at the end of five endpoints, and each answers in its own words.
  | .issue _ via =>
    match via with
    | .login => refused ⟨500, "AUTH_LOGIN_FAILED", "Login failed."⟩
    | .mfa => refused ⟨500, "AUTH_MFA_VERIFY_FAILED", "Could not verify MFA code."⟩
    | .pinSet => refused ⟨500, "DRIVER_AUTH_PIN_SET_FAILED", "Could not save your PIN."⟩
    | .pinLogin => refused ⟨500, "DRIVER_AUTH_PIN_LOGIN_ERROR", "Could not sign you in."⟩
    | .exchange .. => refused ⟨500, "AUTH_REFRESH_FAILED", "Could not refresh session."⟩
  | .revoke _ => refused ⟨500, "AUTH_LOGOUT_FAILED", "Logout failed."⟩
  | .findInvitee .. | .findInvite .. | .redeem .. | .findVehicle .. =>
    refused ⟨500, "DRIVER_AUTH_INVITE_VERIFY_FAILED", "Could not verify invite code."⟩
  | .readOnboarding .. | .storePin .. => refused ⟨500, "DRIVER_AUTH_PIN_SET_FAILED", "Could not save your PIN."⟩
  | .readPin .. => refused ⟨500, "DRIVER_AUTH_PIN_LOGIN_ERROR", "Could not sign you in."⟩
  | .readPassword .. | .storePassword .. | .revokeOwn _ =>
    refused ⟨500, "AUTH_PASSWORD_CHANGE_FAILED", "Failed to update password."⟩
  | .readOwner _ => refused ⟨500, "ADMIN_REVOKE_SESSIONS_FAILED", "Failed to revoke sessions."⟩
  | .readTarget .. | .countOthers .. | .storeStatus .. =>
    refused ⟨500, "ADMIN_USER_STATUS_FAILED", "Could not change that account."⟩
  | .revokeAll _ (.statusSet ..) => refused ⟨500, "ADMIN_USER_STATUS_FAILED", "Could not change that account."⟩
  | .revokeAll .. => refused ⟨500, "ADMIN_REVOKE_SESSIONS_FAILED", "Failed to revoke sessions."⟩
  | call => call

/-- A PIN may be set once after an invite, and again once an administrator has reset it. -/
def maySetPin (session : OtpSession) (user : Person) : Bool :=
  (session.inviteVerified && user.onboardingCompletedAt.isNone) ||
    (user.onboardingCompletedAt.isSome && user.pinHash.isNone)

/-- What a session that expired between its steps is answered with. -/
def sessionExpired : SessionCall :=
  refused ⟨401, "DRIVER_AUTH_SESSION_INVALID", "Your session expired. Start again."⟩

/-- What a phone nobody has registered is answered with. -/
def phoneNotRegistered : SessionCall :=
  refused ⟨404, "DRIVER_AUTH_PHONE_NOT_REGISTERED", "Your number must be registered with dispatch."⟩

/-- `login`, from the row that was found. -/
def afterUser (ext : SessionExternals) (now : Nat) (password : String) (found : Option Person) : SessionCall :=
  let invalid := refused ⟨401, "AUTH_INVALID_CREDENTIALS", "Invalid username or password"⟩
  match found with
  | none => invalid
  | some user =>
    match user.passwordHash with
    | none => refused ⟨500, "AUTH_LOGIN_FAILED", "Login failed."⟩
    | some hash =>
      if !ext.compare password hash then invalid
      -- The password comes first, so a stranger is not told how the account stands.
      else match statusProblem user.status with
        | some failure => refused failure
        | none =>
          if user.totpEnabledAt.isSome then .done (.mfaRequired (signMfaSessionToken now user.username))
          else .issue user .login

/-- `verifyMfaLogin`, from the row that was found: a recovery code is looked at before a code. -/
def afterFactor (ext : SessionExternals) (now : Nat) (code recoveryCode : Option String) (found : Option Person) :
    SessionCall :=
  let notEnabled := refused ⟨401, "AUTH_MFA_NOT_ENABLED", "MFA is no longer enabled on this account."⟩
  match found with
  | none => notEnabled
  | some user =>
    match user.totpSecret with
    | none => notEnabled
    | some secret =>
      match recoveryCode.filter fun recoveryCode => recoveryCode ≠ "" with
      | some recoveryCode =>
        match consumeRecoveryCode ext.toExternals user.totpRecoveryCodeHashes recoveryCode with
        | none =>
          refused ⟨401, "AUTH_MFA_RECOVERY_CODE_INVALID", "That recovery code is invalid or already used."⟩
        | some remaining =>
          .spendRecovery user remaining (ext.hashCode (canonicalizeRecoveryCode ext.toExternals recoveryCode))
      | none =>
        -- Without a usable key no stored secret can be read.
        if ext.totpKey ≠ .usable then refused ⟨500, "AUTH_MFA_VERIFY_FAILED", "Could not verify MFA code."⟩
        else if verifyTotpCode ext.toExternals secret code now then .issue user .mfa
        else refused ⟨401, "AUTH_MFA_CODE_INVALID", "Incorrect code."⟩

/-- `setPin`, from the row that was found. The status is not looked at. -/
def afterOnboarding (session : OtpSession) (pin : String) (found : Option Person) : SessionCall :=
  match found with
  | none => phoneNotRegistered
  | some user =>
    if maySetPin session user then .storePin user pin
    else refused ⟨403, "DRIVER_AUTH_INVITE_REQUIRED", "Verify your invite code first."⟩

/-- `loginPin`, from the row that was found. -/
def afterPin (ext : SessionExternals) (pin : String) (found : Option Person) : SessionCall :=
  let incorrect := refused ⟨401, "DRIVER_AUTH_PIN_LOGIN_FAILED", "Incorrect PIN."⟩
  match found with
  | none => incorrect
  | some user =>
    match user.pinHash with
    | none => incorrect
    | some pinHash =>
      if !ext.compare pin pinHash then incorrect
      -- Only who knows the PIN is told that the account is suspended.
      else if user.status = .suspended then
        refused ⟨403, "DRIVER_AUTH_ACCOUNT_SUSPENDED", "This account has been suspended. Contact dispatch."⟩
      else .issue user .pinLogin

/-- `updateUserStatus`, from the row that was found. -/
def afterTarget (requester : Requester) (status : Decision) (serial : Nat) (found : Option Person) : SessionCall :=
  match found with
  | none => refused ⟨404, "ADMIN_USER_NOT_FOUND", "That account no longer exists."⟩
  | some user =>
    let ending : Revocation := { username := user.username, before := serial }
    -- Nobody suspends their own account, and the last administrator is counted.
    if status = .suspended && user.username = requester.username then
      refused ⟨400, "ADMIN_USER_SELF_SUSPEND", "You cannot suspend your own account."⟩
    else if status = .suspended && user.role = .admin then .countOthers user ending
    else .storeStatus user status ending

/-- `changePassword`, from the row that was found. -/
def afterPassword (ext : SessionExternals) (username currentPassword newPassword : String) (serial : Nat)
    (found : Option Person) : SessionCall :=
  match found with
  | none => refused ⟨401, "AUTH_ACCOUNT_NOT_FOUND", "Account no longer exists."⟩
  | some user =>
    match user.passwordHash with
    | none => refused ⟨500, "AUTH_PASSWORD_CHANGE_FAILED", "Failed to update password."⟩
    | some hash =>
      -- The sessions up to this serial are those to be ended.
      if ext.compare currentPassword hash then .storePassword { username := username, before := serial } newPassword
      else refused ⟨401, "AUTH_CURRENT_PASSWORD_INVALID", "Current password is incorrect."⟩

/-- The statement a request is at when it works, and where the request goes from there. -/
def SessionCall.proceed (ext : SessionExternals) (store : SessionStore) (answer : SessionAnswer) :
    SessionCall → SessionStatement × SessionCall
  | .findUser username password =>
    (.nothing, afterUser ext store.now password (store.users.find? username))
  | .readFactor mfaSessionToken code recoveryCode =>
    (.nothing, match verifyMfaSessionToken store.now mfaSessionToken with
      | none => refused ⟨401, "AUTH_MFA_SESSION_INVALID", "Session expired — please log in again."⟩
      | some session =>
        if answer.fails then (SessionCall.readFactor mfaSessionToken code recoveryCode).caught
        else afterFactor ext store.now code recoveryCode (store.users.find? session.username))
  | .spendRecovery user remaining hash => (.writeRecovery user.username remaining hash, .issue user .mfa)
  | .validate number =>
    (.nothing, match store.validToken number with
      | none => refused ⟨401, "AUTH_REFRESH_TOKEN_INVALID", "Refresh token is invalid, expired, or revoked."⟩
      | some token => .readUser token)
  | .readUser token =>
    -- The status is not looked at.
    (.nothing, match store.users.find? token.username with
      | none => refused ⟨401, "AUTH_REFRESH_USER_NOT_FOUND", "Account no longer exists."⟩
      | some user => .rotate user token)
  | .rotate user token => (.rotate token.number, .issue user (.exchange token.number token.session))
  | .issue user via =>
    (.insertToken user.username via,
      .done (.session (signAccessToken store.now user.toAccount) store.serial user.role))
  | .revoke number => (.revoke number, .done (.done "Logged out."))
  | .otp call =>
    ((call.next ext.otp store.otpStore answer.toOtpAnswer).map .otp fun call =>
      match call with
      | .done response => .done (.otp response)
      | call => .otp call)
  | .findInvitee session inviteCode =>
    (.nothing, match verifyOtpSessionToken store.now session with
      | none => sessionExpired
      | some session =>
        if inviteCode = "" then sessionExpired
        else if answer.fails then (SessionCall.findInvitee session inviteCode).caught
        else match store.driverOn session.phone with
          | none => phoneNotRegistered
          | some user => .findInvite session user inviteCode)
  | .findInvite session user inviteCode =>
    (.nothing, match (store.openInvite user.id).filter fun invite =>
        ext.otp.hashCode inviteCode = invite.inviteCodeHash with
      | none => refused ⟨401, "DRIVER_AUTH_INVITE_INVALID", "That code is incorrect or has expired."⟩
      | some invite => .redeem session user invite)
  | .redeem session user invite => (.redeem invite.id, .findVehicle session user)
  | .findVehicle session user =>
    (.nothing, .done (.invited
      { phone := session.phone, inviteVerified := true, expiresAt := store.now + otpSessionTtl }
      user.staffId user.fullName answer.vehicle))
  | .readOnboarding session pin =>
    (.nothing, match verifyOtpSessionToken store.now session with
      | none => sessionExpired
      | some session =>
        if !fourDigits pin then refused ⟨400, "DRIVER_AUTH_INVALID_PIN", "A 4-digit PIN is required."⟩
        else if answer.fails then (SessionCall.readOnboarding session pin).caught
        else afterOnboarding session pin (store.driverOn session.phone))
  | .storePin user pin => (.setPin user.id (ext.hash store.serial pin), .auditPin user)
  | .auditPin user => (.nothing, .issue user .pinSet)
  | .readPin session pin =>
    (.nothing, match verifyOtpSessionToken store.now session with
      | none => sessionExpired
      | some session =>
        if !fourDigits pin then refused ⟨400, "DRIVER_AUTH_INVALID_PIN", "A 4-digit PIN is required."⟩
        else if answer.fails then (SessionCall.readPin session pin).caught
        else afterPin ext pin (store.driverOn session.phone))
  | .readPassword username currentPassword newPassword =>
    (.nothing, afterPassword ext username currentPassword newPassword store.serial (store.users.find? username))
  | .storePassword ending newPassword =>
    (.setPassword ending.username (ext.hash store.serial newPassword), .revokeOwn ending)
  | .revokeOwn ending => (.revokeAll ending true, .done (.done "Password updated successfully."))
  | .readOwner id =>
    (.nothing, match store.userOf id with
      | none => refused ⟨404, "ADMIN_USER_NOT_FOUND", "User not found."⟩
      | some user => .revokeAll { username := user.username, before := store.serial }
        (.done ("All active sessions revoked for " ++ user.username ++ ".")))
  | .readTarget requester id status => (.nothing, afterTarget requester status store.serial (store.userOf id))
  | .countOthers user ending =>
    (.nothing,
      if store.otherAdmins user.id = 0 then
        refused ⟨400, "ADMIN_USER_LAST_ADMIN",
          "This is the only active admin — promote another before suspending this one."⟩
      else .storeStatus user .suspended ending)
  | .storeStatus user status ending =>
    (.setStatus user.id status.status,
      if status = .suspended then .revokeAll ending (.statusSet user.id user.username status)
      else .audit none (.statusSet user.id user.username status))
  | .revokeAll ending response => (.revokeAll ending false, .audit (some ending) response)
  -- A failure to write to the audit log is swallowed.
  | .audit ended response => (.audit ended, .done response)
  | .done response => (.nothing, .done response)
  | .stopped => (.nothing, .stopped)

/-- The statement a request is at, and where the request goes from there. -/
def SessionCall.next (ext : SessionExternals) (store : SessionStore) (answer : SessionAnswer) (call : SessionCall) :
    SessionStatement × SessionCall :=
  match call with
  -- These see to their failures themselves, or send no statement before they have looked at the request.
  | .otp _ | .audit .. | .auditPin _ | .done _ | .stopped | .readFactor .. | .findInvitee .. | .readOnboarding ..
  | .readPin .. => call.proceed ext store answer
  | _ => if answer.fails then (.nothing, call.caught) else call.proceed ext store answer

/-- Every endpoint at once, with every statement a transaction of its own. -/
def sessionSystem (ext : SessionExternals) :
    CallSystem SessionStore SessionStatement SessionEntry SessionCall SessionAnswer SessionOutside Empty where
  start := SessionEntry.start ext
  next := SessionCall.next ext
  execute := fun statement store => statement.execute store
  -- Nothing is locked between two statements.
  holds := fun _ => []
  needs := fun _ => []
  outside := fun event store => event.happen store
  outsideNeeds := fun _ => []
  stopped := .stopped

/-- Requests in flight. -/
abbrev SessionPool := Pool SessionStore SessionCall

/-- What can happen next. -/
abbrev SessionEvent := PoolEvent SessionEntry SessionAnswer SessionOutside


end Freight.Auth
