import Freight.Auth.Administration
import Freight.Auth.Otp

/-! What sessions are begun with and carried on by: accounts, tokens, codes and invites, and each statement on them. -/

namespace Freight.Auth

open Dispatch (Role UserStatus)

/-- A row of `users`, with the columns of the sign-in by phone. -/
structure Person extends Account where
  id : Nat
  phoneNumber : Option String := none
  pinHash : Option String := none
  onboardingCompletedAt : Option Nat := none
  staffId : Option String := none
  fullName : Option String := none
  deriving DecidableEq

/-- A row of `refresh_tokens`. -/
structure SessionToken extends RefreshToken where
  /-- The number of the first token of its session. Not a column: it tells which sign-in a token goes back to. -/
  session : Nat
  /-- It was revoked by being exchanged. Not a column either. -/
  rotated : Bool := false
  deriving DecidableEq

/-- A row of `driver_invites`. -/
structure Invite where
  id : Nat
  userId : Nat
  inviteCodeHash : String
  expiresAt : Nat
  createdAt : Nat
  usedAt : Option Nat := none
  deriving DecidableEq

/-- A PIN is set, and the first one ends the onboarding. -/
def Person.pinned (pinHash : String) (now : Nat) (user : Person) : Person :=
  { user with pinHash := some pinHash, onboardingCompletedAt := user.onboardingCompletedAt.or (some now) }

/-- The PIN is taken away, and the onboarding stays completed. -/
def Person.unpinned (user : Person) : Person := { user with pinHash := none }

/-- The status is set. -/
def Person.withStatus (status : UserStatus) (user : Person) : Person :=
  -- The tokens of the account are no column of it.
  { user with status := status }

/-- The invite is marked used. -/
def Invite.used (now : Nat) (row : Invite) : Invite := { row with usedAt := some now }

/-- None of these changes the key of a row. -/
theorem Person.pinned_username (pinHash : String) (now : Nat) (user : Person) :
    (user.pinned pinHash now).username = user.username := rfl

/-- Nor does a PIN that is taken off. -/
theorem Person.unpinned_username (user : Person) : user.unpinned.username = user.username := rfl

/-- Nor does a new status. -/
theorem Person.withStatus_username (status : UserStatus) (user : Person) :
    (user.withStatus status).username = user.username := rfl

/-- Nor does an invite that is used up. -/
theorem Invite.used_id (now : Nat) (row : Invite) : (row.used now).id = row.id := rfl

/-- Which sessions of an account an administrator, or its owner, set out to end: those there were before a number. -/
structure Revocation where
  username : String
  before : Nat
  deriving DecidableEq

/-- What the endpoints read and write. Times are in seconds. -/
structure SessionStore where
  users : Table Person fun user => user.username
  tokens : List SessionToken := []
  codes : Table OtpCode OtpCode.id := .empty
  invites : Table Invite Invite.id := .empty
  now : Nat := 0
  /-- Above every number drawn. -/
  serial : Nat := 0
  /-- Written down for the proofs, as everything below; no code reads it. The tokens that were exchanged. -/
  exchanged : List Nat := []
  /-- The recovery codes that were accepted, by their hashes. -/
  accepted : List (String × String) := []
  otpNotes : List OtpNote := []
  /-- The invites that were redeemed. -/
  redeemed : List Nat := []
  /-- The revocations whose tokens have been revoked. -/
  swept : List Revocation := []
  /-- Those that have been answered with success. -/
  returned : List Revocation := []

/-- By which way a session is issued its tokens. -/
inductive Via where
  | login
  | mfa
  | pinSet
  | pinLogin
  /-- A token was exchanged, of a session. -/
  | exchange (number session : Nat)
  deriving DecidableEq

/-- A statement on its way to the database. -/
inductive SessionStatement where
  /-- It reads, or writes another table, or fails. -/
  | nothing
  | otp (statement : OtpStatement)
  /-- The whole array of hashes is written, whatever it was. -/
  | writeRecovery (username : String) (remaining : List String) (hash : String)
  /-- `revoked_at = NOW()`, whatever it was, on logout. -/
  | revoke (number : Nat)
  /-- The same, of a token that is being exchanged. -/
  | rotate (number : Nat)
  | insertToken (username : String) (via : Via)
  /-- `used_at = NOW()`, whatever it was. -/
  | redeem (id : Nat)
  | setPin (id : Nat) (pinHash : String)
  | setPassword (username : String) (passwordHash : String)
  | setStatus (id : Nat) (status : UserStatus)
  /-- Every token of an account that is not revoked is revoked; this may be the last statement. -/
  | revokeAll (ending : Revocation) (last : Bool)
  /-- The audit log. -/
  | audit (ended : Option Revocation)

/-- What else happens to the same rows. -/
inductive SessionOutside where
  | wait (elapsed : Nat)
  /-- `inviteDriver`: a driver's outstanding invites are marked used, and a new one is stored. -/
  | inviteDriver (userId : Nat) (inviteCodeHash : String) (expiresAt : Nat)
  | resetDriverPin (id : Nat)
  deriving DecidableEq

namespace SessionStore

variable (store : SessionStore)

/-- `WHERE phone_number = … AND role = 'driver'`. -/
def driverOn (phone : String) : Option Person :=
  store.users.rows.find? fun user => user.phoneNumber = some phone && user.role = .driver

/-- `WHERE id = …`. -/
def userOf (id : Nat) : Option Person := store.users.rows.find? fun user => user.id = id

/-- The row `validateRefreshToken` finds. -/
def validToken (number : Nat) : Option SessionToken :=
  store.tokens.find? fun row => row.number = number && row.revokedAt.isNone && store.now < row.expiresAt

/-- The newest invite of a driver's that is neither used nor expired; of those made at one instant, the first. -/
def openInvite (userId : Nat) : Option Invite :=
  firstBy (fun one other => other.createdAt ≤ one.createdAt)
    (store.invites.rows.filter fun row => row.userId = userId && row.usedAt.isNone && store.now < row.expiresAt)

/-- What the endpoints for one-time codes see of it. -/
def otpStore : OtpStore where
  drivers := store.users.rows.filterMap fun user =>
    -- Only drivers with a phone number are known to those endpoints.
    if user.role = .driver then user.phoneNumber.map fun phone =>
      { phoneNumber := phone, onboardingCompletedAt := user.onboardingCompletedAt, pinHash := user.pinHash }
    else none
  codes := store.codes
  now := store.now
  notes := store.otpNotes

/-- The administrators in force beside one account. -/
def otherAdmins (id : Nat) : Nat :=
  store.users.rows.countP fun user => user.role = .admin && user.status = .approved && user.id ≠ id

end SessionStore

/-- The token a session is issued. -/
def SessionStore.newToken (store : SessionStore) (username : String) (via : Via) : SessionToken where
  number := store.serial
  username := username
  expiresAt := store.now + refreshTokenTtl
  session := match via with
    | .exchange _ session => session
    | _ => store.serial

/-- What a statement does to the store. -/
def SessionStatement.execute (store : SessionStore) : SessionStatement → SessionStore
  | .nothing => store
  | .otp statement =>
    let after := statement.execute store.otpStore
    { store with codes := after.codes, otpNotes := after.notes }
  | .writeRecovery username remaining hash =>
    { store with
      users := store.users.update username (fun user => { user with totpRecoveryCodeHashes := some remaining })
        fun _ => rfl
      accepted := store.accepted ++ [(username, hash)] }
  | .revoke number =>
    { store with tokens := store.tokens.map fun row =>
        if row.number = number then { row with revokedAt := some store.now } else row }
  -- A token is marked as rotated and revoked at once.
  | .rotate number =>
    { store with tokens := store.tokens.map fun row =>
        if row.number = number then { row with revokedAt := some store.now, rotated := true } else row }
  | .insertToken username via =>
    { store with
      tokens := store.tokens ++ [store.newToken username via]
      serial := store.serial + 1
      exchanged := match via with
        | .exchange number _ => store.exchanged ++ [number]
        | _ => store.exchanged }
  | .redeem id =>
    { store with
      invites := store.invites.update id (Invite.used store.now) (Invite.used_id store.now)
      redeemed := store.redeemed ++ [id] }
  | .setPin id pinHash =>
    { store with
      users := store.users.updateWhere (fun user => user.id = id) (Person.pinned pinHash store.now)
        (Person.pinned_username pinHash store.now)
      serial := store.serial + 1 }
  | .setPassword username passwordHash =>
    { store with
      users := store.users.update username (fun user => { user with passwordHash := some passwordHash }) fun _ => rfl
      serial := store.serial + 1 }
  | .setStatus id status =>
    { store with
      users := store.users.updateWhere (fun user => user.id = id) (Person.withStatus status)
        (Person.withStatus_username status) }
  -- Those that are revoked already keep the time they have.
  | .revokeAll ending last =>
    { store with
      tokens := store.tokens.map fun row =>
        if row.username = ending.username ∧ row.revokedAt = none then { row with revokedAt := some store.now } else row
      swept := store.swept ++ [ending]
      returned := if last then store.returned ++ [ending] else store.returned }
  | .audit ended => { store with returned := store.returned ++ ended.toList }

/-- What an outside event does to the store. -/
def SessionOutside.happen (store : SessionStore) : SessionOutside → SessionStore
  | .wait elapsed => { store with now := store.now + elapsed }
  -- A new invitation spends those still open, and is stored behind them.
  | .inviteDriver userId inviteCodeHash expiresAt =>
    let spent := store.invites.updateWhere (fun row => row.userId = userId && row.usedAt.isNone)
      (Invite.used store.now) (Invite.used_id store.now)
    { store with
      invites := spent.insert (fun id => {
        id := id, userId := userId, inviteCodeHash := inviteCodeHash, expiresAt := expiresAt
        createdAt := store.now }) fun _ => rfl }
  | .resetDriverPin id =>
    { store with
      users := store.users.updateWhere (fun user => user.id = id && user.role = .driver) Person.unpinned
        Person.unpinned_username }

end Freight.Auth
