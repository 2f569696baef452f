import Freight.Dispatch.Board
import Freight.Library.Checks

/-! Accounts, the tokens that stand for them, and the second factor of a login. -/

namespace Freight.Auth

open Dispatch (Role UserStatus)

/-- What `fail` sends. -/
structure Failure where
  status : Nat
  code : String
  message : String
  deriving DecidableEq

/-- `purpose`: the claim of a token that is for one step of a login only. -/
inductive Purpose where
  | mfaPending
  | driverOtpSession
  deriving DecidableEq

/-- The claims of a token. -/
structure Claims where
  username : String
  role : Option Role := none
  purpose : Option Purpose := none
  expiresAt : Nat
  deriving DecidableEq

/-- A token as it is presented: signed under `JWT_SECRET`, or not. -/
inductive Jwt where
  | signed (claims : Claims)
  | forged
  deriving DecidableEq

/-- What was signed. -/
def Jwt.claims : Jwt → Option Claims
  | .signed claims => some claims
  | .forged => none

/-- `jwt.verify`. -/
def Jwt.verify (now : Nat) (token : Jwt) : Option Claims :=
  token.claims.filter fun claims => now < claims.expiresAt

/-- A row of `users`. -/
structure Account where
  username : String
  /-- Drivers who sign in with a PIN have none. -/
  passwordHash : Option String
  role : Role
  status : UserStatus := .approved
  totpSecret : Option String := none
  totpPendingSecret : Option String := none
  totpEnabledAt : Option Nat := none
  totpRecoveryCodeHashes : Option (List String) := none
  deriving DecidableEq

/-- A row of `refresh_tokens`. Each token that was drawn is a number of its own. -/
structure RefreshToken where
  number : Nat
  username : String
  expiresAt : Nat
  revokedAt : Option Nat := none
  deriving DecidableEq

/-- What the auth endpoints store. Times are in seconds. -/
structure AuthStore where
  users : Table Account Account.username
  refreshTokens : List RefreshToken := []
  now : Nat := 0
  /-- What is drawn at random is drawn under this number, and is above every number in use. -/
  serial : Nat := 0

/-- `TOTP_ENCRYPTION_KEY`. -/
inductive TotpKey where
  | missing
  /-- It does not decode to 32 bytes. -/
  | malformed
  | usable
  deriving DecidableEq

/-- What the endpoints take from elsewhere: bcrypt, otplib, the hash function and the random draws. -/
structure Externals where
  /-- `bcrypt.compare`. -/
  compare : (password hash : String) → Bool
  /-- `bcrypt.hash`, with a salt drawn under a number. -/
  hash : (draw : Nat) → (password : String) → String
  /-- `generateSecret`. -/
  generateSecret : (draw : Nat) → String
  /-- `verify`: a code that the secret gives about now. -/
  verify : (secret token : String) → (now : Nat) → Bool
  /-- The ten codes of `generateRecoveryCodes`, without their hyphens. -/
  recoveryCodes : (draw : Nat) → List String
  /-- `hashCode`. -/
  hashCode : String → String
  /-- `toUpperCase`. -/
  toUpperCase : String → String
  totpKey : TotpKey := .usable

/-- `ACCESS_TOKEN_TTL`. -/
def accessTokenTtl : Nat := 15 * 60

/-- `MFA_SESSION_TTL`. -/
def mfaSessionTtl : Nat := 5 * 60

/-- `REFRESH_TOKEN_TTL_DAYS`, in seconds. -/
def refreshTokenTtl : Nat := 30 * 24 * 60 * 60

/-- `signAccessToken`. -/
def signAccessToken (now : Nat) (user : Account) : Jwt :=
  .signed { username := user.username, role := some user.role, expiresAt := now + accessTokenTtl }

/-- `signMfaSessionToken`. -/
def signMfaSessionToken (now : Nat) (username : String) : Jwt :=
  .signed { username := username, purpose := some .mfaPending, expiresAt := now + mfaSessionTtl }

/-- `verifyMfaSessionToken`. -/
def verifyMfaSessionToken (now : Nat) (token : Option Jwt) : Option Claims :=
  (token.bind (Jwt.verify now)).filter fun claims => claims.purpose = some .mfaPending

/-- `authMiddleware`. -/
def authMiddleware (now : Nat) (allowedRoles : List Role) (token : Option Jwt) : Except Failure Claims := do
  let token ← demand token ⟨401, "AUTH_TOKEN_MISSING", "Access denied. Security token is missing."⟩
  let claims ← demand (token.verify now) ⟨401, "AUTH_INVALID_TOKEN", "Session expired or invalid token."⟩
  -- Without a list of roles, whatever was signed is let through.
  require (allowedRoles.isEmpty || claims.role.any allowedRoles.contains)
    ⟨403, "AUTH_FORBIDDEN", "Access forbidden. Insufficient clearance level."⟩
  return claims

/-- `verifyTotpCode`: six digits, that the secret gives about now. -/
def verifyTotpCode (ext : Externals) (secret : String) (token : Option String) (now : Nat) : Bool :=
  token.any fun token =>
    token.toList.length = 6 && token.toList.all Char.isDigit && ext.verify secret token now

/-- `canonicalizeRecoveryCode`. -/
def canonicalizeRecoveryCode (ext : Externals) (code : String) : String :=
  String.ofList ((ext.toUpperCase code).toList.filter fun char => char.isUpper || char.isDigit)

/-- `consumeRecoveryCode`: the hashes that are left, if the code is one of them. -/
def consumeRecoveryCode (ext : Externals) (storedHashes : Option (List String)) (suppliedCode : String) :
    Option (List String) :=
  let suppliedHash := ext.hashCode (canonicalizeRecoveryCode ext suppliedCode)
  match storedHashes with
  | none => none
  | some hashes => if hashes.contains suppliedHash then some (hashes.erase suppliedHash) else none

/-- `display`: a recovery code as it is shown. -/
def displayRecoveryCode (code : String) : String :=
  String.ofList (code.toList.take 4) ++ "-" ++ String.ofList (code.toList.drop 4)

namespace AuthStore

variable (store : AuthStore)

/-- `UPDATE users SET … WHERE username = …`. -/
def updateUser (username : String) (change : Account → Account)
    (keeps : ∀ user, (change user).username = user.username) : AuthStore :=
  { store with users := store.users.update username change keeps }

/-- `issueRefreshToken`, after which its number is in use. -/
def issueRefreshToken (username : String) : AuthStore :=
  { store with
    serial := store.serial + 1
    refreshTokens := store.refreshTokens ++ [{
      number := store.serial, username := username, expiresAt := store.now + refreshTokenTtl }] }

/-- `validateRefreshToken`. -/
def validateRefreshToken (number : Nat) : Option String :=
  (store.refreshTokens.find? fun row =>
    row.number = number && row.revokedAt.isNone && store.now < row.expiresAt).map RefreshToken.username

/-- `revokeRefreshToken`. -/
def revokeRefreshToken (number : Nat) : AuthStore :=
  { store with refreshTokens := store.refreshTokens.map fun row =>
      if row.number = number then { row with revokedAt := some store.now } else row }

/-- `revokeAllRefreshTokensForUser`. -/
def revokeAllRefreshTokensForUser (username : String) : AuthStore :=
  { store with refreshTokens := store.refreshTokens.map fun row =>
      if row.username = username ∧ row.revokedAt = none then { row with revokedAt := some store.now } else row }

end AuthStore

end Freight.Auth
