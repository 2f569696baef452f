import Freight.Auth.Endpoints
import Freight.Library.OrderBy
import Freight.Library.Pool

/-! One-time codes for a driver's phone: `requestOtp` and `verifyOtp`, a statement at a time. -/

namespace Freight.Auth

/-- A row of `otp_codes`. -/
structure OtpCode where
  id : Nat
  phoneNumber : String
  codeHash : String
  expiresAt : Nat
  createdAt : Nat
  attempts : Nat := 0
  consumedAt : Option Nat := none
  smsStatus : Option String := none
  deriving DecidableEq

/-- What the sign-in by phone reads of a driver's row in `users`. -/
structure PhoneDriver where
  phoneNumber : String
  onboardingCompletedAt : Option Nat := none
  pinHash : Option String := none
  deriving DecidableEq

/-- What has happened to the codes, written down for the proofs; no code reads it. -/
inductive OtpNote where
  /-- A code was compared with the one that was issued under an id. -/
  | compared (id : Nat) (right : Bool)
  /-- The code under an id verified, spent already or not. -/
  | verified (id : Nat) (spent : Bool)
  deriving DecidableEq

/-- What the two endpoints read and write. Times are in seconds. -/
structure OtpStore where
  drivers : List PhoneDriver := []
  codes : Table OtpCode OtpCode.id := .empty
  now : Nat := 0
  notes : List OtpNote := []

/-- What the endpoints take from elsewhere. -/
structure OtpExternals where
  /-- `normalizePhone`, by libphonenumber. -/
  normalizePhone : String → Option String
  /-- `hashCode`. -/
  hashCode : String → String
  /-- `APP_REVIEW_DEMO_PHONE` and `APP_REVIEW_DEMO_OTP`, where both are usable. -/
  reviewDemo : Option (String × String) := none

/-- `OTP_TTL_MINUTES`, in seconds. -/
def otpTtl : Nat := 5 * 60

/-- `OTP_MAX_ATTEMPTS`. -/
def otpMaxAttempts : Nat := 5

/-- What a request is answered with. -/
inductive OtpResponse where
  | accepted (smsSent : Bool)
  /-- `otpSessionToken` carries the phone. -/
  | verified (returning needsPinReset : Bool) (phone : String)
  | failed (failure : Failure)
  deriving DecidableEq

/-- `ORDER BY created_at DESC LIMIT 1`; of codes issued at one instant, the first. -/
def latestOtp (codes : Table OtpCode OtpCode.id) (phone : String) : Option OtpCode :=
  firstBy (fun one other => other.createdAt ≤ one.createdAt)
    (codes.rows.filter fun row => row.phoneNumber = phone)

/-- The code is locked: as many wrong ones have been counted as may be. -/
def OtpCode.locked (row : OtpCode) : Bool := otpMaxAttempts ≤ row.attempts

/-- The code has been consumed or locked out. -/
def OtpCode.spent (row : OtpCode) : Bool := row.consumedAt.isSome || row.locked

/-- Why a row's code is not compared with, if that is so. -/
def OtpCode.refusal (row : OtpCode) (now : Nat) : Option Failure :=
  if row.consumedAt.isSome then
    some ⟨401, "DRIVER_AUTH_OTP_ALREADY_USED", "That code has already been used. Request a new one."⟩
  else if row.expiresAt < now ∨ row.locked then
    some ⟨401, "DRIVER_AUTH_OTP_EXPIRED", "That code has expired. Request a new one."⟩
  else none

/-- A request, at the statement it has reached. -/
inductive OtpCall where
  /-- `requestOtp`, about to look the driver up. -/
  | findDriver (phone : String)
  /-- `requestOtp`, about to store a code. -/
  | issue (phone : String)
  /-- `requestOtp`, about to record what became of the text. -/
  | recordSms (id : Nat) (sent : Bool) (reason : Option String)
  /-- `verifyOtp`, about to look the latest code up. -/
  | findCode (phone code : String)
  /-- `verifyOtp`, with the row it has read. -/
  | compare (phone code : String) (row : OtpCode)
  /-- `verifyOtp`, with the code consumed. -/
  | readDriver (phone : String)
  | done (response : OtpResponse)

/-- A statement on its way to the database. -/
inductive OtpStatement where
  | select
  | insertCode (phone codeHash : String) (expiresAt : Nat)
  | recordSms (id : Nat) (status : String)
  /-- `attempts = attempts + 1`, after a wrong code; it may fail. -/
  | countAttempt (id : Nat) (fails : Bool)
  /-- `consumed_at = NOW()`, after the right one; it may fail. -/
  | consume (id : Nat) (fails : Bool)
  /-- No statement is sent. -/
  | none

/-- What a statement is answered with, and what is drawn and texted meanwhile. -/
structure OtpAnswer where
  fails : Bool := false
  /-- `generateOtpCode`. -/
  draw : String := ""
  smsSent : Bool := true
  smsReason : Option String := none
  deriving DecidableEq

/-- A call of one of the two endpoints. -/
inductive OtpEntry where
  | requestOtp (phoneNumber : String)
  | verifyOtp (phoneNumber code : String)
  deriving DecidableEq

/-- `/^\d{6}$/`. -/
def sixDigits (code : String) : Bool := code.toList.length = 6 && code.toList.all Char.isDigit

/-- An endpoint up to its first statement. -/
def OtpEntry.start (ext : OtpExternals) : OtpEntry → OtpCall
  | .requestOtp phoneNumber =>
    match ext.normalizePhone phoneNumber with
    | some phone => .findDriver phone
    | none => .done (.failed ⟨400, "DRIVER_AUTH_INVALID_PHONE",
        "Enter a valid mobile number we can text — 07… or +250…, or the full international number."⟩)
  | .verifyOtp phoneNumber code =>
    -- Both endpoints look at their body before they read a row.
    let code := String.ofList (trim code.toList)
    match ext.normalizePhone phoneNumber with
    | some phone =>
      if sixDigits code then .findCode phone code
      else .done (.failed ⟨400, "DRIVER_AUTH_INVALID_PAYLOAD", "A phone number and 6-digit code are required."⟩)
    | none => .done (.failed ⟨400, "DRIVER_AUTH_INVALID_PAYLOAD", "A phone number and 6-digit code are required."⟩)

/-- The code that is issued to a phone. -/
def OtpExternals.issued (ext : OtpExternals) (phone draw : String) : String :=
  match ext.reviewDemo with
  | some (demoPhone, demoOtp) => if phone = demoPhone then demoOtp else draw
  | none => draw

/-- The phone is the one App Review signs in with. -/
def OtpExternals.isReviewDemoPhone (ext : OtpExternals) (phone : String) : Bool :=
  ext.reviewDemo.any fun demo => phone = demo.1

/-- The catch blocks of the two endpoints. -/
def requestFailed : OtpCall :=
  .done (.failed ⟨500, "DRIVER_AUTH_OTP_REQUEST_FAILED", "Could not send verification code."⟩)

/-- A code that could not be checked. -/
def verifyFailed : OtpCall :=
  .done (.failed ⟨500, "DRIVER_AUTH_OTP_VERIFY_FAILED", "Could not verify code."⟩)

/-- A number that no driver is registered under. -/
def notRegistered : OtpCall :=
  .done (.failed ⟨404, "DRIVER_AUTH_PHONE_NOT_REGISTERED", "Your number must be registered with dispatch."⟩)

/-- The statement a call is at, and where it stands once that has run. -/
def OtpCall.next (ext : OtpExternals) (store : OtpStore) (answer : OtpAnswer) : OtpCall → OtpStatement × OtpCall
  | .findDriver phone =>
    (.select,
      if answer.fails then requestFailed
      else if store.drivers.any fun driver => driver.phoneNumber = phone then .issue phone
      else notRegistered)
  | .issue phone =>
    if answer.fails then (.none, requestFailed)
    else
      (.insertCode phone (ext.hashCode (ext.issued phone answer.draw)) (store.now + otpTtl),
        -- No text is sent to the number App Review signs in with.
        if ext.isReviewDemoPhone phone then .done (.accepted true)
        else .recordSms store.codes.nextSerial answer.smsSent answer.smsReason)
  | .recordSms id sent reason =>
    -- A failure to record it is swallowed.
    (if answer.fails then .none else .recordSms id (if sent then "Sent" else reason.getD "Unknown"),
      .done (.accepted sent))
  | .findCode phone code =>
    (.select,
      if answer.fails then verifyFailed
      else match latestOtp store.codes phone with
      | none => .done (.failed
          ⟨401, "DRIVER_AUTH_OTP_EXPIRED", "That code has expired. Request a new one."⟩)
      | some row => .compare phone code row)
  | .compare phone code row =>
    match row.refusal store.now with
    | some failure => (.none, .done (.failed failure))
    | none =>
      if ext.hashCode code = row.codeHash then
        (.consume row.id answer.fails, if answer.fails then verifyFailed else .readDriver phone)
      else
        (.countAttempt row.id answer.fails,
          if answer.fails then verifyFailed
          else .done (.failed ⟨401, "DRIVER_AUTH_OTP_INVALID", "That code is incorrect."⟩))
  | .readDriver phone =>
    (.select,
      if answer.fails then verifyFailed
      else match store.drivers.find? fun driver => driver.phoneNumber = phone with
      | none => notRegistered
      | some driver =>
        let returning := driver.onboardingCompletedAt.isSome
        .done (.verified returning (returning && driver.pinHash.isNone) phone))
  | .done response => (.none, .done response)

/-- What a statement does to the store. -/
def OtpStatement.execute (store : OtpStore) : OtpStatement → OtpStore
  | .select | .none => store
  | .insertCode phone codeHash expiresAt =>
    { store with codes := store.codes.insert (fun id => {
        id := id, phoneNumber := phone, codeHash := codeHash, expiresAt := expiresAt
        createdAt := store.now }) fun _ => rfl }
  | .recordSms id status =>
    { store with codes := store.codes.update id (fun row => { row with smsStatus := some status }) fun _ => rfl }
  -- The comparison is on record whether or not the UPDATE behind it goes through.
  | .countAttempt id fails =>
    { store with
      notes := store.notes ++ [.compared id false]
      codes := if fails then store.codes
        else store.codes.update id (fun row => { row with attempts := row.attempts + 1 }) fun _ => rfl }
  | .consume id fails =>
    if fails then { store with notes := store.notes ++ [.compared id true] }
    else { store with
      notes := store.notes ++
        [.compared id true, .verified id ((store.codes.find? id).any OtpCode.spent)]
      codes := store.codes.update id (fun row => { row with consumedAt := some store.now }) fun _ => rfl }

/-- The two endpoints, with every statement a transaction of its own. -/
def otpSystem (ext : OtpExternals) : CallSystem OtpStore OtpStatement OtpEntry OtpCall OtpAnswer Nat Empty where
  start := OtpEntry.start ext
  next := OtpCall.next ext
  execute := fun statement store => statement.execute store
  holds := fun _ => []
  needs := fun _ => []
  -- Nothing happens outside the calls but time.
  outside := fun elapsed store => { store with now := store.now + elapsed }
  outsideNeeds := fun _ => []
  stopped := .done (.failed ⟨500, "", ""⟩)

/-- Calls of the two endpoints in flight. -/
abbrev OtpPool := Pool OtpStore OtpCall

/-- What can happen next. -/
abbrev OtpEvent := PoolEvent OtpEntry OtpAnswer Nat

end Freight.Auth
