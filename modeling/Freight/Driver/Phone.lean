import Mathlib.Data.Rat.Defs
import Mathlib.Algebra.Order.Ring.Rat

/-! The driver's phone: what it stores, the session it keeps, and how it reads the server's answers. -/

namespace Freight.Driver

/-- What an incident report says. -/
structure IncidentPayload where
  orderId : Option Nat := none
  title : Option String := none
  description : Option String := none
  lat : Option ℚ := none
  lng : Option ℚ := none
  deriving DecidableEq

/-- `PendingDriverAction`. A photo is a file of the app's own, each copy under a number of its own. -/
inductive PendingDriverAction where
  | statusUpdate (orderId : Nat) (status : String) (createdAt : Nat)
  | incidentReport (payload : IncidentPayload) (localPhotoUri : Option Nat)
      (photoFileName photoMimeType : Option String) (createdAt : Nat)
  | deliveryPhoto (orderId : Nat) (localFileUri : Nat) (fileName mimeType : String)
      (notes : Option String) (createdAt : Nat)
  deriving DecidableEq

/-- `localFileFor`: the file an action holds on disk, if it has one. -/
def localFileFor : PendingDriverAction → Option Nat
  | .statusUpdate .. => none
  | .incidentReport _ localPhotoUri _ _ _ => localPhotoUri
  | .deliveryPhoto _ localFileUri _ _ _ _ => some localFileUri

/--
An action on the queue.

Which call put it there, and under whose session, is written down for the proofs; no code reads it.
-/
structure QueuedAction where
  serial : Nat
  owner : Option String
  action : PendingDriverAction
  deriving DecidableEq

/-- The file a queued action holds. -/
def QueuedAction.file (item : QueuedAction) : Option Nat := localFileFor item.action

/-- `RejectedDriverAction`. -/
structure RejectedDriverAction where
  id : Nat
  item : QueuedAction
  reason : String
  message : String
  /-- A date that cannot be read is none. -/
  rejectedAt : Option Nat
  deriving DecidableEq

/-- An access token: whose it is, and when it expires. -/
structure AccessToken where
  account : String
  expiresAt : Nat
  deriving DecidableEq

/-- `TokenSet`: the token store, empty while nobody is signed in. -/
structure TokenSet where
  token : Option AccessToken := none
  /-- The account whose refresh token it is. -/
  refreshToken : Option String := none
  username : Option String := none
  deriving DecidableEq

/-- What comes of a request. -/
inductive Reply where
  | response (status : Nat) (code : Option String) (message : String) (retryAfter : Option Nat)
  /-- No answer arrives, or none that can be read, whether or not the server accepted. -/
  | silent (accepted timedOut : Bool)
  deriving DecidableEq

/-- `response.ok`, or 202 which is one of them. -/
def isSuccess (status : Nat) : Bool := 200 ≤ status && status < 300

/-- The server has accepted the request. -/
def Reply.accepted : Reply → Bool
  | .response status _ _ _ => isSuccess status
  | .silent accepted _ => accepted

/-- Something thrown: an `ApiError` carries a status, anything else none. -/
structure AppError where
  status : Option Nat := none
  code : Option String := none
  message : String
  deriving DecidableEq

/-- `isRetryableFailure`. -/
def isRetryableFailure (error : AppError) : Bool :=
  match error.status with
  -- Not classified.
  | none => true
  | some status => status = 408 || status = 429 || 500 ≤ status || status = 0

/-- `formatRetryAfter`. -/
def formatRetryAfter (totalSeconds : Nat) : String :=
  let minutes := totalSeconds / 60
  let seconds := totalSeconds % 60
  let counted := fun (count : Nat) (unit : String) =>
    toString count ++ " " ++ unit ++ (if count = 1 then "" else "s")
  -- Under a minute it is seconds, and never none of them.
  if minutes = 0 then counted (max seconds 1) "second"
  else if seconds = 0 then counted minutes "minute"
  else counted minutes "minute" ++ " and " ++ counted seconds "second"

/-- `parseUploadResult`. -/
def parseUploadResult (status : Nat) (code : Option String) (message : String) : Except AppError Unit :=
  if isSuccess status then .ok ()
  else .error { status := some status, code := code, message := message }

/-- `parseResponse`: a rate limit that names its wait is thrown without a status. -/
def parseResponse (status : Nat) (code : Option String) (message : String) (retryAfter : Option Nat) :
    Except AppError Unit :=
  if isSuccess status then .ok ()
  else if status = 429 ∧ 0 < retryAfter.getD 0 then
    .error { message := "Too many attempts. Try again in " ++ formatRetryAfter (retryAfter.getD 0) ++ "." }
  else .error { status := some status, code := code, message := message }

/-- An upload is taken for done exactly when it was accepted. -/
theorem parseUploadResult_ok {status : Nat} {code : Option String} {message : String} :
    parseUploadResult status code message = .ok () ↔ isSuccess status = true := by
  -- It throws unless the status is one of success.
  unfold parseUploadResult
  split <;> simp_all

/-- So is any other request. -/
theorem parseResponse_ok {status : Nat} {code : Option String} {message : String} {retryAfter : Option Nat} :
    parseResponse status code message retryAfter = .ok () ↔ isSuccess status = true := by
  -- It throws unless the status is one of success.
  unfold parseResponse
  split
  · simp_all
  · split <;> simp_all

/-- One request that was sent, with what came of it. -/
structure Sent where
  item : QueuedAction
  token : AccessToken
  at_ : Nat
  reply : Reply
  deriving DecidableEq

/-- The access token had expired when the request was sent. -/
def Sent.expired (sent : Sent) : Bool := sent.token.expiresAt ≤ sent.at_

/-- What has happened, written down for the proofs; no code reads it. -/
structure History where
  /-- Every request the flushes sent. -/
  log : List Sent := []
  /-- Every action that was enqueued. -/
  enqueued : List QueuedAction := []
  /-- Every rejection a flush has set aside. -/
  refused : List RejectedDriverAction := []
  /-- Those it has stored. -/
  recorded : List RejectedDriverAction := []
  /-- The rejections a retry has put back on the queue. -/
  requeued : List RejectedDriverAction := []
  /-- The rejections the driver has dismissed. -/
  dismissed : List RejectedDriverAction := []
  /-- The rejections the sweep has retired. -/
  swept : List RejectedDriverAction := []

/-- What the app keeps on the phone, and what it keeps in memory. -/
structure Phone where
  /-- `OFFLINE_QUEUE_KEY`. -/
  queue : List QueuedAction := []
  /-- `REJECTED_ACTIONS_KEY`. -/
  rejected : List RejectedDriverAction := []
  /-- The photos in the app's own directories. -/
  files : List Nat := []
  /-- `isFlushing`. -/
  flushing : Bool := false
  tokens : TokenSet := {}
  now : Nat := 0
  /-- Above every number in use, for actions, files and rejections alike. -/
  serial : Nat := 0
  history : History := {}

/-- The server has accepted the action. -/
def Phone.Accepted (phone : Phone) (item : QueuedAction) : Prop :=
  ∃ sent ∈ phone.history.log, sent.item = item ∧ sent.reply.accepted = true

instance (phone : Phone) (item : QueuedAction) : Decidable (phone.Accepted item) :=
  inferInstanceAs (Decidable (∃ sent ∈ phone.history.log, _))

/-- A request reaches the server: an expired token is answered with 401, whatever it asked for. -/
def Phone.answered (phone : Phone) (token : AccessToken) (reply : Reply) : Reply :=
  if token.expiresAt ≤ phone.now then
    match reply with
    | .response .. =>
      .response 401 (some "AUTH_INVALID_TOKEN") "Session expired or invalid token." none
    | .silent _ timedOut => .silent false timedOut
  else reply

/-- A request is sent, and its reply written down. -/
def Phone.send (phone : Phone) (item : QueuedAction) (token : AccessToken) (reply : Reply) : Phone :=
  { phone with history := { phone.history with
      log := phone.history.log ++ [{ item := item, token := token, at_ := phone.now, reply := reply }] } }

/-- A file is deleted, unless it is not there or the deletion is one that throws. -/
def Phone.delete (phone : Phone) (undeletable : List Nat) (file : Nat) : Option Phone :=
  if phone.files.contains file && !undeletable.contains file then
    some { phone with files := phone.files.filter (· ≠ file) }
  else none

/-- `deleteFileQuietly`. -/
def Phone.deleteQuietly (phone : Phone) (undeletable : List Nat) (file : Option Nat) : Phone :=
  match file with
  | none => phone
  | some file => (phone.delete undeletable file).getD phone

/-- A deletion that fails in silence changes no more than the files. -/
theorem deleteQuietly_eq (phone : Phone) (undeletable : List Nat) (file : Option Nat) :
    ∃ files, phone.deleteQuietly undeletable file = { phone with files := files } ∧
      (files = phone.files ∨ ∃ its, file = some its ∧ files = phone.files.filter (· ≠ its)) := by
  -- With no file there is nothing to delete; a deletion that throws leaves the phone as it was.
  cases file with
  | none => exact ⟨phone.files, rfl, .inl rfl⟩
  | some file =>
    show ∃ files, (phone.delete undeletable file).getD phone = { phone with files := files } ∧ _
    unfold Phone.delete
    split
    · exact ⟨_, rfl, .inr ⟨file, rfl, rfl⟩⟩
    · exact ⟨phone.files, rfl, .inl rfl⟩

/-- Nor do several. -/
theorem deletedQuietly_eq (phone : Phone) (undeletable : List Nat) (entries : List RejectedDriverAction) :
    ∃ files, entries.foldl (fun phone entry => phone.deleteQuietly undeletable entry.item.file) phone =
      { phone with files := files } := by
  -- The photos go one entry after another.
  induction entries generalizing phone with
  | nil => exact ⟨phone.files, rfl⟩
  | cons entry rest ih =>
    obtain ⟨files, same, -⟩ := deleteQuietly_eq phone undeletable entry.item.file
    rw [List.foldl_cons, same]
    exact ih _

end Freight.Driver
