import Freight.Driver.Phone
import Freight.Library.EventLoop

/-! The offline queue: enqueueing, retrying, discarding, sweeping and flushing, an await at a time. -/

namespace Freight.Driver

/-- A screen's action that could not be sent, before its photo has been copied. -/
inductive Draft where
  | statusUpdate (orderId : Nat) (status : String)
  | incidentReport (payload : IncidentPayload) (withPhoto : Bool)
      (photoFileName photoMimeType : Option String)
  | deliveryPhoto (orderId : Nat) (fileName mimeType : String) (notes : Option String)
  deriving DecidableEq

/-- The action a draft becomes, its photo persisted under a number. -/
def Draft.action (draft : Draft) (file now : Nat) : PendingDriverAction :=
  match draft with
  | .statusUpdate orderId status => .statusUpdate orderId status now
  | .incidentReport payload withPhoto photoFileName photoMimeType =>
    .incidentReport payload (if withPhoto then some file else none) photoFileName photoMimeType now
  | .deliveryPhoto orderId fileName mimeType notes =>
    .deliveryPhoto orderId file fileName mimeType notes now

/-- A run of `enqueueOfflineAction`, with the copying of the photo that comes before it. -/
inductive EnqueueCall where
  /-- About to copy the photo. -/
  | persist (draft : Draft)
  | readQueue (item : QueuedAction)
  | writeQueue (read : List QueuedAction) (item : QueuedAction)
  | done (length : Nat)

/-- A run of `retryRejectedAction`. -/
inductive RetryCall where
  | readRejected (id : Nat)
  | readQueue (list : List RejectedDriverAction) (entry : RejectedDriverAction)
  | writeQueue (list : List RejectedDriverAction) (entry : RejectedDriverAction)
      (read : List QueuedAction)
  | writeRejected (list : List RejectedDriverAction) (entry : RejectedDriverAction)
  | done (found : Bool)

/-- A run of `discardRejectedAction`. -/
inductive DiscardCall where
  | readRejected (id : Nat)
  | writeRejected (list : List RejectedDriverAction) (entry : RejectedDriverAction)
  | done (found : Bool)

/-- A run of `sweepAgedRejections`. -/
inductive SweepCall where
  | readRejected (now : Nat)
  | writeRejected (kept : List RejectedDriverAction) (swept : Nat)
  | done (swept : Nat)

/-- `FlushResult`. -/
structure FlushResult where
  flushed : Nat
  remaining : Nat
  rejected : List RejectedDriverAction

/-- A flush on its way through the queue it has read. -/
structure Flush where
  token : AccessToken
  /-- The queue, as it was read. -/
  read : List QueuedAction
  /-- The action it is at. -/
  item : QueuedAction
  /-- `queue.slice(index + 1)`. -/
  behind : List QueuedAction
  flushed : Nat := 0
  rejected : List RejectedDriverAction := []

/-- A run of `flushOfflineQueue`. -/
inductive FlushCall where
  | begin (token : AccessToken)
  | readQueue (token : AccessToken)
  /-- About to send the request of an action. -/
  | send (work : Flush)
  /-- `apiFetch` was answered with 401: a refresh token has been sent for a fresh access token. -/
  | refresh (work : Flush) (account : String)
  /-- About to send the request once more, with the fresh token. -/
  | resend (work : Flush) (token : AccessToken)
  /-- The upload was accepted: about to delete the photo. -/
  | deletePhoto (work : Flush) (file : Nat)
  | writeQueue (work : Flush) (remaining : List QueuedAction)
  | readRejected (work : Flush) (remaining : Nat)
  | writeRejected (work : Flush) (remaining : Nat) (stored : List RejectedDriverAction)
  | done (result : FlushResult)

/-- A function of the queue, between its awaits. -/
inductive Task where
  | enqueue (call : EnqueueCall)
  | retry (call : RetryCall)
  | discard (call : DiscardCall)
  | sweep (call : SweepCall)
  | flush (call : FlushCall)

/-- What calls a function of the queue. -/
inductive Entry where
  | enqueueOfflineAction (draft : Draft)
  | retryRejectedAction (id : Nat)
  | discardRejectedAction (id : Nat)
  | sweepAgedRejections (now : Nat)
  | flushOfflineQueue (token : AccessToken)
  deriving DecidableEq

/-- What comes of asking for a fresh access token. -/
inductive RefreshReply where
  | renewed (expiresAt : Nat)
  /-- 401 or 403: the session is over. -/
  | refused
  /-- Anything else. -/
  | failed
  deriving DecidableEq

/-- What an await is answered with; each reads the part it waits for. -/
structure Answer where
  reply : Reply := .response 200 none "" none
  refresh : RefreshReply := .failed
  /-- The files whose deletion throws. -/
  undeletable : List Nat := []
  deriving DecidableEq

/-- `enqueueOfflineAction`. -/
def EnqueueCall.resume (phone : Phone) : EnqueueCall → Phone × EnqueueCall
  | .persist draft =>
    let item : QueuedAction := {
      serial := phone.serial, owner := phone.tokens.username
      action := draft.action phone.serial phone.now }
    -- The photo is copied to a file of the queue's own before the list is read.
    ({ phone with
        serial := phone.serial + 1
        files := phone.files ++ item.file.toList
        history := { phone.history with enqueued := phone.history.enqueued ++ [item] } },
      .readQueue item)
  | .readQueue item => (phone, .writeQueue phone.queue item)
  -- The list is written as it was read, with the item behind it.
  | .writeQueue read item =>
    ({ phone with queue := read ++ [item] }, .done (read.length + 1))
  | .done length => (phone, .done length)

/-- `retryRejectedAction`. -/
def RetryCall.resume (phone : Phone) : RetryCall → Phone × RetryCall
  | .readRejected id =>
    (phone, match phone.rejected.find? fun entry => entry.id = id with
      | none => .done false
      | some entry => .readQueue phone.rejected entry)
  | .readQueue list entry => (phone, .writeQueue list entry phone.queue)
  -- It joins the queue first, and leaves the other list after that.
  | .writeQueue list entry read =>
    ({ phone with
        queue := read ++ [entry.item]
        history := { phone.history with requeued := phone.history.requeued ++ [entry] } },
      .writeRejected list entry)
  | .writeRejected list entry =>
    ({ phone with rejected := list.filter fun other => other.id ≠ entry.id }, .done true)
  | .done found => (phone, .done found)

/-- `discardRejectedAction`. -/
def DiscardCall.resume (phone : Phone) (answer : Answer) : DiscardCall → Phone × DiscardCall
  | .readRejected id =>
    match phone.rejected.find? fun entry => entry.id = id with
    | none => (phone, .done false)
    | some entry =>
      -- Its photo goes before the list is written.
      ({ phone.deleteQuietly answer.undeletable entry.item.file with
          history := { phone.history with dismissed := phone.history.dismissed ++ [entry] } },
        .writeRejected phone.rejected entry)
  | .writeRejected list entry =>
    ({ phone with rejected := list.filter fun other => other.id ≠ entry.id }, .done true)
  | .done found => (phone, .done found)

/-- `REJECTION_RETENTION_MS`. -/
def rejectionRetentionMs : Nat := 14 * 24 * 60 * 60 * 1000

/-- A rejection old enough to be swept; one without a readable date never is. -/
def RejectedDriverAction.aged (entry : RejectedDriverAction) (now : Nat) : Bool :=
  entry.rejectedAt.any fun time => rejectionRetentionMs < now - time

/-- `sweepAgedRejections`. -/
def SweepCall.resume (phone : Phone) (answer : Answer) : SweepCall → Phone × SweepCall
  | .readRejected now =>
    let swept := phone.rejected.filter fun entry => entry.aged now
    let kept := phone.rejected.filter fun entry => !entry.aged now
    let cleared := swept.foldl (fun phone entry =>
      phone.deleteQuietly answer.undeletable entry.item.file) phone
    -- Where nothing is aged, nothing is written.
    if swept.isEmpty then (phone, .done 0)
    else ({ cleared with history := { phone.history with swept := phone.history.swept ++ swept } },
      .writeRejected kept swept.length)
  | .writeRejected kept swept => ({ phone with rejected := kept }, .done swept)
  | .done swept => (phone, .done swept)

/-- On to the next action, or out of the loop. -/
def Flush.advance (work : Flush) : FlushCall :=
  match work.behind with
  | [] => .writeQueue work []
  | next :: rest => .send { work with item := next, behind := rest }

/-- The catch block: a refusal is set aside, and anything else stops the flush where it is. -/
def Flush.caught (work : Flush) (phone : Phone) (error : AppError) : Phone × FlushCall :=
  if isRetryableFailure error then (phone, .writeQueue work (work.item :: work.behind))
  -- The entry keeps what the server said of it.
  else
    let refusal : RejectedDriverAction := {
      id := phone.serial, item := work.item
      reason := error.code.getD ("HTTP " ++ (error.status.map toString).getD "unknown")
      message := error.message, rejectedAt := some phone.now }
    ({ phone with
        serial := phone.serial + 1
        history := { phone.history with refused := phone.history.refused ++ [refusal] } },
      { work with rejected := work.rejected ++ [refusal] }.advance)

/-- What follows a request: the photo of an accepted upload is deleted before the next action. -/
def Flush.settled (work : Flush) (phone : Phone) (result : Except AppError Unit) : Phone × FlushCall :=
  match result with
  | .error error => work.caught phone error
  | .ok _ =>
    match work.item.file with
    | some file => (phone, .deletePhoto work file)
    | none => (phone, { work with flushed := work.flushed + 1 }.advance)

/-- An upload, by `confirmDelivery` or `reportIncident`: it goes out with the flush's own token. -/
def Flush.upload (work : Flush) (phone : Phone) (file : Nat) (reply : Reply) : Phone × FlushCall :=
  -- A photo that is gone cannot be read, and nothing is sent.
  if phone.files.contains file then
    let reply := phone.answered work.token reply
    let phone := phone.send work.item work.token reply
    match reply with
    | .response status code message _ => work.settled phone (parseUploadResult status code message)
    | .silent _ _ =>
      work.caught phone { message := "Network request failed (upload timed out)" }
  else work.caught phone { message := "The file could not be read." }

/-- `doFetch`: a timeout is thrown as a 408. -/
def fetchFailure (timedOut : Bool) : AppError :=
  if timedOut then { status := some 408, message := "Network request failed (request timed out)" }
  else { message := "Network request failed" }

/-- The first request of `apiFetch`: a 401 is answered by a refresh, with what the store holds. -/
def Flush.fetch (work : Flush) (phone : Phone) (reply : Reply) : Phone × FlushCall :=
  let reply := phone.answered work.token reply
  let phone := phone.send work.item work.token reply
  match reply with
  | .response status code message retryAfter =>
    -- Only a 401 asks for a refresh, and only once.
    if status = 401 then
      match phone.tokens.refreshToken with
      | some account => (phone, .refresh work account)
      | none => work.caught phone { message := "Session expired. Please sign in again." }
    else work.settled phone (parseResponse status code message retryAfter)
  | .silent _ timedOut => work.caught phone (fetchFailure timedOut)

/-- The second request of `apiFetch`, whatever it is answered with. -/
def Flush.refetch (work : Flush) (phone : Phone) (token : AccessToken) (reply : Reply) :
    Phone × FlushCall :=
  let reply := phone.answered token reply
  let phone := phone.send work.item token reply
  match reply with
  -- A second 401 is an answer like any other.
  | .response status code message retryAfter =>
    work.settled phone (parseResponse status code message retryAfter)
  | .silent _ timedOut => work.caught phone (fetchFailure timedOut)

/-- `setRefreshedTokens`: a fresh pair of tokens, beside whatever username the store holds by now. -/
def Phone.renewed (phone : Phone) (token : AccessToken) : Phone :=
  { phone with tokens := { phone.tokens with
      token := some token, refreshToken := some token.account } }

/-- The answer to `refreshAccessToken`. -/
def Flush.refreshed (work : Flush) (phone : Phone) (account : String) (reply : RefreshReply) :
    Phone × FlushCall :=
  let expired : AppError := { message := "Session expired. Please sign in again." }
  match reply with
  | .renewed expiresAt =>
    let token : AccessToken := { account := account, expiresAt := expiresAt }
    (phone.renewed token, .resend work token)
  -- A refused refresh signs the driver out; one that failed does not.
  | .refused => work.caught { phone with tokens := {} } expired
  | .failed => work.caught phone expired

/-- `flushOfflineQueue`. -/
def FlushCall.resume (phone : Phone) (answer : Answer) : FlushCall → Phone × FlushCall
  | .begin token =>
    if phone.flushing then
      (phone, .done { flushed := 0, remaining := phone.queue.length, rejected := [] })
    else ({ phone with flushing := true }, .readQueue token)
  | .readQueue token =>
    match phone.queue with
    | [] => ({ phone with flushing := false }, .done { flushed := 0, remaining := 0, rejected := [] })
    | item :: behind => (phone, .send { token := token, read := phone.queue, item := item, behind := behind })
  | .send work =>
    match work.item.file with
    | some file => work.upload phone file answer.reply
    | none => work.fetch phone answer.reply
  | .refresh work account => work.refreshed phone account answer.refresh
  | .resend work token => work.refetch phone token answer.reply
  | .deletePhoto work file =>
    match phone.delete answer.undeletable file with
    | some phone => (phone, { work with flushed := work.flushed + 1 }.advance)
    -- A deletion that throws lands in the same catch block as a request that failed.
    | none => work.caught phone { message := "The file could not be deleted." }
  | .writeQueue work remaining =>
    if work.rejected.isEmpty then
      ({ phone with queue := remaining, flushing := false },
        .done { flushed := work.flushed, remaining := remaining.length, rejected := [] })
    else ({ phone with queue := remaining }, .readRejected work remaining.length)
  | .readRejected work remaining => (phone, .writeRejected work remaining phone.rejected)
  | .writeRejected work remaining stored =>
    ({ phone with
        rejected := stored ++ work.rejected, flushing := false
        history := { phone.history with recorded := phone.history.recorded ++ work.rejected } },
      .done { flushed := work.flushed, remaining := remaining, rejected := work.rejected })
  | .done result => (phone, .done result)

/-- A task runs to its next await. -/
def Task.resume (phone : Phone) (answer : Answer) : Task → Phone × Task
  | .enqueue call => (call.resume phone).map id .enqueue
  | .retry call => (call.resume phone).map id .retry
  | .discard call => (call.resume phone answer).map id .discard
  | .sweep call => (call.resume phone answer).map id .sweep
  | .flush call => (call.resume phone answer).map id .flush

/-- Where a function of the queue begins. -/
def Entry.start : Entry → Task
  | .enqueueOfflineAction draft => .enqueue (.persist draft)
  | .retryRejectedAction id => .retry (.readRejected id)
  | .discardRejectedAction id => .discard (.readRejected id)
  | .sweepAgedRejections now => .sweep (.readRejected now)
  | .flushOfflineQueue token => .flush (.begin token)

/-- What happens to the phone outside the queue. -/
inductive PhoneEvent where
  /-- `finalizeSession` persists the tokens of whoever has signed in. -/
  | signIn (username : String) (token : AccessToken)
  /-- `signOut` clears the tokens, and leaves what is stored for the queue. -/
  | signOut
  /-- A refresh that another request of the app has asked for comes back. -/
  | renew (token : AccessToken)
  | wait (elapsed : Nat)
  deriving DecidableEq

/-- What happens to the phone outside the queue. -/
def Phone.happen (phone : Phone) : PhoneEvent → Phone
  | .signIn username token =>
    { phone with tokens := {
        token := some token, refreshToken := some token.account, username := some username } }
  | .signOut => { phone with tokens := {} }
  | .renew token => phone.renewed token
  | .wait elapsed => { phone with now := phone.now + elapsed }

/-- The app, with every function of the queue on one event loop. -/
def app : EventLoop Phone Entry Task Answer PhoneEvent where
  start := Entry.start
  resume := fun phone answer task => task.resume phone answer
  outside := fun event phone => phone.happen event
  -- What is in memory is lost, and what is stored is not.
  crash := fun phone => { phone with flushing := false }

/-- The function has returned. -/
def Task.returned : Task → Bool
  | .enqueue (.done _) | .retry (.done _) | .discard (.done _) | .sweep (.done _) | .flush (.done _) => true
  | _ => false

/-- No call is in progress. -/
def Quiet (tasks : List Task) : Prop := ∀ task ∈ tasks, task.returned = true

instance (tasks : List Task) : Decidable (Quiet tasks) :=
  inferInstanceAs (Decidable (∀ task ∈ tasks, _))

end Freight.Driver
