import Mathlib.Data.List.Sort
import Freight.Library.Pool
import Freight.Store.Config
import Freight.Store.Rows

/-! The payout worker: sending drivers their money, and asking whether it arrived. -/

namespace Freight.Payout

/-- After this many failed attempts a payout waits for a human. -/
def maxAttempts : Nat := 5

/-- How many rows one tick takes up. -/
def batchSize : Nat := 20

/-- What MTN has made of a transfer it accepted. -/
inductive TransferState where
  /-- Accepted, and not yet resolved. -/
  | pending
  | successful
  | failed
  deriving DecidableEq

/-- A transfer MTN accepted, under the reference it was sent with. -/
structure Transfer where
  reference : Nat
  /-- The payout named by the external id. -/
  payoutId : Nat
  msisdn : String
  amount : ℚ
  currency : Text
  state : TransferState := .pending
  transactionId : Option String := none
  reason : Option String := none
  deriving DecidableEq

/-- The rows the worker shares, MTN's own books, and the clock. -/
structure PayoutStore where
  payouts : List DriverPayout := []
  transfers : List Transfer := []
  audit : List AuditEntry := []
  now : Nat := 0
  /-- Serials and references are both drawn from here, so each is new. -/
  nextReference : Nat := 0

/-- What happened to a transfer that was asked for. -/
inductive TransferAnswer where
  /-- MTN accepted it and said so. -/
  | accepted
  /-- MTN accepted it and the response was lost. -/
  | lost
  /-- MTN never took it in. -/
  | refused
  deriving DecidableEq

/-- What comes of asking after a transfer. -/
inductive StatusAnswer where
  /-- MTN says how its books stand: a 404 where it never knew the reference. -/
  | told
  /-- A 404 that says nothing of its books: of the token endpoint, for one. -/
  | notFound
  /-- Any other error. -/
  | unreadable
  deriving DecidableEq

/-- What a step finds: whether its statement fails, and what MTN makes of its call. -/
structure WorkerAnswer where
  /-- The database statement fails. -/
  fails : Bool := false
  /-- The fate of a transfer. -/
  transfer : TransferAnswer := .accepted
  /-- The fate of a status question. -/
  status : StatusAnswer := .told
  deriving DecidableEq

/-- One row of the sent-but-unconfirmed list. -/
structure SentRow where
  id : Nat
  reference : Nat
  deriving DecidableEq

/-- The statements the worker runs. -/
inductive WorkerStatement where
  /-- Nothing is written. -/
  | nothing
  /-- Claim rows: `status = 'SENDING', attempts = attempts + 1`. -/
  | claim (ids : List Nat)
  /-- The prior attempt landed: `status = 'SUCCESSFUL'`. -/
  | markLanded (id : Nat) (transactionId : String)
  /-- Store the fresh reference of this attempt. -/
  | writeReference (id reference : Nat)
  /-- MTN accepts a transfer. -/
  | send (transfer : Transfer)
  /-- `sent_at = NOW()`, by the attempt named. -/
  | stampSent (id attempt : Nat)
  /-- The catch block: back to the queue, or failed for good. -/
  | giveBack (id : Nat) (status : PayoutStatus) (reason : String)
  /-- What confirmation found, written only over a row still `'SENDING'`. -/
  | settleSent (id : Nat) (status : PayoutStatus) (transactionId reason : Option String)
  /-- Append to the audit log. -/
  | audit (entry : AuditEntry)
  deriving DecidableEq

/-- What a statement makes of one row of `driver_payouts`. -/
def WorkerStatement.onPayout (now : Nat) (statement : WorkerStatement) (row : DriverPayout) :
    DriverPayout :=
  match statement with
  | .claim ids =>
    if row.id ∈ ids then { row with status := .sending, attempts := row.attempts + 1 } else row
  | .markLanded id transactionId =>
    if row.id = id then
      { row with status := .successful, providerTransactionId := some transactionId,
                 failureReason := none }
    else row
  | .writeReference id reference => if row.id = id then { row with reference := reference } else row
  | .stampSent id attempt =>
    if row.id = id then { row with sentAt := some { time := now, attempt := attempt } } else row
  -- No guard on the status the row has by now.
  | .giveBack id status reason =>
    if row.id = id then { row with status := status, failureReason := some reason } else row
  | .settleSent id status transactionId reason =>
    if row.id = id ∧ row.status = .sending then
      { row with status := status, providerTransactionId := transactionId, failureReason := reason }
    else row
  | .nothing | .send _ | .audit _ => row

/-- What a statement does to the store. -/
def WorkerStatement.execute (statement : WorkerStatement) (store : PayoutStore) : PayoutStore :=
  { store with
    payouts := store.payouts.map (statement.onPayout store.now)
    transfers := match statement with
      | .send transfer => store.transfers ++ [transfer]
      | _ => store.transfers
    audit := match statement with
      | .audit entry => store.audit ++ [entry]
      | _ => store.audit
    -- A reference is drawn with the UPDATE that stores it.
    nextReference := match statement with
      | .writeReference _ reference => reference + 1
      | _ => store.nextReference }

/-- A run of `processDuePayouts` or of the `confirmSentPayouts` it ends with, by its next statement. -/
inductive WorkerCall where
  /-- About to claim the rows that are due. -/
  | claim
  /-- `alreadyLanded`: about to ask after the previous attempt's reference. -/
  | askPrior (payout : DriverPayout) (rest : List DriverPayout)
  /-- The previous attempt landed, and the row is about to say so. -/
  | markLanded (payout : DriverPayout) (transactionId : String) (rest : List DriverPayout)
  /-- About to store a fresh reference. -/
  | writeReference (payout : DriverPayout) (rest : List DriverPayout)
  /-- About to call `transfer`. -/
  | transfer (payout : DriverPayout) (reference : Nat) (rest : List DriverPayout)
  /-- Accepted, and about to stamp `sent_at`. -/
  | stampSent (payout : DriverPayout) (rest : List DriverPayout)
  /-- In the catch block. -/
  | giveBack (payout : DriverPayout) (reason : String) (rest : List DriverPayout)
  /-- Failed for good, and about to be audited. -/
  | auditFailed (payout : DriverPayout) (rest : List DriverPayout)
  /-- `confirmSentPayouts`: about to read the sent rows. -/
  | selectSent
  /-- About to ask after one sent row. -/
  | askSent (row : SentRow) (rest : List SentRow)
  /-- About to write what MTN said of one sent row. -/
  | settleSent (row : SentRow) (verdict : Transfer) (rest : List SentRow)
  /-- Returned, thrown or stopped. -/
  | finished
  deriving DecidableEq

/-- The loop over claimed rows: the next one, or the confirmation pass after the last. -/
def nextPayout : List DriverPayout → WorkerCall
  | [] => .selectSent
  -- A first attempt has no previous one to ask after.
  | payout :: rest =>
    if payout.attempts ≤ 1 then .writeReference payout rest else .askPrior payout rest

/-- The loop over sent rows. -/
def nextSent : List SentRow → WorkerCall
  | [] => .finished
  | row :: rest => .askSent row rest

/-- The rows a tick claims: queued, due and not used up, earliest first. -/
def dueRows (store : PayoutStore) : List DriverPayout :=
  ((store.payouts.filter fun row =>
      row.status = .queued ∧ row.releaseAt ≤ store.now ∧ row.attempts < maxAttempts).insertionSort
    fun first second => first.releaseAt ≤ second.releaseAt).take batchSize

/-- The rows awaiting confirmation, earliest sent first. -/
def sentRows (store : PayoutStore) : List SentRow :=
  (((store.payouts.filter fun row => row.status = .sending ∧ row.sentAt.isSome).insertionSort
      fun first second => (first.sentAt.map SentStamp.time).getD 0 ≤
        (second.sentAt.map SentStamp.time).getD 0).take batchSize).map
    fun row => { id := row.id, reference := row.reference }

/-- What MTN knows of a reference. -/
def PayoutStore.transfer (store : PayoutStore) (reference : Nat) : Option Transfer :=
  store.transfers.find? fun transfer => transfer.reference = reference

/-- What `transfer` sends for one attempt. -/
def outgoing (payout : DriverPayout) (reference : Nat) (currency : Text) : Transfer where
  reference := reference
  payoutId := payout.id
  msisdn := payout.payeeMsisdn
  amount := payout.amount
  currency := currency

/-- The statement a worker is at, and where it stands afterwards. -/
def WorkerCall.next (cfg : Config) (store : PayoutStore) (answer : WorkerAnswer) :
    WorkerCall → WorkerStatement × WorkerCall
  | .claim =>
    if !cfg.disbursementConfigured || answer.fails then (.nothing, .finished)
    else
      let statement := .claim ((dueRows store).map DriverPayout.id)
      (statement, nextPayout ((dueRows store).map (statement.onPayout store.now)))
  | .askPrior payout rest =>
    match answer.status with
    -- An answer that cannot be read throws, and the catch block takes over.
    | .unreadable => (.nothing, .giveBack payout "Could not read transfer status" rest)
    -- Only the status of an error is looked at, not what it is about.
    | .notFound => (.nothing, .writeReference payout rest)
    | .told =>
      match store.transfer payout.reference with
      -- 404: MTN never knew that reference.
      | none => (.nothing, .writeReference payout rest)
      | some prior =>
        if prior.state = .successful then
          (.nothing, .markLanded payout (prior.transactionId.getD "unknown") rest)
        -- PENDING and FAILED alike count as not landed.
        else (.nothing, .writeReference payout rest)
  | .markLanded payout transactionId rest =>
    if answer.fails then (.nothing, .giveBack payout "statement failed" rest)
    else (.markLanded payout.id transactionId, nextPayout rest)
  | .writeReference payout rest =>
    if answer.fails then (.nothing, .giveBack payout "statement failed" rest)
    else (.writeReference payout.id store.nextReference, .transfer payout store.nextReference rest)
  | .transfer payout reference rest =>
    match resolveSettlementCurrency cfg.upper (some payout.currency) cfg.momoCurrency with
    | .error _ => (.nothing, .giveBack payout "currency refused" rest)
    | .ok currency =>
      match answer.transfer with
      | .accepted => (.send (outgoing payout reference currency), .stampSent payout rest)
      | .lost =>
        (.send (outgoing payout reference currency), .giveBack payout "MoMo request failed" rest)
      | .refused => (.nothing, .giveBack payout "MoMo refused the transfer" rest)
  | .stampSent payout rest =>
    -- MTN has the money by now: a failure here lands in the catch block all the same.
    if answer.fails then (.nothing, .giveBack payout "statement failed" rest)
    else (.stampSent payout.id payout.attempts, nextPayout rest)
  | .giveBack payout reason rest =>
    -- A failure inside the catch block ends the whole tick.
    if answer.fails then (.nothing, .finished)
    else if maxAttempts ≤ payout.attempts then
      (.giveBack payout.id .failed reason, .auditFailed payout rest)
    else (.giveBack payout.id .queued reason, nextPayout rest)
  | .auditFailed payout rest =>
    -- Audit writes swallow their own failures.
    if answer.fails then (.nothing, nextPayout rest)
    else (.audit { actionType := "DRIVER_PAYOUT_FAILED", subject := payout.id, username := "System" },
      nextPayout rest)
  | .selectSent =>
    if answer.fails then (.nothing, .finished) else (.nothing, nextSent (sentRows store))
  | .askSent row rest =>
    match if answer.status = .told then store.transfer row.reference else none with
    -- Still in flight as far as we can tell.
    | none => (.nothing, nextSent rest)
    | some verdict =>
      if verdict.state = .pending then (.nothing, nextSent rest)
      else (.nothing, .settleSent row verdict rest)
  | .settleSent row verdict rest =>
    if answer.fails then (.nothing, .finished)
    else if verdict.state = .successful then
      (.settleSent row.id .successful verdict.transactionId none, nextSent rest)
    -- A rejected transfer goes back to the queue however many attempts it has had.
    else (.settleSent row.id .queued verdict.transactionId
      (some (verdict.reason.getD "FAILED")), nextSent rest)
  | .finished => (.nothing, .finished)

/-- What happens around the worker. -/
inductive PayoutOutside where
  /-- A collection queues a payout for its driver. -/
  | enqueue (driver msisdn : String) (amount : ℚ) (currency : Text) (releaseAt : Nat)
  /-- MTN resolves an accepted transfer, one way or the other. -/
  | resolve (reference : Nat) (landed : Bool) (transactionId reason : Option String)
  /-- Time passes. -/
  | wait (duration : Nat)
  deriving DecidableEq

/-- What an outside event does to the store. -/
def PayoutOutside.happen (store : PayoutStore) : PayoutOutside → PayoutStore
  | .enqueue driver msisdn amount currency releaseAt =>
    { store with
      payouts := store.payouts ++ [queuedPayout store.nextReference store.nextReference none none
        driver msisdn amount currency releaseAt]
      nextReference := store.nextReference + 1 }
  | .resolve reference landed transactionId reason =>
    { store with
      transfers := store.transfers.map fun transfer =>
        -- A transfer is resolved once, and for good.
        if transfer.reference = reference ∧ transfer.state = .pending then
          { transfer with state := if landed then .successful else .failed,
                          transactionId := transactionId, reason := reason }
        else transfer }
  | .wait duration => { store with now := store.now + duration }

/-- What a timer or another instance starts. -/
inductive WorkerEntry where
  | processDuePayouts
  | confirmSentPayouts
  deriving DecidableEq

/-- The first statement of a run. -/
def WorkerEntry.start : WorkerEntry → WorkerCall
  | .processDuePayouts => .claim
  | .confirmSentPayouts => .selectSent

/-- Workers over the payout store. Each of their statements commits by itself, so none locks. -/
def workers (cfg : Config) :
    CallSystem PayoutStore WorkerStatement WorkerEntry WorkerCall WorkerAnswer PayoutOutside
      Empty where
  start := WorkerEntry.start
  next := fun store answer call => call.next cfg store answer
  execute := WorkerStatement.execute
  holds := fun _ => []
  needs := fun _ => []
  outside := fun event store => event.happen store
  outsideNeeds := fun _ => []
  stopped := .finished

/-- The workers and the rows they share. -/
abbrev WorkerPool := Pool PayoutStore WorkerCall

/-- What can happen next: a tick, one statement of a worker, a crash, or something outside. -/
abbrev WorkerEvent := PoolEvent WorkerEntry WorkerAnswer PayoutOutside

/-- An empty payout table, and no worker running. -/
def noPayouts : WorkerPool := { shared := {}, calls := [] }

end Freight.Payout
