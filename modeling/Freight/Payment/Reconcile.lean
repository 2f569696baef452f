import Freight.Payment.PayoutQueue

/-! Settling payment requests against what MTN reports, one at a time or in a sweep. -/

namespace Freight.Payment

/-- What settling a request returns. -/
structure Reconciled where
  known : Bool
  status : String := ""
  changed : Bool := false
  unreachable : Bool := false
  deriving DecidableEq

/-- The word a request's status is. -/
def statusWord : RequestStatus → String
  | .pending => "PENDING"
  | .successful => "SUCCESSFUL"
  | .failed => "FAILED"
  | .timedOut => "TIMED_OUT"

/-- A run of `reconcilePaymentRequest`, by its next statement. -/
inductive ReconcileCall where
  /-- About to read the request and its order. -/
  | selectRequest (reference : Nat)
  /-- About to ask MTN. -/
  | ask (found : Found)
  /-- MTN moved another sum than was asked for: about to fail the request. -/
  | mismatchRequest (found : Found) (verdict : Verdict)
  /-- About to fail the order over the mismatch. -/
  | mismatchOrder (found : Found)
  | mismatchAudit (found : Found)
  /-- About to write MTN's verdict. -/
  | settle (found : Found) (verdict : Verdict)
  /-- The request has failed, and its order is about to say so. -/
  | failOrder (found : Found) (verdict : Verdict)
  /-- The request has succeeded, and its order is about to say so. -/
  | payOrder (found : Found)
  /-- `queueDriverPayout`. -/
  | queuePayout (found : Found) (queuing : PayoutCall)
  | auditReceived (found : Found)
  | done (outcome : Outcome Reconciled)

/-- MTN moved the amount that was asked for, up to a cent. -/
def amountMatches (asked : ℚ) (verdict : Verdict) : Bool :=
  match verdict.amount with
  | none => false
  | some amount => |amount - asked| < 1 / 100

/-- MTN moved the currency that was asked for, if it names one. -/
def currencyMatches (cfg : Config) (asked : Text) (verdict : Verdict) : Bool :=
  match verdict.currency with
  | none | some [] => true
  | some currency => toUpperCase cfg.upper currency = toUpperCase cfg.upper asked

/-- What MTN says it moved is what the request asked for. -/
def settlesAsked (cfg : Config) (request : PaymentRequest) (verdict : Verdict) : Bool :=
  amountMatches request.amount verdict && currencyMatches cfg request.currency verdict

/-- The statement a settlement of a request is at, and where it stands afterwards. -/
def ReconcileCall.next (cfg : Config) (store : Store) (answer : Answer) :
    ReconcileCall → Statement × ReconcileCall
  | .selectRequest reference =>
    if answer.fails then (.nothing, .done .failed)
    else match (store.request reference).bind fun request =>
        (store.order request.orderId).map fun order => (request, order) with
      | none => (.nothing, .done (.returned { known := false }))
      | some (request, order) =>
        if request.status ≠ .pending then
          (.nothing, .done (.returned { known := true, status := statusWord request.status }))
        else (.nothing, .ask { request := request, assignedTo := order.assignedTo,
                               driverNet := order.driverNet })
  | .ask found =>
    match answer.verdict with
    | none => (.nothing, .done (.returned
        { known := true, status := "PENDING", unreachable := true }))
    | some verdict =>
      (.report found.request.reference,
        if verdict.status = .pending then .done (.returned { known := true, status := "PENDING" })
        else if verdict.status = .successful ∧ !settlesAsked cfg found.request verdict then
          .mismatchRequest found verdict
        else .settle found verdict)
  | .mismatchRequest found verdict =>
    if answer.fails then (.nothing, .done .failed)
    else (.resolveRequest found.request.id .failed verdict.transactionId
      (some "Settled another amount than was requested"), .mismatchOrder found)
  | .mismatchOrder found =>
    if answer.fails then (.nothing, .done .failed)
    else (.stampPayment found.request.orderId .failed, .mismatchAudit found)
  | .mismatchAudit found =>
    (if answer.fails then .nothing
      else .audit { actionType := "PAYMENT_AMOUNT_MISMATCH", subject := found.request.orderId,
                    username := "MTN MoMo" },
      .done (.returned { known := true, status := "MISMATCH", changed := true }))
  | .settle found verdict =>
    if answer.fails then (.nothing, .done .failed)
    else if store.stillPending found.request.id then
      if verdict.status = .successful then
        (.resolveRequest found.request.id .successful verdict.transactionId none, .payOrder found)
      else
        (.resolveRequest found.request.id .failed verdict.transactionId
          (some (verdict.reason.getD verdict.status.word)), .failOrder found verdict)
    -- Somebody else settled it between the read and the write, and theirs stands.
    else (.nothing, .done (.returned { known := true, status := verdict.status.word }))
  | .failOrder found verdict =>
    if answer.fails then (.nothing, .done .failed)
    else (.stampPayment found.request.orderId .failed,
      .done (.returned { known := true, status := verdict.status.word, changed := true }))
  | .payOrder found =>
    if answer.fails then (.nothing, .done .failed)
    else (.stampPaid found.request.orderId, .queuePayout found (queueDriverPayout cfg found))
  | .queuePayout found queuing =>
    match queuing with
    | .thrown => (.nothing, .done .failed)
    | .done => (.nothing, .auditReceived found)
    | open_ =>
      let next := open_.next cfg store answer
      (next.1, .queuePayout found next.2)
  | .auditReceived found =>
    (if answer.fails then .nothing
      else .audit { actionType := "PAYMENT_RECEIVED", subject := found.request.orderId,
                    username := "MTN MoMo" },
      .done (.returned { known := true, status := "SUCCESSFUL", changed := true }))
  | .done outcome => (.nothing, .done outcome)

/-- What an open payout transaction of a settlement keeps locked. -/
def ReconcileCall.holds : ReconcileCall → List Lock
  | .queuePayout _ queuing => queuing.holds
  | _ => []

/-- Minutes after which an unanswered prompt is given up on. -/
def requestExpiryMinutes : Nat := 10

/-- How many requests one sweep looks at. -/
def sweepSize : Nat := 50

/-- One row of a sweep. -/
structure AgedRow where
  reference : Nat
  createdAt : Nat
  deriving DecidableEq

/-- What a sweep returns. -/
structure Swept where
  checked : Nat
  settled : Nat
  deriving DecidableEq

/-- A run of `sweepPendingPayments`, by its next statement. -/
inductive SweepCall where
  /-- About to read the unresolved requests. -/
  | selectPending
  /-- Settling one of them. -/
  | settling (row : AgedRow) (rest : List AgedRow) (tally : Swept) (inner : ReconcileCall)
  /-- About to give up on one of them. -/
  | timeOut (row : AgedRow) (rest : List AgedRow) (tally : Swept)
  | done (outcome : Outcome Swept)

/-- The unresolved requests, oldest first. -/
def pendingRows (store : Store) : List AgedRow :=
  (((store.requests.filter fun request => request.status = .pending).insertionSort
      fun first second => first.createdAt ≤ second.createdAt).take sweepSize).map
    fun request => { reference := request.reference, createdAt := request.createdAt }

/-- The sweep's loop: the next row, or the end. -/
def nextRow (rest : List AgedRow) (tally : Swept) : SweepCall :=
  match rest with
  | [] => .done (.returned tally)
  | row :: rest => .settling row rest tally (.selectRequest row.reference)

/-- What follows one settled row: a change is counted, and an old row nobody answered is given up. -/
def afterRow (now : Nat) (row : AgedRow) (rest : List AgedRow) (tally : Swept)
    (outcome : Outcome Reconciled) : SweepCall :=
  match outcome with
  | .returned result =>
    if result.changed then nextRow rest { tally with settled := tally.settled + 1 }
    else if !result.unreachable && row.createdAt + requestExpiryMinutes * minute < now then
      .timeOut row rest tally
    else nextRow rest tally
  -- A failure is caught, and the row is left for the next sweep.
  | .thrown _ | .failed => nextRow rest tally

/-- The statement a sweep is at, and where it stands afterwards. -/
def SweepCall.next (cfg : Config) (store : Store) (answer : Answer) :
    SweepCall → Statement × SweepCall
  | .selectPending =>
    if answer.fails then (.nothing, .done .failed)
    else
      let rows := pendingRows store
      (.nothing, nextRow rows { checked := rows.length, settled := 0 })
  -- One row after another, each by the same settlement as a webhook's.
  | .settling row rest tally inner =>
    match inner with
    | .done outcome => (.nothing, afterRow store.now row rest tally outcome)
    | open_ =>
      let next := open_.next cfg store answer
      (next.1, .settling row rest tally next.2)
  -- A row that nobody answered in time is given up on.
  | .timeOut row rest tally =>
    if answer.fails then (.nothing, .done .failed)
    else (.timeOutRequest row.reference, nextRow rest tally)
  | .done outcome => (.nothing, .done outcome)

/-- What the payout transaction of a sweep keeps locked. -/
def SweepCall.holds : SweepCall → List Lock
  | .settling _ _ _ inner => inner.holds
  | _ => []

end Freight.Payment
