import Freight.Payment.Keys

/-! Between a request that has succeeded and its payout: which calls are under way, and what a step does. -/

namespace Freight.Payment

/-- A payout transaction that has still to commit, and may. -/
def PayoutCall.underway : PayoutCall → Bool
  | .connect _ | .insertPayout _ | .lockDebts _ _ _ | .clearDebts _ _ _ _ _
  | .updatePayout _ _ _ _ _ | .commit _ _ _ _ _ => true
  | .rollback _ | .auditRecovered _ | .done | .thrown => false

/-- The earning a payout transaction is about. -/
def PayoutCall.earning : PayoutCall → Option Earning
  | .connect earning | .insertPayout earning | .lockDebts earning _ _ | .clearDebts earning _ _ _ _
  | .updatePayout earning _ _ _ _ | .commit earning _ _ _ _ | .auditRecovered earning => some earning
  | .rollback _ | .done | .thrown => none

/-- The request a settlement has marked successful, while its order or its payout is to follow. -/
def ReconcileCall.completing : ReconcileCall → Option Nat
  | .payOrder found => some found.request.id
  | .queuePayout found queuing => if queuing.underway then some found.request.id else none
  | _ => none

/-- The request a call has marked successful, while its order or its payout is to follow. -/
def PaymentCall.completing (call : PaymentCall) : Option Nat :=
  call.reconciling.bind ReconcileCall.completing

/-- There is a driver with a number money can be sent to, and a net to send. -/
def payee (cfg : Config) (assignedTo : Option String) (driverNet : Option ℚ) : Bool :=
  ((present assignedTo).bind (toMsisdn cfg.normalizePhone)).isSome && driverNet.isSome

/-- A call that may fail: it completes nothing, or nothing that matters. -/
def PaymentCall.spared (matters : Nat → Bool) (call : PaymentCall) : Bool :=
  call.completing.isNone || call.found.all fun found => !matters found.request.orderId

/-- No statement fails, and no process stops, between a request's success and its payout. -/
def finishes (matters : Nat → Bool) (pool : PaymentPool) : PaymentEvent → Bool
  | .run index answer => pool.calls[index]?.all fun call => !answer.fails || call.spared matters
  | .stop index => pool.calls[index]?.all fun call => call.spared matters
  | _ => true

/-- The earning a call is queuing is the one its order came to. -/
def PaymentCall.Earned (cfg : Config) (call : PaymentCall) : Prop :=
  ∀ found queuing, call.reconciling = some (.queuePayout found queuing) →
    ∀ earning, queuing.earning = some earning → queueDriverPayout cfg found = .connect earning

section
variable {cfg : Config} {store : Store} {answer : Answer}

/-- A payout transaction goes on with its earning, and commits nothing before its COMMIT. -/
theorem PayoutCall.next_earning {call : PayoutCall} {earning : Earning}
    (earns : (call.next cfg store answer).2.earning = some earning) : call.earning = some earning := by
  -- Each statement hands on the earning it was handed, or ends the transaction.
  cases call with
  | rollback | auditRecovered | done | thrown => cases earns
  | _ =>
    simp only [PayoutCall.next] at earns
    repeat' split at earns
    all_goals first | exact earns | cases earns

/-- What a payout transaction's step comes to: another statement, its COMMIT, or its end. -/
inductive PayoutStep (cfg : Config) (store : Store) (answer : Answer) :
    PayoutCall → Statement → PayoutCall → Prop where
  /-- Another statement of the transaction, which nobody else sees. -/
  | goes (call : PayoutCall) (statement : Statement) (next : PayoutCall) (before : call.underway = true)
      (after : next.underway = true)
      (inside : statement = .nothing ∨ (∃ keys, statement = .lock keys) ∨
        ∃ requestId, statement = .insertPayout requestId) :
      PayoutStep cfg store answer call statement next
  /-- COMMIT: the payout is there, and the debts it clears are settled. -/
  | commits (earning : Earning) (payoutId reference : Nat) (cleared locked : List Debt)
      (next : PayoutCall) (after : next.underway = false) (works : answer.fails = false) :
      PayoutStep cfg store answer (.commit earning payoutId reference cleared locked)
        (.commitPayout (committedPayout cfg store.now earning payoutId reference cleared)
          (cleared.map Debt.orderId)) next
  /-- A payout for this collection already exists. -/
  | exists (earning : Earning) (payout : DriverPayout) (listed : payout ∈ store.payouts)
      (same : payout.paymentRequestId = some earning.request.id) :
      PayoutStep cfg store answer (.insertPayout earning) .nothing (.rollback [])
  /-- A statement fails, and the transaction with it. -/
  | fails (call next : PayoutCall) (fails : answer.fails = true) (before : call.underway = true)
      (after : next.underway = false) : PayoutStep cfg store answer call .nothing next
  /-- There is no transaction any more. -/
  | ended (call : PayoutCall) (statement : Statement) (next : PayoutCall)
      (before : call.underway = false) (after : next.underway = false)
      (quiet : statement = .nothing ∨ ∃ entry, statement = .audit entry) :
      PayoutStep cfg store answer call statement next

/-- Every step of a payout transaction is one of these. -/
theorem PayoutCall.next_step (call : PayoutCall) :
    PayoutStep cfg store answer call (call.next cfg store answer).1 (call.next cfg store answer).2 := by
  cases call with
  | connect earning =>
    simp only [PayoutCall.next]
    split
    · rename_i fails
      exact .fails _ _ fails rfl rfl
    · exact .goes _ _ _ rfl rfl (.inl rfl)
  | insertPayout earning =>
    simp only [PayoutCall.next]
    split
    · rename_i fails
      exact .fails _ _ fails rfl rfl
    · split
      · -- A payout for the request is there already, and the transaction ends.
        rename_i there
        obtain ⟨payout, listed, same⟩ := List.any_eq_true.mp there
        exact .exists earning payout listed (by simpa using same)
      · exact .goes _ _ _ rfl rfl (.inr (.inr ⟨_, rfl⟩))
  | lockDebts earning payoutId reference =>
    simp only [PayoutCall.next]
    split
    · rename_i fails
      exact .fails _ _ fails rfl rfl
    · split
      · -- Debts may be netted or not; either way the transaction goes on.
        exact .goes _ _ _ rfl rfl (.inl rfl)
      · split
        · exact .goes _ _ _ rfl rfl (.inr (.inl ⟨_, rfl⟩))
        · exact .goes _ _ _ rfl rfl (.inr (.inl ⟨_, rfl⟩))
  | clearDebts earning payoutId reference cleared locked
  | updatePayout earning payoutId reference cleared locked =>
    simp only [PayoutCall.next]
    split
    · rename_i fails
      exact .fails _ _ fails rfl rfl
    · exact .goes _ _ _ rfl rfl (.inl rfl)
  | commit earning payoutId reference cleared locked =>
    simp only [PayoutCall.next]
    split
    · rename_i fails
      exact .fails _ _ fails rfl rfl
    · rename_i works
      exact .commits earning payoutId reference cleared locked _ (by split <;> rfl)
        (by simpa using works)
  | auditRecovered earning =>
    refine .ended _ _ _ rfl rfl ?_
    simp only [PayoutCall.next]
    split
    · exact .inl rfl
    · exact .inr ⟨_, rfl⟩
  | rollback | done | thrown => exact .ended _ _ _ rfl rfl (.inl rfl)

/-- What a settlement's step means for the request it may have marked successful. -/
inductive CompletionStep (cfg : Config) (store : Store) (answer : Answer) :
    ReconcileCall → Statement → ReconcileCall → Prop where
  /-- The request is marked successful, over a row still pending. -/
  | flips (found : Found) (verdict : Verdict) (works : answer.fails = false)
      (pending : store.stillPending found.request.id = true) (succeeded : verdict.status = .successful) :
      CompletionStep cfg store answer (.settle found verdict)
        (.resolveRequest found.request.id .successful verdict.transactionId none) (.payOrder found)
  /-- Its order is marked paid. -/
  | pays (found : Found) (works : answer.fails = false) :
      CompletionStep cfg store answer (.payOrder found) (.stampPaid found.request.orderId)
        (.queuePayout found (queueDriverPayout cfg found))
  /-- Its order could not be marked paid. -/
  | unpaid (found : Found) (fails : answer.fails = true) :
      CompletionStep cfg store answer (.payOrder found) .nothing (.done .failed)
  /-- Its payout is being queued. -/
  | queues (found : Found) (queuing next : PayoutCall) (statement : Statement)
      (step : PayoutStep cfg store answer queuing statement next)
      (earns : ∀ earning, next.earning = some earning → queuing.earning = some earning) :
      CompletionStep cfg store answer (.queuePayout found queuing) statement (.queuePayout found next)
  /-- Nothing is being completed. -/
  | idle (call next : ReconcileCall) (statement : Statement) (before : call.completing = none)
      (after : ∀ found, next ≠ .payOrder found ∧ ∀ queuing, next ≠ .queuePayout found queuing)
      (quiet : ∀ payout cleared, statement ≠ .commitPayout payout cleared)
      (unpaid : ∀ orderId, statement ≠ .stampPaid orderId)
      (other : ∀ id transactionId reason,
        statement ≠ .resolveRequest id .successful transactionId reason) :
      CompletionStep cfg store answer call statement next

/-- Every step of a settlement is one of these. -/
theorem ReconcileCall.completionStep (call : ReconcileCall) :
    CompletionStep cfg store answer call (call.next cfg store answer).1 (call.next cfg store answer).2 := by
  -- A request is being completed from its verdict to the COMMIT of its payout.
  cases call with
  | settle found verdict =>
    simp only [ReconcileCall.next]
    split
    · exact .idle _ _ _ rfl (by simp) (by simp) (by simp) (by simp)
    · rename_i works
      split
      · rename_i pending
        split
        · -- The one step that makes a request successful.
          rename_i succeeded
          exact .flips found verdict (by simpa using works) pending succeeded
        · exact .idle _ _ _ rfl (by simp) (by simp) (by simp) (by simp)
      · exact .idle _ _ _ rfl (by simp) (by simp) (by simp) (by simp)
  | payOrder found =>
    simp only [ReconcileCall.next]
    split
    · rename_i fails
      exact .unpaid found fails
    · rename_i works
      exact .pays found (by simpa using works)
  | queuePayout found queuing =>
    simp only [ReconcileCall.next]
    split
    · exact .idle _ _ _ rfl (by simp) (by simp) (by simp) (by simp)
    · exact .idle _ _ _ rfl (by simp) (by simp) (by simp) (by simp)
    · exact .queues found queuing _ _ queuing.next_step fun _ => PayoutCall.next_earning
  | _ =>
    simp only [ReconcileCall.next]
    repeat' split
    all_goals exact .idle _ _ _ rfl (by simp) (by simp) (by simp) (by simp)

/-- A step is a settlement's own, or completes nothing before and after. -/
theorem PaymentCall.completion_cases (cfg : Config) (store : Store) (answer : Answer)
    (call : PaymentCall) :
    (∃ inner, call.reconciling = some inner ∧
      (call.next cfg store answer).1 = (inner.next cfg store answer).1 ∧
      (call.next cfg store answer).2.reconciling = some (inner.next cfg store answer).2) ∨
    (call.completing = none ∧ (call.next cfg store answer).1.settles = false ∧
      ∀ inner, (call.next cfg store answer).2.reconciling = some inner →
        (∃ reference, inner = .selectRequest reference) ∨ ∃ outcome, inner = .done outcome) := by
  -- The steps are told apart already; what is new is that those outside complete nothing.
  rcases call.next_cases cfg store answer with own | ⟨quiet, begins⟩
  · exact .inl own
  · cases settling : call.reconciling with
    | none => exact .inr ⟨by simp [PaymentCall.completing, settling], quiet, begins⟩
    | some inner =>
      by_cases finished : ∃ outcome, inner = .done outcome
      · obtain ⟨outcome, rfl⟩ := finished
        exact .inr ⟨by simp [PaymentCall.completing, settling, ReconcileCall.completing], quiet, begins⟩
      · exact .inl ⟨inner, rfl, call.next_reconciling settling fun outcome same =>
          finished ⟨outcome, same⟩⟩

/-- A payout is queued for the found order's driver and net, or not at all. -/
theorem queueDriverPayout_cases (found : Found) :
    queueDriverPayout cfg found = .done ∨ ∃ earning, queueDriverPayout cfg found = .connect earning ∧
      earning.request = found.request ∧ present found.assignedTo = some earning.driver ∧
      found.driverNet = some earning.gross := by
  -- Without a driver or a net there is nothing to queue.
  simp only [queueDriverPayout]
  split
  · rename_i driver net assigned priced
    split
    · exact .inl rfl
    · exact .inr ⟨_, rfl, rfl, assigned, priced⟩
  · exact .inl rfl

/-- Nothing is queued where there is nobody to pay, or nothing to pay. -/
theorem payee_of_done {found : Found} (done : queueDriverPayout cfg found = .done) :
    payee cfg found.assignedTo found.driverNet = false := by
  simp only [queueDriverPayout] at done
  split at done
  · rename_i driver earned there priced
    split at done
    · -- There is somebody to pay, whose number is none that can be paid.
      rename_i unpayable
      simp [payee, there, unpayable]
    · cases done
  · rename_i missing
    cases there : present found.assignedTo with
    | none => simp [payee, there]
    | some driver =>
      cases priced : found.driverNet with
      | none => simp [payee]
      | some earned => exact absurd priced (missing driver earned there)

/-- A queued earning is the found request's. -/
theorem queueDriverPayout_connect {found : Found} {earning : Earning}
    (queues : queueDriverPayout cfg found = .connect earning) :
    earning.request = found.request ∧ present found.assignedTo = some earning.driver ∧
      found.driverNet = some earning.gross := by
  -- Of the two cases, it is the one that queues.
  rcases @queueDriverPayout_cases cfg found with none | ⟨queued, connects, facts⟩
  · rw [none] at queues
    cases queues
  · rw [connects] at queues
    cases queues
    exact facts

/-- A request being completed is the one that was read. -/
theorem PaymentCall.found_of_completing {call : PaymentCall} {id : Nat}
    (completes : call.completing = some id) :
    ∃ found, call.found = some found ∧ found.request.id = id := by
  cases settling : call.reconciling with
  | none => simp [PaymentCall.completing, settling] at completes
  | some inner =>
    simp only [PaymentCall.completing, settling, Option.bind_some] at completes
    -- Only two steps are in the middle of completing, and both carry what was read.
    cases inner with
    | payOrder found =>
      exact ⟨found, by rw [PaymentCall.found, settling]; rfl, Option.some.inj completes⟩
    | queuePayout found queuing =>
      simp only [ReconcileCall.completing] at completes
      split at completes
      · exact ⟨found, by rw [PaymentCall.found, settling]; rfl, Option.some.inj completes⟩
      · cases completes
    | _ => cases completes

/-- A request that is no longer pending never is again. -/
theorem onRequest_settled {statement : Statement} {now : Nat} {row : PaymentRequest}
    (settled : row.status ≠ .pending) : (statement.onRequest now row).status ≠ .pending := by
  -- A verdict and a time-out write to pending rows, and a failure writes that it has failed.
  cases statement with
  | failRequest | resolveRequest | timeOutRequest =>
    simp only [Statement.onRequest]
    split
    · simp_all
    · exact settled
  | _ => exact settled

/-- Only a verdict makes a request successful, over a row still pending. -/
theorem onRequest_successful {statement : Statement} {now : Nat} {row : PaymentRequest}
    (succeeds : (statement.onRequest now row).status = .successful) :
    row.status = .successful ∨ row.status = .pending ∧
      ∃ transactionId reason, statement = .resolveRequest row.id .successful transactionId reason := by
  -- Of the three statements that write a status, two write that it has failed.
  cases statement with
  | failRequest | timeOutRequest =>
    simp only [Statement.onRequest] at succeeds
    split at succeeds
    · cases succeeds
    · exact .inl succeeds
  | resolveRequest id status transactionId reason =>
    simp only [Statement.onRequest] at succeeds
    split at succeeds
    · rename_i own
      obtain ⟨rfl, pending⟩ := own
      exact .inr ⟨pending, transactionId, reason, by rw [show status = .successful from succeeds]⟩
    · exact .inl succeeds
  | _ => exact .inl succeeds

/-- A successful request stays so, unless the catch block fails it. -/
theorem onRequest_stays {statement : Statement} {now : Nat} {row : PaymentRequest}
    (succeeded : row.status = .successful)
    (spared : ∀ reason, statement ≠ .failRequest row.id reason) :
    (statement.onRequest now row).status = .successful := by
  -- A verdict and a time-out pass it by, and it is another that is failed.
  cases statement with
  | failRequest id reason =>
    have apart : row.id ≠ id := fun same => spared reason (by rw [same])
    simp [Statement.onRequest, apart, succeeded]
  | resolveRequest | timeOutRequest => simp [Statement.onRequest, succeeded]
  | _ => exact succeeded

/-- The step of a call that marks a request successful. -/
structure Flips (cfg : Config) (store : Store) (answer : Answer) (call : PaymentCall) (found : Found)
    (verdict : Verdict) : Prop where
  settling : call.reconciling = some (.settle found verdict)
  works : answer.fails = false
  pending : store.stillPending found.request.id = true
  succeeded : verdict.status = .successful
  writes : (call.next cfg store answer).1 =
    .resolveRequest found.request.id .successful verdict.transactionId none
  next : (call.next cfg store answer).2.reconciling = some (.payOrder found)

/-- A call about to mark an order paid has just marked its request successful. -/
theorem PaymentCall.flips_of_payOrder {call : PaymentCall} {found : Found}
    (pays : (call.next cfg store answer).2.reconciling = some (.payOrder found)) :
    ∃ verdict, Flips cfg store answer call found verdict := by
  -- It is a settlement's step, and only a verdict of success leads there.
  rcases call.completion_cases cfg store answer with ⟨inner, settling, statement, next⟩ | ⟨-, -, begins⟩
  · have step := @ReconcileCall.completionStep cfg store answer inner
    have after : (inner.next cfg store answer).2 = .payOrder found := Option.some.inj (next.symm.trans pays)
    rw [after, ← statement] at step
    generalize written : (call.next cfg store answer).1 = sql at step
    cases step with
    | flips found verdict works pending succeeded =>
      exact ⟨verdict, settling, works, pending, succeeded, written, pays⟩
    | idle _ _ _ _ ends => exact absurd rfl (ends found).1
  · rcases begins _ pays with ⟨reference, begun⟩ | ⟨outcome, begun⟩ <;> cases begun

/-- A verdict of success is written by the call that will mark the order paid. -/
theorem PaymentCall.flips_of_resolve {call : PaymentCall} {id : Nat}
    {transactionId reason : Option String}
    (resolves : (call.next cfg store answer).1 = .resolveRequest id .successful transactionId reason) :
    ∃ found verdict, id = found.request.id ∧ Flips cfg store answer call found verdict := by
  -- Of the two verdicts that are written, the other is a failure.
  obtain ⟨inner, settling, statement, next⟩ := call.settling_of_settles (by rw [resolves]; rfl)
  rw [resolves] at statement
  rcases inner.next_resolveRequest statement.symm with
      ⟨found, verdict, rfl, own, -, -, ended⟩ | ⟨found, verdict, rfl, own, failed, -⟩
  · rcases ended with ⟨-, -, pays⟩ | ⟨-, failed, -⟩
    · obtain ⟨verdict, flips⟩ := PaymentCall.flips_of_payOrder (next.trans (congrArg some pays))
      exact ⟨found, verdict, own, flips⟩
    · cases failed
  · cases failed

/-- A row that is successful after a step was so before, or has just been marked. -/
theorem PaymentCall.successful_cases {call : PaymentCall} {row : PaymentRequest}
    (listed : row ∈ ((call.next cfg store answer).1.execute store).requests)
    (succeeds : row.status = .successful) :
    ∃ old ∈ store.requests, old.id = row.id ∧ old.orderId = row.orderId ∧ old.amount = row.amount ∧
      (old.status = .successful ∨
        ∃ found verdict, old.id = found.request.id ∧ Flips cfg store answer call found verdict) := by
  rcases mem_execute_requests.mp listed with ⟨old, before, rfl⟩ | inserts
  · have same := onRequest_same (call.next cfg store answer).1 store.now old
    refine ⟨old, before, same.1.symm, same.2.1.symm, same.2.2.2.1.symm, ?_⟩
    rcases onRequest_successful succeeds with was | ⟨-, transactionId, reason, resolves⟩
    · exact .inl was
    · exact .inr (PaymentCall.flips_of_resolve resolves)
  · -- A new request is pending.
    obtain ⟨charge, currency, -, rfl, -⟩ := inserted inserts
    cases succeeds

/-- A statement that commits no payout leaves the payouts as they are. -/
theorem execute_payouts {statement : Statement} (store : Store)
    (quiet : ∀ payout cleared, statement ≠ .commitPayout payout cleared) :
    (statement.execute store).payouts = store.payouts := by
  -- Payouts go on record in one statement, and this is not it.
  cases statement <;> simp_all [Statement.execute]

/-- A row that is inserted is open. -/
theorem inserted_open {call : PaymentCall} {row : PaymentRequest}
    (inserts : (call.next cfg store answer).1 = .insertRequest row) : row.status = .pending := by
  -- It is a new request, and those begin pending.
  obtain ⟨charge, currency, -, rfl, -⟩ := inserted inserts
  rfl

/-- A call goes on with the earning its order came to. -/
theorem PaymentCall.next_earned {call : PaymentCall} (earned : call.Earned cfg) :
    (call.next cfg store answer).2.Earned cfg := by
  intro found queuing queues earning earns
  rcases call.completion_cases cfg store answer with ⟨inner, settling, -, next⟩ | ⟨-, -, begins⟩
  · have step := @ReconcileCall.completionStep cfg store answer inner
    rw [Option.some.inj (next.symm.trans queues)] at step
    generalize (inner.next cfg store answer).1 = sql at step
    cases step with
    | pays found works =>
      -- Queuing a payout begins with what its order comes to.
      rcases @queueDriverPayout_cases cfg found with none | ⟨earned, connects, -⟩
      · rw [none] at earns
        cases earns
      · rw [connects] at earns ⊢
        cases earns
        rfl
    | queues found before _ _ _ keeps => exact earned found before settling earning (keeps earning earns)
    | idle _ _ _ _ ends => exact absurd rfl ((ends found).2 queuing)
  · rcases begins _ queues with ⟨reference, begun⟩ | ⟨outcome, begun⟩ <;> cases begun

/-- What a call's step means for the request it may be completing. -/
inductive Progress (cfg : Config) (store : Store) (answer : Answer) (call : PaymentCall) : Prop where
  /-- It completes what it completed before, or nothing still. -/
  | goes (same : (call.next cfg store answer).2.completing = call.completing)
      (read : ∀ found, call.completing.isSome → call.found = some found →
        (call.next cfg store answer).2.found = some found)
      (uncommitted : ∀ payout cleared, (call.next cfg store answer).1 ≠ .commitPayout payout cleared)
      (other : ∀ id transactionId reason,
        (call.next cfg store answer).1 ≠ .resolveRequest id .successful transactionId reason)
  /-- It gives up: a statement failed, nothing was owed, or a payout was there already. -/
  | drops (ended : (call.next cfg store answer).2.completing = none)
      (why : answer.fails = true ∨
        (∃ found, call.reconciling = some (.payOrder found) ∧ answer.fails = false ∧
          queueDriverPayout cfg found = .done) ∨
        ∃ found earning, call.reconciling = some (.queuePayout found (.insertPayout earning)) ∧
          ∃ payout ∈ store.payouts, payout.paymentRequestId = some earning.request.id)
      (uncommitted : ∀ payout cleared, (call.next cfg store answer).1 ≠ .commitPayout payout cleared)
      (other : ∀ id transactionId reason,
        (call.next cfg store answer).1 ≠ .resolveRequest id .successful transactionId reason)
  /-- It marks a request successful. -/
  | flips (found : Found) (verdict : Verdict) (flips : Flips cfg store answer call found verdict)
  /-- It commits the payout. -/
  | commits (found : Found) (earning : Earning) (payoutId reference : Nat) (cleared locked : List Debt)
      (queuing : call.reconciling =
        some (.queuePayout found (.commit earning payoutId reference cleared locked)))
      (works : answer.fails = false)
      (writes : (call.next cfg store answer).1 =
        .commitPayout (committedPayout cfg store.now earning payoutId reference cleared)
          (cleared.map Debt.orderId))
      (ended : (call.next cfg store answer).2.completing = none)

/-- Every step of a call is one of these. -/
theorem PaymentCall.progress (cfg : Config) (store : Store) (answer : Answer) (call : PaymentCall) :
    Progress cfg store answer call := by
  rcases call.completion_cases cfg store answer with
      ⟨inner, settling, statement, next⟩ | ⟨idle, unsettled, begins⟩
  · -- Inside a settlement, what is completed and what was read are the settlement's.
    have now : call.completing = inner.completing := by simp [PaymentCall.completing, settling]
    have later : (call.next cfg store answer).2.completing =
        (inner.next cfg store answer).2.completing := by simp [PaymentCall.completing, next]
    have read : (call.next cfg store answer).2.found = (inner.next cfg store answer).2.found := by
      simp [PaymentCall.found, next]
    have before : call.found = inner.found := by simp [PaymentCall.found, settling]
    have step := @ReconcileCall.completionStep cfg store answer inner
    generalize ran : inner.next cfg store answer = taken at step statement next later read
    obtain ⟨sql, after⟩ := taken
    simp only at step statement next later read
    cases step with
    | idle _ _ _ idle ends quiet unpaid other =>
      refine .goes ?_ (fun found completes => ?_) (by rw [statement]; exact quiet)
        (by rw [statement]; exact other)
      · rw [now, later, idle]
        -- A step that completes nothing does not begin to.
        cases after with
        | payOrder found => exact absurd rfl (ends found).1
        | queuePayout found queuing => exact absurd rfl ((ends found).2 queuing)
        | _ => rfl
      · simp [now, idle] at completes
    | flips found verdict works pending succeeded =>
      obtain ⟨verdict, flips⟩ := PaymentCall.flips_of_payOrder next
      exact .flips found verdict flips
    | unpaid found fails =>
      exact .drops later (.inl fails) (by simp [statement]) (by simp [statement])
    | pays found works =>
      rcases @queueDriverPayout_cases cfg found with none | ⟨earned, connects, -⟩
      · exact .drops (by rw [later, none]; rfl) (.inr (.inl ⟨found, settling, works, none⟩))
          (by simp [statement]) (by simp [statement])
      · refine .goes (by rw [now, later, connects]; rfl) (fun other _ reads => ?_) (by simp [statement])
          (by simp [statement])
        rw [read]
        exact before.symm.trans reads
    | queues found queuing further _ step keeps =>
      -- The payout is of the request that was read, whatever step it is at.
      have kept : ∀ other, call.completing.isSome → call.found = some other →
          (call.next cfg store answer).2.found = some other := fun other _ reads => by
        rw [read]
        exact before.symm.trans reads
      cases step with
      | goes _ _ _ under further inside =>
        refine .goes (by simp [now, later, ReconcileCall.completing, under, further]) kept ?_ ?_
        · rcases inside with rfl | ⟨keys, rfl⟩ | ⟨requestId, rfl⟩ <;> simp [statement]
        · rcases inside with rfl | ⟨keys, rfl⟩ | ⟨requestId, rfl⟩ <;> simp [statement]
      | commits earning payoutId reference cleared locked _ ended works =>
        exact .commits found earning payoutId reference cleared locked settling works statement
          (by simp [later, ReconcileCall.completing, ended])
      | «exists» earning payout listed same =>
        exact .drops (by simp [later, ReconcileCall.completing, PayoutCall.underway])
          (.inr (.inr ⟨found, earning, settling, payout, listed, same⟩)) (by simp [statement])
          (by simp [statement])
      | fails _ _ fails under ended =>
        exact .drops (by simp [later, ReconcileCall.completing, ended]) (.inl fails) (by simp [statement])
          (by simp [statement])
      | ended _ _ _ under ended quiet =>
        refine .goes (by simp [now, later, ReconcileCall.completing, under, ended]) kept ?_ ?_
        · rcases quiet with rfl | ⟨entry, rfl⟩ <;> simp [statement]
        · rcases quiet with rfl | ⟨entry, rfl⟩ <;> simp [statement]
  · refine .goes ?_ (fun found completes => by simp [idle] at completes) (fun payout cleared same => ?_)
      fun id transactionId reason same => ?_
    · rw [idle]
      cases settling : (call.next cfg store answer).2.reconciling with
      | none => simp [PaymentCall.completing, settling]
      | some inner =>
        rcases begins inner settling with ⟨reference, rfl⟩ | ⟨outcome, rfl⟩ <;>
          simp [PaymentCall.completing, settling, ReconcileCall.completing]
    · rw [same] at unsettled
      cases unsettled
    · rw [same] at unsettled
      cases unsettled

end

end Freight.Payment
