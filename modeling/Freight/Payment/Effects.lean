import Freight.Payment.System

/-! Which call runs which statement, and what a statement leaves as it is. -/

namespace Freight.Payment

section
variable {cfg : Config} {store : Store} {answer : Answer}

/-- The statements only a settlement of a payment request runs. -/
def Statement.settles : Statement → Bool
  | .resolveRequest _ _ _ _ | .stampPaid _ | .insertPayout _ | .commitPayout _ _ => true
  | _ => false

/-- A call in the middle of a settlement runs the settlement's next statement. -/
theorem PaymentCall.next_reconciling {call : PaymentCall} {inner : ReconcileCall}
    (settling : call.reconciling = some inner) (unfinished : ∀ outcome, inner ≠ .done outcome) :
    (call.next cfg store answer).1 = (inner.next cfg store answer).1 ∧
      (call.next cfg store answer).2.reconciling = some (inner.next cfg store answer).2 := by
  -- By itself or inside a sweep, it is the same statement.
  cases call with
  | reconcile call =>
    cases settling
    exact ⟨rfl, rfl⟩
  | sweep call =>
    cases call with
    | settling row rest tally call =>
      cases settling
      cases inner with
      | done outcome => exact absurd rfl (unfinished outcome)
      | _ => exact ⟨rfl, rfl⟩
    | _ => cases settling
  | _ => cases settling

/-- A finished settlement writes nothing more. -/
theorem PaymentCall.next_finished {call : PaymentCall} {outcome : Outcome Reconciled}
    (settling : call.reconciling = some (.done outcome)) :
    (call.next cfg store answer).1 = .nothing := by
  -- By itself it is over; inside a sweep the next statement is the sweep's own.
  cases call with
  | reconcile call =>
    cases settling
    rfl
  | sweep call =>
    cases call with
    | settling row rest tally call =>
      cases settling
      rfl
    | _ => cases settling
  | _ => cases settling

/-- Outside settlements nothing settles. -/
theorem PaymentCall.next_settles {call : PaymentCall} (none : call.reconciling = none) :
    (call.next cfg store answer).1.settles = false := by
  cases call with
  | reconcile call => cases none
  | sweep call =>
    cases call with
    | settling row rest tally call => cases none
    | _ =>
      -- Reading and counting settle nothing; the rows are settled by the settlement of each.
      simp only [PaymentCall.next, SweepCall.next]
      repeat' split
      all_goals rfl
  | request call =>
    cases call <;> simp only [PaymentCall.next, RequestCall.next] <;> repeat' split
    all_goals rfl
  | cash call =>
    cases call <;> simp only [PaymentCall.next, CashCall.next] <;> repeat' split
    all_goals rfl
  | dispatch call =>
    cases call <;> simp only [PaymentCall.next, DispatchCall.next] <;> repeat' split
    all_goals rfl
  | settlementRequest call =>
    cases call <;> simp only [PaymentCall.next, SettlementRequestCall.next] <;> repeat' split
    all_goals rfl
  | settlement call =>
    cases call <;> simp only [PaymentCall.next, SettlementCall.next] <;> repeat' split
    all_goals rfl
  | stopped => rfl

/-- A sweep turning to another row begins by reading it. -/
theorem nextRow_reconciling {rest : List AgedRow} {tally : Swept} {inner : ReconcileCall}
    (settling : (PaymentCall.sweep (nextRow rest tally)).reconciling = some inner) :
    ∃ reference, inner = .selectRequest reference := by
  -- With no row left the sweep is over.
  cases rest with
  | nil => cases settling
  | cons row rest =>
    cases settling
    exact ⟨row.reference, rfl⟩

/-- Whatever a settled row came to, a sweep goes on by reading another. -/
theorem afterRow_reconciling {now : Nat} {row : AgedRow} {rest : List AgedRow} {tally : Swept}
    {outcome : Outcome Reconciled} {inner : ReconcileCall}
    (settling : (PaymentCall.sweep (afterRow now row rest tally outcome)).reconciling = some inner) :
    ∃ reference, inner = .selectRequest reference := by
  -- There is another row to turn to, or this one is to be timed out first.
  cases outcome with
  | returned result =>
    simp only [afterRow] at settling
    split at settling
    · exact nextRow_reconciling settling
    · split at settling
      · cases settling
      · exact nextRow_reconciling settling
  | thrown | failed => exact nextRow_reconciling settling

/-- A call that is in the middle of no settlement can only begin one, by reading a request. -/
theorem PaymentCall.next_begins {call : PaymentCall}
    (idle : ∀ inner, call.reconciling = some inner → ∃ outcome, inner = .done outcome)
    {inner : ReconcileCall} (begins : (call.next cfg store answer).2.reconciling = some inner) :
    (∃ reference, inner = .selectRequest reference) ∨ ∃ outcome, inner = .done outcome := by
  cases call with
  | reconcile call =>
    obtain ⟨outcome, rfl⟩ := idle call rfl
    cases begins
    exact .inr ⟨outcome, rfl⟩
  | sweep call =>
    refine .inl ?_
    cases call with
    | settling row rest tally call =>
      obtain ⟨outcome, rfl⟩ := idle call rfl
      -- The sweep goes on with its next row, from the beginning.
      exact afterRow_reconciling begins
    | selectPending =>
      simp only [PaymentCall.next, SweepCall.next] at begins
      split at begins
      · cases begins
      · exact nextRow_reconciling begins
    | timeOut row rest tally =>
      simp only [PaymentCall.next, SweepCall.next] at begins
      split at begins
      · cases begins
      · exact nextRow_reconciling begins
    | done outcome => cases begins
  | _ => cases begins

/-- Every step is a settlement's own, or is taken outside settlements. -/
theorem PaymentCall.next_cases (cfg : Config) (store : Store) (answer : Answer) (call : PaymentCall) :
    (∃ inner, call.reconciling = some inner ∧
      (call.next cfg store answer).1 = (inner.next cfg store answer).1 ∧
      (call.next cfg store answer).2.reconciling = some (inner.next cfg store answer).2) ∨
    ((call.next cfg store answer).1.settles = false ∧
      ∀ inner, (call.next cfg store answer).2.reconciling = some inner →
        (∃ reference, inner = .selectRequest reference) ∨ ∃ outcome, inner = .done outcome) := by
  cases settling : call.reconciling with
  | none =>
    exact .inr ⟨call.next_settles settling, fun inner begins =>
      call.next_begins (by simp [settling]) begins⟩
  | some inner =>
    -- A settlement that is done only hands on to the next one.
    by_cases finished : ∃ outcome, inner = .done outcome
    · obtain ⟨outcome, rfl⟩ := finished
      refine .inr ⟨by rw [call.next_finished settling]; rfl, fun inner begins =>
        call.next_begins (fun other same => ⟨outcome, ?_⟩) begins⟩
      rw [settling] at same
      exact (Option.some.inj same).symm
    · exact .inl ⟨inner, rfl, call.next_reconciling settling fun outcome same =>
        finished ⟨outcome, same⟩⟩

/-- A settling statement is the next one of a settlement in progress. -/
theorem PaymentCall.settling_of_settles {call : PaymentCall}
    (settles : (call.next cfg store answer).1.settles = true) :
    ∃ inner, call.reconciling = some inner ∧
      (call.next cfg store answer).1 = (inner.next cfg store answer).1 ∧
      (call.next cfg store answer).2.reconciling = some (inner.next cfg store answer).2 := by
  -- Any other statement settles nothing.
  rcases call.next_cases cfg store answer with own | ⟨quiet, -⟩
  · exact own
  · rw [quiet] at settles
    cases settles

/-- The payout transaction never touches a request or an order's payment status. -/
theorem PayoutCall.next_spares (call : PayoutCall) :
    (∀ id status transactionId reason,
      (call.next cfg store answer).1 ≠ .resolveRequest id status transactionId reason) ∧
    (∀ id, (call.next cfg store answer).1 ≠ .stampPaid id) := by
  -- Its statements write payouts, debts and the audit log.
  cases call <;> simp only [PayoutCall.next] <;> repeat' split
  all_goals simp

/-- A request is resolved by its verdict, over a row still pending, or by a mismatch. -/
theorem ReconcileCall.next_resolveRequest {call : ReconcileCall} {id : Nat} {status : RequestStatus}
    {transactionId reason : Option String}
    (resolves : (call.next cfg store answer).1 = .resolveRequest id status transactionId reason) :
    (∃ found verdict, call = .settle found verdict ∧ id = found.request.id ∧
      store.stillPending id = true ∧ answer.fails = false ∧
      ((verdict.status = .successful ∧ status = .successful ∧
        (call.next cfg store answer).2 = .payOrder found) ∨
      (verdict.status ≠ .successful ∧ status = .failed ∧
        (call.next cfg store answer).2 = .failOrder found verdict))) ∨
    (∃ found verdict, call = .mismatchRequest found verdict ∧ id = found.request.id ∧
      status = .failed ∧ (call.next cfg store answer).2 = .mismatchOrder found) := by
  cases call with
  | settle found verdict =>
    refine .inl ⟨found, verdict, rfl, ?_⟩
    simp only [ReconcileCall.next] at resolves ⊢
    split at resolves
    · cases resolves
    · rename_i works
      split at resolves
      · -- The row is claimed while it waits, and the verdict decides which of the two it becomes.
        rename_i pending
        split at resolves
        · rename_i succeeded
          cases resolves
          simp [pending, succeeded, works]
        · rename_i other
          cases resolves
          simp [pending, other, works]
      · cases resolves
  | mismatchRequest found verdict =>
    refine .inr ⟨found, verdict, rfl, ?_⟩
    simp only [ReconcileCall.next] at resolves ⊢
    split at resolves
    · cases resolves
    · rename_i works
      cases resolves
      simp [works]
  | queuePayout found queuing =>
    simp only [ReconcileCall.next] at resolves
    split at resolves
    · cases resolves
    · cases resolves
    · -- A payout resolves no request.
      exact absurd resolves (queuing.next_spares.1 _ _ _ _)
  | _ =>
    simp only [ReconcileCall.next] at resolves
    repeat' split at resolves
    all_goals cases resolves

/-- An order is marked paid right after its request succeeded, and its payout is queued next. -/
theorem ReconcileCall.next_stampPaid {call : ReconcileCall} {id : Nat}
    (stamps : (call.next cfg store answer).1 = .stampPaid id) :
    ∃ found, call = .payOrder found ∧ id = found.request.orderId ∧
      (call.next cfg store answer).2 = .queuePayout found (queueDriverPayout cfg found) := by
  cases call with
  | payOrder found =>
    refine ⟨found, rfl, ?_⟩
    simp only [ReconcileCall.next] at stamps ⊢
    split at stamps
    · cases stamps
    · rename_i works
      cases stamps
      simp [works]
  | queuePayout found queuing =>
    simp only [ReconcileCall.next] at stamps
    split at stamps
    · cases stamps
    · cases stamps
    · -- A payout marks no order paid.
      exact absurd stamps (queuing.next_spares.2 _)
  | _ =>
    simp only [ReconcileCall.next] at stamps
    repeat' split at stamps
    all_goals cases stamps

/-- Statements that touch requests, prompts or cash, and that no payout transaction runs. -/
def Statement.collects : Statement → Bool
  | .insertRequest _ | .accept _ | .failRequest _ _ | .timeOutRequest _ | .takeCash _ => true
  | _ => false

/-- A settlement of a request collects nothing new. -/
theorem ReconcileCall.next_collects (call : ReconcileCall) :
    (call.next cfg store answer).1.collects = false := by
  -- Its statements are a row's and a stamp, and those of the payout transaction.
  cases call with
  | queuePayout found queuing =>
    simp only [ReconcileCall.next]
    split
    · rfl
    · rfl
    · cases queuing <;> simp only [PayoutCall.next] <;> repeat' split
      all_goals rfl
  | _ =>
    simp only [ReconcileCall.next]
    repeat' split
    all_goals rfl

/-- A call in the middle of a settlement collects nothing new. -/
theorem PaymentCall.next_collects {call : PaymentCall} {inner : ReconcileCall}
    (settling : call.reconciling = some inner) : (call.next cfg store answer).1.collects = false := by
  -- Finished it writes nothing; otherwise it is a settlement's own statement.
  by_cases finished : ∃ outcome, inner = .done outcome
  · obtain ⟨outcome, rfl⟩ := finished
    rw [call.next_finished settling]
    rfl
  · rw [(call.next_reconciling settling fun outcome same => finished ⟨outcome, same⟩).1]
    exact inner.next_collects

/-- What a step that collects is: which call runs it, and where that call stands afterwards. -/
inductive Collects (cfg : Config) (store : Store) (answer : Answer) :
    PaymentCall → Statement → PaymentCall → Prop where
  /-- A request row is written, over no pending one. -/
  | insert (charge : Charge) (currency : Text) (named : charge.currency = some currency)
      (none : store.pendingRequest charge.orderId = none) :
      Collects cfg store answer (.request (.insertRequest charge))
        (.insertRequest (newRequest store charge currency))
        (.request (.requestToPay store.nextId store.nextId charge))
  /-- MTN takes in a fare's prompt, and says so. -/
  | accept (requestId reference : Nat) (charge : Charge) (currency : Text)
      (resolved : resolveSettlementCurrency cfg.upper charge.currency cfg.momoCurrency = .ok currency) :
      Collects cfg store answer (.request (.requestToPay requestId reference charge))
        (.accept (farePrompt reference charge currency)) (.request (.stampPending reference charge))
  /-- MTN takes in a fare's prompt, and the response is lost. -/
  | lose (requestId reference : Nat) (charge : Charge) (currency : Text)
      (resolved : resolveSettlementCurrency cfg.upper charge.currency cfg.momoCurrency = .ok currency) :
      Collects cfg store answer (.request (.requestToPay requestId reference charge))
        (.accept (farePrompt reference charge currency))
        (.request (.refuse requestId reference "MoMo request failed" true))
  /-- MTN takes in a commission's prompt. -/
  | acceptCommission (settlementId reference : Nat) (raised : Raised) (currency settled : Text)
      (next : SettlementRequestCall)
      (ended : (∃ outcome, next = .done outcome) ∨ ∃ reason, next = .refuse settlementId reason) :
      Collects cfg store answer
        (.settlementRequest (.requestToPay settlementId reference raised currency))
        (.accept (commissionPrompt reference raised settled)) (.settlementRequest next)
  /-- The catch block fails its request. -/
  | fail (requestId reference : Nat) (reason : String) (retryable : Bool)
      (works : answer.fails = false) :
      Collects cfg store answer (.request (.refuse requestId reference reason retryable))
        (.failRequest requestId reason) (.request (.done (.thrown (requestRefused retryable))))
  /-- The sweep gives up on a row. -/
  | timeOut (row : AgedRow) (rest : List AgedRow) (tally : Swept) (works : answer.fails = false) :
      Collects cfg store answer (.sweep (.timeOut row rest tally)) (.timeOutRequest row.reference)
        (.sweep (nextRow rest tally))
  /-- Cash is taken at the door, for an order not yet paid. -/
  | takeCash (orderId : Nat) (collectedBy : Option String) (recorded : CashRecorded) (order : Order)
      (works : answer.fails = false) (found : store.order orderId = some order)
      (unpaid : order.paymentStatus ≠ .paid) :
      Collects cfg store answer (.cash (.takeCash orderId collectedBy)) (.takeCash orderId)
        (.cash (.audit recorded collectedBy))

/-- A request for a fare collects where it stores its row, sends its prompt and fails its row. -/
theorem RequestCall.collects_of_next {call : RequestCall}
    (collects : ((PaymentCall.request call).next cfg store answer).1.collects = true) :
    Collects cfg store answer (.request call) ((PaymentCall.request call).next cfg store answer).1
      ((PaymentCall.request call).next cfg store answer).2 := by
  cases call with
  | insertRequest charge =>
    revert collects
    simp only [PaymentCall.next, RequestCall.next]
    split
    · intro collects; cases collects
    · intro collects; cases collects
    · rename_i currency _ named
      split
      · intro collects; cases collects
      · rename_i free
        -- A request is stored only where no other one is live.
        simp only [Bool.or_eq_true, not_or, Bool.not_eq_true, Option.isSome_eq_false_iff,
          Option.isNone_iff_eq_none] at free
        exact fun _ => .insert charge currency named free.2
  | requestToPay requestId reference charge =>
    revert collects
    simp only [PaymentCall.next, RequestCall.next]
    split
    · intro collects; cases collects
    · rename_i currency resolved
      cases answer.prompt with
      | accepted => exact fun _ => .accept requestId reference charge currency resolved
      -- A prompt whose answer is lost may have been accepted, so it counts as one.
      | lost => exact fun _ => .lose requestId reference charge currency resolved
      | unreachable | refused => intro collects; cases collects
  | refuse requestId reference reason retryable =>
    simp only [PaymentCall.next, RequestCall.next] at collects ⊢
    split at collects
    · cases collects
    · rename_i works
      simp only [works]
      exact .fail requestId reference reason retryable (by simpa using works)
  | _ =>
    simp only [PaymentCall.next, RequestCall.next] at collects
    repeat' split at collects
    all_goals cases collects

/-- One for a commission collects where it sends its prompt. -/
theorem SettlementRequestCall.collects_of_next {call : SettlementRequestCall}
    (collects : ((PaymentCall.settlementRequest call).next cfg store answer).1.collects = true) :
    Collects cfg store answer (.settlementRequest call) ((PaymentCall.settlementRequest call).next cfg store answer).1
      ((PaymentCall.settlementRequest call).next cfg store answer).2 := by
  -- No other statement of it sends a prompt.
  cases call with
  | requestToPay settlementId reference raised currency =>
    revert collects
    simp only [PaymentCall.next, SettlementRequestCall.next]
    split
    · intro collects; cases collects
    · rename_i settled resolved
      cases answer.prompt with
      | accepted =>
        exact fun _ => .acceptCommission settlementId reference raised currency settled _
          (.inl ⟨_, rfl⟩)
      | lost =>
        exact fun _ => .acceptCommission settlementId reference raised currency settled _
          (.inr ⟨_, rfl⟩)
      | unreachable | refused => intro collects; cases collects
  | _ =>
    simp only [PaymentCall.next, SettlementRequestCall.next] at collects
    repeat' split at collects
    all_goals cases collects

/-- A recording of cash collects where it takes the cash. -/
theorem CashCall.collects_of_next {call : CashCall}
    (collects : ((PaymentCall.cash call).next cfg store answer).1.collects = true) :
    Collects cfg store answer (.cash call) ((PaymentCall.cash call).next cfg store answer).1
      ((PaymentCall.cash call).next cfg store answer).2 := by
  cases call with
  | takeCash orderId collectedBy =>
    revert collects
    simp only [PaymentCall.next, CashCall.next]
    split
    · intro collects; cases collects
    · rename_i works
      split
      · intro collects; cases collects
      · rename_i order found
        split
        · intro collects; cases collects
        · -- Cash is taken only for what is unpaid.
          rename_i unpaid
          exact fun _ => .takeCash orderId collectedBy _ order (by simpa using works) found unpaid
  | _ =>
    simp only [PaymentCall.next, CashCall.next] at collects
    repeat' split at collects
    all_goals cases collects

/-- A sweep collects, outside of the settlements in it, where it gives up on a row. -/
theorem SweepCall.collects_of_next {call : SweepCall}
    (collects : ((PaymentCall.sweep call).next cfg store answer).1.collects = true)
    (outside : (PaymentCall.sweep call).reconciling = none) :
    Collects cfg store answer (.sweep call) ((PaymentCall.sweep call).next cfg store answer).1
      ((PaymentCall.sweep call).next cfg store answer).2 := by
  -- Its other statements read, or are a settlement's.
  cases call with
  | timeOut row rest tally =>
    simp only [PaymentCall.next, SweepCall.next] at collects ⊢
    split at collects
    · cases collects
    · rename_i works
      simp only [works]
      exact .timeOut row rest tally (by simpa using works)
  | settling row rest tally inner => cases outside
  | _ =>
    simp only [PaymentCall.next, SweepCall.next] at collects
    repeat' split at collects
    all_goals cases collects

/-- A collecting statement comes from one of the places that collect. -/
theorem PaymentCall.collects_of_next {call : PaymentCall}
    (collects : (call.next cfg store answer).1.collects = true) :
    Collects cfg store answer call (call.next cfg store answer).1 (call.next cfg store answer).2 := by
  -- Inside a settlement nothing new is collected, so the call is outside of one.
  cases settling : call.reconciling with
  | some inner => simp [call.next_collects settling] at collects
  | none =>
    cases call with
    | reconcile inner => cases settling
    | stopped => cases collects
    | request call => exact RequestCall.collects_of_next collects
    | settlementRequest call => exact SettlementRequestCall.collects_of_next collects
    | cash call => exact CashCall.collects_of_next collects
    | sweep call => exact SweepCall.collects_of_next collects settling
    | dispatch call =>
      cases call <;> simp only [PaymentCall.next, DispatchCall.next] at collects <;>
        repeat' split at collects
      all_goals cases collects
    | settlement call =>
      cases call <;> simp only [PaymentCall.next, SettlementCall.next] at collects <;>
        repeat' split at collects
      all_goals cases collects

end

/-- A row keeps its id. -/
@[simp] theorem onOrder_id (statement : Statement) (now : Nat) (row : Order) :
    (statement.onOrder now row).id = row.id := by
  -- No statement writes the primary key.
  cases statement <;> simp only [Statement.onOrder] <;> split <;> rfl

/-- No statement changes what an order is about: whose it is, and what it costs. -/
theorem onOrder_same (statement : Statement) (now : Nat) (row : Order) :
    (statement.onOrder now row).assignedTo = row.assignedTo ∧
      (statement.onOrder now row).currency = row.currency ∧
      (statement.onOrder now row).priceTotal = row.priceTotal ∧
      (statement.onOrder now row).platformFee = row.platformFee ∧
      (statement.onOrder now row).driverNet = row.driverNet ∧
      (statement.onOrder now row).settlementAdjustment = row.settlementAdjustment ∧
      (statement.onOrder now row).status = row.status := by
  -- What is written is the payment's own columns.
  cases statement with
  | stampPayment | stampPaid | takeCash | commitPayout | commitSettlement | settleCash =>
    simp only [Statement.onOrder]
    split <;> simp
  | _ => simp [Statement.onOrder]

/-- A statement rewrites the orders in place. -/
@[simp] theorem execute_orders (statement : Statement) (store : Store) :
    (statement.execute store).orders = store.orders.map (statement.onOrder store.now) := rfl

/-- The order's own life never touches its payment status. -/
theorem statusUpdated_same (order : Order) (rateOf : Nat → Option Rate) (status : OrderStatus)
    (waited : Option ℚ) : (order.statusUpdated rateOf status waited).id = order.id ∧
      (order.statusUpdated rateOf status waited).paymentStatus = order.paymentStatus := by
  -- A wait is charged to the price, if anything is.
  simp only [Order.statusUpdated]
  split
  · split
    · cases order.detentionForOrder rateOf waited <;> exact ⟨rfl, rfl⟩
    · exact ⟨rfl, rfl⟩
  · exact ⟨rfl, rfl⟩

/-- Confirming a delivery never touches its payment status. -/
theorem deliveryConfirmed_same (order : Order) (rateOf : Nat → Option Rate) (waited : Option ℚ)
    (filledBy : Option Nat) : (order.deliveryConfirmed rateOf waited filledBy).id = order.id ∧
      (order.deliveryConfirmed rateOf waited filledBy).paymentStatus = order.paymentStatus := by
  -- A delivery writes the status and the money.
  simp only [Order.deliveryConfirmed]
  split <;> exact ⟨rfl, rfl⟩

end Freight.Payment
