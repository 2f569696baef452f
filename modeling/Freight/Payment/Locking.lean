import Freight.Payment.Commission

/-! Which calls hold which locks, and which of them clears a debt or writes a settlement. -/

namespace Freight.Payment

section
variable {cfg : Config} {store : Store} {answer : Answer}

/-- What a payout transaction holds, it held before or has waited for. -/
theorem PayoutCall.next_holds (call : PayoutCall) :
    ∀ key ∈ (call.next cfg store answer).2.holds,
      key ∈ call.holds ∨ key ∈ (call.next cfg store answer).1.needs := by
  -- State by state, what it holds next is listed with what the statement waits for.
  cases call <;> simp only [PayoutCall.next] <;> repeat' split
  all_goals
    intro key held
    simp_all [PayoutCall.holds, payoutLocks, Statement.needs]

/-- What a settlement transaction holds, it held before or has waited for. -/
theorem SettlementCall.next_holds (call : SettlementCall) :
    ∀ key ∈ (call.next store answer).2.holds,
      key ∈ call.holds ∨ key ∈ (call.next store answer).1.needs := by
  -- State by state, what it holds next is listed with what the statement waits for.
  cases call <;> simp only [SettlementCall.next] <;> repeat' split
  all_goals
    intro key held
    simp_all [SettlementCall.holds, settlementLocks, Statement.needs]

/-- What the settlement of a request holds, it held before or has waited for. -/
theorem ReconcileCall.next_holds (call : ReconcileCall) :
    ∀ key ∈ (call.next cfg store answer).2.holds,
      key ∈ call.holds ∨ key ∈ (call.next cfg store answer).1.needs := by
  -- Only the payout that a settlement queues takes locks at all.
  cases call with
  | queuePayout found queuing =>
    simp only [ReconcileCall.next]
    split
    · intro key held
      cases held
    · intro key held
      cases held
    · exact queuing.next_holds
  | payOrder found =>
    intro key held
    simp only [ReconcileCall.next] at held
    split at held
    · cases held
    · -- Queuing begins by asking for a client.
      simp only [ReconcileCall.holds, queueDriverPayout] at held
      repeat' split at held
      all_goals cases held
  | _ =>
    intro key held
    simp only [ReconcileCall.next] at held
    repeat' split at held
    all_goals cases held

/-- A sweep turning to another row holds nothing. -/
theorem nextRow_holds (rest : List AgedRow) (tally : Swept) : (nextRow rest tally).holds = [] := by
  -- Between two rows it is in no transaction.
  cases rest <;> rfl

/-- Whatever a settled row came to, a sweep holds nothing afterwards. -/
theorem afterRow_holds (now : Nat) (row : AgedRow) (rest : List AgedRow) (tally : Swept)
    (outcome : Outcome Reconciled) : (afterRow now row rest tally outcome).holds = [] := by
  -- Another row is to be read, or this one to be timed out, and neither is in a transaction.
  cases outcome with
  | returned result =>
    simp only [afterRow]
    repeat' split
    all_goals first | exact nextRow_holds _ _ | rfl
  | thrown | failed => exact nextRow_holds _ _

/-- What a sweep holds, it held before or has waited for. -/
theorem SweepCall.next_holds (call : SweepCall) :
    ∀ key ∈ (call.next cfg store answer).2.holds,
      key ∈ call.holds ∨ key ∈ (call.next cfg store answer).1.needs := by
  cases call with
  | settling row rest tally inner =>
    -- In the middle of a row the sweep holds what that row holds, and between two rows nothing.
    have own := @ReconcileCall.next_holds cfg store answer inner
    cases inner with
    | done outcome =>
      intro key held
      simp [SweepCall.next, afterRow_holds] at held
    | _ => exact own
  | _ =>
    intro key held
    simp only [SweepCall.next] at held
    repeat' split at held
    all_goals first
      | cases held
      | (rw [nextRow_holds] at held; cases held)

/-- The services take every lock by waiting for it. -/
theorem services_disciplined (cfg : Config) : (services cfg).Disciplined where
  -- Requests, cash and the dispatch take no lock that they keep.
  starts := fun entry => by cases entry <;> rfl
  stops := rfl
  waits := fun store answer call => by
    cases call with
    | reconcile call => exact call.next_holds
    | sweep call => exact call.next_holds
    | settlement call => exact call.next_holds
    | _ => exact fun key held => by cases held

/-- What an open payout transaction is about to withhold, and the debts it has locked. -/
structure Netting where
  earning : Earning
  cleared : List Debt
  locked : List Debt

/-- The netting of a payout transaction that has read the debts. -/
def PayoutCall.netting : PayoutCall → Option Netting
  | .clearDebts earning _ _ cleared locked | .updatePayout earning _ _ cleared locked
  | .commit earning _ _ cleared locked =>
    some { earning := earning, cleared := cleared, locked := locked }
  | _ => none

/-- The netting of the payout a settlement queues. -/
def ReconcileCall.netting : ReconcileCall → Option Netting
  | .queuePayout _ queuing => queuing.netting
  | _ => none

/-- The netting a call is in the middle of. -/
def PaymentCall.netting (call : PaymentCall) : Option Netting :=
  call.reconciling.bind ReconcileCall.netting

/-- What a settlement has read, whether it has claimed its row, and what it is about to clear. -/
structure Settling where
  settlement : CashSettlement
  claimed : Bool := false
  cleared : List Debt := []

/-- How far the settlement of a commission has come. -/
def SettlementCall.settling : SettlementCall → Option Settling
  | .ask settlement | .claim settlement _ => some { settlement := settlement }
  | .readDebts settlement _ => some { settlement := settlement, claimed := true }
  | .clearDebts settlement _ cleared | .commit settlement _ cleared =>
    some { settlement := settlement, claimed := true, cleared := cleared }
  | .selectSettlement _ | .rollback _ | .audit _ | .done _ => none

/-- The settlement of a commission a call is in the middle of. -/
def PaymentCall.settling : PaymentCall → Option Settling
  | .settlement call => call.settling
  | _ => none

/-- How a payout transaction comes to be netting debts. -/
inductive PayoutCall.Nets (cfg : Config) (store : Store) (answer : Answer) (call : PayoutCall)
    (netting : Netting) : Prop where
  /-- It was netting them already. -/
  | goes (before : call.netting = some netting)
  /-- Nothing may be withheld, so nothing is read. -/
  | skips (nothing : netting.cleared = []) (none : netting.locked = [])
  /-- It has just read and locked the driver's debts. -/
  | reads (payoutId reference : Nat) (locking : call = .lockDebts netting.earning payoutId reference)
      (works : answer.fails = false) (locked : netting.locked = outstanding store netting.earning.driver)
      (cleared : netting.cleared =
        recoverLoop (netting.earning.gross * cfg.cashRecoveryMaxShare) 0 netting.locked)

/-- Every step of a payout transaction that nets debts is one of these. -/
theorem PayoutCall.next_netting {call : PayoutCall} {netting : Netting}
    (nets : (call.next cfg store answer).2.netting = some netting) :
    call.Nets cfg store answer netting := by
  cases call with
  | lockDebts earning payoutId reference =>
    simp only [PayoutCall.next] at nets
    -- The debts are read under their locks, and only where the transaction nets anything.
    split at nets
    · cases nets
    · rename_i works
      split at nets
      · cases nets
        exact .skips rfl rfl
      · simp only at nets
        split at nets
        · rename_i nothing
          cases nets
          exact .reads payoutId reference rfl (by simpa using works) rfl nothing.symm
        · cases nets
          exact .reads payoutId reference rfl (by simpa using works) rfl rfl
  | clearDebts | updatePayout =>
    -- Clearing and updating carry on with the debts that were read.
    refine .goes ?_
    simp only [PayoutCall.next] at nets
    split at nets
    · cases nets
    · exact nets
  | _ =>
    simp only [PayoutCall.next] at nets
    repeat' split at nets
    all_goals cases nets

/-- A call goes on with the debts it was netting, or its payout has just read them. -/
theorem PaymentCall.next_netting {call : PaymentCall} {netting : Netting}
    (nets : (call.next cfg store answer).2.netting = some netting) :
    call.netting = some netting ∨ ∃ found queuing,
      call.reconciling = some (.queuePayout found queuing) ∧
        queuing.Nets cfg store answer netting := by
  -- The call steps inside a settlement, or it begins one.
  rcases call.next_cases cfg store answer with ⟨inner, settling, -, next⟩ | ⟨-, begins⟩
  · simp only [PaymentCall.netting, next, settling, Option.bind_some] at nets ⊢
    cases inner with
    | queuePayout found queuing =>
      simp only [ReconcileCall.next] at nets
      split at nets
      · cases nets
      · cases nets
      · exact .inr ⟨found, queuing, rfl, queuing.next_netting nets⟩
    | payOrder found =>
      simp only [ReconcileCall.next] at nets
      split at nets
      · cases nets
      · -- A payout that has just begun has read no debt yet.
        simp only [ReconcileCall.netting, queueDriverPayout] at nets
        repeat' split at nets
        all_goals cases nets
    | _ =>
      simp only [ReconcileCall.next] at nets
      repeat' split at nets
      all_goals cases nets
  · cases settling : (call.next cfg store answer).2.reconciling with
    | none => simp [PaymentCall.netting, settling] at nets
    | some inner =>
      simp only [PaymentCall.netting, settling, Option.bind_some] at nets
      -- A settlement that has just begun has not reached its payout.
      rcases begins inner settling with ⟨reference, rfl⟩ | ⟨outcome, rfl⟩ <;> cases nets

/-- How a call comes to be settling a commission. -/
inductive Settles (store : Store) (answer : Answer) (call : PaymentCall) (settling : Settling) :
    Prop where
  /-- It has just read a pending row. -/
  | reads (listed : settling.settlement ∈ store.settlements) (unclaimed : settling.claimed = false)
      (nothing : settling.cleared = [])
  /-- It was settling it already, as far as this. -/
  | goes (before : call.settling = some settling)
  /-- It has just claimed its row, which is pending. -/
  | claims (before : call.settling = some { settlement := settling.settlement })
      (pending : store.settlements.any fun row =>
        row.id = settling.settlement.id && row.status = .pending)
      (nothing : settling.cleared = [])
  /-- It has just read the debts its payment covers. -/
  | covers (verdict : Verdict) (reading : call = .settlement (.readDebts settling.settlement verdict))
      (works : answer.fails = false) (cleared : settling.cleared = settleLoop settling.settlement.amount
        (outstanding store settling.settlement.driverUsername))

/-- Every step into the middle of a settlement is one of these. -/
theorem PaymentCall.next_settling {call : PaymentCall} {settling : Settling}
    (settles : (call.next cfg store answer).2.settling = some settling) :
    Settles store answer call settling := by
  cases call with
  | settlement call =>
    cases call with
    | selectSettlement reference =>
      simp only [PaymentCall.next, SettlementCall.next] at settles
      split at settles
      · cases settles
      · split at settles
        · cases settles
        · rename_i settlement found
          split at settles
          · cases settles
          · cases settles
            -- It begins with the row that the reference names.
            exact .reads (List.mem_of_find?_eq_some found) rfl rfl
    | ask settlement =>
      simp only [PaymentCall.next, SettlementCall.next] at settles
      split at settles
      · cases settles
      · simp only [Prod.map] at settles
        split at settles
        · cases settles
        · exact .goes settles
    | claim settlement verdict =>
      simp only [PaymentCall.next, SettlementCall.next] at settles
      split at settles
      · cases settles
      · split at settles
        · -- The claim goes on only where the row still waits.
          rename_i pending
          simp only [Prod.map] at settles
          split at settles <;>
          · cases settles
            exact .claims rfl pending rfl
        · cases settles
    | readDebts settlement verdict =>
      simp only [PaymentCall.next, SettlementCall.next] at settles
      split at settles
      · cases settles
      · rename_i works
        simp only [Prod.map] at settles
        split at settles
        · -- Whether or not anything is owed, it goes on with what it has read as covered.
          rename_i nothing
          cases settles
          exact .covers verdict rfl (by simpa using works) nothing.symm
        · cases settles
          exact .covers verdict rfl (by simpa using works) rfl
    | clearDebts settlement verdict cleared =>
      simp only [PaymentCall.next, SettlementCall.next] at settles
      split at settles
      · cases settles
      · exact .goes settles
    | _ =>
      simp only [PaymentCall.next, SettlementCall.next] at settles
      repeat' split at settles
      all_goals cases settles
  | _ => cases settles

/-- Statements that clear debts, or write a settlement. -/
def Statement.commissions : Statement → Bool
  | .commitPayout _ _ | .commitSettlement _ _ _ _ _ | .settleCash _ | .failSettlement _ _
  | .insertSettlement _ => true
  | _ => false

/-- What a step that clears debts, or writes a settlement, is. -/
inductive Commissions (cfg : Config) (store : Store) (answer : Answer) :
    PaymentCall → Statement → Prop where
  /-- A payout commits, with what is netted off it. -/
  | nets (call : PaymentCall) (found : Found) (earning : Earning) (payoutId reference : Nat)
      (cleared locked : List Debt)
      (queuing : call.reconciling =
        some (.queuePayout found (.commit earning payoutId reference cleared locked)))
      (works : answer.fails = false) :
      Commissions cfg store answer call
        (.commitPayout (committedPayout cfg store.now earning payoutId reference cleared)
          (cleared.map Debt.orderId))
  /-- A settlement commits, with the debts it clears. -/
  | pays (settlement : CashSettlement) (verdict : Verdict) (cleared : List Debt)
      (works : answer.fails = false) :
      Commissions cfg store answer (.settlement (.commit settlement verdict cleared))
        (.commitSettlement settlement
          (if settlementSucceeded settlement verdict then .successful else .failed)
          verdict.transactionId (settlementFailure settlement verdict) (cleared.map Debt.orderId))
  /-- Dispatch takes one order's commission. -/
  | hands (orderId : Nat) (settledBy : Option String) (order : Order) (works : answer.fails = false)
      (found : store.order orderId = some order) (outstanding : order.cashOutstanding = true) :
      Commissions cfg store answer (.dispatch (.settleCash orderId settledBy)) (.settleCash orderId)
  /-- The catch block fails its settlement. -/
  | fails (settlementId : Nat) (reason : String) :
      Commissions cfg store answer (.settlementRequest (.refuse settlementId reason))
        (.failSettlement settlementId reason)
  /-- A settlement row is written. -/
  | raises (raised : Raised) (currency : Text) (named : raised.currency = some currency) :
      Commissions cfg store answer (.settlementRequest (.insertSettlement raised))
        (.insertSettlement (newSettlement store raised currency))

/-- The settlement of a request clears debts in one place: where its payout commits. -/
theorem ReconcileCall.next_commissions {call : ReconcileCall}
    (commissions : (call.next cfg store answer).1.commissions = true) :
    ∃ found earning payoutId reference cleared locked,
      call = .queuePayout found (.commit earning payoutId reference cleared locked) ∧
      answer.fails = false ∧ (call.next cfg store answer).1 =
        .commitPayout (committedPayout cfg store.now earning payoutId reference cleared)
          (cleared.map Debt.orderId) := by
  -- Each other step writes a request, an order or a payout, and never a debt.
  cases call with
  | queuePayout found queuing =>
    cases queuing with
    | commit earning payoutId reference cleared locked =>
      refine ⟨found, earning, payoutId, reference, cleared, locked, rfl, ?_⟩
      simp only [ReconcileCall.next, PayoutCall.next] at commissions ⊢
      split at commissions
      · cases commissions
      · rename_i works
        simp [works]
    | _ =>
      simp only [ReconcileCall.next, PayoutCall.next] at commissions
      repeat' split at commissions
      all_goals cases commissions
  | _ =>
    simp only [ReconcileCall.next] at commissions
    repeat' split at commissions
    all_goals cases commissions

/-- A step that clears debts, or writes a settlement, is one of these. -/
theorem PaymentCall.commissions_of_next {call : PaymentCall}
    (commissions : (call.next cfg store answer).1.commissions = true) :
    Commissions cfg store answer call (call.next cfg store answer).1 := by
  cases settling : call.reconciling with
  | some inner =>
    -- Inside a settlement that has not finished, the statement is the settlement's.
    by_cases finished : ∃ outcome, inner = .done outcome
    · obtain ⟨outcome, rfl⟩ := finished
      simp [call.next_finished settling, Statement.commissions] at commissions
    · rw [(call.next_reconciling settling fun outcome same => finished ⟨outcome, same⟩).1]
        at commissions ⊢
      obtain ⟨found, earning, payoutId, reference, cleared, locked, rfl, works, writes⟩ :=
        inner.next_commissions commissions
      rw [writes]
      exact .nets call found earning payoutId reference cleared locked settling works
  | none =>
    cases call with
    | reconcile inner => cases settling
    | stopped => cases commissions
    | sweep call =>
      cases call with
      | settling row rest tally inner => cases settling
      | _ =>
        simp only [PaymentCall.next, SweepCall.next] at commissions
        repeat' split at commissions
        all_goals cases commissions
    | request call =>
      cases call <;> simp only [PaymentCall.next, RequestCall.next] at commissions <;>
        repeat' split at commissions
      all_goals cases commissions
    | cash call =>
      cases call <;> simp only [PaymentCall.next, CashCall.next] at commissions <;>
        repeat' split at commissions
      all_goals cases commissions
    | dispatch call =>
      cases call with
      | settleCash orderId settledBy =>
        revert commissions
        simp only [PaymentCall.next, DispatchCall.next]
        split
        · intro commissions; cases commissions
        · rename_i works
          split
          · rename_i owing
            -- The row is handed in only where it is still owed.
            obtain ⟨order, found, outstanding⟩ := (Option.any_eq_true _ _).mp owing
            exact fun _ => .hands orderId settledBy order (by simpa using works) found outstanding
          · intro commissions; cases commissions
      | _ =>
        simp only [PaymentCall.next, DispatchCall.next] at commissions
        repeat' split at commissions
        all_goals cases commissions
    | settlementRequest call =>
      cases call with
      | insertSettlement raised =>
        revert commissions
        simp only [PaymentCall.next, SettlementRequestCall.next]
        split
        · intro commissions; cases commissions
        · rename_i currency named
          split
          · intro commissions; cases commissions
          · exact fun _ => .raises raised currency named
      | refuse settlementId reason =>
        revert commissions
        simp only [PaymentCall.next, SettlementRequestCall.next]
        split
        · intro commissions; cases commissions
        · exact fun _ => .fails settlementId reason
      | _ =>
        simp only [PaymentCall.next, SettlementRequestCall.next] at commissions
        repeat' split at commissions
        all_goals cases commissions
    | settlement call =>
      cases call with
      | commit settlement verdict cleared =>
        revert commissions
        simp only [PaymentCall.next, SettlementCall.next]
        split
        · intro commissions; cases commissions
        · rename_i works
          exact fun _ => .pays settlement verdict cleared (by simpa using works)
      | _ =>
        simp only [PaymentCall.next, SettlementCall.next] at commissions
        repeat' split at commissions
        all_goals cases commissions

/-- A call settling a request settles no commission. -/
theorem PaymentCall.settling_of_reconciling {call : PaymentCall} {inner : ReconcileCall}
    (settling : call.reconciling = some inner) : call.settling = none := by
  -- What settles a commission is a call of another kind.
  cases call with
  | settlement call => cases settling
  | _ => rfl

/-- A call that clears debts, or writes a settlement, is done with them afterwards. -/
theorem PaymentCall.commissions_ends {call : PaymentCall}
    (commissions : (call.next cfg store answer).1.commissions = true) :
    (call.next cfg store answer).2.netting = none ∧
      (call.next cfg store answer).2.settling = none := by
  -- Each of the five ends its part: it has written what it was carrying.
  have step := call.commissions_of_next commissions
  generalize (call.next cfg store answer).1 = statement at step
  cases step with
  | nets _ found earning payoutId reference cleared locked queuing works =>
    have next := (@PaymentCall.next_reconciling cfg store answer _ _ queuing (by simp)).2
    refine ⟨?_, PaymentCall.settling_of_reconciling next⟩
    simp only [PaymentCall.netting, next, Option.bind_some, ReconcileCall.next, PayoutCall.next, works]
    simp only [Bool.false_eq_true, if_false]
    split <;> rfl
  | pays settlement verdict cleared works =>
    simp only [PaymentCall.next, SettlementCall.next, works, Bool.false_eq_true, if_false]
    split <;> exact ⟨rfl, rfl⟩
  | hands orderId settledBy order works found outstanding =>
    simp only [PaymentCall.next, DispatchCall.next]
    repeat' split
    all_goals exact ⟨rfl, rfl⟩
  | fails | raises =>
    simp only [PaymentCall.next, SettlementRequestCall.next]
    repeat' split
    all_goals exact ⟨rfl, rfl⟩

/-- Only such statements write under a lock. -/
theorem Statement.guards_nil {statement : Statement} (quiet : statement.commissions = false) :
    statement.guards = [] := by
  -- The ones that take locks to write are those that touch commission.
  cases statement <;> first | rfl | cases quiet

/-- A call keeps what the settlement it is in the middle of keeps. -/
theorem PaymentCall.holds_reconciling {call : PaymentCall} {inner : ReconcileCall}
    (settling : call.reconciling = some inner) : call.holds = inner.holds := by
  -- The settlement is the call itself, or the one a sweep is in the middle of.
  cases call with
  | reconcile call =>
    cases settling
    rfl
  | sweep call =>
    cases call with
    | settling row rest tally call =>
      cases settling
      rfl
    | _ => cases settling
  | _ => cases settling

/-- A payout transaction holds the locks of the debts it has read. -/
theorem PaymentCall.holds_netting {call : PaymentCall} {netting : Netting}
    (nets : call.netting = some netting) {debt : Debt} (member : debt ∈ netting.locked) :
    debt.lock ∈ call.holds := by
  obtain ⟨inner, settling, nets⟩ := Option.bind_eq_some_iff.mp nets
  rw [call.holds_reconciling settling]
  -- The payout locks its earning first, and then the debts one by one.
  have listed : debt.lock ∈ netting.locked.map Debt.lock := List.mem_map_of_mem member
  cases inner with
  | queuePayout found queuing =>
    cases queuing with
    | clearDebts | updatePayout | commit =>
      cases nets
      exact List.mem_cons_of_mem _ listed
    | _ => cases nets
  | _ => cases nets

/-- A settlement holds the lock of the row it has claimed. -/
theorem PaymentCall.holds_settling {call : PaymentCall} {settling : Settling}
    (settles : call.settling = some settling) (claimed : settling.claimed = true) :
    .settlement settling.settlement.id ∈ call.holds := by
  cases call with
  | settlement call =>
    cases call with
    | readDebts | clearDebts | commit =>
      cases settles
      exact List.mem_cons_self
    | ask | claim =>
      cases settles
      -- Before the claim nothing is locked, and nothing is claimed.
      cases claimed
    | _ => cases settles
  | _ => cases settles

/-- The settlement a call is about to put on record. -/
def PaymentCall.passed : PaymentCall → Option Raised
  | .settlementRequest (.selectPending raised) | .settlementRequest (.insertSettlement raised) =>
    some raised
  | _ => none

/-- A call goes on with the settlement it raised, or has just raised one from what is owed. -/
theorem PaymentCall.next_passed {call : PaymentCall} {raised : Raised}
    (raises : (call.next cfg store answer).2.passed = some raised) :
    call.passed = some raised ∨ ∃ driver asked,
      call = .settlementRequest (.selectDebts driver asked) ∧ answer.fails = false ∧
      cfg.collectionConfigured = true ∧ raise cfg (cashOwedBy cfg store driver) driver asked = .ok raised := by
  cases call with
  | settlementRequest call =>
    cases call with
    -- A settlement is raised from the debts that this SELECT found.
    | selectDebts driver asked =>
      refine .inr ⟨driver, asked, rfl, ?_⟩
      simp only [PaymentCall.next, SettlementRequestCall.next] at raises
      split at raises
      · cases raises
      · -- What is raised has passed the checks against the debts of that moment.
        rename_i configured
        split at raises
        · cases raises
        · rename_i works
          split at raises
          · cases raises
          · rename_i settled passes
            cases raises
            exact ⟨by simpa using works, by simpa using configured, passes⟩
    -- From here on it is the one that was raised.
    | selectPending raised' =>
      refine .inl ?_
      simp only [PaymentCall.next, SettlementRequestCall.next] at raises
      split at raises
      · cases raises
      · split at raises
        · cases raises
        · exact raises
    | _ =>
      simp only [PaymentCall.next, SettlementRequestCall.next] at raises
      repeat' split at raises
      all_goals cases raises
  | _ => cases raises

end

end Freight.Payment
