import Freight.Payment.Fares
import Freight.Payment.Keys

/-! The payment services called one after the other: each call runs to its end before the next one starts. -/

namespace Freight.Payment

/-- What a call meets at one of its statements, none of which fails. -/
structure Moment where
  /-- How long the statement is waited for. -/
  elapsed : Nat := 0
  /-- The fate of a prompt. -/
  prompt : PromptAnswer := .accepted
  /-- What MTN says when asked, nothing when it cannot be read. -/
  verdict : Option Verdict := none

/-- What a statement finds at its moment. -/
def Moment.answer (moment : Moment) : Answer where
  prompt := moment.prompt
  verdict := moment.verdict

/-- The same rows, a while later. -/
def Store.later (store : Store) (elapsed : Nat) : Store := { store with now := store.now + elapsed }

/-- The orders are what they were. -/
@[simp] theorem later_orders (store : Store) (elapsed : Nat) : (store.later elapsed).orders = store.orders := rfl

/-- So are the requests. -/
@[simp] theorem later_requests (store : Store) (elapsed : Nat) :
    (store.later elapsed).requests = store.requests := rfl

/-- So is each order. -/
@[simp] theorem later_order (store : Store) (elapsed id : Nat) : (store.later elapsed).order id = store.order id := rfl

/-- And its pending request. -/
@[simp] theorem later_pendingRequest (store : Store) (elapsed id : Nat) :
    (store.later elapsed).pendingRequest id = store.pendingRequest id := rfl

/-- A call runs its next statement, with no other call in flight. -/
def advance (cfg : Config) (state : Store × PaymentCall) (moment : Moment) : Store × PaymentCall :=
  let store := state.1.later moment.elapsed
  let next := state.2.next cfg store moment.answer
  (next.1.execute store, next.2)

/-- A call has returned, or thrown. -/
def PaymentCall.finished : PaymentCall → Bool
  | .request (.done _) | .reconcile (.done _) | .sweep (.done _) | .cash (.done _) | .dispatch (.done _)
  | .settlementRequest (.done _) | .settlement (.done _) | .stopped => true
  | _ => false

/-- What happens when calls never overlap. -/
inductive SerialEvent where
  /-- A call from its start to its end. -/
  | operation (entry : PaymentEntry) (moments : List Moment)
  /-- Something outside the services, between two calls. -/
  | outside (event : PaymentOutside)

/-- A call after some of its statements. -/
def PaymentEntry.after (cfg : Config) (store : Store) (entry : PaymentEntry) (moments : List Moment) :
    Store × PaymentCall :=
  run (advance cfg) (store, entry.start) moments

/-- One event of a serial run. -/
def serial (cfg : Config) (store : Store) : SerialEvent → Store
  | .operation entry moments => (entry.after cfg store moments).1
  | .outside event => event.happen store

/-- The call of an event has come to its end. -/
def completed (cfg : Config) (store : Store) : SerialEvent → Bool
  | .operation entry moments => (entry.after cfg store moments).2.finished
  | .outside _ => true

/-- The most statements a request still runs. -/
def RequestCall.remaining : RequestCall → Nat
  | .selectOrder _ _ _ => 5
  | .selectPending _ => 4
  | .insertRequest _ => 3
  | .requestToPay _ _ _ => 2
  | .refuse _ _ _ _ | .stampPending _ _ => 1
  | .done _ => 0

/-- The most statements the queuing of a payout still runs. -/
def PayoutCall.remaining : PayoutCall → Nat
  | .connect _ => 7
  | .insertPayout _ => 6
  | .lockDebts _ _ _ => 5
  | .clearDebts _ _ _ _ _ => 4
  | .updatePayout _ _ _ _ _ => 3
  | .commit _ _ _ _ _ => 2
  -- Where nothing is netted off, or a statement fails, the way is shorter.
  | .rollback _ | .auditRecovered _ => 1
  | .done | .thrown => 0

/-- The most statements a settlement of a request still runs. -/
def ReconcileCall.remaining : ReconcileCall → Nat
  | .selectRequest _ => 13
  | .ask _ => 12
  | .settle _ _ => 11
  | .payOrder _ => 10
  -- The payout is queued inside the settlement, and its audit comes after it.
  | .queuePayout _ queuing => 2 + queuing.remaining
  | .mismatchRequest _ _ => 3
  | .mismatchOrder _ => 2
  | .failOrder _ _ | .mismatchAudit _ | .auditReceived _ => 1
  | .done _ => 0

/-- The most statements a sweep still runs: fifteen a row at most. -/
def SweepCall.remaining : SweepCall → Nat
  | .selectPending => 15 * sweepSize + 1
  | .settling _ rest _ inner => 15 * rest.length + inner.remaining + 2
  | .timeOut _ rest _ => 15 * rest.length + 1
  | .done _ => 0

/-- The most statements a recording of cash still runs. -/
def CashCall.remaining : CashCall → Nat
  | .selectOrder _ _ => 4
  | .selectInFlight _ _ => 3
  | .takeCash _ _ => 2
  | .audit _ _ => 1
  | .done _ => 0

/-- The most statements a settlement by dispatch still runs. -/
def DispatchCall.remaining : DispatchCall → Nat
  | .settleCash _ _ => 2
  | .audit _ _ => 1
  | .done _ => 0

/-- The most statements a settlement request still runs. -/
def SettlementRequestCall.remaining : SettlementRequestCall → Nat
  | .selectDebts _ _ => 5
  | .selectPending _ => 4
  | .insertSettlement _ => 3
  | .requestToPay _ _ _ _ => 2
  | .refuse _ _ => 1
  | .done _ => 0

/-- The most statements a settlement of commission still runs. -/
def SettlementCall.remaining : SettlementCall → Nat
  | .selectSettlement _ => 7
  | .ask _ => 6
  | .claim _ _ => 5
  | .readDebts _ _ => 4
  | .clearDebts _ _ _ => 3
  | .commit _ _ _ => 2
  | .rollback _ | .audit _ => 1
  | .done _ => 0

/-- The most statements a call still runs. -/
def PaymentCall.remaining : PaymentCall → Nat
  | .request call => call.remaining
  | .reconcile call => call.remaining
  | .sweep call => call.remaining
  | .cash call => call.remaining
  | .dispatch call => call.remaining
  | .settlementRequest call => call.remaining
  | .settlement call => call.remaining
  | .stopped => 0

section
variable (cfg : Config) (store : Store) (answer : Answer)

/-- Every statement of a payout brings its end nearer. -/
theorem PayoutCall.next_remaining (call : PayoutCall) :
    (call.next cfg store answer).2.remaining ≤ call.remaining - 1 := by
  -- State by state, the next has a statement less to run.
  cases call <;> simp only [PayoutCall.next] <;> repeat' split
  all_goals simp [PayoutCall.remaining]

/-- Queuing a payout takes no more than its own statements. -/
theorem queueDriverPayout_remaining (found : Found) : (queueDriverPayout cfg found).remaining ≤ 7 := by
  -- It has nothing to do, or all seven statements.
  simp only [queueDriverPayout]
  repeat' split
  all_goals simp [PayoutCall.remaining]

/-- Every statement of a settlement brings its end nearer. -/
theorem ReconcileCall.next_remaining (call : ReconcileCall) :
    (call.next cfg store answer).2.remaining ≤ call.remaining - 1 := by
  cases call with
  | payOrder found =>
    -- Queuing a payout takes a bounded number of statements.
    have queues := queueDriverPayout_remaining cfg found
    simp only [ReconcileCall.next]
    split
    · exact Nat.zero_le _
    · simp only [ReconcileCall.remaining]
      omega
  | queuePayout found queuing =>
    simp only [ReconcileCall.next]
    split
    · exact Nat.zero_le _
    · exact Nat.le_refl _
    · rename_i unthrown unfinished
      have nearer := queuing.next_remaining cfg store answer
      -- A payout that is neither done nor thrown has a statement left.
      have more : 0 < queuing.remaining := by
        cases queuing with
        | thrown => exact absurd rfl unthrown
        | done => exact absurd rfl unfinished
        | _ => exact Nat.succ_pos _
      simp only [ReconcileCall.remaining]
      omega
  | _ =>
    simp only [ReconcileCall.next]
    repeat' split
    all_goals simp [ReconcileCall.remaining]

/-- The next row of a sweep is one of the fifteen statements fewer. -/
theorem nextRow_remaining (rest : List AgedRow) (tally : Swept) :
    (nextRow rest tally).remaining ≤ 15 * rest.length := by
  -- A settlement runs thirteen statements at most, and the sweep two more about its row.
  cases rest with
  | nil => exact Nat.zero_le _
  | cons row rest =>
    simp only [nextRow, SweepCall.remaining, ReconcileCall.remaining, List.length_cons]
    omega

/-- No sweep looks at more rows than it may. -/
theorem pendingRows_length : (pendingRows store).length ≤ sweepSize := by
  -- The query has a LIMIT.
  simp [pendingRows]

/-- Every statement of a sweep brings its end nearer. -/
theorem SweepCall.next_remaining (call : SweepCall) :
    (call.next cfg store answer).2.remaining ≤ call.remaining - 1 := by
  cases call with
  | selectPending =>
    -- A sweep reads a bounded number of rows.
    have few := pendingRows_length store
    simp only [SweepCall.next]
    split
    · exact Nat.zero_le _
    · exact (nextRow_remaining _ _).trans (by simp only [SweepCall.remaining]; omega)
  | settling row rest tally inner =>
    by_cases ended : ∃ outcome, inner = .done outcome
    · -- The row is done with: another follows, or this one is given up first.
      obtain ⟨outcome, rfl⟩ := ended
      have onward : ∀ tally, (nextRow rest tally).remaining ≤ 15 * rest.length + 1 := fun tally =>
        (nextRow_remaining rest tally).trans (Nat.le_succ _)
      cases outcome with
      | returned result =>
        simp only [SweepCall.next, afterRow]
        split
        · exact onward _
        · split
          · exact Nat.le_refl _
          · exact onward _
      | thrown | failed => exact onward _
    · -- In the middle of a row, the row comes nearer its end.
      have nearer := inner.next_remaining cfg store answer
      cases inner with
      | done outcome => exact absurd ⟨outcome, rfl⟩ ended
      | _ =>
        simp only [SweepCall.next, SweepCall.remaining] at nearer ⊢
        simp only [ReconcileCall.remaining] at nearer ⊢
        omega
  | timeOut row rest tally =>
    simp only [SweepCall.next]
    split
    · exact Nat.zero_le _
    · exact nextRow_remaining _ _
  | done outcome => exact Nat.zero_le _

/-- Every statement of a call brings its end nearer. -/
theorem PaymentCall.next_remaining (call : PaymentCall) :
    (call.next cfg store answer).2.remaining ≤ call.remaining - 1 := by
  -- The other calls have no loop, so their steps are counted one by one.
  cases call with
  | reconcile call => exact call.next_remaining cfg store answer
  | sweep call => exact call.next_remaining cfg store answer
  | stopped => exact Nat.zero_le _
  | request call =>
    cases call <;> simp only [PaymentCall.next, RequestCall.next] <;> repeat' split
    all_goals simp [PaymentCall.remaining, RequestCall.remaining]
  | cash call =>
    cases call <;> simp only [PaymentCall.next, CashCall.next] <;> repeat' split
    all_goals simp [PaymentCall.remaining, CashCall.remaining]
  | dispatch call =>
    cases call <;> simp only [PaymentCall.next, DispatchCall.next] <;> repeat' split
    all_goals simp [PaymentCall.remaining, DispatchCall.remaining]
  | settlementRequest call =>
    cases call <;> simp only [PaymentCall.next, SettlementRequestCall.next] <;> repeat' split
    all_goals simp [PaymentCall.remaining, SettlementRequestCall.remaining]
  | settlement call =>
    cases call <;> simp only [PaymentCall.next, SettlementCall.next] <;> repeat' split
    all_goals simp [PaymentCall.remaining, SettlementCall.remaining]

end

/-- A call with no statement left to run has finished. -/
theorem PaymentCall.finished_of_remaining {call : PaymentCall} (none : call.remaining = 0) :
    call.finished = true := by
  -- Each kind of call in turn: in every state but the last there is a statement to run.
  cases call with
  | stopped => rfl
  | sweep call | request call | cash call | dispatch call | settlementRequest call | settlement call =>
    cases call <;> first | rfl | simp [PaymentCall.remaining, SweepCall.remaining, RequestCall.remaining,
      CashCall.remaining, DispatchCall.remaining, SettlementRequestCall.remaining,
      SettlementCall.remaining] at none
  | reconcile call => cases call <;> first | rfl | simp [PaymentCall.remaining, ReconcileCall.remaining] at none

/-- Every call comes to its end, whatever MTN answers and however long it takes. -/
theorem completed_of_length (cfg : Config) (store : Store) (entry : PaymentEntry) {moments : List Moment}
    (enough : entry.start.remaining ≤ moments.length) :
    completed cfg store (.operation entry moments) = true := by
  refine PaymentCall.finished_of_remaining ?_
  rw [PaymentEntry.after]
  generalize entry.start = call at enough ⊢
  -- The induction follows the moments, each of which takes one statement off what remains.
  induction moments generalizing store call with
  | nil => exact Nat.le_zero.mp enough
  | cons moment rest ih =>
    refine ih _ _ ((call.next_remaining cfg _ _).trans ?_)
    rw [List.length_cons] at enough
    omega

end Freight.Payment
