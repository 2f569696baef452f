import Freight.Payment.Effects

/-! When a paid order stays paid: exactly as long as no unguarded stamp comes behind its payment. -/

namespace Freight.Payment

/-- The order is marked paid. -/
def Paid (id : Nat) (store : Store) : Prop :=
  ∃ order ∈ store.orders, order.id = id ∧ order.paymentStatus = .paid

instance (id : Nat) (store : Store) : Decidable (Paid id store) :=
  inferInstanceAs (Decidable (∃ order ∈ store.orders, _ ∧ _))

/-- The order whose payment status a request is about to stamp, whatever it has become. -/
def RequestCall.stamps : RequestCall → Option Nat
  | .stampPending _ charge => some charge.orderId
  | _ => none

/-- The order whose payment status a settlement is about to stamp `'FAILED'`. -/
def ReconcileCall.stamps : ReconcileCall → Option Nat
  | .mismatchOrder found | .failOrder found _ => some found.request.orderId
  | _ => none

/-- The order whose payment status a call is about to stamp unguarded. -/
def PaymentCall.stamps : PaymentCall → Option Nat
  | .request call => call.stamps
  | .reconcile call => call.stamps
  | .sweep (.settling _ _ _ inner) => inner.stamps
  | _ => none

/-- The order a settlement is about to mark paid. -/
def ReconcileCall.pays : ReconcileCall → Option Nat
  | .payOrder found => some found.request.orderId
  | _ => none

/-- The order a call is about to record a payment of, by mobile money or in cash. -/
def PaymentCall.pays : PaymentCall → Option Nat
  | .reconcile call => call.pays
  | .sweep (.settling _ _ _ inner) => inner.pays
  | .cash (.takeCash orderId _) => some orderId
  | _ => none

/-- The event runs a call's statement on the order: it does not fail, and no lock holds it back. -/
def runsOn (cfg : Config) (id : Nat) (target : PaymentCall → Option Nat) (pool : PaymentPool) :
    PaymentEvent → Bool
  | .run index answer =>
    match pool.calls[index]? with
    -- A statement that fails, or waits for the row's lock, does not run.
    | some call =>
      !answer.fails && target call = some id &&
        decide ((services cfg).Free [.order id] (pool.calls.eraseIdx index))
    | none => false
  | _ => false

/-- The event records a payment of an order on file. -/
def recordsPayment (cfg : Config) (id : Nat) (pool : PaymentPool) (event : PaymentEvent) : Bool :=
  (pool.shared.order id).isSome && runsOn cfg id PaymentCall.pays pool event

/--
Somewhere in a run an unguarded stamp runs on the order behind a payment of it.

The payment may be a collection that a webhook, a poll or a sweep has settled, be it the stamping request's own or
another's, or cash taken at the door; and it may have been recorded before the run began.
-/
def StampedLate (cfg : Config) (id : Nat) (pool : PaymentPool) (events : List PaymentEvent) : Prop :=
  ∃ prior event rest, events = prior ++ event :: rest ∧
    runsOn cfg id PaymentCall.stamps (run (services cfg).step pool prior) event = true ∧
    (Paid id pool.shared ∨ ∃ earlier payment between, prior = earlier ++ payment :: between ∧
      recordsPayment cfg id (run (services cfg).step pool earlier) payment = true)

/-- The event stamps `'PENDING'` or `'FAILED'` on an order that is paid. -/
def overwritesPaid (cfg : Config) (id : Nat) (pool : PaymentPool) : PaymentEvent → Bool
  | .run index answer =>
    match pool.calls[index]? with
    | some call =>
      -- The order is paid at the moment the stamp runs.
      !answer.fails && call.stamps = some id && decide (Paid id pool.shared) &&
        decide ((services cfg).Free [.order id] (pool.calls.eraseIdx index))
    | none => false
  | _ => false

/-- The payout transaction never stamps a payment status. -/
theorem PayoutCall.next_ne_stampPayment (cfg : Config) (store : Store) (answer : Answer)
    (call : PayoutCall) (id : Nat) (status : PaymentStatus) :
    (call.next cfg store answer).1 ≠ .stampPayment id status := by
  -- State by state, its statements are a payout's own.
  cases call <;> simp only [PayoutCall.next] <;> repeat' split
  all_goals simp

/-- Where a settlement stamps, it stamps `'FAILED'`; nowhere else does it stamp. -/
theorem ReconcileCall.next_stamps (cfg : Config) (store : Store) (answer : Answer)
    (call : ReconcileCall) :
    (∃ id, call.stamps = some id ∧ answer.fails = false ∧
      (call.next cfg store answer).1 = .stampPayment id .failed) ∨
    ((answer.fails = false → call.stamps = none) ∧
      ∀ id status, (call.next cfg store answer).1 ≠ .stampPayment id status) := by
  cases call with
  | mismatchOrder found | failOrder found verdict =>
    -- A statement that fails writes nothing.
    by_cases fails : answer.fails
    · exact .inr ⟨by simp [fails], by simp [ReconcileCall.next, fails]⟩
    · exact .inl ⟨_, rfl, by simpa using fails, by simp [ReconcileCall.next, fails]⟩
  | queuePayout found queuing =>
    refine .inr ⟨fun _ => rfl, fun id status => ?_⟩
    simp only [ReconcileCall.next]
    split
    · simp
    · simp
    · exact queuing.next_ne_stampPayment cfg store answer id status
  | _ =>
    refine .inr ⟨fun _ => rfl, ?_⟩
    simp only [ReconcileCall.next]
    repeat' split
    all_goals simp

/-- Where a call stamps, it stamps something other than `'PAID'`; nowhere else does it stamp. -/
theorem PaymentCall.next_stamps (cfg : Config) (store : Store) (answer : Answer)
    (call : PaymentCall) :
    (∃ id status, call.stamps = some id ∧ answer.fails = false ∧ status ≠ .paid ∧
      (call.next cfg store answer).1 = .stampPayment id status) ∨
    ((answer.fails = false → call.stamps = none) ∧
      ∀ id status, (call.next cfg store answer).1 ≠ .stampPayment id status) := by
  -- Settlements stamp a failure, and a request that was sent stamps that it is pending.
  cases call with
  | reconcile call =>
    rcases call.next_stamps cfg store answer with ⟨id, stamps, works, statement⟩ | quiet
    · exact .inl ⟨id, .failed, stamps, works, by decide, statement⟩
    · exact .inr quiet
  -- A sweep stamps what its settlements stamp.
  | sweep call =>
    cases call with
    | settling row rest tally inner =>
      rcases inner.next_stamps cfg store answer with ⟨id, stamps, works, statement⟩ | quiet
      · refine .inl ⟨id, .failed, stamps, works, by decide, ?_⟩
        cases inner with
        | done outcome => simp [ReconcileCall.stamps] at stamps
        | _ => exact statement
      · refine .inr ⟨quiet.1, fun id status => ?_⟩
        cases inner with
        | done outcome => simp [PaymentCall.next, SweepCall.next]
        | _ => exact quiet.2 id status
    | _ =>
      refine .inr ⟨fun _ => rfl, ?_⟩
      simp only [PaymentCall.next, SweepCall.next]
      repeat' split
      all_goals simp
  -- A request stamps that it is pending, once MTN has it.
  | request call =>
    cases call with
    | stampPending reference charge =>
      by_cases fails : answer.fails
      · exact .inr ⟨by simp [fails], by simp [PaymentCall.next, RequestCall.next, fails]⟩
      · exact .inl ⟨charge.orderId, .pending, rfl, by simpa using fails, by decide,
          by simp [PaymentCall.next, RequestCall.next, fails]⟩
    | _ =>
      refine .inr ⟨fun _ => rfl, ?_⟩
      simp only [PaymentCall.next, RequestCall.next]
      repeat' split
      all_goals simp
  -- The others write an order's status nowhere, or write that it is paid.
  | cash call =>
    refine .inr ⟨fun _ => rfl, ?_⟩
    cases call <;> simp only [PaymentCall.next, CashCall.next] <;> repeat' split
    all_goals simp
  | dispatch call =>
    refine .inr ⟨fun _ => rfl, ?_⟩
    cases call <;> simp only [PaymentCall.next, DispatchCall.next] <;> repeat' split
    all_goals simp
  | settlementRequest call =>
    refine .inr ⟨fun _ => rfl, ?_⟩
    cases call <;> simp only [PaymentCall.next, SettlementRequestCall.next] <;> repeat' split
    all_goals simp
  | settlement call =>
    refine .inr ⟨fun _ => rfl, ?_⟩
    cases call <;> simp only [PaymentCall.next, SettlementCall.next] <;> repeat' split
    all_goals simp
  | stopped => exact .inr ⟨fun _ => rfl, by simp [PaymentCall.next]⟩

/-- Only a stamp of another status takes a paid row out of `'PAID'`. -/
theorem onOrder_paid {statement : Statement} (now : Nat) {row : Order}
    (paid : row.paymentStatus = .paid)
    (other : ∀ status, statement ≠ .stampPayment row.id status) :
    (statement.onOrder now row).paymentStatus = .paid := by
  -- The stamp is another order's; what else writes orders leaves a paid status as it is.
  cases statement with
  | stampPayment id status =>
    have apart : row.id ≠ id := fun same => other status (by rw [same])
    simp [Statement.onOrder, apart, paid]
  | stampPaid | takeCash | commitPayout | commitSettlement | settleCash =>
    simp only [Statement.onOrder]
    split <;> simp [paid]
  | _ => exact paid

/-- An order marked paid was so, has just been stamped, or has been paid for in cash. -/
theorem onOrder_paid_cases {statement : Statement} {now : Nat} {row : Order}
    (paid : (statement.onOrder now row).paymentStatus = .paid) :
    row.paymentStatus = .paid ∨ statement = .stampPaid row.id ∨
      statement = .stampPayment row.id .paid ∨
      (statement.onOrder now row).paymentMethod = some .cash := by
  -- Two statements stamp a payment, and cash marks one as paid.
  cases statement with
  | stampPayment id status =>
    simp only [Statement.onOrder] at paid ⊢
    split at paid
    · rename_i own
      exact .inr (.inr (.inl (by rw [own, ← show status = .paid from paid])))
    · exact .inl paid
  | stampPaid id =>
    simp only [Statement.onOrder] at paid ⊢
    split at paid
    · rename_i own
      exact .inr (.inl (by rw [own]))
    · exact .inl paid
  | takeCash id =>
    simp only [Statement.onOrder] at paid ⊢
    split
    · exact .inr (.inr (.inr rfl))
    · rename_i other
      rw [if_neg other] at paid
      exact .inl paid
  | commitPayout | commitSettlement | settleCash =>
    simp only [Statement.onOrder] at paid
    split at paid <;> exact .inl paid
  | _ => exact .inl paid

/-- An order paid in cash stays so. -/
theorem onOrder_method {statement : Statement} {now : Nat} {row : Order}
    (other : (statement.onOrder now row).paymentMethod ≠ some .cash) :
    row.paymentMethod ≠ some .cash := by
  -- Cash is written by recording it, and nothing takes it back.
  intro cash
  refine other ?_
  cases statement with
  | stampPayment | stampPaid | takeCash | commitPayout | commitSettlement | settleCash =>
    simp only [Statement.onOrder]
    split <;> simp [cash]
  | _ => exact cash

/-- A statement that is no stamp on a paid order leaves it paid. -/
theorem Paid.execute {id : Nat} {store : Store} (paid : Paid id store) {statement : Statement}
    (other : ∀ status, statement ≠ .stampPayment id status) : Paid id (statement.execute store) := by
  -- The row is still listed, and no stamp is for it.
  obtain ⟨row, listed, same, status⟩ := paid
  exact ⟨_, List.mem_map_of_mem listed, by rw [onOrder_id, same],
    onOrder_paid _ status (same ▸ other)⟩

/-- A stamp leaves no row of its order paid. -/
theorem not_paid_stamped {id : Nat} {store : Store} {status : PaymentStatus} (other : status ≠ .paid) :
    ¬ Paid id ((Statement.stampPayment id status).execute store) := by
  -- Of the order there is only the stamped row.
  rintro ⟨row, listed, same, paid⟩
  obtain ⟨old, -, rfl⟩ := List.mem_map.mp listed
  rw [onOrder_id] at same
  simp only [Statement.onOrder, same, if_true] at paid
  exact other paid

/-- A change that keeps ids and payment statuses keeps an order paid. -/
theorem Paid.update {id : Nat} {store : Store} (paid : Paid id store) (target : Nat)
    {change : Order → Order} (keeps : ∀ order : Order, (change order).id = order.id ∧
      (change order).paymentStatus = order.paymentStatus) : Paid id (store.updateOrder target change) := by
  -- Changed or not, the row has its id and its status.
  obtain ⟨row, listed, same, status⟩ := paid
  refine ⟨_, List.mem_map_of_mem listed, ?_, ?_⟩
  · split
    · rw [(keeps row).1, same]
    · exact same
  · split
    · rw [(keeps row).2, status]
    · exact status

/-- Nothing outside the services unpays an order. -/
theorem Paid.happen {id : Nat} {store : Store} (paid : Paid id store) (event : PaymentOutside) :
    Paid id (event.happen store) := by
  -- The dispatch writes orders under their ids, and no payment status.
  cases event with
  | settle | decline | wait => exact paid
  | updateOrderStatus orderId rateOf status waited =>
    exact paid.update orderId fun order => statusUpdated_same order rateOf status waited
  | confirmDelivery orderId rateOf waited filledBy =>
    exact paid.update orderId fun order => deliveryConfirmed_same order rateOf waited filledBy

/-- Nor does anything outside the services mark one paid. -/
theorem unhappen {id : Nat} {store : Store} (event : PaymentOutside) (paid : Paid id (event.happen store)) :
    Paid id store := by
  -- Dispatch changes other columns, and the customer answers prompts.
  have unchanged : ∀ (target : Nat) (change : Order → Order), (∀ order, (change order).id = order.id ∧
      (change order).paymentStatus = order.paymentStatus) → Paid id (store.updateOrder target change) →
      Paid id store := by
    rintro target change keeps ⟨row, listed, same, status⟩
    obtain ⟨old, member, rfl⟩ := List.mem_map.mp listed
    refine ⟨old, member, ?_, ?_⟩
    · split at same
      · rw [← same, (keeps old).1]
      · exact same
    · split at status
      · rw [← status, (keeps old).2]
      · exact status
  cases event with
  | settle | decline | wait => exact paid
  | updateOrderStatus orderId rateOf status waited =>
    exact unchanged orderId _ (fun order => statusUpdated_same order rateOf status waited) paid
  | confirmDelivery orderId rateOf waited filledBy =>
    exact unchanged orderId _ (fun order => deliveryConfirmed_same order rateOf waited filledBy) paid

/-- One step keeps a paid order paid exactly when it is no stamp on a paid order. -/
theorem paid_step_iff (cfg : Config) (id : Nat) (pool : PaymentPool) (event : PaymentEvent) :
    (Paid id pool.shared → Paid id ((services cfg).step pool event).shared) ↔
      overwritesPaid cfg id pool event = false := by
  cases event with
  | call | stop => exact iff_of_true (fun paid => paid) rfl
  | outside event =>
    refine iff_of_true (fun paid => ?_) rfl
    by_cases free : (services cfg).Free ((services cfg).outsideNeeds event) pool.calls
    · rw [CallSystem.step, if_pos free]
      exact paid.happen event
    · simpa only [CallSystem.step, if_neg free] using paid
  | run index answer =>
    cases found : pool.calls[index]? with
    | none =>
      exact iff_of_true (fun paid => by simpa [CallSystem.step, found] using paid)
        (by simp [overwritesPaid, found])
    | some call =>
      by_cases free : (services cfg).Free
          ((services cfg).needs (call.next cfg pool.shared answer).1) (pool.calls.eraseIdx index)
      · -- The statement has its locks, so it runs.
        have moved : ((services cfg).step pool (.run index answer)).shared =
            (call.next cfg pool.shared answer).1.execute pool.shared := by
          rw [(services cfg).step_free found free]
          rfl
        rw [moved]
        rcases call.next_stamps cfg pool.shared answer with
            ⟨order, status, stamps, works, unpaid, statement⟩ | ⟨quiet, other⟩
        · by_cases mine : order = id
          · -- The stamp lands on this order: it stays paid only if it was not.
            subst mine
            rw [statement] at free ⊢
            have open_ : (services cfg).Free [Lock.order order] (pool.calls.eraseIdx index) := free
            simp only [overwritesPaid, found, works, stamps, open_, Bool.not_false, decide_true,
              Bool.and_true, Bool.true_and, decide_eq_false_iff_not]
            exact ⟨fun keeps paid => not_paid_stamped unpaid (keeps paid),
              fun was paid => absurd paid was⟩
          · refine iff_of_true (fun paid => paid.execute fun other same => ?_) ?_
            · rw [statement] at same
              exact mine (by cases same; rfl)
            · simp [overwritesPaid, found, stamps, mine]
        · refine iff_of_true (fun paid => paid.execute (other id)) ?_
          by_cases fails : answer.fails
          · simp [overwritesPaid, found, fails]
          · simp [overwritesPaid, found, quiet (by simpa using fails)]
      · -- The statement has to wait, and so has a stamp.
        refine iff_of_true (fun paid => ?_) ?_
        · rwa [(services cfg).step_waits found free]
        · rcases call.next_stamps cfg pool.shared answer with
              ⟨order, status, stamps, works, unpaid, statement⟩ | ⟨quiet, -⟩
          · rw [statement] at free
            by_cases mine : order = id
            · subst mine
              have waits : ¬ (services cfg).Free [Lock.order order] (pool.calls.eraseIdx index) := free
              simp [overwritesPaid, found, waits]
            · simp [overwritesPaid, found, stamps, mine]
          · by_cases fails : answer.fails
            · simp [overwritesPaid, found, fails]
            · simp [overwritesPaid, found, quiet (by simpa using fails)]

/-- An unguarded stamp lands on a paid order when it runs while the order is paid. -/
theorem overwritesPaid_eq (cfg : Config) (id : Nat) (pool : PaymentPool) (event : PaymentEvent) :
    overwritesPaid cfg id pool event = (runsOn cfg id PaymentCall.stamps pool event && decide (Paid id pool.shared)) := by
  -- Both ask the same three things of the call, in another order.
  cases event with
  | run index answer =>
    simp only [overwritesPaid, runsOn]
    cases pool.calls[index]? with
    | none => rfl
    | some call => simp only [Bool.and_assoc, Bool.and_comm (decide (Paid id pool.shared))]
  | call | stop | outside => rfl

/-- Where a call is to record a payment, that is its statement, unless the order is paid already. -/
theorem PaymentCall.next_pays {call : PaymentCall} {id : Nat} {store : Store} {answer : Answer} (cfg : Config)
    (pays : call.pays = some id) (works : answer.fails = false) (known : (store.order id).isSome = true) :
    (call.next cfg store answer).1 = .stampPaid id ∨ (call.next cfg store answer).1 = .takeCash id ∨
      (call.next cfg store answer).1 = .nothing ∧ Paid id store := by
  -- A settlement stamps the order, by itself or inside a sweep.
  have settles : ∀ inner : ReconcileCall, inner.pays = some id →
      (inner.next cfg store answer).1 = .stampPaid id ∧ ∀ outcome, inner ≠ .done outcome := by
    intro inner own
    cases inner with
    | payOrder found =>
      obtain rfl := Option.some.inj own
      exact ⟨by simp [ReconcileCall.next, works], by simp⟩
    | _ => cases own
  cases call with
  | reconcile inner => exact .inl (settles inner pays).1
  | sweep call =>
    cases call with
    | settling row rest tally inner =>
      obtain ⟨stamps, unfinished⟩ := settles inner pays
      have settling : (PaymentCall.sweep (.settling row rest tally inner)).reconciling = some inner := rfl
      exact .inl ((PaymentCall.next_reconciling settling unfinished).1.trans stamps)
    | _ => cases pays
  | cash call =>
    cases call with
    | takeCash orderId collectedBy =>
      obtain rfl := Option.some.inj pays
      obtain ⟨order, found⟩ := Option.isSome_iff_exists.mp known
      simp only [PaymentCall.next, CashCall.next, works, found, Bool.false_eq_true, if_false, Prod.map]
      by_cases paid : order.paymentStatus = .paid
      · -- The guard of the UPDATE finds the order paid.
        rw [if_pos paid]
        have own : order.id = orderId := by simpa using List.find?_some found
        exact .inr (.inr ⟨rfl, order, List.mem_of_find?_eq_some found, own, paid⟩)
      · rw [if_neg paid]
        exact .inr (.inl rfl)
    | _ => cases pays
  | _ => cases pays

/-- The statements that mark an order paid are run by the calls that are about to record its payment. -/
theorem PaymentCall.pays_of_next {call : PaymentCall} {id : Nat} {store : Store} {answer : Answer} {cfg : Config}
    (marks : (call.next cfg store answer).1 = .stampPaid id ∨ (call.next cfg store answer).1 = .takeCash id) :
    call.pays = some id ∧ answer.fails = false := by
  rcases marks with stamps | takes
  · -- Only a settlement stamps an order paid.
    obtain ⟨inner, settling, statement, -⟩ :=
      PaymentCall.settling_of_settles (by rw [stamps]; rfl : (call.next cfg store answer).1.settles = true)
    rw [stamps] at statement
    obtain ⟨found, rfl, rfl, -⟩ := ReconcileCall.next_stampPaid statement.symm
    have works : answer.fails = false := by
      cases fails : answer.fails with
      | false => rfl
      | true => simp [ReconcileCall.next, fails] at statement
    refine ⟨?_, works⟩
    cases call with
    | reconcile call =>
      cases settling
      rfl
    | sweep call =>
      cases call with
      | settling row rest tally call =>
        cases settling
        rfl
      | _ => cases settling
    | _ => cases settling
  · -- Only taking cash takes cash.
    have collects := PaymentCall.collects_of_next (by rw [takes]; rfl : (call.next cfg store answer).1.collects = true)
    rw [takes] at collects
    generalize (call.next cfg store answer).2 = after at collects
    cases collects with
    | takeCash orderId collectedBy recorded order works found unpaid => exact ⟨rfl, works⟩

/-- A recorded payment leaves its order paid. -/
theorem paid_of_recorded {cfg : Config} {id : Nat} {pool : PaymentPool} {event : PaymentEvent}
    (records : recordsPayment cfg id pool event = true) : Paid id ((services cfg).step pool event).shared := by
  rw [recordsPayment, Bool.and_eq_true] at records
  obtain ⟨known, runs⟩ := records
  cases event with
  | call | stop | outside => cases runs
  | run index answer =>
    cases found : pool.calls[index]? with
    | none => simp [runsOn, found] at runs
    | some call =>
      simp only [runsOn, found, Bool.and_eq_true, Bool.not_eq_true', decide_eq_true_eq] at runs
      obtain ⟨⟨works, pays⟩, free⟩ := runs
      obtain ⟨order, listed⟩ := Option.isSome_iff_exists.mp known
      have member : order ∈ pool.shared.orders := List.mem_of_find?_eq_some listed
      have own : order.id = id := by simpa using List.find?_some listed
      -- Both statements wait for the row, and nobody holds it.
      have moved : ∀ statement, (call.next cfg pool.shared answer).1 = statement →
          (services cfg).Free statement.needs (pool.calls.eraseIdx index) →
          ((services cfg).step pool (.run index answer)).shared = statement.execute pool.shared := by
        rintro statement rfl unlocked
        rw [(services cfg).step_free found unlocked]
        rfl
      rcases call.next_pays cfg pays works known with stamps | takes | ⟨nothing, paid⟩
      · rw [moved _ stamps free]
        exact ⟨_, List.mem_map_of_mem member, by rw [onOrder_id, own], by simp [Statement.onOrder, own]⟩
      · rw [moved _ takes free]
        refine ⟨_, List.mem_map_of_mem member, by rw [onOrder_id, own], ?_⟩
        -- The row is paid already, or it is the one the UPDATE hits.
        by_cases paid : order.paymentStatus = .paid <;> simp [Statement.onOrder, own, paid]
      · rw [moved _ nothing fun _ _ key needed => absurd needed List.not_mem_nil]
        exact paid.execute fun _ same => by cases same

/-- An order that a step has marked paid had a payment recorded by it. -/
theorem recorded_of_paid {cfg : Config} {id : Nat} {pool : PaymentPool} {event : PaymentEvent}
    (unpaid : ¬ Paid id pool.shared) (paid : Paid id ((services cfg).step pool event).shared) :
    recordsPayment cfg id pool event = true := by
  cases event with
  | call | stop => exact absurd paid unpaid
  | outside event =>
    -- Nothing outside the services marks an order paid.
    by_cases free : (services cfg).Free ((services cfg).outsideNeeds event) pool.calls
    · rw [CallSystem.step, if_pos free] at paid
      exact absurd (unhappen event paid) unpaid
    · rw [CallSystem.step, if_neg free] at paid
      exact absurd paid unpaid
  | run index answer =>
    cases found : pool.calls[index]? with
    | none => exact absurd (by simpa [CallSystem.step, found] using paid) unpaid
    | some call =>
      by_cases free : (services cfg).Free ((services cfg).needs (call.next cfg pool.shared answer).1)
          (pool.calls.eraseIdx index)
      · have moved : ((services cfg).step pool (.run index answer)).shared =
            (call.next cfg pool.shared answer).1.execute pool.shared := by
          rw [(services cfg).step_free found free]
          rfl
        rw [moved] at paid
        obtain ⟨row, listed, same, marked⟩ := paid
        obtain ⟨old, member, rfl⟩ := List.mem_map.mp listed
        rw [onOrder_id] at same
        have was : old.paymentStatus ≠ .paid := fun before => unpaid ⟨old, member, same, before⟩
        have known : (pool.shared.order id).isSome = true :=
          List.find?_isSome.mpr ⟨old, member, decide_eq_true same⟩
        -- Only the two statements that record a payment mark a row paid.
        have marks : (call.next cfg pool.shared answer).1 = .stampPaid id ∨
            (call.next cfg pool.shared answer).1 = .takeCash id := by
          generalize statement : (call.next cfg pool.shared answer).1 = ran at marked
          cases ran with
          | stampPaid order =>
            simp only [Statement.onOrder] at marked
            split at marked
            · rename_i hit
              exact .inl (by rw [← hit, same])
            · exact absurd marked was
          | takeCash order =>
            simp only [Statement.onOrder] at marked
            split at marked
            · rename_i hit
              exact .inr (by rw [← hit.1, same])
            · exact absurd marked was
          | stampPayment order status =>
            -- A stamp of another status is none of `'PAID'`.
            rcases call.next_stamps cfg pool.shared answer with ⟨_, _, _, _, other, stamp⟩ | ⟨-, none_⟩
            · rw [statement] at stamp
              cases stamp
              simp only [Statement.onOrder] at marked
              split at marked
              · exact absurd marked other
              · exact absurd marked was
            · exact absurd statement (none_ _ _)
          | commitPayout | commitSettlement | settleCash =>
            simp only [Statement.onOrder] at marked
            split at marked <;> exact absurd marked was
          | _ => exact absurd marked was
        obtain ⟨pays, works⟩ := PaymentCall.pays_of_next marks
        have needs : (services cfg).needs (call.next cfg pool.shared answer).1 = [.order id] := by
          rcases marks with stamps | takes
          · rw [stamps]
            rfl
          · rw [takes]
            rfl
        rw [needs] at free
        simp [recordsPayment, runsOn, found, known, works, pays, free]
      · rw [(services cfg).step_waits found free] at paid
        exact absurd paid unpaid

/-- In any run, a paid order stays paid exactly when no unguarded stamp runs on it behind a payment. -/
theorem paid_stays_iff (cfg : Config) (id : Nat) (pool : PaymentPool) (events : List PaymentEvent) :
    Stays (services cfg).step (fun pool => Paid id pool.shared) pool events ↔ ¬ StampedLate cfg id pool events := by
  constructor
  · rintro stays ⟨prior, event, rest, rfl, stamps, behind⟩
    -- From the payment on the order is paid, and so it is when the stamp runs.
    have paid : Paid id (run (services cfg).step pool prior).shared := by
      rcases behind with paid | ⟨earlier, payment, between, rfl, records⟩
      · exact stays [] prior (List.prefix_append _ _) paid
      · have marked : Paid id (run (services cfg).step pool (earlier ++ [payment])).shared := by
          rw [run_append]
          exact paid_of_recorded records
        have later := stays (earlier ++ [payment]) between (by simp) marked
        simpa using later
    -- The stamp takes it out of that status, for all that it should have stayed.
    have kept := along_iff_each.mp (stays_iff_along.mp stays) prior event rest rfl
    have spared := (paid_step_iff cfg id _ event).mp kept
    rw [overwritesPaid_eq, stamps, decide_eq_true paid] at spared
    cases spared
  · intro early
    refine stays_iff_along.mpr (along_iff_each.mpr fun prior event rest same => ?_)
    refine (paid_step_iff cfg id _ event).mpr (Bool.eq_false_iff.mpr fun overwrites => early ?_)
    rw [overwritesPaid_eq, Bool.and_eq_true, decide_eq_true_eq] at overwrites
    obtain ⟨stamps, paid⟩ := overwrites
    refine ⟨prior, event, rest, same, stamps, ?_⟩
    -- Whatever is paid by now was so at the start, or became so by a payment.
    by_cases first : Paid id pool.shared
    · exact .inl first
    · obtain ⟨earlier, payment, between, rfl, unpaid, since⟩ :=
        @run_becomes _ _ (services cfg).step (fun pool => Paid id pool.shared) pool prior first paid
      refine .inr ⟨earlier, payment, between, rfl, recorded_of_paid unpaid ?_⟩
      have marked := since [] List.nil_prefix
      rw [run_append] at marked
      exact marked

/-- The webhook settles a prompt before the request that raised it stamps its order. -/
def webhookFirst : List PaymentEvent :=
  [.call (.requestPaymentForOrder 1 none none), .run 0 {}, .run 0 {}, .run 0 {}, .run 0 {},
    .outside (.settle 1 1000 ['R', 'W', 'F']), .call (.reconcilePaymentRequest 1), .run 1 {},
    .run 1 { verdict := some collected }, .run 1 {}, .run 1 {}, .run 0 {}]

/-- A paid order goes back to pending when the webhook overtakes the request that raised the prompt. -/
theorem paid_overwritten :
    ¬ ∀ (cfg : Config) (id : Nat) (pool : PaymentPool) (events : List PaymentEvent),
      Stays (services cfg).step (fun pool => Paid id pool.shared) pool events := by
  -- It is paid after eleven events, and no longer at the end.
  intro always
  have paid : Paid 1 (run (services .kigali).step oneAtTheDoor (webhookFirst.take 11)).shared := by
    decide +kernel
  have overwritten : ¬ Paid 1 (run (services .kigali).step oneAtTheDoor webhookFirst).shared := by
    decide +kernel
  exact overwritten (always .kigali 1 oneAtTheDoor webhookFirst (webhookFirst.take 11)
    (webhookFirst.drop 11) (by simp) paid)

end Freight.Payment
