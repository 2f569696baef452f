import Freight.Payment.Ledger

/-! A driver's commission is taken once, where what is taken is still owed when it is taken. -/

namespace Freight.Payment

/--
No order of the driver's is cleared twice, and no more is taken than was owed.

As no order is cleared twice, the ledger's fees are the commission of the orders cleared.
-/
def TakenOnce (driver : String) (store : Store) : Prop :=
  ((clearingsOf driver store.clearings).map Clearing.orderId).Nodup ∧
    taken driver store ≤
      clearedFees driver (fun _ => true) store.clearings + stillOwed driver store

instance (driver : String) (store : Store) : Decidable (TakenOnce driver store) :=
  inferInstanceAs (Decidable (_ ∧ _))

/--
What a settlement is about to clear for the driver is outstanding, and what it was paid is owed.

Both are owed on top of what part payments left over.
-/
def SettlementCall.takesOwed (driver : String) (store : Store) (answer : Answer) :
    SettlementCall → Bool
  -- Between the claim and the COMMIT a payout may have netted off the same debts.
  | .commit settlement verdict cleared =>
    answer.fails || settlement.driverUsername ≠ driver ||
      ((cleared.all fun debt => debt ∈ outstanding store driver) &&
        (!settlementSucceeded settlement verdict ||
          settlement.amount + leftOver driver store ≤ stillOwed driver store))
  | _ => true

/-- What dispatch is about to take is owed on top of what part payments left over. -/
def DispatchCall.takesOwed (driver : String) (store : Store) (answer : Answer) : DispatchCall → Bool
  | .settleCash orderId _ =>
    answer.fails || (store.order orderId).all fun order =>
      order.assignedTo ≠ some driver || !order.cashOutstanding ||
        orZero order.platformFee + leftOver driver store ≤ stillOwed driver store
  | _ => true

/-- What a payout is about to withhold is owed on top of what part payments left over. -/
def ReconcileCall.takesOwed (driver : String) (store : Store) (answer : Answer) :
    ReconcileCall → Bool
  | .queuePayout _ (.commit earning _ _ cleared _) =>
    answer.fails || earning.driver ≠ driver ||
      totalFee cleared + leftOver driver store ≤ stillOwed driver store
  | _ => true

/-- What a call is about to take from the driver is still owed. -/
def PaymentCall.takesOwed (driver : String) (store : Store) (answer : Answer) : PaymentCall → Bool
  | .settlement call => call.takesOwed driver store answer
  | .dispatch call => call.takesOwed driver store answer
  | call => call.reconciling.all (ReconcileCall.takesOwed driver store answer)

/-- No event of the run takes from the driver what is no longer owed. -/
def takesOwed (driver : String) (pool : PaymentPool) : PaymentEvent → Bool
  | .run index answer =>
    pool.calls[index]?.all fun call => call.takesOwed driver pool.shared answer
  | _ => true

/-- The books on one driver, besides what the locks keep. -/
structure Books (cfg : Config) (driver : String) (store : Store) (calls : List PaymentCall) : Prop
    extends UnderLock cfg store calls where
  /-- Settlements are for something. -/
  positive : ∀ row ∈ store.settlements, 0 < row.amount
  raised : ∀ call ∈ calls, ∀ raised, call.passed = some raised → 0 < raised.amount
  once : ((clearingsOf driver store.clearings).map Clearing.orderId).Nodup
  /-- An order that was cleared says so. -/
  settled : ∀ entry ∈ clearingsOf driver store.clearings, ∀ order ∈ store.orders,
    order.id = entry.orderId → order.cashSettledAt.isSome
  /-- What was withheld from payouts has cleared as much. -/
  recovered : withheld driver store.payouts = clearedFees driver Channel.byPayout store.clearings
  /-- What part payments left over is still owed. -/
  covered : leftOver driver store ≤ stillOwed driver store

namespace Books

variable {cfg : Config} {driver : String} {store : Store} {answer : Answer} {call : PaymentCall}
  {others : List PaymentCall}

/-- What is kept is that nothing is taken twice. -/
theorem takenOnce {calls : List PaymentCall} (inv : Books cfg driver store calls) :
    TakenOnce driver store := by
  -- What was cleared splits into the three channels, and each of them is accounted for.
  have split := clearedFees_split driver store.clearings
  have covered := inv.covered
  have recovered := inv.recovered
  simp only [leftOver] at covered
  refine ⟨inv.once, ?_⟩
  rw [split, taken]
  linarith

/-- A statement that clears only outstanding orders clears each once. -/
theorem next_once {calls : List PaymentCall} (inv : Books cfg driver store calls)
    {statement : Statement} (unsettled : ∀ entry ∈ clearingsOf driver (statement.clears store.orders),
      ∃ order ∈ store.orders, order.id = entry.orderId ∧ order.cashSettledAt = none) :
    ((clearingsOf driver (statement.execute store).clearings).map Clearing.orderId).Nodup ∧
      ∀ entry ∈ clearingsOf driver (statement.execute store).clearings,
        ∀ order ∈ (statement.execute store).orders, order.id = entry.orderId →
          order.cashSettledAt.isSome := by
  have entries : clearingsOf driver (statement.execute store).clearings =
      clearingsOf driver store.clearings ++ clearingsOf driver (statement.clears store.orders) :=
    List.filter_append ..
  rw [entries]
  constructor
  · rw [List.map_append]
    refine List.nodup_append.mpr ⟨inv.once,
      (clears_distinct inv.orders statement).sublist (List.filter_sublist.map _),
      fun id old id' new same => ?_⟩
    -- An order on the ledger is settled, and the one being cleared is not.
    obtain ⟨before, listed, rfl⟩ := List.mem_map.mp old
    obtain ⟨entry, cleared, rfl⟩ := List.mem_map.mp new
    obtain ⟨order, there, own, none⟩ := unsettled entry cleared
    have done := inv.settled before listed order there (own.trans same.symm)
    rw [none] at done
    cases done
  · intro entry member row there own
    obtain ⟨order, listed, rfl⟩ := List.mem_map.mp there
    rw [onOrder_id] at own
    rcases List.mem_append.mp member with old | new
    · exact settled_onOrder (inv.settled entry old order listed own)
    · exact settled_of_clears inv.orders (List.mem_filter.mp new).1 listed own

/-- Settlements stay for something. -/
theorem next_positive (inv : Books cfg driver store (call :: others)) :
    ∀ row ∈ ((call.next cfg store answer).1.execute store).settlements, 0 < row.amount := by
  -- It is an old settlement, or one that is raised now for what was checked to be positive.
  intro row member
  rcases mem_execute_settlements.mp member with ⟨old, listed, rfl⟩ | inserts
  · rw [(onSettlement_same _ _ _).2.2.1]
    exact inv.positive old listed
  · have step := @PaymentCall.commissions_of_next cfg store answer call (by rw [inserts]; rfl)
    rw [inserts] at step
    cases step with
    | raises raised currency named => exact inv.raised _ List.mem_cons_self raised rfl


/-- A call that clears debts takes them only where `takesOwed` looks. -/
theorem takesOwed_reconciling {inner : ReconcileCall} (settling : call.reconciling = some inner) :
    call.takesOwed driver store answer = inner.takesOwed driver store answer := by
  -- A settlement of a commission and the dispatch are in the middle of no request.
  cases call with
  | settlement | dispatch => cases settling
  | _ => simp [PaymentCall.takesOwed, settling]

/-- What is kept of the sums: the ledger's orders, the payouts' share, and what is left over. -/
structure Sums (driver : String) (store : Store) (statement : Statement) : Prop where
  unsettled : ∀ entry ∈ clearingsOf driver (statement.clears store.orders),
    ∃ order ∈ store.orders, order.id = entry.orderId ∧ order.cashSettledAt = none
  recovered : withheld driver (statement.execute store).payouts =
    clearedFees driver Channel.byPayout (statement.execute store).clearings
  covered : leftOver driver (statement.execute store) ≤ stillOwed driver (statement.execute store)

/-- A statement that commits nothing and takes nothing off an order keeps the sums. -/
theorem sums_quiet {calls : List PaymentCall} (inv : Books cfg driver store calls)
    {statement : Statement} (orders : ∀ id, .order id ∉ statement.guards)
    (payouts : ∀ payout cleared, statement ≠ .commitPayout payout cleared)
    (settlements : ∀ settlement status transactionId reason cleared,
      statement ≠ .commitSettlement settlement status transactionId reason cleared)
    (pending : ∀ row, statement = .insertSettlement row → row.status = .pending) :
    Sums driver store statement := by
  -- None of the three statements that clear debts is this one.
  have nothing : statement.clears store.orders = [] := by
    cases statement with
    | commitPayout payout cleared => exact absurd rfl (payouts payout cleared)
    | commitSettlement settlement status transactionId reason cleared =>
      exact absurd rfl (settlements settlement status transactionId reason cleared)
    | settleCash id => exact absurd List.mem_cons_self (orders id)
    | _ => rfl
  have ledger : (statement.execute store).clearings = store.clearings := by
    simp [Statement.execute, nothing]
  have same : (statement.execute store).payouts = store.payouts := execute_payouts store payouts
  have paid := paidIn_execute driver inv.positive settlements pending
  have owed := stillOwed_execute driver statement store
  have none : (store.orders.filter fun order => .order order.id ∈ statement.guards) = [] := by
    simp [orders]
  rw [none, List.map_nil, List.sum_nil, add_zero] at owed
  have covered := inv.covered
  refine ⟨by simp [nothing, clearingsOf], by rw [same, ledger, inv.recovered], ?_⟩
  simp only [leftOver, ledger] at covered ⊢
  linarith

/-- A payout that commits withholds what it clears. -/
theorem sums_nets (inv : Books cfg driver store (call :: others)) {found : Found} {earning : Earning}
    {payoutId reference : Nat} {cleared locked : List Debt}
    (queuing : call.reconciling =
      some (.queuePayout found (.commit earning payoutId reference cleared locked)))
    (works : answer.fails = false) (takes : call.takesOwed driver store answer = true) :
    Sums driver store (.commitPayout (committedPayout cfg store.now earning payoutId reference cleared)
      (cleared.map Debt.orderId)) := by
  have nets : call.netting = some { earning := earning, cleared := cleared, locked := locked } := by
    rw [PaymentCall.netting, queuing]
    rfl
  have held := inv.netted call List.mem_cons_self _ nets
  have once : (cleared.map Debt.orderId).Nodup := held.distinct.sublist (held.within.sublist.map _)
  have owed : ∀ debt ∈ cleared, debt ∈ outstanding store earning.driver :=
    fun debt member => held.owed debt (held.within.subset member)
  have entries (through : Channel → Bool) := clearedFees_booked inv.orders once (fun debt member =>
    booked_of_outstanding (owed debt member)) driver through (.payout payoutId)
    (some earning.request.currency)
  have drop := stillOwed_clear inv.orders once owed (.commitPayout (committedPayout cfg
    store.now earning payoutId reference cleared) (cleared.map Debt.orderId))
    (by simp [Statement.guards]) driver
  have covered := inv.covered
  have recovered := inv.recovered
  rw [takesOwed_reconciling queuing] at takes
  simp only [ReconcileCall.takesOwed, works, Bool.false_or, Bool.or_eq_true, decide_eq_true_eq] at takes
  refine ⟨fun entry member => ?_, ?_, ?_⟩
  · -- What is cleared was locked, and is outstanding still.
    simp only [clearingsOf, Statement.clears, List.mem_filter, List.mem_map, decide_eq_true_eq] at member
    obtain ⟨⟨order, ⟨listed, debt, cleared, same⟩, rfl⟩, -⟩ := member
    obtain ⟨row, also, own, none⟩ := unsettled_of_outstanding (owed debt cleared)
    exact ⟨row, also, own.trans same, none⟩
  · have more : withheld driver (store.payouts ++ [committedPayout cfg store.now earning payoutId
        reference cleared]) = withheld driver store.payouts +
        if earning.driver = driver then totalFee cleared else 0 := by
      -- The payout is this driver's, or somebody else's.
      by_cases mine : earning.driver = driver <;>
        simp [withheld, committedPayout, queuedPayout, mine]
    change withheld driver (store.payouts ++ [_]) =
      clearedFees driver Channel.byPayout (store.clearings ++ Statement.clears _ _)
    rw [more, clearedFees_append, recovered, Statement.clears, committedPayout, queuedPayout,
      entries Channel.byPayout]
    simp [Channel.byPayout]
  · have rest : leftOver driver ((Statement.commitPayout (committedPayout cfg store.now earning payoutId
        reference cleared) (cleared.map Debt.orderId)).execute store) = leftOver driver store := by
      change paidIn driver (store.settlements.map id ++ []) -
        clearedFees driver Channel.bySettlement (store.clearings ++ Statement.clears _ _) = _
      rw [clearedFees_append, Statement.clears, committedPayout, queuedPayout,
        entries Channel.bySettlement, leftOver]
      simp [Channel.bySettlement]
    rw [rest]
    by_cases mine : earning.driver = driver
    · have fits := takes.resolve_left (by simp [mine])
      simp only [mine, if_true] at drop
      linarith
    · simp only [mine, if_false] at drop
      linarith

/-- A settlement that commits was owed what it was paid, and clears what is outstanding. -/
theorem sums_pays {settlement : CashSettlement} {verdict : Verdict} {cleared : List Debt}
    (inv : Books cfg driver store (.settlement (.commit settlement verdict cleared) :: others))
    (works : answer.fails = false) (takes : (PaymentCall.settlement
      (.commit settlement verdict cleared)).takesOwed driver store answer = true) :
    Sums driver store (.commitSettlement settlement
      (if settlementSucceeded settlement verdict then .successful else .failed)
      verdict.transactionId (settlementFailure settlement verdict) (cleared.map Debt.orderId)) := by
  -- What the settlement covers is recorded in the call that carries it.
  have recorded := inv.recorded _ List.mem_cons_self
    { settlement := settlement, claimed := true, cleared := cleared } rfl
  have entries (through : Channel → Bool) := clearedFees_booked inv.orders recorded.distinct
    recorded.booked driver through (.settlement settlement.id) (some settlement.currency)
  have paid := paidIn_commit driver inv.settlements recorded rfl
    (if settlementSucceeded settlement verdict then .successful else .failed)
    verdict.transactionId (settlementFailure settlement verdict) (cleared.map Debt.orderId)
  have covered := inv.covered
  simp only [PaymentCall.takesOwed, SettlementCall.takesOwed, works, Bool.false_or, Bool.or_eq_true,
    Bool.and_eq_true, decide_eq_true_eq, List.all_eq_true, Bool.not_eq_true'] at takes
  generalize statement : Statement.commitSettlement settlement
      (if settlementSucceeded settlement verdict then .successful else .failed)
      verdict.transactionId (settlementFailure settlement verdict) (cleared.map Debt.orderId) = write
      at paid ⊢
  have ledger : (write.execute store).clearings = store.clearings ++ (store.orders.filter
      fun order => order.id ∈ cleared.map Debt.orderId).map
        (clearing (.settlement settlement.id) (some settlement.currency)) := by
    subst statement
    rfl
  have payouts : (write.execute store).payouts = store.payouts := by
    subst statement
    exact List.append_nil _
  have recovered : withheld driver (write.execute store).payouts =
      clearedFees driver Channel.byPayout (write.execute store).clearings := by
    rw [payouts, ledger, clearedFees_append, inv.recovered, entries Channel.byPayout]
    simp [Channel.byPayout]
  -- What is left over grows by what was paid, and shrinks by what it covers.
  have left : leftOver driver (write.execute store) = paidIn driver store.settlements +
      (if settlement.driverUsername = driver ∧ settlementSucceeded settlement verdict = true then
        settlement.amount else 0) - (clearedFees driver Channel.bySettlement store.clearings +
      if settlement.driverUsername = driver then totalFee cleared else 0) := by
    rw [leftOver, paid, ledger, clearedFees_append, entries Channel.bySettlement]
    cases settlementSucceeded settlement verdict <;> simp [Channel.bySettlement]
  have whose := (orders_of_booked inv.orders recorded.distinct recorded.booked).1
  by_cases mine : settlement.driverUsername = driver
  · obtain ⟨owed, fits⟩ := takes.resolve_left (by simp [mine])
    have drop := stillOwed_clear inv.orders recorded.distinct owed write
      (by subst statement; simp [Statement.guards]) driver
    refine ⟨fun entry member => ?_, recovered, ?_⟩
    · subst statement
      simp only [clearingsOf, Statement.clears, List.mem_filter, List.mem_map,
        decide_eq_true_eq] at member
      obtain ⟨⟨order, ⟨listed, debt, cleared, same⟩, rfl⟩, -⟩ := member
      obtain ⟨row, also, own, none⟩ := unsettled_of_outstanding (owed debt cleared)
      exact ⟨row, also, own.trans same, none⟩
    · simp only [leftOver] at covered fits
      rw [left]
      cases succeeded : settlementSucceeded settlement verdict with
      | false =>
        simp only [mine, if_true, Bool.false_eq_true, and_false, if_false] at drop ⊢
        linarith
      | true =>
        have within := fits.resolve_left (by simp [succeeded])
        simp only [mine, if_true, and_self] at drop ⊢
        linarith
  · -- Another driver's settlement touches none of this driver's orders.
    have apart : ∀ order ∈ store.orders, order.id ∈ cleared.map Debt.orderId →
        order.assignedTo ≠ some driver := fun order listed named same =>
      mine (Option.some.inj ((whose order listed named).1.symm.trans same))
    have drop := stillOwed_execute driver write store
    have none : ((store.orders.filter fun order => .order order.id ∈ write.guards).map
        (owedFee driver)).sum = 0 := by
      subst statement
      refine List.sum_eq_zero fun fee member => ?_
      simp only [Statement.guards, List.mem_map, List.mem_filter] at member
      obtain ⟨order, ⟨listed, named⟩, rfl⟩ := member
      have other := apart order listed (by simpa using named)
      simp [owedFee, Payment.owes, other]
    rw [none, add_zero] at drop
    refine ⟨fun entry member => ?_, recovered, ?_⟩
    · subst statement
      simp only [clearingsOf, Statement.clears, List.mem_filter, List.mem_map,
        decide_eq_true_eq] at member
      obtain ⟨⟨order, ⟨listed, named⟩, rfl⟩, own⟩ := member
      exact absurd own (apart order listed (List.mem_map.mpr named))
    · simp only [leftOver] at covered
      rw [left]
      simp only [mine, false_and, if_false]
      linarith

/-- Dispatch takes one order's commission, which was owed. -/
theorem sums_hands {calls : List PaymentCall} (inv : Books cfg driver store calls) {orderId : Nat}
    {order : Order} (found : store.order orderId = some order)
    (outstanding : order.cashOutstanding = true)
    (takes : order.assignedTo = some driver →
      orZero order.platformFee + leftOver driver store ≤ stillOwed driver store) :
    Sums driver store (.settleCash orderId) := by
  have own : order.id = orderId := by simpa using List.find?_some found
  have listed := List.mem_of_find?_eq_some found
  -- The id names one order, which is the one that is cleared.
  have named : ∀ row ∈ store.orders, row.id = orderId ↔ row = order := fun row there =>
    ⟨fun same => List.inj_on_of_nodup_map inv.orders there listed (same.trans own.symm),
      fun same => same ▸ own⟩
  have cleared : ∀ entry ∈ (Statement.settleCash orderId).clears store.orders,
      entry = clearing .dispatch none order := by
    intro entry member
    simp only [Statement.clears, List.mem_map, List.mem_filter, decide_eq_true_eq] at member
    obtain ⟨row, ⟨there, same, -⟩, rfl⟩ := member
    rw [(named row there).mp same]
  have entries (through : Channel → Bool) (other : through .dispatch = false) :
      clearedFees driver through ((Statement.settleCash orderId).clears store.orders) = 0 := by
    refine List.sum_eq_zero fun fee member => ?_
    simp only [List.mem_map, List.mem_filter, clearingsOf] at member
    obtain ⟨entry, ⟨⟨there, -⟩, goes⟩, rfl⟩ := member
    rw [cleared entry there] at goes
    exact absurd goes (by simp [clearing, other])
  -- What is owed falls by what this order owed, and by nothing else.
  have drop := stillOwed_execute driver (.settleCash orderId) store
  have fee : ((store.orders.filter fun row => .order row.id ∈ (Statement.settleCash orderId).guards).map
      (owedFee driver)).sum ≤ owedFee driver order := by
    have once : (store.orders.filter fun row => .order row.id ∈
        (Statement.settleCash orderId).guards).Perm [order] := by
      refine (List.perm_ext_iff_of_nodup ((List.Nodup.of_map _ inv.orders).filter _)
        (List.nodup_singleton _)).mpr fun row => ?_
      simp only [Statement.guards, List.mem_filter, List.mem_singleton, Lock.order.injEq,
        decide_eq_true_eq]
      exact ⟨fun both => (named row both.1).mp both.2, fun same => ⟨same ▸ listed, same ▸ own⟩⟩
    rw [(once.map _).sum_eq]
    simp
  have ledger : ((Statement.settleCash orderId).execute store).clearings =
    store.clearings ++ (Statement.settleCash orderId).clears store.orders := rfl
  have payouts : ((Statement.settleCash orderId).execute store).payouts = store.payouts :=
    List.append_nil _
  have settlements : ((Statement.settleCash orderId).execute store).settlements = store.settlements :=
    (List.append_nil _).trans (List.map_id _)
  have covered := inv.covered
  refine ⟨fun entry member => ?_, ?_, ?_⟩
  · rw [cleared entry (List.mem_filter.mp member).1]
    simp only [Order.cashOutstanding, Bool.and_eq_true, Option.isNone_iff_eq_none] at outstanding
    exact ⟨order, listed, rfl, outstanding.2⟩
  · rw [payouts, ledger, clearedFees_append, inv.recovered, entries Channel.byPayout rfl, add_zero]
  · have rest : leftOver driver ((Statement.settleCash orderId).execute store) =
        leftOver driver store := by
      rw [leftOver, leftOver, ledger, settlements, clearedFees_append,
        entries Channel.bySettlement rfl, add_zero]
    rw [rest]
    -- The order was the driver's to pay for, or it was not.
    by_cases owed : owes driver order = true
    · have whose : order.assignedTo = some driver := by
        simp only [Payment.owes, Bool.and_eq_true, decide_eq_true_eq] at owed
        exact owed.1.1
      have fits := takes whose
      simp only [owedFee, owed, if_true] at fee
      linarith
    · simp only [owedFee, owed, Bool.false_eq_true, if_false] at fee
      linarith

/-- Whatever a step does, it keeps the sums where it takes what is owed. -/
theorem next_sums (inv : Books cfg driver store (call :: others))
    (takes : call.takesOwed driver store answer = true) :
    Sums driver store (call.next cfg store answer).1 := by
  cases commissions : (call.next cfg store answer).1.commissions with
  | false =>
    -- A statement that clears nothing and raises nothing leaves every sum.
    have quiet := Statement.guards_nil commissions
    generalize (call.next cfg store answer).1 = statement at commissions quiet
    refine inv.sums_quiet (by simp [quiet]) (fun payout cleared same => ?_)
      (fun settlement status transactionId reason cleared same => ?_) fun row same => ?_
    all_goals
      rw [same] at commissions
      cases commissions
  | true =>
    -- Otherwise it is one of the five that are about commissions.
    have step := call.commissions_of_next commissions
    generalize (call.next cfg store answer).1 = statement at step
    cases step with
    | nets _ found earning payoutId reference cleared locked queuing works =>
      exact inv.sums_nets queuing works takes
    | pays settlement verdict cleared works => exact inv.sums_pays works takes
    | hands orderId settledBy order works found outstanding =>
      refine inv.sums_hands found outstanding fun whose => ?_
      simpa [PaymentCall.takesOwed, DispatchCall.takesOwed, works, found, whose, outstanding] using takes
    | fails settlementId reason =>
      exact inv.sums_quiet (by simp [Statement.guards]) (by simp) (by simp) (by simp)
    | raises raised currency named =>
      refine inv.sums_quiet (by simp [Statement.guards]) (by simp) (by simp) fun row same => ?_
      cases same
      rfl

end Books

/-- Every event that takes only what is owed keeps the books. -/
theorem books_keep (cfg : Config) (driver : String) : (services cfg).Keeps (Books cfg driver)
    fun pool event => takesOwed driver pool event = true where
  perm same inv :=
    { (underLock_keeps cfg).perm same inv.toUnderLock, inv with
      raised := fun call member => inv.raised call (same.mem_iff.mpr member) }
  moves := by
    intro pool index answer call others taken inv admitted
    simp only [takesOwed, taken.found, Option.all_some] at admitted
    have sums := @Books.next_sums cfg driver _ answer call others inv admitted
    obtain ⟨once, settled⟩ := inv.next_once sums.unsettled
    refine {
      toUnderLock := (underLock_keeps cfg).moves taken inv.toUnderLock trivial
      positive := inv.next_positive
      raised := fun one member raised raises => ?_
      once := once
      settled := settled
      recovered := sums.recovered
      covered := sums.covered }
    rcases List.mem_cons.mp member with rfl | other
    · rcases call.next_passed raises with before | ⟨driver, asked, -, -, -, passes⟩
      · exact inv.raised call List.mem_cons_self raised before
      · exact (settlementAmount_ok (raise_ok passes).2.2).1
    · exact inv.raised one (List.mem_cons_of_mem _ other) raised raises
  arrives := by
    intro pool entry inv _
    have nothing : entry.start.passed = none := by cases entry <;> rfl
    refine { inv with
      toUnderLock := (underLock_keeps cfg).arrives inv.toUnderLock trivial
      raised := fun one member raised raises => ?_ }
    rcases List.mem_cons.mp member with rfl | old
    · exact absurd (nothing.symm.trans raises) (by simp)
    · exact inv.raised one old raised raises
  stops := by
    intro pool index call others found inv _
    refine { inv with
      toUnderLock := (underLock_keeps cfg).stops found inv.toUnderLock trivial
      raised := fun one member raised raises => ?_ }
    rcases List.mem_cons.mp member with rfl | other
    · cases raises
    · exact inv.raised one (List.mem_cons_of_mem _ other) raised raises
  happens := by
    intro pool event inv _ free
    change Books cfg driver (event.happen pool.shared) pool.calls
    -- What happens outside writes orders and prompts, and none of the books.
    have rows : (event.happen pool.shared).settlements = pool.shared.settlements ∧
        (event.happen pool.shared).payouts = pool.shared.payouts ∧
        (event.happen pool.shared).clearings = pool.shared.clearings := by
      cases event <;> exact ⟨rfl, rfl, rfl⟩
    obtain ⟨change, orders, keeps⟩ := happen_debt event pool.shared
    -- Nor does it change what a driver owes.
    have owed : stillOwed driver (event.happen pool.shared) = stillOwed driver pool.shared := by
      rw [stillOwed_eq, stillOwed_eq, orders, List.map_map]
      refine congrArg List.sum (List.map_congr_left fun order _ => ?_)
      simp [owedFee, ((keeps order).owes driver).1, (keeps order).platformFee]
    refine {
      toUnderLock := (underLock_keeps cfg).happens inv.toUnderLock trivial free
      positive := by rw [rows.1]; exact inv.positive
      raised := inv.raised
      once := by rw [rows.2.2]; exact inv.once
      settled := fun entry member order there own => ?_
      recovered := by rw [rows.2.1, rows.2.2]; exact inv.recovered
      covered := by rw [owed, leftOver, rows.1, rows.2.2]; exact inv.covered }
    rw [rows.2.2] at member
    rw [orders] at there
    obtain ⟨old, listed, rfl⟩ := List.mem_map.mp there
    rw [(keeps old).cashSettledAt]
    exact inv.settled entry member old listed ((keeps old).id.symm.trans own)

/-- Before anything is collected nothing has been taken. -/
theorem books_start {cfg : Config} {driver : String} {orders : List Order}
    (distinct : (orders.map Order.id).Nodup) (nextId : Nat) :
    Books cfg driver { orders := orders, nextId := nextId } [] where
  orders := distinct
  requests := List.nodup_nil
  references := List.nodup_nil
  drawn := by simp
  fresh := List.nodup_nil
  undrawn := by simp [unsentReferences]
  backed := by simp
  exclusive := List.Pairwise.nil
  settlements := List.nodup_nil
  serials := by simp
  netted := by simp
  recorded := by simp
  positive := by simp
  raised := by simp
  once := List.nodup_nil
  settled := by simp [clearingsOf]
  recovered := rfl
  covered := by
    have nothing : leftOver driver { orders := orders, nextId := nextId } = 0 := by
      simp [leftOver, paidIn, clearedFees, clearingsOf]
    -- Nothing is left over, and what is owed is a sum of fees.
    rw [nothing, stillOwed_eq]
    refine List.sum_nonneg fun fee member => ?_
    obtain ⟨order, -, rfl⟩ := List.mem_map.mp member
    exact owedFee_nonneg driver order

/-- In every run that takes only what is still owed, a driver's commission is taken once. -/
theorem taken_once {cfg : Config} {driver : String} {orders : List Order} {nextId : Nat}
    {events : List PaymentEvent} (distinct : (orders.map Order.id).Nodup)
    (along : Along (services cfg).step (fun pool event => takesOwed driver pool event = true)
      { shared := { orders := orders, nextId := nextId }, calls := [] } events) :
    Throughout (services cfg).step (fun pool => TakenOnce driver pool.shared)
      { shared := { orders := orders, nextId := nextId }, calls := [] } events :=
  -- At the start nothing has been cleared or taken.
  ((books_keep cfg driver).throughout (books_start distinct nextId) along).mono
    fun _ inv => inv.takenOnce

/-- One commission paid by phone, two netted off a payout, and the last handed to dispatch. -/
theorem taken_once_threeWays :
    TakenOnce aDriver (run (services .kigali).step
      { shared := { orders := [atTheDoor, tookCash 2, tookCash 3, tookCash 4, tookCash 5], nextId := 1 }
        calls := [] }
      (paysCommission 0 (.sum 150) 150 ++ readsDebts 1 150 ++ [.run 1 {}, .run 1 {}] ++ paysFare 2 3 ++
        [.call (.settleCashForOrder 5 none), .run 4 {}])).shared ∧
    (run (services .kigali).step
      { shared := { orders := [atTheDoor, tookCash 2, tookCash 3, tookCash 4, tookCash 5], nextId := 1 }
        calls := [] }
      (paysCommission 0 (.sum 150) 150 ++ readsDebts 1 150 ++ [.run 1 {}, .run 1 {}] ++ paysFare 2 3 ++
        [.call (.settleCashForOrder 5 none), .run 4 {}])).shared.clearings.map Clearing.orderId =
      [2, 3, 4, 5] :=
  ⟨(taken_once (by decide) (by decide +kernel)).last, by decide +kernel⟩

/-- A debt netted off a payout while the settlement that has read it waits is cleared again. -/
theorem taken_twice :
    ¬ ∀ (cfg : Config) (driver : String) (orders : List Order) (nextId : Nat)
      (events : List PaymentEvent), (orders.map Order.id).Nodup →
      Throughout (services cfg).step (fun pool => TakenOnce driver pool.shared)
        { shared := { orders := orders, nextId := nextId }, calls := [] } events := by
  intro always
  have once := (always .kigali aDriver [atTheDoor, tookCash 2] 1
    (paysCommission 0 (.sum 150) 150 ++ readsDebts 1 150 ++ paysFare 2 3 ++ [.run 1 {}, .run 1 {}])
    (by decide)).last
  -- The debt is withheld from the payout, and covered by the settlement as well.
  have twice : ¬ TakenOnce aDriver (run (services .kigali).step
      { shared := { orders := [atTheDoor, tookCash 2], nextId := 1 }, calls := [] }
      (paysCommission 0 (.sum 150) 150 ++ readsDebts 1 150 ++ paysFare 2 3 ++ [.run 1 {}, .run 1 {}])).shared := by
    decide +kernel
  exact twice once

end Freight.Payment
