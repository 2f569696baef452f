import Freight.Payment.Ledger

/-! Money in one currency clears debts in that currency, where nothing blank or foreign is let in. -/

namespace Freight.Payment

/-- A recorded currency is the one that was charged, up to case and blanks. -/
def SameCurrency (cfg : Config) (recorded : Option Text) (charged : Text) : Prop :=
  -- A settlement is charged in a currency that is folded already.
  foldCurrency cfg.upper recorded = charged ∨
    foldCurrency cfg.upper recorded = foldCurrency cfg.upper (some charged)

instance (cfg : Config) (recorded : Option Text) (charged : Text) :
    Decidable (SameCurrency cfg recorded charged) :=
  inferInstanceAs (Decidable (_ ∨ _))

/-- An amount is the sum of a driver's fees in one currency, or a part of such a sum that was named. -/
def ChargedIn (cfg : Config) (named : String → ℚ → Prop) (store : Store) (driver : String) (amount : ℚ)
    (currency : Text) : Prop :=
  ∃ debts : List Debt, (debts.map Debt.orderId).Nodup ∧
    (∀ debt ∈ debts, Booked store driver debt ∧ foldCurrency cfg.upper debt.currency = currency) ∧
    (amount = totalFee debts ∨ named driver amount ∧ amount ≤ totalFee debts + 1 / 100)

/-- Every order is cleared by money in its own currency, and what is charged is in one currency. -/
def OneCurrency (cfg : Config) (named : String → ℚ → Prop) (store : Store) : Prop :=
  (∀ entry ∈ store.clearings, ∀ charged, entry.charged = some charged →
    SameCurrency cfg entry.currency charged) ∧
  ∀ row ∈ store.settlements, ChargedIn cfg named store row.driverUsername row.amount row.currency

/-- What a driver owes in one currency. -/
def debtsIn (cfg : Config) (store : Store) (driver : String) (currency : Text) : List Debt :=
  (outstanding store driver).filter fun debt => foldCurrency cfg.upper debt.currency = currency

/--
A settlement is raised over debts that all record a currency, or over part of those that do.

Without a currency of their own, debts count towards the sum but not towards its currency.
-/
def SettlementRequestCall.chargesOne (cfg : Config) (store : Store) (answer : Answer) :
    SettlementRequestCall → Bool
  | .selectDebts driver asked =>
    answer.fails || (cashOwedBy cfg store driver).currency.all fun currency =>
      match asked with
      -- A part is fine while the debts of that currency come to as much.
      | .sum amount => amount ≤ totalFee (debtsIn cfg store driver currency) + 1 / 100
      | .everything | .notANumber =>
        (outstanding store driver).all fun debt => foldCurrency cfg.upper debt.currency ≠ []
  | _ => true

/-- The debts a settlement's payment reaches are in its currency. -/
def SettlementCall.chargesOne (cfg : Config) (store : Store) (answer : Answer) :
    SettlementCall → Bool
  | .readDebts settlement _ =>
    answer.fails || (settleLoop settlement.amount (outstanding store settlement.driverUsername)).all
      fun debt => SameCurrency cfg debt.currency settlement.currency
  | _ => true

/-- The debts a payout's share reaches are in its currency. -/
def ReconcileCall.chargesOne (cfg : Config) (store : Store) (answer : Answer) : ReconcileCall → Bool
  | .queuePayout _ (.lockDebts earning _ _) =>
    answer.fails || (recoverLoop (earning.gross * cfg.cashRecoveryMaxShare) 0
      (outstanding store earning.driver)).all
        fun debt => SameCurrency cfg debt.currency earning.request.currency
  | _ => true

/-- What a call is about to read as owed is in the currency it charges. -/
def PaymentCall.chargesOne (cfg : Config) (store : Store) (answer : Answer) : PaymentCall → Bool
  | .settlementRequest call => call.chargesOne cfg store answer
  | .settlement call => call.chargesOne cfg store answer
  | call => call.reconciling.all (ReconcileCall.chargesOne cfg store answer)

/-- No event of the run reads debts in another currency than it charges. -/
def chargesOne (cfg : Config) (pool : PaymentPool) : PaymentEvent → Bool
  | .run index answer =>
    pool.calls[index]?.all fun call => call.chargesOne cfg pool.shared answer
  | _ => true

/-- The amount a call was asked to charge, when one was named. -/
def PaymentCall.naming : PaymentCall → Option (String × ℚ)
  | .settlementRequest (.selectDebts driver (.sum amount)) => some (driver, amount)
  | _ => none

/-- Every call keeps to the currency it charges, whatever it has read. -/
structure InCurrency (cfg : Config) (named : String → ℚ → Prop) (store : Store)
    (calls : List PaymentCall) : Prop extends UnderLock cfg store calls where
  cleared : ∀ entry ∈ store.clearings, ∀ charged, entry.charged = some charged →
    SameCurrency cfg entry.currency charged
  rows : ∀ row ∈ store.settlements,
    ChargedIn cfg named store row.driverUsername row.amount row.currency
  netting : ∀ call ∈ calls, ∀ netting, call.netting = some netting → ∀ debt ∈ netting.cleared,
    SameCurrency cfg debt.currency netting.earning.request.currency
  settling : ∀ call ∈ calls, ∀ settling, call.settling = some settling → ∀ debt ∈ settling.cleared,
    SameCurrency cfg debt.currency settling.settlement.currency
  asked : ∀ call ∈ calls, ∀ driver amount, call.naming = some (driver, amount) → named driver amount
  raised : ∀ call ∈ calls, ∀ raised, call.passed = some raised → ∀ currency,
    raised.currency = some currency → ChargedIn cfg named store raised.driver raised.amount currency

/-- What was charged stays charged for the same debts. -/
theorem ChargedIn.execute {cfg : Config} {named : String → ℚ → Prop} {store : Store}
    {driver : String} {amount : ℚ} {currency : Text}
    (charged : ChargedIn cfg named store driver amount currency) (statement : Statement) :
    ChargedIn cfg named (statement.execute store) driver amount currency := by
  -- Each debt stays booked, and the amount is what it was.
  obtain ⟨debts, distinct, booked, sum⟩ := charged
  exact ⟨debts, distinct, fun debt member =>
    ⟨(booked debt member).1.execute statement, (booked debt member).2⟩, sum⟩

/-- Nothing outside the services changes what was charged. -/
theorem ChargedIn.happen {cfg : Config} {named : String → ℚ → Prop} {store : Store}
    {driver : String} {amount : ℚ} {currency : Text}
    (charged : ChargedIn cfg named store driver amount currency) (event : PaymentOutside) :
    ChargedIn cfg named (event.happen store) driver amount currency := by
  -- Each debt stays booked, and the amount is what it was.
  obtain ⟨debts, distinct, booked, sum⟩ := charged
  exact ⟨debts, distinct, fun debt member =>
    ⟨(booked debt member).1.happen event, (booked debt member).2⟩, sum⟩

namespace InCurrency

variable {cfg : Config} {named : String → ℚ → Prop} {store : Store} {answer : Answer}
  {call : PaymentCall} {others : List PaymentCall}

/-- A settlement raised where every debt has a currency charges a sum in that currency. -/
theorem chargedIn_of_raise (inv : InCurrency cfg named store (call :: others)) {driver : String}
    {asked : Asked} (selects : call = .settlementRequest (.selectDebts driver asked))
    (works : answer.fails = false) (one : call.chargesOne cfg store answer = true) {raised : Raised}
    (passes : raise cfg (cashOwedBy cfg store driver) driver asked = .ok raised) {currency : Text}
    (named_ : raised.currency = some currency) :
    ChargedIn cfg named store raised.driver raised.amount currency := by
  obtain ⟨whose, which, priced⟩ := raise_ok passes
  obtain ⟨-, -, asks⟩ := settlementAmount_ok priced
  -- The currency is the one that every debt with a name for it shares.
  have sole : soleCurrency cfg.upper ((outstanding store driver).map Debt.currency) = some currency :=
    which.symm.trans named_
  have fold : ∀ debt ∈ outstanding store driver, foldCurrency cfg.upper debt.currency = [] ∨
      foldCurrency cfg.upper debt.currency = currency := fun debt member =>
    soleCurrency_spec sole (List.mem_map_of_mem member)
  have distinct := outstanding_distinct inv.orders driver
  simp only [selects, PaymentCall.chargesOne, SettlementRequestCall.chargesOne, works, Bool.false_or,
    cashOwedBy, sole, Option.all_some] at one
  rw [whose]
  rcases asks with ⟨rfl, total⟩ | rfl
  · -- Nothing blank is in the sum, so all of it is in the one currency.
    simp only [List.all_eq_true, decide_eq_true_eq] at one
    exact ⟨outstanding store driver, distinct, fun debt member => ⟨booked_of_outstanding member,
      (fold debt member).resolve_left (one debt member)⟩, .inl total⟩
  · -- A sum that was named is covered by the debts of that currency alone.
    simp only [decide_eq_true_eq] at one
    refine ⟨debtsIn cfg store driver currency, distinct.sublist (List.filter_sublist.map _),
      fun debt member => ?_, .inr ⟨?_, one⟩⟩
    · simp only [debtsIn, List.mem_filter, decide_eq_true_eq] at member
      exact ⟨booked_of_outstanding member.1, member.2⟩
    · exact inv.asked call List.mem_cons_self driver raised.amount (by rw [selects]; rfl)

/-- What a step clears is in the currency it charges. -/
theorem next_cleared (inv : InCurrency cfg named store (call :: others)) :
    ∀ entry ∈ (call.next cfg store answer).1.clears store.orders, ∀ charged,
      entry.charged = some charged → SameCurrency cfg entry.currency charged := by
  intro entry clears charged named_
  -- Only the five statements about commissions clear anything.
  cases commissions : (call.next cfg store answer).1.commissions with
  | false =>
    generalize (call.next cfg store answer).1 = statement at clears commissions
    cases statement <;> first | cases clears | cases commissions
  | true =>
    have step := call.commissions_of_next commissions
    generalize (call.next cfg store answer).1 = statement at step clears
    cases step with
    | nets _ found earning payoutId reference cleared locked queuing works =>
      have nets : call.netting =
          some { earning := earning, cleared := cleared, locked := locked } := by
        rw [PaymentCall.netting, queuing]
        rfl
      -- The debts are those the payout has locked, and they are still owed.
      have held := inv.netted call List.mem_cons_self _ nets
      simp only [Statement.clears, List.mem_map, List.mem_filter, decide_eq_true_eq] at clears
      obtain ⟨order, ⟨listed, there⟩, rfl⟩ := clears
      cases named_
      have own := (orders_of_booked inv.orders (held.distinct.sublist (held.within.sublist.map _))
        fun debt member => booked_of_outstanding (held.owed debt (held.within.subset member))).1
      exact inv.netting call List.mem_cons_self _ nets _ (own order listed (List.mem_map.mpr there)).2
    | pays settlement verdict cleared works =>
      -- The debts are those the settlement has covered.
      have recorded := inv.recorded _ List.mem_cons_self
        { settlement := settlement, claimed := true, cleared := cleared } rfl
      simp only [Statement.clears, List.mem_map, List.mem_filter, decide_eq_true_eq] at clears
      obtain ⟨order, ⟨listed, there⟩, rfl⟩ := clears
      cases named_
      have own := (orders_of_booked inv.orders recorded.distinct recorded.booked).1
      exact inv.settling _ List.mem_cons_self
        { settlement := settlement, claimed := true, cleared := cleared } rfl _
        (own order listed (List.mem_map.mpr there)).2
    | hands orderId settledBy order works found outstanding =>
      simp only [Statement.clears, List.mem_map, List.mem_filter] at clears
      obtain ⟨order, -, rfl⟩ := clears
      -- Cash that is handed in is charged nowhere.
      cases named_
    | fails | raises => cases clears

/-- What a step goes on netting is in the currency of its payout. -/
theorem next_nettingIn (inv : InCurrency cfg named store (call :: others))
    (one : call.chargesOne cfg store answer = true) {netting : Netting}
    (nets : (call.next cfg store answer).2.netting = some netting) :
    ∀ debt ∈ netting.cleared, SameCurrency cfg debt.currency netting.earning.request.currency := by
  -- The debts were being netted, or they have just been read.
  rcases call.next_netting nets with before | ⟨found, queuing, queues, nets⟩
  · exact inv.netting call List.mem_cons_self netting before
  · cases nets with
    | goes before =>
      exact inv.netting call List.mem_cons_self netting (by rw [PaymentCall.netting, queues]; exact before)
    | skips nothing none => simp [nothing]
    | reads payoutId reference locking works locked cleared =>
      subst locking
      -- What is admitted is that the debts it reads are in the currency of its payout.
      have own : call.chargesOne cfg store answer =
          (ReconcileCall.queuePayout found (.lockDebts netting.earning payoutId reference)).chargesOne
            cfg store answer := by
        cases call with
        | settlement | settlementRequest => cases queues
        | _ => simp [PaymentCall.chargesOne, queues]
      rw [own] at one
      simp only [ReconcileCall.chargesOne, works, Bool.false_or, List.all_eq_true,
        decide_eq_true_eq] at one
      rw [cleared, locked]
      exact one

/-- What a step goes on settling is in the currency that was paid. -/
theorem next_settlingIn (inv : InCurrency cfg named store (call :: others))
    (one : call.chargesOne cfg store answer = true) {settling : Settling}
    (settles : (call.next cfg store answer).2.settling = some settling) :
    ∀ debt ∈ settling.cleared, SameCurrency cfg debt.currency settling.settlement.currency := by
  -- Only reading the debts brings any to clear, and they are of one currency by the condition.
  cases call.next_settling settles with
  | reads listed unclaimed nothing => simp [nothing]
  | goes before => exact inv.settling call List.mem_cons_self settling before
  | claims before pending nothing => simp [nothing]
  | covers verdict reading works cleared =>
    simp only [reading, PaymentCall.chargesOne, SettlementCall.chargesOne, works, Bool.false_or,
      List.all_eq_true, decide_eq_true_eq] at one
    rw [cleared]
    exact one

/-- What a step puts on record was raised in one currency. -/
theorem next_rows (inv : InCurrency cfg named store (call :: others)) :
    ∀ row ∈ ((call.next cfg store answer).1.execute store).settlements,
      ChargedIn cfg named ((call.next cfg store answer).1.execute store) row.driverUsername
        row.amount row.currency := by
  intro row member
  refine ChargedIn.execute ?_ _
  -- A row was there before, or it is the one that was raised.
  rcases mem_execute_settlements.mp member with ⟨old, listed, rfl⟩ | inserts
  · have same := onSettlement_same (call.next cfg store answer).1 store.now old
    rw [same.2.1, same.2.2.1, same.2.2.2]
    exact inv.rows old listed
  · have step := @PaymentCall.commissions_of_next cfg store answer call (by rw [inserts]; rfl)
    rw [inserts] at step
    cases step with
    | raises raised currency names =>
      exact inv.raised _ List.mem_cons_self raised rfl currency names

end InCurrency

/-- A named amount is read once, where the debts are. -/
theorem PaymentCall.next_naming (cfg : Config) (store : Store) (answer : Answer) (call : PaymentCall) :
    (call.next cfg store answer).2.naming = none := by
  -- What is named is used by the statement that reads it.
  cases call with
  | settlementRequest call =>
    cases call <;> simp only [PaymentCall.next, SettlementRequestCall.next] <;> repeat' split
    all_goals rfl
  | _ => rfl

/-- A step that charges one currency keeps the calls to it. -/
theorem InCurrency.moves {cfg : Config} {named : String → ℚ → Prop} {store : Store} {answer : Answer}
    {call : PaymentCall} {others : List PaymentCall} (inv : InCurrency cfg named store (call :: others))
    (one : call.chargesOne cfg store answer = true)
    (underLock : UnderLock cfg ((call.next cfg store answer).1.execute store)
      ((call.next cfg store answer).2 :: others)) :
    InCurrency cfg named ((call.next cfg store answer).1.execute store)
      ((call.next cfg store answer).2 :: others) := by
  -- What is new in each list comes of the step that ran.
  refine {
    toUnderLock := underLock
    cleared := fun entry member => ?_
    rows := inv.next_rows
    netting := fun one' member netting nets => ?_
    settling := fun one' member settling settles => ?_
    asked := fun one' member driver amount names => ?_
    raised := fun one' member raised raises currency names => ?_ }
  · rcases List.mem_append.mp member with old | new
    · exact inv.cleared entry old
    · exact inv.next_cleared entry new
  · rcases List.mem_cons.mp member with rfl | other
    · exact inv.next_nettingIn one nets
    · exact inv.netting one' (List.mem_cons_of_mem _ other) netting nets
  · rcases List.mem_cons.mp member with rfl | other
    · exact inv.next_settlingIn one settles
    · exact inv.settling one' (List.mem_cons_of_mem _ other) settling settles
  · rcases List.mem_cons.mp member with rfl | other
    · exact absurd ((call.next_naming cfg store answer).symm.trans names) (by simp)
    · exact inv.asked one' (List.mem_cons_of_mem _ other) driver amount names
  · refine ChargedIn.execute ?_ _
    rcases List.mem_cons.mp member with rfl | other
    · rcases call.next_passed raises with before | ⟨driver, asked, selects, works, -, passes⟩
      · exact inv.raised call List.mem_cons_self raised before currency names
      · exact inv.chargedIn_of_raise selects works one passes names
    · exact inv.raised one' (List.mem_cons_of_mem _ other) raised raises currency names

/-- A call that has just begun names an amount at most. -/
theorem InCurrency.begins {cfg : Config} {named : String → ℚ → Prop} {store : Store} {calls : List PaymentCall}
    (inv : InCurrency cfg named store calls) {entry : PaymentEntry}
    (asks : ∀ driver amount, entry = .requestCashSettlement driver (.sum amount) → named driver amount)
    (underLock : UnderLock cfg store (entry.start :: calls)) : InCurrency cfg named store (entry.start :: calls) := by
  -- A call that has just begun nets, settles and raises nothing.
  have nothing : entry.start.netting = none ∧ entry.start.settling = none ∧
      entry.start.passed = none := by
    cases entry <;> exact ⟨rfl, rfl, rfl⟩
  refine { inv with
    toUnderLock := underLock
    netting := fun one member netting nets => ?_
    settling := fun one member settling settles => ?_
    asked := fun one member driver amount names => ?_
    raised := fun one member raised raises => ?_ }
  · rcases List.mem_cons.mp member with rfl | old
    · exact absurd (nothing.1.symm.trans nets) (by simp)
    · exact inv.netting one old netting nets
  · rcases List.mem_cons.mp member with rfl | old
    · exact absurd (nothing.2.1.symm.trans settles) (by simp)
    · exact inv.settling one old settling settles
  · rcases List.mem_cons.mp member with rfl | old
    · cases entry with
      | requestCashSettlement whose asked =>
        cases asked with
        | sum asked =>
          cases names
          exact asks driver amount rfl
        | everything | notANumber => cases names
      | _ => cases names
    · exact inv.asked one old driver amount names
  · rcases List.mem_cons.mp member with rfl | old
    · exact absurd (nothing.2.2.symm.trans raises) (by simp)
    · exact inv.raised one old raised raises

/-- Every event that reads debts in the currency it charges keeps every call to its currency. -/
theorem inCurrency_keeps (cfg : Config) (named : String → ℚ → Prop) :
    (services cfg).Keeps (InCurrency cfg named) fun pool event =>
      (∀ driver amount, event = .call (.requestCashSettlement driver (.sum amount)) →
        named driver amount) ∧ chargesOne cfg pool event = true where
  perm same inv :=
    { (underLock_keeps cfg).perm same inv.toUnderLock, inv with
      netting := fun call member => inv.netting call (same.mem_iff.mpr member)
      settling := fun call member => inv.settling call (same.mem_iff.mpr member)
      asked := fun call member => inv.asked call (same.mem_iff.mpr member)
      raised := fun call member => inv.raised call (same.mem_iff.mpr member) }
  moves := by
    intro pool index answer call others taken inv admitted
    -- The call that steps charges one currency, which is what the event is admitted for.
    have one := admitted.2
    simp only [chargesOne, taken.found, Option.all_some] at one
    exact inv.moves one ((underLock_keeps cfg).moves taken inv.toUnderLock trivial)
  arrives := by
    intro pool entry inv admitted
    exact inv.begins (fun driver amount same => admitted.1 driver amount (congrArg PoolEvent.call same))
      ((underLock_keeps cfg).arrives inv.toUnderLock trivial)
  stops := by
    intro pool index call others found inv _
    refine { inv with
      toUnderLock := (underLock_keeps cfg).stops found inv.toUnderLock trivial
      netting := fun one member netting nets => ?_
      settling := fun one member settling settles => ?_
      asked := fun one member driver amount names => ?_
      raised := fun one member raised raises => ?_ }
    · rcases List.mem_cons.mp member with rfl | other
      · cases nets
      · exact inv.netting one (List.mem_cons_of_mem _ other) netting nets
    · rcases List.mem_cons.mp member with rfl | other
      · cases settles
      · exact inv.settling one (List.mem_cons_of_mem _ other) settling settles
    · rcases List.mem_cons.mp member with rfl | other
      · cases names
      · exact inv.asked one (List.mem_cons_of_mem _ other) driver amount names
    · rcases List.mem_cons.mp member with rfl | other
      · cases raises
      · exact inv.raised one (List.mem_cons_of_mem _ other) raised raises
  happens := by
    intro pool event inv _ free
    change InCurrency cfg named (event.happen pool.shared) pool.calls
    -- What happens outside writes neither settlements nor clearings.
    have same : (event.happen pool.shared).settlements = pool.shared.settlements ∧
        (event.happen pool.shared).clearings = pool.shared.clearings := by
      cases event <;> exact ⟨rfl, rfl⟩
    refine {
      toUnderLock := (underLock_keeps cfg).happens inv.toUnderLock trivial free
      cleared := by rw [same.2]; exact inv.cleared
      rows := by rw [same.1]; exact fun row listed => (inv.rows row listed).happen event
      netting := inv.netting
      settling := inv.settling
      asked := inv.asked
      raised := fun one member raised raises currency names =>
        (inv.raised one member raised raises currency names).happen event }

/-- Before anything is collected nothing has been charged. -/
theorem inCurrency_start {cfg : Config} {named : String → ℚ → Prop} {orders : List Order}
    (distinct : (orders.map Order.id).Nodup) (nextId : Nat) :
    InCurrency cfg named { orders := orders, nextId := nextId } [] where
  -- There is no settlement, no clearing and no call to speak of.
  orders := distinct
  requests := List.nodup_nil
  references := List.nodup_nil
  drawn := by simp
  fresh := List.nodup_nil
  undrawn := by simp [unsentReferences]
  backed := by simp
  exclusive := List.Pairwise.nil
  settlements := List.nodup_nil
  serials := by simp
  netted := by simp
  recorded := by simp
  cleared := by simp
  rows := by simp
  netting := by simp
  settling := by simp
  asked := by simp
  raised := by simp

/-- Where debts are read in the currency they are charged in, money clears debts of its own currency. -/
theorem one_currency {cfg : Config} {orders : List Order} {nextId : Nat} {events : List PaymentEvent}
    (distinct : (orders.map Order.id).Nodup)
    (along : Along (services cfg).step (fun pool event => chargesOne cfg pool event = true)
      { shared := { orders := orders, nextId := nextId }, calls := [] } events) :
    Throughout (services cfg).step (fun pool => OneCurrency cfg
        (fun driver amount => .call (.requestCashSettlement driver (.sum amount)) ∈ events) pool.shared)
      { shared := { orders := orders, nextId := nextId }, calls := [] } events := by
  -- The sums that drivers name are those the run itself names.
  have named := (along.listed fun event member => member).mono fun pool event both =>
    show (∀ driver amount, event = .call (.requestCashSettlement driver (.sum amount)) →
        .call (.requestCashSettlement driver (.sum amount)) ∈ events) ∧
      chargesOne cfg pool event = true from ⟨fun driver amount same => by
        rw [← same]
        exact both.1, both.2⟩
  exact ((inCurrency_keeps cfg _).throughout (inCurrency_start distinct nextId) named).mono
    fun _ inv => ⟨inv.cleared, inv.rows⟩

/-- One commission paid by phone, another netted off a payout, their currency written two ways. -/
theorem one_currency_twoWays :
    Throughout (services .kigali).step (fun pool => OneCurrency .kigali
        (fun driver amount => .call (.requestCashSettlement driver (.sum amount)) ∈
          paysCommission 0 (.sum 150) 150 ++ readsDebts 1 150 ++ [.run 1 {}, .run 1 {}] ++ paysFare 2 3)
        pool.shared)
      { shared := { orders := [atTheDoor, { tookCash 2 with currency := some [' ', 'r', 'w', 'f'] },
                      tookCash 3], nextId := 1 }, calls := [] }
      (paysCommission 0 (.sum 150) 150 ++ readsDebts 1 150 ++ [.run 1 {}, .run 1 {}] ++ paysFare 2 3) ∧
    (run (services .kigali).step
      { shared := { orders := [atTheDoor, { tookCash 2 with currency := some [' ', 'r', 'w', 'f'] },
                      tookCash 3], nextId := 1 }, calls := [] }
      (paysCommission 0 (.sum 150) 150 ++ readsDebts 1 150 ++ [.run 1 {}, .run 1 {}] ++
        paysFare 2 3)).shared.clearings.map Clearing.orderId = [2, 3] :=
  ⟨one_currency (by decide) (by decide +kernel), by decide +kernel⟩

/-- A commission of no recorded currency is charged, and cleared, in another order's. -/
theorem charged_blank :
    ¬ ∀ (cfg : Config) (orders : List Order) (nextId : Nat) (events : List PaymentEvent),
      (orders.map Order.id).Nodup →
      Throughout (services cfg).step (fun pool => OneCurrency cfg
          (fun driver amount => .call (.requestCashSettlement driver (.sum amount)) ∈ events) pool.shared)
        { shared := { orders := orders, nextId := nextId }, calls := [] } events := by
  intro always
  have one := (always .kigali [tookCash 2, { tookCash 3 with currency := none }] 1
    (paysCommission 0 .everything 300 ++ readsDebts 1 300 ++ [.run 1 {}, .run 1 {}]) (by decide)).last
  -- The order without a currency is cleared by what was charged in francs.
  have blank : ¬ ∀ entry ∈ (run (services .kigali).step
      { shared := { orders := [tookCash 2, { tookCash 3 with currency := none }], nextId := 1 }
        calls := [] }
      (paysCommission 0 .everything 300 ++ readsDebts 1 300 ++
        [.run 1 {}, .run 1 {}])).shared.clearings, ∀ charged ∈ entry.charged,
      SameCurrency .kigali entry.currency charged := by
    decide +kernel
  exact blank one.1

end Freight.Payment
