import Freight.Payment.CashSummary
import Mathlib.Algebra.Order.BigOperators.Group.List

/-! Whether the app offers to settle what the server would let it settle. -/

namespace Freight.Payment

variable {cfg : Config} {upper : Char → Text} {store : Store} {driver : String}

/-- Where a request for the whole debt can be charged, and nothing is in flight, its checks are these. -/
theorem raises_iff {msisdn : String} (configured : cfg.collectionConfigured = true)
    (number : toMsisdn cfg.normalizePhone driver = some msisdn)
    (reaches : canReceiveMomoPrompt cfg.normalizePhone driver = true) {answer : Answer}
    (works : answer.fails = false) (quiet : store.pendingSettlement driver = none) :
    debtAccepted (cashOwedBy cfg store driver) = true ↔
      ∃ raised currency,
        ((SettlementRequestCall.selectDebts driver .everything).next cfg store answer).2 =
          .selectPending raised ∧
        ((SettlementRequestCall.selectPending raised).next cfg store answer).2 = .insertSettlement raised ∧
        ((SettlementRequestCall.insertSettlement raised).next cfg store answer).1 =
          .insertSettlement (newSettlement store raised currency) := by
  generalize owed_eq : cashOwedBy cfg store driver = owed
  have starts {raised : Raised} (checked : raise cfg owed driver .everything = .ok raised) :
      ((SettlementRequestCall.selectDebts driver .everything).next cfg store answer).2 =
        .selectPending raised := by
    simp only [SettlementRequestCall.next, configured, works, owed_eq, checked, Bool.not_true,
      Bool.false_eq_true, if_false]
  constructor
  · intro accepted
    simp only [debtAccepted, Bool.and_eq_true, decide_eq_true_eq] at accepted
    obtain ⟨⟨some_owed, one⟩, named⟩ := accepted
    obtain ⟨currency, recorded⟩ := Option.isSome_iff_exists.mp named
    -- The whole debt is a sum that may be asked for.
    have whole : settlementAmount owed .everything = .ok owed.total := by
      have positive : ¬ owed.total ≤ 0 := not_le.mpr some_owed
      have within : ¬ owed.total + 1 / 100 < owed.total := not_lt.mpr (by linarith)
      simp only [settlementAmount, if_neg positive, if_neg within]
    have raised : raise cfg owed driver .everything = .ok ⟨driver, msisdn, owed.total, owed.currency⟩ := by
      simp only [raise, whole, number, reaches, if_neg (not_le.mpr some_owed), if_neg (not_lt.mpr one), if_true]
    refine ⟨_, currency, starts raised, ?_, ?_⟩
    · simp only [SettlementRequestCall.next, works, quiet, Bool.false_eq_true, if_false]
    · simp only [SettlementRequestCall.next, recorded, works, quiet, Option.isSome_none, Bool.or_false,
        Bool.false_eq_true, if_false]
  · rintro ⟨raised, currency, passes, -, inserts⟩
    simp only [debtAccepted, Bool.and_eq_true, decide_eq_true_eq]
    cases checked : raise cfg owed driver .everything with
    | error refusal =>
      simp only [SettlementRequestCall.next, configured, works, owed_eq, checked, Bool.not_true,
        Bool.false_eq_true, if_false] at passes
      cases passes
    | ok other =>
      obtain rfl : other = raised := by
        have same := (starts checked).symm.trans passes
        cases same
        rfl
      have named := (raise_ok checked).2.1
      refine ⟨⟨?_, ?_⟩, ?_⟩
      · by_contra nothing
        simp only [raise, if_pos (not_lt.mp nothing)] at checked
        cases checked
      · by_contra several
        simp only [raise] at checked
        split at checked
        · cases checked
        · rw [if_pos (not_le.mp several)] at checked
          cases checked
      · -- Without a currency the request ends before it inserts anything.
        cases recorded : owed.currency with
        | some _ => rfl
        | none =>
          rw [recorded] at named
          simp only [SettlementRequestCall.next, named] at inserts
          cases inserts

/-- The cash jobs are all in one group, settled ones and ones without a commission included. -/
def OneGroup (upper : Char → Text) (jobs : List Order) : Prop :=
  ∀ one ∈ jobs, ∀ other ∈ jobs, sqlCurrency upper one = sqlCurrency upper other

/-- Some of the debts name a currency, and the others name the same one or none. -/
def OneNamed (upper : Char → Text) (debts : List Order) : Prop :=
  ∃ code, code ≠ [] ∧ (∃ debt ∈ debts, foldCurrency upper debt.currency = code) ∧
    ∀ debt ∈ debts, foldCurrency upper debt.currency = [] ∨ foldCurrency upper debt.currency = code

/-- A list has one member at most once its duplicates are gone exactly when its members are all the same. -/
theorem dedup_length_le_one {α : Type*} [DecidableEq α] {list : List α} :
    list.dedup.length ≤ 1 ↔ ∀ one ∈ list, ∀ other ∈ list, one = other := by
  constructor
  · intro short one listed other member
    have first := List.mem_dedup.mpr listed
    have second := List.mem_dedup.mpr member
    match list.dedup, short, first, second with
    | [_], _, first, second => exact (List.mem_singleton.mp first).trans (List.mem_singleton.mp second).symm
  · intro same
    have distinct := List.nodup_dedup list
    -- Two members that differ would both stay.
    match found : list.dedup, distinct with
    | [], _ => exact Nat.zero_le _
    | [_], _ => exact Nat.le_refl _
    | first :: second :: rest, distinct =>
      have one : first ∈ list := List.mem_dedup.mp (by rw [found]; exact List.mem_cons_self)
      have other : second ∈ list :=
        List.mem_dedup.mp (by rw [found]; exact List.mem_cons_of_mem _ List.mem_cons_self)
      rw [same first one second other] at distinct
      exact absurd List.mem_cons_self (List.nodup_cons.mp distinct).1

/-- The screen shows one group exactly when all jobs are in one. -/
theorem currencyTotals_length {jobs : List Order} :
    (currencyTotals upper jobs).length ≤ 1 ↔ OneGroup upper jobs := by
  -- There is a total for each currency that comes up.
  unfold currencyTotals
  rw [List.length_map, dedup_length_le_one]
  simp only [OneGroup, List.forall_mem_map]

/-- What is owed in one group is what is owed. -/
theorem commissionOwed_sum {jobs : List Order} (one : OneGroup upper jobs) :
    ((currencyTotals upper jobs).map CurrencyTotals.commissionOwed).sum = owedSum jobs := by
  have short := (@dedup_length_le_one _ _ (jobs.map (sqlCurrency upper))).mpr (by
    simp only [List.forall_mem_map]
    exact one)
  unfold currencyTotals
  match found : (jobs.map (sqlCurrency upper)).dedup, short with
  | [], _ =>
    have none_ : jobs = [] := by
      rw [List.dedup_eq_nil, List.map_eq_nil_iff] at found
      exact found
    rw [none_]
    rfl
  | [only], _ =>
    -- Every job is in the only group there is.
    have all : (jobs.filter fun job => sqlCurrency upper job = only) = jobs := by
      apply List.filter_eq_self.mpr
      intro job member
      have among : sqlCurrency upper job ∈ (jobs.map (sqlCurrency upper)).dedup :=
        List.mem_dedup.mpr (List.mem_map_of_mem member)
      rw [found] at among
      exact decide_eq_true (List.mem_singleton.mp among)
    simp only [List.map_cons, List.map_nil, List.sum_cons, List.sum_nil, add_zero, all]
    rfl

/-- The app offers to settle what is owed in one group. -/
theorem canSettleNow_iff :
    canSettleNow (some (cashSummary upper store driver)) = .canSettle ↔
      OneGroup upper (cashJobs store driver) ∧ 0 < owedSum (cashJobs store driver) := by
  by_cases one : OneGroup upper (cashJobs store driver)
  · have short := currencyTotals_length.mpr one
    -- One group has one total, which is what is owed.
    have owed : (cashSummary upper store driver).commissionOwed = some (owedSum (cashJobs store driver)) := by
      simp only [cashSummary, if_neg (not_lt.mpr short), commissionOwed_sum one]
    have groups : ¬ 1 < (cashSummary upper store driver).byCurrency.length := not_lt.mpr short
    simp only [canSettleNow, if_neg groups, owed, orZero, Option.getD_some]
    by_cases positive : owedSum (cashJobs store driver) ≤ 0
    · rw [if_pos positive]
      refine iff_of_false ?_ fun settles => not_lt.mpr positive settles.2
      split <;> exact fun offered => by cases offered
    · rw [if_neg positive]
      exact iff_of_true rfl ⟨one, not_le.mp positive⟩
  · -- More than one group is not offered to be settled at once.
    have groups : 1 < (cashSummary upper store driver).byCurrency.length :=
      not_le.mp fun short => one (currencyTotals_length.mp short)
    simp only [canSettleNow, if_pos groups]
    exact iff_of_false (fun offered => by cases offered) fun settles => one settles.1

/-- A job that is owed for is one of the driver's cash jobs, still to be settled, at a price. -/
theorem owes_iff {order : Order} : owes driver order = true ↔
    (order.assignedTo = some driver ∧ order.paymentMethod = some .cash) ∧
      order.cashSettledAt.isNone = true ∧ 0 < orZero order.platformFee := by
  -- The same four checks, grouped another way.
  simp only [owes, Order.cashOutstanding, Bool.and_eq_true, decide_eq_true_eq]
  exact ⟨fun ⟨⟨mine, cash, open_⟩, fee⟩ => ⟨⟨mine, cash⟩, open_, fee⟩,
    fun ⟨⟨mine, cash⟩, open_, fee⟩ => ⟨⟨mine, cash, open_⟩, fee⟩⟩

/-- The jobs a driver owes for. -/
def owing (store : Store) (driver : String) : List Order := store.orders.filter (owes driver)

/-- Something is owed exactly when there is a job to owe for. -/
theorem total_pos_iff : 0 < (cashOwedBy cfg store driver).total ↔ owing store driver ≠ [] := by
  -- A fee that is owed is above zero, so the sum of some is.
  have fees : ∀ debt ∈ outstanding store driver, 0 < debt.fee := by
    intro debt member
    obtain ⟨order, -, owes_, rfl⟩ := mem_outstanding.mp member
    exact (owes_iff.mp owes_).2.2
  have empty : outstanding store driver = [] ↔ owing store driver = [] := by
    unfold outstanding owing
    rw [List.map_eq_nil_iff, ← List.length_eq_zero_iff, ← List.length_eq_zero_iff,
      List.length_insertionSort]
  show 0 < ((outstanding store driver).map Debt.fee).sum ↔ _
  rw [Ne, ← empty]
  constructor
  · intro positive none_
    rw [none_] at positive
    exact lt_irrefl _ positive
  · intro some_
    apply List.sum_pos
    · simpa only [List.forall_mem_map] using fees
    · simpa only [Ne, List.map_eq_nil_iff] using some_

/-- There is one currency exactly when one is named, and no other. -/
theorem soleCurrency_isSome {rows : List (Option Text)} :
    (soleCurrency upper rows).isSome = true ↔ ∃ code, code ≠ [] ∧
      (∃ row ∈ rows, foldCurrency upper row = code) ∧
      ∀ row ∈ rows, foldCurrency upper row = [] ∨ foldCurrency upper row = code := by
  constructor
  · intro named
    obtain ⟨code, sole⟩ := Option.isSome_iff_exists.mp named
    have listed : code ∈ distinctCurrencies upper rows := by
      unfold soleCurrency at sole
      split at sole
      · rename_i only found
        cases sole
        rw [found]
        exact List.mem_cons_self
      · cases sole
    obtain ⟨recorded, names⟩ := mem_distinctCurrencies.mp listed
    exact ⟨code, recorded, names, fun row member => soleCurrency_spec sole member⟩
  · rintro ⟨code, recorded, names, others⟩
    -- Nothing else is listed, and nothing is listed twice.
    have listed := mem_distinctCurrencies.mpr ⟨recorded, names⟩
    have same : ∀ one ∈ distinctCurrencies upper rows, one = code := by
      intro one member
      obtain ⟨filled, row, among, rfl⟩ := mem_distinctCurrencies.mp member
      exact (others row among).resolve_left filled
    have distinct : (distinctCurrencies upper rows).Nodup := List.nodup_reverse.mpr (List.nodup_dedup _)
    unfold soleCurrency
    match found : distinctCurrencies upper rows, listed, same, distinct with
    | [_], _, _, _ => rfl
    | first :: second :: _, _, same, distinct =>
      have equal : first = second := (same first List.mem_cons_self).trans
        (same second (List.mem_cons_of_mem _ List.mem_cons_self)).symm
      rw [equal] at distinct
      exact absurd List.mem_cons_self (List.nodup_cons.mp distinct).1

/-- A request for the whole debt is accepted where there is one, in one currency that is named. -/
theorem debtAccepted_iff :
    debtAccepted (cashOwedBy cfg store driver) = true ↔
      owing store driver ≠ [] ∧ OneNamed cfg.upper (owing store driver) := by
  -- The currency of the debts is named where each of them names it.
  have named : (cashOwedBy cfg store driver).currency.isSome = true ↔ OneNamed cfg.upper (owing store driver) := by
    refine soleCurrency_isSome.trans ?_
    unfold OneNamed outstanding owing
    simp only [List.map_map, List.mem_map, List.mem_insertionSort, Function.comp, Debt.of, exists_exists_and_eq_and,
      forall_exists_index, and_imp, forall_apply_eq_imp_iff₂]
  -- Where it is named there is no other.
  have single : (cashOwedBy cfg store driver).currency.isSome = true →
      (cashOwedBy cfg store driver).currencies.length ≤ 1 := by
    intro sole
    have listed : (soleCurrency cfg.upper ((outstanding store driver).map Debt.currency)).isSome = true := sole
    unfold soleCurrency at listed
    split at listed
    · rename_i only found
      show (distinctCurrencies cfg.upper _).length ≤ 1
      rw [found]
      exact Nat.le_refl _
    · cases listed
  unfold debtAccepted
  simp only [Bool.and_eq_true, decide_eq_true_eq]
  rw [total_pos_iff, ← named]
  exact ⟨fun ⟨⟨owed, _⟩, sole⟩ => ⟨owed, sole⟩, fun ⟨owed, sole⟩ => ⟨⟨owed, single sole⟩, sole⟩⟩

/-- What a driver has been credited with: commissions below zero of cash jobs still to be settled. -/
def credits (store : Store) (driver : String) : List Order :=
  (cashJobs store driver).filter fun job => job.cashSettledAt.isNone && orZero job.platformFee < 0

/-- The credits of a driver are as high as the debts. -/
def Outweighed (store : Store) (driver : String) : Prop :=
  ((owing store driver).map fun job => orZero job.platformFee).sum ≤
    ((credits store driver).map fun job => -orZero job.platformFee).sum

/-- All cash jobs are in the groups of all debts. -/
def Together (sqlUpper : Char → Text) (store : Store) (driver : String) : Prop :=
  ∀ job ∈ cashJobs store driver, ∀ debt ∈ owing store driver, sqlCurrency sqlUpper job = sqlCurrency sqlUpper debt

/-- What makes the app and the server differ on whether a driver's debt can be paid at once. -/
inductive Differs (upper sqlUpper : Char → Text) (store : Store) (driver : String) : Prop where
  /-- A job that nothing is owed for (settled, or without a commission) is in another group than a debt. -/
  | settledElsewhere (job debt : Order) (listed : job ∈ cashJobs store driver) (spared : owes driver job = false)
      (member : debt ∈ owing store driver) (apart : sqlCurrency sqlUpper job ≠ sqlCurrency sqlUpper debt)
      (named : OneNamed upper (owing store driver))
  /-- A debt without a currency is in another group than one with. -/
  | unnamedBeside (blank debt : Order) (listed : blank ∈ owing store driver) (member : debt ∈ owing store driver)
      (unnamed : foldCurrency upper blank.currency = [])
      (apart : sqlCurrency sqlUpper blank ≠ sqlCurrency sqlUpper debt)
      (named : OneNamed upper (owing store driver))
  /-- Two debts in one currency are written so that the database keeps them apart. -/
  | writtenApart (one other : Order) (listed : one ∈ owing store driver) (member : other ∈ owing store driver)
      (same : foldCurrency upper one.currency = foldCurrency upper other.currency)
      (apart : sqlCurrency sqlUpper one ≠ sqlCurrency sqlUpper other)
      (named : OneNamed upper (owing store driver))
  /-- The total on the screen sets credits off against the debts, which the server does not. -/
  | outweighed (credited : Outweighed store driver) (named : OneNamed upper (owing store driver))
  /-- No debt names a currency, and no other cash job does that would tell. -/
  | unnamed (owed : owing store driver ≠ []) (blank : ∀ debt ∈ owing store driver, foldCurrency upper debt.currency = [])
      (together : Together sqlUpper store driver) (uncredited : ¬ Outweighed store driver)
  /-- Two debts in two currencies are written so that the database takes them for one. -/
  | writtenTogether (one other : Order) (listed : one ∈ owing store driver) (member : other ∈ owing store driver)
      (named : foldCurrency upper one.currency ≠ []) (second : foldCurrency upper other.currency ≠ [])
      (two : foldCurrency upper one.currency ≠ foldCurrency upper other.currency)
      (together : Together sqlUpper store driver) (uncredited : ¬ Outweighed store driver)

/-- Without a job to owe for, nothing adds up to a debt. -/
theorem owedSum_nonpos (nothing : owing store driver = []) : owedSum (cashJobs store driver) ≤ 0 := by
  -- Each job still open has no positive fee, or it would be owed for.
  unfold owedSum
  refine (List.sum_le_card_nsmul _ 0 ?_).trans (le_of_eq (nsmul_zero _))
  simp only [List.forall_mem_map, List.mem_filter, cashJobs, Bool.and_eq_true, decide_eq_true_eq]
  rintro job ⟨⟨listed, mine⟩, open_⟩
  by_contra positive
  have owed : job ∈ owing store driver :=
    List.mem_filter.mpr ⟨listed, owes_iff.mpr ⟨mine, open_, not_le.mp positive⟩⟩
  rw [nothing] at owed
  exact absurd owed List.not_mem_nil

/-- A job that is owed for is a cash job. -/
theorem owing_cashJobs {job : Order} (member : job ∈ owing store driver) : job ∈ cashJobs store driver := by
  -- The first two conditions of what is owed are those of a cash job.
  obtain ⟨listed, owed⟩ := List.mem_filter.mp member
  refine List.mem_filter.mpr ⟨listed, ?_⟩
  simpa only [Bool.and_eq_true, decide_eq_true_eq] using (owes_iff.mp owed).1

/-- A sum is that of its terms above zero less that of those below, turned round. -/
theorem sum_split {α : Type*} (list : List α) (value : α → ℚ) :
    (list.map value).sum = ((list.filter fun one => 0 < value one).map value).sum -
      ((list.filter fun one => value one < 0).map fun one => -value one).sum := by
  -- Term by term, each is above zero, below it or nothing.
  induction list with
  | nil => simp
  | cons first rest ih =>
    rw [List.map_cons, List.sum_cons, ih]
    rcases lt_trichotomy (value first) 0 with below | zero | above
    · rw [List.filter_cons_of_neg (by simpa using below.le), List.filter_cons_of_pos (by simpa using below),
        List.map_cons, List.sum_cons]
      ring
    · rw [List.filter_cons_of_neg (by simp [zero]), List.filter_cons_of_neg (by simp [zero]), zero]
      ring
    · rw [List.filter_cons_of_pos (by simpa using above), List.filter_cons_of_neg (by simpa using above.le),
        List.map_cons, List.sum_cons]
      ring

/-- What is owed is above zero exactly where the credits do not outweigh the debts. -/
theorem owedSum_pos : 0 < owedSum (cashJobs store driver) ↔ ¬ Outweighed store driver := by
  unfold owedSum Outweighed
  rw [sum_split, List.filter_filter, List.filter_filter, sub_pos, not_le]
  -- The terms above zero are the debts, and those below are the credits.
  have debts : (cashJobs store driver).filter (fun job => decide (0 < orZero job.platformFee) &&
      job.cashSettledAt.isNone) = owing store driver := by
    unfold cashJobs owing
    rw [List.filter_filter]
    refine List.filter_congr fun job _ => ?_
    rw [Bool.eq_iff_iff, owes_iff]
    simp only [Bool.and_eq_true, decide_eq_true_eq]
    tauto
  have below : (cashJobs store driver).filter (fun job => decide (orZero job.platformFee < 0) &&
      job.cashSettledAt.isNone) = credits store driver :=
    List.filter_congr fun job _ => Bool.and_comm _ _
  rw [debts, below]

/-- With a debt, the jobs are all in one group exactly when they are in those of the debts. -/
theorem oneGroup_iff {sqlUpper : Char → Text} (owed : owing store driver ≠ []) :
    OneGroup sqlUpper (cashJobs store driver) ↔ Together sqlUpper store driver := by
  -- The debts are among the jobs; and with one debt for reference, all jobs are in its group.
  obtain ⟨debt, member⟩ := List.exists_mem_of_ne_nil _ owed
  constructor
  · intro one job listed other owes_
    exact one job listed other (owing_cashJobs owes_)
  · intro together one listed other found
    exact (together one listed debt member).trans (together other found debt member).symm

/-- What the server would take, the app offers, unless something makes them differ. -/
theorem offered_of_named {sqlUpper : Char → Text}
    (named : OneNamed upper (owing store driver)) (agree : ¬ Differs upper sqlUpper store driver) :
    Together sqlUpper store driver ∧ ¬ Outweighed store driver := by
  refine ⟨?_, fun credited => agree (.outweighed credited named)⟩
  intro job listed debt member
  by_contra apart
  obtain ⟨code, filled, ⟨first, among, is⟩, others⟩ := named
  have named : OneNamed upper (owing store driver) := ⟨code, filled, ⟨first, among, is⟩, others⟩
  -- Of the job and the debt, one at least is in another group than the debt that names the currency.
  have strays : ∀ stray ∈ cashJobs store driver, sqlCurrency sqlUpper stray ≠ sqlCurrency sqlUpper first → False := by
    intro stray there elsewhere
    cases mine : owes driver stray with
    | false => exact agree (.settledElsewhere stray first there mine among elsewhere named)
    | true =>
      have own : stray ∈ owing store driver := List.mem_filter.mpr ⟨(List.mem_filter.mp there).1, mine⟩
      rcases others stray own with blank | same
      · exact agree (.unnamedBeside stray first own among blank elsewhere named)
      · exact agree (.writtenApart stray first own among (same.trans is.symm) elsewhere named)
  by_cases with_first : sqlCurrency sqlUpper job = sqlCurrency sqlUpper first
  · exact strays debt (owing_cashJobs member) fun same => apart (with_first.trans same.symm)
  · exact strays job listed with_first

/-- What the app offers, the server would take, unless something makes them differ. -/
theorem named_of_offered (owed : owing store driver ≠ []) {sqlUpper : Char → Text}
    (together : Together sqlUpper store driver) (uncredited : ¬ Outweighed store driver)
    (agree : ¬ Differs upper sqlUpper store driver) : OneNamed upper (owing store driver) := by
  by_cases blank : ∀ debt ∈ owing store driver, foldCurrency upper debt.currency = []
  · exact absurd (.unnamed owed blank together uncredited) agree
  · -- Some debt names a currency, and any other that names one names the same.
    simp only [not_forall] at blank
    obtain ⟨debt, member, filled⟩ := blank
    refine ⟨_, filled, ⟨debt, member, rfl⟩, fun other listed => ?_⟩
    by_contra neither
    rw [not_or] at neither
    exact agree (.writtenTogether other debt listed member neither.1 filled neither.2 together uncredited)

/-- The app offers to settle exactly what the server accepts, unless something makes them differ. -/
theorem offered_iff_accepted (cfg : Config) (sqlUpper : Char → Text) (store : Store) (driver : String) :
    (canSettleNow (some (cashSummary sqlUpper store driver)) = .canSettle ↔
        debtAccepted (cashOwedBy cfg store driver) = true) ↔
      ¬ Differs cfg.upper sqlUpper store driver := by
  rw [canSettleNow_iff, debtAccepted_iff, owedSum_pos]
  by_cases nothing : owing store driver = []
  · -- Without a debt nothing is offered, nothing is accepted, and nothing differs.
    have settled := mt owedSum_pos.mpr (not_lt.mpr (owedSum_nonpos nothing))
    have none_ : ∀ debt, debt ∉ owing store driver := by simp [nothing]
    refine iff_of_true (iff_of_false (fun offered => settled offered.2) fun accepted => accepted.1 nothing) ?_
    intro differs
    cases differs with
    | settledElsewhere _ debt _ _ member => exact none_ debt member
    | unnamedBeside _ debt _ member => exact none_ debt member
    | writtenApart _ debt _ member => exact none_ debt member
    | outweighed _ named =>
      obtain ⟨_, _, ⟨debt, member, _⟩, _⟩ := named
      exact none_ debt member
    | unnamed owed => exact owed nothing
    | writtenTogether _ debt _ member => exact none_ debt member
  · rw [oneGroup_iff nothing]
    constructor
    · intro same differs
      cases differs with
      | settledElsewhere job debt listed spared member apart named =>
        exact apart ((same.mpr ⟨nothing, named⟩).1 job listed debt member)
      | unnamedBeside blank debt listed member unnamed apart named =>
        exact apart ((same.mpr ⟨nothing, named⟩).1 blank (owing_cashJobs listed) debt member)
      | writtenApart one other listed member equal apart named =>
        exact apart ((same.mpr ⟨nothing, named⟩).1 one (owing_cashJobs listed) other member)
      | outweighed credited named => exact (same.mpr ⟨nothing, named⟩).2 credited
      | unnamed owed blank together uncredited =>
        obtain ⟨-, code, filled, ⟨debt, member, is⟩, -⟩ := same.mp ⟨together, uncredited⟩
        exact filled (is.symm.trans (blank debt member))
      | writtenTogether one other listed member named second two together uncredited =>
        -- Both would be the one currency that the debts name.
        obtain ⟨-, code, -, -, others⟩ := same.mp ⟨together, uncredited⟩
        exact two (((others one listed).resolve_left named).trans ((others other member).resolve_left second).symm)
    · intro agree
      exact ⟨fun ⟨together, uncredited⟩ => ⟨nothing, named_of_offered nothing together uncredited agree⟩,
        fun ⟨_, named⟩ => offered_of_named named agree⟩

/-- A fare that was settled in dollars, and one that is owed in francs. -/
def twoCurrencies : Store where
  orders := [
    { id := 1, assignedTo := some "+250788000001", paymentMethod := some .cash, platformFee := some 15
      currency := some ['U', 'S', 'D'], cashCollectedAt := some 1, cashSettledAt := some 2 },
    { id := 2, assignedTo := some "+250788000001", paymentMethod := some .cash, platformFee := some 2000
      currency := some ['R', 'W', 'F'], cashCollectedAt := some 3 }]

/-- One that is owed in no currency. -/
def noCurrency : Store where
  orders := [
    { id := 1, assignedTo := some "+250788000001", paymentMethod := some .cash, platformFee := some 2000
      cashCollectedAt := some 1 }]

/-- The first is not offered, though it would be accepted; and the second is offered, to be refused. -/
theorem offers_differ :
    (canSettleNow (some (cashSummary Config.kigali.upper twoCurrencies "+250788000001")) ≠ .canSettle ∧
        debtAccepted (cashOwedBy .kigali twoCurrencies "+250788000001") = true) ∧
      canSettleNow (some (cashSummary Config.kigali.upper noCurrency "+250788000001")) = .canSettle ∧
        debtAccepted (cashOwedBy .kigali noCurrency "+250788000001") = false := by
  -- Both sides compute, so it is enough to run them on the two.
  decide +kernel

end Freight.Payment
