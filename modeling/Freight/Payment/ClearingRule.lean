import Freight.Payment.Settlement
import Mathlib.Tactic.Linarith
import Mathlib.Tactic.NormNum

/-! The rule by which debts are cleared, whether they are netted off a payout or paid. -/

namespace Freight.Payment

variable {amount : ℚ} {debts cleared : List Debt}

/-- What netting clears under a ceiling: nothing is read under a ceiling of nothing. -/
def netted (ceiling : ℚ) (debts : List Debt) : List Debt :=
  if ceiling ≤ 0 then [] else recoverLoop ceiling 0 debts

/-- The longest prefix of some debts that an amount covers, which is none where it covers not even none. -/
structure LongestUnder (amount : ℚ) (debts cleared : List Debt) : Prop where
  first : cleared <+: debts
  within : cleared = [] ∨ totalFee cleared ≤ amount
  longest : ∀ other, other <+: debts → totalFee other ≤ amount → other <+: cleared

/-- The debts a payout is about to clear. -/
def PayoutCall.clears : PayoutCall → List Debt
  | .clearDebts _ _ _ cleared _ | .updatePayout _ _ _ cleared _ | .commit _ _ _ cleared _ => cleared
  | _ => []

/-- The debts a settlement is about to clear. -/
def SettlementCall.clears : SettlementCall → List Debt
  | .clearDebts _ _ cleared | .commit _ _ cleared => cleared
  | _ => []

/-- The fees of a longer list are the first one's and the others'. -/
theorem totalFee_cons (debt : Debt) (rest : List Debt) :
    totalFee (debt :: rest) = debt.fee + totalFee rest := by
  -- It is a sum over the list.
  simp [totalFee]

/-- Fees that are all positive sum to what is not negative. -/
theorem totalFee_nonneg (positive : ∀ debt ∈ debts, 0 < debt.fee) : 0 ≤ totalFee debts := by
  -- Debt by debt, each adds what is positive.
  induction debts with
  | nil => exact le_refl _
  | cons debt rest ih =>
    have later := ih fun other member => positive other (List.mem_cons_of_mem _ member)
    have now := positive debt List.mem_cons_self
    rw [totalFee_cons]
    linarith

/-- Counting up to a ceiling stops where counting down from what is left of it does. -/
theorem recoverLoop_eq (ceiling recovered : ℚ) (debts : List Debt) :
    recoverLoop ceiling recovered debts = settleLoop (ceiling - recovered) debts := by
  -- Debt by debt: what is recovered so far is what the ceiling has come down by.
  induction debts generalizing recovered with
  | nil => rfl
  | cons debt rest ih =>
    have test : ceiling < recovered + debt.fee ↔ ceiling - recovered < debt.fee := by
      constructor <;> intro below <;> linarith
    simp only [recoverLoop, settleLoop, test, ih]
    rw [sub_sub]

/-- An amount that is nothing covers no debt. -/
theorem settleLoop_of_nonpos (nothing : amount ≤ 0) (positive : ∀ debt ∈ debts, 0 < debt.fee) :
    settleLoop amount debts = [] := by
  -- The first debt is already more than that.
  cases debts with
  | nil => rfl
  | cons debt rest =>
    have below : amount < debt.fee := lt_of_le_of_lt nothing (positive debt List.mem_cons_self)
    rw [settleLoop, if_pos below]

/-- Netting clears what a payment of its ceiling does. -/
theorem netted_eq (positive : ∀ debt ∈ debts, 0 < debt.fee) :
    netted amount debts = settleLoop amount debts := by
  -- Below nothing neither clears any; otherwise counting begins at nothing recovered.
  unfold netted
  split
  · rename_i nothing
    exact (settleLoop_of_nonpos nothing positive).symm
  · rw [recoverLoop_eq, sub_zero]

/-- A payment clears the longest prefix it covers. -/
theorem settleLoop_longest (positive : ∀ debt ∈ debts, 0 < debt.fee) :
    LongestUnder amount debts (settleLoop amount debts) := by
  refine ⟨?_, ?_, ?_⟩
  · exact settleLoop_prefix amount debts
  · induction debts generalizing amount with
    | nil => exact .inl rfl
    | cons debt rest ih =>
      have later : settleLoop (amount - debt.fee) rest = [] ∨
          totalFee (settleLoop (amount - debt.fee) rest) ≤ amount - debt.fee :=
        ih fun other member => positive other (List.mem_cons_of_mem _ member)
      simp only [settleLoop]
      split
      · exact .inl rfl
      · -- The first debt is covered, and the rest is cleared by what remains.
        rename_i covered
        right
        rw [totalFee_cons]
        rcases later with none_ | fits
        · rw [none_, totalFee, List.map_nil, List.sum_nil]
          linarith
        · linarith
  · induction debts generalizing amount with
    | nil => exact fun other shorter _ => List.prefix_nil.mp shorter ▸ List.nil_prefix
    | cons debt rest ih =>
      intro other shorter fits
      cases other with
      | nil => exact List.nil_prefix
      | cons head tail =>
        obtain ⟨rfl, behind⟩ := List.cons_prefix_cons.mp shorter
        have rest_positive : ∀ other ∈ rest, 0 < other.fee := fun other member =>
          positive other (List.mem_cons_of_mem _ member)
        have tail_nonneg := totalFee_nonneg fun debt member =>
          rest_positive debt (behind.subset member)
        rw [totalFee_cons] at fits
        -- A longer prefix that fits covers its own first debt.
        have covered : ¬ amount < head.fee := by linarith
        rw [settleLoop, if_neg covered]
        exact List.cons_prefix_cons.mpr ⟨rfl, ih rest_positive tail behind (by linarith)⟩

/-- A payment of everything that is owed clears everything. -/
theorem settleLoop_whole (positive : ∀ debt ∈ debts, 0 < debt.fee) :
    settleLoop (totalFee debts) debts = debts := by
  -- All the debts are one beginning of them that the amount covers, and none is longer.
  have covers : LongestUnder (totalFee debts) debts (settleLoop (totalFee debts) debts) :=
    settleLoop_longest positive
  have all := covers.longest debts (List.prefix_refl _) (le_refl _)
  exact covers.first.eq_of_length (Nat.le_antisymm covers.first.length_le all.length_le)

section Calls

variable {cfg : Config} {store : Store} {answer : Answer} {earning : Earning} {payoutId reference : Nat}

/-- What is read as outstanding are fees that are due. -/
theorem outstanding_positive {driver : String} : ∀ debt ∈ outstanding store driver, 0 < debt.fee := by
  -- A positive fee is the last of the conditions on what is owed.
  intro debt member
  obtain ⟨order, -, due, rfl⟩ := mem_outstanding.mp member
  simp only [owes, Bool.and_eq_true, decide_eq_true_eq] at due
  exact due.2

/-- Of two orders one was collected no later. -/
instance : Std.Total fun first second : Order => collectedBefore first second = true where
  total one other := by
    unfold collectedBefore
    cases one.cashCollectedAt <;> cases other.cashCollectedAt <;> simp
    exact Nat.le_total _ _

/-- What was collected no later than what was collected no later was collected no later. -/
instance : IsTrans Order fun first second => collectedBefore first second = true where
  trans one other third := by
    unfold collectedBefore
    cases one.cashCollectedAt <;> cases other.cashCollectedAt <;> cases third.cashCollectedAt <;> simp
    exact fun earlier later => Nat.le_trans earlier later

/-- The debts are read oldest first. -/
theorem outstanding_oldest_first (store : Store) (driver : String) :
    ∃ orders : List Order, orders.Perm (store.orders.filter (owes driver)) ∧
      (orders.Pairwise fun first second => collectedBefore first second = true) ∧
      outstanding store driver = orders.map Debt.of :=
  ⟨_, List.perm_insertionSort _ _, List.pairwise_insertionSort _ _, rfl⟩

/-- A payout is to clear what is netted off it. -/
theorem lockDebts_clears (works : answer.fails = false) :
    ((PayoutCall.lockDebts earning payoutId reference).next cfg store answer).2.clears =
      netted (earning.gross * cfg.cashRecoveryMaxShare) (outstanding store earning.driver) := by
  -- Whether or not anything is withheld, the debts it goes on with are those.
  simp only [PayoutCall.next, works, Bool.false_eq_true, if_false, netted]
  split
  · rfl
  · split
    · rename_i nothing
      rw [nothing]
      rfl
    · rfl

/-- A settlement is to clear what was paid for. -/
theorem readDebts_clears {settlement : CashSettlement} {verdict : Verdict} (works : answer.fails = false) :
    ((SettlementCall.readDebts settlement verdict).next store answer).2.clears =
      settleLoop settlement.amount (outstanding store settlement.driverUsername) := by
  -- With no debt to clear it goes on as with some.
  simp only [SettlementCall.next, works, Bool.false_eq_true, if_false]
  split
  · rename_i nothing
    rw [nothing]
    rfl
  · rfl

/-- A call's statements one after another, each of them working, whatever has become of the store by then. -/
def PayoutCall.steps (cfg : Config) : List Store → PayoutCall → PayoutCall
  | [], call => call
  | store :: later, call => PayoutCall.steps cfg later (call.next cfg store {}).2

/-- A payout on its way to its commit, or past it, with certain debts to clear. -/
def PayoutCall.Clearing (earning : Earning) (payoutId reference : Nat) (debts : List Debt) :
    PayoutCall → Prop
  | .clearDebts its id own cleared _ | .updatePayout its id own cleared _
  | .commit its id own cleared _ => its = earning ∧ id = payoutId ∧ own = reference ∧ cleared = debts
  | .auditRecovered _ | .rollback _ | .done => True
  | .connect _ | .insertPayout _ | .lockDebts _ _ _ | .thrown => False

/-- Its debts stay the ones it was to clear. -/
theorem clearing_next {call : PayoutCall} (clearing : call.Clearing earning payoutId reference debts) :
    (call.next cfg store {}).2.Clearing earning payoutId reference debts := by
  -- Each statement hands on the list it was handed.
  cases call with
  | clearDebts its id own cleared locked => exact clearing
  | updatePayout its id own cleared locked => exact clearing
  | commit its id own cleared locked =>
    simp only [PayoutCall.next, Bool.false_eq_true, if_false]
    split <;> trivial
  | auditRecovered _ => trivial
  | rollback _ => trivial
  | done => trivial
  | connect _ | insertPayout _ | lockDebts _ _ _ | thrown => exact clearing.elim

/-- Whatever happens meanwhile. -/
theorem clearing_steps {stores : List Store} {call : PayoutCall}
    (clearing : call.Clearing earning payoutId reference debts) :
    (call.steps cfg stores).Clearing earning payoutId reference debts := by
  -- Statement by statement, whatever store each of them finds.
  induction stores generalizing call with
  | nil => exact clearing
  | cons store later ih => exact ih (clearing_next clearing)

/-- From where it has read the debts on, a payout clears what was netted off it then. -/
theorem clearing_lockDebts :
    ((PayoutCall.lockDebts earning payoutId reference).next cfg store {}).2.Clearing earning payoutId
      reference (netted (earning.gross * cfg.cashRecoveryMaxShare) (outstanding store earning.driver)) := by
  -- With nothing to net it goes straight to the COMMIT, and then the list is empty.
  simp only [PayoutCall.next, Bool.false_eq_true, if_false, netted]
  split
  · exact ⟨rfl, rfl, rfl, rfl⟩
  · split
    · rename_i nothing
      exact ⟨rfl, rfl, rfl, nothing.symm⟩
    · exact ⟨rfl, rfl, rfl, rfl⟩

/-- What a payout is reduced by is not above its share. -/
theorem netted_within {share gross : ℚ} (not_negative : 0 ≤ gross) (least : 0 ≤ share)
    (positive : ∀ debt ∈ debts, 0 < debt.fee) : totalFee (netted (gross * share) debts) ≤ gross * share := by
  -- Either no debt is cleared, or those that are fit under the ceiling.
  have ceiling : 0 ≤ gross * share := mul_nonneg not_negative least
  rw [netted_eq positive]
  have covers : LongestUnder (gross * share) debts (settleLoop (gross * share) debts) :=
    settleLoop_longest positive
  rcases covers.within with none_ | fits
  · rw [none_]
    exact ceiling
  · exact fits

/--
Debts are cleared by one rule. A ceiling nets what a payment of as much clears, the longest prefix it
covers, and a payment of everything clears everything. The calls read the same debts, oldest first. The
payout that is committed is short of its gross by the fees it clears, and by no more than its share where
the gross is not negative.
-/
theorem cleared_by_one_rule (cfg : Config) :
    (∀ (amount : ℚ) (debts : List Debt), (∀ debt ∈ debts, 0 < debt.fee) →
      netted amount debts = settleLoop amount debts ∧
        LongestUnder amount debts (settleLoop amount debts) ∧
        settleLoop (totalFee debts) debts = debts) ∧
    (∀ (store : Store) (earning : Earning) (payoutId reference : Nat) (settlement : CashSettlement)
        (verdict : Verdict) (answer : Answer), answer.fails = false →
      settlement.driverUsername = earning.driver →
      settlement.amount = earning.gross * cfg.cashRecoveryMaxShare →
        ((PayoutCall.lockDebts earning payoutId reference).next cfg store answer).2.clears =
          ((SettlementCall.readDebts settlement verdict).next store answer).2.clears ∧
        ∃ orders : List Order, orders.Perm (store.orders.filter (owes earning.driver)) ∧
          (orders.Pairwise fun first second => collectedBefore first second = true) ∧
          LongestUnder settlement.amount (orders.map Debt.of)
            ((SettlementCall.readDebts settlement verdict).next store answer).2.clears) ∧
    ∀ (store : Store) (stores : List Store) (earning its : Earning) (payoutId id reference own : Nat)
        (cleared locked : List Debt),
      (PayoutCall.lockDebts earning payoutId reference).steps cfg (store :: stores) =
        .commit its id own cleared locked →
      cleared = netted (earning.gross * cfg.cashRecoveryMaxShare) (outstanding store earning.driver) ∧
        ∀ (then_ : Store) (answer : Answer), answer.fails = false → ∃ row,
          ((PayoutCall.commit its id own cleared locked).next cfg then_ answer).1 =
            .commitPayout row (cleared.map Debt.orderId) ∧
          row.grossAmount = earning.gross ∧ row.cashRecovered = some (totalFee cleared) ∧
          row.amount = row.grossAmount - totalFee cleared ∧
          (0 ≤ earning.gross → 0 ≤ cfg.cashRecoveryMaxShare → cfg.cashRecoveryMaxShare ≤ 1 →
            (1 - cfg.cashRecoveryMaxShare) * row.grossAmount ≤ row.amount) := by
  refine ⟨fun amount debts positive => ⟨netted_eq positive, settleLoop_longest positive,
    settleLoop_whole positive⟩, ?_, ?_⟩
  · intro store earning payoutId reference settlement verdict answer works same amount
    -- Both read the debts of one driver at one moment, with one amount.
    have cleared := @readDebts_clears store answer settlement verdict works
    refine ⟨?_, ?_⟩
    · rw [lockDebts_clears works, cleared, amount, same, netted_eq outstanding_positive]
    · obtain ⟨orders, all, sorted, read⟩ := outstanding_oldest_first store earning.driver
      refine ⟨orders, all, sorted, ?_⟩
      rw [cleared, same, ← read]
      exact settleLoop_longest outstanding_positive
  · intro store stores earning its payoutId id reference own cleared locked arrives
    -- From reading the debts to the COMMIT, the payout carries what it has read.
    have clearing := @clearing_steps _ cfg _ _ _ stores _
      (@clearing_lockDebts cfg store earning payoutId reference)
    rw [show PayoutCall.steps cfg stores _ = _ from arrives] at clearing
    obtain ⟨rfl, rfl, rfl, rfl⟩ := clearing
    refine ⟨rfl, fun then_ answer works =>
      ⟨committedPayout cfg then_.now its id own _, ?_, rfl, rfl, rfl, fun not_negative least _ => ?_⟩⟩
    · simp only [PayoutCall.next, works, Bool.false_eq_true, if_false]
    · -- What is netted is within the share, so the rest is paid out.
      have within : totalFee (netted (its.gross * cfg.cashRecoveryMaxShare)
          (outstanding store its.driver)) ≤ its.gross * cfg.cashRecoveryMaxShare :=
        netted_within not_negative least outstanding_positive
      show (1 - cfg.cashRecoveryMaxShare) * its.gross ≤ its.gross - totalFee _
      linarith

/-- An earning below nothing, as a return-leg credit larger than the driver's net leaves it. -/
def belowNothing : Earning where
  request := {
    id := 1, orderId := 1, reference := 1, payerMsisdn := "250788000001", payerIsBookingNumber := true
    amount := 4000, currency := ['R', 'W', 'F'], createdAt := 0 }
  driver := "+250788000001"
  msisdn := "250788000001"
  gross := -10

/-- Nothing is withheld from it, and what is paid out is below the share that is to be left. -/
theorem below_the_share_left :
    ∃ row, ((PayoutCall.lockDebts belowNothing 1 1).steps .kigali [{ orders := [] }, { orders := [] }]) =
        .commit belowNothing 1 1 [] [] ∧
      ((PayoutCall.commit belowNothing 1 1 [] []).next .kigali { orders := [] } {}).1 =
        .commitPayout row [] ∧
      ¬ (1 - Config.kigali.cashRecoveryMaxShare) * row.grossAmount ≤ row.amount := by
  -- The gross is negative, so nothing can be netted off it.
  have nothing : belowNothing.gross * Config.kigali.cashRecoveryMaxShare ≤ 0 := by
    show (-10 : ℚ) * (1 / 2) ≤ 0
    norm_num
  refine ⟨_, ?_, rfl, ?_⟩
  · simp only [PayoutCall.steps, PayoutCall.next, if_pos nothing, Bool.false_eq_true, if_false]
  · show ¬ (1 - (1 / 2 : ℚ)) * -10 ≤ -10 - totalFee []
    norm_num [totalFee]

end Calls

end Freight.Payment
