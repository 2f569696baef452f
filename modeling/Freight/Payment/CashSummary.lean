import Freight.Payment.Settlement

/-! What a driver is shown of their cash jobs, and whether the app offers to settle them. -/

namespace Freight.Payment

/-- `TRIM` of SQL: the spaces at either end, and no other blanks. -/
def sqlTrim (text : Text) : Text :=
  ((text.dropWhile (· = ' ')).reverse.dropWhile (· = ' ')).reverse

/-- `UPPER(TRIM(currency))`, over the database's own table of upper-case forms. A null stays null. -/
def sqlCurrency (upper : Char → Text) (order : Order) : Option Text :=
  order.currency.map fun currency => toUpperCase upper (sqlTrim currency)

/-- A driver's cash jobs, settled or not. -/
def cashJobs (store : Store) (driver : String) : List Order :=
  store.orders.filter fun order => order.assignedTo = some driver && order.paymentMethod = some .cash

/-- One group of the totals. -/
structure CurrencyTotals where
  currency : Option Text
  collected : ℚ
  commissionOwed : ℚ
  commissionSettled : ℚ
  commissionOwedUnknownJobs : Nat
  deriving DecidableEq

/-- The commission of jobs that are still to be settled, those without one left out. -/
def owedSum (jobs : List Order) : ℚ :=
  ((jobs.filter fun job => job.cashSettledAt.isNone).map fun job => orZero job.platformFee).sum

/-- The totals of one group. -/
def CurrencyTotals.of (currency : Option Text) (jobs : List Order) : CurrencyTotals where
  currency := currency
  collected := (jobs.map fun job => orZero job.priceTotal).sum
  commissionOwed := owedSum jobs
  -- Settled jobs count here, and are in the group with those outstanding.
  commissionSettled :=
    ((jobs.filter fun job => job.cashSettledAt.isSome).map fun job => orZero job.platformFee).sum
  commissionOwedUnknownJobs :=
    jobs.countP fun job => job.cashSettledAt.isNone && job.platformFee.isNone

/-- `GROUP BY UPPER(TRIM(currency))`, nulls in a group of their own. -/
def currencyTotals (upper : Char → Text) (jobs : List Order) : List CurrencyTotals :=
  (jobs.map (sqlCurrency upper)).dedup.map fun currency =>
    .of currency (jobs.filter fun job => sqlCurrency upper job = currency)

/-- A job, as it is listed. -/
structure CashJob where
  orderId : Nat
  amount : ℚ
  /-- Left null where it has not been worked out. -/
  platformFee : Option ℚ
  currency : Option Text
  collectedAt : Option Nat
  settledAt : Option Nat
  deriving DecidableEq

/-- A job, as it is read off the order. -/
def CashJob.of (order : Order) : CashJob where
  orderId := order.id
  amount := orZero order.priceTotal
  platformFee := order.platformFee
  currency := order.currency
  collectedAt := order.cashCollectedAt
  settledAt := order.cashSettledAt

/-- `ORDER BY cash_collected_at DESC NULLS LAST`. -/
def collectedAfter (first second : Order) : Bool :=
  match first.cashCollectedAt, second.cashCollectedAt with
  | _, none => true
  | none, some _ => false
  | some later, some earlier => earlier ≤ later

/-- `DriverCashSummary`. -/
structure DriverCashSummary where
  collected : Option ℚ
  commissionOwed : Option ℚ
  commissionSettled : Option ℚ
  commissionOwedUnknownJobs : Nat
  currency : Option Text
  byCurrency : List CurrencyTotals
  jobs : List CashJob
  deriving DecidableEq

/-- `cashSummary`: across currencies there is no total. -/
def cashSummary (upper : Char → Text) (store : Store) (driver : String) : DriverCashSummary :=
  let jobs := cashJobs store driver
  let totals := currencyTotals upper jobs
  let sum := fun (field : CurrencyTotals → ℚ) =>
    -- Francs and dollars do not add up to anything.
    if 1 < totals.length then none else some (totals.map field).sum
  { collected := sum CurrencyTotals.collected
    commissionOwed := sum CurrencyTotals.commissionOwed
    commissionSettled := sum CurrencyTotals.commissionSettled
    commissionOwedUnknownJobs := (totals.map CurrencyTotals.commissionOwedUnknownJobs).sum
    currency := match totals with
      | [only] => only.currency
      | _ => none
    byCurrency := totals
    jobs := ((jobs.insertionSort fun first second => collectedAfter first second).take 50).map CashJob.of }

/-- `SettleBlockCode`. -/
inductive SettleBlockCode where
  | loading
  | mixedCurrency
  | unknownFees
  | nothingOwed
  deriving DecidableEq

/-- `SettleBlock`: the offer, or why it is not made. -/
inductive SettleBlock where
  | canSettle
  | blocked (code : SettleBlockCode) (reason : String)
  deriving DecidableEq

/-- `canSettleNow`: whether the app offers to pay now. -/
def canSettleNow (summary : Option DriverCashSummary) : SettleBlock :=
  match summary with
  | none => .blocked .loading "Loading your cash jobs."
  | some summary =>
    -- The groups are those of all cash jobs, settled ones too.
    if 1 < summary.byCurrency.length then
      .blocked .mixedCurrency "This cannot be paid in one prompt. Hand it to dispatch instead."
    else if orZero summary.commissionOwed ≤ 0 then
      if 0 < summary.commissionOwedUnknownJobs then
        .blocked .unknownFees
          "Your commission has not been worked out yet. Dispatch can tell you what you owe."
      else .blocked .nothingOwed "You have nothing outstanding."
    else .canSettle

/-- What `requestCashSettlement` asks of a debt: that there is one, in one currency that is recorded. -/
def debtAccepted (owed : CashOwed) : Bool :=
  0 < owed.total && owed.currencies.length ≤ 1 && owed.currency.isSome

end Freight.Payment
