import Mathlib.Data.Rat.Defs
import Freight.Store.Phone

/-! What the services read from their environment, and the outside code they rely on. -/

namespace Freight

/-- The settings of one deployment. -/
structure Config where
  /-- The language's own table of upper-case forms. -/
  upper : Char → Text
  /-- The phone library: a number's canonical form, when it is a mobile the library knows. -/
  normalizePhone : String → Option String
  /-- `isMomoConfigured('collection')`. -/
  collectionConfigured : Bool
  /-- `isMomoConfigured('disbursement')`. -/
  disbursementConfigured : Bool
  /-- `MOMO_CURRENCY`, blank when it is not set. -/
  momoCurrency : Text
  /-- `CASH_RECOVERY_MAX_SHARE`. -/
  cashRecoveryMaxShare : ℚ
  /-- `DRIVER_PAYOUT_DELAY_MINUTES`. -/
  payoutDelayMinutes : Nat

namespace Config

/-- A deployment in Kigali with both products configured and every other setting at its default. -/
def kigali : Config where
  upper := fun char => [char.toUpper]
  normalizePhone := fun phone => if phone.toList.head? = some '+' then some phone else none
  collectionConfigured := true
  disbursementConfigured := true
  momoCurrency := []
  cashRecoveryMaxShare := 1 / 2
  payoutDelayMinutes := 5

end Config

/-- Milliseconds in a minute. -/
def minute : Nat := 60000

end Freight
