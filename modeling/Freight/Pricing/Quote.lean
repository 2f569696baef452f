import Mathlib.Data.Rat.Floor
import Mathlib.Algebra.Order.Field.Rat
import Freight.Store.Currency

/-! Turning a rate card and the facts of a job into money. -/

namespace Freight

/-- `Math.round`: the nearest whole number, and the upper one of two equally near. -/
def mathRound (value : ℚ) : ℚ :=
  -- Adding a half before cutting off sends halves upwards, below zero as well.
  (⌊value + 1 / 2⌋ : ℤ)

/-- Why a job cannot be priced. -/
structure PricingError where
  message : String
  deriving DecidableEq

/-- A row of `pricing_rates`. Columns that older cards predate are nulls. -/
structure Rate where
  id : Nat
  vehicleClass : String
  currency : Option Text
  baseFare : ℚ
  perKm : ℚ
  perKg : ℚ
  minimumFare : ℚ
  fuelLitresPer100Km : ℚ
  fuelPricePerLitre : ℚ
  platformCommissionPct : ℚ
  platformMinimumFee : ℚ
  roadDistanceFactor : Option ℚ := none
  taperAfterKm : Option ℚ := none
  perKmLong : Option ℚ := none
  terrainFuelFactor : Option ℚ := none
  returnLegBeyondKm : Option ℚ := none
  returnLegFullKm : Option ℚ := none
  returnLegSharePct : Option ℚ := none
  currencyMinorUnits : Option Nat := none
  detentionFreeMinutes : Option ℚ := none
  detentionPerHour : Option ℚ := none

/-- A full price breakdown. -/
structure Quote where
  currency : Text
  vehicleClass : String
  pricingRateId : Nat
  isEstimate : Bool
  distanceKm : Option ℚ
  weightKg : ℚ
  fuelAmount : ℚ
  returnLegAmount : ℚ
  returnsEmpty : Bool
  openRoadKm : ℚ
  terrainFactor : ℚ
  serviceAmount : ℚ
  totalAmount : ℚ
  platformFee : ℚ
  driverNet : ℚ
  minimumFareApplied : Bool
  minimumFeeApplied : Bool
  freeWaitingMinutes : ℚ
  detentionPerHour : ℚ

/-- The heaviest load of each band but the last, and the class that carries it. -/
def weightClassBands : List (ℚ × String) :=
  [(1000, "Light Van"), (8000, "Medium Truck")]

/-- The vehicle class a load needs. -/
def classForWeight (weightKg : ℚ) : Except PricingError String :=
  if weightKg ≤ 0 then .error { message := "Cannot choose a vehicle class for weight." }
  -- The top band has no upper end.
  else .ok (((weightClassBands.find? fun band => weightKg ≤ band.1).map Prod.snd).getD "Heavy Hauler")

namespace Rate

variable (rate : Rate)

/-- The card's currency, or francs when it names none. -/
def quotedCurrency : Text :=
  if rate.currency.getD [] = [] then ['R', 'W', 'F'] else rate.currency.getD []

/-- `toMoney`: an amount rounded to the minor units the currency has. -/
def toMoney (value : ℚ) : ℚ :=
  let step := (10 : ℚ) ^ rate.currencyMinorUnits.getD 0
  mathRound (value * step) / step

/-- Kilometres charged at the city rate. -/
def cityKm (distance : ℚ) : ℚ :=
  -- A card without a taper has no far end to its city stretch.
  match rate.taperAfterKm with
  | none => distance
  | some taperAfter => min distance taperAfter

/-- Kilometres beyond the city stretch. -/
def openRoadKm (distance : ℚ) : ℚ :=
  match rate.taperAfterKm with
  | none => 0
  | some taperAfter => max 0 (distance - taperAfter)

/-- Fuel for the way out, with the terrain's penalty on the open road. -/
def fuelOut (distance terrain : ℚ) : ℚ :=
  let perKm := rate.fuelLitresPer100Km / 100 * rate.fuelPricePerLitre
  rate.cityKm distance * perKm + rate.openRoadKm distance * perKm * terrain

/-- The job is far enough out that its driver comes back with nothing to carry. -/
def returnsEmpty (distance : ℚ) : Bool :=
  match rate.returnLegBeyondKm with
  | none => false
  | some beyond => beyond < distance

/-- The share of the empty leg that is charged, growing between the two anchors. -/
def rampedShare (distance : ℚ) : ℚ :=
  let share := rate.returnLegSharePct.getD 100 / 100
  match rate.returnLegBeyondKm with
  | none => share
  | some beyond =>
    let band := rate.returnLegFullKm.getD beyond - beyond
    -- A band of no width is the old switch.
    if 0 < band then share * min 1 (max 0 ((distance - beyond) / band)) else share

/-- Fuel for the way back. -/
def fuelReturn (distance terrain : ℚ) : ℚ :=
  if rate.returnsEmpty distance then rate.fuelOut distance terrain * rate.rampedShare distance else 0

/-- What the job costs beyond its fuel. -/
def service (distance weight : ℚ) : ℚ :=
  rate.baseFare + rate.cityKm distance * rate.perKm +
    rate.openRoadKm distance * rate.perKmLong.getD rate.perKm + weight * rate.perKg

/-- Fuel and service together, before the minimum fare. -/
def subtotal (distance weight terrain : ℚ) : ℚ :=
  rate.fuelOut distance terrain + rate.fuelReturn distance terrain + rate.service distance weight

/-- The fare, unrounded. -/
def total (distance weight terrain : ℚ) : ℚ :=
  max (rate.subtotal distance weight terrain) rate.minimumFare

/-- The platform's cut, unrounded: never more than the fare. -/
def cappedFee (distance weight terrain : ℚ) : ℚ :=
  let fee := max (rate.service distance weight * (rate.platformCommissionPct / 100))
    rate.platformMinimumFee
  min fee (rate.total distance weight terrain)

end Rate

/-- `toFixed(3)`, read back as a number. -/
def toFixed3 (value : ℚ) : ℚ := mathRound (value * 1000) / 1000

/-- The price of a job under a rate card, or why there is none. -/
def quote (rate : Rate) (weightKg : ℚ) (distanceKm terrainFactor : Option ℚ) :
    Except PricingError Quote :=
  if weightKg < 0 then .error { message := "weightKg cannot be negative." }
  -- A booking without a distance is priced on none, and flagged as an estimate.
  else if distanceKm.getD 0 < 0 then .error { message := "distanceKm cannot be negative." }
  else if rate.roadDistanceFactor.getD 1 ≤ 0 then
    .error { message := "road_distance_factor must be positive." }
  else
    let distance := distanceKm.getD 0 * rate.roadDistanceFactor.getD 1
    -- A known corridor wins over the card's own terrain.
    let terrain := terrainFactor.getD (rate.terrainFuelFactor.getD 1)
    if terrain ≤ 0 then .error { message := "terrainFactor must be positive." }
    else
      let totalRounded := rate.toMoney (rate.total distance weightKg terrain)
      let feeRounded := rate.toMoney (rate.cappedFee distance weightKg terrain)
      .ok {
        currency := rate.quotedCurrency
        vehicleClass := rate.vehicleClass
        pricingRateId := rate.id
        isEstimate := distanceKm.isNone
        distanceKm := distanceKm.map fun _ => toFixed3 distance
        weightKg := weightKg
        fuelAmount := rate.toMoney (rate.fuelOut distance terrain + rate.fuelReturn distance terrain)
        returnLegAmount := rate.toMoney (rate.fuelReturn distance terrain)
        returnsEmpty := rate.returnsEmpty distance
        openRoadKm := toFixed3 (rate.openRoadKm distance)
        terrainFactor := terrain
        serviceAmount := rate.toMoney (rate.service distance weightKg)
        totalAmount := totalRounded
        platformFee := feeRounded
        -- Rounded once: the driver's share is what is left.
        driverNet := totalRounded - feeRounded
        minimumFareApplied := rate.subtotal distance weightKg terrain < rate.minimumFare
        minimumFeeApplied := rate.service distance weightKg * (rate.platformCommissionPct / 100) <
          rate.platformMinimumFee
        freeWaitingMinutes := rate.detentionFreeMinutes.getD 60
        detentionPerHour := rate.toMoney (rate.detentionPerHour.getD 0) }

/-- `priceJob`: the current card of the class the load needs, and the quote under it. -/
def priceJob (currentRateFor : String → Option Rate) (weightKg : ℚ)
    (distanceKm terrainFactor : Option ℚ) : Except PricingError Quote :=
  match classForWeight weightKg with
  | .error refusal => .error refusal
  | .ok vehicleClass =>
    match currentRateFor vehicleClass with
    -- A class without a card cannot be priced.
    | none => .error { message := "No rate card for " ++ vehicleClass ++ "." }
    | some rate => quote rate weightKg distanceKm terrainFactor

/-- What a driver is owed for being kept waiting. -/
structure Detention where
  waitedMinutes : ℚ
  chargeableMinutes : ℚ
  detentionAmount : ℚ
  deriving DecidableEq

/-- Whole minutes past the free ones, at the card's hourly rate. -/
def detentionCharge (rate : Rate) (waitedMinutes : ℚ) : Except PricingError Detention :=
  if waitedMinutes < 0 then .error { message := "waitedMinutes cannot be negative." }
  else
    -- The first hour is free where the card does not say otherwise.
    let chargeable := max 0 (waitedMinutes - rate.detentionFreeMinutes.getD 60)
    .ok {
      waitedMinutes := waitedMinutes
      chargeableMinutes := chargeable
      detentionAmount := mathRound (chargeable / 60 * rate.detentionPerHour.getD 0) }

/-- Whatever the rounding does, fee and net of a quote add up to its total. -/
theorem quote_adds_up {rate : Rate} {weightKg : ℚ} {distanceKm terrainFactor : Option ℚ}
    {quoted : Quote} (priced : quote rate weightKg distanceKm terrainFactor = .ok quoted) :
    quoted.totalAmount = quoted.platformFee + quoted.driverNet := by
  -- The net is defined as the difference of the two rounded figures.
  simp only [quote] at priced
  repeat' split at priced
  all_goals cases priced
  simp

/-- A price from the rate table adds up as well. -/
theorem priceJob_adds_up {currentRateFor : String → Option Rate} {weightKg : ℚ}
    {distanceKm terrainFactor : Option ℚ} {quoted : Quote}
    (priced : priceJob currentRateFor weightKg distanceKm terrainFactor = .ok quoted) :
    quoted.totalAmount = quoted.platformFee + quoted.driverNet := by
  -- Without a class or a card there is no price; with one it is a quote on the card.
  simp only [priceJob] at priced
  split at priced
  · cases priced
  · split at priced
    · cases priced
    · exact quote_adds_up priced

end Freight
