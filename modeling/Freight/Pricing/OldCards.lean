import Freight.Library.Number
import Freight.Pricing.Quote
import Mathlib.Tactic.Linarith
import Mathlib.Tactic.Ring

/-! What a card that predates the newer columns prices, and how the code gets there through infinities. -/

namespace Freight

open Number (finite infinity)

namespace Rate

section Written

variable (rate : Rate) (distance weight terrain : ℚ)

end Written

variable {rate : Rate} {distance weight terrain : ℚ}

/-- A card none of whose newer columns is there. -/
structure Predates (rate : Rate) : Prop where
  roadDistanceFactor : rate.roadDistanceFactor = none
  taperAfterKm : rate.taperAfterKm = none
  perKmLong : rate.perKmLong = none
  terrainFuelFactor : rate.terrainFuelFactor = none
  returnLegBeyondKm : rate.returnLegBeyondKm = none
  returnLegFullKm : rate.returnLegFullKm = none
  returnLegSharePct : rate.returnLegSharePct = none
  currencyMinorUnits : rate.currencyMinorUnits = none

variable (rate : Rate) (km kg : ℚ)

/-- What the original formula charged besides fuel. -/
def originalService : ℚ := rate.baseFare + km * rate.perKm + kg * rate.perKg

/-- The original fare, unrounded. -/
def originalTotal : ℚ :=
  max (rate.originalService km kg + km * rate.fuelLitresPer100Km / 100 * rate.fuelPricePerLitre)
    rate.minimumFare

/-- The original fee, unrounded. -/
def originalFee : ℚ :=
  min (max (rate.platformCommissionPct / 100 * rate.originalService km kg) rate.platformMinimumFee)
    (rate.originalTotal km kg)

variable {rate km kg}

/-- A card without a taper has no open road. -/
theorem Predates.openRoadKm (old : rate.Predates) : rate.openRoadKm km = 0 := by
  -- Its column is null.
  rw [Rate.openRoadKm, old.taperAfterKm]

/-- All of its way is charged as city. -/
theorem Predates.cityKm (old : rate.Predates) : rate.cityKm km = km := by
  -- Its column is null.
  rw [Rate.cityKm, old.taperAfterKm]

/-- It charges for service what it always did. -/
theorem Predates.service (old : rate.Predates) : rate.service km kg = rate.originalService km kg := by
  -- It is all city, and no open road.
  rw [Rate.service, old.cityKm, old.openRoadKm, originalService]
  ring

/-- It charges for fuel there, and not back, whatever hills there are. -/
theorem Predates.total (old : rate.Predates) (terrain : ℚ) :
    rate.total km kg terrain = rate.originalTotal km kg := by
  -- With no taper it is all city, and with no threshold nobody returns empty.
  have out : rate.fuelOut km terrain = km * rate.fuelLitresPer100Km / 100 * rate.fuelPricePerLitre := by
    rw [Rate.fuelOut, old.cityKm, old.openRoadKm]
    ring
  have back : rate.fuelReturn km terrain = 0 := by
    have comes_full : rate.returnsEmpty km = false := by rw [Rate.returnsEmpty, old.returnLegBeyondKm]
    rw [Rate.fuelReturn, comes_full, if_neg Bool.false_ne_true]
  rw [Rate.total, Rate.subtotal, out, back, old.service, originalTotal]
  congr 1
  ring

/-- It keeps the fee it always kept. -/
theorem Predates.cappedFee (old : rate.Predates) (terrain : ℚ) :
    rate.cappedFee km kg terrain = rate.originalFee km kg := by
  -- Neither the total nor the service has changed.
  rw [Rate.cappedFee, old.total, old.service, originalFee, mul_comm]

/-- It rounds to whole units. -/
theorem Predates.toMoney (old : rate.Predates) (value : ℚ) : rate.toMoney value = mathRound value := by
  -- Without a column for them, there are no minor units.
  rw [Rate.toMoney, old.currencyMinorUnits]
  simp

/-- A job that can be priced is, by the original formula. -/
theorem Predates.quote (old : rate.Predates) {distanceKm terrainFactor : Option ℚ} (loaded : 0 ≤ kg)
    (there : 0 ≤ distanceKm.getD 0) (terrain : 0 < terrainFactor.getD 1) :
    ∃ quoted, Freight.quote rate kg distanceKm terrainFactor = .ok quoted ∧
      quoted.isEstimate = distanceKm.isNone ∧
      quoted.totalAmount = mathRound (rate.originalTotal (distanceKm.getD 0) kg) ∧
      quoted.platformFee = mathRound (rate.originalFee (distanceKm.getD 0) kg) := by
  -- Both factors stand at one, so that no guard sees another job than the original.
  have no_detour : rate.roadDistanceFactor.getD 1 = 1 := by rw [old.roadDistanceFactor, Option.getD_none]
  have own_terrain : rate.terrainFuelFactor.getD 1 = 1 := by rw [old.terrainFuelFactor, Option.getD_none]
  simp only [Freight.quote, no_detour, own_terrain, mul_one, if_neg (not_lt.mpr loaded),
    if_neg (not_lt.mpr there), if_neg (not_le.mpr terrain), if_neg (not_le.mpr (zero_lt_one' ℚ))]
  refine ⟨_, rfl, rfl, ?_, ?_⟩
  · show rate.toMoney (rate.total _ _ _) = _
    rw [old.toMoney, old.total]
  · show rate.toMoney (rate.cappedFee _ _ _) = _
    rw [old.toMoney, old.cappedFee]

end Rate

end Freight
