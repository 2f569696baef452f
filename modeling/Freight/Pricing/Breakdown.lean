import Freight.Library.HalfUp
import Freight.Pricing.Quote

/-! A quote as one breakdown of a charged distance, and what each figure of it is made of. -/

namespace Freight

/-- The code's rounding is rounding halves upwards. -/
theorem mathRound_eq (value : ℚ) : mathRound value = halfUp value := rfl

/-- A whole number is rounded to itself. -/
theorem mathRound_intCast (whole : ℤ) : mathRound whole = whole := by
  -- To round is to round half up.
  rw [mathRound_eq, halfUp_intCast]

namespace Rate

variable (rate : Rate)

/-- The smallest amount the card's currency has. -/
def unit : ℚ := 1 / 10 ^ rate.currencyMinorUnits.getD 0

/-- The distance a job is charged for. -/
def chargedKm (distanceKm : Option ℚ) : ℚ := distanceKm.getD 0 * rate.roadDistanceFactor.getD 1

/-- The terrain a job is charged for. -/
def terrainFor (terrainFactor : Option ℚ) : ℚ := terrainFactor.getD (rate.terrainFuelFactor.getD 1)

/-- The platform's cut before the fare caps it. -/
def fee (distance weight : ℚ) : ℚ :=
  max (rate.service distance weight * (rate.platformCommissionPct / 100)) rate.platformMinimumFee

/-- The smallest amount of a currency is more than nothing. -/
theorem unit_pos : 0 < rate.unit := by
  -- It is a power of a tenth.
  unfold unit
  positivity

end Rate

section
variable {rate : Rate}

/-- Money is a whole number of units. -/
theorem toMoney_eq (value : ℚ) : rate.toMoney value = halfUp (value / rate.unit) * rate.unit := by
  -- Dividing by the power of ten is multiplying by the unit.
  simp only [Rate.toMoney, Rate.unit, mathRound_eq, div_div_eq_mul_div, div_one, mul_one_div]

/-- A larger amount is never rounded to less. -/
theorem toMoney_mono {one other : ℚ} (more : one ≤ other) : rate.toMoney one ≤ rate.toMoney other := by
  -- Counted in units, and rounded to whole ones.
  rw [toMoney_eq, toMoney_eq]
  have rounded := halfUp_mono ((div_le_div_iff_of_pos_right rate.unit_pos).mpr more)
  exact mul_le_mul_of_nonneg_right (Int.cast_le.mpr rounded) rate.unit_pos.le

/-- Nothing is rounded to nothing. -/
theorem toMoney_zero : rate.toMoney 0 = 0 := by
  -- Counted in units it is a whole number already.
  have zero : halfUp ((0 : ℤ) : ℚ) = 0 := halfUp_intCast 0
  rw [Int.cast_zero] at zero
  rw [toMoney_eq, zero_div, zero, Int.cast_zero, zero_mul]

/-- No debt is rounded into an amount that is owed. -/
theorem toMoney_nonneg {value : ℚ} (nonneg : 0 ≤ value) : 0 ≤ rate.toMoney value :=
  toMoney_zero.symm.trans_le (toMoney_mono nonneg)

/-- Two amounts are less than a unit further apart once they are rounded. -/
theorem toMoney_sub_lt (far near : ℚ) :
    rate.toMoney far - rate.toMoney near < far - near + rate.unit := by
  -- Counted in units, both are rounded to whole ones.
  have apart := halfUp_sub_lt (far / rate.unit) (near / rate.unit)
  have scaled := mul_lt_mul_of_pos_right apart rate.unit_pos
  rw [toMoney_eq, toMoney_eq, ← sub_mul]
  refine scaled.trans_eq ?_
  rw [add_mul, sub_mul, div_mul_cancel₀ _ rate.unit_pos.ne', div_mul_cancel₀ _ rate.unit_pos.ne', one_mul]

/-- However far apart two amounts are, rounding adds a unit at most. -/
theorem abs_toMoney_sub_le (far near : ℚ) :
    |rate.toMoney far - rate.toMoney near| ≤ |far - near| + rate.unit := by
  -- The bound on the difference, both ways round.
  have forth : rate.toMoney far - rate.toMoney near < far - near + rate.unit := toMoney_sub_lt far near
  have back : rate.toMoney near - rate.toMoney far < near - far + rate.unit := toMoney_sub_lt near far
  have above := le_abs_self (far - near)
  have below := neg_abs_le (far - near)
  rw [abs_le]
  constructor <;> linarith

/-- A difference that is no larger is larger by a unit at most once it is one of rounded amounts. -/
theorem toMoney_sub_le {one less other back : ℚ} (smaller : one - less ≤ other - back) :
    rate.toMoney one - rate.toMoney less ≤ rate.toMoney other - rate.toMoney back + rate.unit := by
  -- Counted in units, the roundings are a unit apart at most.
  have units : one / rate.unit - less / rate.unit ≤ other / rate.unit - back / rate.unit := by
    rw [← sub_div, ← sub_div]
    exact (div_le_div_iff_of_pos_right rate.unit_pos).mpr smaller
  have rounded : ((halfUp (one / rate.unit) - halfUp (less / rate.unit) : ℤ) : ℚ) ≤
      ((halfUp (other / rate.unit) - halfUp (back / rate.unit) + 1 : ℤ) : ℚ) :=
    Int.cast_le.mpr (halfUp_sub_le units)
  push_cast at rounded
  have scaled := mul_le_mul_of_nonneg_right rounded rate.unit_pos.le
  simp only [toMoney_eq]
  linarith

/-- Two amounts add up as money exactly when what they lose to the rounding is itself lost. -/
theorem toMoney_add_iff (one other : ℚ) :
    rate.toMoney one + rate.toMoney other = rate.toMoney (one + other) ↔
      -(1 / 2) ≤ roundedOff (one / rate.unit) + roundedOff (other / rate.unit) ∧
        roundedOff (one / rate.unit) + roundedOff (other / rate.unit) < 1 / 2 := by
  rw [← halfUp_add_iff, toMoney_eq, toMoney_eq, toMoney_eq, ← add_mul, add_div,
    mul_left_inj' rate.unit_pos.ne']
  -- The units cancel, and whole numbers are equal where they are as amounts.
  norm_cast

/-- City and open road make up the whole distance. -/
theorem cityKm_add_openRoadKm (distance : ℚ) :
    rate.cityKm distance + rate.openRoadKm distance = distance := by
  -- With no taper all of it is city; with one, what lies past it is open road.
  unfold Rate.cityKm Rate.openRoadKm
  cases rate.taperAfterKm with
  | none => simp
  | some taperAfter =>
    rcases le_total distance taperAfter with inside | outside
    · simp [inside]
    · simp [outside]

/-- Fuel for the way out, kilometre by kilometre. -/
theorem fuelOut_eq (distance terrain : ℚ) : rate.fuelOut distance terrain =
    rate.fuelLitresPer100Km / 100 * rate.fuelPricePerLitre *
      (rate.cityKm distance + rate.openRoadKm distance * terrain) := by
  -- The factors common to both stretches, taken out.
  simp only [Rate.fuelOut]
  ring

end

/-- The breakdown of a job that can be priced, at the distance it is charged for. -/
def Rate.breakdown (rate : Rate) (weightKg : ℚ) (measured : Bool) (distance terrain : ℚ) : Quote where
  currency := rate.quotedCurrency
  vehicleClass := rate.vehicleClass
  pricingRateId := rate.id
  isEstimate := !measured
  distanceKm := if measured then some (toFixed3 distance) else none
  weightKg := weightKg
  fuelAmount := rate.toMoney (rate.fuelOut distance terrain + rate.fuelReturn distance terrain)
  returnLegAmount := rate.toMoney (rate.fuelReturn distance terrain)
  returnsEmpty := rate.returnsEmpty distance
  openRoadKm := toFixed3 (rate.openRoadKm distance)
  terrainFactor := terrain
  serviceAmount := rate.toMoney (rate.service distance weightKg)
  totalAmount := rate.toMoney (rate.total distance weightKg terrain)
  platformFee := rate.toMoney (rate.cappedFee distance weightKg terrain)
  -- The net is taken between rounded figures; fuel and service are rounded on their own.
  driverNet := rate.toMoney (rate.total distance weightKg terrain) -
    rate.toMoney (rate.cappedFee distance weightKg terrain)
  minimumFareApplied := rate.subtotal distance weightKg terrain < rate.minimumFare
  minimumFeeApplied := rate.service distance weightKg * (rate.platformCommissionPct / 100) <
    rate.platformMinimumFee
  freeWaitingMinutes := rate.detentionFreeMinutes.getD 60
  detentionPerHour := rate.toMoney (rate.detentionPerHour.getD 0)

/-- A quote is the breakdown, unless one of four guards refuses the job. -/
theorem quote_eq_breakdown (weightKg : ℚ) (distanceKm terrainFactor : Option ℚ) :
    quote rate weightKg distanceKm terrainFactor =
      if weightKg < 0 then .error { message := "weightKg cannot be negative." }
      else if distanceKm.getD 0 < 0 then .error { message := "distanceKm cannot be negative." }
      else if rate.roadDistanceFactor.getD 1 ≤ 0 then
        .error { message := "road_distance_factor must be positive." }
      else if terrainFactor.getD (rate.terrainFuelFactor.getD 1) ≤ 0 then
        .error { message := "terrainFactor must be positive." }
      else .ok (rate.breakdown weightKg distanceKm.isSome
        (distanceKm.getD 0 * rate.roadDistanceFactor.getD 1)
        (terrainFactor.getD (rate.terrainFuelFactor.getD 1))) := by
  -- The guards come in the order of the code, and an unknown distance is no distance.
  cases distanceKm <;> rfl

/-- A job that no guard refuses is priced. -/
theorem quote_ok {weightKg distance terrain : ℚ} (weighs : 0 ≤ weightKg) (driven : 0 ≤ distance)
    (forwards : 0 < rate.roadDistanceFactor.getD 1) (uphill : 0 < terrain) :
    quote rate weightKg (some (distance / rate.roadDistanceFactor.getD 1)) (some terrain) =
      .ok (rate.breakdown weightKg true distance terrain) := by
  -- Each guard in turn lets it through.
  have measured : 0 ≤ distance / rate.roadDistanceFactor.getD 1 := div_nonneg driven forwards.le
  rw [quote_eq_breakdown, if_neg (not_lt.mpr weighs), Option.getD_some, if_neg (not_lt.mpr measured),
    if_neg (not_le.mpr forwards), Option.getD_some, if_neg (not_le.mpr uphill),
    div_mul_cancel₀ _ forwards.ne']
  rfl

/-- A job is priced exactly when it passes the four guards, and its quote is the breakdown. -/
theorem quote_ok_iff {rate : Rate} {weightKg : ℚ} {distanceKm terrainFactor : Option ℚ} {quoted : Quote} :
    quote rate weightKg distanceKm terrainFactor = .ok quoted ↔
      0 ≤ weightKg ∧ 0 ≤ distanceKm.getD 0 ∧ 0 < rate.roadDistanceFactor.getD 1 ∧
        0 < rate.terrainFor terrainFactor ∧
          quoted = rate.breakdown weightKg distanceKm.isSome (rate.chargedKm distanceKm)
            (rate.terrainFor terrainFactor) := by
  rw [quote_eq_breakdown]
  constructor
  · intro priced
    -- Each guard that did not refuse leaves its fact behind.
    split at priced
    · cases priced
    rename_i weighs
    split at priced
    · cases priced
    rename_i driven
    split at priced
    · cases priced
    rename_i forwards
    split at priced
    · cases priced
    rename_i uphill
    exact ⟨not_lt.mp weighs, not_lt.mp driven, not_le.mp forwards, not_le.mp uphill,
      (Except.ok.inj priced).symm⟩
  · rintro ⟨weighs, driven, forwards, uphill, rfl⟩
    rw [if_neg (not_lt.mpr weighs), if_neg (not_lt.mpr driven), if_neg (not_le.mpr forwards)]
    exact if_neg (not_le.mpr uphill)

/-- A card that prices anything measures its roads forwards. -/
theorem forwards_of_quote {rate : Rate} {weightKg : ℚ} {distanceKm terrainFactor : Option ℚ} {quoted : Quote}
    (priced : quote rate weightKg distanceKm terrainFactor = .ok quoted) :
    0 < rate.roadDistanceFactor.getD 1 :=
  (quote_ok_iff.mp priced).2.2.1

/-- No charged distance of a priced job is negative. -/
theorem chargedKm_nonneg {rate : Rate} {weightKg : ℚ} {distanceKm terrainFactor : Option ℚ} {quoted : Quote}
    (priced : quote rate weightKg distanceKm terrainFactor = .ok quoted) :
    0 ≤ rate.chargedKm distanceKm := by
  -- The guards ask for a distance and a factor that are not negative.
  obtain ⟨-, driven, forwards, -⟩ := quote_ok_iff.mp priced
  exact mul_nonneg driven forwards.le

/-- The Light Van card, its empty leg ramped in up to a given distance, if to any. -/
def lightVan (full : Option ℚ) : Rate where
  id := 1
  vehicleClass := "Light Van"
  currency := some ['R', 'W', 'F']
  baseFare := 8000
  perKm := 700
  perKg := 8
  minimumFare := 15000
  fuelLitresPer100Km := 10
  fuelPricePerLitre := 2927
  platformCommissionPct := 15
  platformMinimumFee := 500
  roadDistanceFactor := some (8 / 5)
  taperAfterKm := some 25
  perKmLong := some 80
  terrainFuelFactor := some (6 / 5)
  returnLegBeyondKm := some 25
  returnLegFullKm := full
  returnLegSharePct := some 70
  currencyMinorUnits := some 0
  detentionFreeMinutes := some 60
  detentionPerHour := some 3800

/-- Any load over any distance can be priced on the van's card. -/
theorem lightVan_quote (full : Option ℚ) {weightKg : ℚ} {distanceKm : Option ℚ} (weighs : 0 ≤ weightKg)
    (driven : 0 ≤ distanceKm.getD 0) : quote (lightVan full) weightKg distanceKm none =
      .ok ((lightVan full).breakdown weightKg distanceKm.isSome ((lightVan full).chargedKm distanceKm)
        ((lightVan full).terrainFor none)) := by
  -- Both factors of the card are positive.
  have forwards : (0 : ℚ) < 8 / 5 := by norm_num
  have uphill : (0 : ℚ) < 6 / 5 := by norm_num
  exact quote_ok_iff.mpr ⟨weighs, driven, forwards, uphill, rfl⟩

end Freight
