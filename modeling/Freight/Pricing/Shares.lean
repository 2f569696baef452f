import Freight.Pricing.Growth
import Freight.Pricing.Superseding

/-! Who gets what of a fare: the platform's cut, what is left for the driver, and whether it adds up. -/

namespace Freight

section
variable {rate : Rate} {near far light heavy terrain : ℚ}

/-- The fee that is charged is the platform's cut, up to the whole fare. -/
theorem cappedFee_eq (distance weight terrain : ℚ) : rate.cappedFee distance weight terrain =
    min (rate.fee distance weight) (rate.total distance weight terrain) := rfl

/-- It is never more than the fare. -/
theorem cappedFee_le_total (distance weight terrain : ℚ) :
    rate.cappedFee distance weight terrain ≤ rate.total distance weight terrain :=
  min_le_right _ _

/-- A fare is not negative. -/
theorem total_nonneg (nonNegative : rate.NonNegative) (distance weight terrain : ℚ) :
    0 ≤ rate.total distance weight terrain :=
  nonNegative.minimumFare.trans (le_max_right _ _)

/-- Nor is the fee. -/
theorem cappedFee_nonneg (nonNegative : rate.NonNegative) (distance weight terrain : ℚ) :
    0 ≤ rate.cappedFee distance weight terrain :=
  le_min (nonNegative.minimumFee.trans (le_max_right _ _)) (total_nonneg nonNegative distance weight terrain)

/-- A cut taken out of a fare rises no more than the fare, where that is so before the cap. -/
theorem capped_sub_le {cut more fare dearer : ℚ} (rises : more - cut ≤ dearer - fare) :
    min more dearer - min cut fare ≤ dearer - fare := by
  rcases le_total cut fare with below | above
  · rw [min_eq_left below]
    have least := min_le_left more dearer
    linarith
  · -- The smaller fare was taken whole.
    rw [min_eq_right above]
    have least := min_le_right more dearer
    linarith

/-- The platform's cut grows by the percentage of the service at most. -/
theorem fee_sub_le (nonNegative : rate.NonNegative) (further : near ≤ far) (heavier : light ≤ heavy) :
    rate.fee far heavy - rate.fee near light ≤
      (rate.service far heavy - rate.service near light) * (rate.platformCommissionPct / 100) := by
  have share : 0 ≤ rate.platformCommissionPct / 100 := div_nonneg nonNegative.commission (by norm_num)
  have grown := mul_nonneg (sub_nonneg.mpr (service_mono nonNegative further heavier)) share
  have least : rate.service near light * (rate.platformCommissionPct / 100) ≤ rate.fee near light :=
    le_max_left _ _
  have floor : rate.platformMinimumFee ≤ rate.fee near light := le_max_right _ _
  -- The larger job pays the percentage or the minimum fee, and the smaller one no less than either.
  rcases max_choice (rate.service far heavy * (rate.platformCommissionPct / 100)) rate.platformMinimumFee with
    percentage | minimum
  · rw [Rate.fee, percentage]
    linarith
  · rw [Rate.fee, minimum]
    linarith

/-- Where the minimum fare did not lift the smaller job, the fare of a larger one rises by its service at least. -/
theorem service_sub_le (anchored : rate.Anchored) (uphill : 0 < terrain) (driven : 0 ≤ near)
    (further : near ≤ far) (unlifted : ¬ rate.subtotal near light terrain < rate.minimumFare) :
    rate.service far heavy - rate.service near light ≤
      rate.total far heavy terrain - rate.total near light terrain := by
  -- Fuel costs no less either, and the larger job's fare is its subtotal or more.
  have out := fuelOut_mono anchored.toNonNegative uphill further
  have back := fuelReturn_mono anchored uphill driven further
  have fare : rate.total near light terrain = rate.subtotal near light terrain := max_eq_left (not_lt.mp unlifted)
  have least : rate.subtotal far heavy terrain ≤ rate.total far heavy terrain := le_max_left _ _
  rw [fare]
  simp only [Rate.subtotal] at least ⊢
  linarith

/-- Where the larger job pays the minimum fee, the platform's cut does not rise. -/
theorem fee_le_of_minimum
    (floored : rate.service far heavy * (rate.platformCommissionPct / 100) ≤ rate.platformMinimumFee) :
    rate.fee far heavy ≤ rate.fee near light := by
  -- The minimum fee is what every job pays at least.
  rw [Rate.fee, max_eq_right floored]
  exact le_max_right _ _

/-- Where the platform's cut rises no more than the fare, what is left falls by a unit at most. -/
theorem net_le_of_rises (rises : rate.fee far heavy - rate.fee near light ≤
      rate.total far heavy terrain - rate.total near light terrain) :
    rate.toMoney (rate.total near light terrain) - rate.toMoney (rate.cappedFee near light terrain) ≤
      rate.toMoney (rate.total far heavy terrain) - rate.toMoney (rate.cappedFee far heavy terrain) +
        rate.unit := by
  -- Rounded, the two differences are out of step by a unit at most.
  have capped := capped_sub_le rises
  rw [← cappedFee_eq, ← cappedFee_eq] at capped
  exact toMoney_sub_le (by linarith)

/-- Under a fare that does not fall, what is left falls by less than the rise of the cut and a unit. -/
theorem net_lt_of_grows {rise : ℚ}
    (grows : rate.total near light terrain ≤ rate.total far heavy terrain) (nonneg : 0 ≤ rise)
    (cut : rate.fee far heavy - rate.fee near light ≤ rise) :
    rate.toMoney (rate.total near light terrain) - rate.toMoney (rate.cappedFee near light terrain) <
      rate.toMoney (rate.total far heavy terrain) - rate.toMoney (rate.cappedFee far heavy terrain) +
        rate.unit + rise := by
  have step := rate.unit_pos
  have rounded : rate.toMoney (rate.total near light terrain) ≤ rate.toMoney (rate.total far heavy terrain) :=
    toMoney_mono grows
  rcases le_total (rate.fee near light) (rate.total near light terrain) with below | above
  · have bounded : rate.toMoney (rate.cappedFee far heavy terrain) -
        rate.toMoney (rate.cappedFee near light terrain) <
          rate.cappedFee far heavy terrain - rate.cappedFee near light terrain + rate.unit :=
      toMoney_sub_lt _ _
    have taken : rate.cappedFee near light terrain = rate.fee near light := min_eq_left below
    have least : rate.cappedFee far heavy terrain ≤ rate.fee far heavy := min_le_left _ _
    linarith
  · -- A fare that was taken whole left its driver nothing to lose.
    have whole : rate.cappedFee near light terrain = rate.total near light terrain := min_eq_right above
    have left : rate.toMoney (rate.cappedFee far heavy terrain) ≤ rate.toMoney (rate.total far heavy terrain) :=
      toMoney_mono (cappedFee_le_total far heavy terrain)
    rw [whole, sub_self]
    linarith

end

/-- A card each of whose columns holds what the rate editor would take for it. -/
def Rate.Accepted (rate : Rate) : Prop :=
  ∀ field value, rate.column field = some value → checkField field (.number value) = .ok (some value)

namespace Rate.Accepted

variable {rate : Rate} {value : ℚ}

/-- No accepted number is negative. -/
theorem nonneg (accepted : rate.Accepted) (field : RateField) (held : rate.column field = some value) :
    0 ≤ value := by
  -- A negative number is refused by its field's check.
  have taken := accepted field value held
  by_contra negative
  simp only [checkField, if_pos (not_le.mp negative)] at taken
  cases taken

/-- An accepted number is within the bounds of its field, if it has any. -/
theorem bounded (accepted : rate.Accepted) (field : RateField) {low high : ℚ}
    (bounds : field.bounds = some (low, high)) (held : rate.column field = some value) :
    low ≤ value ∧ value ≤ high := by
  -- A number out of bounds is refused by its field's check.
  have taken := accepted field value held
  by_contra outside
  have outside : value < low ∨ high < value := by
    rcases not_and_or.mp outside with below | above
    · exact .inl (not_le.mp below)
    · exact .inr (not_le.mp above)
  simp only [checkField, if_neg (not_lt.mpr (accepted.nonneg field held)), bounds, if_pos outside] at taken
  cases taken

/-- No optional column of an accepted card stands for less than nothing. -/
theorem getD_nonneg (accepted : rate.Accepted) (field : RateField) {instead : ℚ} (nonneg : 0 ≤ instead) :
    0 ≤ (rate.column field).getD instead := by
  -- The column is there, and accepted, or what stands for it is not negative.
  cases held : rate.column field with
  | none => exact nonneg
  | some value => exact accepted.nonneg field held

/-- What the rate editor accepts has no negative rate, threshold or share. -/
theorem anchored (accepted : rate.Accepted) : rate.Anchored where
  -- Each rate, threshold and share is a field of the editor.
  baseFare := accepted.nonneg .baseFare rfl
  perKm := accepted.nonneg .perKm rfl
  perKmLong := accepted.getD_nonneg .perKmLong (accepted.nonneg .perKm rfl)
  perKg := accepted.nonneg .perKg rfl
  minimumFare := accepted.nonneg .minimumFare rfl
  litres := accepted.nonneg .fuelLitresPer100Km rfl
  price := accepted.nonneg .fuelPricePerLitre rfl
  commission := accepted.nonneg .platformCommissionPct rfl
  minimumFee := accepted.nonneg .platformMinimumFee rfl
  taper := accepted.getD_nonneg .taperAfterKm le_rfl
  beyond := accepted.getD_nonneg .returnLegBeyondKm le_rfl
  share := accepted.getD_nonneg .returnLegSharePct (by norm_num)

/-- An accepted commission is three fifths at most. -/
theorem commission_le (accepted : rate.Accepted) : rate.platformCommissionPct / 100 ≤ 3 / 5 := by
  -- Sixty per cent is the most that the field takes.
  have most := (accepted.bounded .platformCommissionPct rfl rfl).2
  linarith

end Rate.Accepted

section
variable {rate : Rate} {terrainFactor near far : Option ℚ} {light heavy : ℚ} {smaller larger : Quote}

/-- A larger job pays its driver no less, up to one unit of money, unless the minimum fare lifts the smaller
job while a percentage is taken of the larger; and even then no more is lost than that percentage of what the
service rose by, and a unit. -/
theorem larger_pays_no_less (accepted : rate.Accepted)
    (first : quote rate light near terrainFactor = .ok smaller)
    (second : quote rate heavy far terrainFactor = .ok larger)
    (heavier : light ≤ heavy) (further : NoFurther near far) :
    (smaller.minimumFareApplied = false ∨
        rate.service (rate.chargedKm far) heavy * (rate.platformCommissionPct / 100) ≤
          rate.platformMinimumFee →
      smaller.driverNet ≤ larger.driverNet + rate.unit) ∧
    smaller.driverNet < larger.driverNet + rate.unit +
      (rate.service (rate.chargedKm far) heavy - rate.service (rate.chargedKm near) light) *
        (rate.platformCommissionPct / 100) := by
  have charged := chargedKm_mono first second further
  have driven := chargedKm_nonneg first
  have anchored := accepted.anchored
  obtain ⟨-, -, -, uphill, rfl⟩ := quote_ok_iff.mp first
  obtain ⟨-, -, -, -, rfl⟩ := quote_ok_iff.mp second
  have fare := total_mono anchored uphill driven charged heavier
  have serves := service_mono anchored.toNonNegative charged heavier
  constructor
  · intro kept
    refine net_le_of_rises ?_
    -- Either way the platform's cut rises no more than the fare.
    rcases kept with unlifted | floored
    · have cut := fee_sub_le anchored.toNonNegative charged heavier
      have grown := @service_sub_le rate _ _ light heavy _ anchored uphill driven charged
        (of_decide_eq_false unlifted)
      have part := mul_le_of_le_one_right (sub_nonneg.mpr serves) (accepted.commission_le.trans (by norm_num))
      linarith
    · have same := @fee_le_of_minimum rate (rate.chargedKm near) _ light _ floored
      linarith
  · refine net_lt_of_grows fare ?_ (fee_sub_le anchored.toNonNegative charged heavier)
    have share : 0 ≤ rate.platformCommissionPct / 100 := div_nonneg anchored.commission (by norm_num)
    exact mul_nonneg (sub_nonneg.mpr serves) share

end

/-- The rate editor would take every number on the van's card. -/
theorem lightVan_accepted : (lightVan (some 75)).Accepted := by
  -- Field by field.
  intro field value held
  cases field <;> cases held <;> norm_num [checkField, RateField.bounds, lightVan]

/-- Two jobs over a measured way, both above the minimum fare. -/
theorem larger_van_pays_no_less : ∃ smaller larger,
    quote (lightVan (some 75)) 500 (some 20) none = .ok smaller ∧
      quote (lightVan (some 75)) 600 (some 50) none = .ok larger ∧
        smaller.driverNet ≤ larger.driverNet + (lightVan (some 75)).unit := by
  -- Both quotes are worked out, and then compared.
  have first := @lightVan_quote (some 75) 500 (some 20) (by norm_num) (by norm_num)
  have second := @lightVan_quote (some 75) 600 (some 50) (by norm_num) (by norm_num)
  refine ⟨_, _, first, second, ?_⟩
  refine (larger_pays_no_less lightVan_accepted first second (by norm_num) ?_).1 (.inl (by decide +kernel))
  rintro nearKm ⟨⟩
  exact ⟨50, rfl, by norm_num⟩

/-- Under the minimum fare, seven hundred kilogrammes more take 840 francs from the driver. -/
theorem heavier_van_pays_less : ∃ smaller larger, (lightVan (some 75)).Accepted ∧
    quote (lightVan (some 75)) 100 none none = .ok smaller ∧
      quote (lightVan (some 75)) 800 none none = .ok larger ∧
        larger.driverNet + 840 = smaller.driverNet ∧ (lightVan (some 75)).unit < 840 := by
  -- Both are quoted at the minimum fare, and the cut grows with the weight.
  have first := @lightVan_quote (some 75) 100 none (by norm_num) le_rfl
  have second := @lightVan_quote (some 75) 800 none (by norm_num) le_rfl
  exact ⟨_, _, lightVan_accepted, first, second, by decide +kernel, by decide +kernel⟩

/-- What a card says about the cost of fuel. -/
structure FuelCost where
  litresPer100Km : ℚ
  pricePerLitre : ℚ
  terrainFactor : Option ℚ
  returnLegBeyondKm : Option ℚ
  returnLegFullKm : Option ℚ
  returnLegSharePct : Option ℚ

/-- The card with other fuel costs. -/
def Rate.refuelled (rate : Rate) (cost : FuelCost) : Rate :=
  { rate with
    fuelLitresPer100Km := cost.litresPer100Km
    fuelPricePerLitre := cost.pricePerLitre
    terrainFuelFactor := cost.terrainFactor
    returnLegBeyondKm := cost.returnLegBeyondKm
    returnLegFullKm := cost.returnLegFullKm
    returnLegSharePct := cost.returnLegSharePct }

section
variable {rate : Rate} {cost : FuelCost} {weightKg : ℚ} {distanceKm terrainFactor otherTerrain : Option ℚ}
  {before after : Quote}

/-- No part of the platform's cut reads a fuel cost. -/
theorem fee_refuelled (distance weight : ℚ) :
    (rate.refuelled cost).fee distance weight = rate.fee distance weight := rfl

/-- Where the fare covers it, the platform takes its whole cut. -/
theorem cappedFee_of_covered {distance weight terrain : ℚ}
    (covered : rate.fee distance weight ≤ rate.total distance weight terrain) :
    rate.cappedFee distance weight terrain = rate.fee distance weight :=
  min_eq_left covered

/-- A fuel shock moves the customer and the driver, and not the platform's cut. -/
theorem fuel_shock_passes_through
    (first : quote rate weightKg distanceKm terrainFactor = .ok before)
    (second : quote (rate.refuelled cost) weightKg distanceKm otherTerrain = .ok after)
    (covered : rate.fee (rate.chargedKm distanceKm) weightKg ≤
      rate.total (rate.chargedKm distanceKm) weightKg (rate.terrainFor terrainFactor))
    (stillCovered : rate.fee (rate.chargedKm distanceKm) weightKg ≤
      (rate.refuelled cost).total (rate.chargedKm distanceKm) weightKg
        ((rate.refuelled cost).terrainFor otherTerrain)) :
    after.platformFee = before.platformFee ∧
      after.driverNet - before.driverNet = after.totalAmount - before.totalAmount := by
  obtain ⟨-, -, -, -, rfl⟩ := quote_ok_iff.mp first
  obtain ⟨-, -, -, -, rfl⟩ := quote_ok_iff.mp second
  have charged : (rate.refuelled cost).chargedKm distanceKm = rate.chargedKm distanceKm := rfl
  have money : ∀ value, (rate.refuelled cost).toMoney value = rate.toMoney value := fun _ => rfl
  rw [← @fee_refuelled rate cost] at stillCovered
  -- Both cards take the same whole cut, so the nets differ as the totals do.
  simp only [Rate.breakdown, charged, money, cappedFee_of_covered covered, cappedFee_of_covered stillCovered,
    fee_refuelled]
  constructor
  · trivial
  · ring

end

/-- Diesel at twice its price. -/
def dearDiesel : FuelCost where
  litresPer100Km := 10
  pricePerLitre := 5854
  terrainFactor := some (6 / 5)
  returnLegBeyondKm := some 25
  returnLegFullKm := some 75
  returnLegSharePct := some 70

/-- Twice the price of diesel leaves the cut out of a van's job where it was. -/
theorem dear_diesel_passes_through : ∃ before after,
    quote (lightVan (some 75)) 500 (some 20) none = .ok before ∧
      quote ((lightVan (some 75)).refuelled dearDiesel) 500 (some 20) none = .ok after ∧
        after.platformFee = before.platformFee ∧
          after.driverNet - before.driverNet = after.totalAmount - before.totalAmount := by
  -- The quote is worked out, and the other card's follows from the theorem.
  have first := @lightVan_quote (some 75) 500 (some 20) (by norm_num) (by norm_num)
  have forwards : 0 < ((lightVan (some 75)).refuelled dearDiesel).roadDistanceFactor.getD 1 := by decide +kernel
  have uphill : 0 < ((lightVan (some 75)).refuelled dearDiesel).terrainFor none := by decide +kernel
  have second := quote_ok_iff.mpr ⟨(by norm_num : (0 : ℚ) ≤ 500),
    (by norm_num : (0 : ℚ) ≤ (some 20 : Option ℚ).getD 0), forwards, uphill, rfl⟩
  exact ⟨_, _, first, second, fuel_shock_passes_through first second (by decide +kernel) (by decide +kernel)⟩

/-- A breakdown adds up: the cut and the net make the fare, and fuel and service do above the minimum fare. -/
structure Quote.AddsUp (quoted : Quote) : Prop where
  fee_nonneg : 0 ≤ quoted.platformFee
  fee_le : quoted.platformFee ≤ quoted.totalAmount
  net_nonneg : 0 ≤ quoted.driverNet
  shares : quoted.platformFee + quoted.driverNet = quoted.totalAmount
  parts : quoted.minimumFareApplied = false → quoted.fuelAmount + quoted.serviceAmount = quoted.totalAmount

/-- All the fuel of a job, unrounded. -/
def Rate.fuel (rate : Rate) (distance terrain : ℚ) : ℚ :=
  rate.fuelOut distance terrain + rate.fuelReturn distance terrain

/-- What rounding takes off the fuel and the service of a job, in units. -/
def Rate.lost (rate : Rate) (distance weight terrain : ℚ) : ℚ :=
  roundedOff (rate.fuel distance terrain / rate.unit) + roundedOff (rate.service distance weight / rate.unit)

/-- What is rounded off the parts would be rounded off their sum. -/
def Rate.PartsMeet (rate : Rate) (distance weight terrain : ℚ) : Prop :=
  -(1 / 2) ≤ rate.lost distance weight terrain ∧ rate.lost distance weight terrain < 1 / 2

variable {rate : Rate} {weightKg : ℚ} {distanceKm terrainFactor : Option ℚ} {quoted : Quote}

/-- The platform's and the driver's shares make up the fare on every card without negative rates. -/
theorem shares_add_up (nonNegative : rate.NonNegative)
    (priced : quote rate weightKg distanceKm terrainFactor = .ok quoted) :
    0 ≤ quoted.platformFee ∧ quoted.platformFee ≤ quoted.totalAmount ∧ 0 ≤ quoted.driverNet ∧
      quoted.platformFee + quoted.driverNet = quoted.totalAmount := by
  -- The cut is capped by the fare and not negative, and rounding keeps both.
  have adds := quote_adds_up priced
  obtain ⟨-, -, -, -, rfl⟩ := quote_ok_iff.mp priced
  have least : rate.toMoney (rate.cappedFee (rate.chargedKm distanceKm) weightKg (rate.terrainFor terrainFactor)) ≤
      rate.toMoney (rate.total (rate.chargedKm distanceKm) weightKg (rate.terrainFor terrainFactor)) :=
    toMoney_mono (cappedFee_le_total _ _ _)
  exact ⟨toMoney_nonneg (cappedFee_nonneg nonNegative _ _ _), least, sub_nonneg.mpr least, adds.symm⟩

/-- A breakdown adds up exactly when the minimum fare applies, or the fractions of a unit that fuel and service
lose to their own rounding are less than the fare would lose. -/
theorem breakdown_adds_up_iff (nonNegative : rate.NonNegative)
    (priced : quote rate weightKg distanceKm terrainFactor = .ok quoted) :
    quoted.AddsUp ↔
      rate.subtotal (rate.chargedKm distanceKm) weightKg (rate.terrainFor terrainFactor) < rate.minimumFare ∨
        rate.PartsMeet (rate.chargedKm distanceKm) weightKg (rate.terrainFor terrainFactor) := by
  obtain ⟨nonneg, least, left, shares⟩ := shares_add_up nonNegative priced
  obtain ⟨-, -, -, -, rfl⟩ := quote_ok_iff.mp priced
  -- Above the minimum fare, the fare is fuel and service.
  have parts : ¬ rate.subtotal (rate.chargedKm distanceKm) weightKg (rate.terrainFor terrainFactor) <
      rate.minimumFare → (rate.total (rate.chargedKm distanceKm) weightKg (rate.terrainFor terrainFactor) =
        rate.fuel (rate.chargedKm distanceKm) (rate.terrainFor terrainFactor) +
          rate.service (rate.chargedKm distanceKm) weightKg) :=
    fun unlifted => max_eq_left (not_lt.mp unlifted)
  constructor
  · intro adds
    by_cases lifted : rate.subtotal (rate.chargedKm distanceKm) weightKg (rate.terrainFor terrainFactor) <
        rate.minimumFare
    · exact .inl lifted
    · have meet := adds.parts (decide_eq_false lifted)
      simp only [Rate.breakdown, parts lifted] at meet
      exact .inr ((toMoney_add_iff _ _).mp meet)
  · intro meets
    refine ⟨nonneg, least, left, shares, fun unlifted => ?_⟩
    have unlifted := of_decide_eq_false unlifted
    have meet := (toMoney_add_iff _ _).mpr (meets.resolve_left unlifted)
    simp only [Rate.breakdown, parts unlifted]
    exact meet

/-- The van's card with a fare that ends on half a franc, and diesel at a thousand and one. -/
def halfFrancVan : Rate :=
  { lightVan (some 75) with
    baseFare := 17000 + 1 / 2
    fuelPricePerLitre := 1001
    roadDistanceFactor := some 1 }

/-- Five kilometres burn 500.5 francs, and 501 and 24501 francs do not make a fare of 25001. -/
theorem half_francs_do_not_add_up : ∃ quoted, halfFrancVan.NonNegative ∧
    quote halfFrancVan 500 (some 5) none = .ok quoted ∧ ¬ quoted.AddsUp := by
  have forwards : 0 < halfFrancVan.roadDistanceFactor.getD 1 := by decide +kernel
  have uphill : 0 < halfFrancVan.terrainFor none := by decide +kernel
  have priced := quote_ok_iff.mpr ⟨(by norm_num : (0 : ℚ) ≤ 500),
    (by norm_num : (0 : ℚ) ≤ (some 5 : Option ℚ).getD 0), forwards, uphill, rfl⟩
  -- It is the van's card but for its base and its fuel.
  have nonNegative : halfFrancVan.NonNegative :=
    { lightVan_anchored.toNonNegative with
      baseFare := by decide +kernel
      price := by decide +kernel }
  refine ⟨_, nonNegative, priced, fun adds => ?_⟩
  have meet := adds.parts (by decide +kernel)
  exact absurd meet (by decide +kernel)

/-- A van's usual job adds up. -/
theorem van_adds_up : ∃ quoted, quote (lightVan (some 75)) 500 (some 20) none = .ok quoted ∧ quoted.AddsUp := by
  -- The minimum fare does not lift it, and the fare loses to rounding what its parts lose.
  have priced := @lightVan_quote (some 75) 500 (some 20) (by norm_num) (by norm_num)
  refine ⟨_, priced, (breakdown_adds_up_iff lightVan_anchored.toNonNegative priced).2 (.inr ⟨?_, ?_⟩)⟩
  · decide +kernel
  · decide +kernel

end Freight
