import Freight.Pricing.Breakdown

/-! Larger jobs: no figure a fare is made of falls when the way gets longer or the load heavier. -/

namespace Freight

/-- A card none of whose rates is negative. -/
structure Rate.NonNegative (rate : Rate) : Prop where
  baseFare : 0 ≤ rate.baseFare
  perKm : 0 ≤ rate.perKm
  perKmLong : 0 ≤ rate.perKmLong.getD rate.perKm
  perKg : 0 ≤ rate.perKg
  minimumFare : 0 ≤ rate.minimumFare
  litres : 0 ≤ rate.fuelLitresPer100Km
  price : 0 ≤ rate.fuelPricePerLitre
  commission : 0 ≤ rate.platformCommissionPct
  minimumFee : 0 ≤ rate.platformMinimumFee

/-- A card whose thresholds and whose return share are not negative either. Where the ramp ends does not matter. -/
structure Rate.Anchored (rate : Rate) : Prop extends rate.NonNegative where
  taper : 0 ≤ rate.taperAfterKm.getD 0
  beyond : 0 ≤ rate.returnLegBeyondKm.getD 0
  share : 0 ≤ rate.returnLegSharePct.getD 100

/-- One distance is at most another, where none is below every one. -/
def NoFurther (near far : Option ℚ) : Prop :=
  ∀ nearKm, near = some nearKm → ∃ farKm, far = some farKm ∧ nearKm ≤ farKm

section
variable {rate : Rate} {near far terrain : ℚ}

/-- A longer way has no shorter stretch in the city. -/
theorem cityKm_mono (further : near ≤ far) : rate.cityKm near ≤ rate.cityKm far := by
  -- With a taper both are cut at the same place.
  unfold Rate.cityKm
  cases rate.taperAfterKm with
  | none => exact further
  | some taperAfter => exact min_le_min_right taperAfter further

/-- Nor a shorter one on the open road. -/
theorem openRoadKm_mono (further : near ≤ far) : rate.openRoadKm near ≤ rate.openRoadKm far := by
  -- With a taper both are measured from the same place.
  unfold Rate.openRoadKm
  cases rate.taperAfterKm with
  | none => exact le_rfl
  | some taperAfter => exact max_le_max_left 0 (sub_le_sub_right further taperAfter)

/-- No stretch of open road is negative. -/
theorem openRoadKm_nonneg (distance : ℚ) : 0 ≤ rate.openRoadKm distance := by
  -- It is cut at nothing.
  unfold Rate.openRoadKm
  cases rate.taperAfterKm with
  | none => exact le_rfl
  | some taperAfter => exact le_max_left _ _

/-- A city stretch is not negative where its far end is not. -/
theorem cityKm_nonneg (anchored : rate.Anchored) (driven : 0 ≤ near) : 0 ≤ rate.cityKm near := by
  -- With a taper it is cut there, and the taper is not negative either.
  have taper := anchored.taper
  unfold Rate.cityKm
  cases ends : rate.taperAfterKm with
  | none => exact driven
  | some taperAfter =>
    rw [ends] at taper
    exact le_min driven taper

/-- Fuel by the kilometre is worth something. -/
theorem fuel_nonneg (nonNegative : rate.NonNegative) :
    0 ≤ rate.fuelLitresPer100Km / 100 * rate.fuelPricePerLitre :=
  mul_nonneg (div_nonneg nonNegative.litres (by norm_num)) nonNegative.price

/-- A longer way out burns no less. -/
theorem fuelOut_mono (nonNegative : rate.NonNegative) (uphill : 0 < terrain) (further : near ≤ far) :
    rate.fuelOut near terrain ≤ rate.fuelOut far terrain := by
  rw [fuelOut_eq, fuelOut_eq]
  -- The same price multiplies two stretches, neither of which is shorter.
  refine mul_le_mul_of_nonneg_left (add_le_add (cityKm_mono further) ?_) (fuel_nonneg nonNegative)
  exact mul_le_mul_of_nonneg_right (openRoadKm_mono further) uphill.le

/-- The fuel for the way out costs something. -/
theorem fuelOut_nonneg (anchored : rate.Anchored) (uphill : 0 < terrain) (driven : 0 ≤ near) :
    0 ≤ rate.fuelOut near terrain := by
  -- Neither stretch is negative, nor the fuel it takes.
  rw [fuelOut_eq]
  refine mul_nonneg (fuel_nonneg anchored.toNonNegative) (add_nonneg (cityKm_nonneg anchored driven) ?_)
  exact mul_nonneg (openRoadKm_nonneg near) uphill.le

/-- The charged share of an empty leg never shrinks with the distance. -/
theorem rampedShare_mono (anchored : rate.Anchored) (further : near ≤ far) :
    rate.rampedShare near ≤ rate.rampedShare far := by
  have share : 0 ≤ rate.returnLegSharePct.getD 100 / 100 := div_nonneg anchored.share (by norm_num)
  simp only [Rate.rampedShare]
  cases rate.returnLegBeyondKm with
  | none => exact le_rfl
  | some beyond =>
    by_cases band : 0 < rate.returnLegFullKm.getD beyond - beyond
    · -- Up the ramp, the place between the anchors only moves on.
      simp only [if_pos band]
      refine mul_le_mul_of_nonneg_left (min_le_min_left 1 (max_le_max_left 0 ?_)) share
      exact (div_le_div_iff_of_pos_right band).mpr (sub_le_sub_right further beyond)
    · simp only [if_neg band]
      exact le_rfl

/-- The share is not negative. -/
theorem rampedShare_nonneg (anchored : rate.Anchored) (distance : ℚ) : 0 ≤ rate.rampedShare distance := by
  -- A share that is not negative, times a place in the band that is cut at nothing.
  have share : 0 ≤ rate.returnLegSharePct.getD 100 / 100 := div_nonneg anchored.share (by norm_num)
  simp only [Rate.rampedShare]
  cases rate.returnLegBeyondKm with
  | none => exact share
  | some beyond =>
    by_cases band : 0 < rate.returnLegFullKm.getD beyond - beyond
    · simp only [if_pos band]
      exact mul_nonneg share (le_min zero_le_one (le_max_left _ _))
    · simp only [if_neg band]
      exact share

/-- Whoever returns empty from nearby does so from further out. -/
theorem returnsEmpty_mono (further : near ≤ far) (empty : rate.returnsEmpty near = true) :
    rate.returnsEmpty far = true := by
  -- What is past the threshold nearby is past it further out.
  unfold Rate.returnsEmpty at empty ⊢
  cases starts : rate.returnLegBeyondKm with
  | none =>
    rw [starts] at empty
    cases empty
  | some beyond =>
    rw [starts] at empty
    have past : beyond < near := of_decide_eq_true empty
    exact decide_eq_true (past.trans_le further)

/-- An empty leg costs something, or nothing, but never less than nothing. -/
theorem fuelReturn_nonneg (anchored : rate.Anchored) (uphill : 0 < terrain) (driven : 0 ≤ near) :
    0 ≤ rate.fuelReturn near terrain := by
  -- It is nothing, or a share of the way out.
  simp only [Rate.fuelReturn]
  split
  · exact mul_nonneg (fuelOut_nonneg anchored uphill driven) (rampedShare_nonneg anchored near)
  · exact le_rfl

/-- A longer empty leg costs no less: both what is burnt and the share of it that is charged grow. -/
theorem fuelReturn_mono (anchored : rate.Anchored) (uphill : 0 < terrain) (driven : 0 ≤ near)
    (further : near ≤ far) : rate.fuelReturn near terrain ≤ rate.fuelReturn far terrain := by
  by_cases empty : rate.returnsEmpty near = true
  · have later := returnsEmpty_mono further empty
    simp only [Rate.fuelReturn, empty, later, if_true]
    exact mul_le_mul (fuelOut_mono anchored.toNonNegative uphill further) (rampedShare_mono anchored further)
      (rampedShare_nonneg anchored near) (fuelOut_nonneg anchored uphill (driven.trans further))
  · -- A driver who finds a load on the way back is not charged for.
    have nothing : rate.fuelReturn near terrain = 0 := by simp only [Rate.fuelReturn, if_neg empty]
    rw [nothing]
    exact fuelReturn_nonneg anchored uphill (driven.trans further)

variable {light heavy : ℚ}

/-- The service of a larger job costs no less. -/
theorem service_mono (nonNegative : rate.NonNegative) (further : near ≤ far) (heavier : light ≤ heavy) :
    rate.service near light ≤ rate.service far heavy := by
  -- City, open road and load each cost no less.
  have city := mul_le_mul_of_nonneg_right (@cityKm_mono rate _ _ further) nonNegative.perKm
  have openRoad := mul_le_mul_of_nonneg_right (@openRoadKm_mono rate _ _ further) nonNegative.perKmLong
  have load := mul_le_mul_of_nonneg_right heavier nonNegative.perKg
  simp only [Rate.service]
  linarith

/-- Fuel and service of a larger job together cost no less. -/
theorem subtotal_mono (anchored : rate.Anchored) (uphill : 0 < terrain) (driven : 0 ≤ near)
    (further : near ≤ far) (heavier : light ≤ heavy) :
    rate.subtotal near light terrain ≤ rate.subtotal far heavy terrain :=
  -- Summand by summand.
  add_le_add (add_le_add (fuelOut_mono anchored.toNonNegative uphill further)
    (fuelReturn_mono anchored uphill driven further)) (service_mono anchored.toNonNegative further heavier)

/-- The unrounded fare of a larger job is no less. -/
theorem total_mono (anchored : rate.Anchored) (uphill : 0 < terrain) (driven : 0 ≤ near)
    (further : near ≤ far) (heavier : light ≤ heavy) :
    rate.total near light terrain ≤ rate.total far heavy terrain :=
  max_le_max_right _ (subtotal_mono anchored uphill driven further heavier)

end

variable {rate : Rate} {terrainFactor near far : Option ℚ} {light heavy : ℚ} {smaller larger : Quote}

/-- The charged distance grows with the measured one, from none on. -/
theorem chargedKm_mono (first : quote rate light near terrainFactor = .ok smaller)
    (second : quote rate heavy far terrainFactor = .ok larger) (further : NoFurther near far) :
    rate.chargedKm near ≤ rate.chargedKm far := by
  obtain ⟨-, -, forwards, -⟩ := quote_ok_iff.mp first
  cases near with
  | none =>
    -- Nothing measured is charged as nothing driven.
    have nothing : rate.chargedKm none = 0 := zero_mul _
    rw [nothing]
    exact chargedKm_nonneg second
  | some nearKm =>
    obtain ⟨farKm, rfl, least⟩ := further nearKm rfl
    exact mul_le_mul_of_nonneg_right least forwards.le

/-- Going further or heavier never costs less. -/
theorem larger_costs_no_less (anchored : rate.Anchored)
    (first : quote rate light near terrainFactor = .ok smaller)
    (second : quote rate heavy far terrainFactor = .ok larger)
    (heavier : light ≤ heavy) (further : NoFurther near far) :
    smaller.totalAmount ≤ larger.totalAmount := by
  have charged := chargedKm_mono first second further
  have driven := chargedKm_nonneg first
  obtain ⟨-, -, -, uphill, rfl⟩ := quote_ok_iff.mp first
  obtain ⟨-, -, -, -, rfl⟩ := quote_ok_iff.mp second
  -- Rounding keeps the order of the two fares.
  exact toMoney_mono (total_mono anchored uphill driven charged heavier)

/-- The van's card has no negative rate, threshold or share. -/
theorem lightVan_anchored : (lightVan (some 75)).Anchored where
  -- Column by column.
  baseFare := by decide +kernel
  perKm := by decide +kernel
  perKmLong := by decide +kernel
  perKg := by decide +kernel
  minimumFare := by decide +kernel
  litres := by decide +kernel
  price := by decide +kernel
  commission := by decide +kernel
  minimumFee := by decide +kernel
  taper := by decide +kernel
  beyond := by decide +kernel
  share := by decide +kernel

/-- A job without a distance costs no more than one that climbs past the end of the ramp. -/
theorem larger_van_costs_no_less : ∃ smaller larger,
    quote (lightVan (some 75)) 500 none none = .ok smaller ∧
      quote (lightVan (some 75)) 600 (some 50) none = .ok larger ∧
        smaller.totalAmount ≤ larger.totalAmount := by
  -- The smaller job has no distance, so there is no measured way to compare.
  have first := @lightVan_quote (some 75) 500 none (by norm_num) le_rfl
  have second := @lightVan_quote (some 75) 600 (some 50) (by norm_num) (by norm_num)
  refine ⟨_, _, first, second, ?_⟩
  exact larger_costs_no_less lightVan_anchored first second (by norm_num) (fun _ measured => by cases measured)

end Freight
