import Freight.Library.Slopes
import Freight.Pricing.Breakdown

/-! Fares without cliffs: with an empty leg that is ramped in, a fare changes only as fast as the card allows. -/

namespace Freight

namespace Rate

variable (rate : Rate)

/-- The unrounded fare of a load over a measured distance. -/
def fare (weightKg terrain measured : ℚ) : ℚ :=
  rate.total (measured * rate.roadDistanceFactor.getD 1) weightKg terrain

/-- The most that a kilometre adds to the fuel for the way out. -/
def fuelSlope (terrain : ℚ) : ℚ :=
  (1 + |terrain|) * |rate.fuelLitresPer100Km / 100 * rate.fuelPricePerLitre|

/-- The most that a kilometre adds to the service. -/
def serviceSlope : ℚ := |rate.perKm| + |rate.perKmLong.getD rate.perKm|

/-- The share that is charged of an empty leg in full. -/
def fullShare : ℚ := |rate.returnLegSharePct.getD 100 / 100|

/-- The most that a kilometre adds to the charged share. -/
def rampSlope : ℚ := rate.fullShare / (rate.returnLegFullKm.getD 0 - rate.returnLegBeyondKm.getD 0)

/-- The most fuel for the way out, within a charged distance. -/
def fuelHeight (terrain charged : ℚ) : ℚ := |rate.fuelOut 0 terrain| + rate.fuelSlope terrain * charged

/-- The most that a charged kilometre adds to a fare within a charged distance. -/
def chargedSlope (terrain charged : ℚ) : ℚ :=
  -- An empty leg gets dearer as it gets longer and as more of it is charged.
  rate.fuelSlope terrain +
    (rate.fuelHeight terrain charged * rate.rampSlope + rate.fuelSlope terrain * rate.fullShare) +
      rate.serviceSlope

/-- The most that a measured kilometre adds to a fare within a measured distance. -/
def steepest (terrain reach : ℚ) : ℚ :=
  rate.chargedSlope terrain (reach * rate.roadDistanceFactor.getD 1) * |rate.roadDistanceFactor.getD 1|

end Rate

section
variable (rate : Rate) (set : Set ℚ)

/-- The city stretch grows kilometre by kilometre until it ends. -/
theorem cityKm_slope : SlopeOn 1 set rate.cityKm := by
  -- With a taper it is the distance, cut there.
  unfold Rate.cityKm
  cases rate.taperAfterKm with
  | none => exact SlopeOn.id
  | some taperAfter => exact SlopeOn.id.min_const taperAfter

/-- From there on, the open road does. -/
theorem openRoadKm_slope : SlopeOn 1 set rate.openRoadKm := by
  -- With a taper it is how far the distance lies past it, or nothing.
  unfold Rate.openRoadKm
  cases rate.taperAfterKm with
  | none => exact (SlopeOn.const 0).mono subset_rfl zero_le_one
  | some taperAfter =>
    have past : SlopeOn 1 set fun distance => max (distance + -taperAfter) 0 :=
      (SlopeOn.id.add_const (-taperAfter)).max_const 0
    refine past.congr fun distance _ => ?_
    rw [max_comm, ← sub_eq_add_neg]

end

section
variable {rate : Rate} {set : Set ℚ} (terrain : ℚ)

/-- The fuel for the way out rises no faster than its slope. -/
theorem fuelOut_slope : SlopeOn (rate.fuelSlope terrain) set fun distance => rate.fuelOut distance terrain := by
  -- Both stretches have slope one, the open road times its terrain, at so much a kilometre.
  have stretches := (cityKm_slope rate set).add ((openRoadKm_slope rate set).mul_const terrain)
  have burnt := stretches.mul_const (rate.fuelLitresPer100Km / 100 * rate.fuelPricePerLitre)
  rw [one_mul] at burnt
  exact burnt.congr fun distance _ => by rw [fuelOut_eq, mul_comm]

/-- Nor does the service. -/
theorem service_slope (weightKg : ℚ) :
    SlopeOn rate.serviceSlope set fun distance => rate.service distance weightKg := by
  have city := (cityKm_slope rate set).mul_const rate.perKm
  have openRoad := (openRoadKm_slope rate set).mul_const (rate.perKmLong.getD rate.perKm)
  have both := (city.add openRoad).add_const (rate.baseFare + weightKg * rate.perKg)
  rw [one_mul, one_mul] at both
  -- What the distance does not bear on is a shift.
  refine both.congr fun distance _ => ?_
  simp only [Rate.service]
  ring

/-- That slope is not negative. -/
theorem fuelSlope_nonneg : 0 ≤ rate.fuelSlope terrain := by
  -- It is made up of sizes.
  unfold Rate.fuelSlope
  positivity

/-- Within a distance, the fuel for the way out stays within its height. -/
theorem fuelOut_height {charged : ℚ} (reached : 0 ≤ charged) :
    HeightOn (rate.fuelHeight terrain charged) (Set.Icc 0 charged)
      fun distance => rate.fuelOut distance terrain := by
  -- It begins at nothing, and rises no faster than its slope.
  refine (fuelOut_slope terrain).height (fuelSlope_nonneg terrain) ⟨le_rfl, reached⟩ ?_
  rintro distance ⟨driven, within⟩
  rw [sub_zero, abs_of_nonneg driven]
  exact within

variable {beyond full : ℚ} (starts : rate.returnLegBeyondKm = some beyond)
  (ends : rate.returnLegFullKm = some full) (wide : beyond < full)

section
include starts ends wide

/-- Between its anchors, the charged share is a stretch of a line. -/
theorem rampedShare_eq (distance : ℚ) : rate.rampedShare distance =
    min (max ((distance + -beyond) * (1 / (full - beyond))) 0) 1 * (rate.returnLegSharePct.getD 100 / 100) := by
  -- With both anchors there is a band, and the place in it is cut at either end.
  have band : 0 < full - beyond := sub_pos.mpr wide
  simp only [Rate.rampedShare, starts, ends, Option.getD_some, if_pos band]
  rw [mul_comm, min_comm, max_comm, mul_one_div, sub_eq_add_neg]

/-- The charged share rises no faster than the ramp. -/
theorem rampedShare_slope : SlopeOn rate.rampSlope set rate.rampedShare := by
  -- A place in the band, cut at both ends, and scaled to the full share.
  have band : 0 < full - beyond := sub_pos.mpr wide
  have place : SlopeOn 1 set fun distance => distance := SlopeOn.id
  have ramp := ((((place.add_const (-beyond)).mul_const (1 / (full - beyond))).max_const 0).min_const 1).mul_const
    (rate.returnLegSharePct.getD 100 / 100)
  have slope : 1 * |1 / (full - beyond)| * |rate.returnLegSharePct.getD 100 / 100| = rate.rampSlope := by
    rw [Rate.rampSlope, Rate.fullShare, starts, ends, Option.getD_some, Option.getD_some, one_mul,
      abs_of_pos (one_div_pos.mpr band), one_div_mul_eq_div]
  rw [slope] at ramp
  exact ramp.congr fun distance _ => rampedShare_eq starts ends wide distance

/-- And it is at most all of it. -/
theorem rampedShare_height : HeightOn rate.fullShare set rate.rampedShare := by
  intro distance _
  rw [rampedShare_eq starts ends wide distance, abs_mul, Rate.fullShare]
  refine mul_le_of_le_one_left (abs_nonneg _) ?_
  -- The place on the ramp is between none and all of it.
  rw [abs_of_nonneg (le_min (le_max_right _ _) zero_le_one)]
  exact min_le_right _ _

/-- Before the ramp starts its share is nothing, so that the switch turns nothing on. -/
theorem fuelReturn_eq (distance : ℚ) :
    rate.fuelReturn distance terrain = rate.fuelOut distance terrain * rate.rampedShare distance := by
  -- Up to the start of the ramp both factors are nothing.
  simp only [Rate.fuelReturn]
  split
  · rfl
  · rename_i matched
    have before : distance ≤ beyond := by
      simpa [Rate.returnsEmpty, starts] using matched
    have band : 0 < full - beyond := sub_pos.mpr wide
    have short : (distance + -beyond) * (1 / (full - beyond)) ≤ 0 :=
      mul_nonpos_of_nonpos_of_nonneg (by linarith) (one_div_pos.mpr band).le
    rw [rampedShare_eq starts ends wide distance, max_eq_right short, min_eq_left zero_le_one, zero_mul, mul_zero]

/-- A fare changes no faster than its fuel, its empty leg and its service do together. -/
theorem total_slope (weightKg : ℚ) {charged : ℚ} (reached : 0 ≤ charged) :
    SlopeOn (rate.chargedSlope terrain charged) (Set.Icc 0 charged)
      fun distance => rate.total distance weightKg terrain := by
  -- The way out, that way times the ramped share, and the service: each has its slope and its height.
  have out : SlopeOn (rate.fuelSlope terrain) (Set.Icc 0 charged) fun distance => rate.fuelOut distance terrain :=
    fuelOut_slope terrain
  have back := out.mul (rampedShare_slope starts ends wide) (fuelOut_height terrain reached)
    (rampedShare_height starts ends wide)
  have served : SlopeOn rate.serviceSlope (Set.Icc 0 charged) fun distance => rate.service distance weightKg :=
    service_slope weightKg
  have sum := ((out.add back).add served).max_const rate.minimumFare
  refine sum.congr fun distance _ => ?_
  rw [Rate.total, Rate.subtotal, fuelReturn_eq terrain starts ends wide]

/-- So it does by the measured kilometre. -/
theorem fare_slope (forwards : 0 < rate.roadDistanceFactor.getD 1) (weightKg reach : ℚ) :
    SlopeOn (rate.steepest terrain reach) (Set.Icc 0 reach) (rate.fare weightKg terrain) := by
  rcases le_or_gt 0 reach with reached | empty
  · have charged : 0 ≤ reach * rate.roadDistanceFactor.getD 1 := mul_nonneg reached forwards.le
    refine (total_slope terrain starts ends wide weightKg charged).stretched ?_
    rintro measured ⟨driven, within⟩
    exact ⟨mul_nonneg driven forwards.le, mul_le_mul_of_nonneg_right within forwards.le⟩
  · -- No distance is that short.
    rintro near ⟨driven, within⟩
    exact absurd (driven.trans within) (not_le.mpr empty)

/-- A fare with a ramped empty leg is continuous, its slope within any distance is bounded by what the card says,
and two quotes differ by no more than that slope over the difference of their distances, and a unit. -/
theorem fare_without_cliffs (forwards : 0 < rate.roadDistanceFactor.getD 1) (weightKg : ℚ) :
    ContinuousOn (rate.fare weightKg terrain) (Set.Ici 0) ∧
    (∀ reach, SlopeOn (rate.steepest terrain reach) (Set.Icc 0 reach) (rate.fare weightKg terrain)) ∧
    ∀ near far reach terrainFactor one other, rate.terrainFor terrainFactor = terrain →
      quote rate weightKg near terrainFactor = .ok one → quote rate weightKg far terrainFactor = .ok other →
        near.getD 0 ≤ reach → far.getD 0 ≤ reach →
          |other.totalAmount - one.totalAmount| ≤
            rate.steepest terrain reach * |far.getD 0 - near.getD 0| + rate.unit := by
  -- Each quote is a fare on the card, rounded, and rounding adds a unit at most.
  have slopes := fare_slope terrain starts ends wide forwards weightKg
  refine ⟨continuousOn_of_slopes slopes, slopes, ?_⟩
  intro near far reach terrainFactor one other climbs first second nearIn farIn
  obtain ⟨-, nearDriven, -, -, rfl⟩ := quote_ok_iff.mp first
  obtain ⟨-, farDriven, -, -, rfl⟩ := quote_ok_iff.mp second
  subst climbs
  have fares := slopes reach _ ⟨nearDriven, nearIn⟩ _ ⟨farDriven, farIn⟩
  exact (abs_toMoney_sub_le _ _).trans (add_le_add fares le_rfl)

end

end

/-- On the van's card, ten metres cost no more either side of the start of the ramp. -/
theorem lightVan_without_cliffs : ∃ one other,
    quote (lightVan (some 75)) 500 (some (1562 / 100)) none = .ok one ∧
      quote (lightVan (some 75)) 500 (some (1563 / 100)) none = .ok other ∧
        |other.totalAmount - one.totalAmount| ≤ (lightVan (some 75)).steepest (6 / 5) 50 *
          |(1563 / 100 : ℚ) - 1562 / 100| + (lightVan (some 75)).unit := by
  -- Both quotes are the card's breakdown, within fifty kilometres.
  have first := @lightVan_quote (some 75) 500 (some (1562 / 100)) (by norm_num) (by norm_num)
  have second := @lightVan_quote (some 75) 500 (some (1563 / 100)) (by norm_num) (by norm_num)
  have starts : (lightVan (some 75)).returnLegBeyondKm = some 25 := rfl
  have ends : (lightVan (some 75)).returnLegFullKm = some 75 := rfl
  have climbs : (lightVan (some 75)).terrainFor none = 6 / 5 := rfl
  have forwards : 0 < (lightVan (some 75)).roadDistanceFactor.getD 1 := by decide +kernel
  have gradual := (fare_without_cliffs (6 / 5) starts ends (by norm_num) forwards 500).2.2
  have apart := gradual _ _ 50 none _ _ climbs first second (by norm_num) (by norm_num)
  rw [Option.getD_some, Option.getD_some] at apart
  exact ⟨_, _, first, second, apart⟩

end Freight
