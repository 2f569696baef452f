import Freight.Pricing.RateCard
import Freight.Pricing.Breakdown

/-! Superseding a rate card: what `createRate` stores, and when that prices as what was sent. -/

namespace Freight

/-- What a request sends for a column, once it is read as a number. -/
inductive Sent where
  /-- Missing, null or blank. -/
  | absent
  | number (value : ℚ)
  | notANumber

/-- The body of a `createRate` request. -/
structure RateRequest where
  vehicleClass : Option String
  sent : RateField → Sent

/-- The class a request names, trimmed. -/
def RateRequest.className (request : RateRequest) : String :=
  String.ofList (trim (request.vehicleClass.getD "").toList)

/-- Why a card is not saved. -/
inductive RateFailure where
  | classRequired
  | unknownClass (vehicleClass : String)
  | invalidField (field : RateField)
  | fieldOutOfRange (field : RateField) (value low high : ℚ)
  | cardUnusable (error : PricingError)
  | writeFailed

/-- The HTTP status and the code a refusal is sent with. -/
def RateFailure.response : RateFailure → Nat × String
  | classRequired => (400, "PRICING_CLASS_REQUIRED")
  | unknownClass _ => (400, "PRICING_UNKNOWN_CLASS")
  | invalidField _ => (400, "PRICING_INVALID_FIELD")
  | fieldOutOfRange .. => (400, "PRICING_FIELD_OUT_OF_RANGE")
  | cardUnusable _ => (400, "PRICING_CARD_UNUSABLE")
  | writeFailed => (500, "PRICING_RATE_WRITE_FAILED")

/-- What a field is to be set to, if to anything. -/
def checkField (field : RateField) : Sent → Except RateFailure (Option ℚ)
  -- What is not sent stays as it was.
  | .absent => .ok none
  | .notANumber => .error (.invalidField field)
  | .number value =>
    if value < 0 then .error (.invalidField field)
    else match field.bounds with
    | none => .ok (some value)
    | some (low, high) =>
      if value < low ∨ high < value then .error (.fieldOutOfRange field value low high)
      else .ok (some value)

/-- The card in force with what was sent in its place, or the first field that cannot be taken. -/
def RateRequest.next (request : RateRequest) (current : Rate) : Except RateFailure Rate :=
  editable.foldlM (fun next field => do
    let value ← checkField field (request.sent field)
    return value.elim next fun value => next.write value field) current

/-- The card an INSERT stores: a column it does not name gets its default. -/
def Rate.inserted (next : Rate) (vehicleClass : String) (id : Nat) : Rate :=
  { next.stored with
    id := id
    vehicleClass := vehicleClass
    currency := some ['R', 'W', 'F']
    currencyMinorUnits := some 0
    -- `return_leg_full_km` has none, and is left null.
    returnLegFullKm := none }

/-- The columns of a stored card are ones its row can hold. -/
theorem Rate.inserted_columns {next : Rate} {vehicleClass : String} {id : Nat}
    (held : (editable.all fun field => next.stored.holdsAt field) = true) (field : RateField) :
    (next.inserted vehicleClass id).holdsAt field = true := by
  -- Every column that can be edited was checked.
  have holds := List.all_eq_true.mp held field (mem_editable field)
  cases field <;> exact holds

/-- Without a far end there is no band to check. -/
theorem Rate.inserted_band {next : Rate} {vehicleClass : String} {id : Nat} (beyond full : ℚ)
    (_ : (next.inserted vehicleClass id).returnLegBeyondKm = some beyond)
    (none : (next.inserted vehicleClass id).returnLegFullKm = some full) : beyond < full := by
  -- No far end, so no two ends to compare.
  cases none

/-- The row an INSERT stores, in the market its country defaults to. -/
def Rate.row (next : Rate) (held : (editable.all fun field => next.stored.holdsAt field) = true)
    (vehicleClass : String) (now id : Nat) : RateRow where
  toRate := next.inserted vehicleClass id
  countryCode := "RW"
  effectiveFrom := now
  columns := Rate.inserted_columns held
  band := Rate.inserted_band

/-- `createRate`: the row it stores, and the table it leaves. -/
def createRate (market : String) (rates : RateTable) (now : Nat) (request : RateRequest) :
    Except RateFailure (RateRow × RateTable) := do
  let vehicleClass := request.className
  require (vehicleClass ≠ "") .classRequired
  let current ← demand
    ((listCurrentRates rates market now).find? fun row => row.vehicleClass = vehicleClass)
    (.unknownClass vehicleClass)
  let next ← request.next current.toRate
  -- A card that throws is caught before it is saved.
  let _ ← (quote next 500 (some 10) none).mapError .cardUnusable
  let _ ← (quote next 500 (some 120) none).mapError .cardUnusable
  if held : (editable.all fun field => next.stored.holdsAt field) = true then
    return (next.row held vehicleClass now rates.nextSerial,
      rates.insert (next.row held vehicleClass now) fun _ => rfl)
  else .error .writeFailed

/-- The card with exactly the submitted fields replaced. -/
def RateRequest.replaced (request : RateRequest) (current : Rate) : Rate :=
  editable.foldl (fun next field =>
    match request.sent field with
    | .number value => next.write value field
    | _ => next) current

/-- Every number sent is one its column can hold as it is. -/
def RateRequest.Fits (request : RateRequest) : Prop :=
  ∀ field value, request.sent field = .number value → field.type.holds value = true

/-- What is set to is the number that was sent. -/
def Sent.value : Sent → Option ℚ
  | number value => some value
  | _ => none

/-- A field that is taken is set to what was sent for it. -/
theorem checkField_ok {field : RateField} {sent : Sent} {value : Option ℚ}
    (taken : checkField field sent = .ok value) : value = sent.value := by
  cases sent with
  | absent => exact (Except.ok.inj taken).symm
  | notANumber => cases taken
  | number sent =>
    simp only [checkField] at taken
    -- A number is taken when it is in the range of its field, as it was sent.
    split at taken
    · cases taken
    · split at taken
      · exact (Except.ok.inj taken).symm
      · split at taken
        · cases taken
        · exact (Except.ok.inj taken).symm

/-- A request whose fields are all taken replaces exactly those it sends. -/
theorem next_ok {request : RateRequest} {current next : Rate}
    (taken : request.next current = .ok next) : next = request.replaced current := by
  unfold RateRequest.next at taken
  unfold RateRequest.replaced
  generalize editable = fields at taken ⊢
  -- Field by field, the loop that may refuse does what the one that cannot does.
  induction fields generalizing current with
  | nil => exact (pure_ok.mp taken).symm
  | cons field rest ih =>
    rw [List.foldlM_cons] at taken
    simp only [bind_ok, pure_ok] at taken
    obtain ⟨set, ⟨value, checked, rfl⟩, taken⟩ := taken
    rw [List.foldl_cons, ih taken]
    rw [checkField_ok checked]
    cases request.sent field <;> rfl

/-- What no editable column bears on is left alone by a replacement. -/
theorem replaced_keeps {α : Type} (part : Rate → α)
    (kept : ∀ rate value field, part (Rate.write rate value field) = part rate)
    (request : RateRequest) (current : Rate) : part (request.replaced current) = part current := by
  -- Field by field, a column is written or left.
  unfold RateRequest.replaced
  induction editable generalizing current with
  | nil => rfl
  | cons field rest ih =>
    rw [List.foldl_cons, ih]
    split
    · exact kept _ _ _
    · rfl

/-- Numbers that fit leave a card its columns can hold. -/
theorem replaced_holds {request : RateRequest} {current : Rate} (fits : request.Fits)
    (held : ∀ field, current.holdsAt field = true) (field : RateField) :
    (request.replaced current).holdsAt field = true := by
  unfold RateRequest.replaced
  induction editable generalizing current with
  | nil => exact held field
  | cons first rest ih =>
    rw [List.foldl_cons]
    refine ih fun other => ?_
    -- Each field that was sent is written in turn, and the others are left alone.
    split
    · rename_i value sent
      unfold Rate.holdsAt
      rw [Rate.column_write]
      by_cases same : other = first
      · subst same
        rw [if_pos rfl]
        exact fits _ value sent
      · rw [if_neg same]
        exact held other
    · exact held other

/-- The card under another number. -/
def Rate.numbered (rate : Rate) (id : Nat) : Rate := { rate with id := id }

/-- The card under another number, with the defaults in the columns an INSERT does not name. -/
def Rate.withDefaults (rate : Rate) (id : Nat) : Rate :=
  { rate with
    id := id, currency := some ['R', 'W', 'F'], currencyMinorUnits := some 0, returnLegFullKm := none }

/-- A card loses nothing to the defaults: it is in francs, and has no ramp that is worth anything. -/
structure Rate.Plain (rate : Rate) : Prop where
  currency : rate.quotedCurrency = ['R', 'W', 'F']
  minorUnits : rate.currencyMinorUnits.getD 0 = 0
  ramp : ∀ beyond full, rate.returnLegBeyondKm = some beyond → rate.returnLegFullKm = some full →
    beyond < full → 0 < full →
      rate.returnLegSharePct.getD 100 = 0 ∨ rate.fuelLitresPer100Km / 100 * rate.fuelPricePerLitre = 0

section
variable {rate : Rate}

/-- Where a card is plain, its empty leg costs what it would without a ramp. -/
theorem Rate.Plain.fuelReturn (plain : rate.Plain) (id : Nat) {distance : ℚ} (driven : 0 ≤ distance)
    (terrain : ℚ) : (rate.withDefaults id).fuelReturn distance terrain = rate.fuelReturn distance terrain := by
  -- The defaults are for the ramp alone.
  have empty : (rate.withDefaults id).returnsEmpty distance = rate.returnsEmpty distance := rfl
  have out : (rate.withDefaults id).fuelOut distance terrain = rate.fuelOut distance terrain := rfl
  simp only [Rate.fuelReturn, empty, out]
  split
  · rename_i returns
    cases from_ : rate.returnLegBeyondKm with
    | none => simp [Rate.rampedShare, Rate.withDefaults, from_]
    | some beyond =>
      have past : beyond < distance := by simpa [Rate.returnsEmpty, from_] using returns
      have switch : (rate.withDefaults id).rampedShare distance = rate.returnLegSharePct.getD 100 / 100 := by
        simp [Rate.rampedShare, Rate.withDefaults, from_]
      rw [switch]
      cases to_ : rate.returnLegFullKm with
      | none => simp [Rate.rampedShare, from_, to_]
      | some full =>
        simp only [Rate.rampedShare, from_, to_, Option.getD_some]
        split
        · rename_i wide
          have wide : beyond < full := sub_pos.mp wide
          by_cases positive : 0 < full
          · -- Nothing is charged for the leg, or nothing is burnt on it.
            rcases plain.ramp beyond full from_ to_ wide positive with share | fuel
            · simp [share]
            · rw [fuelOut_eq, fuel]
              simp
          · -- Every distance is past the far end.
            have reached : 1 ≤ (distance - beyond) / (full - beyond) := by
              rw [one_le_div (sub_pos.mpr wide)]
              linarith
            have whole : min 1 (max 0 ((distance - beyond) / (full - beyond))) = 1 :=
              min_eq_left (reached.trans (le_max_right _ _))
            rw [whole, mul_one]
        · rfl
  · rfl

/-- A card without minor units rounds as the defaults do. -/
theorem toMoney_withDefaults (minorUnits : rate.currencyMinorUnits.getD 0 = 0) (id : Nat) (value : ℚ) :
    (rate.withDefaults id).toMoney value = rate.toMoney value := by
  -- The default is no minor units either.
  simp [Rate.toMoney, Rate.withDefaults, minorUnits]

/-- A plain card breaks every job down as it would with the defaults. -/
theorem Rate.Plain.breakdown (plain : rate.Plain) (id : Nat) (weightKg : ℚ) (measured : Bool)
    {distance : ℚ} (driven : 0 ≤ distance) (terrain : ℚ) :
    (rate.withDefaults id).breakdown weightKg measured distance terrain =
      (rate.numbered id).breakdown weightKg measured distance terrain := by
  -- The empty leg is the one figure that reads the ramp, and everything else follows it.
  have back : (rate.withDefaults id).fuelReturn distance terrain =
      (rate.numbered id).fuelReturn distance terrain := plain.fuelReturn id driven terrain
  have money : ∀ value, (rate.withDefaults id).toMoney value = (rate.numbered id).toMoney value :=
    toMoney_withDefaults plain.minorUnits id
  have currency : (rate.withDefaults id).quotedCurrency = (rate.numbered id).quotedCurrency :=
    plain.currency.symm
  have subtotal : (rate.withDefaults id).subtotal distance weightKg terrain =
      (rate.numbered id).subtotal distance weightKg terrain := by
    simp only [Rate.subtotal, back]
    rfl
  have total : (rate.withDefaults id).total distance weightKg terrain =
      (rate.numbered id).total distance weightKg terrain := by
    simp only [Rate.total, subtotal]
    rfl
  have fee : (rate.withDefaults id).cappedFee distance weightKg terrain =
      (rate.numbered id).cappedFee distance weightKg terrain := by
    simp only [Rate.cappedFee, total]
    rfl
  simp only [Rate.breakdown, money, currency, back, subtotal, total, fee]
  rfl

/-- A plain card prices every job as it would with the defaults. -/
theorem Rate.Plain.quote_eq (plain : rate.Plain) (id : Nat) (weightKg : ℚ)
    (distanceKm terrainFactor : Option ℚ) :
    quote (rate.withDefaults id) weightKg distanceKm terrainFactor =
      quote (rate.numbered id) weightKg distanceKm terrainFactor := by
  rw [quote_eq_breakdown, quote_eq_breakdown]
  -- The guards read columns that are the same on both cards.
  refine if_congr Iff.rfl rfl ?_
  by_cases behind : distanceKm.getD 0 < 0
  · rw [if_pos behind, if_pos behind]
  · rw [if_neg behind, if_neg behind]
    by_cases backwards : rate.roadDistanceFactor.getD 1 ≤ 0
    · exact (if_pos backwards).trans (if_pos backwards).symm
    · refine (if_neg backwards).trans (Eq.trans ?_ (if_neg backwards).symm)
      refine if_congr Iff.rfl rfl (congrArg Except.ok ?_)
      exact plain.breakdown id weightKg _ (mul_nonneg (not_lt.mp behind) (not_le.mp backwards).le) _

/-- With a rate by the kilogram, some load costs any service worth more than an empty one. -/
theorem exists_service (weighs : 0 < rate.perKg) {distance service : ℚ}
    (above : rate.service distance 0 ≤ service) :
    ∃ weightKg, 0 ≤ weightKg ∧ rate.service distance weightKg = service := by
  -- The load that makes up the difference, at so much a kilogram.
  refine ⟨(service - rate.service distance 0) / rate.perKg, ?_, ?_⟩
  · exact div_nonneg (sub_nonneg.mpr above) weighs.le
  · have unfolded : ∀ weightKg, rate.service distance weightKg =
        rate.service distance 0 + weightKg * rate.perKg := by
      intro weightKg
      simp only [Rate.service]
      ring
    rw [unfolded, div_mul_cancel₀ _ weighs.ne']
    ring

/-- Two different amounts round differently once enough of the right amount is added to both. -/
theorem mathRound_separates {one other : ℚ} (differ : one ≠ other) (least : ℚ) :
    ∃ added, least ≤ added ∧ mathRound (one + added) ≠ mathRound (other + added) := by
  wlog less : one < other generalizing one other
  · obtain ⟨added, enough, apart⟩ := this differ.symm (lt_of_le_of_ne (not_lt.mp less) differ.symm)
    exact ⟨added, enough, apart.symm⟩
  -- The larger one is brought to a half, which rounds up; the smaller one stays below it.
  refine ⟨⌈least + other⌉ + 1 / 2 - other, ?_, ?_⟩
  · have above := Int.le_ceil (least + other)
    linarith
  · have up : other + (⌈least + other⌉ + 1 / 2 - other) + 1 / 2 = ((⌈least + other⌉ + 1 : ℤ) : ℚ) := by
      push_cast
      ring
    have down : one + (⌈least + other⌉ + 1 / 2 - other) + 1 / 2 < ((⌈least + other⌉ + 1 : ℤ) : ℚ) := by
      push_cast
      linarith
    unfold mathRound
    rw [up, Int.floor_intCast]
    exact fun same => absurd (Int.floor_lt.mpr down) (by rw [Int.cast_inj.mp same]; exact lt_irrefl _)

/-- Breakdowns agree where quotes do. -/
theorem breakdown_of_quote {id : Nat} (forwards : 0 < rate.roadDistanceFactor.getD 1)
    (same : ∀ weightKg distanceKm terrainFactor,
      quote (rate.withDefaults id) weightKg distanceKm terrainFactor =
        quote (rate.numbered id) weightKg distanceKm terrainFactor)
    {weightKg distance terrain : ℚ} (weighs : 0 ≤ weightKg) (driven : 0 ≤ distance)
    (uphill : 0 < terrain) :
    (rate.withDefaults id).breakdown weightKg true distance terrain =
      (rate.numbered id).breakdown weightKg true distance terrain := by
  -- A job that no guard refuses is quoted at its breakdown, on either card.
  have priced := same weightKg (some (distance / rate.roadDistanceFactor.getD 1)) (some terrain)
  have first := @quote_ok (rate.withDefaults id) _ _ _ weighs driven forwards uphill
  have second := @quote_ok (rate.numbered id) _ _ _ weighs driven forwards uphill
  exact Except.ok.inj (first.symm.trans (priced.trans second))

/-- A card that rounds every service to whole units has no minor units. -/
theorem minorUnits_of_service (weighs : 0 < rate.perKg)
    (same : ∀ weightKg, 0 ≤ weightKg →
      mathRound (rate.service 0 weightKg) = rate.toMoney (rate.service 0 weightKg)) :
    rate.currencyMinorUnits.getD 0 = 0 := by
  by_contra some_units
  have step : (1 : ℚ) < 10 ^ rate.currencyMinorUnits.getD 0 := one_lt_pow₀ (by norm_num) some_units
  -- A service of one minor unit over a whole number is kept by the one, and not by the other.
  have above : rate.service 0 0 ≤ ⌈rate.service 0 0⌉ + 1 / 10 ^ rate.currencyMinorUnits.getD 0 := by
    have up := Int.le_ceil (rate.service 0 0)
    have positive : 0 < 1 / (10 : ℚ) ^ rate.currencyMinorUnits.getD 0 := by positivity
    linarith
  -- Some load has just that service, since there is a rate by the kilogram.
  obtain ⟨weightKg, loaded, service⟩ := exists_service weighs above
  have rounded := same weightKg loaded
  rw [service] at rounded
  have kept : rate.toMoney (⌈rate.service 0 0⌉ + 1 / 10 ^ rate.currencyMinorUnits.getD 0) =
      ⌈rate.service 0 0⌉ + 1 / 10 ^ rate.currencyMinorUnits.getD 0 := by
    have whole : ((⌈rate.service 0 0⌉ : ℚ) + 1 / 10 ^ rate.currencyMinorUnits.getD 0) *
        10 ^ rate.currencyMinorUnits.getD 0 =
          ((⌈rate.service 0 0⌉ * 10 ^ rate.currencyMinorUnits.getD 0 + 1 : ℤ) : ℚ) := by
      push_cast
      field_simp
    simp only [Rate.toMoney]
    rw [whole, mathRound_intCast, div_eq_iff (by positivity), ← whole]
  rw [kept] at rounded
  unfold mathRound at rounded
  generalize ⌊(⌈rate.service 0 0⌉ : ℚ) + 1 / 10 ^ rate.currencyMinorUnits.getD 0 + 1 / 2⌋ = whole at rounded
  have positive : 0 < 1 / (10 : ℚ) ^ rate.currencyMinorUnits.getD 0 := by positivity
  have below : 1 / (10 : ℚ) ^ rate.currencyMinorUnits.getD 0 < 1 := (div_lt_one (by positivity)).mpr step
  -- Rounded to a whole number it would lie strictly between two that follow each other.
  have more : ⌈rate.service 0 0⌉ < whole := by
    have : (⌈rate.service 0 0⌉ : ℚ) < whole := by linarith
    exact_mod_cast this
  have less : whole < ⌈rate.service 0 0⌉ + 1 := by
    have : (whole : ℚ) < ⌈rate.service 0 0⌉ + 1 := by linarith
    exact_mod_cast this
  omega

/-- Some distance up a ramp, the empty leg costs something else than it would without one. -/
theorem exists_ramped {id : Nat} {beyond full : ℚ} (from_ : rate.returnLegBeyondKm = some beyond)
    (to_ : rate.returnLegFullKm = some full) (wide : beyond < full) (positive : 0 < full)
    (share : rate.returnLegSharePct.getD 100 ≠ 0)
    (fuel : rate.fuelLitresPer100Km / 100 * rate.fuelPricePerLitre ≠ 0) :
    ∃ distance, 0 ≤ distance ∧
      (rate.withDefaults id).fuelReturn distance 1 ≠ rate.fuelReturn distance 1 := by
  have start : max beyond 0 < full := max_lt wide positive
  -- Halfway between the two anchors, or between the door and the far one.
  obtain ⟨distance, after, before⟩ := exists_between start
  have past : beyond < distance := (le_max_left _ _).trans_lt after
  have driven : 0 < distance := (le_max_right _ _).trans_lt after
  refine ⟨distance, driven.le, ?_⟩
  have out : rate.fuelOut distance 1 ≠ 0 := by
    rw [fuelOut_eq, mul_one, cityKm_add_openRoadKm]
    exact mul_ne_zero fuel driven.ne'
  have band : 0 < full - beyond := sub_pos.mpr wide
  have up : 0 < (distance - beyond) / (full - beyond) := div_pos (sub_pos.mpr past) band
  have short : (distance - beyond) / (full - beyond) < 1 := (div_lt_one band).mpr (by linarith)
  have switch : (rate.withDefaults id).fuelReturn distance 1 =
      rate.fuelOut distance 1 * (rate.returnLegSharePct.getD 100 / 100) := by
    have starts : (rate.withDefaults id).returnLegBeyondKm = some beyond := from_
    have ends : (rate.withDefaults id).returnLegFullKm = none := rfl
    simp only [Rate.fuelReturn, Rate.returnsEmpty, Rate.rampedShare, starts, ends, Option.getD_none,
      sub_self, lt_irrefl, if_false, decide_eq_true past, if_true]
    rfl
  have ramp : rate.fuelReturn distance 1 = rate.fuelOut distance 1 *
      (rate.returnLegSharePct.getD 100 / 100 * ((distance - beyond) / (full - beyond))) := by
    simp only [Rate.fuelReturn, Rate.returnsEmpty, Rate.rampedShare, from_, to_, Option.getD_some,
      decide_eq_true past, if_pos band, if_true, max_eq_right up.le, min_eq_right short.le]
  rw [switch, ramp]
  intro same
  have whole := mul_left_cancel₀ out same
  exact short.ne (mul_left_cancel₀ (div_ne_zero share (by norm_num)) (whole.symm.trans (mul_one _).symm))

/-- Quotes that the defaults leave alone are a plain card's, where there is a rate by the kilogram. -/
theorem plain_of_quotes {id : Nat} (forwards : 0 < rate.roadDistanceFactor.getD 1)
    (weighs : 0 < rate.perKg)
    (same : ∀ weightKg distanceKm terrainFactor,
      quote (rate.withDefaults id) weightKg distanceKm terrainFactor =
        quote (rate.numbered id) weightKg distanceKm terrainFactor) : rate.Plain := by
  have breakdowns := fun {weightKg distance : ℚ} (loaded : 0 ≤ weightKg) (driven : 0 ≤ distance) =>
    breakdown_of_quote forwards same loaded driven one_pos
  have minorUnits : rate.currencyMinorUnits.getD 0 = 0 := minorUnits_of_service weighs
    fun weightKg loaded => by
      have services := congrArg Quote.serviceAmount (breakdowns loaded le_rfl)
      simp only [Rate.breakdown] at services
      have whole : (rate.withDefaults id).toMoney ((rate.withDefaults id).service 0 weightKg) =
          mathRound (rate.service 0 weightKg) := by
        simp [Rate.toMoney, Rate.withDefaults]
        rfl
      exact whole.symm.trans services
  -- So money is rounded to whole units.
  have money : ∀ value, rate.toMoney value = mathRound value := by
    intro value
    simp [Rate.toMoney, minorUnits]
  refine ⟨(congrArg Quote.currency (breakdowns le_rfl le_rfl)).symm, minorUnits, ?_⟩
  -- A ramp that charges something would show in some total.
  intro beyond full from_ to_ wide positive
  by_contra charged
  push Not at charged
  obtain ⟨share, fuel⟩ := charged
  obtain ⟨distance, driven, differ⟩ := @exists_ramped rate id beyond full from_ to_ wide positive share fuel
  -- A load heavy enough to pass the minimum fare brings the difference over the rounding.
  obtain ⟨added, enough, apart⟩ := mathRound_separates
    (fun same : rate.fuelOut distance 1 + (rate.withDefaults id).fuelReturn distance 1 =
      rate.fuelOut distance 1 + rate.fuelReturn distance 1 => differ (add_left_cancel same))
    (max (rate.service distance 0) (max
      (rate.minimumFare - (rate.fuelOut distance 1 + (rate.withDefaults id).fuelReturn distance 1))
      (rate.minimumFare - (rate.fuelOut distance 1 + rate.fuelReturn distance 1))))
  simp only [max_le_iff] at enough
  obtain ⟨weightKg, loaded, service⟩ := exists_service weighs enough.1
  have totals := congrArg Quote.totalAmount (breakdowns loaded driven)
  have ramped : rate.total distance weightKg 1 =
      rate.fuelOut distance 1 + rate.fuelReturn distance 1 + added := by
    rw [Rate.total, Rate.subtotal, service]
    exact max_eq_left (by linarith [enough.2.2])
  have switched : (rate.withDefaults id).total distance weightKg 1 =
      rate.fuelOut distance 1 + (rate.withDefaults id).fuelReturn distance 1 + added := by
    have serves : (rate.withDefaults id).service distance weightKg = added := service
    have out : (rate.withDefaults id).fuelOut distance 1 = rate.fuelOut distance 1 := rfl
    have least : (rate.withDefaults id).minimumFare = rate.minimumFare := rfl
    rw [Rate.total, Rate.subtotal, serves, out, least]
    exact max_eq_left (by linarith [enough.2.1])
  have rounded : mathRound ((rate.withDefaults id).total distance weightKg 1) =
      mathRound (rate.total distance weightKg 1) := by
    rw [← money, ← money]
    exact (toMoney_withDefaults minorUnits id _).symm.trans totals
  rw [switched, ramped] at rounded
  exact apart rounded

end

variable {market : String} {rates later : RateTable} {now : Nat} {request : RateRequest}
  {current inserted : RateRow}

/-- What an accepted request stored, and on which card it was based. -/
theorem createRate_ok (accepted : createRate market rates now request = .ok (inserted, later))
    (inForce : currentRateFor rates request.className market now = some current) :
    0 < (request.replaced current.toRate).roadDistanceFactor.getD 1 ∧
      inserted.toRate = (request.replaced current.toRate).inserted request.className rates.nextSerial ∧
      inserted.countryCode = "RW" ∧ inserted.effectiveFrom = now ∧
      later.rows = rates.rows ++ [inserted] := by
  -- Each check passed is a fact, and the row is what they let through.
  unfold createRate at accepted
  simp only [bind_ok, require_ok, demand_ok, mapError_ok, exists_const, find?_listCurrentRates, inForce,
    Option.some.injEq, exists_eq_left'] at accepted
  obtain ⟨-, next, taken, quoted, priced, -, -, stored⟩ := accepted
  obtain rfl := next_ok taken
  split at stored
  · obtain ⟨rfl, rfl⟩ := Prod.mk.inj (pure_ok.mp stored)
    exact ⟨forwards_of_quote priced, rfl, rfl, rfl, rfl⟩
  · cases stored

/-- A current card is of the class and the market it is looked up for, and one of the rows. -/
theorem current_spec {vehicleClass : String}
    (inForce : currentRateFor rates vehicleClass market now = some current) :
    current ∈ rates.rows ∧ current.vehicleClass = vehicleClass ∧ current.countryCode = market := by
  -- The filters of the query, read off the row it picked.
  obtain ⟨within, own⟩ := List.mem_filter.mp (mem_of_firstBy inForce)
  obtain ⟨member, live⟩ := List.mem_filter.mp within
  simp only [Bool.and_eq_true, decide_eq_true_eq] at own live
  exact ⟨member, own, live.2⟩

/-- Superseding a card changes what was sent and nothing else, and puts the new card in force. -/
structure SupersedesExactly (rates later : RateTable) (now : Nat) (request : RateRequest)
    (current inserted : RateRow) : Prop where
  /-- Up to the number of the card, every job is priced as on the old card with the fields replaced. -/
  prices : ∀ weightKg distanceKm terrainFactor,
    quote inserted.toRate weightKg distanceKm terrainFactor =
      quote ((request.replaced current.toRate).numbered inserted.id) weightKg distanceKm terrainFactor
  /-- It is the current card, until one that was already scheduled comes into force. -/
  inForce : ∀ time, now ≤ time →
    (∀ row ∈ rates.rows, row.effectiveFrom ≤ time → row.effectiveFrom ≤ now) →
      currentRateFor later current.vehicleClass current.countryCode time = some inserted
  /-- So is it the card listed for its class. -/
  listed : ∀ time, now ≤ time →
    (∀ row ∈ rates.rows, row.effectiveFrom ≤ time → row.effectiveFrom ≤ now) →
      (listCurrentRates later current.countryCode time).find?
        (fun row => row.vehicleClass = current.vehicleClass) = some inserted

/-- With numbers that fit, what is stored is the replaced card with the defaults. -/
theorem inserted_eq (accepted : createRate market rates now request = .ok (inserted, later))
    (inForce : currentRateFor rates request.className market now = some current) (fits : request.Fits) :
    inserted.toRate = (request.replaced current.toRate).withDefaults inserted.id := by
  -- The defaults fill what the request leaves blank, as the INSERT does.
  obtain ⟨-, stored, -⟩ := createRate_ok accepted inForce
  have kept : (request.replaced current.toRate).vehicleClass = request.className :=
    (replaced_keeps Rate.vehicleClass (fun _ _ field => by cases field <;> rfl) request _).trans
      (current_spec inForce).2.1
  have own : inserted.id = rates.nextSerial := congrArg Rate.id stored
  rw [own, stored]
  unfold Rate.inserted Rate.withDefaults
  rw [Rate.stored_eq (replaced_holds fits current.columns), kept]

/-- In the market the defaults are for, the inserted row is the current one. -/
theorem inserted_current (accepted : createRate market rates now request = .ok (inserted, later))
    (inForce : currentRateFor rates request.className market now = some current) (home : market = "RW")
    {time : Nat} (passed : now ≤ time)
    (unscheduled : ∀ row ∈ rates.rows, row.effectiveFrom ≤ time → row.effectiveFrom ≤ now) :
    currentRateFor later current.vehicleClass current.countryCode time = some inserted := by
  obtain ⟨-, stored, country, starts, rows⟩ := createRate_ok accepted inForce
  obtain ⟨-, named, own⟩ := current_spec inForce
  have vehicleClass : inserted.vehicleClass = request.className := congrArg Rate.vehicleClass stored
  have serial : inserted.id = rates.nextSerial := congrArg Rate.id stored
  refine firstBy_eq_some ?_ fun other listed newer => ?_
  · refine List.mem_filter.mpr ⟨List.mem_filter.mpr ⟨by rw [rows]; simp, ?_⟩, ?_⟩
    · simp [starts, passed, country, own, home]
    · simp [vehicleClass, named]
  · obtain ⟨within, -⟩ := List.mem_filter.mp listed
    obtain ⟨member, live⟩ := List.mem_filter.mp within
    rw [rows] at member
    rcases List.mem_append.mp member with old | new
    · -- An older row came into force by then, and has a lower number.
      simp only [Bool.and_eq_true, decide_eq_true_eq] at live
      have before := unscheduled other old live.1
      have below := rates.lt_nextSerial old
      simp only [RateRow.newer, starts, serial] at newer
      omega
    · exact List.mem_singleton.mp new

/-- A card is superseded exactly when it is the home market's and has nothing the defaults would change. -/
theorem supersedesExactly_iff (inForce : currentRateFor rates request.className market now = some current)
    (accepted : createRate market rates now request = .ok (inserted, later)) (fits : request.Fits) :
    (market = "RW" ∧ (request.replaced current.toRate).Plain →
      SupersedesExactly rates later now request current inserted) ∧
    (0 < (request.replaced current.toRate).perKg →
      SupersedesExactly rates later now request current inserted →
        market = "RW" ∧ (request.replaced current.toRate).Plain) := by
  obtain ⟨forwards, -, country, -⟩ := createRate_ok accepted inForce
  have stored := inserted_eq accepted inForce fits
  constructor
  · -- In the home market the new row is found wherever the old one was, and it quotes what was asked for.
    rintro ⟨home, plain⟩
    refine ⟨fun weightKg distanceKm terrainFactor => ?_, fun time passed unscheduled =>
      inserted_current accepted inForce home passed unscheduled, fun time passed unscheduled => ?_⟩
    · rw [stored]
      exact plain.quote_eq inserted.id weightKg distanceKm terrainFactor
    · rw [find?_listCurrentRates]
      exact inserted_current accepted inForce home passed unscheduled
  · intro weighs exact_
    have listed := mem_of_firstBy (exact_.inForce now le_rfl fun _ _ live => live)
    refine ⟨?_, @plain_of_quotes _ inserted.id forwards weighs
      fun weightKg distanceKm terrainFactor => ?_⟩
    · -- The row is in the market it was looked up in.
      have live := (List.mem_filter.mp (List.mem_filter.mp listed).1).2
      simp only [Bool.and_eq_true, decide_eq_true_eq] at live
      rw [← (current_spec inForce).2.2, ← live.2, country]
    · have same := exact_.prices weightKg distanceKm terrainFactor
      rw [stored] at same
      exact same

/-- The columns of the van's card hold what it says. -/
theorem lightVan_columns (full : Option ℚ) (field : RateField) : (lightVan full).holdsAt field = true := by
  -- The ramp is the one column in which the two cards differ.
  have flat : (lightVan none).holdsAt field = true := by cases field <;> decide +kernel
  cases field <;> exact flat

/-- The card as it has stood since empty legs are ramped in. -/
def rampedRow : RateRow where
  toRate := lightVan (some 75)
  countryCode := "RW"
  effectiveFrom := 0
  columns := lightVan_columns _
  band := by
    rintro beyond full ⟨⟩ ⟨⟩
    norm_num

/-- A card without a ramp. -/
def flatRow : RateRow where
  toRate := lightVan none
  countryCode := "RW"
  effectiveFrom := 0
  columns := lightVan_columns _
  band := by
    rintro beyond full ⟨⟩ ⟨⟩

/-- A table with one card. -/
def oneCard (row : RateRow) : RateTable := ⟨[row], List.nodup_singleton _⟩

/-- The form as it was opened, with no field changed. -/
def unchanged : RateRequest where
  vehicleClass := some "Light Van"
  sent := fun _ => .absent

/-- Saved again with no field changed, a ramped card prices a job some six thousand francs dearer. -/
theorem unchanged_card_dearer : ∃ inserted later,
    createRate "RW" (oneCard rampedRow) 5 unchanged = .ok (inserted, later) ∧
      ¬ SupersedesExactly (oneCard rampedRow) later 5 unchanged rampedRow inserted := by
  -- The stored card quotes one total, and the card that was asked for another.
  have stored : ((createRate "RW" (oneCard rampedRow) 5 unchanged).toOption.map fun result =>
      (result.1.id, (quote result.1.toRate 500 (some 20) none).toOption.map Quote.totalAmount)) =
        some (2, some 46680) := by decide +kernel
  have before : (quote ((unchanged.replaced rampedRow.toRate).numbered 2) 500 (some 20) none).toOption.map
      Quote.totalAmount = some 40794 := by decide +kernel
  cases saved : createRate "RW" (oneCard rampedRow) 5 unchanged with
  | error failure =>
    rw [saved] at stored
    cases stored
  | ok result =>
    rw [saved] at stored
    obtain ⟨own, total⟩ := Prod.mk.inj (Option.some.inj stored)
    refine ⟨result.1, result.2, rfl, fun exact_ => ?_⟩
    rw [exact_.prices, own, before] at total
    exact absurd (Option.some.inj total) (by norm_num)

/-- A card without a ramp is superseded as it should be. -/
theorem flat_card_superseded : ∃ inserted later,
    createRate "RW" (oneCard flatRow) 5 unchanged = .ok (inserted, later) ∧
      SupersedesExactly (oneCard flatRow) later 5 unchanged flatRow inserted := by
  -- The save goes through, and what is left is read off the theorem.
  cases saved : createRate "RW" (oneCard flatRow) 5 unchanged with
  | error failure =>
    have stored : (createRate "RW" (oneCard flatRow) 5 unchanged).toOption.isSome = true := by decide +kernel
    rw [saved] at stored
    cases stored
  | ok result =>
    refine ⟨result.1, result.2, rfl, (supersedesExactly_iff ?_ saved ?_).1 ⟨rfl, by decide +kernel, rfl, ?_⟩⟩
    · exact firstBy_eq_some (List.mem_singleton_self _) fun other listed _ => List.mem_singleton.mp listed
    · intro field value sent
      cases sent
    · intro beyond full _ to_
      cases to_

end Freight
