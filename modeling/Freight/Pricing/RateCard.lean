import Freight.Library.Checks
import Freight.Library.OrderBy
import Freight.Library.Table
import Freight.Pricing.Quote

/-! The rate cards of a market: rows of `pricing_rates`, and how a card in force is superseded. -/

namespace Freight

/-- `EDITABLE`: the columns an operator may set. -/
inductive RateField where
  | baseFare
  | perKm
  | perKmLong
  | perKg
  | minimumFare
  | fuelLitresPer100Km
  | fuelPricePerLitre
  | roadDistanceFactor
  | taperAfterKm
  | returnLegBeyondKm
  | returnLegSharePct
  | terrainFuelFactor
  | platformCommissionPct
  | platformMinimumFee
  | detentionFreeMinutes
  | detentionPerHour
  deriving DecidableEq

/-- `EDITABLE`, in its order. -/
def editable : List RateField :=
  [.baseFare, .perKm, .perKmLong, .perKg, .minimumFare, .fuelLitresPer100Km, .fuelPricePerLitre,
    .roadDistanceFactor, .taperAfterKm, .returnLegBeyondKm, .returnLegSharePct, .terrainFuelFactor,
    .platformCommissionPct, .platformMinimumFee, .detentionFreeMinutes, .detentionPerHour]

/-- The type of a numeric column. -/
inductive ColumnType where
  /-- `NUMERIC(precision, scale)`. -/
  | numeric (precision scale : Nat)
  /-- `INTEGER`. -/
  | integer

namespace RateField

/-- The column's type. -/
def type : RateField → ColumnType
  -- Money, to the cent.
  | baseFare | perKm | perKmLong | minimumFare | platformMinimumFee | detentionPerHour => .numeric 12 2
  | perKg => .numeric 12 4
  | fuelPricePerLitre => .numeric 10 2
  | fuelLitresPer100Km | taperAfterKm | returnLegBeyondKm => .numeric 8 2
  | platformCommissionPct | returnLegSharePct => .numeric 5 2
  | roadDistanceFactor | terrainFuelFactor => .numeric 5 3
  -- Whole minutes.
  | detentionFreeMinutes => .integer

/-- The column has no `NOT NULL`. -/
def nullable (field : RateField) : Bool := field = perKmLong || field = detentionPerHour

/-- `BOUNDS`: what a sanity net lets through. -/
def bounds : RateField → Option (ℚ × ℚ)
  | platformCommissionPct => some (0, 60)
  | roadDistanceFactor => some (1, 3)
  | terrainFuelFactor => some (1, 2)
  | returnLegSharePct => some (0, 100)
  | fuelLitresPer100Km => some (1, 100)
  | fuelPricePerLitre => some (100, 20000)
  | detentionFreeMinutes => some (0, 480)
  -- The others may be anything that is not negative.
  | _ => none

end RateField

/-- Every column is on the list. -/
theorem mem_editable (field : RateField) : field ∈ editable := by
  -- There are sixteen of them.
  cases field <;> decide

/-- The nearest whole number, and of two equally near the one away from zero. -/
def roundAway (value : ℚ) : ℚ := if 0 ≤ value then mathRound value else -mathRound (-value)

namespace ColumnType

/-- What the column stores for a value. -/
def store : ColumnType → ℚ → ℚ
  | numeric _ scale, value => roundAway (value * 10 ^ scale) / 10 ^ scale
  | integer, value => value

/-- The column can hold the value as it is. -/
def holds : ColumnType → ℚ → Bool
  | numeric precision scale, value =>
    roundAway (value * 10 ^ scale) / 10 ^ scale = value && |value| < 10 ^ (precision - scale)
  | integer, value => value.den = 1 && -2 ^ 31 ≤ value && value < 2 ^ 31

/-- A value the column can hold is stored as it is. -/
theorem store_eq {type : ColumnType} {value : ℚ} (held : type.holds value = true) :
    type.store value = value := by
  -- A numeric column rounds to a scale that the value is on already; an integer column is not rounded.
  cases type with
  | numeric precision scale =>
    simp only [holds, Bool.and_eq_true, decide_eq_true_eq] at held
    exact held.1
  | integer => rfl

end ColumnType

namespace Rate

variable (rate : Rate)

/-- What a card has in a column. -/
def column : RateField → Option ℚ
  | .baseFare => some rate.baseFare
  | .perKm => some rate.perKm
  | .perKmLong => rate.perKmLong
  | .perKg => some rate.perKg
  | .minimumFare => some rate.minimumFare
  | .fuelLitresPer100Km => some rate.fuelLitresPer100Km
  | .fuelPricePerLitre => some rate.fuelPricePerLitre
  | .roadDistanceFactor => rate.roadDistanceFactor
  | .taperAfterKm => rate.taperAfterKm
  | .returnLegBeyondKm => rate.returnLegBeyondKm
  | .returnLegSharePct => rate.returnLegSharePct
  | .terrainFuelFactor => rate.terrainFuelFactor
  | .platformCommissionPct => some rate.platformCommissionPct
  | .platformMinimumFee => some rate.platformMinimumFee
  | .detentionFreeMinutes => rate.detentionFreeMinutes
  | .detentionPerHour => rate.detentionPerHour

/-- `next[field] = value`. -/
def write (value : ℚ) : RateField → Rate
  | .baseFare => { rate with baseFare := value }
  | .perKm => { rate with perKm := value }
  -- A column that may be null holds a value from here on.
  | .perKmLong => { rate with perKmLong := some value }
  | .perKg => { rate with perKg := value }
  | .minimumFare => { rate with minimumFare := value }
  | .fuelLitresPer100Km => { rate with fuelLitresPer100Km := value }
  | .fuelPricePerLitre => { rate with fuelPricePerLitre := value }
  | .roadDistanceFactor => { rate with roadDistanceFactor := some value }
  | .taperAfterKm => { rate with taperAfterKm := some value }
  | .returnLegBeyondKm => { rate with returnLegBeyondKm := some value }
  | .returnLegSharePct => { rate with returnLegSharePct := some value }
  | .terrainFuelFactor => { rate with terrainFuelFactor := some value }
  | .platformCommissionPct => { rate with platformCommissionPct := value }
  | .platformMinimumFee => { rate with platformMinimumFee := value }
  | .detentionFreeMinutes => { rate with detentionFreeMinutes := some value }
  | .detentionPerHour => { rate with detentionPerHour := some value }

/-- What was written to a column is what is in it, and the other columns are left alone. -/
theorem column_write (value : ℚ) (field other : RateField) :
    (rate.write value field).column other = if other = field then some value else rate.column other := by
  -- Each column against each.
  cases field <;> cases other <;> rfl

/-- Writing back what is there changes nothing. -/
theorem write_column {value : ℚ} {field : RateField} (there : rate.column field = some value) :
    rate.write value field = rate := by
  -- Field by field.
  cases rate
  cases field <;> cases there <;> rfl

/-- The column of a card is one its type can hold, and null only where it may be. -/
def holdsAt (field : RateField) : Bool :=
  match rate.column field with
  | none => field.nullable
  | some value => field.type.holds value

/-- The card as its columns store it. -/
def stored : Rate :=
  editable.foldl (fun rate field =>
    match rate.column field with
    | none => rate
    | some value => rate.write (field.type.store value) field) rate

/-- A card every column can hold is stored as it is. -/
theorem stored_eq {rate : Rate} (held : ∀ field, rate.holdsAt field = true) : rate.stored = rate := by
  unfold stored
  -- Column by column, what is stored is what was there.
  induction editable with
  | nil => rfl
  | cons field rest ih =>
    rw [List.foldl_cons]
    have same : (match rate.column field with
        | none => rate
        | some value => rate.write (field.type.store value) field) = rate := by
      have fits := held field
      unfold holdsAt at fits
      split
      · rfl
      · rename_i value there
        rw [there] at fits
        rw [ColumnType.store_eq fits]
        exact rate.write_column there
    rw [same]
    exact ih

end Rate

/-- A row of `pricing_rates`: a card, the market it is for and when it comes into force. -/
structure RateRow extends Rate where
  countryCode : String
  effectiveFrom : Nat
  /-- `NOT NULL`, and the types of the columns. -/
  columns : ∀ field, toRate.holdsAt field = true
  /-- `pricing_rates_return_leg_band_check`. -/
  band : ∀ beyond full, returnLegBeyondKm = some beyond → returnLegFullKm = some full → beyond < full

/-- The rows of `pricing_rates`. -/
abbrev RateTable := Table RateRow fun row => row.id

/-- `ORDER BY effective_from DESC, id DESC`. -/
def RateRow.newer (one other : RateRow) : Prop :=
  other.effectiveFrom < one.effectiveFrom ∨
    other.effectiveFrom = one.effectiveFrom ∧ other.id ≤ one.id

instance : DecidableRel RateRow.newer := fun one other =>
  inferInstanceAs (Decidable (other.effectiveFrom < one.effectiveFrom ∨ _))

instance : Std.Total RateRow.newer where
  total one other := by
    simp only [RateRow.newer]
    omega

instance : IsTrans RateRow RateRow.newer where
  trans one other third := by
    simp only [RateRow.newer]
    omega

/-- The cards of a market that have come into force. -/
def cardsInForce (rates : RateTable) (countryCode : String) (now : Nat) : List RateRow :=
  rates.rows.filter fun row => row.effectiveFrom ≤ now && row.countryCode = countryCode

/-- `currentRateFor`: the newest card of a class. -/
def currentRateFor (rates : RateTable) (vehicleClass countryCode : String) (now : Nat) : Option RateRow :=
  firstBy RateRow.newer ((cardsInForce rates countryCode now).filter fun row => row.vehicleClass = vehicleClass)

/-- `listCurrentRates`: the newest card of every class. -/
def listCurrentRates (rates : RateTable) (countryCode : String) (now : Nat) : List RateRow :=
  distinctOn (fun row : RateRow => row.vehicleClass) RateRow.newer (cardsInForce rates countryCode now)

/-- The card listed for a class is the class's current one. -/
theorem find?_listCurrentRates (rates : RateTable) (vehicleClass countryCode : String) (now : Nat) :
    (listCurrentRates rates countryCode now).find? (fun row => row.vehicleClass = vehicleClass) =
      currentRateFor rates vehicleClass countryCode now :=
  find?_distinctOn (fun row : RateRow => row.vehicleClass) _ vehicleClass

end Freight
