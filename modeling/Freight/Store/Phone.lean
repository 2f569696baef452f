import Freight.Store.Currency

/-! Which numbers can be sent a mobile-money prompt, and how the provider wants them written. -/

namespace Freight

/-- The network a mobile number belongs to, where that is certain. -/
inductive Network where
  | mtn
  | other
  | unknown
  deriving DecidableEq

section
variable (normalizePhone : String → Option String)

/-- The bare number the provider wants, or nothing when the number is not usable. -/
def toMsisdn (phone : String) : Option String :=
  -- Only a leading plus is removed from the normalised form.
  (normalizePhone phone).map fun normalised =>
    match normalised.toList with
    | '+' :: digits => String.ofList digits
    | digits => String.ofList digits

/-- Which network a Rwandan mobile number belongs to. -/
def mobileNetwork (phone : String) : Network :=
  match normalizePhone phone with
  | none => .unknown
  | some normalised =>
    match normalised.toList with
    | '+' :: '2' :: '5' :: '0' :: first :: second :: _ =>
      if first.isDigit && second.isDigit then
        -- Prefixes are asserted only where they are certain: 78 and 79 are MTN's.
        if first = '7' ∧ (second = '8' ∨ second = '9') then .mtn else .other
      else .unknown
    | _ => .unknown

/-- Whether a number can be sent a prompt at all. -/
def canReceiveMomoPrompt (phone : String) : Bool :=
  mobileNetwork normalizePhone phone = .mtn

end

end Freight
