import Mathlib.Algebra.Order.Field.Rat

/-! Numbers that may be infinite, or not numbers at all: exact where they are finite. -/

namespace Freight

/-- A number of a language that computes on where there is no value. -/
inductive Number where
  | finite (value : ℚ)
  | infinity
  | negInfinity
  | nan
  deriving DecidableEq

namespace Number

/-- `-x`. -/
def neg : Number → Number
  | finite value => finite (-value)
  | infinity => negInfinity
  | negInfinity => infinity
  | nan => nan

/-- `x + y`: infinities of both signs do not add up to anything. -/
def add : Number → Number → Number
  | finite one, finite other => finite (one + other)
  | nan, _ | _, nan | infinity, negInfinity | negInfinity, infinity => nan
  | infinity, _ | _, infinity => infinity
  | negInfinity, _ | _, negInfinity => negInfinity

/-- `x - y`. -/
def sub (one other : Number) : Number := one.add other.neg

/-- An infinity of a number's sign, and nothing for none. -/
def signed : ℚ → Number
  | value => if 0 < value then infinity else if value < 0 then negInfinity else nan

/-- `x * y`: an infinity times nothing is not a number. -/
def mul : Number → Number → Number
  | finite one, finite other => finite (one * other)
  | nan, _ | _, nan => nan
  | infinity, finite value | finite value, infinity => signed value
  | negInfinity, finite value | finite value, negInfinity => signed (-value)
  | infinity, infinity | negInfinity, negInfinity => infinity
  | infinity, negInfinity | negInfinity, infinity => negInfinity

/-- `x < y`: what is not a number is not compared. -/
def less : Number → Number → Bool
  | finite one, finite other => one < other
  | nan, _ | _, nan => false
  | negInfinity, negInfinity | infinity, _ => false
  | negInfinity, _ => true
  | finite _, infinity => true
  | finite _, negInfinity => false

/-- `Math.min(x, y)`. -/
def min (one other : Number) : Number :=
  if one = nan ∨ other = nan then nan else if other.less one then other else one

/-- `Math.max(x, y)`. -/
def max (one other : Number) : Number :=
  if one = nan ∨ other = nan then nan else if one.less other then other else one

section
variable (one other : ℚ)

end

end Number

end Freight
