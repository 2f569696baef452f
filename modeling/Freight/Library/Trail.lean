import Mathlib.Data.List.Basic

/-! Trails: records of moves that lead from one place to another without a gap. -/

namespace Freight

variable {E S : Type*} {source target : E → S}

/-- Each move starts where the one before it ended, the first at one place and the last at another. -/
def Trail (source target : E → S) : S → List E → S → Prop
  -- Without any move the two places are one.
  | start, [], finish => start = finish
  | start, move :: rest, finish => source move = start ∧ Trail source target (target move) rest finish

/-- A trail goes on exactly where it was left. -/
theorem trail_append {start finish : S} {first second : List E} :
    Trail source target start (first ++ second) finish ↔
      ∃ between, Trail source target start first between ∧
        Trail source target between second finish := by
  -- The first list is walked move by move, and the second is left for the end.
  induction first generalizing start with
  | nil => simp [Trail]
  | cons move rest ih => simp [Trail, ih, and_assoc]

/-- The moves and the place they start from decide where they lead. -/
theorem Trail.unique {start one other : S} {moves : List E}
    (first : Trail source target start moves one) (second : Trail source target start moves other) :
    one = other := by
  -- Both trails are in the same place after every move.
  induction moves generalizing start with
  | nil => exact first.symm.trans second
  | cons move rest ih => exact ih first.2 second.2

end Freight
