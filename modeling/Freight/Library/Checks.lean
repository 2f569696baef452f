/-! Computations that may refuse, one check after another. -/

namespace Freight

variable {ε α β : Type}

/-- A check that has to pass. -/
def require (met : Bool) (failure : ε) : Except ε Unit := if met then .ok () else .error failure

/-- A value that has to be there. -/
def demand (value : Option α) (failure : ε) : Except ε α :=
  match value with
  | some value => .ok value
  | none => .error failure

/-- Something that must not be there: what is found is the failure. -/
def refuse (problem : Option ε) : Except ε Unit :=
  match problem with
  | some failure => .error failure
  | none => .ok ()

/-- A check is passed when its condition holds. -/
@[simp] theorem require_ok {met : Bool} {failure : ε} {passed : Unit} :
    require met failure = .ok passed ↔ met = true := by
  -- By whether it holds.
  cases met <;> simp [require]

/-- A demand is met by the value that is there. -/
@[simp] theorem demand_ok {value : Option α} {failure : ε} {found : α} :
    demand value failure = .ok found ↔ value = some found := by
  -- By whether there is a value.
  cases value <;> simp [demand]

/-- Nothing is refused when there is no problem. -/
@[simp] theorem refuse_ok {problem : Option ε} {passed : Unit} :
    refuse problem = .ok passed ↔ problem = none := by
  -- By whether there is a problem.
  cases problem <;> simp [refuse]

/-- Two steps succeed together when the first does and the second does on its result. -/
@[simp] theorem bind_ok {first : Except ε α} {second : α → Except ε β} {result : β} :
    (first >>= second) = .ok result ↔ ∃ value, first = .ok value ∧ second value = .ok result := by
  -- By what the first step came to.
  cases first <;> simp [Bind.bind, Except.bind]

/-- Returning succeeds with what is returned. -/
@[simp] theorem pure_ok {value result : α} :
    (pure value : Except ε α) = .ok result ↔ value = result := by
  -- It is the constructor itself.
  simp [pure, Except.pure]

/-- A check fails with its own failure. -/
theorem require_error {met : Bool} {failure failed : ε} :
    require met failure = .error failed ↔ met = false ∧ failure = failed := by
  -- By whether it holds.
  cases met <;> simp [require]

/-- A demand fails with its own failure. -/
theorem demand_error {value : Option α} {failure failed : ε} :
    demand value failure = .error failed ↔ value = none ∧ failure = failed := by
  -- By whether there is a value.
  cases value <;> simp [demand]

/-- What is found fails the refusal. -/
theorem refuse_error {problem : Option ε} {failed : ε} :
    refuse problem = .error failed ↔ problem = some failed := by
  -- By whether there is a problem.
  cases problem <;> simp [refuse]

/-- Two steps fail together when the first does, or the second does on its result. -/
theorem bind_error {first : Except ε α} {second : α → Except ε β} {failed : ε} :
    (first >>= second) = .error failed ↔
      first = .error failed ∨ ∃ value, first = .ok value ∧ second value = .error failed := by
  -- By what the first step came to.
  cases first <;> simp [Bind.bind, Except.bind]

/-- Renaming failures changes no success. -/
@[simp] theorem mapError_ok {ε' : Type} {rename : ε → ε'} {result : Except ε α} {value : α} :
    result.mapError rename = .ok value ↔ result = .ok value := by
  -- A failure stays a failure, whatever it is called.
  constructor
  · intro done
    cases result with
    | ok found => cases done; rfl
    | error failure => cases done
  · rintro rfl
    rfl

/-- How a computation ends, whatever it ends with. -/
def outcome (result : Except ε α) : Except ε Unit :=
  match result with
  | .ok _ => .ok ()
  | .error failure => .error failure

/-- Two steps end as the second does on the result of the first. -/
theorem outcome_bind {first : Except ε α} {second : α → Except ε β} :
    outcome (first >>= second) = first >>= fun value => outcome (second value) := by
  -- By what the first step came to.
  cases first <;> rfl

/-- With nothing left to do but return, a check ends as it does. -/
theorem bind_outcome_pure {check : Except ε Unit} {value : β} :
    (check >>= fun _ => outcome (pure value)) = check := by
  -- By what the check came to.
  cases check <;> rfl

end Freight
