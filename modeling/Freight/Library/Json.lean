import Freight.Library.Number

/-! Trees of values, and the places in them. -/

namespace Freight

/-- A value, an array of values, or an object of values under keys. -/
inductive Json where
  | undefined
  | null
  | boolean (value : Bool)
  | number (value : Number)
  | string (text : List Char)
  | array (items : List Json)
  | object (entries : List (List Char × Json))

namespace Json

/-- One step down a tree. -/
inductive Step where
  | item (index : Nat)
  | field (key : List Char)
  deriving DecidableEq

/-- What stands one step down. -/
inductive Child : Json → Step → Json → Prop where
  | item {items : List Json} {index : Nat} {child : Json} (at_ : items[index]? = some child) :
    Child (.array items) (.item index) child
  | field {entries : List (List Char × Json)} {key : List Char} {child : Json} (at_ : (key, child) ∈ entries) :
    Child (.object entries) (.field key) child

/-- What stands at the end of a path. -/
def Has : Json → List Step → Json → Prop
  | node, [], value => node = value
  | node, step :: path, value => ∃ child, Child node step child ∧ child.Has path value

end Json

end Freight
