import Mathlib
import Freight.Library.Json
import Freight.Report.Phones

/-! Scrubbing what goes into an error report: by key, and by the shape of its texts. -/

namespace Freight.Report

open Json (Step)

/-- Keys that are always secret, on their own. -/
def exactKeys : List Text :=
  ["pin", "otp", "token", "secret", "password", "passwd", "authorization", "auth", "cookie", "session", "apikey",
    "dsn", "jwt"].map String.toList

/-- What is secret anywhere in a key. -/
def credentials : List Text :=
  ["password", "passwd", "secret", "token", "apikey", "otpcode", "pincode", "accesscode", "verificationcode",
    "trackingcode"].map String.toList

/-- What is personal at the end of a key. -/
def personal : List Text :=
  ["phone", "phonenumber", "msisdn", "address", "latitude", "longitude"].map String.toList

/-- Coordinates, abbreviated. -/
def coordinates : List Text := ["lat", "lng", "lon"].map String.toList

-- `toLowerCase`, over the whole of a text.
variable (lower : Text → Text)

/-- A key in lower case, without its separators. -/
def normalisedKey (key : Text) : Text :=
  (lower key).filter fun char => !(char = '_' || char = '-' || isBlankChar char)

/-- A value under this key never goes into a report. -/
def isSensitiveKey (key : Text) : Bool :=
  let name := normalisedKey lower key
  exactKeys.contains name || credentials.any (fun part => decide (part <:+: name)) ||
    personal.any (fun ending => decide (ending <:+ name)) ||
    coordinates.any fun ending => decide (ending <:+ name) &&
      ((name.take (name.length - ending.length)).getLast?.all fun char => char.isLower || char.isDigit)

/-- `scrubTree`, with so many levels left before the walk stops. -/
def scrubLevels : Nat → Json → Json
  | 0, node => node
  | levels + 1, node =>
    match node with
    | .string value => .string (redactString value)
    | .array items => .array (items.map (scrubLevels levels))
    | .object entries =>
      -- Assigning to this key makes no entry: it sets what the copy inherits from.
      .object ((entries.filter fun entry => entry.1 ≠ "__proto__".toList).map fun entry =>
        (entry.1, if isSensitiveKey lower entry.1 then .string "[redacted]".toList else scrubLevels levels entry.2))
    | node => node

/-- The deepest level the walk scrubs. -/
def maxDepth : Nat := 8

/-- `scrubTree`. -/
def scrubTree (node : Json) (depth : Nat := 0) : Json := scrubLevels lower (maxDepth + 1 - depth) node

/-- No number is glued to a digit in any of a tree's texts. -/
def Unglued (node : Json) : Prop := ∀ path text, node.Has path (.string text) → ¬ Glued text

/-- A step the walk goes down and copies. -/
def Ordinary (step : Step) : Prop :=
  ∀ key, step = .field key → isSensitiveKey lower key = false ∧ key ≠ "__proto__".toList

/-- A value with no sensitive key and no number in it. -/
structure Bare (value : Json) : Prop where
  texts : ∀ path text, value.Has path (.string text) → ¬ Carries Char.isDigit text
  steps : ∀ path step inner, value.Has (path ++ [step]) inner → Ordinary lower step

/-- What is left of a tree carries nothing personal, and everything else is as it was. -/
structure Scrubbed (tree : Json) : Prop where
  secrets : ∀ path key value, (scrubTree lower tree).Has (path ++ [.field key]) value →
    isSensitiveKey lower key = true → value = .string "[redacted]".toList
  texts : ∀ path text, (scrubTree lower tree).Has path (.string text) → ¬ Carries isWordChar text
  keys : ∀ path key value, (scrubTree lower tree).Has (path ++ [.field key]) value → ¬ Carries isWordChar key
  same : ∀ path value, tree.Has path value → (∀ step ∈ path, Ordinary lower step) → Bare lower value →
    (scrubTree lower tree).Has path value
  again : scrubTree lower (scrubTree lower tree) = scrubTree lower tree

variable {lower}

section Levels

variable {levels : Nat} {node child value : Json} {step : Step} {path : List Step}

/-- The texts of a child are texts of its tree. -/
theorem Unglued.below (unglued : Unglued node) (down : node.Child step child) : Unglued child :=
  fun path text has => unglued (step :: path) text ⟨child, down, has⟩

/-- The texts of an array are those of its items. -/
theorem unglued_array {items : List Json} : Unglued (.array items) ↔ ∀ item ∈ items, Unglued item := by
  -- A path into the array goes through one of its items.
  constructor
  · intro unglued item member
    obtain ⟨index, at_⟩ := List.mem_iff_getElem?.mp member
    exact unglued.below (.item at_)
  · rintro each (- | ⟨step, path⟩) text has
    · cases has
    · obtain ⟨child, ⟨at_⟩ | -, has⟩ := has
      exact each child (List.mem_of_getElem? at_) path text has

/-- The texts of an object are those of its values. -/
theorem unglued_object {entries : List (Text × Json)} :
    Unglued (.object entries) ↔ ∀ entry ∈ entries, Unglued entry.2 := by
  -- A path into the object goes through one of its values.
  constructor
  · exact fun unglued entry member => unglued.below (.field member)
  · rintro each (- | ⟨step, path⟩) text has
    · cases has
    · obtain ⟨child, - | ⟨at_⟩, has⟩ := has
      exact each _ at_ path text has

/-- The one text of a text is itself. -/
theorem unglued_string {value : Text} : Unglued (.string value) ↔ ¬ Glued value := by
  -- No path leads on from a text.
  constructor
  · exact fun unglued => unglued [] value rfl
  · rintro free (- | ⟨step, path⟩) text has
    · cases has
      exact free
    · obtain ⟨child, down, -⟩ := has
      cases down

/-- What is bare is bare below. -/
theorem Bare.below (bare : Bare lower node) (down : node.Child step child) :
    Bare lower child ∧ Ordinary lower step :=
  ⟨⟨fun path text has => bare.texts (step :: path) text ⟨child, down, has⟩,
    fun path other inner has => bare.steps (step :: path) other inner ⟨child, down, has⟩⟩,
    bare.steps [] step child ⟨child, down, rfl⟩⟩

/-- A copied step leads to the scrubbed child, or to what stands for a value that is withheld. -/
theorem child_scrubLevels (down : (scrubLevels lower (levels + 1) node).Child step child) :
    (∃ key, step = .field key ∧ isSensitiveKey lower key = true ∧ child = .string "[redacted]".toList) ∨
      ∃ before, node.Child step before ∧ child = scrubLevels lower levels before ∧
        ∀ key, step = .field key → isSensitiveKey lower key = false := by
  cases node with
  | undefined | null | boolean | number | string => cases down
  | array items =>
    obtain ⟨there⟩ | - := down
    rw [List.getElem?_map] at there
    obtain ⟨before, at_, rfl⟩ := Option.map_eq_some_iff.mp there
    exact .inr ⟨before, .item at_, rfl, fun key other => by cases other⟩
  | object entries =>
    obtain - | ⟨there⟩ := down
    obtain ⟨⟨key, before⟩, kept, same⟩ := List.mem_map.mp there
    cases same
    -- A sensitive key has its value withheld, and any other leads to the scrubbed child.
    cases sensitive : isSensitiveKey lower key with
    | true => exact .inl ⟨key, rfl, sensitive, if_pos rfl⟩
    | false =>
      refine .inr ⟨before, .field (List.mem_filter.mp kept).1, if_neg Bool.false_ne_true, ?_⟩
      rintro other same
      cases same
      exact sensitive

/-- An ordinary step leads to the scrubbed child. -/
theorem scrubLevels_child (down : node.Child step child) (ordinary : Ordinary lower step) :
    (scrubLevels lower (levels + 1) node).Child step (scrubLevels lower levels child) := by
  -- Its item is scrubbed in place; its field is kept, and its name is too.
  cases down with
  | item at_ => exact .item (by rw [List.getElem?_map, at_]; rfl)
  | @field entries key child at_ =>
    obtain ⟨plain, kept⟩ := ordinary key rfl
    refine .field (List.mem_map.mpr ⟨(key, child), List.mem_filter.mpr ⟨at_, decide_eq_true kept⟩, ?_⟩)
    rw [plain]
    rfl

/-- What is withheld carries no number. -/
theorem redacted_bare : ¬ Carries isWordChar "[redacted]".toList :=
  not_carries_of_unmatched ⟨rfl, rfl, rfl, rfl, rfl, rfl, rfl, rfl, rfl, rfl, trivial⟩

/-- A text of the scrubbed tree that is not too deep is a redacted one. -/
theorem scrubLevels_texts (unglued : Unglued node) (reached : path.length < levels) {text : Text}
    (has : (scrubLevels lower levels node).Has path (.string text)) : ¬ Carries isWordChar text := by
  -- Down the path, one level a step.
  induction path generalizing levels node with
  | nil =>
    cases levels with
    | zero => cases reached
    | succ levels =>
      cases node with
      | string value =>
        cases has
        exact redactString_bare (unglued [] value rfl)
      | undefined | null | boolean | number | array | object => cases has
  | cons step path ih =>
    cases levels with
    | zero => cases reached
    | succ levels =>
      obtain ⟨child, down, has⟩ := has
      obtain ⟨key, -, -, rfl⟩ | ⟨before, from_, rfl, -⟩ := child_scrubLevels down
      · -- What is withheld is a text of its own.
        cases path with
        | nil =>
          cases has
          exact redacted_bare
        | cons step path =>
          obtain ⟨_, below, -⟩ := has
          cases below
      · exact ih (unglued.below from_) (Nat.lt_of_succ_lt_succ reached) has

/-- What stands under a sensitive key that is not too deep is withheld. -/
theorem scrubLevels_secrets (reached : path.length < levels) {key : Text}
    (has : (scrubLevels lower levels node).Has (path ++ [.field key]) value)
    (sensitive : isSensitiveKey lower key = true) : value = .string "[redacted]".toList := by
  -- Down the path, one level a step.
  induction path generalizing levels node with
  | nil =>
    cases levels with
    | zero => cases reached
    | succ levels =>
      obtain ⟨child, down, rfl⟩ := has
      obtain ⟨-, -, -, rfl⟩ | ⟨-, -, -, plain⟩ := child_scrubLevels down
      · rfl
      · rw [plain key rfl] at sensitive
        cases sensitive
  | cons step path ih =>
    cases levels with
    | zero => cases reached
    | succ levels =>
      obtain ⟨child, down, has⟩ := has
      obtain ⟨-, -, -, rfl⟩ | ⟨before, -, rfl, -⟩ := child_scrubLevels down
      · -- Nothing stands below a text.
        cases path <;> (obtain ⟨_, below, -⟩ := has; cases below)
      · exact ih (Nat.lt_of_succ_lt_succ reached) has

/-- What is bare is copied as it is. -/
theorem scrubLevels_same (bare : Bare lower node) (unglued : Unglued node) :
    scrubLevels lower levels node = node := by
  induction levels generalizing node with
  | zero => rfl
  | succ levels ih =>
    cases node with
    | undefined | null | boolean | number => rfl
    | string value => exact congrArg Json.string (redactString_same (bare.texts [] value rfl) (unglued [] value rfl))
    | array items =>
      refine congrArg Json.array ((List.map_congr_left fun child member => ?_).trans (List.map_id items))
      obtain ⟨index, at_⟩ := List.mem_iff_getElem?.mp member
      exact ih (bare.below (.item at_)).1 (unglued.below (.item at_))
    | object entries =>
      have ordinary : ∀ entry ∈ entries, Ordinary lower (.field entry.1) := fun entry member =>
        (bare.below (.field member)).2
      -- No entry goes missing, for none has the key that is left out.
      have kept : entries.filter (fun entry => entry.1 ≠ "__proto__".toList) = entries :=
        List.filter_eq_self.mpr fun entry member => decide_eq_true (ordinary entry member entry.1 rfl).2
      refine congrArg Json.object ?_
      rw [kept]
      refine (List.map_congr_left fun entry member => ?_).trans (List.map_id entries)
      rw [(ordinary entry member entry.1 rfl).1, ih (bare.below (.field member)).1 (unglued.below (.field member))]
      rfl

/-- What is bare, and reached by ordinary steps, is where it was. -/
theorem scrubLevels_kept (unglued : Unglued node) (has : node.Has path value)
    (ordinary : ∀ step ∈ path, Ordinary lower step) (bare : Bare lower value) :
    (scrubLevels lower levels node).Has path value := by
  induction path generalizing levels node with
  | nil =>
    obtain rfl : node = value := has
    exact scrubLevels_same bare unglued
  | cons step path ih =>
    -- Below the deepest level everything is copied as it is.
    cases levels with
    | zero => exact has
    | succ levels =>
      obtain ⟨child, down, has⟩ := has
      exact ⟨_, scrubLevels_child down (ordinary step List.mem_cons_self), ih (unglued.below down) has
        fun other member => ordinary other (List.mem_cons_of_mem _ member)⟩

/-- Scrubbing what is scrubbed changes nothing. -/
theorem scrubLevels_again (unglued : Unglued node) :
    scrubLevels lower levels (scrubLevels lower levels node) = scrubLevels lower levels node := by
  induction levels generalizing node with
  | zero => rfl
  | succ levels ih =>
    cases node with
    | undefined | null | boolean | number => rfl
    | string value => exact congrArg Json.string (redactString_again (unglued [] value rfl))
    | array items =>
      refine congrArg Json.array ?_
      rw [List.map_map]
      refine List.map_congr_left fun child member => ?_
      obtain ⟨index, at_⟩ := List.mem_iff_getElem?.mp member
      exact ih (unglued.below (.item at_))
    | object entries =>
      refine congrArg Json.object ?_
      rw [List.filter_map, List.map_map, List.filter_filter]
      simp only [Function.comp_def, Bool.and_self]
      refine List.map_congr_left fun entry member => ?_
      have again := ih (unglued.below (.field (List.mem_filter.mp member).1))
      -- What stands for a withheld value is itself withheld again.
      cases sensitive : isSensitiveKey lower entry.1 with
      | true => rfl
      | false => exact congrArg (Prod.mk entry.1) again

end Levels

/--
Down to the deepest level that is walked, what stands under a sensitive key is withheld; and in a tree whose
texts have no number glued to a digit, no text down to there carries a number that no word joins, what has
neither a sensitive key nor a number in it is as it was, and scrubbing again changes nothing.
-/
theorem scrubbed_to_depth (lower : Text → Text) (tree : Json) :
    (∀ path key value, (scrubTree lower tree).Has (path ++ [.field key]) value → path.length ≤ maxDepth →
      isSensitiveKey lower key = true → value = .string "[redacted]".toList) ∧
    (Unglued tree →
      (∀ path text, (scrubTree lower tree).Has path (.string text) → path.length ≤ maxDepth →
        ¬ Carries isWordChar text) ∧
      (∀ path value, tree.Has path value → (∀ step ∈ path, Ordinary lower step) → Bare lower value →
        (scrubTree lower tree).Has path value) ∧
      scrubTree lower (scrubTree lower tree) = scrubTree lower tree) :=
  -- Level by level down the tree, each of the four.
  ⟨fun _ _ _ has reached => scrubLevels_secrets (Nat.lt_succ_of_le reached) has,
    fun unglued => ⟨fun _ _ has reached => scrubLevels_texts unglued (Nat.lt_succ_of_le reached) has,
      fun _ _ has => scrubLevels_kept unglued has, scrubLevels_again unglued⟩⟩

/-- A report whose message and whose context both carry a driver's number. -/
def aReport : Json := .object [("message".toList, .string "no answer from 0788123456".toList),
  ("context".toList, .array [.object [("phone".toList, .string "0788123456".toList)]])]

/-- Neither gets out, and a second pass finds nothing more. -/
theorem scrubbed_to_depth_aReport :
    (∀ path text, (scrubTree (fun key => key.map Char.toLower) aReport).Has path (.string text) →
        path.length ≤ maxDepth → ¬ Carries isWordChar text) ∧
      scrubTree (fun key => key.map Char.toLower) (scrubTree (fun key => key.map Char.toLower) aReport) =
        scrubTree (fun key => key.map Char.toLower) aReport := by
  -- Neither text has the country code in it, so nothing can be glued to one.
  have unglued : Unglued aReport := by
    simp only [aReport, unglued_object, unglued_array, unglued_string, List.forall_mem_cons, List.not_mem_nil,
      false_implies, implies_true, and_true]
    exact ⟨fun glued : Glued _ => absurd glued.code (by decide),
      fun glued : Glued _ => absurd glued.code (by decide)⟩
  obtain ⟨-, open_⟩ := scrubbed_to_depth (fun key => key.map Char.toLower) aReport
  exact ⟨(open_ unglued).1, (open_ unglued).2.2⟩

/-- An object whose key is a driver's number. -/
def keyedByPhone : Json := .object [("0788123456".toList, .null)]

/-- A phone number in an object inside so many arrays. -/
def nested : Nat → Json
  | 0 => .object [("phone".toList, .string "0788123456".toList)]
  | depth + 1 => .array [nested depth]

/-- A key is copied as it is, and below the deepest level nothing is scrubbed. -/
theorem number_left_in_report : ¬ Scrubbed (fun key => key.map Char.toLower) keyedByPhone ∧
    ¬ Scrubbed (fun key => key.map Char.toLower) (nested 9) := by
  constructor
  · intro scrubbed
    have ordinary : Ordinary (fun key => key.map Char.toLower) (.field "0788123456".toList) := by
      rintro key same
      obtain rfl : "0788123456".toList = key := Step.field.inj same
      exact ⟨by decide +kernel, by decide +kernel⟩
    -- The number is a key, and keys are copied.
    have copied : keyedByPhone.Child (.field "0788123456".toList) .null := .field List.mem_cons_self
    refine scrubbed.keys [] "0788123456".toList _ ⟨_, scrubLevels_child copied ordinary, rfl⟩ ?_
    have number : MobileNumber "0788123456".toList :=
      ⟨"0".toList, by decide, "88123456".toList, ⟨rfl, List.all_eq_true.mp rfl⟩, rfl⟩
    refine ⟨[], "0788123456".toList, [], rfl, number, ?_, ?_⟩
    · rintro char ⟨⟩
    · rintro char ⟨⟩
  · intro scrubbed
    -- Nine levels down the value should be withheld, and is there as it was.
    have withheld := scrubbed.secrets (List.replicate 9 (.item 0)) "phone".toList (.string "0788123456".toList)
      ⟨_, .item rfl, _, .item rfl, _, .item rfl, _, .item rfl, _, .item rfl, _, .item rfl, _, .item rfl, _,
        .item rfl, _, .item rfl, _, .field List.mem_cons_self, rfl⟩ (by decide +kernel)
    injection withheld with same
    exact absurd same (by decide)

end Freight.Report
