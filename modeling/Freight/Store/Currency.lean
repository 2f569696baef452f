import Mathlib.Data.List.Dedup

/-! Which currency a set of amounts is in, and which one a payment may be settled in. -/

namespace Freight

/-- Text that is folded or trimmed, as its characters. -/
abbrev Text := List Char

/-- The characters `String.prototype.trim` strips. -/
def isBlankChar (char : Char) : Bool :=
  -- White space and line terminators, as the language standard lists them.
  [0x9, 0xA, 0xB, 0xC, 0xD, 0x20, 0xA0, 0x1680, 0x2028, 0x2029, 0x202F, 0x205F, 0x3000,
    0xFEFF].contains char.toNat || (0x2000 ≤ char.toNat && char.toNat ≤ 0x200A)

/-- `trim`: the text without the blanks at either end. -/
def trim (text : Text) : Text :=
  ((text.dropWhile isBlankChar).reverse.dropWhile isBlankChar).reverse

/-- How many UTF-16 units a character takes. -/
def unitsOf (char : Char) : Nat := if char.toNat < 0x10000 then 1 else 2

/-- `slice(0, units)` of a text: half of a character comes out as the replacement character. -/
def takeUnits : Nat → Text → Text
  | _, [] => []
  | units, char :: rest =>
    if unitsOf char ≤ units then char :: takeUnits (units - unitsOf char) rest
    -- What is left of a pair is written to the database as U+FFFD.
    else if 0 < units then [Char.ofNat 0xFFFD]
    else []

/-- `toUpperCase`, over a table giving each character's upper-case form. -/
def toUpperCase (upper : Char → Text) (text : Text) : Text :=
  -- One character may become several, and its neighbours never matter.
  text.flatMap upper

section
variable (upper : Char → Text)

/-- A recorded currency with its case folded and its blanks dropped, blank when there is none. -/
def foldCurrency (currency : Option Text) : Text :=
  toUpperCase upper (trim (currency.getD []))

/-- The distinct recorded currencies of some rows, in first-seen order. -/
def distinctCurrencies (rows : List (Option Text)) : List Text :=
  -- A set keeps the first of equal entries, so duplicates are removed from the far end.
  (((rows.map (foldCurrency upper)).filter (· ≠ [])).reverse.dedup).reverse

/-- The single currency of some rows, when there is exactly one. -/
def soleCurrency (rows : List (Option Text)) : Option Text :=
  match distinctCurrencies upper rows with
  | [only] => some only
  | _ => none

/-- Why a payment cannot be settled in any currency. -/
inductive CurrencyRefusal where
  /-- `CURRENCY_MISSING`: the order names no currency. -/
  | missing
  /-- `CURRENCY_MISMATCH`: the configured override disagrees with the order. -/
  | mismatch (forced wanted : Text)
  deriving DecidableEq

/-- What currency to settle a payment in, or a refusal. -/
def resolveSettlementCurrency (orderCurrency : Option Text) (override : Text) :
    Except CurrencyRefusal Text :=
  let wanted := foldCurrency upper orderCurrency
  let forced := foldCurrency upper (some override)
  if wanted = [] then .error .missing
  -- A disagreement is refused rather than resolved in either direction.
  else if forced ≠ [] ∧ forced ≠ wanted then .error (.mismatch forced wanted)
  else .ok (if forced ≠ [] then forced else wanted)

end

/-- A listed currency is the folded form of some row's own currency, and never blank. -/
theorem mem_distinctCurrencies {upper : Char → Text} {rows : List (Option Text)} {code : Text} :
    code ∈ distinctCurrencies upper rows ↔
      code ≠ [] ∧ ∃ row ∈ rows, foldCurrency upper row = code := by
  -- Reversing and removing duplicates keep exactly the members.
  simp only [distinctCurrencies, List.mem_reverse, List.mem_dedup, List.mem_filter, List.mem_map,
    decide_eq_true_eq]
  exact and_comm

/-- The sole currency is every row's currency, save for the rows that record none. -/
theorem soleCurrency_spec {upper : Char → Text} {rows : List (Option Text)} {code : Text}
    (sole : soleCurrency upper rows = some code) {row : Option Text} (member : row ∈ rows) :
    foldCurrency upper row = [] ∨ foldCurrency upper row = code := by
  -- A row with a currency is listed, and the list has one entry.
  unfold soleCurrency at sole
  split at sole
  · rename_i only listed
    cases sole
    by_cases blank : foldCurrency upper row = []
    · exact .inl blank
    · have named := mem_distinctCurrencies.mpr ⟨blank, row, member, rfl⟩
      rw [listed] at named
      exact .inr (List.mem_singleton.mp named)
  · cases sole

/-- A settled currency is the order's own, folded: an override may only confirm it. -/
theorem resolveSettlementCurrency_ok {upper : Char → Text} {currency : Option Text}
    {override settled : Text}
    (resolved : resolveSettlementCurrency upper currency override = .ok settled) :
    settled = foldCurrency upper currency ∧ settled ≠ [] := by
  -- The override is either blank or already equal to the folded currency.
  simp only [resolveSettlementCurrency] at resolved
  split at resolved
  · cases resolved
  · rename_i present
    split at resolved
    · cases resolved
    · rename_i agrees
      cases resolved
      split
      · rename_i forced
        have same := not_not.mp fun differs => agrees ⟨forced, differs⟩
        exact ⟨same, forced⟩
      · exact ⟨rfl, present⟩

example : distinctCurrencies (fun char => [char.toUpper])
    [some ['r', 'w', 'f'], none, some [' ', 'R', 'W', 'F'], some []] = [['R', 'W', 'F']] := by
  decide

end Freight
