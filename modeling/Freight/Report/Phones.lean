import Freight.Store.Currency

/-! Mobile numbers in a text of an error report, and what is put in their place. -/

namespace Freight.Report

/-- The characters `\w` stands for. -/
def isWordChar (char : Char) : Bool := char.isAlphanum || char = '_'

/-- No word goes on here. -/
def wordEnds (text : Text) : Bool := text.head?.all fun char => !isWordChar char

/-- `7[0-9]{8}\b` at the start of a text: what follows it. -/
def subscriber : Text → Option Text
  | '7' :: rest =>
    if (rest.take 8).length = 8 ∧ (rest.take 8).all Char.isDigit ∧ wordEnds (rest.drop 8) then some (rest.drop 8)
    else none
  | _ => none

/-- `(\+?250|\b0)7[0-9]{8}\b` at one place of a text, behind a word or not: what follows it. -/
def phoneShape (inWord : Bool) : Text → Option Text
  | '+' :: '2' :: '5' :: '0' :: rest => subscriber rest
  | '2' :: '5' :: '0' :: rest => subscriber rest
  -- Only this alternative asks where its number starts.
  | '0' :: rest => if inWord then none else subscriber rest
  | _ => none

/-- The eight digits at the end of a mobile number. -/
structure LineDigits (digits : Text) : Prop where
  eight : digits.length = 8
  each : ∀ digit ∈ digits, digit.isDigit = true

/-- Digits of the line, and a place where the word they end ends. -/
theorem subscriber_eq_some {text after : Text} : subscriber text = some after ↔
    ∃ digits, LineDigits digits ∧ text = '7' :: digits ++ after ∧ wordEnds after = true := by
  constructor
  · intro found
    unfold subscriber at found
    split at found
    · rename_i rest
      split at found
      · -- The next eight characters are the digits of the line, and what is left follows it.
        rename_i all
        cases found
        refine ⟨rest.take 8, ⟨all.1, List.all_eq_true.mp all.2.1⟩, ?_, all.2.2⟩
        rw [List.cons_append, List.take_append_drop]
      · cases found
    · cases found
  · rintro ⟨digits, ⟨eight, each⟩, rfl, ends⟩
    have taken : (digits ++ after).take 8 = digits := by rw [← eight, List.take_left]
    have dropped : (digits ++ after).drop 8 = after := by rw [← eight, List.drop_left]
    simp only [subscriber, List.cons_append, taken, dropped]
    exact if_pos ⟨eight, List.all_eq_true.mpr each, ends⟩

/-- The ways a number is begun that are looked for at a place, behind a word or not. -/
def codes (inWord : Bool) : List Text :=
  ["+250".toList, "250".toList] ++ if inWord then [] else ["0".toList]

/-- What is looked for: a code, the line, and the end of the word. -/
theorem phoneShape_eq_some {inWord : Bool} {text after : Text} : phoneShape inWord text = some after ↔
    ∃ code ∈ codes inWord, ∃ digits, LineDigits digits ∧ text = code ++ '7' :: digits ++ after ∧
      wordEnds after = true := by
  constructor
  · intro found
    unfold phoneShape at found
    -- Each of the three codes is tried in turn, the zero only outside a word.
    split at found
    · obtain ⟨digits, line, rfl, ends⟩ := subscriber_eq_some.mp found
      exact ⟨"+250".toList, by simp [codes], digits, line, rfl, ends⟩
    · obtain ⟨digits, line, rfl, ends⟩ := subscriber_eq_some.mp found
      exact ⟨"250".toList, by simp [codes], digits, line, rfl, ends⟩
    · split at found
      · cases found
      · rename_i outside
        obtain ⟨digits, line, rfl, ends⟩ := subscriber_eq_some.mp found
        exact ⟨"0".toList, by simp [codes, outside], digits, line, rfl, ends⟩
    · cases found
  · rintro ⟨code, listed, digits, line, rfl, ends⟩
    -- Given the code, what is left is the line and what follows it.
    have found := subscriber_eq_some.mpr ⟨digits, line, rfl, ends⟩
    rcases List.mem_append.mp listed with listed | listed
    · rcases List.mem_cons.mp listed with rfl | listed
      · exact found
      · obtain rfl := List.mem_singleton.mp listed
        exact found
    · cases inWord with
      | true => cases listed
      | false =>
        obtain rfl := List.mem_singleton.mp listed
        exact found

/-- What follows a number is shorter than what it starts. -/
theorem phoneShape_shorter {inWord : Bool} {text after : Text} (found : phoneShape inWord text = some after) :
    after.length < text.length := by
  -- A number has a code and digits, and what follows is the rest.
  obtain ⟨code, -, digits, -, rfl, -⟩ := phoneShape_eq_some.mp found
  simp only [List.length_append, List.length_cons]
  omega

/-- `replace`, from one place of a text on. -/
def redactFrom (inWord : Bool) (text : Text) : Text :=
  match text with
  | [] => []
  | char :: rest =>
    match _found : phoneShape inWord (char :: rest) with
    -- The number's last digit is part of a word.
    | some after => "[phone]".toList ++ redactFrom true after
    | none => char :: redactFrom (isWordChar char) rest
termination_by text.length
decreasing_by
  · exact phoneShape_shorter _found
  · exact Nat.lt_succ_self _

/-- `redactString`. -/
def redactString (value : Text) : Text := redactFrom false value

/-- A Rwandan mobile number, in one of its forms. -/
def MobileNumber (number : Text) : Prop :=
  ∃ code ∈ codes false, ∃ digits, LineDigits digits ∧ number = code ++ '7' :: digits

/-- A text carries a mobile number as a whole: nothing that joins it stands on either side. -/
def Carries (joins : Char → Bool) (text : Text) : Prop :=
  ∃ before number after, text = before ++ number ++ after ∧ MobileNumber number ∧
    (∀ char ∈ before.getLast?, joins char = false) ∧ ∀ char ∈ after.head?, joins char = false

/-- A number written with its country code and no plus follows directly on a digit. -/
def Glued (text : Text) : Prop :=
  ∃ before digit digits after, text = before ++ digit :: ("250".toList ++ '7' :: digits) ++ after ∧
    digit.isDigit = true ∧ LineDigits digits ∧ wordEnds after = true

/-- A number written with its country code has the code in it. -/
theorem Glued.code {text : Text} (glued : Glued text) : "250".toList <:+: text := by
  -- The code stands behind the digit it is glued to.
  obtain ⟨before, digit, digits, after, rfl, -⟩ := glued
  exact ⟨before ++ [digit], '7' :: digits ++ after, by simp⟩

/-- At no place of a text is there what is looked for. -/
def Unmatched : Bool → Text → Prop
  | _, [] => True
  | inWord, char :: rest => phoneShape inWord (char :: rest) = none ∧ Unmatched (isWordChar char) rest

/-- A digit is part of a word. -/
theorem isWordChar_digit {char : Char} (digit : char.isDigit = true) : isWordChar char = true := by
  -- Letters, digits and the underscore are.
  simp [isWordChar, Char.isAlphanum, digit]

/-- Whether a place is behind a word. -/
def behind (inWord : Bool) (before : Text) : Bool := (before.getLast?.map isWordChar).getD inWord

/-- A place behind a first character is a place behind what that character makes of it. -/
theorem behind_cons (inWord : Bool) (char : Char) (before : Text) :
    behind inWord (char :: before) = behind (isWordChar char) before := by
  -- With more text before the place, the first character has no say in it.
  unfold behind
  cases before with
  | nil => rfl
  | cons second before =>
    rw [List.getLast?_cons_cons, List.getLast?_eq_some_getLast (List.cons_ne_nil second before)]
    rfl

/-- Place by place, the same. -/
theorem unmatched_iff {inWord : Bool} {text : Text} : Unmatched inWord text ↔
    ∀ before rest, text = before ++ rest → phoneShape (behind inWord before) rest = none := by
  induction text generalizing inWord with
  | nil =>
    refine iff_of_true trivial fun before rest same => ?_
    obtain ⟨rfl, rfl⟩ := List.append_eq_nil_iff.mp same.symm
    rfl
  | cons char text ih =>
    unfold Unmatched
    rw [ih]
    constructor
    · rintro ⟨here, later⟩ before rest same
      cases before with
      | nil =>
        -- The first place is the one the recursion looks at, and the later ones are those of the tail.
        obtain rfl : char :: text = rest := same
        exact here
      | cons first before =>
        obtain ⟨rfl, tail⟩ := List.cons_eq_cons.mp same
        rw [behind_cons]
        exact later before rest tail
    · intro all
      refine ⟨all [] (char :: text) rfl, fun before rest same => ?_⟩
      rw [← behind_cons inWord]
      exact all (char :: before) rest (by rw [same]; rfl)

/-- What has nothing to be replaced is left as it is. -/
theorem redactFrom_unmatched {inWord : Bool} {text : Text} (unmatched : Unmatched inWord text) :
    redactFrom inWord text = text := by
  -- Character by character, a match would be one where there is none.
  induction text generalizing inWord with
  | nil => rw [redactFrom]
  | cons char rest ih =>
    rw [redactFrom]
    split
    · rename_i after found
      rw [unmatched.1] at found
      cases found
    · rw [ih unmatched.2]

/-- Digits are written where digits were read. -/
theorem redactFrom_digits {digits out : Text} (each : ∀ digit ∈ digits, digit.isDigit = true) :
    ∀ {inWord : Bool} {text : Text}, redactFrom inWord text = digits ++ out → digits ≠ [] →
      ∃ rest, text = digits ++ rest ∧ out = redactFrom true rest := by
  induction digits with
  | nil => exact fun _ none => absurd rfl none
  | cons digit digits ih =>
    intro inWord text written _
    have is_digit := each digit List.mem_cons_self
    cases text with
    | nil =>
      rw [redactFrom] at written
      cases written
    | cons char rest =>
      rw [redactFrom] at written
      split at written
      · -- What replaces a number starts with no digit.
        obtain ⟨rfl, -⟩ := List.cons_eq_cons.mp written
        cases is_digit
      · obtain ⟨rfl, tail⟩ := List.cons_eq_cons.mp written
        rw [isWordChar_digit is_digit] at tail
        -- After a digit the next place is inside a word.
        cases digits with
        | nil => exact ⟨rest, rfl, tail.symm⟩
        | cons second digits =>
          obtain ⟨after, rfl, last⟩ := ih (fun other member => each other (List.mem_cons_of_mem _ member))
            tail (List.cons_ne_nil _ _)
          exact ⟨after, rfl, last⟩

/-- A code is a first character and digits. -/
theorem codes_cons {inWord : Bool} {code : Text} (listed : code ∈ codes inWord) :
    ∃ first others, code = first :: others ∧ ∀ digit ∈ others, digit.isDigit = true := by
  -- Inside a word there are fewer codes, so it is enough to go through all three.
  have each : ∀ code ∈ codes false, ∃ first others, code = first :: others ∧
      ∀ digit ∈ others, digit.isDigit = true := by
    intro code listed
    rcases List.mem_cons.mp listed with rfl | listed
    · exact ⟨'+', "250".toList, rfl, List.all_eq_true.mp rfl⟩
    rcases List.mem_cons.mp listed with rfl | listed
    · exact ⟨'2', "50".toList, rfl, List.all_eq_true.mp rfl⟩
    · obtain rfl := List.mem_singleton.mp listed
      exact ⟨'0', [], rfl, List.all_eq_true.mp rfl⟩
  cases inWord with
  | false => exact each code listed
  | true => exact each code (List.mem_append_left _ listed)

/-- Where no word goes on, a code that may stand behind a word or not may stand. -/
theorem codes_elsewhere {inWord other : Bool} {first : Char} {others rest : Text}
    (listed : first :: others ∈ codes inWord) (ends : wordEnds (first :: rest) = true) :
    first :: others ∈ codes other := by
  rcases List.mem_append.mp listed with listed | listed
  · exact List.mem_append_left _ listed
  · cases inWord with
    | true => cases listed
    | false =>
      -- A zero goes on with a word.
      obtain ⟨rfl, -⟩ := List.cons_eq_cons.mp (List.mem_singleton.mp listed)
      cases ends

/-- A text is glued where what it ends in is. -/
theorem Glued.behind {text : Text} (before : Text) (glued : Glued text) : Glued (before ++ text) := by
  -- The digit it is glued to has more text before it.
  obtain ⟨earlier, digit, digits, after, rfl, rest⟩ := glued
  exact ⟨before ++ earlier, digit, digits, after, by simp only [List.append_assoc], rest⟩

/-- After a digit, what is written ends the word only where what was read does, unless a number is glued to it. -/
theorem wordEnds_of_redactFrom {before rest : Text} {digit : Char} (is_digit : digit.isDigit = true)
    (apart : ¬ Glued (before ++ digit :: rest)) (ends : wordEnds (redactFrom true rest) = true) :
    wordEnds rest = true := by
  cases rest with
  | nil => rfl
  | cons char rest =>
    rw [redactFrom] at ends
    split at ends
    · rename_i after found
      obtain ⟨code, listed, digits, line, same, last⟩ := phoneShape_eq_some.mp found
      rcases List.mem_cons.mp listed with rfl | listed
      · -- A plus ends the word.
        obtain ⟨rfl, -⟩ := List.cons_eq_cons.mp same
        rfl
      · obtain rfl := List.mem_singleton.mp listed
        refine absurd ⟨before, digit, digits, after, ?_, is_digit, line, last⟩ apart
        rw [same]
        simp only [List.append_assoc, List.cons_append]
    · exact ends

/-- Nothing is looked for in what replaces a number. -/
theorem unmatched_phone {inWord : Bool} {text : Text} (unmatched : Unmatched false text) :
    Unmatched inWord ("[phone]".toList ++ text) :=
  ⟨rfl, rfl, rfl, rfl, rfl, rfl, rfl, unmatched⟩

/-- What is written has nothing left to be replaced, unless a number is glued to another. -/
theorem unmatched_redactFrom {inWord ends : Bool} {text : Text} (apart : ¬ Glued text)
    (starts : ends = inWord ∨ wordEnds text = true) : Unmatched ends (redactFrom inWord text) := by
  -- Along the text; behind a number that was replaced, no word goes on.
  fun_induction redactFrom inWord text generalizing ends with
  | case1 => trivial
  | case2 inWord char rest after found ih =>
    obtain ⟨code, -, digits, -, same, last⟩ := phoneShape_eq_some.mp found
    refine unmatched_phone (ih (fun glued => apart ?_) (.inr last))
    rw [same]
    exact glued.behind _
  | case3 inWord char rest unmatched ih =>
    refine ⟨?_, ih (fun glued => apart (glued.behind [char])) (.inl rfl)⟩
    by_contra matched
    obtain ⟨after, found⟩ := Option.ne_none_iff_exists'.mp matched
    obtain ⟨code, listed, digits, line, written, last⟩ := phoneShape_eq_some.mp found
    obtain ⟨first, others, rfl, each⟩ := codes_cons listed
    obtain ⟨rfl, tail⟩ := List.cons_eq_cons.mp written
    -- All of it but the end of the word has been read as it is written.
    have number : ∀ digit ∈ others ++ '7' :: digits, digit.isDigit = true := by
      intro digit member
      rcases List.mem_append.mp member with member | member
      · exact each digit member
      rcases List.mem_cons.mp member with rfl | member
      · rfl
      · exact line.each digit member
    obtain ⟨remainder, rfl, rfl⟩ := redactFrom_digits number (by rw [tail, List.append_eq, List.append_eq]) (by simp)
    have nonempty : digits ≠ [] := by
      rintro rfl
      exact absurd line.eight (by decide)
    have whole : char :: (others ++ '7' :: digits ++ remainder) =
        (char :: others ++ '7' :: digits.dropLast) ++ digits.getLast nonempty :: remainder := by
      have split := (List.dropLast_append_getLast nonempty).symm
      calc char :: (others ++ '7' :: digits ++ remainder)
          = char :: (others ++ '7' :: (digits.dropLast ++ [digits.getLast nonempty]) ++ remainder) := by
            rw [← split]
        _ = _ := by simp only [List.append_assoc, List.cons_append, List.nil_append]
    have end_read : wordEnds remainder = true :=
      wordEnds_of_redactFrom (line.each _ (List.getLast_mem nonempty)) (whole ▸ apart) last
    have here : phoneShape inWord (char :: (others ++ '7' :: digits ++ remainder)) = some remainder := by
      refine phoneShape_eq_some.mpr ⟨char :: others, ?_, digits, line, rfl, end_read⟩
      rcases starts with rfl | outside
      · exact listed
      · exact codes_elsewhere listed outside
    rw [unmatched] at here
    cases here

/-- A text with nothing to be replaced carries no number that no word joins. -/
theorem not_carries_of_unmatched {text : Text} (unmatched : Unmatched false text) :
    ¬ Carries isWordChar text := by
  rintro ⟨before, number, after, rfl, ⟨code, listed, digits, line, rfl⟩, free, last⟩
  have none := unmatched_iff.mp unmatched before ((code ++ '7' :: digits) ++ after) (List.append_assoc _ _ _)
  -- No word joins the number in front, so it is looked for there.
  have outside : behind false before = false := by
    unfold behind
    cases ends : before.getLast? with
    | none => rfl
    | some char => exact free char ends
  have found : phoneShape (behind false before) ((code ++ '7' :: digits) ++ after) = some after := by
    rw [outside]
    refine phoneShape_eq_some.mpr ⟨code, listed, digits, line, rfl, ?_⟩
    cases after with
    | nil => rfl
    | cons char after => exact congrArg not (last char rfl)
  rw [found] at none
  cases none

/-- A text that carries no number no digit joins, and none that is glued, has nothing to be replaced. -/
theorem unmatched_of_not_carries {text : Text} (bare : ¬ Carries Char.isDigit text) (apart : ¬ Glued text) :
    Unmatched false text := by
  rw [unmatched_iff]
  rintro before rest rfl
  by_contra matched
  obtain ⟨after, found⟩ := Option.ne_none_iff_exists'.mp matched
  obtain ⟨code, listed, digits, line, rfl, last⟩ := phoneShape_eq_some.mp found
  -- What follows the number ends its word, so it is no digit.
  have free : ∀ char ∈ after.head?, char.isDigit = false := by
    intro char first
    cases after with
    | nil => cases first
    | cons other after =>
      cases first
      cases digit : char.isDigit with
      | false => rfl
      | true =>
        have goes_on : isWordChar char = false := by simpa [wordEnds] using last
        rw [isWordChar_digit digit] at goes_on
        cases goes_on
  rcases List.mem_append.mp listed with written | zero
  · rcases List.mem_cons.mp written with rfl | written
    · -- The plus is not part of what joins the rest of the number.
      refine bare ⟨before ++ ['+'], "250".toList ++ '7' :: digits, after, ?_, ?_, ?_, free⟩
      · simp only [List.append_assoc]
        rfl
      · exact ⟨"250".toList, by simp [codes], digits, line, rfl⟩
      · simp
    · obtain rfl := List.mem_singleton.mp written
      cases ends : before.getLast? with
      | none =>
        refine bare ⟨before, "250".toList ++ '7' :: digits, after, ?_, ?_, ?_, free⟩
        · simp only [List.append_assoc]
        · exact ⟨"250".toList, by simp [codes], digits, line, rfl⟩
        · rw [ends]
          simp
      | some char =>
        obtain ⟨earlier, rfl⟩ := List.getLast?_eq_some_iff.mp ends
        -- A digit right in front of it makes the number a glued one.
        cases digit : char.isDigit with
        | true =>
          refine apart ⟨earlier, char, digits, after, ?_, digit, line, last⟩
          simp only [List.append_assoc, List.cons_append, List.nil_append]
        | false =>
          refine bare ⟨earlier ++ [char], "250".toList ++ '7' :: digits, after, ?_, ?_, ?_, free⟩
          · simp only [List.append_assoc]
          · exact ⟨"250".toList, by simp [codes], digits, line, rfl⟩
          · rw [ends]
            rintro other is_it
            cases is_it
            exact digit
  · -- A zero counts only outside a word, so no digit is in front of it.
    cases outside : behind false before with
    | true =>
      rw [outside] at zero
      cases zero
    | false =>
      rw [outside] at zero
      obtain rfl := List.mem_singleton.mp zero
      refine bare ⟨before, "0".toList ++ '7' :: digits, after, ?_, ?_, ?_, free⟩
      · simp only [List.append_assoc]
      · exact ⟨"0".toList, by simp [codes], digits, line, rfl⟩
      · intro char ends
        cases digit : char.isDigit with
        | false => rfl
        | true =>
          rw [behind, Option.mem_def.mp ends] at outside
          rw [← isWordChar_digit digit]
          exact outside.symm ▸ outside

/-- Redacting a text without glued numbers leaves no number in it that no word joins. -/
theorem redactString_bare {value : Text} (apart : ¬ Glued value) : ¬ Carries isWordChar (redactString value) :=
  not_carries_of_unmatched (unmatched_redactFrom apart (.inl rfl))

/-- And redacting it again changes nothing. -/
theorem redactString_again {value : Text} (apart : ¬ Glued value) :
    redactString (redactString value) = redactString value :=
  redactFrom_unmatched (unmatched_redactFrom apart (.inl rfl))

/-- A text with no number in it is returned unchanged. -/
theorem redactString_same {value : Text} (bare : ¬ Carries Char.isDigit value) (apart : ¬ Glued value) :
    redactString value = value :=
  redactFrom_unmatched (unmatched_of_not_carries bare apart)

end Freight.Report
