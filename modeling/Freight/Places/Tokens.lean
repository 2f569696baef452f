import Mathlib
import Freight.Library.Distinct
import Freight.Store.Currency

/-! Address lines as tokens, and the phrases in one that may name a place. -/

namespace Freight.Places

/-- `[a-z0-9]`. -/
def isTokenChar (char : Char) : Bool := char.isLower || char.isDigit

/-- `replace(/\s+/g, ' ')`, behind a blank or not. -/
def collapse : Bool → Text → Text
  | _, [] => []
  | inRun, char :: rest =>
    if isBlankChar char then
      if inRun then collapse true rest else ' ' :: collapse true rest
    else char :: collapse false rest

/-- One spelling for every way to write an address, over `toLowerCase`. -/
def normalizeToken (lower : Text → Text) (raw : Text) : Text :=
  trim (collapse false ((lower raw).map fun char =>
    if isTokenChar char || isBlankChar char then char else ' '))

/-- `split(' ').filter(Boolean)`. -/
def splitWords (token : Text) : List Text := (token.splitOn ' ').filter (· ≠ [])

/-- Words that make a phrase an address rather than a place. -/
def genericAddressWords : List Text :=
  ["depot", "gate", "zone", "industrial", "market", "street", "st", "road", "rd", "avenue", "ave", "house", "shop",
    "centre", "center", "block", "plot", "building", "warehouse", "park", "yard", "store", "office", "floor", "unit",
    "no", "near", "opposite", "behind", "next", "to", "the", "at", "by"].map String.toList

/-- A word that could name a place: neither a generic one nor a bare number. -/
def couldName (word : Text) : Bool := !genericAddressWords.contains word && !(word ≠ [] && word.all Char.isDigit)

/-- A phrase with a word that could name a place. -/
def namesSomewhere (phrase : Text) : Bool := (phrase.splitOn ' ').any fun word => word ≠ [] && couldName word

/-- Where windows of some words start and how long they are: longest first, and from left to right. -/
def windowPlaces (count : Nat) : List (Nat × Nat) :=
  (List.range count).reverse.flatMap fun shorter => (List.range (count - shorter)).map fun start => (start, shorter + 1)

/-- `words.slice(start, start + len)`. -/
def window (words : List Text) (place : Nat × Nat) : List Text := (words.drop place.1).take place.2

/-- `join(' ')`. -/
def joinWords (words : List Text) : Text := [' '].intercalate words

/-- Every phrase worth trying for one address line, longest first. -/
def candidatePhrases (token : Text) : List Text :=
  let words := splitWords token
  ((((windowPlaces words.length).map fun place => joinWords (window words place)).eraseDups.filter fun phrase =>
    decide (3 ≤ (phrase.filter fun char => !isBlankChar char).length))).filter namesSomewhere

/-- A window of the words is at this place. -/
def Within (words : List Text) (place : Nat × Nat) : Prop := 0 < place.2 ∧ place.1 + place.2 ≤ words.length

/-- What a window needs to be worth trying. -/
structure Worth (words : List Text) : Prop where
  letters : 3 ≤ (words.map List.length).sum
  names : ∃ word ∈ words, word ∉ genericAddressWords ∧ ¬ ∀ char ∈ word, char.isDigit = true

/-- One window comes before another: it is longer, or as long and further left. -/
def Precedes (one other : Nat × Nat) : Prop := other.2 < one.2 ∨ one.2 = other.2 ∧ one.1 < other.1

/-- The phrases worth trying in some words: each once, longer ones first, and left to right within a length. -/
structure Lists (words phrases : List Text) : Prop where
  once : phrases.Nodup
  all : ∀ phrase, phrase ∈ phrases ↔
    ∃ place, Within words place ∧ Worth (window words place) ∧ joinWords (window words place) = phrase
  ordered : phrases.Pairwise fun one other => ∃ first, Within words first ∧ joinWords (window words first) = one ∧
    ∀ place, Within words place → joinWords (window words place) = other → Precedes first place

section Words

variable {words : List Text} {token : Text}

/-- The places are those at which a window is. -/
theorem mem_windowPlaces {place : Nat × Nat} : place ∈ windowPlaces words.length ↔ Within words place := by
  -- A length counts from one, and a start leaves room for it.
  obtain ⟨start, length⟩ := place
  simp only [windowPlaces, List.mem_flatMap, List.mem_reverse, List.mem_range, List.mem_map, Prod.mk.injEq, Within]
  constructor
  · rintro ⟨shorter, inside, at_, fits, rfl, rfl⟩
    exact ⟨Nat.succ_pos _, by omega⟩
  · rintro ⟨some, fits⟩
    exact ⟨length - 1, by omega, start, by omega, rfl, by omega⟩

/-- Longer windows come first, and within a length those further left. -/
theorem windowPlaces_sorted (count : Nat) : (windowPlaces count).Pairwise Precedes := by
  -- The lengths are taken from the longest down, and within one the starts from the left.
  unfold windowPlaces
  rw [List.pairwise_flatMap]
  constructor
  · intro shorter _
    rw [List.pairwise_map]
    exact List.pairwise_lt_range.imp fun left => .inr ⟨rfl, left⟩
  · rw [List.pairwise_reverse]
    refine List.pairwise_lt_range.imp fun {less more} below one first other second => ?_
    obtain ⟨_, -, rfl⟩ := List.mem_map.mp first
    obtain ⟨_, -, rfl⟩ := List.mem_map.mp second
    exact .inl (Nat.succ_lt_succ below)

/-- A word of a token. -/
structure IsWord (word : Text) : Prop where
  nonempty : word ≠ []
  each : ∀ char ∈ word, isTokenChar char = true

/-- Trimming takes characters away. -/
theorem mem_of_mem_trim {text : Text} {char : Char} (member : char ∈ trim text) : char ∈ text := by
  -- From either end it drops some.
  have kept := (List.dropWhile_sublist _).mem (List.mem_reverse.mp member)
  exact (List.dropWhile_sublist _).mem (List.mem_reverse.mp kept)

/-- What a token is made of. -/
theorem mem_normalizeToken {lower : Text → Text} {raw : Text} {char : Char}
    (member : char ∈ normalizeToken lower raw) : char = ' ' ∨ isTokenChar char = true := by
  -- What is neither letter nor digit is turned into a blank, and blanks into one space.
  have collapsed {text : Text} (each : ∀ char ∈ text, isTokenChar char = true ∨ isBlankChar char = true) :
      ∀ inRun, ∀ char ∈ collapse inRun text, char = ' ' ∨ isTokenChar char = true := by
    induction text with
    | nil => simp [collapse]
    | cons first rest ih =>
      have later := ih fun other listed => each other (List.mem_cons_of_mem _ listed)
      intro inRun char member
      unfold collapse at member
      split at member
      · split at member
        · exact later true char member
        · rcases List.mem_cons.mp member with rfl | member
          · exact .inl rfl
          · exact later true char member
      · rename_i solid
        rcases List.mem_cons.mp member with rfl | member
        · exact .inr ((each char List.mem_cons_self).resolve_right solid)
        · exact later false char member
  refine collapsed ?_ false char (mem_of_mem_trim member)
  intro char member
  obtain ⟨before, -, rfl⟩ := List.mem_map.mp member
  split
  · rename_i kept
    exact Bool.or_eq_true_iff.mp kept
  · exact .inr rfl

/-- A piece between blanks has characters of the text, and no blank. -/
theorem mem_splitOn {text piece : Text} (member : piece ∈ text.splitOn ' ') {char : Char} (inside : char ∈ piece) :
    char ∈ text ∧ char ≠ ' ' := by
  -- The first character of a text starts its first piece, or ends an empty one.
  induction text generalizing piece char with
  | nil =>
    rw [List.splitOn_nil, List.mem_singleton] at member
    rw [member] at inside
    cases inside
  | cons first rest ih =>
    have later {piece : Text} (member : piece ∈ rest.splitOn ' ') {char : Char} (inside : char ∈ piece) :
        char ∈ first :: rest ∧ char ≠ ' ' :=
      ⟨List.mem_cons_of_mem _ (ih member inside).1, (ih member inside).2⟩
    rw [List.splitOn_cons_eq_if_modifyHead] at member
    split at member
    · rcases List.mem_cons.mp member with rfl | member
      · cases inside
      · exact later member inside
    · rename_i solid
      cases pieces : rest.splitOn ' ' with
      | nil => exact absurd pieces (List.splitOn_ne_nil ' ' rest)
      | cons head tail =>
        rw [pieces] at later member
        rcases List.mem_cons.mp member with rfl | member
        · rcases List.mem_cons.mp inside with rfl | inside
          · exact ⟨List.mem_cons_self, fun blank => solid (beq_iff_eq.mpr blank)⟩
          · exact later List.mem_cons_self inside
        · exact later (List.mem_cons_of_mem _ member) inside

/-- The words of a line that has been normalised. -/
theorem splitWords_isWord {lower : Text → Text} {raw : Text} :
    ∀ word ∈ splitWords (normalizeToken lower raw), IsWord word := by
  -- A piece between spaces has no space in it.
  intro word member
  obtain ⟨piece, nonempty⟩ := List.mem_filter.mp member
  refine ⟨of_decide_eq_true nonempty, fun char inside => ?_⟩
  obtain ⟨listed, solid⟩ := mem_splitOn piece inside
  exact (mem_normalizeToken listed).resolve_left solid

/-- A letter or digit is no blank. -/
theorem isBlankChar_of_isTokenChar {char : Char} (solid : isTokenChar char = true) : isBlankChar char = false := by
  have range : char.toNat ≤ 122 ∧ (97 ≤ char.toNat ∨ 48 ≤ char.toNat ∧ char.toNat ≤ 57) := by
    simp only [isTokenChar, Char.isLower, Char.isDigit, Bool.or_eq_true, Bool.and_eq_true, decide_eq_true_eq,
      UInt32.le_iff_toNat_le, ge_iff_le] at solid
    rcases solid with ⟨low, high⟩ | ⟨low, high⟩
    · exact ⟨high, .inl low⟩
    · exact ⟨Nat.le_trans high (by decide), .inr ⟨low, high⟩⟩
  -- ∀ code: Small letters and digits are among the first 122 codes, where there are few blanks.
  have solid : ∀ code ≤ 122, 97 ≤ code ∨ 48 ≤ code ∧ code ≤ 57 →
      ([0x9, 0xA, 0xB, 0xC, 0xD, 0x20, 0xA0, 0x1680, 0x2028, 0x2029, 0x202F, 0x205F, 0x3000, 0xFEFF].contains code ||
        (0x2000 ≤ code && code ≤ 0x200A)) = false := by
    decide
  exact solid char.toNat range.1 range.2

/-- Joining words and splitting what comes of it gives the words. -/
theorem splitOn_joinWords (each : ∀ word ∈ words, IsWord word) (some : words ≠ []) :
    (joinWords words).splitOn ' ' = words := by
  -- No word has the space in it that they are joined by.
  refine List.splitOn_intercalate ' ' (fun word member blank => ?_) some
  have solid := (each word member).each ' ' blank
  cases solid

/-- A phrase names somewhere when one of its words could. -/
theorem namesSomewhere_joinWords (each : ∀ word ∈ words, IsWord word) (some : words ≠ []) :
    namesSomewhere (joinWords words) = true ↔
      ∃ word ∈ words, word ∉ genericAddressWords ∧ ¬ ∀ char ∈ word, char.isDigit = true := by
  -- Cut at its spaces, the phrase gives back its words.
  unfold namesSomewhere
  rw [splitOn_joinWords each some, List.any_eq_true]
  refine exists_congr fun word => and_congr_right fun member => ?_
  simp [couldName, (each word member).nonempty]

/-- The letters and digits of a phrase are those of its words. -/
theorem letters_joinWords (each : ∀ word ∈ words, IsWord word) :
    ((joinWords words).filter fun char => !isBlankChar char).length = (words.map List.length).sum := by
  -- Word by word; the spaces between them are left out.
  have solid : ∀ word ∈ words, word.filter (fun char => !isBlankChar char) = word := fun word member =>
    List.filter_eq_self.mpr fun char inside => by
      rw [isBlankChar_of_isTokenChar ((each word member).each char inside)]
      rfl
  unfold joinWords
  induction words with
  | nil => rfl
  | cons word rest ih =>
    have own := solid word List.mem_cons_self
    cases rest with
    | nil => simp [own]
    | cons second rest =>
      have later := ih (fun other member => each other (List.mem_cons_of_mem _ member))
        fun other member => solid other (List.mem_cons_of_mem _ member)
      have blank : isBlankChar ' ' = true := rfl
      rw [List.intercalate_cons_cons, List.filter_append, List.filter_append, own, List.length_append,
        List.length_append, later, List.map_cons, List.sum_cons, List.filter_singleton, blank]
      rfl

/-- The phrases that are tried are those worth trying in the words of a token. -/
theorem candidatePhrases_lists (each : ∀ word ∈ splitWords token, IsWord word) :
    Lists (splitWords token) (candidatePhrases token) := by
  generalize named : splitWords token = words at each
  have listed : candidatePhrases token =
      ((((windowPlaces words.length).map fun place => joinWords (window words place)).eraseDups.filter fun phrase =>
        decide (3 ≤ (phrase.filter fun char => !isBlankChar char).length))).filter namesSomewhere := by
    rw [← named]
    rfl
  rw [listed]
  refine ⟨((nodup_eraseDups _).filter _).filter _, fun phrase => ?_, ?_⟩
  · -- The two filters ask of a phrase what is asked of its window.
    have worth {place : Nat × Nat} (within : Within words place) :
        3 ≤ ((joinWords (window words place)).filter fun char => !isBlankChar char).length ∧
          namesSomewhere (joinWords (window words place)) = true ↔ Worth (window words place) := by
      have own : ∀ word ∈ window words place, IsWord word := fun word member =>
        each word (List.mem_of_mem_drop (List.mem_of_mem_take member))
      have some : window words place ≠ [] := by
        have size : (window words place).length = place.2 := by
          rw [window, List.length_take, List.length_drop]
          have fits := within.2
          omega
        intro none
        rw [none] at size
        exact absurd within.1 (by simp [← size])
      rw [letters_joinWords own, namesSomewhere_joinWords own some]
      exact ⟨fun both => ⟨both.1, both.2⟩, fun worth => ⟨worth.letters, worth.names⟩⟩
    simp only [List.mem_filter, List.mem_eraseDups, List.mem_map, decide_eq_true_eq, mem_windowPlaces]
    constructor
    -- Each phrase that is left comes of a window that is worth trying.
    · rintro ⟨⟨⟨place, within, rfl⟩, letters⟩, names⟩
      exact ⟨place, within, (worth within).mp ⟨letters, names⟩, rfl⟩
    -- And each such window leaves its phrase.
    · rintro ⟨place, within, valued, rfl⟩
      obtain ⟨letters, names⟩ := (worth within).mpr valued
      exact ⟨⟨⟨place, within, rfl⟩, letters⟩, names⟩
  -- Longer windows come first, so their phrases do.
  · refine (((eraseDups_map_in_order (windowPlaces_sorted words.length)).filter _).filter _).imp ?_
    rintro one other ⟨first, member, rfl, all⟩
    exact ⟨first, mem_windowPlaces.mp member, rfl, fun place within => all place (mem_windowPlaces.mpr within)⟩

end Words

example : candidatePhrases "e2e gikondo industrial zone".toList =
    ["e2e gikondo industrial zone", "e2e gikondo industrial", "gikondo industrial zone", "e2e gikondo",
      "gikondo industrial", "e2e", "gikondo"].map String.toList := by
  decide +kernel

end Freight.Places
