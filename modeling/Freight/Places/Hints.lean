import Freight.Library.Table
import Freight.Places.Tokens
import Freight.Store.Rows

/-! Learning where an address line is, once: the walk over its phrases, and what is stored of it. -/

namespace Freight.Places

/-- A place the geocoder answers with. -/
structure Place where
  label : String
  lat : ℚ
  lng : ℚ
  deriving DecidableEq

/-- A row of `place_hints`. -/
structure PlaceHint where
  token : Text
  lat : Option ℚ := none
  lng : Option ℚ := none
  resolvedFrom : Option Text := none
  label : Option String := none
  source : String := "nominatim"
  missCount : Nat := 0
  resolvedAt : Option Nat := none
  updatedAt : Nat
  deriving DecidableEq

/-- The rows of `place_hints`. -/
abbrev PlaceHints := Table PlaceHint fun hint => hint.token

/-- The columns a hit sets. -/
def PlaceHint.resolve (hit : Place) (attempt : Text) (now : Nat) (hint : PlaceHint) : PlaceHint :=
  { hint with lat := some hit.lat, lng := some hit.lng, label := some hit.label, resolvedFrom := some attempt,
              resolvedAt := some now, updatedAt := now }

/-- A hit is stored under the whole token, with the phrase it was made with. -/
def storeHit (hints : PlaceHints) (token : Text) (hit : Place) (attempt : Text) (now : Nat) : PlaceHints :=
  hints.upsert (PlaceHint.resolve hit attempt now { token := token, updatedAt := now })
    (PlaceHint.resolve hit attempt now) fun _ => rfl

/-- A miss is counted, and leaves a place that is there alone. -/
def storeMiss (hints : PlaceHints) (token : Text) (now : Nat) : PlaceHints :=
  hints.upsert { token := token, missCount := 1, updatedAt := now }
    (fun hint => { hint with missCount := hint.missCount + 1, updatedAt := now }) fun _ => rfl

/-- How a walk over some phrases ended. -/
inductive Tried where
  /-- The geocoder failed. -/
  | failed
  | hit (place : Place) (attempt : Text)
  | missed

/-- `geocodeSearch` by phrase: its results, or nothing when it fails. -/
abbrev Geocoder := Text → Option (List Place)

/-- The walk over some phrases, up to the first one that is known. -/
def tryPhrases (geocodeSearch : Geocoder) : List Text → Tried
  | [] => .missed
  | attempt :: rest =>
    match geocodeSearch attempt with
    -- A failure is not a miss.
    | none => .failed
    | some [] => tryPhrases geocodeSearch rest
    | some (hit :: _) => .hit hit attempt

/-- `resolveToken`: the rows it leaves, and the one it wrote. -/
def resolveToken (lower : Text → Text) (geocodeSearch : Geocoder) (now : Nat) (hints : PlaceHints) (raw : Text)
    (maxAttempts : Nat := 8) : PlaceHints × Option PlaceHint :=
  let token := normalizeToken lower raw
  if token = [] then (hints, none)
  else
    match tryPhrases geocodeSearch ((candidatePhrases token).take maxAttempts) with
    -- A search that failed is no answer, so nothing is written down.
    | .failed => (hints, none)
    | .hit place attempt =>
      let stored := storeHit hints token place attempt now
      (stored, stored.find? token)
    -- That nothing was found is counted.
    | .missed =>
      let stored := storeMiss hints token now
      (stored, stored.find? token)

/-- How often a token has been given up on. -/
def misses (hints : PlaceHints) (token : Text) : Nat := ((hints.find? token).map PlaceHint.missCount).getD 0

/-- What becomes of a token when some phrases are tried for it. -/
structure Resolved (geocodeSearch : Geocoder) (tried : List Text) (token : Text) (now : Nat)
    (hints after : PlaceHints) : Prop where
  /-- The place of the first known phrase is stored. -/
  known : ∀ before attempt rest hit more, tried = before ++ attempt :: rest →
    (∀ phrase ∈ before, geocodeSearch phrase = some []) → geocodeSearch attempt = some (hit :: more) →
    after = storeHit hints token hit attempt now
  /-- Nothing is written when the geocoder fails before a phrase is known. -/
  failing : ∀ before attempt rest, tried = before ++ attempt :: rest →
    (∀ phrase ∈ before, geocodeSearch phrase = some []) → geocodeSearch attempt = none → after = hints
  /-- A miss is stored when no phrase is known. -/
  unknown : token ≠ [] → (∀ phrase ∈ tried, geocodeSearch phrase = some []) → after = storeMiss hints token now
  /-- And only then. -/
  miss : misses after token ≠ misses hints token → ∀ phrase ∈ tried, geocodeSearch phrase = some []

section Walk

variable {geocodeSearch : Geocoder} {tried before rest : List Text} {attempt token : Text} {hints : PlaceHints}
  {now : Nat} {hit : Place}

/-- Phrases that are not known are passed by. -/
theorem tryPhrases_append (unknown : ∀ phrase ∈ before, geocodeSearch phrase = some []) :
    tryPhrases geocodeSearch (before ++ rest) = tryPhrases geocodeSearch rest := by
  -- Phrase by phrase, each is passed for the next.
  induction before with
  | nil => rfl
  | cons phrase before ih =>
    rw [List.cons_append, tryPhrases, unknown phrase List.mem_cons_self]
    exact ih fun other member => unknown other (List.mem_cons_of_mem _ member)

/-- A walk that ends in a miss has known nothing. -/
theorem tryPhrases_missed : tryPhrases geocodeSearch tried = .missed ↔
    ∀ phrase ∈ tried, geocodeSearch phrase = some [] := by
  -- Phrase by phrase: a known one ends the walk with a hit, and one that cannot be asked ends it with neither.
  induction tried with
  | nil => simp [tryPhrases]
  | cons phrase rest ih =>
    rw [tryPhrases, List.forall_mem_cons, ← ih]
    split <;> simp_all

/-- A hit counts no miss. -/
theorem misses_storeHit : misses (storeHit hints token hit attempt now) token = misses hints token := by
  -- The row under the token is the old one resolved, whose misses stay.
  have found : (storeHit hints token hit attempt now).find? token =
      some (((hints.find? token).map (PlaceHint.resolve hit attempt now)).getD
        (PlaceHint.resolve hit attempt now { token := token, updatedAt := now })) :=
    (hints.find?_upsert _ _ _ token).trans (if_pos rfl)
  unfold misses
  rw [found]
  cases hints.find? token <;> rfl

/-- What a resolution leaves is decided by the phrases it may try. -/
theorem resolveToken_resolved (lower : Text → Text) (geocodeSearch : Geocoder) (now : Nat) (hints : PlaceHints)
    (raw : Text) (maxAttempts : Nat) :
    Resolved geocodeSearch ((candidatePhrases (normalizeToken lower raw)).take maxAttempts)
      (normalizeToken lower raw) now hints (resolveToken lower geocodeSearch now hints raw maxAttempts).1 := by
  unfold resolveToken
  by_cases empty : normalizeToken lower raw = []
  · -- There is nothing to try in an empty token.
    have none : candidatePhrases [] = [] := by decide
    simp only [empty, if_true, none, List.take_nil]
    refine ⟨fun before _ _ _ _ same => ?_, fun _ _ _ _ _ _ => rfl, fun some => absurd rfl some, by simp⟩
    cases before <;> cases same
  · simp only [if_neg empty]
    generalize (candidatePhrases (normalizeToken lower raw)).take maxAttempts = tried
    refine ⟨?_, ?_, fun _ unknown => ?_, fun counted => ?_⟩
    · rintro before attempt rest hit more rfl unknown known
      rw [tryPhrases_append unknown, tryPhrases, known]
    · rintro before attempt rest rfl unknown fails
      rw [tryPhrases_append unknown, tryPhrases, fails]
    · rw [tryPhrases_missed.mpr unknown]
    · rw [← tryPhrases_missed]
      cases ended : tryPhrases geocodeSearch tried with
      | missed => rfl
      | failed =>
        rw [ended] at counted
        exact absurd rfl counted
      | hit place attempt =>
        rw [ended] at counted
        exact absurd misses_storeHit counted

/-- A resolution that wrote a row leaves one under its token. -/
theorem resolveToken_writes {lower : Text → Text} {raw : Text} {maxAttempts : Nat} {row : PlaceHint}
    (wrote : (resolveToken lower geocodeSearch now hints raw maxAttempts).2 = some row) :
    (resolveToken lower geocodeSearch now hints raw maxAttempts).1.find? (normalizeToken lower raw) = some row := by
  -- Nothing is written for an empty token or a token that is known; else the row is what was written.
  revert wrote
  unfold resolveToken
  simp only
  split
  · intro none
    cases none
  · split
    · intro none
      cases none
    · exact id
    · exact id

end Walk

section Backlog

/-- What the backlog reads of an order. -/
structure AddressedOrder where
  status : OrderStatus := .pending
  pickupLat : Option ℚ := none
  deliveryLat : Option ℚ := none
  pickupAddressText : Option Text := none
  deliveryAddressText : Option Text := none

/-- An order that still needs placing. -/
def AddressedOrder.unplaced (order : AddressedOrder) : Bool :=
  order.status = .pending && (order.pickupLat.isNone || order.deliveryLat.isNone)

/-- Every token of an order that still needs placing which has never been looked up. -/
def unresolvedTokensForBacklog (lower : Text → Text) (orders : List AddressedOrder) (hints : PlaceHints) : List Text :=
  let waiting := orders.filter AddressedOrder.unplaced
  let lines := waiting.filterMap AddressedOrder.pickupAddressText ++
    waiting.filterMap AddressedOrder.deliveryAddressText
  let tokens := (((lines.map (normalizeToken lower)).filter (· ≠ [])).eraseDups).mergeSort
    fun one other => decide (one ≤ other)
  tokens.filter fun token => (hints.find? token).isNone

/-- A token that has a row is never looked up again, be the row a hit or a miss. -/
theorem answered_once {lower : Text → Text} {geocodeSearch : Geocoder} {now : Nat} {hints : PlaceHints} {raw : Text}
    {maxAttempts : Nat} {row : PlaceHint} (orders : List AddressedOrder)
    (wrote : (resolveToken lower geocodeSearch now hints raw maxAttempts).2 = some row) :
    normalizeToken lower raw ∉
      unresolvedTokensForBacklog lower orders (resolveToken lower geocodeSearch now hints raw maxAttempts).1 := by
  -- What is listed has no row, and this token has one.
  intro listed
  have none := (List.mem_filter.mp listed).2
  rw [resolveToken_writes wrote] at none
  cases none

end Backlog

/--
For every address line: the phrases listed are the windows of its words that are worth trying, each once, longer
ones first and left to right; and of the first eight of them, the first one the geocoder knows is stored, a miss
only if it knows none, and nothing when the geocoder fails first.
-/
theorem resolved_from_first_eight (lower : Text → Text) (geocodeSearch : Geocoder) (now : Nat) (hints : PlaceHints)
    (raw : Text) :
    Lists (splitWords (normalizeToken lower raw)) (candidatePhrases (normalizeToken lower raw)) ∧
      Resolved geocodeSearch ((candidatePhrases (normalizeToken lower raw)).take 8) (normalizeToken lower raw) now
        hints (resolveToken lower geocodeSearch now hints raw).1 :=
  ⟨candidatePhrases_lists splitWords_isWord, resolveToken_resolved lower geocodeSearch now hints raw 8⟩

/-- A geocoder that knows one sector. -/
def knowsGikondo : Geocoder := fun phrase =>
  some (if phrase = "gikondo".toList then [{ label := "Gikondo, Kigali", lat := -197/100, lng := 3007/100 }] else [])

/-- The ninth phrase of the line is known, and a miss is stored. -/
theorem ninth_phrase_given_up : ¬ ∀ (lower : Text → Text) (geocodeSearch : Geocoder) (now : Nat) (hints : PlaceHints)
    (raw : Text),
    Lists (splitWords (normalizeToken lower raw)) (candidatePhrases (normalizeToken lower raw)) ∧
      Resolved geocodeSearch (candidatePhrases (normalizeToken lower raw)) (normalizeToken lower raw) now hints
        (resolveToken lower geocodeSearch now hints raw).1 := by
  -- The town is the ninth of the phrases, so no miss should be stored for the line.
  intro all
  have resolved := (all (fun text => text.map Char.toLower) knowsGikondo 0 Table.empty "Kwa Mama Gikondo depot".toList).2
  have missed := resolved.miss (by decide +kernel) "gikondo".toList (by decide +kernel)
  exact absurd missed (by decide +kernel)

end Freight.Places
