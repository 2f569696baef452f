import Freight.Library.EventLoop
import Freight.Places.Hints

/-! The geocoder and its throttle: what concurrent searches send, whoever makes them. -/

namespace Freight.Places

/-- `MIN_INTERVAL_MS`. -/
def minIntervalMs : Nat := 1100

/-- `MARKET_VIEWBOX` and `MARKET_COUNTRY_CODE`: the corners of the box, and the country it lies in. -/
structure Market where
  west : ℚ := 299 / 10
  north : ℚ := -205 / 100
  east : ℚ := 3035 / 100
  south : ℚ := -18 / 10
  countryCode : String := "rw"

/-- A search result as it is received. A coordinate that is no number is none. -/
structure NominatimItem where
  displayName : String
  lat : Option ℚ
  lon : Option ℚ
  deriving DecidableEq

/-- What a request to Nominatim comes to. -/
inductive NominatimResponse where
  /-- The network fails, or the body is not JSON. -/
  | failed
  /-- The body is not an array. -/
  | other
  | items (received : List NominatimItem)
  deriving DecidableEq

/-- `insideMarket`. -/
def insideMarket (market : Market) (lat lng : ℚ) : Bool :=
  min market.north market.south ≤ lat && lat ≤ max market.north market.south &&
    min market.west market.east ≤ lng && lng ≤ max market.west market.east

/-- The results a search is answered with: those that lie in the market. -/
def NominatimResponse.results (market : Market) : NominatimResponse → Option (List Place)
  | .failed => none
  | .other => some []
  -- What lies outside the market is no answer.
  | .items received => some <| received.filterMap fun item =>
    match item.lat, item.lon with
    | some lat, some lng =>
      if insideMarket market lat lng then some { label := item.displayName, lat := lat, lng := lng } else none
    | _, _ => none

/-- The state of the module, and the clock. Times are in milliseconds. -/
structure Throttle where
  now : Nat
  lastRequestAt : Nat := 0
  /-- When each request was sent. Written down for the proofs; no code reads it. -/
  sent : List Nat := []
  deriving DecidableEq

/-- A call of `geocodeSearch`, at the await it has reached. -/
inductive Search where
  | called (query : Text) (limit : Nat)
  /-- The timer has been set, for the time that is due, on the timestamp that was read. -/
  | waiting (q : Text) (limit : Nat) (seen due : Nat)
  /-- The request has been sent. -/
  | fetching (q : Text) (limit : Nat)
  /-- Nothing where the call has thrown. -/
  | done (results : Option (List Place))
  deriving DecidableEq

/-- What a call is resumed with. -/
structure SearchAnswer where
  /-- What passes between the two times the clock is read. -/
  passes : Nat := 0
  response : NominatimResponse := .items []
  deriving DecidableEq

/-- The slot is claimed, and the request sent. -/
def Throttle.send (throttle : Throttle) (passes : Nat) : Throttle where
  now := throttle.now + passes
  lastRequestAt := throttle.now + passes
  sent := throttle.sent ++ [throttle.now + passes]

/-- How long a search waits for its slot. -/
def Throttle.waitMs (throttle : Throttle) : Nat :=
  max 0 ((minIntervalMs : Int) - ((throttle.now : Int) - throttle.lastRequestAt)) |>.toNat

/-- `geocodeSearch`, from one await to the next. -/
def Throttle.resume (market : Market) (throttle : Throttle) (answer : SearchAnswer) : Search → Throttle × Search
  | .called query limit =>
    let q := trim query
    if q.length < 3 then (throttle, .done (some []))
    else if 0 < throttle.waitMs then
      (throttle, .waiting q limit throttle.lastRequestAt (throttle.now + throttle.waitMs))
    else (throttle.send answer.passes, .fetching q limit)
  | .waiting q limit seen due =>
    -- The timer fires no earlier than asked.
    if throttle.now < due then (throttle, .waiting q limit seen due)
    else (throttle.send answer.passes, .fetching q limit)
  | .fetching _ _ => (throttle, .done (answer.response.results market))
  | .done results => (throttle, .done results)

/-- A search that somebody makes: `resolveToken`, a dispatcher's search box or a customer's. -/
structure SearchEntry where
  query : Text
  limit : Nat := 5
  deriving DecidableEq

/-- Every search of one process. The timestamp is lost with it. -/
def geocoder (market : Market) : EventLoop Throttle SearchEntry Search SearchAnswer Nat where
  start := fun entry => .called entry.query entry.limit
  resume := fun throttle answer search => throttle.resume market answer search
  outside := fun elapsed throttle => { throttle with now := throttle.now + elapsed }
  crash := fun throttle => { now := throttle.now }

/-- Searches on the loop. -/
abbrev SearchLoop := Loop Throttle Search

/-- What can happen next. -/
abbrev SearchEvent := LoopEvent SearchEntry SearchAnswer Nat

/-- A process that has just been started, at some time. -/
def started (now : Nat) : SearchLoop := { shared := { now := now }, tasks := [] }

/-- Any two requests are as far apart as they have to be. -/
def Spaced (sent : List Nat) : Prop := sent.Pairwise fun earlier later => earlier + minIntervalMs ≤ later

/--
Nobody has sent a request while a search waited for its slot.

Or if somebody has, the timer has fired so late that the next slot has come as well.
-/
def Search.undisturbed (throttle : Throttle) (answer : SearchAnswer) : Search → Bool
  | .waiting _ _ seen due => throttle.now < due || throttle.lastRequestAt = seen ||
    throttle.lastRequestAt + minIntervalMs ≤ throttle.now + answer.passes
  | _ => true

/-- The search that is resumed has not been disturbed. -/
def Undisturbed (loop : SearchLoop) : SearchEvent → Prop
  | .resume index answer => ∀ search ∈ loop.tasks[index]?, search.undisturbed loop.shared answer = true
  | _ => True

instance (loop : SearchLoop) : DecidablePred (Undisturbed loop)
  | .resume index _ => inferInstanceAs (Decidable (∀ search ∈ loop.tasks[index]?, _))
  | .call _ | .outside _ | .crash => inferInstanceAs (Decidable True)

/-- What is kept of the slots while searches are in flight. -/
structure Slotted (throttle : Throttle) (searches : List Search) : Prop where
  spaced : Spaced throttle.sent
  /-- The timestamp is that of the last request. -/
  last : ∀ time ∈ throttle.sent, time ≤ throttle.lastRequestAt
  past : throttle.lastRequestAt ≤ throttle.now
  /-- A search waits until the slot behind the request it saw, or behind one that has been sent since. -/
  waits : ∀ search ∈ searches, ∀ q limit seen due, search = .waiting q limit seen due →
    seen + minIntervalMs ≤ due ∧ (throttle.lastRequestAt = seen ∨ throttle.lastRequestAt ∈ throttle.sent)

section
variable {market : Market} {throttle : Throttle} {answer : SearchAnswer} {search : Search} {others : List Search}

/-- Requests stay spaced when the next comes far enough behind the last. -/
theorem spaced_concat {sent : List Nat} {time : Nat} :
    Spaced (sent ++ [time]) ↔ Spaced sent ∧ ∀ earlier ∈ sent, earlier + minIntervalMs ≤ time := by
  -- Only the pairs with the new one are new.
  simp [Spaced, List.pairwise_append]

/-- The wait that is asked for ends where the slot behind the last request begins. -/
theorem Throttle.waitMs_due (waits : 0 < throttle.waitMs) :
    throttle.lastRequestAt + minIntervalMs ≤ throttle.now + throttle.waitMs := by
  -- The wait is what is missing to the end of the interval.
  unfold Throttle.waitMs at *
  omega

/-- Where there is nothing to wait for, the slot has come. -/
theorem Throttle.slot_of_waitMs (none : ¬ 0 < throttle.waitMs) :
    throttle.lastRequestAt + minIntervalMs ≤ throttle.now := by
  -- What is missing to the end of the interval is nothing.
  unfold Throttle.waitMs at none
  omega

/-- A search that does not wait for a slot may be among the others. -/
theorem Slotted.cons (inv : Slotted throttle others) (idle : ∀ q limit seen due, search ≠ .waiting q limit seen due) :
    Slotted throttle (search :: others) where
  -- It is the new search, which waits for nothing, or one of the others.
  spaced := inv.spaced
  last := inv.last
  past := inv.past
  waits := by
    intro one member q limit seen due is
    rcases List.mem_cons.mp member with rfl | other
    · exact absurd is (idle q limit seen due)
    · exact inv.waits one other q limit seen due is

/-- The others keep what they wait for when one is taken out. -/
theorem Slotted.tail (inv : Slotted throttle (search :: others)) : Slotted throttle others where
  -- Each part is about all that wait, and there is one less.
  spaced := inv.spaced
  last := inv.last
  past := inv.past
  waits := fun one member => inv.waits one (List.mem_cons_of_mem _ member)

/-- A request is sent in a slot of its own, where one has come. -/
theorem Slotted.send (inv : Slotted throttle others) {passes : Nat}
    (slot : throttle.lastRequestAt + minIntervalMs ≤ throttle.now + passes) :
    Slotted (throttle.send passes) others where
  -- The slot is a whole interval after the last request, and now the last request itself.
  spaced := spaced_concat.mpr ⟨inv.spaced, fun earlier sent =>
    (Nat.add_le_add_right (inv.last earlier sent) _).trans slot⟩
  last := by
    intro time sent
    have past := inv.past
    rcases List.mem_append.mp sent with before | now
    · exact (inv.last time before).trans (past.trans (Nat.le_add_right _ _))
    · exact (List.mem_singleton.mp now).le
  past := le_rfl
  waits := by
    rintro one member q limit seen due rfl
    exact ⟨(inv.waits _ member q limit seen due rfl).1, .inr (by simp [Throttle.send])⟩

/-- A search that is resumed undisturbed keeps what is kept. -/
theorem Slotted.resume (inv : Slotted throttle (search :: others))
    (calm : search.undisturbed throttle answer = true) :
    Slotted (throttle.resume market answer search).1 ((throttle.resume market answer search).2 :: others) := by
  cases search with
  | called query limit =>
    simp only [Throttle.resume]
    split
    · -- A query of fewer than three letters sends nothing.
      exact inv.tail.cons (by simp)
    · split
      · -- The timer is set for the slot behind the request that was seen.
        rename_i waits
        refine { inv.tail with waits := ?_ }
        rintro one member q limit' seen due rfl
        rcases List.mem_cons.mp member with same | other
        · cases same
          exact ⟨Throttle.waitMs_due waits, .inl rfl⟩
        · exact inv.tail.waits _ other q limit' seen due rfl
      · -- The slot has come already.
        rename_i none
        have slot := Throttle.slot_of_waitMs none
        exact (inv.tail.send (slot.trans (Nat.le_add_right _ _))).cons (by simp)
  | waiting q limit seen due =>
    simp only [Throttle.resume]
    split
    · -- The timer has not fired, and the search waits on.
      exact inv
    · -- Undisturbed, the slot it waited for is still the next one.
      rename_i fired
      have behind := (inv.waits _ List.mem_cons_self q limit seen due rfl).1
      have slot : throttle.lastRequestAt + minIntervalMs ≤ throttle.now + answer.passes := by
        simp only [Search.undisturbed, Bool.or_eq_true, decide_eq_true_eq] at calm
        omega
      exact (inv.tail.send slot).cons (by simp)
  | fetching q limit => exact inv.tail.cons (by simp [Throttle.resume])
  | done results => exact inv

/-- What is kept is kept by every event that disturbs no search. -/
theorem slotted_keeps (market : Market) : (geocoder market).Keeps Slotted Undisturbed where
  perm same inv :=
    { inv with waits := fun search member => inv.waits search (same.mem_iff.mpr member) }
  resumes := fun found inv calm => inv.resume (calm _ found)
  calls := fun inv _ => inv.cons (by simp [geocoder])
  happens := fun inv _ => { inv with past := inv.past.trans (Nat.le_add_right _ _) }
  crashes := by
    -- Nothing that was in flight is left, nor anything it was spaced from.
    intro loop _ _
    exact ⟨List.Pairwise.nil, by simp [geocoder], Nat.zero_le _, by simp⟩

/-- A search that is resumed into a slot of its own was not disturbed. -/
theorem undisturbed_of_spaced (inv : Slotted throttle (search :: others))
    (spaced : Spaced (throttle.resume market answer search).1.sent) : search.undisturbed throttle answer = true := by
  cases search with
  | waiting q limit seen due =>
    simp only [Search.undisturbed, Bool.or_eq_true, decide_eq_true_eq]
    by_cases early : throttle.now < due
    · exact .inl (.inl early)
    · rcases (inv.waits _ List.mem_cons_self q limit seen due rfl).2 with same | sent
      · exact .inl (.inr same)
      · -- The last request is one of those the new one has to keep away from.
        simp only [Throttle.resume, if_neg early, Throttle.send] at spaced
        exact .inr ((spaced_concat.mp spaced).2 _ sent)
  | _ => rfl

end

/--
Requests are spaced exactly where no search is disturbed while it waits for its slot.

Whoever makes the searches, however they interleave at the await, and however late the timers fire.
-/
theorem requests_spaced_iff {market : Market} {now : Nat} {events : List SearchEvent} :
    Throughout (geocoder market).step (fun loop => Spaced loop.shared.sent) (started now) events ↔
      Along (geocoder market).step Undisturbed (started now) events := by
  have start : Slotted (started now).shared (started now).tasks :=
    ⟨List.Pairwise.nil, by simp [started], Nat.zero_le _, by simp [started]⟩
  refine throughout_iff_of_invariant (fun loop (inv : Slotted loop.shared loop.tasks) => inv.spaced) ?_
    (fun loop event inv calm => (slotted_keeps market).step loop event inv calm) start
  intro loop event inv spaced
  cases event with
  | resume index answer =>
    -- The search that is resumed is taken out, and put first among those in flight.
    intro search found
    obtain ⟨others, all, shared, -⟩ := @EventLoop.step_resume_found _ _ _ _ _ (geocoder market) loop index search
      answer found
    rw [shared] at spaced
    exact undisturbed_of_spaced ((slotted_keeps market).perm all inv) spaced
  | _ => trivial

/-- Three searches made at once: the first is sent, and the other two wait for the same slot. -/
def threeAtOnce : List SearchEvent :=
  [.call { query := "gikondo".toList }, .call { query := "kimironko".toList }, .call { query := "remera".toList },
    .resume 0 {}, .resume 1 {}, .resume 2 {}, .outside 1100, .resume 1 {}, .resume 2 {}]

/-- Two requests are sent at the same time. -/
theorem sent_together :
    ¬ ∀ (market : Market) (now : Nat) (events : List SearchEvent),
      Throughout (geocoder market).step (fun loop => Spaced loop.shared.sent) (started now) events := by
  -- The second and the third are sent within the same millisecond.
  intro always
  have spaced := (always {} 5000 threeAtOnce).last
  have together : (run (geocoder {}).step (started 5000) threeAtOnce).shared.sent = [5000, 6100, 6100] := by
    decide +kernel
  rw [together] at spaced
  exact absurd spaced (by unfold Spaced; decide)

end Freight.Places
