import Mathlib.Data.List.Basic
import Mathlib.Data.List.Induction

/-! Runs of a step function: the states an event list passes through, and what holds of them. -/

namespace Freight

variable {σ ε : Type*}

/-- The state a list of events leads to. -/
def run (step : σ → ε → σ) (state : σ) (events : List ε) : σ :=
  -- Events are applied in the order they are listed.
  events.foldl step state

/-- Every event of the run is admissible in the state it is applied to. -/
def Along (step : σ → ε → σ) (admissible : σ → ε → Prop) : σ → List ε → Prop
  -- The condition reads the state before the step, never what the step leads to.
  | _, [] => True
  | state, event :: rest => admissible state event ∧ Along step admissible (step state event) rest

/-- Every state the run passes through satisfies a property, its first and last included. -/
def Throughout (step : σ → ε → σ) (holds : σ → Prop) (state : σ) (events : List ε) : Prop :=
  -- The states of a run are the ends of its prefixes.
  ∀ before, before <+: events → holds (run step state before)

/-- Once a state of the run satisfies a property, every later state of the run does. -/
def Stays (step : σ → ε → σ) (holds : σ → Prop) (state : σ) (events : List ε) : Prop :=
  -- A later state is the end of a longer prefix.
  ∀ before after, before ++ after <+: events →
    holds (run step state before) → holds (run step state (before ++ after))

/-- Somewhere on the way to where a run stands a property held. -/
def Once (step : σ → ε → σ) (holds : σ → Prop) (state : σ) (prior : List ε) : Prop :=
  ∃ before, before <+: prior ∧ holds (run step state before)

/-- From any state that satisfies a property on, what is read off the states never changes. -/
def FixedOnce {α : Type*} (step : σ → ε → σ) (holds : σ → Prop) (reading : σ → α) (state : σ)
    (events : List ε) : Prop :=
  ∀ before after, before ++ after <+: events → holds (run step state before) →
    reading (run step state (before ++ after)) = reading (run step state before)

/-- Admissibility of a concrete run is decided event by event. -/
instance Along.decidable (step : σ → ε → σ) (admissible : σ → ε → Prop)
    [each : ∀ state event, Decidable (admissible state event)] :
    (state : σ) → (events : List ε) → Decidable (Along step admissible state events)
  | _, [] => inferInstanceAs (Decidable True)
  | state, event :: rest =>
    have := Along.decidable step admissible (step state event) rest
    inferInstanceAs (Decidable (admissible state event ∧ _))

/-- Without events nothing changes. -/
@[simp] theorem run_nil (step : σ → ε → σ) (state : σ) : run step state [] = state := rfl

/-- A run takes its first event, and goes on from there. -/
@[simp] theorem run_cons (step : σ → ε → σ) (state : σ) (event : ε) (rest : List ε) :
    run step state (event :: rest) = run step (step state event) rest := rfl

/-- Running two lists in turn is running their concatenation. -/
theorem run_append (step : σ → ε → σ) (state : σ) (first second : List ε) :
    run step state (first ++ second) = run step (run step state first) second := by
  -- The fold over a concatenation folds the second list from the first one's result.
  simp [run, List.foldl_append]

/-- A concatenation is admissible when each part is, the second from where the first ends. -/
theorem along_append {step : σ → ε → σ} {admissible : σ → ε → Prop} {state : σ}
    {first second : List ε} :
    Along step admissible state (first ++ second) ↔
      Along step admissible state first ∧ Along step admissible (run step state first) second := by
  -- Each event of the first list peels off one conjunct on both sides.
  induction first generalizing state with
  | nil => simp [Along]
  | cons event rest ih => simp [Along, ih, and_assoc]

/-- Where every event is admissible, every run is. -/
theorem along_of_forall {step : σ → ε → σ} {admissible : σ → ε → Prop}
    (always : ∀ state event, admissible state event) (state : σ) (events : List ε) :
    Along step admissible state events := by
  -- Along the run, whatever state it is in.
  induction events generalizing state with
  | nil => trivial
  | cons event rest ih => exact ⟨always state event, ih (step state event)⟩

/-- Weakening the condition keeps a run admissible. -/
theorem Along.mono {step : σ → ε → σ} {strong weak : σ → ε → Prop}
    (weaker : ∀ state event, strong state event → weak state event) {state : σ} {events : List ε}
    (along : Along step strong state events) : Along step weak state events := by
  -- The same states are visited, and each conjunct is weakened in place.
  induction events generalizing state with
  | nil => trivial
  | cons event rest ih => exact ⟨weaker _ _ along.1, ih along.2⟩

/-- So does weakening it where an invariant holds that it keeps. -/
theorem Along.mono_under {step : σ → ε → σ} {inv : σ → Prop} {strong weak : σ → ε → Prop}
    (keeps : ∀ state event, inv state → strong state event → inv (step state event))
    (weaker : ∀ state event, inv state → strong state event → weak state event) {state : σ} {events : List ε}
    (initial : inv state) (along : Along step strong state events) : Along step weak state events := by
  -- The invariant is carried to the state each event starts from.
  induction events generalizing state with
  | nil => trivial
  | cons event rest ih => exact ⟨weaker _ _ initial along.1, ih (keeps _ _ initial along.1) along.2⟩

/-- A run admissible in two ways is admissible in both at once. -/
theorem Along.and {step : σ → ε → σ} {one other : σ → ε → Prop} {state : σ} {events : List ε}
    (first : Along step one state events) (second : Along step other state events) :
    Along step (fun state event => one state event ∧ other state event) state events := by
  -- The conjuncts of the two runs pair up event by event.
  induction events generalizing state with
  | nil => trivial
  | cons event rest ih => exact ⟨⟨first.1, second.1⟩, ih first.2 second.2⟩

/-- Every event of a run is one of the run's own. -/
theorem Along.listed {step : σ → ε → σ} {admissible : σ → ε → Prop} {state : σ}
    {events all : List ε} (within : ∀ event ∈ events, event ∈ all)
    (along : Along step admissible state events) :
    Along step (fun state event => event ∈ all ∧ admissible state event) state events := by
  -- The list the run is compared with stays, while the events are taken off its own.
  induction events generalizing state with
  | nil => trivial
  | cons event rest ih =>
    exact ⟨⟨within event List.mem_cons_self, along.1⟩,
      ih (fun other member => within other (List.mem_cons_of_mem _ member)) along.2⟩

/-- Every prefix of an admissible run is admissible. -/
theorem Along.before {step : σ → ε → σ} {admissible : σ → ε → Prop} {state : σ}
    {before events : List ε} (along : Along step admissible state events)
    (shorter : before <+: events) : Along step admissible state before := by
  -- A prefix is the first of two parts of the run.
  obtain ⟨after, rfl⟩ := shorter
  exact (along_append.mp along).1

/-- An invariant that every admissible step keeps holds where an admissible run ends. -/
theorem Along.invariant {step : σ → ε → σ} {admissible : σ → ε → Prop} {inv : σ → Prop}
    (keeps : ∀ state event, inv state → admissible state event → inv (step state event))
    {state : σ} {events : List ε} (initial : inv state)
    (along : Along step admissible state events) : inv (run step state events) := by
  -- The induction follows the events, carrying the invariant to the state each one starts from.
  induction events generalizing state with
  | nil => exact initial
  | cons event rest ih => exact ih (keeps _ _ initial along.1) along.2

/-- An invariant that every admissible step keeps holds throughout an admissible run. -/
theorem Along.throughout {step : σ → ε → σ} {admissible : σ → ε → Prop} {inv : σ → Prop}
    (keeps : ∀ state event, inv state → admissible state event → inv (step state event))
    {state : σ} {events : List ε} (initial : inv state)
    (along : Along step admissible state events) : Throughout step inv state events :=
  -- Each state passed through is the end of an admissible prefix.
  fun _ shorter => (along.before shorter).invariant keeps initial

/-- A reflexive and transitive relation between neighbouring states holds across the run. -/
theorem Along.related {step : σ → ε → σ} {rel : σ → σ → Prop} (refl : ∀ state, rel state state)
    (trans : ∀ {one two three}, rel one two → rel two three → rel one three) {state : σ}
    {events : List ε} (along : Along step (fun state event => rel state (step state event)) state events) :
    rel state (run step state events) := by
  -- Each event adds one link to the chain.
  induction events generalizing state with
  | nil => exact refl state
  | cons event rest ih => exact trans along.1 (ih along.2)

/-- So does one that holds between neighbours only where an invariant does. -/
theorem Along.related_under {step : σ → ε → σ} {admissible : σ → ε → Prop} {inv : σ → Prop}
    {rel : σ → σ → Prop} (refl : ∀ state, rel state state)
    (trans : ∀ {one two three}, rel one two → rel two three → rel one three)
    (keeps : ∀ state event, inv state → admissible state event → inv (step state event))
    (each : ∀ state event, inv state → admissible state event → rel state (step state event))
    {state : σ} {events : List ε} (initial : inv state)
    (along : Along step admissible state events) : rel state (run step state events) := by
  -- The invariant is carried along with the chain.
  induction events generalizing state with
  | nil => exact refl state
  | cons event rest ih =>
    exact trans (each state event initial along.1) (ih (keeps state event initial along.1) along.2)

/-- An invariant that every step keeps holds throughout every run. -/
theorem throughout_of_step {step : σ → ε → σ} {inv : σ → Prop}
    (keeps : ∀ state event, inv state → inv (step state event)) {state : σ} (initial : inv state)
    {events : List ε} : Throughout step inv state events := by
  intro before _
  -- The induction follows the prefix, carrying the invariant to the state each event starts from.
  induction before generalizing state events with
  | nil => exact initial
  | cons event rest ih => exact @ih _ (keeps _ _ initial) rest (List.prefix_refl _)

/-- What an invariant implies holds throughout with it. -/
theorem Throughout.mono {step : σ → ε → σ} {strong weak : σ → Prop}
    (weaker : ∀ state, strong state → weak state) {state : σ} {events : List ε}
    (throughout : Throughout step strong state events) : Throughout step weak state events :=
  fun before shorter => weaker _ (throughout before shorter)

/-- A property holding throughout holds in the last state. -/
theorem Throughout.last {step : σ → ε → σ} {holds : σ → Prop} {state : σ} {events : List ε}
    (throughout : Throughout step holds state events) : holds (run step state events) :=
  throughout events (List.prefix_refl events)

/-- A property stays exactly when no single step of the run destroys it. -/
theorem stays_iff_along {step : σ → ε → σ} {holds : σ → Prop} {state : σ} {events : List ε} :
    Stays step holds state events ↔
      Along step (fun state event => holds state → holds (step state event)) state events := by
  constructor
  · -- Each step of the run is a pair of neighbouring prefixes.
    intro stays
    induction events generalizing state with
    | nil => trivial
    | cons event rest ih =>
      refine ⟨fun held => ?_, ih fun before after shorter held => ?_⟩
      · simpa using stays [] [event] (by simp) held
      · simpa using stays (event :: before) after (by simpa using shorter) held
  · -- From the earlier prefix on, every step carries the property forward.
    intro along before after shorter held
    rw [run_append]
    exact (along_append.mp (along.before shorter)).2.invariant
      (fun _ _ held keeps => keeps held) held

/-- Pointwise equivalent conditions admit the same runs. -/
theorem along_congr {step : σ → ε → σ} {one other : σ → ε → Prop}
    (same : ∀ state event, one state event ↔ other state event) {state : σ} {events : List ε} :
    Along step one state events ↔ Along step other state events :=
  ⟨Along.mono fun _ _ => (same _ _).mp, Along.mono fun _ _ => (same _ _).mpr⟩

/-- What holds at the end and not at the start of a run began at one of its events, and stayed. -/
theorem run_becomes {step : σ → ε → σ} {holds : σ → Prop} {state : σ} {events : List ε}
    (not_yet : ¬ holds state) (by_now : holds (run step state events)) :
    ∃ prior event rest, events = prior ++ event :: rest ∧ ¬ holds (run step state prior) ∧
      ∀ after, after <+: rest → holds (run step state (prior ++ event :: after)) := by
  -- The induction takes events off the end, until the last one that made a difference is found.
  induction events using List.reverseRecOn with
  | nil => exact absurd by_now not_yet
  | append_singleton before last ih =>
    by_cases already : holds (run step state before)
    · obtain ⟨prior, event, rest, rfl, fails, stays⟩ := ih already
      refine ⟨prior, event, rest ++ [last], by simp, fails, fun after shorter => ?_⟩
      rcases List.prefix_concat_iff.mp shorter with rfl | within
      · simpa using by_now
      · exact stays after within
    · refine ⟨before, last, [], rfl, already, fun after shorter => ?_⟩
      rw [List.prefix_nil.mp shorter]
      exact by_now

/-- A condition on each step is exact when it is what keeps an invariant and makes a step good. -/
theorem along_iff_of_invariant {step : σ → ε → σ} {inv weak : σ → Prop} {good condition : σ → ε → Prop}
    (weaker : ∀ state, inv state → weak state)
    (meets : ∀ state event, inv state → good state event → weak (step state event) →
      condition state event)
    (keeps : ∀ state event, inv state → condition state event →
      inv (step state event) ∧ good state event)
    {state : σ} {events : List ε} (initial : inv state) :
    (Throughout step weak state events ∧ Along step good state events) ↔
      Along step condition state events := by
  constructor
  · rintro ⟨throughout, along⟩
    -- The invariant is rebuilt from the condition one event at a time.
    induction events generalizing state with
    | nil => trivial
    | cons event rest ih =>
      have first := throughout [event] (by simp)
      have met := meets state event initial along.1 first
      refine ⟨met, ih (keeps state event initial met).1 (fun before shorter => ?_) along.2⟩
      simpa using throughout (event :: before) (by simpa using shorter)
  · intro along
    refine ⟨(along.throughout (fun state event held met => (keeps state event held met).1)
      initial).mono weaker, ?_⟩
    induction events generalizing state with
    | nil => trivial
    | cons event rest ih =>
      exact ⟨(keeps state event initial along.1).2, ih (keeps state event initial along.1).1 along.2⟩

/-- A condition is exact for a property of states when it is what keeps an invariant behind it. -/
theorem throughout_iff_of_invariant {step : σ → ε → σ} {inv weak : σ → Prop} {condition : σ → ε → Prop}
    (weaker : ∀ state, inv state → weak state)
    (meets : ∀ state event, inv state → weak (step state event) → condition state event)
    (keeps : ∀ state event, inv state → condition state event → inv (step state event))
    {state : σ} {events : List ε} (initial : inv state) :
    Throughout step weak state events ↔ Along step condition state events := by
  -- Nothing more is asked of a step than where it leads.
  have both := @along_iff_of_invariant _ _ step inv weak (fun _ _ => True) condition weaker
    (fun state event held _ => meets state event held)
    (fun state event held met => ⟨keeps state event held met, trivial⟩) state events initial
  refine ⟨fun throughout => both.mp ⟨throughout, ?_⟩, fun along => (both.mpr along).1⟩
  clear both throughout initial
  induction events generalizing state with
  | nil => trivial
  | cons event rest ih => exact ⟨trivial, ih⟩

/-- So it is along runs that are held to something else as well. -/
theorem throughout_iff_along {step : σ → ε → σ} {inv weak : σ → Prop} {admissible condition : σ → ε → Prop}
    (weaker : ∀ state, inv state → weak state)
    (meets : ∀ state event, inv state → admissible state event → weak (step state event) →
      condition state event)
    (keeps : ∀ state event, inv state → admissible state event → condition state event →
      inv (step state event))
    {state : σ} {events : List ε} (initial : inv state) (along : Along step admissible state events) :
    Throughout step weak state events ↔ Along step condition state events := by
  constructor
  · intro throughout
    -- The invariant is rebuilt from the condition one event at a time.
    induction events generalizing state with
    | nil => trivial
    | cons event rest ih =>
      have met := meets state event initial along.1 (throughout [event] (by simp))
      refine ⟨met, ih (keeps state event initial along.1 met) along.2 fun before shorter => ?_⟩
      simpa using throughout (event :: before) (by simpa using shorter)
  · intro conditions
    exact ((along.and conditions).throughout
      (fun state event held both => keeps state event held both.1 both.2) initial).mono weaker

/-- A run is admissible exactly when each of its events is, in the state that the ones before it lead to. -/
theorem along_iff_each {step : σ → ε → σ} {admissible : σ → ε → Prop} {state : σ} {events : List ε} :
    Along step admissible state events ↔
      ∀ prior event rest, events = prior ++ event :: rest → admissible (run step state prior) event := by
  constructor
  · rintro along prior event rest rfl
    exact (along_append.mp along).2.1
  · intro each
    -- The first event is taken off, and put before every prior list of the rest.
    induction events generalizing state with
    | nil => trivial
    | cons first others ih =>
      refine ⟨each [] first others rfl, ih fun prior event rest same => ?_⟩
      exact each (first :: prior) event rest (by rw [same]; rfl)

/-- A run is admissible in every one of some ways exactly when each event is, in all of them. -/
theorem along_forall {ι : Sort*} {step : σ → ε → σ} {admissible : ι → σ → ε → Prop} {state : σ}
    {events : List ε} :
    (∀ i, Along step (admissible i) state events) ↔
      Along step (fun state event => ∀ i, admissible i state event) state events := by
  -- Read at each moment of the run, both say the same of that moment.
  simp only [along_iff_each]
  exact ⟨fun each prior event rest same i => each i prior event rest same,
    fun each i prior event rest same => each prior event rest same i⟩

/-- What is read stays fixed exactly when no event changes it after the property held once. -/
theorem fixedOnce_iff {α : Type*} {step : σ → ε → σ} {holds : σ → Prop} {reading : σ → α} {state : σ}
    {events : List ε} :
    FixedOnce step holds reading state events ↔
      ∀ prior event rest, events = prior ++ event :: rest → Once step holds state prior →
        reading (step (run step state prior) event) = reading (run step state prior) := by
  constructor
  · rintro fixed prior event rest rfl ⟨before, ⟨between, rfl⟩, held⟩
    -- The state before the event and the one after it both lie behind the state that held.
    have earlier := fixed before between (List.prefix_append _ _) held
    have later := fixed before (between ++ [event]) (by simp) held
    rw [← List.append_assoc, run_append] at later
    exact later.trans earlier.symm
  · intro each before after shorter held
    -- The events behind the state that held are taken off the end, one at a time.
    induction after using List.reverseRecOn with
    | nil => rw [List.append_nil]
    | append_singleton between event ih =>
      obtain ⟨rest, rfl⟩ := shorter
      have step_same := each (before ++ between) event rest (by simp)
        ⟨before, List.prefix_append _ _, held⟩
      have so_far := ih ⟨event :: rest, by simp⟩
      rw [← List.append_assoc, run_append]
      exact step_same.trans so_far

/-- A run with further events among its own stays related to the run without them. -/
theorem run_simulated {τ ε' : Type*} {step : σ → ε → σ} {more : τ → ε' → τ} {own : ε' → Option ε}
    {rel : σ → τ → Prop}
    (moves : ∀ state other event shared, rel state other → own event = some shared →
      rel (step state shared) (more other event))
    (beside : ∀ state other event, rel state other → own event = none → rel state (more other event))
    {state : σ} {other : τ} (initial : rel state other) (events : List ε') :
    rel (run step state (events.filterMap own)) (run more other events) := by
  -- Only what is an event of both takes the first run a step further.
  induction events generalizing state other with
  | nil => exact initial
  | cons event rest ih =>
    cases both : own event with
    | none =>
      rw [List.filterMap_cons_none both]
      exact ih (beside state other event initial both)
    | some shared =>
      rw [List.filterMap_cons_some both]
      exact ih (moves state other event shared initial both)

end Freight
