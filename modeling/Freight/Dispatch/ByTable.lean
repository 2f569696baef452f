import Freight.Dispatch.Changes

/-! When an order's status keeps to the transition table, and what follows while it does. -/

namespace Freight.Dispatch

/-- A status an order may have after another: the same, one the table allows, or the proof of delivery. -/
def OnTable (source target : OrderStatus) : Prop :=
  target = source ∨ canTransition source target = true ∨ source = .arrived ∧ target = .delivered

instance (source target : OrderStatus) : Decidable (OnTable source target) :=
  inferInstanceAs (Decidable (_ ∨ _ ∨ _))

/-- An event that takes every order's status along the table. -/
def MovesOnTable (cfg : DispatchConfig) (board : Board) (event : DispatchEvent) : Prop :=
  ∀ id source target, board.statusOf id = some source →
    (step cfg board event).statusOf id = some target → OnTable source target

/-- Further along the journey, and never out of a status that ends it. -/
def Forward (source target : OrderStatus) : Prop :=
  stage source ≤ stage target ∧ (isTerminal source = true → target = source)

instance (source target : OrderStatus) : Decidable (Forward source target) :=
  inferInstanceAs (Decidable (_ ∧ _))

/-- Every order of one board is on a later one, and no further back. -/
def NoFurtherBack (board later : Board) : Prop :=
  ∀ id source, board.statusOf id = some source →
    ∃ target, later.statusOf id = some target ∧ Forward source target

/-- Every status in a run follows the one before it on the table, and so no order ever goes back. -/
structure KeepsToTable (cfg : DispatchConfig) (board : Board) (events : List DispatchEvent) :
    Prop where
  /-- Consecutive statuses are allowed. -/
  allowed : Along (step cfg) (MovesOnTable cfg) board events
  /-- Between any two boards of the run, orders only move forward, and finished ones stay finished. -/
  forward : ∀ before after, before ++ after <+: events →
    NoFurtherBack (run (step cfg) board before) (run (step cfg) board (before ++ after))

/-- The statuses a stop may find its order in: those it follows on the table, and its own. -/
def completableFrom : StopKind → List OrderStatus
  | .pickup => [.assigned, .atPickup, .pickedUp]
  | .drop => [.arrived, .delivered]

/-- A stop marked done finds its order ready for it. -/
def StopsInTurn (cfg : DispatchConfig) (board : Board) (event : DispatchEvent) : Prop :=
  ∀ requester stopId status reason stop trip order,
    event = .updateStop requester stopId status reason →
    stopChange cfg board requester stopId status reason = .ok (stop, trip, .done) →
    board.order stop.orderId = some order → order.status ∈ completableFrom stop.kind

/-- A stop takes its order along the table exactly when it finds it ready. -/
theorem onTable_completion (source : OrderStatus) (kind : StopKind) :
    OnTable source (stopCompletionOrderStatus kind) ↔ source ∈ completableFrom kind := by
  -- Each status against each kind of stop.
  cases source <;> cases kind <;> decide

/-- Along the table is forward. -/
theorem forward_of_onTable {source target : OrderStatus} (moves : OnTable source target) :
    Forward source target := by
  rcases moves with rfl | allowed | ⟨rfl, rfl⟩
  · exact ⟨Nat.le_refl _, fun _ => rfl⟩
  · refine ⟨stage_le_of_canTransition allowed, fun ended => ?_⟩
    -- The table lets nothing leave a status that ends the journey.
    cases source <;> cases target <;> first | (revert allowed; decide) | (revert ended; decide)
  · decide

/-- Whatever an event does to an order, only a completed stop leaves the table. -/
theorem onTable_of_change {cfg : DispatchConfig} {board : Board} {event : DispatchEvent} {id : Nat}
    {order : DispatchOrder} {next : Standing} (turn : StopsInTurn cfg board event)
    (found : board.order id = some order) (change : Change cfg board id event order.standing next) :
    OnTable order.status next.status := by
  -- One case for each kind of change, with the statuses it starts from.
  generalize old : order.standing = standing at change
  have status : standing.status = order.status := by rw [← old]; rfl
  cases change with
  | kept => exact .inl status
  | assigned driver vehicle was =>
    rw [← status, was]
    show OnTable .pending .assigned
    decide
  | reassigned driver vehicle was => exact .inl status
  | unassigned was =>
    rw [← status, was]
    show OnTable .assigned .pending
    decide
  | updated requester moved target code later allowed => exact .inr (.inl (status ▸ allowed))
  | offered driver expiry was =>
    rw [← status, was]
    show OnTable .pending .offered
    decide
  | accepted requester was =>
    rw [← status, was]
    show OnTable .offered .assigned
    decide
  | released was =>
    rw [← status, was]
    show OnTable .offered .pending
    decide
  | taken driver =>
    -- Taken by a run, a waiting order is assigned, which is on the table.
    by_cases waiting : standing.status = .pending
    · simp only [waiting, if_true]
      rw [← status, waiting]
      show OnTable .pending .assigned
      decide
    · simp only [waiting, if_false]
      exact .inl status
  | stopDone requester stopId asked reason stop trip passes own named =>
    subst own
    exact (onTable_completion _ _).mpr (turn _ _ _ _ _ _ order named passes found)
  | delivered requester proof was =>
    rw [← status, List.mem_singleton.mp was]
    show OnTable .arrived .delivered
    decide

/-- An event keeps to the table exactly when the stop it completes, if any, comes in its turn. -/
theorem movesOnTable_iff {cfg : DispatchConfig} {board : Board} {event : DispatchEvent} :
    MovesOnTable cfg board event ↔ StopsInTurn cfg board event := by
  constructor
  · -- A stop that passes its checks writes its own status whatever it finds.
    rintro moves requester stopId status reason stop trip order rfl passes found
    refine (onTable_completion _ _).mp (moves stop.orderId _ _ ?_ ?_)
    · rw [Board.statusOf, found, Option.map_some]
    · rw [Board.statusOf, stopDone_order passes found, Option.map_some]
      rfl
  · intro turn id source target before after
    obtain ⟨order, found, rfl⟩ := Option.map_eq_some_iff.mp before
    obtain ⟨next, also, change⟩ := step_changes cfg event found
    rw [Board.statusOf, also, Option.map_some, Option.some.injEq] at after
    subst after
    exact onTable_of_change turn found change

/-- One event along the table takes no order back. -/
theorem noFurtherBack_of_moves {cfg : DispatchConfig} {board : Board} {event : DispatchEvent}
    (moves : MovesOnTable cfg board event) : NoFurtherBack board (step cfg board event) := by
  -- An order keeps its row through an event, and the table has no way back.
  intro id source before
  obtain ⟨order, found, -⟩ := Option.map_eq_some_iff.mp before
  obtain ⟨next, also, -⟩ := step_changes cfg event found
  have after : (step cfg board event).statusOf id = some next.status := by
    rw [Board.statusOf, also, Option.map_some]
  exact ⟨next.status, after, forward_of_onTable (moves id source next.status before after)⟩

/-- No further back is no further back over any number of boards. -/
theorem NoFurtherBack.trans {one two three : Board} (first : NoFurtherBack one two)
    (second : NoFurtherBack two three) : NoFurtherBack one three := by
  intro id source found
  obtain ⟨middle, there, le, ends⟩ := first id source found
  obtain ⟨last, after, le', ends'⟩ := second id middle there
  refine ⟨last, after, Nat.le_trans le le', fun ended => ?_⟩
  -- A finished order is finished in the middle, and then at the end.
  have same := ends ended
  rw [ends' (same ▸ ended), same]

/-- A run keeps to the table exactly when every stop that is marked done finds its order ready. -/
theorem keepsToTable_iff (cfg : DispatchConfig) (board : Board) (events : List DispatchEvent) :
    KeepsToTable cfg board events ↔ Along (step cfg) (StopsInTurn cfg) board events := by
  rw [← along_congr fun _ _ => movesOnTable_iff]
  refine ⟨KeepsToTable.allowed, fun allowed => ⟨allowed, fun before after shorter => ?_⟩⟩
  -- The boards after the earlier one are linked to it event by event.
  rw [run_append]
  have linked := (along_append.mp (allowed.before shorter)).2.mono fun _ _ => noFurtherBack_of_moves
  refine @Along.related _ _ _ NoFurtherBack (fun _ id source found => ?_) NoFurtherBack.trans _ _ linked
  exact ⟨source, found, Nat.le_refl _, fun _ => rfl⟩

/-- A run without a driver is planned, its order is cancelled, and its drop is marked done after all. -/
def cancelledThenDropped : List DispatchEvent :=
  [.createTrip aDispatcher [1] none none,
    .updateOrderStatus aDispatcher 1 (some .cancelled) "4821" false,
    .updateStop aDispatcher 2 (some .done) none]

/-- A completed drop takes a cancelled order to delivered. -/
theorem dropped_leaves_table : ¬ KeepsToTable .kigali oneWaiting cancelledThenDropped := by
  intro keeps
  -- Before the third event the order is cancelled, and a cancelled order would have to stay so.
  obtain ⟨target, after, -, ended⟩ := keeps.forward (cancelledThenDropped.take 2)
    (cancelledThenDropped.drop 2) (List.prefix_refl _) 1 .cancelled (by decide +kernel)
  have delivered : (run (step .kigali) oneWaiting cancelledThenDropped).statusOf 1 =
      some .delivered := by decide +kernel
  have same : some target = some OrderStatus.delivered := after.symm.trans delivered
  rw [ended rfl] at same
  cases same

end Freight.Dispatch
