import Freight.Dispatch.Changes

/-! When an order's status and its driver agree, in every board a run reaches. -/

namespace Freight.Dispatch

/-- An order on somebody's hands, from its assignment to its delivery. -/
def heldStatuses : List OrderStatus := [.assigned, .atPickup, .pickedUp, .inTransit, .arrived, .delivered]

/-- Status and assignment do not contradict each other. -/
structure Standing.Agrees (standing : Standing) : Prop where
  /-- A waiting order is nobody's. -/
  waiting : standing.status = .pending → standing.assignedTo = none ∧ standing.vehicleId = none
  /-- An offer is made to somebody, until some time. -/
  offered : standing.status = .offered →
    standing.assignedTo.isSome = true ∧ standing.offerExpiresAt.isSome = true
  /-- An assigned order has a driver, and so has every later one that was not cancelled. -/
  held : standing.status ∈ heldStatuses → standing.assignedTo.isSome = true

/-- Every order on the board agrees with itself. -/
def AllAgree (board : Board) : Prop :=
  ∀ id order, board.order id = some order → order.standing.Agrees

/-- An offered order becomes assigned only by the acceptance of the driver it is offered to. -/
def AssignedByAcceptance (cfg : DispatchConfig) (board : Board) (event : DispatchEvent) : Prop :=
  ∀ id order next, board.order id = some order → (step cfg board event).order id = some next →
    order.status = .offered → next.status = .assigned →
    ∃ requester, event = .acceptOffer requester id ∧ order.assignedTo = some requester.username

/-- Status and assignment agree throughout a run, and offers are taken by those they are made to. -/
structure NeverContradict (cfg : DispatchConfig) (board : Board) (events : List DispatchEvent) :
    Prop where
  agree : Throughout (step cfg) AllAgree board events
  accepted : Along (step cfg) (AssignedByAcceptance cfg) board events

/-- The statuses that say who an order belongs to, which a bare status update cannot make true. -/
def assignmentStatuses : List OrderStatus := [.pending, .offered, .assigned]

/-- No status update goes where an assignment has to change, and no stop is done on nobody's order. -/
structure InKeeping (cfg : DispatchConfig) (board : Board) (event : DispatchEvent) : Prop where
  /-- A status update to one of those statuses only repeats the assignment there is. -/
  updates : ∀ requester id status code committedLater order,
    event = .updateOrderStatus requester id (some status) code committedLater →
    statusChange cfg board requester id (some status) = .ok (order, status) →
    status ∈ assignmentStatuses → order.status = .assigned ∧ status = .assigned
  /-- A stop marked done is a stop of an order that has a driver. -/
  stops : ∀ requester stopId status reason stop trip order,
    event = .updateStop requester stopId status reason →
    stopChange cfg board requester stopId status reason = .ok (stop, trip, .done) →
    board.order stop.orderId = some order → order.assignedTo.isSome = true

/-- What every event in keeping preserves: agreement, and no vehicle under an order only offered. -/
structure Standing.Settled (standing : Standing) : Prop extends standing.Agrees where
  unloaded : standing.status = .offered → standing.vehicleId = none

/-- Every order on the board is settled. -/
def AllSettled (board : Board) : Prop :=
  ∀ id order, board.order id = some order → order.standing.Settled

/-- A new order is settled. -/
theorem settled_waiting : Standing.waiting.Settled := by
  -- It has no driver, and waiting is no status that holds one.
  constructor
  · constructor <;> simp [Standing.waiting, heldStatuses]
  · simp [Standing.waiting]

/-- A status that does not say whose the order is agrees with any driver it has. -/
theorem settled_moved {standing : Standing} {status : OrderStatus}
    (elsewhere : status ∉ assignmentStatuses)
    (held : status ∈ heldStatuses → standing.assignedTo.isSome = true) :
    Standing.Settled { standing with status := status } := by
  -- Only waiting and assigned orders say anything of who has them.
  constructor
  · constructor
    · rintro rfl
      exact absurd (by decide) elsewhere
    · rintro rfl
      exact absurd (by decide) elsewhere
    · exact held
  · rintro rfl
    exact absurd (by decide) elsewhere

/-- The moves the table allows to a held status start from one, or from where orders are assigned. -/
theorem held_of_canTransition {source target : OrderStatus}
    (allowed : canTransition source target = true) (elsewhere : target ∉ assignmentStatuses)
    (held : target ∈ heldStatuses) : source ∈ heldStatuses := by
  -- The table is finite, so every move in it is looked at.
  cases source <;> cases target <;> first | decide | (revert allowed held elsewhere; decide)

/-- One change of an event in keeping leaves an order settled. -/
theorem settled_of_change {cfg : DispatchConfig} {board : Board} {event : DispatchEvent} {id : Nat}
    {order : DispatchOrder} {next : Standing} (keeping : InKeeping cfg board event)
    (found : board.order id = some order) (settled : order.standing.Settled)
    (change : Change cfg board id event order.standing next) : next.Settled := by
  -- One case for each change, by what it makes of the driver, the vehicle and the status.
  generalize old : order.standing = standing at change settled
  cases change with
  | kept => exact settled
  | assigned driver vehicle was =>
    constructor
    · constructor <;> simp
    · simp
  | reassigned driver vehicle was =>
    constructor
    · constructor <;> simp [was]
    · simp [was]
  | unassigned was =>
    constructor
    · constructor <;> simp [heldStatuses]
    · simp
  | updated requester moved target code later allowed passes named =>
    -- The order its checks found is the order that stands here.
    obtain ⟨-, there, -, -⟩ := statusChange_ok passes
    obtain rfl := Option.some.inj (there.symm.trans found)
    subst old
    -- A status set back to assigned keeps the driver who is there; any other goes by the table.
    by_cases back : target ∈ assignmentStatuses
    · obtain ⟨was, rfl⟩ := keeping.updates _ _ _ _ _ _ named passes back
      have same : ({ moved.standing with status := .assigned } : Standing) = moved.standing := by
        rw [← was]
        rfl
      rw [same]
      exact settled
    · exact settled_moved back fun held => settled.held (held_of_canTransition allowed back held)
  | offered driver expiry was =>
    constructor
    · constructor <;> simp [heldStatuses]
    · exact fun _ => (settled.waiting was).2
  | accepted requester was theirs named =>
    constructor
    · constructor <;> simp [theirs]
    · simp
  | released was =>
    constructor
    · constructor
      · exact fun _ => ⟨rfl, settled.unloaded was⟩
      · simp
      · simp [heldStatuses]
    · simp
  | taken driver =>
    -- Taken by a run, a waiting order is assigned; any other only changes hands.
    by_cases waiting : standing.status = .pending
    · simp only [waiting, if_true]
      constructor
      · constructor <;> simp
      · simp
    · simp only [waiting, if_false]
      constructor
      · constructor
        · exact fun now => absurd now waiting
        · exact fun now => ⟨rfl, (settled.offered now).2⟩
        · exact fun _ => rfl
      · exact settled.unloaded
  | stopDone requester stopId asked reason stop trip passes own named =>
    subst own old
    have driver := keeping.stops _ _ _ _ _ _ order named passes found
    exact settled_moved (by cases stop.kind <;> decide) fun _ => driver
  | delivered requester proof was =>
    refine settled_moved (by decide) fun _ => settled.held ?_
    rw [List.mem_singleton.mp was]
    decide

/-- An event in keeping leaves the whole board settled. -/
theorem allSettled_step {cfg : DispatchConfig} {board : Board} {event : DispatchEvent}
    (settled : AllSettled board) (keeping : InKeeping cfg board event) :
    AllSettled (step cfg board event) := by
  -- An order that is new waits; one that was there has changed as an event in keeping changes it.
  intro id next after
  cases found : board.order id with
  | none =>
    rw [(step_follows cfg board event id).waits found next after]
    exact settled_waiting
  | some order =>
    obtain ⟨other, also, change⟩ := step_changes cfg event found
    obtain rfl := Option.some.inj (also.symm.trans after)
    exact settled_of_change keeping found (settled id order found) change

/-- An event in keeping takes no offer but by its acceptance. -/
theorem assignedByAcceptance_of_inKeeping {cfg : DispatchConfig} {board : Board}
    {event : DispatchEvent} (keeping : InKeeping cfg board event) :
    AssignedByAcceptance cfg board event := by
  -- Of the changes a standing can make, acceptance alone leads from offered to assigned.
  intro id order next found after was becomes
  obtain ⟨other, also, change⟩ := step_changes cfg event found
  obtain rfl := Option.some.inj (also.symm.trans after)
  have stood : order.standing.status = .offered := was
  have stands : other.standing.status = .assigned := becomes
  generalize old : order.standing = standing at change stood
  generalize new : other.standing = standing' at change stands
  cases change with
  | kept | reassigned => rw [stands] at stood; cases stood
  | assigned driver vehicle waited | offered driver expiry waited => rw [waited] at stood; cases stood
  | unassigned was' => rw [was'] at stood; cases stood
  | updated requester moved target code later allowed passes named =>
    obtain rfl : target = .assigned := stands
    obtain ⟨-, there, -, -⟩ := statusChange_ok passes
    obtain rfl := Option.some.inj (there.symm.trans found)
    obtain ⟨assigned, -⟩ := keeping.updates _ _ _ _ _ _ named passes (by decide)
    rw [assigned] at was
    cases was
  | accepted requester waited theirs named =>
    exact ⟨requester, named, by rw [← theirs, ← old]; rfl⟩
  | released => cases stands
  | taken driver =>
    simp only [stood] at stands
    cases stands
  | stopDone requester stopId asked reason stop trip =>
    revert stands
    cases stop.kind <;> simp [stopCompletionOrderStatus]
  | delivered => cases stands

/-- Where status and assignment have to agree afterwards, only events in keeping can happen. -/
theorem inKeeping_of_agrees {cfg : DispatchConfig} {board : Board} {event : DispatchEvent}
    (settled : AllSettled board) (accepted : AssignedByAcceptance cfg board event)
    (agrees : AllAgree (step cfg board event)) : InKeeping cfg board event := by
  constructor
  · rintro requester id status code committedLater order rfl passes back
    obtain ⟨-, found, allowed, -⟩ := statusChange_ok passes
    obtain ⟨next, after, stands⟩ := updateOrderStatus_of_passes code committedLater passes
      (by revert back; cases status <;> decide)
    have before := settled id order found
    have agree := agrees id next after
    rw [stands] at agree
    -- Every move to one of these statuses but the repeated assignment contradicts the driver there is.
    have nobody : order.status = .pending → order.assignedTo.isSome = false := fun was => by
      rw [show order.assignedTo = none from (before.waiting was).1]
      rfl
    have somebody : order.status = .offered ∨ order.status = .assigned →
        order.assignedTo.isSome = true := by
      rintro (was | was)
      · exact (before.offered was).1
      · exact before.held (by rw [show order.standing.status = .assigned from was]; decide)
    cases status with
    | pending =>
      have gone : order.assignedTo = none := (agree.waiting rfl).1
      have was : order.status = .offered ∨ order.status = .assigned := by
        revert allowed
        cases order.status <;> decide
      have driver := somebody was
      rw [gone] at driver
      cases driver
    | offered =>
      have driver : order.assignedTo.isSome = true := (agree.offered rfl).1
      have was : order.status = .pending := by
        revert allowed
        cases order.status <;> decide
      rw [nobody was] at driver
      cases driver
    | assigned =>
      have driver : order.assignedTo.isSome = true :=
        agree.held (show OrderStatus.assigned ∈ heldStatuses by decide)
      have was : order.status = .pending ∨ order.status = .offered ∨ order.status = .assigned := by
        revert allowed
        cases order.status <;> decide
      rcases was with was | was | was
      · rw [nobody was] at driver
        cases driver
      · -- An offer is not taken by a status update.
        have becomes : next.standing.status = .assigned := by rw [stands]
        obtain ⟨_, other, -⟩ := accepted id order next found after was becomes
        cases other
      · exact ⟨was, rfl⟩
    | _ => exact absurd back (by decide)
  · rintro requester stopId status reason stop trip order rfl passes found
    have agree := agrees _ _ (stopDone_order passes found)
    exact agree.held (by
      show stopCompletionOrderStatus stop.kind ∈ heldStatuses
      cases stop.kind <;> decide)

/-- A board nobody has booked on yet. -/
def Board.unbooked (board : Board) : Board := { board with orders := .empty }

/-- Status and assignment never contradict each other exactly when every event is in keeping. -/
theorem neverContradict_iff (cfg : DispatchConfig) (board : Board) (events : List DispatchEvent) :
    NeverContradict cfg board.unbooked events ↔
      Along (step cfg) (InKeeping cfg) board.unbooked events := by
  rw [← @along_iff_of_invariant _ _ (step cfg) AllSettled AllAgree]
  · exact ⟨fun never => ⟨never.agree, never.accepted⟩, fun both => ⟨both.1, both.2⟩⟩
  · exact fun _ settled id order found => (settled id order found).toAgrees
  · exact fun _ _ settled accepted agrees => inKeeping_of_agrees settled accepted agrees
  · exact fun _ _ settled keeping =>
      ⟨allSettled_step settled keeping, assignedByAcceptance_of_inKeeping keeping⟩
  · -- There is no order to begin with.
    intro id order found
    cases found

/-- A customer books, and a dispatcher marks the order assigned without giving it to anybody. -/
def assignedToNobody : List DispatchEvent :=
  [.publicCreateOrder {
      weightKg := 300, customerPhone := "+250788123456", place := none, pricing := .ok anEstimate },
    .updateOrderStatus aDispatcher 1 (some .assigned) "4821" false]

/-- A status update leaves an order assigned with nobody to carry it. -/
theorem assigned_to_nobody : ¬ NeverContradict .kigali oneWaiting.unbooked assignedToNobody := by
  intro never
  have stands : ((run (step .kigali) oneWaiting.unbooked assignedToNobody).order 1).map
      DispatchOrder.standing = some { Standing.waiting with status := .assigned } := by decide +kernel
  obtain ⟨order, found, same⟩ := Option.map_eq_some_iff.mp stands
  -- At the end of the run an assigned order should have a driver.
  have agrees := never.agree assignedToNobody (List.prefix_refl _) 1 order found
  rw [same] at agrees
  exact absurd (agrees.held (show OrderStatus.assigned ∈ heldStatuses by decide)) (by decide)

end Freight.Dispatch
