import Freight.Dispatch.Changes

/-! A delivered order was closed on its proof, wherever no drop is marked done ahead of it. -/

namespace Freight.Dispatch

variable {cfg : DispatchConfig} {board : Board} {event : DispatchEvent} {id : Nat}

/-- The requester is the driver the order is assigned to. -/
def AssignedDriver (cfg : DispatchConfig) (requester : Requester) (order : DispatchOrder) : Prop :=
  requester.role = .driver ∧ sameName cfg order.assignedTo requester.username = true

/-- The requester answers for the order: its assigned driver, or somebody at the dispatch desk. -/
def AnswersFor (cfg : DispatchConfig) (requester : Requester) (order : DispatchOrder) : Prop :=
  AssignedDriver cfg requester order ∨ requester.role ∈ dispatchRoles

/-- The event that closed an order on its proof, and all that was settled with it. -/
structure ClosesOnProof (cfg : DispatchConfig) (may : Requester → DispatchOrder → Prop)
    (board : Board) (event : DispatchEvent) (id : Nat) (requester : Requester)
    (proof : DeliveryProof) (order : DispatchOrder) : Prop where
  /-- It is a confirmation of this order's delivery. -/
  confirms : event = .confirmDelivery requester id proof
  /-- The order had arrived. -/
  arrived : board.order id = some order ∧ order.status = .arrived
  /-- Its sender is one who may close the order. -/
  answers : may requester order
  /-- The proof was a photo, or a code that checks out, and a row is kept of it. -/
  confirmation : ∃ method, proofMethod cfg board id proof = .ok method ∧
    { orderId := id, driverName := requester.username, photoKey := proof.photo
      notes := proof.notes, proofMethod := method } ∈ (step cfg board event).confirmations
  /-- The wait at the drop and the credit for a filled return are settled with it. -/
  settled : (step cfg board event).order id = some (order.confirmed cfg board)

/-- No drop is marked done on an order that is not delivered yet. -/
def NoDropAhead (cfg : DispatchConfig) (board : Board) (event : DispatchEvent) : Prop :=
  ∀ requester stopId status reason stop trip order,
    event = .updateStop requester stopId status reason →
    stopChange cfg board requester stopId status reason = .ok (stop, trip, .done) →
    stop.kind = .drop → board.order stop.orderId = some order → order.status = .delivered

/-- What a confirmation that goes through has checked and written. -/
theorem closesOnProof_of_done {requester : Requester} {proof : DeliveryProof} {later : Board}
    (done : confirmDelivery cfg board requester id proof = .ok later) :
    ∃ order, ClosesOnProof cfg (AnswersFor cfg) board (.confirmDelivery requester id proof) id
      requester proof order := by
  have written : step cfg board (.confirmDelivery requester id proof) = later := by
    simp only [step, done]
  obtain ⟨method, proved, order, found, was, may, same⟩ := confirmDelivery_accepted.mp done
  refine ⟨order, rfl, ⟨found, List.mem_singleton.mp (List.contains_iff_mem.mp was)⟩, ?_, ?_, ?_⟩
  · -- Of the three roles only a driver has to be the one the order is assigned to.
    unfold AnswersFor AssignedDriver
    cases role : requester.role with
    | driver => exact .inl ⟨rfl, by simpa [role] using may⟩
    | admin | dispatcher => exact .inr (by decide)
  · refine ⟨method, proved, ?_⟩
    rw [written, ← same]
    exact List.mem_append_right _ (List.mem_singleton.mpr rfl)
  · rw [written, ← same]
    refine (board.order_changeOrder id (·.confirmed cfg board) (fun _ => rfl) id).trans ?_
    rw [if_pos rfl, found, Option.map_some]

/-- A refused confirmation leaves every status as it was. -/
theorem statusOf_afterRefusedProof {target : Nat} {failure : Failure} :
    (afterRefusedProof board target failure).statusOf id = board.statusOf id := by
  -- What a refusal writes is an attempt, in another column.
  unfold afterRefusedProof Board.statusOf
  split
  · rw [Board.order_changeOrder]
    split <;> cases board.order id <;> rfl
  · rfl

/-- With no drop marked done ahead of it, an order becomes delivered only by its proof. -/
theorem closesOnProof_of_becomes (turn : NoDropAhead cfg board event)
    (before : board.statusOf id ≠ some .delivered)
    (after : (step cfg board event).statusOf id = some .delivered) :
    ∃ requester proof order,
      ClosesOnProof cfg (AnswersFor cfg) board event id requester proof order := by
  cases found : board.order id with
  | none =>
    -- A new order waits.
    obtain ⟨next, there, delivered⟩ := Option.map_eq_some_iff.mp after
    have waits := (step_follows cfg board event id).waits found next there
    have stood : next.standing.status = .delivered := delivered
    rw [waits] at stood
    cases stood
  | some order =>
    obtain ⟨next, there, change⟩ := step_changes cfg event found
    rw [Board.statusOf, there, Option.map_some, Option.some.injEq] at after
    have undelivered : order.standing.status ≠ .delivered := fun same =>
      before (by rw [Board.statusOf, found]; exact congrArg some same)
    have delivered : next.standing.status = .delivered := after
    generalize old : order.standing = standing at change undelivered
    generalize new : next.standing = standing' at change delivered
    cases change with
    | kept | reassigned => exact absurd delivered undelivered
    | assigned | unassigned | offered | accepted | released => cases delivered
    | updated requester moved target code later allowed =>
      exact absurd delivered (not_delivered_of_canTransition allowed)
    | taken driver =>
      by_cases waiting : standing.status = .pending
      · simp only [waiting, if_true] at delivered
        cases delivered
      · simp only [waiting, if_false] at delivered
        exact absurd delivered undelivered
    | stopDone requester stopId asked reason stop trip passes own named =>
      subst own old
      have drop : stop.kind = .drop := by
        revert delivered
        cases stop.kind <;> simp [stopCompletionOrderStatus]
      exact absurd (turn _ _ _ _ _ _ order named passes drop found) undelivered
    | delivered requester proof was named =>
      subst named
      cases done : confirmDelivery cfg board requester id proof with
      | ok later => exact ⟨requester, proof, closesOnProof_of_done done⟩
      | error failure =>
        -- A confirmation that was refused delivers nothing.
        have same : (step cfg board (.confirmDelivery requester id proof)).statusOf id =
            board.statusOf id := by
          simp only [step, done]
          exact statusOf_afterRefusedProof
        refine absurd ?_ before
        rw [← same, Board.statusOf, there, Option.map_some, after]

/-- The confirmations of a run are never lost. -/
theorem run_confirmations (cfg : DispatchConfig) (board : Board) (events : List DispatchEvent) :
    board.confirmations ⊆ (run (step cfg) board events).confirmations := by
  -- By induction on the run: each event keeps what the table has.
  induction events generalizing board with
  | nil => exact List.Subset.refl _
  | cons event rest ih =>
    exact List.Subset.trans (step_follows cfg board event 0).confirmations (ih _)

/-- An order that a run has delivered: the event that closed it, and what is left of it at the end. -/
structure DeliveredByProof (cfg : DispatchConfig) (may : Requester → DispatchOrder → Prop)
    (board : Board) (events : List DispatchEvent) (id : Nat) : Prop where
  /-- It was closed on its proof, and has been delivered ever since. -/
  closed : ∃ prior event rest requester proof order, events = prior ++ event :: rest ∧
    ClosesOnProof cfg may (run (step cfg) board prior) event id requester proof order ∧
    ∀ after, after <+: rest →
      (run (step cfg) board (prior ++ event :: after)).statusOf id = some .delivered
  /-- The row of its confirmation is still there. -/
  row : ∃ confirmation ∈ (run (step cfg) board events).confirmations, confirmation.orderId = id

/-- With no drop marked done ahead of its proof, every order a run delivers is delivered by proof. -/
theorem delivered_by_proof (cfg : DispatchConfig) (board : Board) (events : List DispatchEvent)
    (turn : Along (step cfg) (NoDropAhead cfg) board events) (id : Nat)
    (before : board.statusOf id ≠ some .delivered)
    (after : (run (step cfg) board events).statusOf id = some .delivered) :
    DeliveredByProof cfg (AnswersFor cfg) board events id := by
  obtain ⟨prior, event, rest, rfl, not_yet, stays⟩ :=
    @run_becomes _ _ (step cfg) (fun board : Board => board.statusOf id = some .delivered) board
      events before after
  have ahead := (along_append.mp turn).2.1
  -- The event after which the order is delivered is the one that closes it.
  have becomes := stays [] (List.nil_prefix)
  rw [run_append] at becomes
  obtain ⟨requester, proof, order, closes⟩ := closesOnProof_of_becomes ahead not_yet becomes
  refine ⟨⟨prior, event, rest, requester, proof, order, rfl, closes, stays⟩, ?_⟩
  obtain ⟨method, -, kept⟩ := closes.confirmation
  rw [run_append, run_cons]
  exact ⟨_, run_confirmations cfg _ rest kept, rfl⟩

/-- A driver's board: an order of theirs at the door, and the drop of a run it is on. -/
def atTheDrop : Board where
  orders := ⟨[{ id := 1, status := .arrived, assignedTo := some "+250788000001" }], by decide⟩
  trips := ⟨[{ id := 1, driverUsername := some "+250788000001", status := .active }], by decide⟩
  stops := ⟨[{ id := 1, tripId := 1, orderId := 1, kind := .drop, sequence := 1 }], by decide⟩

/-- The driver at the door. -/
def theDriver : Requester := { username := "+250788000001", role := .driver }

/-- A photo of the goods handed over. -/
def aPhoto : DeliveryProof := { photo := some "deliveries/1.jpg", deliveryCode := "", notes := none }

/-- The driver's own confirmation closes the order. -/
theorem delivered_by_photo : DeliveredByProof .kigali (AnswersFor .kigali) atTheDrop
    [.confirmDelivery theDriver 1 aPhoto] 1 :=
  -- No status is updated in this run, so nobody else could have delivered the order.
  delivered_by_proof .kigali atTheDrop _ (by
    refine ⟨?_, trivial⟩
    rintro _ _ _ _ _ _ _ other
    cases other) 1 (by decide +kernel) (by decide +kernel)

/-- The desk may close an order in its driver's place, and a drop marked done closes it without proof. -/
theorem delivered_otherwise :
    ¬ DeliveredByProof .kigali (AssignedDriver .kigali) atTheDrop
      [.confirmDelivery aDispatcher 1 aPhoto] 1 ∧
    ¬ DeliveredByProof .kigali (AssignedDriver .kigali) atTheDrop
      [.updateStop theDriver 1 (some .done) none] 1 := by
  constructor
  · rintro ⟨⟨prior, event, rest, requester, proof, order, split, closes, -⟩, -⟩
    -- The one event of the run is the desk's, and the desk is nobody's driver.
    cases prior with
    | nil =>
      obtain ⟨rfl, -⟩ := List.cons.inj split
      obtain ⟨rfl, -, -⟩ := DispatchEvent.confirmDelivery.inj closes.confirms
      exact absurd closes.answers.1 (by decide)
    | cons first others => simp at split
  · rintro ⟨-, confirmation, kept, -⟩
    revert kept
    show ¬ confirmation ∈ (run (step .kigali) atTheDrop
      [.updateStop theDriver 1 (some .done) none]).confirmations
    rw [show (run (step .kigali) atTheDrop
      [.updateStop theDriver 1 (some .done) none]).confirmations = [] by decide +kernel]
    exact List.not_mem_nil

end Freight.Dispatch
