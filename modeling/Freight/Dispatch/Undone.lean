import Freight.Dispatch.Handlers

/-! Whether a refused or failed order request leaves anything behind, committed or waiting on its connection. -/

namespace Freight.Dispatch.Handler

/-- An answer that is an error. -/
def Answer.isError : Answer → Bool
  | .ok => false
  | _ => true

/-- A wrong guess at a delivery code, which is counted and committed on purpose. -/
def Answer.keepsAttempt : Answer → Bool
  | .refused (.wrongCode _) => true
  | _ => false

/-- A request, served on a connection out of the pool. -/
def Request.serve (cfg : DispatchConfig) (fails : Hazard → Bool) (session : Session Board) (request : Request) :
    Answer × Session Board :=
  Script.served .failed (request.body cfg fails) session

/-- An error leaves nothing behind: nothing open on the connection, and nothing committed but a counted attempt. -/
def LeavesNothing (board : Board) (answer : Answer) (session : Session Board) : Prop :=
  answer.isError = true →
    session.connection = .idle ∧
      (session.committed = board ∨ answer.keepsAttempt = true ∧ ∃ id, session.committed = Board.guessCounted id board)

/-- An arrival that somebody other than a driver records, and nothing else stands in the way of. -/
def RefusedAfterUpdate (fails : Hazard → Bool) (board : Board) (requester : Requester) (id : Nat)
    (status : Option OrderStatus) : Prop :=
  requester.role ≠ .driver ∧ (∃ arrival ∈ status, arrivalStatuses.contains arrival = true ∧
    ∃ order ∈ board.order id, canTransition order.status arrival = true) ∧
  ∀ hazard ∈ [Hazard.begin_, .lockOrders, .updateOrders], fails hazard = false

/-- A status that may be forced, and is. -/
def Forced (fails : Hazard → Bool) (board : Board) (requester : Requester) (id : Nat) (status : Option OrderStatus)
    (reason : String) : Prop :=
  requester.role = .admin ∧ 10 ≤ (trim reason.toList).length ∧
    (∃ wanted ∈ status, ∃ order ∈ board.order id, order.status ≠ wanted) ∧
  ∀ hazard ∈ [Hazard.begin_, .lockOrders, .updateOrders, .insertLogs, .commit], fails hazard = false

/-- The statements that a delivery takes to be confirmed, and the upload of its photo. -/
def confirmSteps (board : Board) (order : DispatchOrder) (proof : DeliveryProof) : List Hazard :=
  [.begin_] ++ (if proof.submittedCode.isEmpty then [] else [.lockCode]) ++ [.lockOrders] ++
    (if proof.photo.isSome then [.upload] else []) ++
    (if order.delivery.isSome then [.selectPosition] else []) ++
    [.insertConfirmation, .selectBackfill, .selectArrival] ++
    (if (board.waitedSince order.id .arrived).isSome ∧ order.pricingRateId.isSome then [.selectRate] else []) ++
    [.updateOrders, .insertLogs, .commit]

/-- A delivery that is confirmed on a photo which cannot be signed for the answer. -/
def UnsignedAfterCommit (cfg : DispatchConfig) (fails : Hazard → Bool) (board : Board) (requester : Requester)
    (id : Nat) (proof : DeliveryProof) : Prop :=
  proof.photo.isSome = true ∧ fails .signing = true ∧
  (proof.submittedCode.isEmpty = true ∨ verifyDeliveryCode cfg board id proof.submittedCode = .ok ()) ∧
  ∃ order ∈ board.order id, deliverableFrom.contains order.status = true ∧
    (requester.role = .driver → sameName cfg order.assignedTo requester.username = true) ∧
    ∀ hazard ∈ confirmSteps board order proof, fails hazard = false

/-- The requests that go wrong. -/
def Request.Slips (cfg : DispatchConfig) (fails : Hazard → Bool) (board : Board) : Request → Prop
  | .updateOrderStatus requester id status _ => RefusedAfterUpdate fails board requester id status
  | .forceOrderStatus requester id status reason => Forced fails board requester id status reason
  | .confirmDelivery requester id proof => UnsignedAfterCommit cfg fails board requester id proof
  | _ => False

/-- A request as it reaches a connection, with the board as everybody has left it by then, and with what fails. -/
structure Turn where
  board : Board
  fails : Hazard → Bool
  request : Request

/-- A turn on a connection. -/
def Turn.serve (cfg : DispatchConfig) (connection : Connection Board) (turn : Turn) : Answer × Session Board :=
  turn.request.serve cfg turn.fails ⟨turn.board, connection⟩

/-- Whether a turn goes wrong. -/
def Turn.Slips (cfg : DispatchConfig) (turn : Turn) : Prop := turn.request.Slips cfg turn.fails turn.board

/-- Of the turns that a connection is taken for, none leaves anything that it should not. -/
def AllLeaveNothing (cfg : DispatchConfig) : Connection Board → List Turn → Prop
  | _, [] => True
  | connection, turn :: later =>
    LeavesNothing turn.board (turn.serve cfg connection).1 (turn.serve cfg connection).2 ∧
      AllLeaveNothing cfg (turn.serve cfg connection).2.connection later

/-- How a request may be answered: leaving nothing just where it does not slip, and with nothing open if it is done. -/
def Ends (board : Board) (slips : Prop) (answer : Answer) (session : Session Board) : Prop :=
  (LeavesNothing board answer session ↔ ¬ slips) ∧ (answer.isError = false → session.connection = .idle)

/-- How a body may end early. -/
def Exits (board : Board) (slips : Prop) : Exit Answer → Session Board → Prop
  | .answered answer, session => Ends board slips answer session
  -- The catch block rolls back, so only what was committed before could be left.
  | .thrown, session => session.committed = board ↔ ¬ slips

variable {cfg : DispatchConfig} {fails : Hazard → Bool} {board working : Board} {slips : Prop} {α β φ : Type}
  {after : β → Session Board → Prop}

open Script

/-- A success leaves nothing that a failure should not have. -/
theorem leavesNothing_ok {session : Session Board} : LeavesNothing board .ok session := by
  -- The condition is on what is answered with a failure.
  rintro ⟨⟩

/-- What has changed nothing and has nothing open leaves nothing. -/
theorem leavesNothing_idle {answer : Answer} : LeavesNothing board answer ⟨board, .idle⟩ :=
  fun _ => ⟨rfl, .inl rfl⟩

/-- So does an answer with nothing changed and nothing open. -/
theorem ends_idle {answer : Answer} (clean : ¬ slips) : Ends board slips answer ⟨board, .idle⟩ :=
  ⟨iff_of_true leavesNothing_idle clean, fun _ => rfl⟩

/-- What is thrown out of a transaction is rolled back. -/
theorem exits_thrown {session : Session Board} (clean : ¬ slips) (within : session.committed = board) :
    Exits board slips .thrown session :=
  iff_of_true within clean

/-- The end of a body that has committed what it was to. -/
theorem ends_ok (clean : ¬ slips) :
    Meets (Idle working) (pure .ok) (Ends board slips) (Exits board slips) :=
  meets_pure fun session idle => ⟨iff_of_true leavesNothing_ok clean, fun _ => by rw [idle]⟩

/-- A check before the transaction. -/
theorem passes {check : Except φ α} {response : φ → Answer} {second : α → Script Board Answer β}
    (clean : ∀ failure, check = .error failure → ¬ slips)
    (passed : ∀ value, check = .ok value → Meets (Idle board) (second value) after (Exits board slips)) :
    Meets (Idle board) (orAnswer check response >>= second) after (Exits board slips) := by
  -- Refused here, the request has not taken a connection yet.
  refine .orAnswer (fun failure refused session idle => ?_) passed
  rw [idle]
  exact ends_idle (clean failure refused)

/-- A check within the transaction, which is rolled back where it refuses. -/
theorem passes_open {check : Except φ α} {response : φ → Answer} {second : α → Script Board Answer β}
    (clean : ∀ failure, check = .error failure → ¬ slips)
    (passed : ∀ value, check = .ok value → Meets (Open board working) (second value) after (Exits board slips)) :
    Meets (Open board working) (orRollback check response >>= second) after (Exits board slips) :=
  -- Refused here, the transaction is rolled back and the connection idle.
  .orRollback (fun _ opened => opened.untouched)
    (fun failure refused => ends_idle (clean failure refused)) passed

/-- A BEGIN. -/
theorem begins_on {second : Unit → Script Board Answer β} {hazard : Hazard}
    (clean : fails hazard = true → ¬ slips)
    (begun : fails hazard = false → Meets (Open board board) (second ()) after (Exits board slips)) :
    Meets (Idle board) (begins (fails hazard) >>= second) after (Exits board slips) :=
  .begins (fun failed => exits_thrown (clean failed) rfl) begun

/-- A SELECT. -/
theorem reads_on {second : Board → Script Board Answer β} {hazard : Hazard}
    (clean : fails hazard = true → ¬ slips)
    (done : fails hazard = false → Meets (Open board working) (second working) after (Exits board slips)) :
    Meets (Open board working) (read (fails hazard) >>= second) after (Exits board slips) :=
  .read (fun failed => exits_thrown (clean failed) rfl) done

/-- A statement that writes. -/
theorem writes_on {second : Board → Script Board Answer β} {hazard : Hazard} {write : Board → Board}
    (clean : fails hazard = true → ¬ slips)
    (done : fails hazard = false →
      Meets (Open board (write working)) (second working) after (Exits board slips)) :
    Meets (Open board working) (statement (fails hazard) write >>= second) after (Exits board slips) :=
  -- Where the statement fails the transaction is aborted, and the catch block rolls it back.
  .statement (fun failed => exits_thrown (clean failed) rfl) done

/-- The COMMIT. -/
theorem commits_on {second : Unit → Script Board Answer β} {hazard : Hazard}
    (clean : fails hazard = true → ¬ slips)
    (done : fails hazard = false → Meets (Idle working) (second ()) after (Exits board slips)) :
    Meets (Open board working) (commit (fails hazard) >>= second) after (Exits board slips) :=
  .commit (fun failed => exits_thrown (clean failed) rfl) done

/-- Reading the load of a vehicle changes nothing. -/
theorem loadOf_on {vehicle : FleetVehicle} {except : Option Nat} (clean : ¬ slips) :
    Meets (Open board working) (loadOf fails vehicle except) (fun _ => Open board working) (Exits board slips) := by
  -- A vehicle without a limit is not weighed; otherwise one SELECT is made.
  unfold loadOf
  split
  · exact meets_pure fun _ opened => opened
  · exact .read (fun _ => exits_thrown clean rfl) fun _ => meets_pure fun _ opened => opened

/-- A bundle is assigned, or nothing is left of the attempt. -/
theorem assignOrderBundle_ends {requester : Requester} {orderIds : List Nat} {driverName : String} :
    Meets (Idle board) (assignOrderBundle cfg fails requester orderIds driverName) (Ends board False)
      (Exits board False) := by
  have clean {p : Prop} : p → ¬ False := fun _ => not_false
  refine passes (fun _ => clean) fun _ _ => passes (fun _ => clean) fun _ _ => passes (fun _ => clean) fun _ _ => ?_
  -- Up to the UPDATE there are only reads, each with its check, and every refusal rolls back.
  refine begins_on clean fun _ => reads_on clean fun _ => passes_open (fun _ => clean) fun driver _ => ?_
  refine reads_on clean fun _ => passes_open (fun _ => clean) fun vehicle _ => ?_
  refine reads_on clean fun _ => passes_open (fun _ => clean) fun _ _ => ?_
  refine reads_on clean fun _ => passes_open (fun _ => clean) fun _ _ => ?_
  refine reads_on clean fun _ => passes_open (fun _ => clean) fun _ _ => passes_open (fun _ => clean) fun _ _ => ?_
  refine (loadOf_on not_false).bind fun load => passes_open (fun _ => clean) fun _ _ => ?_
  refine writes_on clean fun _ => writes_on clean fun _ => commits_on clean fun _ => ends_ok not_false

/-- An order is moved to another driver or back to the queue, or nothing is left of the attempt. -/
theorem reassignOrder_ends {requester : Requester} {id : Nat} {driverName : Option String} :
    Meets (Idle board) (reassignOrder cfg fails requester id driverName) (Ends board False) (Exits board False) := by
  -- No request of this kind slips.
  have clean {p : Prop} : p → ¬ False := fun _ => not_false
  refine passes (fun _ => clean) fun _ _ => begins_on clean fun _ => reads_on clean fun _ => ?_
  refine passes_open (fun _ => clean) fun order _ => passes_open (fun _ => clean) fun _ _ => ?_
  refine passes_open (fun _ => clean) fun _ _ => ?_
  show Meets _ (if String.ofList (trim (driverName.getD "").toList) = "" then _ else _) _ _
  split
  · -- Back to the queue.
    exact writes_on clean fun _ => writes_on clean fun _ => commits_on clean fun _ => ends_ok not_false
  · -- To another driver, who is checked as for an assignment.
    refine passes_open (fun _ => clean) fun _ _ => ?_
    refine reads_on clean fun _ => passes_open (fun _ => clean) fun driver _ => ?_
    refine reads_on clean fun _ => passes_open (fun _ => clean) fun vehicle _ => ?_
    refine reads_on clean fun _ => passes_open (fun _ => clean) fun _ _ => ?_
    refine (loadOf_on not_false).bind fun load => passes_open (fun _ => clean) fun _ _ => ?_
    exact writes_on clean fun _ => writes_on clean fun _ => commits_on clean fun _ => ends_ok not_false

/-- Orders are offered, or nothing is left of the attempt. -/
theorem offerOrders_ends {requester : Requester} {orderIds : List Nat} {driverName : String}
    {expiresInMinutes : Option ℚ} :
    Meets (Idle board) (offerOrders fails requester orderIds driverName expiresInMinutes) (Ends board False)
      (Exits board False) := by
  -- Checks, one transaction, and every way out of it rolls back or commits.
  have clean {p : Prop} : p → ¬ False := fun _ => not_false
  refine passes (fun _ => clean) fun _ _ => passes (fun _ => clean) fun _ _ => begins_on clean fun _ => ?_
  refine reads_on clean fun _ => passes_open (fun _ => clean) fun driver _ => ?_
  refine reads_on clean fun _ => passes_open (fun _ => clean) fun _ _ => ?_
  refine reads_on clean fun _ => passes_open (fun _ => clean) fun _ _ => passes_open (fun _ => clean) fun _ _ => ?_
  exact writes_on clean fun _ => commits_on clean fun _ => ends_ok not_false

/-- An offer is accepted, or nothing is left of the attempt. -/
theorem acceptOffer_ends {requester : Requester} {id : Nat} :
    Meets (Idle board) (acceptOffer fails requester id) (Ends board False) (Exits board False) := by
  -- Checks, one transaction, and every way out of it rolls back or commits.
  have clean {p : Prop} : p → ¬ False := fun _ => not_false
  refine passes (fun _ => clean) fun _ _ => begins_on clean fun _ => writes_on clean fun _ => ?_
  refine passes_open (fun _ => clean) fun order _ => passes_open (fun _ => clean) fun _ _ => ?_
  exact writes_on clean fun _ => commits_on clean fun _ => ends_ok not_false

/-- An offer is declined, or nothing is left of the attempt. -/
theorem declineOffer_ends {requester : Requester} {id : Nat} {reason : Option String} :
    Meets (Idle board) (declineOffer fails requester id reason) (Ends board False) (Exits board False) := by
  -- Checks, one transaction, and every way out of it rolls back or commits.
  have clean {p : Prop} : p → ¬ False := fun _ => not_false
  refine passes (fun _ => clean) fun _ _ => begins_on clean fun _ => writes_on clean fun _ => ?_
  refine passes_open (fun _ => clean) fun order _ => passes_open (fun _ => clean) fun _ _ => ?_
  exact writes_on clean fun _ => writes_on clean fun _ => commits_on clean fun _ => ends_ok not_false

/-- What fails is not among what works. -/
theorem works_of_fails {hazard : Hazard} {hazards : List Hazard} (failed : fails hazard = true)
    (works : ∀ other ∈ hazards, fails other = false) : hazard ∉ hazards := by
  -- It cannot both fail and be among what does not.
  intro listed
  rw [works hazard listed] at failed
  cases failed

/-- A transaction is open, or a statement of it has failed and nobody has looked. -/
abbrev Unsettled (board : Board) : Session Board → Prop := Held board True fun _ => True

/-- What is caught ends in either. -/
abbrev Caught (board : Board) : Exit Answer → Session Board → Prop :=
  fun exit session => exit = .thrown ∧ Unsettled board session

/-- A transaction that is open is unsettled. -/
theorem unsettled_open {session : Session Board} (opened : Open board working session) : Unsettled board session :=
  .inr ⟨working, trivial, opened⟩

/-- So is one that has failed. -/
theorem caught_aborted : Caught board .thrown ⟨board, .aborted⟩ := ⟨rfl, .inl ⟨rfl, trivial⟩⟩

/-- Working a wait out leaves the transaction unsettled. -/
theorem detentionForOrder_caught {id : Nat} {arrival : OrderStatus} :
    Meets (Open board working) (detentionForOrder cfg fails id arrival) (fun _ => Open board working)
      (Caught board) := by
  -- Both of its statements read, and where one fails the transaction is left aborted.
  refine .read (fun _ => caught_aborted) fun _ => ?_
  split
  · exact meets_pure fun _ opened => opened
  · dsimp only
    split
    · exact .read (fun _ => caught_aborted) fun _ => meets_pure fun _ opened => opened
    · exact meets_pure fun _ opened => opened

/-- So does charging it at the pickup. -/
theorem chargePickup_caught {id : Nat} :
    Meets (Open board working) (chargePickup cfg fails id) (fun _ => Unsettled board) (Caught board) := by
  -- With no wait there is nothing to write.
  refine detentionForOrder_caught.bind fun waited => ?_
  cases waited with
  | none => exact meets_pure fun _ opened => unsettled_open opened
  | some waited =>
    exact .statement (fun _ => caught_aborted) fun _ => meets_pure fun _ opened => unsettled_open opened

/-- So does issuing a delivery code. -/
theorem issueDeliveryCode_caught {id : Nat} {code : String} :
    Meets (Unsettled board) (issueDeliveryCode cfg fails id code) (fun _ => Unsettled board) (Caught board) := by
  -- With no phone, or with a code already, there is nothing to write.
  refine .held (fun _ => .aborted caught_aborted) fun working _ => ?_
  refine .read (fun _ => caught_aborted) fun _ => ?_
  split
  · exact meets_pure fun _ opened => unsettled_open opened
  · dsimp only
    split
    · exact .statement (fun _ => caught_aborted) fun _ => meets_pure fun _ opened => unsettled_open opened
    · exact meets_pure fun _ opened => unsettled_open opened

/-- A status is changed, or nothing is left of the attempt, unless an arrival is refused after its UPDATE. -/
theorem updateOrderStatus_ends {requester : Requester} {id : Nat} {status : Option OrderStatus} {code : String} :
    Meets (Idle board) (updateOrderStatus cfg fails requester id status code)
      (Ends board (RefusedAfterUpdate fails board requester id status))
      (Exits board (RefusedAfterUpdate fails board requester id status)) := by
  refine passes ?_ fun wanted given => ?_
  · rintro failure refused ⟨-, ⟨arrival, asked, -⟩, -⟩
    rw [(demand_error.mp refused).1] at asked
    cases asked
  obtain rfl := demand_ok.mp given
  have works {hazard : Hazard} (listed : hazard ∈ [Hazard.begin_, .lockOrders, .updateOrders])
      (failed : fails hazard = true) : ¬ RefusedAfterUpdate fails board requester id (some wanted) :=
    fun slips => works_of_fails failed slips.2.2 listed
  refine passes ?_ fun _ _ => begins_on (works (by decide)) fun begun => reads_on (works (by decide)) fun locked => ?_
  · rintro failure refused ⟨others, -, -⟩
    simp [require_error, others] at refused
  refine passes_open ?_ fun order found => ?_
  · rintro failure refused ⟨-, ⟨arrival, -, -, order, found, -⟩, -⟩
    rw [(demand_error.mp refused).1] at found
    cases found
  have stored := demand_ok.mp found
  -- A check that refuses is not passed, and so the request is none of those that slip.
  refine passes_open ?_ fun _ _ => passes_open ?_ fun _ moves => passes_open ?_ fun _ _ => ?_
  · rintro failure refused ⟨others, -, -⟩
    simp [require_error, others] at refused
  · rintro failure refused ⟨-, ⟨arrival, asked, -, other, found, moves⟩, -⟩
    cases asked
    cases stored.symm.trans found
    rw [moves] at refused
    cases refused
  · rintro failure refused ⟨-, ⟨arrival, asked, arrives, -⟩, -⟩
    cases asked
    -- A cancellation is no arrival.
    have cancelled := (require_error.mp refused).1
    simp only [Bool.not_eq_false', Bool.and_eq_true, decide_eq_true_eq] at cancelled
    rw [cancelled.1] at arrives
    cases arrives
  refine writes_on (works (by decide)) fun updated => ?_
  refine .orAnswer ?_ fun _ records => ?_
  · -- The refusal answers with the transaction open.
    rintro failure refused session ⟨pending, rfl, -⟩
    have forbidden := (require_error.mp refused).1
    simp only [mayRecord, Bool.or_eq_false_iff, decide_eq_false_iff_not, Bool.not_eq_false'] at forbidden
    refine ⟨iff_of_false (fun nothing => ?_) (not_not.mpr ⟨forbidden.1, ?_, ?_⟩), by rintro ⟨⟩⟩
    · cases (nothing rfl).1
    · exact ⟨wanted, rfl, forbidden.2, order, stored, require_ok.mp moves⟩
    · simp [begun, locked, updated]
  have clean : ¬ RefusedAfterUpdate fails board requester id (some wanted) := by
    rintro ⟨others, ⟨arrival, asked, arrives, -⟩, -⟩
    cases asked
    have allowed : (decide (requester.role = .driver) || !arrivalStatuses.contains wanted) = true :=
      require_ok.mp records
    rw [decide_eq_false others, arrives] at allowed
    cases allowed
  -- Whatever fails from here on is rolled back.
  refine @Meets.caught _ _ _ _ _ _ _ _ _ (Unsettled board) ?_ fun _ => ?_
  · split
    · exact chargePickup_caught
    · exact meets_pure fun _ opened => unsettled_open opened
  refine @Meets.caught _ _ _ _ _ _ _ _ _ (Unsettled board) ?_ fun _ => ?_
  · split
    · exact issueDeliveryCode_caught
    · exact meets_pure fun _ held => held
  refine .held (fun _ => .aborted (exits_thrown clean rfl)) fun working _ => ?_
  exact writes_on (fun _ => clean) fun _ => commits_on (fun _ => clean) fun _ => ends_ok clean

/-- A status is not forced and nothing is left of the attempt, or it is forced and answered as a failure. -/
theorem forceOrderStatus_ends {requester : Requester} {id : Nat} {status : Option OrderStatus} {reason : String} :
    Meets (Idle board) (forceOrderStatus fails requester id status reason)
      (Ends board (Forced fails board requester id status reason))
      (Exits board (Forced fails board requester id status reason)) := by
  refine passes ?_ fun _ admin => passes ?_ fun wanted given => ?_
  -- Each check that refuses contradicts one part of what would be forced.
  · rintro failure refused ⟨admin, -⟩
    simp [require_error, admin] at refused
  · rintro failure refused ⟨-, -, ⟨wanted, asked, -⟩, -⟩
    rw [(demand_error.mp refused).1] at asked
    cases asked
  obtain rfl := demand_ok.mp given
  have works {hazard : Hazard} (listed : hazard ∈ [Hazard.begin_, .lockOrders, .updateOrders, .insertLogs, .commit])
      (failed : fails hazard = true) : ¬ Forced fails board requester id (some wanted) reason :=
    fun slips => works_of_fails failed slips.2.2.2 listed
  refine passes ?_ fun _ reasoned => begins_on (works (by decide)) fun begun => reads_on (works (by decide)) fun locked => ?_
  · rintro failure refused ⟨-, reasoned, -⟩
    simp [require_error, Nat.not_lt.mpr reasoned] at refused
  refine passes_open ?_ fun order found => passes_open ?_ fun _ changes => ?_
  · rintro failure refused ⟨-, -, ⟨other, -, order, found, -⟩, -⟩
    rw [(demand_error.mp refused).1] at found
    cases found
  · rintro failure refused ⟨-, -, ⟨other, asked, stored, same, changes⟩, -⟩
    cases asked
    rw [demand_ok.mp found] at same
    cases same
    simp [require_error, changes] at refused
  -- From here on the three writes and the COMMIT have to go through.
  refine writes_on (works (by decide)) fun updated => writes_on (works (by decide)) fun logged => ?_
  refine commits_on (works (by decide)) fun committed => ?_
  -- Everything is committed, and then the emission throws.
  rintro session rfl
  refine iff_of_false (fun same => ?_) (not_not.mpr ⟨?_, ?_, ⟨wanted, rfl, order, demand_ok.mp found, ?_⟩, ?_⟩)
  · have longer := congrArg (fun board => board.logs.length) same
    simp [Board.logged, Board.changeOrder] at longer
  · exact of_decide_eq_true (require_ok.mp admin)
  · exact of_decide_eq_true (require_ok.mp reasoned)
  · exact of_decide_eq_true (require_ok.mp changes)
  · simp [begun, locked, updated, logged, committed]

section Confirming

variable {requester : Requester} {id : Nat} {proof : DeliveryProof} {order : DispatchOrder}

/-- A transaction in which only reads have been tried: as it was where they have worked, and failed where not. -/
abbrev Tried (board working : Board) (works : Prop) : Session Board → Prop :=
  Held board (¬ works) fun state => state = working ∧ works

/-- What the wait at the drop is worked out with. -/
def waitRead (fails : Hazard → Bool) (board : Board) (order : DispatchOrder) : Prop :=
  fails .selectArrival = false ∧
    ((board.waitedSince order.id .arrived).isSome ∧ order.pricingRateId.isSome → fails .selectRate = false)

/-- The credit is read off the board, or the transaction has failed. -/
theorem backfillCreditForOrder_tried :
    Meets (Open board working) (backfillCreditForOrder cfg fails id)
      (fun _ => Tried board working (fails .selectBackfill = false))
      fun exit session => exit = .thrown ∧ Tried board working (fails .selectBackfill = false) session :=
  -- The one statement it makes reads.
  .read (fun failed => ⟨rfl, .inl ⟨rfl, by simp [failed]⟩⟩) fun works =>
    meets_pure fun _ opened => .inr ⟨working, ⟨rfl, works⟩, opened⟩

/-- So is the wait at the drop. -/
theorem detentionForOrder_tried {known : Prop} (holds : known) (stored : working.order id = some order) :
    Meets (Open board working) (detentionForOrder cfg fails id .arrived)
      (fun _ => Tried board working (known ∧ waitRead fails working order))
      fun exit session => exit = .thrown ∧ Tried board working (known ∧ waitRead fails working order) session := by
  have own : order.id = id := (Table.find?_eq_some.mp stored).2
  refine .read (fun failed => ⟨rfl, .inl ⟨rfl, by simp [waitRead, failed]⟩⟩) fun arrived => ?_
  simp only [stored]
  split
  · -- There is a wait and a card to price it with, so the card is read.
    rename_i rated
    refine .read (fun failed => ⟨rfl, .inl ⟨rfl, ?_⟩⟩) fun works => ?_
    · simp [waitRead, own, rated.1, rated.2, failed]
    · exact meets_pure fun _ opened => .inr ⟨working, ⟨rfl, holds, arrived, fun _ => works⟩, opened⟩
  · rename_i unrated
    refine meets_pure fun _ opened => .inr ⟨working, ⟨rfl, holds, arrived, fun rated => ?_⟩, opened⟩
    rw [own] at rated
    exact absurd rated unrated

/-- A refused code is answered once what has been written is committed, or rolled back where that fails. -/
theorem attempt_ends {failure : Failure} (turned : ¬ slips)
    (written : working = board ∨ (Answer.refused failure).keepsAttempt = true ∧ ∃ id, working = Board.guessCounted id board) :
    Meets (Open board working)
      (do
        let _ ← Script.caught (Script.commit (fails .commitAttempt))
        Script.answer (.refused failure))
      after (Exits board slips) := by
  -- Before the COMMIT the board is as it was, and behind it the attempt alone is new.
  rintro session ⟨pending, rfl, rfl⟩
  cases failed : fails .commitAttempt with
  | true => exact ends_idle turned
  | false => exact ⟨iff_of_true (fun _ => ⟨rfl, written⟩) turned, fun _ => rfl⟩

/-- A code that is right lets the delivery go on, and any other is answered with nothing left but the attempt. -/
theorem checkCode_ends {submitted : Text} {slips : Prop} (clean : fails .lockCode = true → ¬ slips)
    (wrong : verifyDeliveryCode cfg board id submitted ≠ .ok () → ¬ slips) :
    Meets (Open board board) (checkCode cfg fails id submitted)
      (fun _ session => Open board board session ∧
        (fails .lockCode = false ∧ verifyDeliveryCode cfg board id submitted = .ok ()))
      (Exits board slips) := by
  refine reads_on clean fun locked => ?_
  cases checked : verifyDeliveryCode cfg board id submitted with
  | ok _ => exact meets_pure fun _ opened => ⟨opened, locked, rfl⟩
  | error failure =>
    have turned : ¬ slips := wrong (by rw [checked]; rintro ⟨⟩)
    -- Either the attempt has been counted, or nothing has been written.
    cases failure with
    | wrongCode left =>
      exact writes_on (fun _ => turned) fun _ => attempt_ends turned (.inr ⟨rfl, id, rfl⟩)
    | _ => exact attempt_ends turned (.inl rfl)

/-- Every statement of a confirmation has worked, where those that it always takes have, and those that it took besides. -/
theorem confirmSteps_work
    (always : ∀ hazard ∈ [Hazard.begin_, .lockOrders, .insertConfirmation, .selectBackfill, .selectArrival,
      .updateOrders, .insertLogs, .commit], fails hazard = false)
    (coded : proof.submittedCode.isEmpty = false → fails .lockCode = false)
    (uploaded : proof.photo.isSome = true → fails .upload = false)
    (positioned : order.delivery.isSome = true → fails .selectPosition = false)
    (rated : (board.waitedSince order.id .arrived).isSome ∧ order.pricingRateId.isSome → fails .selectRate = false) :
    ∀ hazard ∈ confirmSteps board order proof, fails hazard = false := by
  simp only [List.forall_mem_cons] at always
  obtain ⟨begun, locked, inserted, credited, waited, updated, logged, committed, -⟩ := always
  simp only [confirmSteps, List.forall_mem_append]
  refine ⟨⟨⟨⟨⟨⟨⟨?_, ?_⟩, ?_⟩, ?_⟩, ?_⟩, ?_⟩, ?_⟩, ?_⟩
  · simp [begun]
  · -- The code is looked up where one is given,
    split
    · simp
    · rename_i some
      simp [coded (Bool.eq_false_iff.mpr some)]
  · simp [locked]
  · -- the photo uploaded where there is one,
    split
    · rename_i photographed
      simp [uploaded photographed]
    · simp
  · -- the driver's position read where there is a drop to compare it with,
    split
    · rename_i placed
      simp [positioned placed]
    · simp
  · simp [inserted, credited, waited]
  · -- and the card where a wait is to be priced.
    split
    · rename_i waits
      simpa using rated waits
    · simp
  · simp [updated, logged, committed]

/-- A delivery is confirmed, or nothing is left of the attempt, unless its photo cannot be signed after the COMMIT. -/
theorem confirmDelivery_ends :
    Meets (Idle board) (confirmDelivery cfg fails requester id proof)
      (Ends board (UnsignedAfterCommit cfg fails board requester id proof))
      (Exits board (UnsignedAfterCommit cfg fails board requester id proof)) := by
  have works {hazard : Hazard} (listed : ∀ order, hazard ∈ confirmSteps board order proof)
      (failed : fails hazard = true) : ¬ UnsignedAfterCommit cfg fails board requester id proof := by
    rintro ⟨-, -, -, order, -, -, -, works⟩
    exact works_of_fails failed works (listed order)
  refine .orRollback (fun session idle => by rw [idle]) ?_ fun _ _ => ?_
  · intro failure refused
    refine ends_idle fun ⟨photographed, _⟩ => ?_
    simp [require_error, photographed] at refused
  refine begins_on (works (by simp [confirmSteps])) fun begun => ?_
  refine .when (fails .lockCode = false ∧ verifyDeliveryCode cfg board id proof.submittedCode = .ok ())
    (fun some => ?_) fun right => ?_
  · -- The code, where there is one, is right.
    have given : proof.submittedCode.isEmpty = false := by simpa using some
    refine checkCode_ends (works (by simp [confirmSteps, given])) ?_
    rintro wrong ⟨-, -, empty | checked, -⟩
    · rw [empty] at given
      cases given
    · exact wrong checked
  refine reads_on (works (by simp [confirmSteps])) fun locked => passes_open ?_ fun order found => ?_
  · rintro failure refused ⟨-, -, -, order, found, -⟩
    rw [(demand_error.mp refused).1] at found
    cases found
  have stored := demand_ok.mp found
  refine passes_open ?_ fun _ arrived => passes_open ?_ fun _ own => ?_
  · rintro failure refused ⟨-, -, -, other, found, arrived, -⟩
    cases stored.symm.trans found
    rw [arrived] at refused
    cases refused
  · rintro failure refused ⟨-, -, -, other, found, -, own, -⟩
    cases stored.symm.trans found
    have turned := (require_error.mp refused).1
    simp only [Bool.or_eq_false_iff, decide_eq_false_iff_not, not_not] at turned
    rw [own turned.1] at turned
    cases turned.2
  refine .when False (fun failed => meets_throws ?_) fun uploaded => ?_
  · rintro session opened
    simp only [Bool.and_eq_true] at failed
    exact exits_thrown (works (by simp [confirmSteps, failed.1]) failed.2) opened.untouched
  have works' {hazard : Hazard} (listed : hazard ∈ confirmSteps board order proof) (failed : fails hazard = true) :
      ¬ UnsignedAfterCommit cfg fails board requester id proof := by
    rintro ⟨-, -, -, other, found, -, -, works⟩
    cases stored.symm.trans found
    exact works_of_fails failed works listed
  refine .when (fails .selectPosition = false) (fun placed => ?_) fun positioned => ?_
  · exact reads_on (works' (by simp [confirmSteps, placed])) fun worked => meets_pure fun _ opened => ⟨opened, worked⟩
  refine writes_on (works' (by simp [confirmSteps])) fun inserted => ?_
  -- The credit and the wait are only read: where that fails, the next statement does.
  refine @Meets.caught _ _ _ _ _ _ _ _ _ (Tried board (withConfirmation requester id proof board) (fails .selectBackfill = false))
    backfillCreditForOrder_tried fun backfill => ?_
  refine @Meets.caught _ _ _ _ _ _ _ _ _
    (Tried board (withConfirmation requester id proof board)
      (fails .selectBackfill = false ∧ waitRead fails board order))
    (.held (fun failed => .aborted ⟨rfl, .inl ⟨rfl, fun both => failed both.1⟩⟩) ?_) fun detention => ?_
  · rintro state ⟨rfl, credited⟩
    exact detentionForOrder_tried credited stored
  refine .held (fun failed => .aborted (exits_thrown ?_ rfl)) ?_
  · rintro ⟨-, -, -, other, found, -, -, all⟩
    cases stored.symm.trans found
    refine failed ⟨all _ (by simp [confirmSteps]), all _ (by simp [confirmSteps]), fun rated => all _ ?_⟩
    simp [confirmSteps, rated.1, rated.2]
  rintro state ⟨rfl, credited, waited, rated⟩
  refine writes_on (works' (by simp [confirmSteps])) fun updated => ?_
  refine writes_on (works' (by simp [confirmSteps])) fun logged => ?_
  refine commits_on (works' (by simp [confirmSteps])) fun committed => ?_
  refine .when False (fun unsigned => meets_throws ?_) fun signed => ends_ok ?_
  · -- Everything is committed, and then the photo cannot be signed.
    rintro session rfl
    simp only [Bool.and_eq_true] at unsigned
    refine iff_of_false (fun same => ?_) (not_not.mpr ⟨unsigned.1, unsigned.2, ?_, order, stored, ?_, ?_, ?_⟩)
    · have longer := congrArg (fun board => board.confirmations.length) same
      simp [Board.logged, Board.changeOrder, withConfirmation] at longer
    · cases given : proof.submittedCode.isEmpty with
      | true => exact .inl rfl
      | false => exact .inr (right (by simp [given])).2
    · exact require_ok.mp arrived
    · intro driver
      simpa [driver] using require_ok.mp own
    · refine confirmSteps_work ?_ (fun given => (right (by simp [given])).1) ?_ positioned rated
      · simp [begun, locked, inserted, credited, waited, updated, logged, committed]
      · intro photographed
        simpa [photographed] using uploaded
  · rintro ⟨photographed, unsigned, -⟩
    exact signed (by rw [photographed, unsigned]; rfl)

end Confirming

/-- What holds of every way out of its body holds of the answer to a request. -/
theorem served_ends {body : Script Board Answer Answer}
    (meets : Meets (Idle board) body (Ends board slips) (Exits board slips)) :
    Ends board slips (Script.served .failed body ⟨board, .idle⟩).1 (Script.served .failed body ⟨board, .idle⟩).2 := by
  refine meets.served (fun _ _ ended => ended) (fun _ _ answered => answered) fun session thrown => ?_
  -- The catch block leaves nothing open, so what counts is what was committed by then.
  refine ⟨Iff.trans ⟨fun nothing => ?_, fun same _ => ⟨rfl, .inl same⟩⟩ thrown, fun _ => rfl⟩
  obtain ⟨-, same | ⟨kept, -⟩⟩ := nothing rfl
  · exact same
  · cases kept

/-- A request leaves nothing just where it is none of those that go wrong. -/
theorem Request.serve_ends (cfg : DispatchConfig) (fails : Hazard → Bool) (board : Board) (request : Request) :
    Ends board (request.Slips cfg fails board) (request.serve cfg fails ⟨board, .idle⟩).1
      (request.serve cfg fails ⟨board, .idle⟩).2 := by
  -- Each handler has a lemma of its own.
  cases request with
  | assignOrderBundle => exact served_ends assignOrderBundle_ends
  | reassignOrder => exact served_ends reassignOrder_ends
  | updateOrderStatus => exact served_ends updateOrderStatus_ends
  | forceOrderStatus => exact served_ends forceOrderStatus_ends
  | confirmDelivery => exact served_ends confirmDelivery_ends
  | offerOrders => exact served_ends offerOrders_ends
  | acceptOffer => exact served_ends acceptOffer_ends
  | declineOffer => exact served_ends declineOffer_ends

/-- After a turn that leaves nothing, nothing is open for the next one. -/
theorem Turn.serve_idle {turn : Turn}
    (nothing : LeavesNothing turn.board (turn.serve cfg .idle).1 (turn.serve cfg .idle).2) :
    (turn.serve cfg .idle).2.connection = .idle := by
  -- A turn that failed left nothing; one that did not has committed.
  cases failed : (turn.serve cfg .idle).1.isError with
  | true => exact (nothing failed).1
  | false => exact (turn.request.serve_ends cfg turn.fails turn.board).2 failed

/-- No refused or failed request changes anything, now or later, just where none is one of those that go wrong. -/
theorem allLeaveNothing_iff (cfg : DispatchConfig) (turns : List Turn) :
    AllLeaveNothing cfg .idle turns ↔ ∀ turn ∈ turns, ¬ turn.Slips cfg := by
  induction turns with
  | nil => simp [AllLeaveNothing]
  | cons turn later rest =>
    have leaves : LeavesNothing turn.board (turn.serve cfg .idle).1 (turn.serve cfg .idle).2 ↔ ¬ turn.Slips cfg :=
      (turn.request.serve_ends cfg turn.fails turn.board).1
    rw [List.forall_mem_cons, ← leaves, AllLeaveNothing]
    -- The later turns find the connection as the first had found it.
    refine and_congr_right fun nothing => ?_
    rw [Turn.serve_idle nothing]
    exact rest

/-- Two orders with their drivers, neither of them under way. -/
def twoAssigned : Board where
  orders := ⟨[{ id := 1, status := .assigned, assignedTo := some "eric" },
    { id := 2, status := .assigned, assignedTo := some "aline" }], by decide⟩

/-- The desk records an arrival. -/
def deskArrival : Turn :=
  ⟨twoAssigned, fun _ => false, .updateOrderStatus { username := "desk", role := .dispatcher } 1 (some .atPickup) "4821"⟩

/-- Another driver sets off. -/
def setsOff : Turn :=
  ⟨twoAssigned, fun _ => false, .updateOrderStatus { username := "aline", role := .driver } 2 (some .inTransit) "4821"⟩

/-- The desk is refused its arrival, which the next request on the connection then commits. -/
theorem arrival_committed_later :
    (¬ ∀ cfg turns, AllLeaveNothing cfg .idle turns) ∧
    (deskArrival.serve .kigali .idle).1.isError = true ∧
    ((setsOff.serve .kigali (deskArrival.serve .kigali .idle).2.connection).2.committed.statusOf 1) =
      some .atPickup := by
  -- Behind the refused arrival the connection still holds its transaction, and the next COMMIT makes it stand.
  refine ⟨fun all => ?_, by decide +kernel, by decide +kernel⟩
  have idle := ((all .kigali [deskArrival]).1 (by decide +kernel)).1
  have opened : (deskArrival.serve .kigali .idle).2.connection.isIdle = false := by decide +kernel
  rw [idle] at opened
  cases opened

end Freight.Dispatch.Handler
