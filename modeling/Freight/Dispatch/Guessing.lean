import Freight.Dispatch.Changes
import Freight.Library.Pool

/-! Handover codes guessed at: confirmations and status updates of one order, a statement at a time. -/

namespace Freight.Dispatch

/-- What `confirmDelivery` is asked. -/
structure Confirmation where
  requester : Requester
  proof : DeliveryProof

/-- What `updateOrderStatus` is asked, with the code that would be issued. -/
structure StatusUpdate where
  requester : Requester
  status : Option OrderStatus
  code : String

/-- What begins a request on the order. -/
inductive GuessEntry where
  | confirmDelivery (asked : Confirmation)
  | updateOrderStatus (asked : StatusUpdate)

/-- How far a confirmation has come, by its next statement. -/
inductive ConfirmCall where
  /-- `SELECT … FOR UPDATE`, and the comparison with what it returns. -/
  | checkCode
  /-- The UPDATE that counts a wrong guess. -/
  | countGuess (failure : Failure)
  /-- The COMMIT that keeps it. -/
  | commitGuess (failure : Failure)
  /-- The COMMIT of a refusal that counts nothing. -/
  | commitRefused (failure : Failure)
  | lockOrder (method : ProofMethod)
  | uploadPhoto (method : ProofMethod) (order : DispatchOrder)
  | insertConfirmation (method : ProofMethod) (order : DispatchOrder)
  | updateOrder (method : ProofMethod) (order : DispatchOrder)
  | insertLog (method : ProofMethod) (order : DispatchOrder)
  | commit (method : ProofMethod) (order : DispatchOrder)

/-- How far a status update has come, by its next statement. -/
inductive UpdateCall where
  | lockOrder
  | updateStatus (order : DispatchOrder) (status : OrderStatus)
  | chargeWait (order : DispatchOrder) (status : OrderStatus)
  | readCode (order : DispatchOrder) (status : OrderStatus) (waited : Option ℚ)
  | storeCode (order : DispatchOrder) (status : OrderStatus) (waited : Option ℚ)
  | insertLog (order : DispatchOrder) (status : OrderStatus) (waited : Option ℚ) (issue : Bool)
  | commit (order : DispatchOrder) (status : OrderStatus) (waited : Option ℚ) (issue : Bool)

/--
A connection, by what is to run on it next.

A request may be given a connection that was handed back with a transaction open. Then the order is
locked from the start, and the bare UPDATE that was left behind is part of the request's own transaction.
-/
inductive GuessCall where
  | confirm (asked : Confirmation) (left : Option OrderStatus) (call : ConfirmCall)
  | update (asked : StatusUpdate) (left : Option OrderStatus) (call : UpdateCall)
  /-- Handed back with a status written, and its transaction open. -/
  | leftOpen (status : OrderStatus)
  /-- Handed back with nothing open. -/
  | done (answer : Except Failure Unit)
  /-- Gone, and what it had open rolled back. -/
  | stopped

/-- What a statement is answered with, and what becomes of a connection that is left open. -/
inductive GuessAnswer where
  | works
  /-- An error: the handler catches it and rolls back. -/
  | fails
  /-- The connection is given to another request on the order. -/
  | handed (entry : GuessEntry)
  /-- It is given to some other request, which commits or rolls back what it finds open. -/
  | ended (committed : Bool)

/-- A statement, by what is seen of it from outside its transaction. -/
inductive GuessStatement where
  /-- A SELECT, a write that is still to be committed, or a ROLLBACK. -/
  | unseen
  /-- `FOR UPDATE`. -/
  | lock
  /-- `FOR UPDATE`, and what becomes of the code that was submitted. -/
  | check (verdict : Except Failure Unit)
  | commitGuess (left : Option OrderStatus)
  | commitRefused (left : Option OrderStatus)
  | commitDelivered (left : Option OrderStatus) (asked : Confirmation) (method : ProofMethod)
      (order : DispatchOrder)
  | commitUpdated (left : Option OrderStatus) (asked : StatusUpdate) (order : DispatchOrder)
      (status : OrderStatus) (waited : Option ℚ) (issue : Bool)

/-- The board, with every verdict on a submitted code and how many wrong guesses have been kept. -/
structure Guessed where
  board : Board
  verdicts : List (Except Failure Unit)
  kept : Nat

/-- What happens to the order and around it. -/
inductive Elsewhere where
  /-- Another transaction writes the order, and leaves its code alone. -/
  | order (row : DispatchOrder)
  /-- The rest of the board changes. -/
  | rest (board : Board)

section
variable (cfg : DispatchConfig) (id : Nat) (board : Board)

/-- A bare UPDATE of the status leaves the order the one it is. -/
theorem DispatchOrder.movedTo_id (status : OrderStatus) (order : DispatchOrder) :
    (order.movedTo status).id = order.id := rfl

/-- An order with one more wrong guess on record. -/
def DispatchOrder.guessCounted (order : DispatchOrder) : DispatchOrder :=
  { order with deliveryCodeAttempts := order.deliveryCodeAttempts + 1 }

/-- It is the same order still. -/
theorem DispatchOrder.guessCounted_id (order : DispatchOrder) : order.guessCounted.id = order.id := rfl

/-- The board as a transaction sees it that found a bare UPDATE on its connection. -/
def Board.withLeft (left : Option OrderStatus) : Board :=
  match left with
  | none => board
  | some status => board.changeOrder id (.movedTo status) (DispatchOrder.movedTo_id status)

/-- A wrong guess, counted. -/
def Board.guessCounted : Board :=
  board.changeOrder id DispatchOrder.guessCounted DispatchOrder.guessCounted_id

/-- A confirmed order is the same order still. -/
theorem DispatchOrder.confirmed_id (order : DispatchOrder) : (order.confirmed cfg board).id = order.id := rfl

/-- A delivery, as its transaction commits it. -/
def Board.deliveryConfirmed (asked : Confirmation) (method : ProofMethod) (order : DispatchOrder) : Board :=
  { (board.changeOrder id (fun order => order.confirmed cfg board) (DispatchOrder.confirmed_id cfg board)).logged
      id order.status .delivered asked.requester.username with
    confirmations := board.confirmations ++ [
      { orderId := id, driverName := asked.requester.username, photoKey := asked.proof.photo
        notes := asked.proof.notes, proofMethod := method }] }

/-- A code stored for the order, with no guess at it yet. -/
def DispatchOrder.coded (code : String) (order : DispatchOrder) : DispatchOrder :=
  { order with deliveryCodeHash := some (cfg.hashCode code), deliveryCodeAttempts := 0 }

/-- The row a status update commits: the wait charged, and the code stored where one was issued. -/
def DispatchOrder.updated (status : OrderStatus) (waited : Option ℚ) (code : String) (issue : Bool)
    (order : DispatchOrder) : DispatchOrder :=
  let moved : DispatchOrder :=
    { order with toOrder := order.toOrder.statusUpdated cfg.rateOf status waited }
  if issue then moved.coded cfg code else moved

/-- It is the same order still. -/
theorem DispatchOrder.updated_id (status : OrderStatus) (waited : Option ℚ) (code : String)
    (issue : Bool) (order : DispatchOrder) :
    (order.updated cfg status waited code issue).id = order.id := by
  -- No branch of the update writes the primary key.
  have kept : (order.toOrder.statusUpdated cfg.rateOf status waited).id = order.id := by
    unfold Order.statusUpdated Order.leftPickup
    repeat' split
    all_goals rfl
  unfold DispatchOrder.updated
  split <;> exact kept

/-- A status update, as its transaction commits it. -/
def Board.statusCommitted (asked : StatusUpdate) (order : DispatchOrder) (status : OrderStatus)
    (waited : Option ℚ) (issue : Bool) : Board :=
  (board.changeOrder id (.updated cfg status waited asked.code issue)
    (DispatchOrder.updated_id cfg status waited asked.code issue)).logged
    id order.status status asked.requester.username

end

/-- What a statement does to what is committed. -/
def GuessStatement.execute (cfg : DispatchConfig) (id : Nat) (guessed : Guessed) :
    GuessStatement → Guessed
  -- Within its transaction nothing of it is seen from outside.
  | .unseen | .lock => guessed
  | .check verdict => { guessed with verdicts := guessed.verdicts ++ [verdict] }
  | .commitGuess left =>
    { guessed with
      board := (guessed.board.withLeft id left).guessCounted id, kept := guessed.kept + 1 }
  | .commitRefused left => { guessed with board := guessed.board.withLeft id left }
  | .commitDelivered left asked method order =>
    { guessed with board := (guessed.board.withLeft id left).deliveryConfirmed cfg id asked method order }
  | .commitUpdated left asked order status waited issue =>
    { guessed with
      board := (guessed.board.withLeft id left).statusCommitted cfg id asked order status waited issue }

/-- The row a statement waits for. -/
def GuessStatement.needs : GuessStatement → List Unit
  | .lock | .check _ => [()]
  | _ => []

/-- A request given a connection, with what it finds open on it. -/
def GuessEntry.begin_ (left : Option OrderStatus) : GuessEntry → GuessCall
  | .confirmDelivery asked =>
    if asked.proof.photo.isNone && asked.proof.submittedCode.isEmpty then
      -- It rolls back before it has begun anything.
      .done (.error .proofRequired)
    else if asked.proof.submittedCode.isEmpty then .confirm asked left (.lockOrder .photo)
    else .confirm asked left .checkCode
  | .updateOrderStatus asked =>
    match (do
      let status ← demand asked.status .invalidStatus
      require (asked.requester.role ≠ .driver || driverAllowedStatuses.contains status)
        (.driverForbidden status) : Except Failure Unit) with
    | .ok _ => .update asked left .lockOrder
    -- These refusals come before the BEGIN, and leave the connection as it was.
    | .error failure =>
      match left with
      | none => .done (.error failure)
      | some status => .leftOpen status

/-- The statement a confirmation is at, and where it goes from there. -/
def ConfirmCall.next (cfg : DispatchConfig) (id : Nat) (board : Board) (asked : Confirmation)
    (left : Option OrderStatus) : ConfirmCall → GuessStatement × GuessCall
  | .checkCode =>
    let verdict := verifyDeliveryCode cfg (board.withLeft id left) id asked.proof.submittedCode
    (.check verdict, .confirm asked left (match verdict with
      | .ok _ => .lockOrder (if asked.proof.photo.isSome then .photoAndCode else .code)
      -- Only a wrong code is counted, in the same transaction, which commits the refusal.
      | .error (.wrongCode attemptsLeft) => .countGuess (.wrongCode attemptsLeft)
      | .error failure => .commitRefused failure))
  | .countGuess failure => (.unseen, .confirm asked left (.commitGuess failure))
  | .commitGuess failure => (.commitGuess left, .done (.error failure))
  | .commitRefused failure => (.commitRefused left, .done (.error failure))
  | .lockOrder method =>
    -- The row is read under its lock, and the status is checked on it.
    match (do
      let order ← demand ((board.withLeft id left).order id) .orderNotFound
      require (deliverableFrom.contains order.status) (.notArrived order.status)
      require (asked.requester.role ≠ .driver || sameName cfg order.assignedTo asked.requester.username)
        .notAssignee
      return order : Except Failure DispatchOrder) with
    | .error failure => (.lock, .done (.error failure))
    | .ok order => (.lock, .confirm asked left (.uploadPhoto method order))
  | .uploadPhoto method order => (.unseen, .confirm asked left (.insertConfirmation method order))
  | .insertConfirmation method order => (.unseen, .confirm asked left (.updateOrder method order))
  | .updateOrder method order => (.unseen, .confirm asked left (.insertLog method order))
  | .insertLog method order => (.unseen, .confirm asked left (.commit method order))
  | .commit method order => (.commitDelivered left asked method order, .done (.ok ()))

/-- The statement a status update is at, and where it goes from there. -/
def UpdateCall.next (cfg : DispatchConfig) (id : Nat) (board : Board) (asked : StatusUpdate)
    (left : Option OrderStatus) : UpdateCall → GuessStatement × GuessCall
  | .lockOrder =>
    match statusChange cfg (board.withLeft id left) asked.requester id asked.status with
    | .error failure => (.lock, .done (.error failure))
    | .ok (order, status) => (.lock, .update asked left (.updateStatus order status))
  | .updateStatus order status =>
    (.unseen,
      if mayRecord asked.requester status then
        .update asked left (.chargeWait order status)
      -- The UPDATE has been made by now, and this refusal does not roll it back.
      else .leftOpen status)
  | .chargeWait order status =>
    let waited := board.waitedSince id .atPickup
    (.unseen, .update asked left
      (if status = .inTransit ∨ status = .arrived then .readCode order status waited
        else .insertLog order status waited false))
  | .readCode order status waited =>
    let row := (board.withLeft id left).order id
    (.unseen, .update asked left
      (if row.any fun row => (Payment.present row.deliveryCodeHash).isNone &&
          ((Payment.present row.recipientPhone).or (Payment.present row.customerPhone)).isSome then
        .storeCode order status waited
      else .insertLog order status waited false))
  | .storeCode order status waited => (.unseen, .update asked left (.insertLog order status waited true))
  | .insertLog order status waited issue =>
    (.unseen, .update asked left (.commit order status waited issue))
  | .commit order status waited issue =>
    (.commitUpdated left asked order status waited issue, .done (.ok ()))

/-- A COMMIT, which takes effect once it is issued. -/
def GuessCall.commits : GuessCall → Bool
  | .confirm _ _ (.commitGuess _) | .confirm _ _ (.commitRefused _) | .confirm _ _ (.commit ..)
  | .update _ _ (.commit ..) => true
  | _ => false

/-- The statement a connection is at, and where it goes from there. -/
def GuessCall.next (cfg : DispatchConfig) (id : Nat) (board : Board) (answer : GuessAnswer)
    (call : GuessCall) : GuessStatement × GuessCall :=
  match call with
  | .confirm asked left at_ =>
    match answer with
    -- A COMMIT takes effect once it is issued, whatever becomes of its answer.
    | .fails => if call.commits then at_.next cfg id board asked left else (.unseen, .done (.error .database))
    | _ => at_.next cfg id board asked left
  | .update asked left at_ =>
    match answer with
    | .fails => if call.commits then at_.next cfg id board asked left else (.unseen, .done (.error .database))
    | _ => at_.next cfg id board asked left
  -- A connection that was left inside its transaction is handed to the next request.
  | .leftOpen status =>
    match answer with
    | .handed entry => (.unseen, entry.begin_ (some status))
    | .ended true => (.commitRefused (some status), .done (.ok ()))
    | .ended false => (.unseen, .done (.ok ()))
    | _ => (.unseen, .leftOpen status)
  | .done answer => (.unseen, .done answer)
  | .stopped => (.unseen, .stopped)

/-- A request holds the order from its first lock, or from the start where it found it locked. -/
def GuessCall.holds : GuessCall → List Unit
  | .confirm _ none .checkCode | .confirm _ none (.lockOrder .photo) | .update _ none .lockOrder
  | .done _ | .stopped => []
  | _ => [()]

/-- What happens elsewhere. -/
def Elsewhere.happens (id : Nat) (guessed : Guessed) : Elsewhere → Guessed
  | .order row =>
    { guessed with
      board := guessed.board.changeOrder id
        -- Whatever else is written, the code and its count are written here alone.
        (fun order => { row with
          id := order.id, deliveryCodeHash := order.deliveryCodeHash
          deliveryCodeAttempts := order.deliveryCodeAttempts }) fun _ => rfl }
  | .rest board => { guessed with board := { board with orders := guessed.board.orders } }

/-- Confirmations and status updates of one order, in any interleaving. -/
def guessing (cfg : DispatchConfig) (id : Nat) :
    CallSystem Guessed GuessStatement GuessEntry GuessCall GuessAnswer Elsewhere Unit where
  start := GuessEntry.begin_ none
  next := fun guessed answer call => call.next cfg id guessed.board answer
  execute := fun statement guessed => statement.execute cfg id guessed
  -- The lock is the order's row.
  holds := GuessCall.holds
  needs := GuessStatement.needs
  outside := fun event guessed => event.happens id guessed
  outsideNeeds := fun
    | .order _ => [()]
    | .rest _ => []
  stopped := .stopped

section Alone

variable {cfg : DispatchConfig} {id : Nat} {board : Board}

/-- A request that runs some of its statements with nobody in its way. -/
def aloneWith (cfg : DispatchConfig) (id : Nat) (guessed : Guessed) (call : GuessCall)
    (statements : Nat) : Pool Guessed GuessCall :=
  run (guessing cfg id).step ⟨guessed, [call]⟩ (List.replicate statements (.run 0 .works))

/-- Alone, a request runs one statement after another. -/
theorem aloneWith_succ (guessed : Guessed) (call : GuessCall) (statements : Nat) :
    aloneWith cfg id guessed call (statements + 1) =
      aloneWith cfg id ((call.next cfg id guessed.board .works).1.execute cfg id guessed)
        (call.next cfg id guessed.board .works).2 statements := by
  unfold aloneWith
  rw [List.replicate_succ, run_cons]
  -- There is no other request to wait for.
  have free : (guessing cfg id).Free
      ((guessing cfg id).needs ((guessing cfg id).next guessed .works call).1)
      (List.eraseIdx [call] 0) := fun _ member => by cases member
  have steps : (guessing cfg id).step ⟨guessed, [call]⟩ (.run 0 .works) =
      ⟨(call.next cfg id guessed.board .works).1.execute cfg id guessed,
        [(call.next cfg id guessed.board .works).2]⟩ := by
    simp only [CallSystem.step, List.getElem?_cons_zero, if_pos free]
    rfl
  rw [steps]

/-- A request that is over changes nothing. -/
theorem aloneWith_over {guessed : Guessed} {call : GuessCall}
    (ended : ∀ board, call.next cfg id board .works = (.unseen, call)) (statements : Nat) :
    (aloneWith cfg id guessed call statements).shared = guessed := by
  -- Each further statement finds the call where it was.
  induction statements with
  | zero => rfl
  | succ statements ih =>
    rw [aloneWith_succ, ended]
    exact ih

/-- A statement that is not seen from outside leaves everything as it is. -/
theorem aloneWith_unseen {guessed : Guessed} {call later : GuessCall}
    (steps : call.next cfg id guessed.board .works = (.unseen, later)) (statements : Nat) :
    aloneWith cfg id guessed call (statements + 1) = aloneWith cfg id guessed later statements := by
  -- The statement counts as one, and writes nothing.
  rw [aloneWith_succ, steps]
  rfl

/-- What is left of `confirmDelivery` once the proof is settled. -/
def confirmedBy (cfg : DispatchConfig) (board : Board) (id : Nat) (asked : Confirmation)
    (method : ProofMethod) : Except Failure Board := do
  let order ← demand (board.order id) .orderNotFound
  require (deliverableFrom.contains order.status) (.notArrived order.status)
  require (asked.requester.role ≠ .driver || sameName cfg order.assignedTo asked.requester.username)
    .notAssignee
  return board.deliveryConfirmed cfg id asked method order

/-- What a confirmation leaves behind, from what its proof came to. -/
def confirmationLeaves (cfg : DispatchConfig) (board : Board) (id : Nat) (asked : Confirmation)
    (settled : Except Failure ProofMethod) : Board :=
  match settled >>= confirmedBy cfg board id asked with
  | .ok written => written
  | .error failure => afterRefusedProof board id failure

/-- A confirmation settles the proof first. -/
theorem step_confirmDelivery (asked : Confirmation) :
    step cfg board (.confirmDelivery asked.requester id asked.proof) =
      confirmationLeaves cfg board id asked (proofMethod cfg board id asked.proof) := rfl

/-- With no code typed, the proof is the photo. -/
theorem proofMethod_untyped {proof : DeliveryProof} (typed : proof.submittedCode.isEmpty = true) :
    proofMethod cfg board id proof =
      if proof.photo.isSome then .ok .photo else .error .proofRequired := by
  -- The code is not looked at.
  unfold proofMethod
  rw [typed]
  cases proof.photo.isSome <;> rfl

/-- With one typed, the proof is as good as the code. -/
theorem proofMethod_typed {proof : DeliveryProof} (typed : proof.submittedCode.isEmpty = false) :
    proofMethod cfg board id proof =
      verifyDeliveryCode cfg board id proof.submittedCode >>= fun _ =>
        .ok (if proof.photo.isSome then .photoAndCode else .code) := by
  -- The code is checked first; the photo only decides what the proof is called.
  unfold proofMethod
  rw [typed]
  cases proof.photo.isSome <;> rfl

/-- Alone, a confirmation whose proof is settled does what is left of `confirmDelivery`. -/
theorem lockOrder_alone {asked : Confirmation} {guessed : Guessed} (method : ProofMethod)
    (statements : Nat) :
    (aloneWith cfg id guessed (.confirm asked none (.lockOrder method)) (statements + 6)).shared.board =
      confirmationLeaves cfg guessed.board id asked (.ok method) := by
  rw [aloneWith_succ]
  show _ = match confirmedBy cfg guessed.board id asked method with
    | .ok written => written
    | .error failure => afterRefusedProof guessed.board id failure
  simp only [GuessCall.next, ConfirmCall.next, Board.withLeft, confirmedBy]
  cases found : guessed.board.order id with
  | none =>
    rw [aloneWith_over fun _ => rfl]
    rfl
  | some order =>
    cases arrived : deliverableFrom.contains order.status with
    | false =>
      simp only [demand, require, arrived, Bind.bind, Except.bind, Bool.false_eq_true, if_false]
      rw [aloneWith_over fun _ => rfl]
      rfl
    | true =>
      cases theirs : asked.requester.role ≠ .driver ||
          sameName cfg order.assignedTo asked.requester.username with
      | false =>
        simp only [demand, require, arrived, theirs, Bind.bind, Except.bind, Bool.false_eq_true, if_false,
          if_true]
        rw [aloneWith_over fun _ => rfl]
        rfl
      | true =>
        -- The photo, the confirmation, the order, the log and the COMMIT follow.
        simp only [demand, require, arrived, theirs, Bind.bind, Except.bind, if_true]
        rw [aloneWith_succ, aloneWith_succ, aloneWith_succ, aloneWith_succ, aloneWith_succ]
        exact congrArg Guessed.board (aloneWith_over (fun _ => rfl) statements)

/-- Alone, a refused code leaves what `confirmDelivery` leaves: a wrong guess counted, or nothing. -/
theorem refused_alone {asked : Confirmation} {guessed : Guessed} {failure : Failure}
    (checked : verifyDeliveryCode cfg guessed.board id asked.proof.submittedCode = .error failure) :
    (aloneWith cfg id guessed (.confirm asked none .checkCode) 7).shared.board =
      afterRefusedProof guessed.board id failure := by
  -- A wrong code takes two statements more to be counted, and any other refusal none.
  rw [aloneWith_succ]
  simp only [GuessCall.next, ConfirmCall.next, Board.withLeft, checked]
  cases failure with
  | wrongCode attemptsLeft =>
    rw [aloneWith_succ, aloneWith_succ, aloneWith_over fun _ => rfl]
    rfl
  | _ =>
    rw [aloneWith_succ, aloneWith_over fun _ => rfl]
    rfl

/-- A confirmation begins by what it was sent with. -/
theorem begin_confirmDelivery (asked : Confirmation) :
    (GuessEntry.confirmDelivery asked).begin_ none =
      if asked.proof.photo.isNone && asked.proof.submittedCode.isEmpty then
        .done (.error .proofRequired)
      else if asked.proof.submittedCode.isEmpty then .confirm asked none (.lockOrder .photo)
      else .confirm asked none .checkCode := rfl

/-- Alone, the statements of a confirmation commit what `confirmDelivery` leaves, refused or not. -/
theorem confirmDelivery_alone (asked : Confirmation) (guessed : Guessed) :
    (aloneWith cfg id guessed (GuessEntry.begin_ none (.confirmDelivery asked)) 7).shared.board =
      step cfg guessed.board (.confirmDelivery asked.requester id asked.proof) := by
  rw [step_confirmDelivery, begin_confirmDelivery]
  -- A code that was typed in is checked by statements of its own; without one the order is locked at once.
  cases typed : asked.proof.submittedCode.isEmpty with
  | true =>
    rw [proofMethod_untyped typed]
    cases taken : asked.proof.photo with
    | none =>
      simp only [Option.isNone_none, Option.isSome_none, Bool.and_self, if_true, Bool.false_eq_true, if_false]
      rw [aloneWith_over fun _ => rfl]
      rfl
    | some photo =>
      simp only [Option.isNone_some, Option.isSome_some, Bool.false_and, if_true, Bool.false_eq_true, if_false]
      rw [show 7 = 1 + 6 from rfl, lockOrder_alone]
  | false =>
    rw [proofMethod_typed typed]
    simp only [Bool.and_false, Bool.false_eq_true, if_false]
    cases checked : verifyDeliveryCode cfg guessed.board id asked.proof.submittedCode with
    | error failure => exact refused_alone checked
    | ok passed =>
      have checks : GuessCall.next cfg id guessed.board .works (.confirm asked none .checkCode) =
          (.check (.ok passed), .confirm asked none
            (.lockOrder (if asked.proof.photo.isSome then .photoAndCode else .code))) := by
        simp only [GuessCall.next, ConfirmCall.next, Board.withLeft, checked]
      rw [aloneWith_succ, checks, show 6 = 0 + 6 from rfl, lockOrder_alone]
      rfl

/-- A refusal before the BEGIN is one `updateOrderStatus` makes too. -/
theorem begin_updateOrderStatus (asked : StatusUpdate) :
    (GuessEntry.updateOrderStatus asked).begin_ none = .update asked none .lockOrder ∨
      ∃ failure, (GuessEntry.updateOrderStatus asked).begin_ none = .done (.error failure) ∧
        statusChange cfg board asked.requester id asked.status = .error failure := by
  -- The status and the role are checked on the way in, before a connection is taken.
  simp only [GuessEntry.begin_, statusChange, demand, require, Bind.bind, Except.bind]
  cases asked.status with
  | none => exact .inr ⟨_, rfl, rfl⟩
  | some status =>
    by_cases may : asked.requester.role ≠ .driver || driverAllowedStatuses.contains status
    · simp only [may, if_true]
      exact .inl trivial
    · simp only [may, if_false, Bool.false_eq_true]
      exact .inr ⟨_, rfl, rfl⟩

/-- Whether a status update issues a code, from the order it finds. -/
def issuesCode (status : OrderStatus) (order : DispatchOrder) : Bool :=
  (status = .inTransit ∨ status = .arrived) && (Payment.present order.deliveryCodeHash).isNone &&
    ((Payment.present order.recipientPhone).or (Payment.present order.customerPhone)).isSome

/-- The row that is committed is the row `updateOrderStatus` makes. -/
theorem DispatchOrder.updated_eq (status : OrderStatus) (code : String) (order : DispatchOrder) :
    order.updated cfg status (board.waitedSince order.id .atPickup) code (issuesCode status order) =
      order.statusUpdated cfg board status code := by
  -- The customer's number is not changed by the update, so the code goes where it would have gone.
  have phone : (order.toOrder.statusUpdated cfg.rateOf status
      (board.waitedSince order.id .atPickup)).customerPhone = order.customerPhone := by
    unfold Order.statusUpdated Order.leftPickup
    repeat' split
    all_goals rfl
  unfold DispatchOrder.updated DispatchOrder.statusUpdated issuesCode
  by_cases onTheWay : status = .inTransit ∨ status = .arrived
  · simp only [onTheWay, decide_true, Bool.true_and, if_true, DispatchOrder.codeIssued, phone]
    rfl
  · simp only [onTheWay, decide_false, Bool.false_and, if_false, Bool.false_eq_true]

/-- What its transaction commits is what `updateOrderStatus` makes of the board. -/
theorem statusCommitted_eq {asked : StatusUpdate} {order : DispatchOrder} {status : OrderStatus}
    (found : board.order id = some order) :
    board.statusCommitted cfg id asked order status (board.waitedSince id .atPickup)
        (issuesCode status order) =
      (board.changeOrder id (fun order => order.statusUpdated cfg board status asked.code)
        fun _ => statusUpdated_id ..).logged id order.status status asked.requester.username := by
  -- The row that is written is the one that was read, so both changes make the same of it.
  have same : board.changeOrder id
      (.updated cfg status (board.waitedSince id .atPickup) asked.code (issuesCode status order))
      (DispatchOrder.updated_id cfg status _ asked.code _) =
      board.changeOrder id (fun order => order.statusUpdated cfg board status asked.code)
        (fun _ => statusUpdated_id ..) := by
    unfold Board.changeOrder
    congr 1
    apply Table.update_congr
    intro row here
    obtain rfl : order = row := Option.some.inj (found.symm.trans here)
    obtain rfl : order.id = id := (Table.find?_eq_some.mp here).2
    exact DispatchOrder.updated_eq status asked.code order
  unfold Board.statusCommitted
  rw [same]

/-- Alone, a status update that has charged the wait and stored its code logs itself and commits. -/
theorem insertLog_alone {asked : StatusUpdate} {guessed : Guessed} {order : DispatchOrder}
    {status : OrderStatus} {waited : Option ℚ} {issue : Bool} (statements : Nat) :
    (aloneWith cfg id guessed (.update asked none (.insertLog order status waited issue))
        (statements + 2)).shared.board =
      guessed.board.statusCommitted cfg id asked order status waited issue := by
  -- Two statements are left: the log and the COMMIT.
  rw [aloneWith_unseen rfl, aloneWith_succ]
  exact congrArg Guessed.board (aloneWith_over (fun _ => rfl) statements)

/-- Alone, a status update that may be made runs to its COMMIT. -/
theorem updateStatus_alone {asked : StatusUpdate} {guessed : Guessed} {order : DispatchOrder}
    {status : OrderStatus} (found : guessed.board.order id = some order)
    (may : mayRecord asked.requester status = true) :
    (aloneWith cfg id guessed (.update asked none (.updateStatus order status)) 6).shared.board =
      guessed.board.statusCommitted cfg id asked order status (guessed.board.waitedSince id .atPickup)
        (issuesCode status order) := by
  -- The UPDATE runs, and nobody sees it before the COMMIT.
  have updates : GuessCall.next cfg id guessed.board .works
      (.update asked none (.updateStatus order status)) =
      (.unseen, .update asked none (.chargeWait order status)) := by
    simp only [GuessCall.next, UpdateCall.next, may, if_true]
  rw [aloneWith_unseen updates]
  by_cases onTheWay : status = .inTransit ∨ status = .arrived
  · -- On the way the code is read, and one is stored where there is none.
    have charges : GuessCall.next cfg id guessed.board .works
        (.update asked none (.chargeWait order status)) =
        (.unseen, .update asked none (.readCode order status (guessed.board.waitedSince id .atPickup))) := by
      simp only [GuessCall.next, UpdateCall.next, if_pos onTheWay]
    have reads : GuessCall.next cfg id guessed.board .works
        (.update asked none (.readCode order status (guessed.board.waitedSince id .atPickup))) =
        (.unseen, .update asked none (if issuesCode status order then
            .storeCode order status (guessed.board.waitedSince id .atPickup)
          else .insertLog order status (guessed.board.waitedSince id .atPickup) false)) := by
      simp only [GuessCall.next, UpdateCall.next, Board.withLeft, found, Option.any_some, issuesCode,
        onTheWay, decide_true, Bool.true_and]
    rw [aloneWith_unseen charges, aloneWith_unseen reads]
    cases issues : issuesCode status order with
    | true =>
      simp only [if_true]
      rw [aloneWith_unseen rfl, show 2 = 0 + 2 from rfl, insertLog_alone]
    | false =>
      simp only [Bool.false_eq_true, if_false]
      rw [show 3 = 1 + 2 from rfl, insertLog_alone]
  · have charges : GuessCall.next cfg id guessed.board .works
        (.update asked none (.chargeWait order status)) =
        (.unseen, .update asked none
          (.insertLog order status (guessed.board.waitedSince id .atPickup) false)) := by
      simp only [GuessCall.next, UpdateCall.next, if_neg onTheWay]
    -- Off the way no code is issued.
    have issues : issuesCode status order = false := by
      simp only [issuesCode, onTheWay, decide_false, Bool.false_and]
    rw [aloneWith_unseen charges, issues, show 4 = 2 + 2 from rfl, insertLog_alone]

/-- Alone, the statements of a status update commit what `updateOrderStatus` makes of the board. -/
theorem updateOrderStatus_alone (asked : StatusUpdate) (guessed : Guessed) :
    (aloneWith cfg id guessed (GuessEntry.begin_ none (.updateOrderStatus asked)) 7).shared.board =
      step cfg guessed.board
        (.updateOrderStatus asked.requester id asked.status asked.code false) := by
  simp only [step, updateOrderStatus, afterRefusedStatus]
  obtain begun | ⟨failure, refused, changes⟩ := @begin_updateOrderStatus cfg id guessed.board asked
  · rw [begun]
    -- The lock is taken, and the row read under it is checked.
    cases changes : statusChange cfg guessed.board asked.requester id asked.status with
    | error failure =>
      have locks : GuessCall.next cfg id guessed.board .works (.update asked none .lockOrder) =
          (.lock, .done (.error failure)) := by
        simp only [GuessCall.next, UpdateCall.next, Board.withLeft, changes]
      rw [aloneWith_succ, locks, aloneWith_over fun _ => rfl]
      rfl
    | ok moved =>
      obtain ⟨order, status⟩ := moved
      have found := (statusChange_ok changes).2.1
      have locks : GuessCall.next cfg id guessed.board .works (.update asked none .lockOrder) =
          (.lock, .update asked none (.updateStatus order status)) := by
        simp only [GuessCall.next, UpdateCall.next, Board.withLeft, changes]
      rw [aloneWith_succ, locks]
      simp only [GuessStatement.execute]
      cases may : mayRecord asked.requester status with
      | true =>
        rw [updateStatus_alone found may, statusCommitted_eq found]
        simp only [Bind.bind, Except.bind, require, may, if_true]
        rfl
      | false =>
        -- The arrival that is refused is left open, and nothing of it is committed.
        have leaves : GuessCall.next cfg id guessed.board .works
            (.update asked none (.updateStatus order status)) = (.unseen, .leftOpen status) := by
          simp only [GuessCall.next, UpdateCall.next, may, Bool.false_eq_true, if_false]
        rw [aloneWith_unseen leaves, aloneWith_over fun _ => rfl]
        simp only [Bind.bind, Except.bind, require, may, Bool.false_eq_true, if_false]
  -- Refused before it begins, it has run no statement.
  · rw [refused, aloneWith_over fun _ => rfl, changes]
    rfl

end Alone

end Freight.Dispatch
