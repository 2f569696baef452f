import Freight.Dispatch.ByProof

/-! What a driver can do, and learn, about an order that is assigned to somebody else. -/

namespace Freight.Dispatch

variable {cfg : DispatchConfig} {board : Board} {event : DispatchEvent} {requester : Requester}
  {id : Nat} {order : DispatchOrder} {proof : DeliveryProof}

/-- A code as `newCode` makes them: four digits. -/
def IsDeliveryCode (code : String) : Prop :=
  code.toList.length = 4 ∧ code.toList.all Char.isDigit = true

/-- What is relied on of the digest: it is never empty, and does not make all codes look the same. -/
structure TellsCodesApart (cfg : DispatchConfig) : Prop where
  nonempty : ∀ code, cfg.hashCode code ≠ ""
  apart : ∃ one other, IsDeliveryCode one ∧ IsDeliveryCode other ∧
    cfg.hashCode one ≠ cfg.hashCode other

/-- The driver's request that an event is, if it is one a driver sends about an order. -/
def DispatchEvent.sender : DispatchEvent → Option Requester
  | .updateOrderStatus requester .. | .confirmDelivery requester .. | .acceptOffer requester ..
  | .declineOffer requester .. | .updateStop requester .. => some requester
  | _ => none

/-- What a confirmation is answered with. -/
def confirmationAnswer (cfg : DispatchConfig) (board : Board) (requester : Requester) (id : Nat)
    (proof : DeliveryProof) : Except Failure Unit :=
  outcome (confirmDelivery cfg board requester id proof)

/-- The order, if another code had been issued for it. -/
def DispatchOrder.recoded (cfg : DispatchConfig) (code : String) (order : DispatchOrder) :
    DispatchOrder :=
  { order with
    deliveryCodeHash := if (Payment.present order.deliveryCodeHash).isSome then some (cfg.hashCode code)
      else order.deliveryCodeHash }

/-- It is the same order. -/
theorem DispatchOrder.recoded_id (cfg : DispatchConfig) (code : String) (order : DispatchOrder) :
    (order.recoded cfg code).id = order.id := rfl

/-- The board, if another code had been issued for one of its orders. -/
def Board.recoded (cfg : DispatchConfig) (board : Board) (id : Nat) (code : String) : Board :=
  board.changeOrder id (DispatchOrder.recoded cfg code) (DispatchOrder.recoded_id cfg code)

/-- The order is found with the other code. -/
theorem order_recoded (found : board.order id = some order) (code : String) :
    (board.recoded cfg id code).order id = some (order.recoded cfg code) := by
  -- Only the row of this id is rewritten, and this is its id.
  rw [Board.recoded, Board.order_changeOrder, if_pos rfl, found, Option.map_some]

/-- The digits of the code that was keyed in. -/
def DeliveryProof.digits (proof : DeliveryProof) : Text := proof.submittedCode.filter Char.isDigit

/-- An order that is assigned to somebody else is out of a driver's reach. -/
structure OutOfReach (cfg : DispatchConfig) (board : Board) (event : DispatchEvent) : Prop where
  /-- No request of the driver's changes its row. -/
  untouched : ∀ requester, event.sender = some requester → requester.role = .driver →
    ∀ id order, board.order id = some order → order.assignedTo ≠ some requester.username →
      (step cfg board event).order id = some order
  /-- A confirmation is answered the same whatever code was issued for it. -/
  whateverIssued : ∀ requester id proof, event = .confirmDelivery requester id proof →
    requester.role = .driver →
    ∀ order, board.order id = some order → order.assignedTo ≠ some requester.username →
      ∀ code, IsDeliveryCode code →
        confirmationAnswer cfg (board.recoded cfg id code) requester id proof =
          confirmationAnswer cfg board requester id proof
  /-- And whatever code is submitted, the right one or another. -/
  whateverSubmitted : ∀ requester id proof, event = .confirmDelivery requester id proof →
    requester.role = .driver →
    ∀ order, board.order id = some order → order.assignedTo ≠ some requester.username →
      proof.digits ≠ [] → ∀ other : DeliveryProof, other.photo = proof.photo → other.digits ≠ [] →
        confirmationAnswer cfg board requester id other =
          confirmationAnswer cfg board requester id proof

/-- The code that was keyed in is compared with the one that was issued. -/
def DispatchOrder.compares (order : DispatchOrder) (proof : DeliveryProof) : Bool :=
  (Payment.present order.deliveryCodeHash).isSome &&
    order.deliveryCodeAttempts < deliveryCodeMaxAttempts && !proof.digits.isEmpty

/-- An event keeps away from the orders its sender does not have. -/
def KeepsAway (cfg : DispatchConfig) (board : Board) : DispatchEvent → Prop
  -- A namesake in other letters passes for the driver.
  | .updateOrderStatus requester id status _ _ => requester.role = .driver → ∀ order moved,
      statusChange cfg board requester id status = .ok (order, moved) →
        order.assignedTo = some requester.username
  -- The code is checked before anybody asks whose the order is.
  | .confirmDelivery requester id proof => requester.role = .driver → ∀ order,
      board.order id = some order → order.assignedTo ≠ some requester.username →
        order.compares proof = false ∧
        ¬ (proof.submittedCode = [] ∧ proof.photo.isSome = true ∧ order.status ∈ deliverableFrom ∧
          sameName cfg order.assignedTo requester.username = true)
  -- A stop is its run's driver's, whoever has the order by now.
  | .updateStop requester stopId status reason => requester.role = .driver → ∀ stop trip,
      stopChange cfg board requester stopId status reason = .ok (stop, trip, .done) →
        ∀ order, board.order stop.orderId = some order →
          order.assignedTo ≠ some requester.username →
            order.status = stopCompletionOrderStatus stop.kind
  | _ => True

/-- A driver moves orders to the statuses a driver may set. -/
theorem driverAllowed_of_statusChange (driver : requester.role = .driver) {target : Nat}
    {asked : Option OrderStatus} {moved : OrderStatus}
    (passes : statusChange cfg board requester target asked = .ok (order, moved)) :
    moved ∈ driverAllowedStatuses := by
  -- A driver's request is checked against that list.
  obtain ⟨-, may, -⟩ := statusChange_accepted.mp passes
  simpa [driver] using may

/-- A driver's status update either moves an order that passes its checks, or leaves all as they are. -/
theorem updateOrderStatus_step {status : Option OrderStatus} {code : String} {committedLater : Bool}
    (driver : requester.role = .driver) (target : Nat) :
    (∃ order moved, statusChange cfg board requester target status = .ok (order, moved) ∧
      (∀ id, id ≠ target →
        (step cfg board (.updateOrderStatus requester target status code committedLater)).order id =
          board.order id) ∧
      ∃ next, (step cfg board
          (.updateOrderStatus requester target status code committedLater)).order target = some next ∧
        next.status = moved) ∨
    (∀ found, statusChange cfg board requester target status ≠ .ok found) ∧
      step cfg board (.updateOrderStatus requester target status code committedLater) = board := by
  cases checked : statusChange cfg board requester target status with
  | error failure =>
    refine .inr ⟨(fun found same => by cases same), ?_⟩
    simp only [step, updateOrderStatus_refused checked, afterRefusedStatus, checked]
  | ok found =>
    obtain ⟨order, moved⟩ := found
    obtain ⟨-, there, -, moves⟩ := statusChange_ok checked
    -- A driver may record an arrival, so the update goes through.
    have done : updateOrderStatus cfg board requester target status code = .ok
        ((board.changeOrder target (fun order => order.statusUpdated cfg board moved code)
          fun _ => statusUpdated_id ..).logged target order.status moved requester.username) := by
      have may : mayRecord requester moved = true := by
        rw [mayRecord, driver]
        rfl
      exact updateOrderStatus_accepted.mpr ⟨order, moved, checked, may, rfl⟩
    refine .inl ⟨order, moved, rfl, fun id other => ?_, order.statusUpdated cfg board moved code, ?_,
      congrArg Standing.status (standing_statusUpdated code moves)⟩
    · simp only [step, done]
      refine (board.order_changeOrder target _ (fun _ => statusUpdated_id ..) id).trans ?_
      exact if_neg other
    · simp only [step, done]
      refine (board.order_changeOrder target _ (fun _ => statusUpdated_id ..) target).trans ?_
      rw [if_pos rfl, there, Option.map_some]

/-- `verifyDeliveryCode`, on the order's own row. -/
def DispatchOrder.codeChecked (cfg : DispatchConfig) (order : DispatchOrder) (submitted : Text) :
    Except Failure Unit := do
  let issued ← demand (Payment.present order.deliveryCodeHash) .noCodeIssued
  -- After too many attempts no code is compared any more.
  require (order.deliveryCodeAttempts < deliveryCodeMaxAttempts) .tooManyAttempts
  let given := submitted.filter Char.isDigit
  require (!given.isEmpty) .noCodeGiven
  require (cfg.hashCode (String.ofList given) = issued)
    (.wrongCode (deliveryCodeMaxAttempts - (order.deliveryCodeAttempts + 1)))

/-- `proofMethod`, on the order's own row. -/
def DispatchOrder.proofMethod (cfg : DispatchConfig) (order : DispatchOrder) (proof : DeliveryProof) :
    Except Failure ProofMethod := do
  require (proof.photo.isSome || !proof.submittedCode.isEmpty) .proofRequired
  -- A photo alone will do.
  if proof.submittedCode.isEmpty then
    return .photo
  else
    order.codeChecked cfg proof.submittedCode
    return if proof.photo.isSome then .photoAndCode else .code

/-- What a confirmation is answered with, read off the order's own row. -/
def DispatchOrder.answered (cfg : DispatchConfig) (order : DispatchOrder) (requester : Requester)
    (proof : DeliveryProof) : Except Failure Unit := do
  let _ ← order.proofMethod cfg proof
  require (deliverableFrom.contains order.status) (.notArrived order.status)
  require (requester.role ≠ .driver || sameName cfg order.assignedTo requester.username) .notAssignee

/-- The code is checked against the row that is found. -/
theorem proofMethod_eq (found : board.order id = some order) :
    Dispatch.proofMethod cfg board id proof = order.proofMethod cfg proof := by
  -- The row that is found is the only thing the check reads of the board.
  have checked : verifyDeliveryCode cfg board id proof.submittedCode =
      order.codeChecked cfg proof.submittedCode := by
    simp only [verifyDeliveryCode, found, demand, Bind.bind, Except.bind, DispatchOrder.codeChecked]
  unfold Dispatch.proofMethod DispatchOrder.proofMethod
  rw [checked]

/-- The row is all that the answer depends on. -/
theorem confirmationAnswer_eq (found : board.order id = some order) :
    confirmationAnswer cfg board requester id proof = order.answered cfg requester proof := by
  unfold confirmationAnswer confirmDelivery DispatchOrder.answered
  simp only [outcome_bind, bind_outcome_pure, proofMethod_eq found, found, demand]
  -- The row was found before, so looking for it again fails no request.
  rfl

/-- What an answer leaves of the row. -/
def DispatchOrder.afterAnswer (cfg : DispatchConfig) (board : Board) (order : DispatchOrder) :
    Except Failure Unit → DispatchOrder
  | .ok _ => order.confirmed cfg board
  | .error (.wrongCode _) => { order with deliveryCodeAttempts := order.deliveryCodeAttempts + 1 }
  | .error _ => order

/-- A confirmation leaves the other orders alone. -/
theorem confirmDelivery_others {target : Nat} (other : id ≠ target) :
    (step cfg board (.confirmDelivery requester target proof)).order id = board.order id := by
  simp only [step]
  split
  · rename_i later done
    obtain ⟨_, -, order, -, -, -, rfl⟩ := confirmDelivery_accepted.mp done
    refine (board.order_changeOrder target (·.confirmed cfg board) (fun _ => rfl) id).trans ?_
    exact if_neg other
  · -- A wrong code is counted on the order it was given for.
    unfold afterRefusedProof
    split
    · exact (board.order_changeOrder target _ _ id).trans (if_neg other)
    · rfl

/-- What a confirmation leaves of its order is what its answer leaves. -/
theorem confirmDelivery_row (found : board.order id = some order) :
    (step cfg board (.confirmDelivery requester id proof)).order id =
      some (order.afterAnswer cfg board (order.answered cfg requester proof)) := by
  rw [← confirmationAnswer_eq found]
  unfold confirmationAnswer
  simp only [step]
  cases done : confirmDelivery cfg board requester id proof with
  | ok later =>
    obtain ⟨_, -, row, -, -, -, rfl⟩ := confirmDelivery_accepted.mp done
    refine (board.order_changeOrder id (·.confirmed cfg board) (fun _ => rfl) id).trans ?_
    rw [if_pos rfl, found]
    rfl
  | error failure =>
    -- Of the refusals, only a wrong code writes anything.
    cases failure with
    | wrongCode left =>
      refine (board.order_changeOrder id _ _ id).trans ?_
      rw [if_pos rfl, found]
      rfl
    | _ => exact found

/-- Another code is live exactly where the one that was issued is. -/
theorem present_recoded (digest : TellsCodesApart cfg) (code : String) :
    Payment.present (order.recoded cfg code).deliveryCodeHash =
      (Payment.present order.deliveryCodeHash).map fun _ => cfg.hashCode code := by
  unfold DispatchOrder.recoded
  cases live : Payment.present order.deliveryCodeHash with
  | none => simp [live]
  | some issued =>
    -- A digest is never empty.
    simp [Payment.present, digest.nonempty code]

/-- A code that is not compared is refused for a reason that has nothing to do with what was issued. -/
theorem codeChecked_recoded (digest : TellsCodesApart cfg) (code : String)
    (not_compared : order.compares proof = false) :
    (order.recoded cfg code).codeChecked cfg proof.submittedCode =
      order.codeChecked cfg proof.submittedCode := by
  unfold DispatchOrder.codeChecked
  rw [present_recoded digest]
  unfold DispatchOrder.compares DeliveryProof.digits at not_compared
  -- Another code is issued with the attempts that are left.
  have attempts : (order.recoded cfg code).deliveryCodeAttempts = order.deliveryCodeAttempts := rfl
  rw [attempts]
  cases live : Payment.present order.deliveryCodeHash with
  | none => rfl
  | some issued =>
    by_cases left : order.deliveryCodeAttempts < deliveryCodeMaxAttempts
    · -- A code is live and attempts are left, so what was not given is the code.
      have nothing : (proof.submittedCode.filter Char.isDigit).isEmpty = true := by
        simpa [live, left] using not_compared
      simp [demand, require, Bind.bind, Except.bind, left, nothing]
    · simp [demand, require, Bind.bind, Except.bind, left]

/-- Once there are digits, such a code is refused as any other would be. -/
theorem codeChecked_submitted (other : DeliveryProof) (not_compared : order.compares proof = false)
    (given : proof.digits ≠ []) :
    order.codeChecked cfg other.submittedCode = order.codeChecked cfg proof.submittedCode := by
  unfold DispatchOrder.codeChecked
  unfold DispatchOrder.compares at not_compared
  unfold DeliveryProof.digits at not_compared given
  cases live : Payment.present order.deliveryCodeHash with
  | none => rfl
  | some issued =>
    -- With digits given, only the attempts are left to refuse it.
    have used_up : ¬ order.deliveryCodeAttempts < deliveryCodeMaxAttempts := by
      intro left
      simp [live, left, given] at not_compared
    simp [demand, require, Bind.bind, Except.bind, used_up]

/-- A code that is compared is right or wrong. -/
theorem codeChecked_compared {issued : String} (live : Payment.present order.deliveryCodeHash = some issued)
    (compared : order.compares proof = true) :
    order.codeChecked cfg proof.submittedCode =
      require (cfg.hashCode (String.ofList proof.digits) = issued)
        (.wrongCode (deliveryCodeMaxAttempts - (order.deliveryCodeAttempts + 1))) := by
  -- A code that is compared has the right number of digits and an attempt left, so the digest decides.
  unfold DispatchOrder.compares DeliveryProof.digits at compared
  simp only [live, Bool.and_eq_true, decide_eq_true_eq] at compared
  unfold DispatchOrder.codeChecked
  simp only [demand, live, Bind.bind, Except.bind, require, compared.1.2, compared.2, decide_true,
    if_true, DeliveryProof.digits]
  rfl

/-- A code that is not compared is refused, and not for being wrong. -/
theorem codeChecked_not_compared (not_compared : order.compares proof = false) :
    ∃ failure, order.codeChecked cfg proof.submittedCode = .error failure ∧
      ∀ left, failure ≠ .wrongCode left := by
  unfold DispatchOrder.codeChecked
  unfold DispatchOrder.compares DeliveryProof.digits at not_compared
  cases live : Payment.present order.deliveryCodeHash with
  | none => exact ⟨.noCodeIssued, rfl, fun _ => by simp⟩
  | some issued =>
    by_cases left : order.deliveryCodeAttempts < deliveryCodeMaxAttempts
    · -- Without digits there is nothing to compare.
      have nothing : (proof.submittedCode.filter Char.isDigit).isEmpty = true := by
        simpa [live, left] using not_compared
      exact ⟨.noCodeGiven, by simp [demand, require, Bind.bind, Except.bind, left, nothing],
        fun _ => by simp⟩
    · exact ⟨.tooManyAttempts, by simp [demand, require, Bind.bind, Except.bind, left],
        fun _ => by simp⟩

/-- Digits that were keyed in are a code that was submitted. -/
theorem submittedCode_of_digits (given : proof.digits ≠ []) : proof.submittedCode.isEmpty = false := by
  -- With nothing submitted there are no digits.
  rw [List.isEmpty_eq_false_iff]
  intro nothing
  exact given (by rw [DeliveryProof.digits, nothing]; rfl)

/-- Without a comparison, the proof is judged the same whatever code was issued. -/
theorem proofMethod_recoded (digest : TellsCodesApart cfg) (code : String)
    (not_compared : order.compares proof = false) :
    (order.recoded cfg code).proofMethod cfg proof = order.proofMethod cfg proof := by
  -- The code comes into it through the comparison only.
  unfold DispatchOrder.proofMethod
  rw [codeChecked_recoded digest code not_compared]

/-- A proof without a comparison closes the order for a photo alone, and no code is found wrong. -/
theorem answered_not_compared (not_compared : order.compares proof = false) (driver : requester.role = .driver)
    (not_photo : ¬ (proof.submittedCode = [] ∧ proof.photo.isSome = true ∧
      order.status ∈ deliverableFrom ∧ sameName cfg order.assignedTo requester.username = true)) :
    ∃ failure, order.answered cfg requester proof = .error failure ∧
      ∀ left, failure ≠ .wrongCode left := by
  unfold DispatchOrder.answered DispatchOrder.proofMethod
  -- A code that was typed in is checked first, and a photo counts only without one.
  cases submitted : proof.submittedCode.isEmpty with
  | false =>
    obtain ⟨failure, refused, not_wrong⟩ := @codeChecked_not_compared cfg _ _ not_compared
    exact ⟨failure, by simp [refused, require, Bind.bind, Except.bind], not_wrong⟩
  | true =>
    cases photo : proof.photo.isSome with
    | false => exact ⟨.proofRequired, by simp [require, Bind.bind, Except.bind], fun _ => by simp⟩
    | true =>
      by_cases arrived : order.status ∈ deliverableFrom
      · -- The photo would close the order for its own driver, who is somebody else.
        have stranger : sameName cfg order.assignedTo requester.username = false := by
          by_contra same
          exact not_photo ⟨by simpa using submitted, photo, arrived, by simpa using same⟩
        refine ⟨.notAssignee, ?_, fun _ => by simp⟩
        simp [require, Bind.bind, Except.bind, pure, Except.pure, arrived, stranger, driver]
      · refine ⟨.notArrived order.status, ?_, fun _ => by simp⟩
        simp [require, Bind.bind, Except.bind, pure, Except.pure, arrived]

/-- A code that is compared was submitted, and has digits. -/
theorem digits_of_compares (compared : order.compares proof = true) : proof.digits ≠ [] := by
  -- The last condition of a comparison is that something was submitted.
  unfold DispatchOrder.compares at compared
  simp only [Bool.and_eq_true, Bool.not_eq_true', List.isEmpty_eq_false_iff] at compared
  exact compared.2

/-- A proof whose code is compared and wrong is answered so. -/
theorem answered_wrong {issued : String} (live : Payment.present order.deliveryCodeHash = some issued)
    (compared : order.compares proof = true) (wrong : cfg.hashCode (String.ofList proof.digits) ≠ issued) :
    order.answered cfg requester proof =
      .error (.wrongCode (deliveryCodeMaxAttempts - (order.deliveryCodeAttempts + 1))) := by
  -- The check of the code comes first, and a wrong digest ends it.
  unfold DispatchOrder.answered DispatchOrder.proofMethod
  rw [codeChecked_compared live compared, submittedCode_of_digits (digits_of_compares compared)]
  simp [require, Bind.bind, Except.bind, wrong]

/-- A proof whose code is compared and right is not answered that it was wrong. -/
theorem answered_right {issued : String} (live : Payment.present order.deliveryCodeHash = some issued)
    (compared : order.compares proof = true) (right : cfg.hashCode (String.ofList proof.digits) = issued)
    (left : Nat) : order.answered cfg requester proof ≠ .error (.wrongCode left) := by
  unfold DispatchOrder.answered DispatchOrder.proofMethod
  rw [codeChecked_compared live compared, submittedCode_of_digits (digits_of_compares compared)]
  -- What is left to check is where the order stands and whose it is.
  simp only [require, right, decide_true, if_true, Bool.not_false, Bool.or_true, Bind.bind, Except.bind,
    pure, Except.pure, Bool.false_eq_true, if_false]
  split
  · rename_i failed
    split at failed <;> cases failed
    simp
  · split <;> simp

/-- A code is compared however it was hashed. -/
theorem compares_recoded (digest : TellsCodesApart cfg) (code : String) :
    (order.recoded cfg code).compares proof = order.compares proof := by
  -- What matters is whether there is a hash, and there is one as before.
  unfold DispatchOrder.compares
  rw [present_recoded digest, Option.isSome_map]
  rfl

/-- An accepted request about an offer is by the driver it was made to. -/
theorem offer_others {later : Board} {driver : Requester}
    (done : acceptOffer board driver id = .ok later ∨
      ∃ reason, declineOffer board driver id reason = .ok later) {other : Nat}
    (found : board.order other = some order) (not_theirs : order.assignedTo ≠ some driver.username) :
    later.order other = some order := by
  -- The one row that is written is the driver's own.
  have own : ∀ row, board.order id = some row → row.assignedTo = some driver.username → other ≠ id := by
    rintro row there theirs rfl
    rw [Option.some.inj (there.symm.trans found)] at theirs
    exact not_theirs theirs
  rcases done with done | ⟨reason, done⟩
  · obtain ⟨-, row, there, ⟨⟨-, theirs⟩, -⟩, rfl⟩ := acceptOffer_accepted.mp done
    refine (board.order_changeOrder id (fun order => { order with
      status := .assigned, offerExpiresAt := none }) (fun _ => rfl) other).trans ?_
    rw [if_neg (own row there theirs), found]
  · obtain ⟨-, row, there, ⟨-, theirs⟩, rfl⟩ := declineOffer_accepted.mp done
    refine (board.order_changeOrder id DispatchOrder.released (fun _ => rfl) other).trans ?_
    rw [if_neg (own row there theirs), found]

/-- The rows of orders that are assigned to somebody else stay as they are. -/
theorem untouched_of_keepsAway (keeps : KeepsAway cfg board event) (sent : event.sender = some requester)
    (driver : requester.role = .driver) (found : board.order id = some order)
    (not_theirs : order.assignedTo ≠ some requester.username) :
    (step cfg board event).order id = some order := by
  cases event with
  | updateOrderStatus sender target status code committedLater =>
    obtain rfl : sender = requester := Option.some.inj sent
    rcases @updateOrderStatus_step cfg board sender status code committedLater driver target with
      ⟨row, moved, passes, others, -⟩ | ⟨-, same⟩
    -- What went through was for another order, or it was the driver's own.
    · rw [others id ?_, found]
      rintro rfl
      have theirs := keeps driver row moved passes
      rw [Option.some.inj ((statusChange_ok passes).2.1.symm.trans found)] at theirs
      exact not_theirs theirs
    · rw [same, found]
  | confirmDelivery sender target proof =>
    obtain rfl : sender = requester := Option.some.inj sent
    -- A wrong code at this very order would use up an attempt.
    by_cases own : id = target
    · subst own
      obtain ⟨not_compared, not_photo⟩ := keeps driver order found not_theirs
      obtain ⟨failure, answer, not_wrong⟩ := answered_not_compared not_compared driver not_photo
      rw [confirmDelivery_row found, answer]
      cases failure with
      | wrongCode left => exact absurd rfl (not_wrong left)
      | _ => rfl
    · rw [confirmDelivery_others own, found]
  -- An offer is answered by the driver it was made to.
  | acceptOffer sender target =>
    obtain rfl : sender = requester := Option.some.inj sent
    simp only [step]
    cases done : acceptOffer board sender target with
    | ok later => exact offer_others (.inl done) found not_theirs
    | error failure => exact found
  | declineOffer sender target reason =>
    obtain rfl : sender = requester := Option.some.inj sent
    simp only [step]
    cases done : declineOffer board sender target reason with
    | ok later => exact offer_others (.inr ⟨reason, done⟩) found not_theirs
    | error failure => exact found
  | updateStop sender stopId status reason =>
    obtain rfl : sender = requester := Option.some.inj sent
    simp only [step]
    cases done : updateStop cfg board sender stopId status reason with
    | error failure => exact found
    | ok later =>
      obtain ⟨stop, trip, moved, passes, orders, -⟩ := updateStop_order done
      show later.order id = some order
      rw [orders id]
      split
      · rename_i its
        obtain ⟨rfl, rfl⟩ := its
        -- The status a finished stop implies is the one the order has already.
        have there := keeps driver stop trip passes order found not_theirs
        rw [found, Option.map_some, DispatchOrder.movedTo, ← there]
      · exact found
  | _ => cases sent

/-- What keeps away from the orders of others leaves them out of reach. -/
theorem outOfReach_of_keepsAway (digest : TellsCodesApart cfg) (keeps : KeepsAway cfg board event) :
    OutOfReach cfg board event := by
  refine ⟨fun _ sent driver _ _ found not_theirs =>
    untouched_of_keepsAway keeps sent driver found not_theirs, ?_, ?_⟩
  · rintro requester id proof rfl driver order found not_theirs code -
    obtain ⟨not_compared, -⟩ := keeps driver order found not_theirs
    rw [confirmationAnswer_eq found, confirmationAnswer_eq (order_recoded found code)]
    unfold DispatchOrder.answered
    -- The answer depends on the code only where it is compared.
    rw [proofMethod_recoded digest code not_compared]
    rfl
  · rintro requester id proof rfl driver order found not_theirs given other photo given_too
    obtain ⟨not_compared, -⟩ := keeps driver order found not_theirs
    rw [confirmationAnswer_eq found, confirmationAnswer_eq found]
    unfold DispatchOrder.answered DispatchOrder.proofMethod
    rw [codeChecked_submitted other not_compared given, submittedCode_of_digits given,
      submittedCode_of_digits given_too, photo]

/-- What leaves the orders of others out of reach keeps away from them. -/
theorem keepsAway_of_outOfReach (digest : TellsCodesApart cfg) (out : OutOfReach cfg board event) :
    KeepsAway cfg board event := by
  cases event with
  | updateOrderStatus requester target status code committedLater =>
    intro driver order moved passes
    by_contra not_theirs
    obtain ⟨-, found, allowed, -⟩ := statusChange_ok passes
    have same := out.untouched requester rfl driver target order found not_theirs
    rcases @updateOrderStatus_step cfg board requester status code committedLater driver target with
      ⟨row, moved', passes', -, next, there, becomes⟩ | ⟨refused, -⟩
    · cases passes'.symm.trans passes
      rw [Option.some.inj (there.symm.trans same)] at becomes
      -- The statuses a driver may set never leave an order where it is.
      rw [becomes] at allowed
      exact (by decide : ∀ status ∈ driverAllowedStatuses, ¬ canTransition status status = true) moved
        (driverAllowed_of_statusChange driver passes) allowed
    · exact refused _ passes
  | confirmDelivery requester target proof =>
    intro driver order found not_theirs
    have same := out.untouched requester rfl driver target order found not_theirs
    rw [confirmDelivery_row found, Option.some.injEq] at same
    refine ⟨?_, ?_⟩
    · by_contra compared
      rw [Bool.not_eq_false] at compared
      obtain ⟨issued, live⟩ : ∃ issued, Payment.present order.deliveryCodeHash = some issued := by
        unfold DispatchOrder.compares at compared
        simp only [Bool.and_eq_true] at compared
        exact Option.isSome_iff_exists.mp compared.1.1
      by_cases right : cfg.hashCode (String.ofList proof.digits) = issued
      · -- Some code would have made the guess wrong, and that would have been said.
        obtain ⟨code, is_code, differs⟩ : ∃ code, IsDeliveryCode code ∧
            cfg.hashCode (String.ofList proof.digits) ≠ cfg.hashCode code := by
          obtain ⟨one, other, one_is, other_is, apart⟩ := digest.apart
          by_cases first : cfg.hashCode (String.ofList proof.digits) = cfg.hashCode one
          · exact ⟨other, other_is, fun second => apart (first.symm.trans second)⟩
          · exact ⟨one, one_is, first⟩
        have alike := out.whateverIssued requester target proof rfl driver order found not_theirs code
          is_code
        rw [confirmationAnswer_eq found, confirmationAnswer_eq (order_recoded found code), answered_wrong
          ((present_recoded digest code).trans (by rw [live]; rfl))
          ((compares_recoded digest code).trans compared) differs] at alike
        exact answered_right live compared right _ alike.symm
      · -- A wrong guess is counted on the row.
        rw [answered_wrong live compared right] at same
        have counted := congrArg DispatchOrder.deliveryCodeAttempts same
        simp [DispatchOrder.afterAnswer] at counted
    · rintro ⟨nothing, photo, arrived, namesake⟩
      have closes : order.answered cfg requester proof = .ok () := by
        unfold DispatchOrder.answered DispatchOrder.proofMethod
        simp [nothing, photo, arrived, namesake, require, Bind.bind, Except.bind, pure, Except.pure]
      rw [closes] at same
      have delivered : OrderStatus.delivered = order.status := congrArg (fun row => row.status) same
      rw [← delivered] at arrived
      exact absurd arrived (by decide)
  | updateStop requester stopId status reason =>
    intro driver stop trip passes order found not_theirs
    have same := out.untouched requester rfl driver stop.orderId order found not_theirs
    rw [stopDone_order passes found, Option.some.injEq] at same
    exact (congrArg (fun row => row.status) same).symm
  | _ => trivial

/-- At every step of a run, the orders of others are out of a driver's reach exactly when it keeps away. -/
theorem outOfReach_iff_keepsAway (digest : TellsCodesApart cfg) (events : List DispatchEvent) :
    Along (step cfg) (OutOfReach cfg) board events ↔ Along (step cfg) (KeepsAway cfg) board events :=
  along_congr fun _ _ => ⟨keepsAway_of_outOfReach digest, outOfReach_of_keepsAway digest⟩

/-- The digest of the deployment is prefixed, and otherwise the code itself. -/
theorem kigali_tellsCodesApart : TellsCodesApart .kigali where
  -- A digest with something in front is never empty.
  nonempty := fun code empty => by
    have lengths := congrArg String.length empty
    rw [show DispatchConfig.kigali.hashCode code = "sha256:" ++ code from rfl, String.length_append]
      at lengths
    exact absurd lengths (by simp)
  apart := ⟨"0000", "0001", ⟨by decide, by decide⟩, ⟨by decide, by decide⟩, by decide⟩

/-- A driver who is not at the door. -/
def anotherDriver : Requester := { username := "+250788000002", role := .driver }

/-- An order of the driver's at the door, with a code issued for it. -/
def codeIssued : Board where
  orders := ⟨[{
    id := 1, status := .arrived, assignedTo := some "+250788000001"
    deliveryCodeHash := some (DispatchConfig.kigali.hashCode "1234") }], by decide⟩

/-- A guess at the code, without a photo. -/
def aGuess : DeliveryProof := { photo := none, deliveryCode := "0000", notes := none }

/-- A driver who has nothing to do with the order uses up one of its recipient's attempts. -/
theorem attempt_used_up :
    ¬ Along (step .kigali) (OutOfReach .kigali) codeIssued [.confirmDelivery anotherDriver 1 aGuess] := by
  -- That driver has no part in the order, and its row has one attempt more.
  rintro ⟨out, -⟩
  have same := out.untouched anotherDriver rfl rfl 1 _ rfl (by decide)
  exact absurd (congrArg (fun row => row.map DispatchOrder.deliveryCodeAttempts) same) (by decide)

/-- Another driver's photo, or acceptance, gets them nowhere. -/
theorem photo_out_of_reach :
    Along (step .kigali) (OutOfReach .kigali) codeIssued
      [.acceptOffer anotherDriver 1, .confirmDelivery anotherDriver 1 aPhoto] := by
  -- The order on the board is neither offered nor the other driver's.
  refine (outOfReach_iff_keepsAway kigali_tellsCodesApart _).mpr ⟨trivial, ?_, trivial⟩
  intro _ order found _
  obtain rfl : order = _ := List.mem_singleton.mp (Table.find?_eq_some.mp found).1
  exact ⟨by decide, fun namesake => absurd namesake.2.2.2 (by decide)⟩

end Freight.Dispatch
