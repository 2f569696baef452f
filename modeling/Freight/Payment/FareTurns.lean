import Freight.Payment.Exceptions

/-! What one step of a call, running alone, does to what is known of an order's fare. -/

namespace Freight.Payment

/-- The status a settlement is about to stamp on the order. -/
def ReconcileCall.stamping (id : Nat) : ReconcileCall → Option PaymentStatus
  | .mismatchOrder found | .failOrder found _ => if found.request.orderId = id then some .failed else none
  | .payOrder found => if found.request.orderId = id then some .paid else none
  | _ => none

/-- The status a call is about to stamp on the order. -/
def PaymentCall.stamping (id : Nat) : PaymentCall → Option PaymentStatus
  | .request (.stampPending _ charge) => if charge.orderId = id then some .pending else none
  | .reconcile inner | .sweep (.settling _ _ _ inner) => inner.stamping id
  | _ => none

/-- The request row a call has written for a prompt that MTN has not accepted yet. -/
def PaymentCall.placing : PaymentCall → Option Nat
  | .request (.requestToPay requestId _ _) | .request (.refuse requestId _ _ _) => some requestId
  | _ => none

/-- The payment status the order will have once the call has stamped it. -/
def shown (id : Nat) (store : Store) (call : PaymentCall) : Option PaymentStatus :=
  (store.order id).map fun order => (call.stamping id).getD order.paymentStatus

/-- A prompt is out for the order, apart from one that is only being placed. -/
def Waiting (id : Nat) (store : Store) (call : PaymentCall) : Prop :=
  ∃ row ∈ store.requests, Awaits id row ∧ call.placing ≠ some row.id

/-- What a settlement has read of a request is so. -/
def ReconcileCall.UpToDate (store : Store) : ReconcileCall → Prop
  | .ask found | .mismatchRequest found _ | .settle found _ =>
    found.request ∈ store.requests ∧ found.request.status = .pending
  | _ => True

/-- What a call has read, or written, is so. -/
def PaymentCall.UpToDate (store : Store) : PaymentCall → Prop
  | .reconcile inner | .sweep (.settling _ _ _ inner) => inner.UpToDate store
  | .cash (.takeCash orderId _) => ∀ row ∈ store.requests, ¬ Awaits orderId row
  | .request (.requestToPay requestId _ charge) =>
    ∃ row ∈ store.requests, row.id = requestId ∧ Awaits charge.orderId row
  | _ => True

/-- Statements that leave every payment status and every request as they are. -/
def Statement.quiet : Statement → Bool
  | .insertRequest _ | .failRequest _ _ | .resolveRequest _ _ _ _ | .timeOutRequest _ | .stampPayment _ _
  | .stampPaid _ | .takeCash _ => false
  | _ => true

/-- The call is about to end no prompt of the order, unless MTN has collected it. -/
structure Spares (id : Nat) (store : Store) (call : PaymentCall) : Prop where
  givesUp : ∀ request ∈ store.requests, Awaits id request → call.givesUp ≠ some request.reference
  turnsDown : call.turnsDown ≠ some id

/-- A call that is about to end nothing spares every order. -/
theorem Spares.of_none {id : Nat} {store : Store} {call : PaymentCall} (givesUp : call.givesUp = none)
    (turnsDown : call.turnsDown = none) : Spares id store call :=
  ⟨fun _ _ _ same => by simp [givesUp] at same, by simp [turnsDown]⟩

/-- What one step of a call does to what is known of an order's fare. -/
inductive Turn (id : Nat) (store later : Store) (call next : PaymentCall) : Prop where
  | kept (spares : Spares id store call) (status : shown id later next = shown id store call)
      (waiting : Waiting id later next ↔ Waiting id store call)
  /-- MTN has accepted a prompt. -/
  | prompted (raises : ∃ requestId reference charge, call = .request (.requestToPay requestId reference charge))
      (status : shown id later next = (store.order id).map fun _ => .pending) (waiting : Waiting id later next)
  /-- The fare is in, by mobile money or in cash. -/
  | paid (spares : Spares id store call)
      (due : Waiting id store call ∨ ∃ orderId collectedBy, call = .cash (.takeCash orderId collectedBy))
      (status : shown id later next = (store.order id).map fun _ => .paid) (waiting : ¬ Waiting id later next)
  | turnedDown (turnsDown : call.turnsDown = some id) (due : Waiting id store call)
      (status : shown id later next = (store.order id).map fun _ => .failed) (waiting : ¬ Waiting id later next)
  | givenUp (request : PaymentRequest) (listed : request ∈ store.requests) (awaits : Awaits id request)
      (givesUp : call.givesUp = some request.reference) (status : shown id later next = shown id store call)
      (waiting : ¬ Waiting id later next)

section
variable {cfg : Config} {id : Nat} {store : Store} {answer : Answer}

/-- A quiet statement leaves every payment status as it is. -/
theorem quiet_status {statement : Statement} (quiet : statement.quiet = true) (now : Nat) (row : Order) :
    (statement.onOrder now row).paymentStatus = row.paymentStatus := by
  -- Those that write an order without stamping it write debts and payouts.
  cases statement with
  | stampPayment | stampPaid | takeCash => cases quiet
  | commitPayout | commitSettlement | settleCash =>
    simp only [Statement.onOrder]
    split <;> rfl
  | _ => rfl

/-- Statements that leave every request as it is. -/
def Statement.sparesRequests : Statement → Bool
  | .insertRequest _ | .failRequest _ _ | .resolveRequest _ _ _ _ | .timeOutRequest _ => false
  | _ => true

/-- And so the requests are what they were. -/
theorem requests_spared {statement : Statement} (spares : statement.sparesRequests = true) :
    (statement.execute store).requests = store.requests := by
  -- Four statements write requests, and it is none of them.
  cases statement with
  | insertRequest | failRequest | resolveRequest | timeOutRequest => cases spares
  | _ => exact (List.append_nil _).trans (List.map_id'' (fun _ => rfl) _)

/-- A quiet statement leaves every request as it is. -/
theorem quiet_requests {statement : Statement} (quiet : statement.quiet = true) :
    (statement.execute store).requests = store.requests := by
  -- What is quiet is none of the statements that write requests.
  refine requests_spared ?_
  cases statement <;> first | rfl | cases quiet

/-- Seen from its own order, a statement that touches no payment status changes what is shown only with the call. -/
theorem shown_execute {statement : Statement} {call next : PaymentCall}
    (same : ∀ row, store.order id = some row →
      (next.stamping id).getD (statement.onOrder store.now row).paymentStatus =
        (call.stamping id).getD row.paymentStatus) :
    shown id (statement.execute store) next = shown id store call := by
  -- The row is found where it was, as the statement leaves it.
  unfold shown
  rw [order_execute, Option.map_map]
  cases found : store.order id with
  | none => rfl
  | some row => exact congrArg some (same row found)

/-- A step that stamps a status shows it. -/
theorem shown_stamped {statement : Statement} {next : PaymentCall} {status : PaymentStatus}
    (same : ∀ row, store.order id = some row →
      (next.stamping id).getD (statement.onOrder store.now row).paymentStatus = status) :
    shown id (statement.execute store) next = (store.order id).map fun _ => status := by
  -- The row is found where it was, and the call and the row agree on its status.
  unfold shown
  rw [order_execute, Option.map_map]
  cases found : store.order id with
  | none => rfl
  | some row => exact congrArg some (same row found)

/-- A quiet statement keeps what is known, while the call stamps and places nothing new. -/
theorem Turn.quietly {statement : Statement} {call next : PaymentCall} (quiet : statement.quiet = true)
    (stamping : next.stamping id = call.stamping id) (placing : next.placing = call.placing)
    (givesUp : call.givesUp = none) (turnsDown : call.turnsDown = none) :
    Turn id store (statement.execute store) call next := by
  -- What is shown and what is awaited read the statuses and the requests, which are as they were.
  refine .kept (.of_none givesUp turnsDown) (shown_execute fun row _ => ?_) ?_
  · rw [stamping, quiet_status quiet]
  · rw [Waiting, Waiting, quiet_requests quiet, placing]

/-- Every statement of a payout is quiet. -/
theorem PayoutCall.next_quiet (call : PayoutCall) : (call.next cfg store answer).1.quiet = true := by
  -- State by state, its statements are a payout's own.
  cases call <;> simp only [PayoutCall.next] <;> repeat' split
  all_goals rfl

/-- The name an order is found under is its own. -/
theorem order_named {row : Order} (found : store.order id = some row) : row.id = id := by
  -- It was looked up by its id.
  simpa using List.find?_some found

/-- The rows still pending after a statement that ends some of them are the others. -/
theorem awaits_ended {statement : Statement} {hit : PaymentRequest → Prop}
    (rows : (statement.execute store).requests = store.requests.map (statement.onRequest store.now))
    (ends : ∀ row, hit row ∨ row.status ≠ .pending → (statement.onRequest store.now row).status ≠ .pending)
    (spares : ∀ row, ¬ hit row → row.status = .pending → statement.onRequest store.now row = row)
    (row : PaymentRequest) : (row ∈ (statement.execute store).requests ∧ Awaits id row) ↔
      row ∈ store.requests ∧ Awaits id row ∧ ¬ hit row := by
  rw [rows, List.mem_map]
  constructor
  · rintro ⟨⟨old, listed, rfl⟩, awaits⟩
    -- Only a row that was pending and has been spared is still pending.
    have spared : ¬ (hit old ∨ old.status ≠ .pending) := fun ended => ends old ended awaits.2
    rw [not_or, not_not] at spared
    rw [spares old spared.1 spared.2] at awaits ⊢
    exact ⟨listed, awaits, spared.1⟩
  · rintro ⟨listed, awaits, other⟩
    exact ⟨⟨row, listed, spares row other awaits.2⟩, awaits⟩

/-- A request that is resolved is no longer awaited, and the others are. -/
theorem awaits_resolved {requestId : Nat} {status : RequestStatus} {transactionId reason : Option String}
    (resolved : status ≠ .pending) (row : PaymentRequest) :
    (row ∈ ((Statement.resolveRequest requestId status transactionId reason).execute store).requests ∧
      Awaits id row) ↔ row ∈ store.requests ∧ Awaits id row ∧ ¬ row.id = requestId := by
  -- Resolved or not before, the row is not pending after; the others are not touched.
  refine @awaits_ended id store (.resolveRequest requestId status transactionId reason) (fun row => row.id = requestId)
    (execute_requests store (by simp)) (fun row ended => ?_) (fun row other _ => ?_) row
  · simp only [Statement.onRequest]
    by_cases hit : row.id = requestId ∧ row.status = .pending
    · rw [if_pos hit]
      exact resolved
    · rw [if_neg hit]
      exact fun pending => ended.elim (fun own => hit ⟨own, pending⟩) fun not => not pending
  · exact if_neg fun hit => other hit.1

/-- Nor is one that is failed. -/
theorem awaits_failed {requestId : Nat} {reason : String} (row : PaymentRequest) :
    (row ∈ ((Statement.failRequest requestId reason).execute store).requests ∧ Awaits id row) ↔
      row ∈ store.requests ∧ Awaits id row ∧ ¬ row.id = requestId := by
  -- Failed, it is not pending; the others are not touched.
  refine @awaits_ended id store (.failRequest requestId reason) (fun row => row.id = requestId)
    (execute_requests store (by simp)) (fun row ended => ?_) (fun row other _ => if_neg other) row
  simp only [Statement.onRequest]
  by_cases own : row.id = requestId
  · rw [if_pos own]
    show RequestStatus.failed ≠ .pending
    decide
  · rw [if_neg own]
    exact ended.resolve_left own

/-- Nor is one that is timed out. -/
theorem awaits_timedOut {reference : Nat} (row : PaymentRequest) :
    (row ∈ ((Statement.timeOutRequest reference).execute store).requests ∧ Awaits id row) ↔
      row ∈ store.requests ∧ Awaits id row ∧ ¬ row.reference = reference := by
  -- Timed out, or not pending before, it is not pending after; the others are not touched.
  refine @awaits_ended id store (.timeOutRequest reference) (fun row => row.reference = reference)
    (execute_requests store (by simp)) (fun row ended => ?_) (fun row other _ => ?_) row
  · simp only [Statement.onRequest]
    by_cases hit : row.reference = reference ∧ row.status = .pending
    · rw [if_pos hit]
      show RequestStatus.timedOut ≠ .pending
      decide
    · rw [if_neg hit]
      exact fun pending => ended.elim (fun own => hit ⟨own, pending⟩) fun not => not pending
  · exact if_neg fun hit => other hit.1

/-- Once the order's one pending request has ended, nothing is out for it. -/
theorem none_waiting {calls : List PaymentCall} (admitted : Admitted store calls) {request : PaymentRequest}
    (listed : request ∈ store.requests) (awaits : Awaits id request) {row : PaymentRequest}
    (there : row ∈ store.requests) (waits : Awaits id row) : row = request :=
  admitted.onePending row there request listed waits.2 awaits.2 (waits.1.trans awaits.1.symm)

/-- A verdict against a request turns its order down, and nobody else's. -/
theorem resolved_turn {call next : PaymentCall} {calls : List PaymentCall} (admitted : Admitted store calls)
    {request : PaymentRequest}
    (listed : request ∈ store.requests) (pending : request.status = .pending)
    {status : RequestStatus} {transactionId reason : Option String} (resolved : status ≠ .pending)
    (placing : call.placing = none) (placed : next.placing = none) (stamping : call.stamping id = none)
    (spares : request.orderId ≠ id → Spares id store call)
    {stamp : PaymentStatus} (stamps : next.stamping id = if request.orderId = id then some stamp else none)
    (ends : request.orderId = id → Waiting id store call →
      ∀ later, shown id later next = (store.order id).map (fun _ => stamp) → ¬ Waiting id later next →
        Turn id store later call next) :
    Turn id store ((Statement.resolveRequest request.id status transactionId reason).execute store) call next := by
  -- The request is the order's own, or that of another order.
  by_cases own : request.orderId = id
  · refine ends own ⟨request, listed, ⟨own, pending⟩, by simp [placing]⟩ _ (shown_stamped fun row _ => ?_) ?_
    · rw [stamps, if_pos own]
      rfl
    · -- The order has no other pending request.
      rintro ⟨row, there, waits, -⟩
      obtain ⟨before, awaits, other⟩ := (awaits_resolved resolved row).mp ⟨there, waits⟩
      exact other (congrArg PaymentRequest.id (none_waiting admitted listed ⟨own, pending⟩ before awaits))
  · refine .kept (spares own) (shown_execute fun row _ => ?_) ?_
    · rw [stamps, if_neg own, stamping]
      rfl
    · simp only [Waiting, placing, placed]
      constructor
      · rintro ⟨row, there, waits, -⟩
        obtain ⟨before, awaits, -⟩ := (awaits_resolved resolved row).mp ⟨there, waits⟩
        exact ⟨row, before, awaits, (Option.some_ne_none _).symm⟩
      · rintro ⟨row, there, waits, -⟩
        -- A request of this order is not the one that was resolved.
        have other : ¬ row.id = request.id := by
          intro same
          rw [admitted.same_request there listed same] at waits
          exact own waits.1
        obtain ⟨after, awaits⟩ := (awaits_resolved resolved row).mpr
          ⟨there, waits, other⟩
        exact ⟨row, after, awaits, (Option.some_ne_none _).symm⟩

/-- A stamp that a call owed its order is shown already. -/
theorem stamped_turn {statement : Statement} {call next : PaymentCall} {orderId : Nat} {stamp : PaymentStatus}
    (stamps : ∀ row : Order, (statement.onOrder store.now row).paymentStatus =
      if row.id = orderId then stamp else row.paymentStatus)
    (requests : (statement.execute store).requests = store.requests)
    (stamping : call.stamping id = if orderId = id then some stamp else none)
    (stamped : next.stamping id = none) (placing : next.placing = call.placing)
    (givesUp : call.givesUp = none) (turnsDown : call.turnsDown = none) :
    Turn id store (statement.execute store) call next := by
  refine .kept (.of_none givesUp turnsDown) (shown_execute fun row found => ?_) (by rw [Waiting, Waiting, requests, placing])
  rw [stamped, stamping, stamps, order_named found]
  -- The stamp is shown in advance while it is owed, so writing it shows nothing new.
  by_cases own : orderId = id
  · rw [if_pos own, if_pos own.symm]
    rfl
  · rw [if_neg own, if_neg (Ne.symm own)]

/-- What one step of a settlement does to what is known of an order's fare. -/
theorem ReconcileCall.next_turn (works : answer.fails = false) {calls : List PaymentCall}
    {inner : ReconcileCall} (admitted : Admitted store calls) (upToDate : inner.UpToDate store) :
    Turn id store ((inner.next cfg store answer).1.execute store) (.reconcile inner)
      (.reconcile (inner.next cfg store answer).2) := by
  cases inner with
  -- A figure that is not what was asked for turns the fare down.
  | mismatchRequest found verdict =>
    obtain ⟨listed, pending⟩ := upToDate
    simp only [ReconcileCall.next, works, if_false, Bool.false_eq_true]
    refine resolved_turn admitted listed pending (by decide) rfl rfl rfl ?_ rfl fun own due later status waiting => ?_
    · exact fun other => ⟨fun _ _ _ => (Option.some_ne_none _).symm, fun same => other (Option.some.inj same)⟩
    · exact .turnedDown (congrArg some own) due status waiting
  | mismatchOrder found =>
    simp only [ReconcileCall.next, works, if_false, Bool.false_eq_true]
    exact stamped_turn (fun row => apply_ite Order.paymentStatus _ _ _) (requests_spared rfl) rfl rfl rfl rfl rfl
  | settle found verdict =>
    obtain ⟨listed, pending⟩ := upToDate
    -- With no other call in flight the row is still as it was read.
    have still : store.stillPending found.request.id = true :=
      List.any_eq_true.mpr ⟨found.request, listed, by simp [pending]⟩
    simp only [ReconcileCall.next, works, still, if_false, if_true, Bool.false_eq_true]
    -- It is paid, or it is turned down.
    by_cases succeeded : verdict.status = .successful
    · rw [if_pos succeeded]
      have spares : Spares id store (.reconcile (.settle found verdict)) := .of_none rfl (if_pos succeeded)
      exact resolved_turn admitted listed pending (by decide) rfl rfl rfl (fun _ => spares) rfl
        fun own due later status waiting => .paid spares (.inl due) status waiting
    · rw [if_neg succeeded]
      have turns : (PaymentCall.reconcile (.settle found verdict)).turnsDown = some found.request.orderId :=
        if_neg succeeded
      refine resolved_turn admitted listed pending (by decide) rfl rfl rfl ?_ rfl fun own due later status waiting => ?_
      · exact fun other => ⟨fun _ _ _ => (Option.some_ne_none _).symm, fun same => other (Option.some.inj (turns.symm.trans same))⟩
      · exact .turnedDown (turns.trans (congrArg some own)) due status waiting
  | failOrder found verdict =>
    simp only [ReconcileCall.next, works, if_false, Bool.false_eq_true]
    exact stamped_turn (fun row => apply_ite Order.paymentStatus _ _ _) (requests_spared rfl) rfl rfl rfl rfl rfl
  | payOrder found =>
    simp only [ReconcileCall.next, works, if_false, Bool.false_eq_true]
    exact stamped_turn (fun row => apply_ite Order.paymentStatus _ _ _) (requests_spared rfl) rfl rfl rfl rfl rfl
  -- The payout of the driver touches no request.
  | queuePayout found queuing =>
    simp only [ReconcileCall.next]
    split
    · exact .quietly rfl rfl rfl rfl rfl
    · exact .quietly rfl rfl rfl rfl rfl
    · exact .quietly queuing.next_quiet rfl rfl rfl rfl
  | _ =>
    simp only [ReconcileCall.next]
    repeat' split
    all_goals exact .quietly rfl rfl rfl rfl rfl

/-- A settlement inside a sweep does what it does by itself. -/
theorem Turn.swept {later : Store} {inner next : ReconcileCall} {row : AgedRow} {rest : List AgedRow}
    {tally : Swept} (turn : Turn id store later (.reconcile inner) (.reconcile next)) :
    Turn id store later (.sweep (.settling row rest tally inner)) (.sweep (.settling row rest tally next)) := by
  -- A sweep gives up a row only between two settlements, so what it does here the settlement does.
  cases turn with
  | kept spares status waiting => exact .kept ⟨fun _ _ _ => (Option.some_ne_none _).symm, spares.turnsDown⟩ status waiting
  | prompted raises => obtain ⟨_, _, _, ⟨⟩⟩ := raises
  | paid spares due status waiting =>
    refine .paid ⟨fun _ _ _ => (Option.some_ne_none _).symm, spares.turnsDown⟩ (due.imp_right ?_) status waiting
    rintro ⟨_, _, ⟨⟩⟩
  | turnedDown turnsDown due status waiting => exact .turnedDown turnsDown due status waiting
  | givenUp request listed awaits givesUp => cases givesUp

/-- A sweep in the middle of a row goes on with it. -/
theorem SweepCall.next_settling {row : AgedRow} {rest : List AgedRow} {tally : Swept} {inner : ReconcileCall}
    (unfinished : ¬ ∃ outcome, inner = .done outcome) :
    (SweepCall.settling row rest tally inner).next cfg store answer =
      ((inner.next cfg store answer).1, .settling row rest tally (inner.next cfg store answer).2) := by
  -- The sweep's own statement comes behind the settlement's last.
  cases inner with
  | done outcome => exact absurd ⟨outcome, rfl⟩ unfinished
  | _ => rfl

/-- A sweep that turns to its next row stamps nothing. -/
theorem nextRow_stamping (id : Nat) (rest : List AgedRow) (tally : Swept) :
    (PaymentCall.sweep (nextRow rest tally)).stamping id = none := by
  -- Its next row is read first, or it is done.
  cases rest <;> rfl

/-- It is about to place no request either. -/
theorem nextRow_placing (rest : List AgedRow) (tally : Swept) :
    (PaymentCall.sweep (nextRow rest tally)).placing = none := by
  -- A sweep places no request at all.
  cases rest <;> rfl

/-- Nor does one that is done with a row. -/
theorem afterRow_stamping (id now : Nat) (row : AgedRow) (rest : List AgedRow) (tally : Swept)
    (outcome : Outcome Reconciled) :
    (PaymentCall.sweep (afterRow now row rest tally outcome)).stamping id = none ∧
      (PaymentCall.sweep (afterRow now row rest tally outcome)).placing = none := by
  -- What follows is another row to read, or a row to time out.
  cases outcome with
  | returned result =>
    simp only [afterRow]
    split
    · exact ⟨nextRow_stamping _ _ _, nextRow_placing _ _⟩
    · split
      · exact ⟨rfl, rfl⟩
      · exact ⟨nextRow_stamping _ _ _, nextRow_placing _ _⟩
  | thrown | failed => exact ⟨nextRow_stamping _ _ _, nextRow_placing _ _⟩

/-- What one step of a sweep does to what is known of an order's fare. -/
theorem SweepCall.next_turn (works : answer.fails = false) {calls : List PaymentCall} {call : SweepCall}
    (admitted : Admitted store calls) (upToDate : (PaymentCall.sweep call).UpToDate store) :
    Turn id store ((call.next cfg store answer).1.execute store) (.sweep call)
      (.sweep (call.next cfg store answer).2) := by
  cases call with
  | selectPending =>
    simp only [SweepCall.next, works, if_false, Bool.false_eq_true]
    exact .quietly rfl (nextRow_stamping _ _ _) (nextRow_placing _ _) rfl rfl
  | done outcome => exact .quietly rfl rfl rfl rfl rfl
  | settling row rest tally inner =>
    by_cases ended : ∃ outcome, inner = .done outcome
    · obtain ⟨outcome, rfl⟩ := ended
      exact .quietly rfl (afterRow_stamping _ _ _ _ _ _).1 (afterRow_stamping id _ _ _ _ _).2 rfl rfl
    · rw [SweepCall.next_settling ended]
      exact (ReconcileCall.next_turn works admitted upToDate).swept
  | timeOut row rest tally =>
    simp only [SweepCall.next, works, if_false, Bool.false_eq_true]
    -- A request that times out leaves the order's own status.
    have status : shown id ((Statement.timeOutRequest row.reference).execute store)
        (.sweep (nextRow rest tally)) = shown id store (.sweep (.timeOut row rest tally)) :=
      shown_execute fun order _ => by rw [nextRow_stamping]; rfl
    by_cases own : ∃ request ∈ store.requests, Awaits id request ∧ request.reference = row.reference
    · -- The order's own prompt is given up, and nothing else of the order changes.
      obtain ⟨request, listed, awaits, same⟩ := own
      refine .givenUp request listed awaits (congrArg some same.symm) status ?_
      rintro ⟨other, there, waits, -⟩
      obtain ⟨before, waited, apart⟩ := (awaits_timedOut other).mp ⟨there, waits⟩
      exact apart (none_waiting admitted listed awaits before waited ▸ same)
    · -- No request of the order waits under that reference.
      have spares : Spares id store (.sweep (.timeOut row rest tally)) :=
        ⟨fun request listed awaits same => own ⟨request, listed, awaits, (Option.some.inj same).symm⟩,
          (Option.some_ne_none _).symm⟩
      refine .kept spares status ?_
      simp only [Waiting, nextRow_placing]
      constructor
      · rintro ⟨other, there, waits, -⟩
        obtain ⟨before, waited, -⟩ := (awaits_timedOut other).mp ⟨there, waits⟩
        exact ⟨other, before, waited, (Option.some_ne_none _).symm⟩
      · rintro ⟨other, there, waits, -⟩
        obtain ⟨after, waited⟩ := (awaits_timedOut other).mpr
          ⟨there, waits, fun same => own ⟨other, there, waits, same⟩⟩
        exact ⟨other, after, waited, (Option.some_ne_none _).symm⟩

/-- What one step of a request does to what is known of an order's fare. -/
theorem RequestCall.next_turn (works : answer.fails = false) {calls : List PaymentCall} {call : RequestCall}
    (admitted : Admitted store calls) (upToDate : (PaymentCall.request call).UpToDate store) :
    Turn id store ((call.next cfg store answer).1.execute store) (.request call)
      (.request (call.next cfg store answer).2) := by
  cases call with
  | insertRequest charge =>
    simp only [RequestCall.next]
    split
    · exact .quietly rfl rfl rfl rfl rfl
    · exact .quietly rfl rfl rfl rfl rfl
    · rename_i currency _ _
      split
      · exact .quietly rfl rfl rfl rfl rfl
      · -- The new row is only being placed, and every other row is older.
        refine .kept (.of_none rfl rfl) (shown_execute fun row _ => rfl) ?_
        have rows : ((Statement.insertRequest (newRequest store charge currency)).execute store).requests =
            store.requests ++ [newRequest store charge currency] :=
          congrArg (· ++ [newRequest store charge currency]) (List.map_id'' (fun _ => rfl) store.requests)
        simp only [Waiting, rows, List.mem_append, List.mem_singleton]
        constructor
        · rintro ⟨row, old | rfl, waits, apart⟩
          · exact ⟨row, old, waits, (Option.some_ne_none _).symm⟩
          · exact absurd rfl apart
        · rintro ⟨row, old, waits, -⟩
          refine ⟨row, .inl old, waits, fun same => ?_⟩
          have drawn := (admitted.drawn row old).1
          rw [← Option.some.inj same] at drawn
          exact lt_irrefl _ drawn
  | requestToPay requestId reference charge =>
    simp only [RequestCall.next]
    split
    · exact .quietly rfl rfl rfl rfl rfl
    · split
      · obtain ⟨row, listed, placed, waits⟩ := upToDate
        have requests : ∀ prompt, ((Statement.accept prompt).execute store).requests = store.requests :=
          fun _ => requests_spared rfl
        by_cases own : charge.orderId = id
        · -- The prompt is out, and the order is about to say so.
          refine .prompted ⟨_, _, _, rfl⟩ (shown_stamped fun order _ => ?_) ?_
          · simp only [PaymentCall.stamping, if_pos own]
            rfl
          · exact ⟨row, (requests _).symm ▸ listed, own ▸ waits, (Option.some_ne_none _).symm⟩
        · refine .kept (.of_none rfl rfl) (shown_execute fun order _ => ?_) ?_
          · simp only [PaymentCall.stamping, if_neg own]
            rfl
          · simp only [Waiting, requests]
            constructor
            · rintro ⟨other, there, awaits, -⟩
              refine ⟨other, there, awaits, fun same => own ?_⟩
              have the := admitted.same_request listed there (placed.trans (Option.some.inj same))
              exact waits.1.symm.trans ((congrArg PaymentRequest.orderId the).trans awaits.1)
            · rintro ⟨other, there, awaits, -⟩
              exact ⟨other, there, awaits, (Option.some_ne_none _).symm⟩
      · exact .quietly rfl rfl rfl rfl rfl
      · exact .quietly rfl rfl rfl rfl rfl
      · exact .quietly rfl rfl rfl rfl rfl
  | refuse requestId reference reason retryable =>
    simp only [RequestCall.next, works, if_false, Bool.false_eq_true]
    refine .kept (.of_none rfl rfl) (shown_execute fun row _ => rfl) ?_
    -- The row that is failed is the one that was being placed.
    constructor
    · rintro ⟨row, there, waits, -⟩
      obtain ⟨before, awaits, apart⟩ := (awaits_failed row).mp ⟨there, waits⟩
      exact ⟨row, before, awaits, fun same => apart (Option.some.inj same).symm⟩
    · rintro ⟨row, there, waits, apart⟩
      obtain ⟨after, awaits⟩ := (@awaits_failed id store requestId reason row).mpr
        ⟨there, waits, fun same => apart (congrArg some same.symm)⟩
      exact ⟨row, after, awaits, (Option.some_ne_none _).symm⟩
  | stampPending reference charge =>
    simp only [RequestCall.next, works, if_false, Bool.false_eq_true]
    exact stamped_turn (fun row => apply_ite Order.paymentStatus _ _ _) (requests_spared rfl) rfl rfl rfl rfl rfl
  | _ =>
    simp only [RequestCall.next]
    repeat' split
    all_goals exact .quietly rfl rfl rfl rfl rfl

/-- What one step of a recording of cash does to what is known of an order's fare. -/
theorem CashCall.next_turn {call : CashCall} (upToDate : (PaymentCall.cash call).UpToDate store) :
    Turn id store ((call.next store answer).1.execute store) (.cash call) (.cash (call.next store answer).2) := by
  cases call with
  | takeCash orderId collectedBy =>
    simp only [CashCall.next]
    split
    · exact .quietly rfl rfl rfl rfl rfl
    · split
      · exact .quietly rfl rfl rfl rfl rfl
      · rename_i order found
        split
        · exact .quietly rfl rfl rfl rfl rfl
        · rename_i unpaid
          -- Cash writes no request.
          have requests : ((Statement.takeCash orderId).execute store).requests = store.requests :=
            requests_spared rfl
          by_cases own : orderId = id
          · -- Cash is taken where no prompt is out.
            subst own
            refine .paid (.of_none rfl rfl) (.inr ⟨_, _, rfl⟩) (shown_stamped fun row there => ?_) ?_
            · rw [found] at there
              cases there
              simp only [Statement.onOrder, order_named found, unpaid, ne_eq, not_false_eq_true, and_self, if_true]
              rfl
            · rintro ⟨row, listed, waits, -⟩
              exact upToDate row (requests ▸ listed) waits
          · refine .kept (.of_none rfl rfl) (shown_execute fun row there => ?_) (by rw [Waiting, Waiting, requests]; rfl)
            -- The row of another order is not the one that is written.
            have apart : ¬ (row.id = orderId ∧ row.paymentStatus ≠ .paid) := fun hit =>
              own (hit.1.symm.trans (order_named there))
            simp only [Statement.onOrder, if_neg apart]
            rfl
  | _ =>
    simp only [CashCall.next]
    repeat' split
    all_goals exact .quietly rfl rfl rfl rfl rfl

/-- What one step of any call does to what is known of an order's fare. -/
theorem PaymentCall.next_turn (works : answer.fails = false) {calls : List PaymentCall} {call : PaymentCall}
    (admitted : Admitted store calls) (upToDate : call.UpToDate store) :
    Turn id store ((call.next cfg store answer).1.execute store) call (call.next cfg store answer).2 := by
  -- Commissions and payouts leave fares alone.
  cases call with
  | request call => exact RequestCall.next_turn works admitted upToDate
  | reconcile call => exact ReconcileCall.next_turn works admitted upToDate
  | sweep call => exact SweepCall.next_turn works admitted upToDate
  | cash call => exact CashCall.next_turn upToDate
  | stopped => exact .quietly rfl rfl rfl rfl rfl
  | dispatch call =>
    cases call <;> simp only [PaymentCall.next, DispatchCall.next] <;> repeat' split
    all_goals exact .quietly rfl rfl rfl rfl rfl
  | settlementRequest call =>
    cases call <;> simp only [PaymentCall.next, SettlementRequestCall.next] <;> repeat' split
    all_goals exact .quietly rfl rfl rfl rfl rfl
  | settlement call =>
    cases call <;> simp only [PaymentCall.next, SettlementCall.next] <;> repeat' split
    all_goals exact .quietly rfl rfl rfl rfl rfl

/-- What a settlement has read of a request is still so at its next statement. -/
theorem ReconcileCall.next_upToDate {inner : ReconcileCall} (upToDate : inner.UpToDate store) :
    (inner.next cfg store answer).2.UpToDate ((inner.next cfg store answer).1.execute store) := by
  cases inner with
  | selectRequest reference =>
    simp only [ReconcileCall.next]
    split
    · trivial
    · split
      · trivial
      · rename_i request order joined
        split
        · trivial
        · rename_i pending
          -- The row has just been read, and it is pending.
          obtain ⟨row, found, named⟩ := Option.bind_eq_some_iff.mp joined
          obtain ⟨other, -, pair⟩ := Option.map_eq_some_iff.mp named
          cases pair
          have spared : (Statement.nothing.execute store).requests = store.requests := requests_spared rfl
          exact ⟨spared.symm ▸ List.mem_of_find?_eq_some found, not_not.mp pending⟩
  -- To ask MTN writes nothing here.
  | ask found =>
    have spared : ∀ reference, ((Statement.report reference).execute store).requests = store.requests :=
      fun _ => requests_spared rfl
    simp only [ReconcileCall.next]
    split
    · trivial
    · repeat' split
      · trivial
      · exact ⟨(spared _).symm ▸ upToDate.1, upToDate.2⟩
      · exact ⟨(spared _).symm ▸ upToDate.1, upToDate.2⟩
  | queuePayout found queuing =>
    simp only [ReconcileCall.next]
    repeat' split
    all_goals trivial
  | _ =>
    simp only [ReconcileCall.next]
    repeat' split
    all_goals trivial

/-- A sweep that turns to its next row has read nothing of it yet. -/
theorem nextRow_upToDate (store : Store) (rest : List AgedRow) (tally : Swept) :
    (PaymentCall.sweep (nextRow rest tally)).UpToDate store := by
  -- Its next row is still to be read.
  cases rest <;> trivial

/-- What a call has read, or written, is still so at its next statement. -/
theorem PaymentCall.next_upToDate {call : PaymentCall} (upToDate : call.UpToDate store) :
    (call.next cfg store answer).2.UpToDate ((call.next cfg store answer).1.execute store) := by
  cases call with
  | reconcile call => exact ReconcileCall.next_upToDate upToDate
  | stopped => trivial
  -- The sweep settles one row after the other, each read afresh.
  | sweep call =>
    cases call with
    | settling row rest tally inner =>
      by_cases ended : ∃ outcome, inner = .done outcome
      · obtain ⟨outcome, rfl⟩ := ended
        cases outcome with
        | returned result =>
          simp only [PaymentCall.next, SweepCall.next, afterRow, Prod.map]
          repeat' split
          · exact nextRow_upToDate _ _ _
          · trivial
          · exact nextRow_upToDate _ _ _
        | thrown | failed => exact nextRow_upToDate _ _ _
      · simp only [PaymentCall.next, SweepCall.next_settling ended]
        exact ReconcileCall.next_upToDate upToDate
    | done outcome => trivial
    | _ =>
      simp only [PaymentCall.next, SweepCall.next]
      split
      · trivial
      · exact nextRow_upToDate _ _ _
  -- Cash is taken after a look for a prompt that is out.
  | cash call =>
    cases call with
    | selectInFlight orderId collectedBy =>
      simp only [PaymentCall.next, CashCall.next]
      split
      · trivial
      · split
        · trivial
        · rename_i none
          -- No row of the order is pending.
          intro row listed awaits
          have spared : (Statement.nothing.execute store).requests = store.requests := requests_spared rfl
          have absent := List.find?_eq_none.mp none row (spared ▸ listed)
          exact absent (decide_eq_true awaits)
    | _ =>
      simp only [PaymentCall.next, CashCall.next]
      repeat' split
      all_goals trivial
  -- The row that was just inserted is there and pending.
  | request call =>
    cases call with
    | insertRequest charge =>
      simp only [PaymentCall.next, RequestCall.next]
      split
      · trivial
      · trivial
      · split
        · trivial
        · exact ⟨_, List.mem_append_right _ (List.mem_singleton.mpr rfl), rfl, rfl, rfl⟩
    | _ =>
      simp only [PaymentCall.next, RequestCall.next]
      repeat' split
      all_goals trivial
  | dispatch call => trivial
  | settlementRequest call => trivial
  | settlement call => trivial

/-- No statement makes a request pending again. -/
theorem pending_before {statement : Statement} {now : Nat} {row : PaymentRequest}
    (pending : (statement.onRequest now row).status = .pending) : row.status = .pending := by
  cases statement with
  | failRequest id reason =>
    simp only [Statement.onRequest] at pending
    split at pending
    · cases pending
    · exact pending
  | resolveRequest id status transactionId reason =>
    simp only [Statement.onRequest] at pending
    split at pending
    · -- A verdict is written only over a row that is pending.
      rename_i hit
      exact hit.2
    · exact pending
  | timeOutRequest reference =>
    simp only [Statement.onRequest] at pending
    split at pending
    · cases pending
    · exact pending
  | _ => exact pending

/-- Whatever a call does next, the rows stay what the schema holds them to. -/
theorem Admitted.next {call : PaymentCall} (admitted : Admitted store [call]) :
    Admitted ((call.next cfg store answer).1.execute store) [(call.next cfg store answer).2] := by
  have taken : (services cfg).Taken { shared := store, calls := [call] } 0 answer call [] :=
    ⟨rfl, rfl, List.Perm.refl _, fun other listed => by cases listed⟩
  refine { toKeyed := (keyed_keeps cfg).moves taken admitted.toKeyed trivial, onePending := ?_ }
  intro row listed other also pending waits same
  cases inserts : (call.next cfg store answer).1 with
  | insertRequest fresh =>
    obtain ⟨charge, currency, -, rfl, none, -⟩ := inserted inserts
    -- A row goes in only where the order has none pending.
    have alone : ∀ old ∈ store.requests, old.status = .pending → old.orderId ≠ charge.orderId :=
      fun old there waits own => List.find?_eq_none.mp none old there (decide_eq_true ⟨own, waits⟩)
    have rows : ((Statement.insertRequest (newRequest store charge currency)).execute store).requests =
        store.requests ++ [newRequest store charge currency] :=
      congrArg (· ++ [newRequest store charge currency]) (List.map_id'' (fun _ => rfl) store.requests)
    rw [inserts, rows, List.mem_append, List.mem_singleton] at listed also
    rcases listed with old | rfl <;> rcases also with older | rfl
    · exact admitted.onePending row old other older pending waits same
    · exact absurd same (alone row old pending)
    · exact absurd same.symm (alone other older waits)
    · rfl
  | _ =>
    rw [execute_requests store (by simp [inserts])] at listed also
    obtain ⟨first, there, rfl⟩ := List.mem_map.mp listed
    obtain ⟨second, here, rfl⟩ := List.mem_map.mp also
    rw [(onRequest_same _ _ first).2.1, (onRequest_same _ _ second).2.1] at same
    rw [admitted.onePending first there second here (pending_before pending) (pending_before waits) same]

end

end Freight.Payment
