import Freight.Payment.Completion
import Freight.Payment.Journey
import Freight.Payment.PaidStays

/-! A driver is paid out what the order says they earned, where it says the same from first to last. -/

namespace Freight.Payment

/-- What an order's driver has earned, as it stands. -/
def netOf (id : Nat) (store : Store) : ℚ := orZero ((store.order id).bind Order.driverNet)

/-- The payouts of an order. -/
def payoutsOf (id : Nat) (store : Store) : List DriverPayout :=
  store.payouts.filter fun payout => payout.orderId = some id

/-- The call is completing a request of the order. -/
def PaymentCall.completes (id : Nat) (call : PaymentCall) : Bool :=
  call.completing.isSome && call.found.any fun found => found.request.orderId = id

/-- Once nobody is completing a payment of the order, its payouts come to what its driver earned. -/
def PaidOut (id : Nat) (pool : PaymentPool) : Prop :=
  ∀ order ∈ pool.shared.orders, order.id = id → order.paymentStatus = .paid →
    order.paymentMethod ≠ some .cash → (∀ call ∈ pool.calls, call.completes id = false) →
    ((payoutsOf id pool.shared).map DriverPayout.grossAmount).sum = orZero order.driverNet

instance (id : Nat) (pool : PaymentPool) : Decidable (PaidOut id pool) :=
  inferInstanceAs (Decidable (∀ order ∈ pool.shared.orders, _ → _))

/--
A call settles the order once, for a driver who can be paid, and commits what is still the net.

A second success for one order would queue a second payout of the same net.
-/
def PaymentCall.paysEarned (cfg : Config) (id : Nat) (store : Store) (others : List PaymentCall)
    (answer : Answer) (call : PaymentCall) : Bool :=
  match call.reconciling with
  -- This is where a second success would begin.
  | some (.settle found verdict) =>
    answer.fails || found.request.orderId ≠ id || verdict.status ≠ .successful ||
      !store.stillPending found.request.id ||
      ((payoutsOf id store).isEmpty && others.all fun other => !other.completes id)
  | some (.payOrder found) =>
    answer.fails || found.request.orderId ≠ id || payee cfg found.assignedTo found.driverNet
  -- By now the net may have moved.
  | some (.queuePayout found (.commit earning _ _ _ _)) =>
    answer.fails || found.request.orderId ≠ id || netOf id store = earning.gross
  | _ => true

/-- No event of the run pays out another net, or moves the net once it is paid out. -/
def paysOut (cfg : Config) (id : Nat) (pool : PaymentPool) : PaymentEvent → Bool
  | .run index answer =>
    pool.calls[index]?.all fun call =>
      call.paysEarned cfg id pool.shared (pool.calls.eraseIdx index) answer
  -- A delivery that charges for waiting moves the net.
  | .outside (.confirmDelivery orderId rateOf waited filledBy) =>
    orderId ≠ id || (payoutsOf id pool.shared).isEmpty ||
      (pool.shared.order id).all fun order =>
        !deliverableFrom.contains order.status || order.deliveryCharge rateOf waited filledBy = 0
  | _ => true

/-- One payment of the order is completed at most, and its payout is the net as it stands. -/
structure PaidOnce (cfg : Config) (id : Nat) (store : Store) (calls : List PaymentCall) : Prop
    extends Completion cfg (· ≠ id) store calls, Departed id store calls where
  /-- The order has one payout or one call about to queue it, not both. -/
  single : calls.countP (PaymentCall.completes id) + (payoutsOf id store).length ≤ 1
  /-- An order paid by mobile money has either. -/
  covered : ∀ order ∈ store.orders, order.id = id → order.paymentStatus = .paid →
    order.paymentMethod ≠ some .cash →
      (∃ call ∈ calls, call.completes id = true) ∨ payoutsOf id store ≠ []
  /-- Its payout is what its driver earned. -/
  grossed : ∀ payout ∈ payoutsOf id store, payout.grossAmount = netOf id store
  /-- Its payout was for some request of its own. -/
  traced : payoutsOf id store ≠ [] → ∃ row ∈ store.requests, row.orderId = id

namespace PaidOnce

variable {cfg : Config} {id : Nat} {store : Store} {answer : Answer} {call : PaymentCall}
  {others : List PaymentCall}

/-- What is kept is that the driver is paid out. -/
theorem paidOut {pool : PaymentPool} (inv : PaidOnce cfg id pool.shared pool.calls) : PaidOut id pool := by
  -- With nobody completing the payment the payout is there, and there is one at most.
  intro order listed same paid method nobody
  rcases inv.covered order listed same paid method with ⟨call, member, completes⟩ | there
  · rw [nobody call member] at completes
    cases completes
  · have single := inv.single
    have some_ := List.length_pos_iff.mpr there
    obtain ⟨payout, only⟩ := List.length_eq_one_iff.mp (by omega :
      (payoutsOf id pool.shared).length = 1)
    have gross := inv.grossed payout (by simp [only])
    rw [netOf, ← same, inv.order_of_mem listed] at gross
    simpa [only] using gross

/-- No statement changes a net. -/
@[simp] theorem netOf_execute (statement : Statement) (store : Store) (id : Nat) :
    netOf id (statement.execute store) = netOf id store := by
  -- The net is one of the columns that no statement writes.
  simp only [netOf, order_execute]
  cases store.order id with
  | none => rfl
  | some row => simp [(onOrder_same statement store.now row).2.2.2.2.1]

/-- Only a COMMIT adds a payout. -/
theorem payoutsOf_execute {statement : Statement} (id : Nat) (store : Store)
    (uncommitted : ∀ payout cleared, statement ≠ .commitPayout payout cleared) :
    payoutsOf id (statement.execute store) = payoutsOf id store := by
  -- It leaves the table of payouts alone.
  rw [payoutsOf, execute_payouts store uncommitted, payoutsOf]

/-- A COMMIT adds its payout to its own order's. -/
theorem payoutsOf_commit (id : Nat) (store : Store) (payout : DriverPayout) (cleared : List Nat) :
    payoutsOf id ((Statement.commitPayout payout cleared).execute store) =
      payoutsOf id store ++ if payout.orderId = some id then [payout] else [] := by
  -- Appended, it is among the order's own if it names the order.
  have payouts : ((Statement.commitPayout payout cleared).execute store).payouts =
      store.payouts ++ [payout] := rfl
  rw [payoutsOf, payouts, List.filter_append, payoutsOf]
  by_cases own : payout.orderId = some id <;> simp [own]

/-- A call that gives up was not completing the order's payment. -/
theorem not_dropped (inv : PaidOnce cfg id store (call :: others))
    (finishes : answer.fails = true → call.spared (fun orderId => orderId = id) = true)
    (earned : call.paysEarned cfg id store others answer = true)
    (why : answer.fails = true ∨
      (∃ found, call.reconciling = some (.payOrder found) ∧ answer.fails = false ∧
        queueDriverPayout cfg found = .done) ∨
      ∃ found earning, call.reconciling = some (.queuePayout found (.insertPayout earning)) ∧
        ∃ payout ∈ store.payouts, payout.paymentRequestId = some earning.request.id) :
    call.completes id = false := by
  rcases why with fails | ⟨found, pays, works, none⟩ | ⟨found, earning, queues, payout, there, same⟩
  · -- A statement that fails belongs to a call for another order, or to one that completes nothing.
    have spared := finishes fails
    simp only [PaymentCall.spared, Bool.or_eq_true, Option.isNone_iff_eq_none] at spared
    rcases spared with idle | other
    · simp [PaymentCall.completes, idle]
    · cases reads : call.found with
      | none => simp [PaymentCall.completes, reads]
      | some found =>
        simp only [reads, Option.all_some, Bool.not_eq_true', decide_eq_false_iff_not] at other
        simp [PaymentCall.completes, reads, other]
  · -- An order of which nothing is earned is not this one.
    simp only [PaymentCall.paysEarned, pays, works, Bool.false_or, payee_of_done none,
      Bool.or_false, decide_eq_true_eq] at earned
    simp [PaymentCall.completes, PaymentCall.found, pays, ReconcileCall.found, earned]
  · -- A request being completed has no payout yet.
    obtain ⟨request, -⟩ := queueDriverPayout_connect
      (inv.earned call List.mem_cons_self found _ queues earning rfl)
    rw [request] at same
    refine absurd ?_ ((inv.committed payout there _ same).1 call List.mem_cons_self)
    simp [PaymentCall.completing, queues, ReconcileCall.completing, PayoutCall.underway]

/-- A step keeps to one payout, and goes on with whatever it was completing. -/
theorem next_single (inv : PaidOnce cfg id store (call :: others))
    (finishes : answer.fails = true → call.spared (fun orderId => orderId = id) = true)
    (earned : call.paysEarned cfg id store others answer = true) :
    ((call.next cfg store answer).2 :: others).countP (PaymentCall.completes id) +
        (payoutsOf id ((call.next cfg store answer).1.execute store)).length ≤ 1 ∧
      (call.completes id = true → (call.next cfg store answer).2.completes id = true ∨
        payoutsOf id ((call.next cfg store answer).1.execute store) ≠ []) ∧
      (payoutsOf id store ≠ [] → payoutsOf id ((call.next cfg store answer).1.execute store) ≠ []) ∧
      ∀ payout ∈ payoutsOf id ((call.next cfg store answer).1.execute store),
        payout.grossAmount = netOf id store ∧
          (payout ∈ payoutsOf id store ∨ ∃ row ∈ store.requests, row.orderId = id) := by
  have single := inv.single
  rw [List.countP_cons] at single
  have old : ∀ payout ∈ payoutsOf id store, payout.grossAmount = netOf id store ∧
      (payout ∈ payoutsOf id store ∨ ∃ row ∈ store.requests, row.orderId = id) :=
    fun payout member => ⟨inv.grossed payout member, .inl member⟩
  rw [List.countP_cons]
  cases call.progress cfg store answer with
  | goes same read uncommitted other =>
    rw [payoutsOf_execute id store uncommitted]
    have stays : (call.next cfg store answer).2.completes id = call.completes id := by
      cases completes : call.completing with
      | none => simp [PaymentCall.completes, same, completes]
      | some request =>
        obtain ⟨found, reads, -⟩ := call.found_of_completing completes
        simp [PaymentCall.completes, same, completes, reads, read found (by simp [completes]) reads]
    rw [stays]
    exact ⟨single, .inl, fun there => there, old⟩
  | drops ended why uncommitted other =>
    rw [payoutsOf_execute id store uncommitted]
    have dropped := inv.not_dropped finishes earned why
    have ends : (call.next cfg store answer).2.completes id = false := by
      simp [PaymentCall.completes, ended]
    simp only [dropped, ends] at single ⊢
    exact ⟨single, by simp, fun there => there, old⟩
  | flips found verdict flips =>
    have idle : call.completes id = false := by
      simp [PaymentCall.completes, PaymentCall.completing, flips.settling, ReconcileCall.completing]
    have begins : (call.next cfg store answer).2.completes id = true ↔ found.request.orderId = id := by
      simp [PaymentCall.completes, PaymentCall.completing, PaymentCall.found, flips.next,
        ReconcileCall.completing, ReconcileCall.found]
    rw [payoutsOf_execute id store (by simp [flips.writes])]
    refine ⟨?_, by simp [idle], fun there => there, old⟩
    by_cases mine : found.request.orderId = id
    · -- Nothing has been paid out for the order, and nobody else is about to.
      simp only [PaymentCall.paysEarned, flips.settling, flips.works, flips.succeeded, flips.pending, mine,
        ne_eq, not_true_eq_false, decide_false, Bool.not_true, Bool.false_or, Bool.and_eq_true,
        List.isEmpty_iff, List.all_eq_true, Bool.not_eq_true'] at earned
      have none : others.countP (PaymentCall.completes id) = 0 :=
        List.countP_eq_zero.mpr fun other member => by simp [earned.2 other member]
      rw [none, earned.1, if_pos (begins.mpr mine)]
      simp
    · rw [if_neg fun completes => mine (begins.mp completes)]
      simp only [idle] at single
      exact single
  | commits found earning payoutId reference cleared locked queuing works writes ended =>
    obtain ⟨request, -⟩ := queueDriverPayout_connect
      (inv.earned call List.mem_cons_self found _ queuing earning rfl)
    have completes : call.completes id = true ↔ found.request.orderId = id := by
      simp [PaymentCall.completes, PaymentCall.completing, PaymentCall.found, queuing,
        ReconcileCall.completing, ReconcileCall.found, PayoutCall.underway]
    have ends : (call.next cfg store answer).2.completes id = false := by
      simp [PaymentCall.completes, ended]
    have own : (committedPayout cfg store.now earning payoutId reference cleared).orderId =
        some found.request.orderId := congrArg (some ∘ PaymentRequest.orderId) request
    rw [writes, payoutsOf_commit, own]
    by_cases mine : found.request.orderId = id
    · simp only [mine, if_true, completes.mpr mine] at single ⊢
      refine ⟨by simp [ends] at single ⊢; omega, fun _ => .inr (by simp), fun _ => by simp, ?_⟩
      intro payout member
      rcases List.mem_append.mp member with before | new
      · exact old payout before
      · rw [List.mem_singleton.mp new]
        -- What is committed was read when the request was, and is still the net.
        simp only [PaymentCall.paysEarned, queuing, works, mine, ne_eq, not_true_eq_false, decide_false,
          Bool.false_or, decide_eq_true_eq] at earned
        obtain ⟨row, listed, -, order, -⟩ := inv.backed call List.mem_cons_self found (by
          rw [PaymentCall.found, queuing]; rfl)
        exact ⟨earned.symm, .inr ⟨row, listed, order.trans mine⟩⟩
    · have other : call.completes id = false := by simpa using fun yes => mine (completes.mp yes)
      have apart : ¬ some found.request.orderId = some id := fun same => mine (Option.some.inj same)
      rw [if_neg apart, List.append_nil]
      simp only [other, ends] at single ⊢
      exact ⟨single, by simp, fun there => there, old⟩

/-- What a call that may fail was doing was of no concern to the order. -/
theorem spared_cases (spared : call.spared (fun orderId => orderId = id) = true) :
    call.completing = none ∨ ∀ found, call.found = some found → found.request.orderId ≠ id := by
  -- It completes nothing, or something for another order.
  simp only [PaymentCall.spared, Bool.or_eq_true, Option.isNone_iff_eq_none] at spared
  refine spared.imp_right fun other found reads => ?_
  simpa [reads] using other

/-- A change to an order that leaves its net leaves the net. -/
theorem netOf_update (store : Store) (id target : Nat) {change : Order → Order}
    (keeps : ∀ order, (change order).id = order.id)
    (net : target = id → ∀ order, store.order id = some order →
      orZero (change order).driverNet = orZero order.driverNet) :
    netOf id (store.updateOrder target change) = netOf id store := by
  rw [netOf, netOf, order_update store id target keeps]
  cases found : store.order id with
  | none => rfl
  | some order =>
    simp only [Option.map_some, Option.bind_some]
    split
    · -- The order that is changed is this one, and keeps its net.
      rename_i own
      have mine : order.id = id := by simpa using List.find?_some found
      exact net (own.symm.trans mine) order found
    · rfl

/-- A change to an order that leaves its net, once it is paid out, leaves things as they were. -/
theorem update {calls : List PaymentCall} (inv : PaidOnce cfg id store calls) (target : Nat)
    {change : Order → Order} (departed : Departed id (store.updateOrder target change) calls)
    (same : ∀ order, (change order).id = order.id ∧ (change order).paymentStatus = order.paymentStatus ∧
      (change order).paymentMethod = order.paymentMethod)
    (net : target = id → payoutsOf id store ≠ [] → ∀ order, store.order id = some order →
      orZero (change order).driverNet = orZero order.driverNet) :
    PaidOnce cfg id (store.updateOrder target change) calls where
  toCompletion := inv.toCompletion.happens departed.toKeyed rfl rfl
  past := departed.past
  single := inv.single
  covered := by
    -- Its payment is as it was, so it is covered as it was.
    refine forall_updateOrder inv.covered fun order listed _ mine paid method => ?_
    exact inv.covered order listed ((same order).1.symm.trans mine) ((same order).2.1.symm.trans paid)
      ((same order).2.2 ▸ method)
  grossed := by
    intro payout member
    rw [netOf_update store id target (fun order => (same order).1) fun own =>
      net own (List.ne_nil_of_mem member)]
    exact inv.grossed payout member
  traced := inv.traced

/-- An order that is paid after a step has a call that completes it, or its payout. -/
theorem covered_next (inv : PaidOnce cfg id store (call :: others))
    (completed : call.completes id = true → (call.next cfg store answer).2.completes id = true ∨
      payoutsOf id ((call.next cfg store answer).1.execute store) ≠ [])
    (paid : payoutsOf id store ≠ [] → payoutsOf id ((call.next cfg store answer).1.execute store) ≠ []) :
    ∀ order ∈ ((call.next cfg store answer).1.execute store).orders, order.id = id →
      order.paymentStatus = .paid → order.paymentMethod ≠ some .cash →
        (∃ one ∈ (call.next cfg store answer).2 :: others, one.completes id = true) ∨
          payoutsOf id ((call.next cfg store answer).1.execute store) ≠ [] := by
  simp only [execute_orders, List.forall_mem_map, onOrder_id]
  intro order listed same status method
  -- A call that completed the order's payment goes on with it, or has just committed its payout.
  have goes : call.completes id = true →
      (∃ one ∈ (call.next cfg store answer).2 :: others, one.completes id = true) ∨
        payoutsOf id ((call.next cfg store answer).1.execute store) ≠ [] :=
    fun completes => (completed completes).imp_left fun next => ⟨_, List.mem_cons_self, next⟩
  rcases onOrder_paid_cases status with was | stamped | stamped | cash
  · -- It was paid before, and covered then.
    rcases inv.covered order listed same was (onOrder_method method) with ⟨one, member, completes⟩ | there
    · rcases List.mem_cons.mp member with rfl | other
      · exact goes completes
      · exact .inl ⟨one, List.mem_cons_of_mem _ other, completes⟩
    · exact .inr (paid there)
  · -- It is paid by this step, which belongs to a call that completes its payment.
    obtain ⟨inner, settling, statement, -⟩ := call.settling_of_settles (by rw [stamped]; rfl)
    rw [stamped] at statement
    obtain ⟨found, rfl, own, -⟩ := inner.next_stampPaid statement.symm
    refine goes ?_
    simp [PaymentCall.completes, PaymentCall.completing, PaymentCall.found, settling,
      ReconcileCall.completing, ReconcileCall.found, ← own, same]
  · -- The other stamp is never the one that says paid.
    rcases call.next_stamps cfg store answer with ⟨other, status, -, -, unpaid, stamp⟩ | ⟨-, none⟩
    · rw [stamped] at stamp
      cases stamp
      exact absurd rfl unpaid
    · exact absurd stamped (none _ _)
  · exact absurd cash method

/-- A call that runs its next statement keeps it. -/
theorem moves {pool : PaymentPool} {index : Nat} (taken : (services cfg).Taken pool index answer call others)
    (inv : PaidOnce cfg id pool.shared (call :: others))
    (spares : answer.fails = true → call.spared (fun orderId => orderId = id) = true)
    (earned : call.paysEarned cfg id pool.shared others answer = true) :
    PaidOnce cfg id ((call.next cfg pool.shared answer).1.execute pool.shared)
      ((call.next cfg pool.shared answer).2 :: others) := by
  obtain ⟨single, completed, paid, payouts⟩ := @PaidOnce.next_single cfg _ _ answer _ _ inv spares earned
  have departed : Departed id ((call.next cfg pool.shared answer).1.execute pool.shared)
      ((call.next cfg pool.shared answer).2 :: others) :=
    (departed_keeps cfg id).moves taken inv.toDeparted trivial
  -- A call that gives up without a payout had none to queue for this order.
  have completion := inv.toCompletion.moves taken (fun fails => spared_cases (spares fails))
    fun found queues works none => by
      simp only [PaymentCall.paysEarned, queues, works, Bool.false_or, payee_of_done none,
        Bool.or_false, decide_eq_true_eq] at earned
      exact earned
  refine { toCompletion := completion, past := departed.past, single := single
           covered := inv.covered_next completed paid, grossed := ?grossed, traced := fun there => ?traced }
  case grossed =>
    rw [netOf_execute]
    exact fun payout member => (payouts payout member).1
  case traced =>
    -- The request that a payout was for is still on record.
    obtain ⟨payout, member⟩ := List.exists_mem_of_ne_nil _ there
    have known : ∃ row ∈ pool.shared.requests, row.orderId = id := by
      rcases (payouts payout member).2 with before | row
      · exact inv.traced (List.ne_nil_of_mem before)
      · exact row
    obtain ⟨row, listed, mine⟩ := known
    exact ⟨_, mem_execute_requests.mpr (.inl ⟨row, listed, rfl⟩), (onRequest_same _ _ _).2.1.trans mine⟩

/-- A call that stops while it completes no payment of the order keeps it. -/
theorem stops {pool : PaymentPool} {index : Nat} (found : pool.calls[index]? = some call)
    (inv : PaidOnce cfg id pool.shared (call :: others))
    (spared : call.spared (fun orderId => orderId = id) = true) :
    PaidOnce cfg id pool.shared (PaymentCall.stopped :: others) := by
  have single := inv.single
  rw [List.countP_cons] at single
  refine { inv with
    toCompletion := inv.toCompletion.stops found (spared_cases spared)
    past := ((departed_keeps cfg id).stops found inv.toDeparted trivial).past
    single := ?single, covered := ?covered }
  case single =>
    -- One call fewer is left to be counted.
    have idle : PaymentCall.stopped.completes id = false := rfl
    rw [List.countP_cons, idle]
    simp only [Bool.false_eq_true, if_false]
    omega
  case covered =>
    intro order listed mine paid method
    rcases inv.covered order listed mine paid method with ⟨one, member, completes⟩ | there
    · rcases List.mem_cons.mp member with rfl | other
      · -- A call that completes the order's payment does not stop.
        rcases spared_cases spared with none | other
        · simp [PaymentCall.completes, none] at completes
        · simp only [PaymentCall.completes, Bool.and_eq_true, Option.any_eq_true] at completes
          obtain ⟨-, read, reads, own⟩ := completes
          exact absurd (by simpa using own) (other read reads)
      · exact .inl ⟨one, List.mem_cons_of_mem _ other, completes⟩
    · exact .inr there

/-- Whatever happens outside the calls keeps it, unless it moves a net that is paid out. -/
theorem happens {pool : PaymentPool} {event : PaymentOutside} (inv : PaidOnce cfg id pool.shared pool.calls)
    (pays : paysOut cfg id pool (.outside event) = true)
    (departed : Departed id ((services cfg).outside event pool.shared) pool.calls) :
    PaidOnce cfg id ((services cfg).outside event pool.shared) pool.calls := by
  cases event with
  | settle | decline | wait =>
    exact { inv with toCompletion := inv.toCompletion.happens departed.toKeyed rfl rfl
                     past := departed.past }
  | updateOrderStatus orderId rateOf status waited =>
    refine inv.update orderId departed (fun order => ?_) fun _ there order found => ?_
    · have same := statusUpdated_same order rateOf status waited
      exact ⟨same.1, same.2, (order.statusUpdated_settlement _ _ _).2⟩
    · -- Whoever has been paid out is past the pickup, so no wait there is added any more.
      have own : order.id = id := by simpa using List.find?_some found
      have past := inv.past (.inl (inv.traced there)) order (List.mem_of_find?_eq_some found) own
      rw [(past.statusUpdated rateOf status waited).2.2]
  | confirmDelivery orderId rateOf waited filledBy =>
    refine inv.update orderId departed (fun order => ?_) fun own there order found => ?_
    · have same := deliveryConfirmed_same order rateOf waited filledBy
      exact ⟨same.1, same.2, order.deliveryConfirmed_method _ _ _⟩
    · -- Once it is paid out, the condition leaves nothing to be charged at the door.
      have paidOut : (payoutsOf id pool.shared).isEmpty = false := by simpa using there
      simp only [paysOut, own, ne_eq, not_true_eq_false, decide_false, Bool.false_or, paidOut, found,
        Option.all_some, Bool.or_eq_true, Bool.not_eq_true', decide_eq_true_eq] at pays
      exact Order.deliveryConfirmed_net pays

end PaidOnce

/-- Every event that meets the condition keeps the driver paid out. -/
theorem paidOnce_keeps (cfg : Config) (id : Nat) :
    (services cfg).Keeps (PaidOnce cfg id) fun pool event =>
      finishes (fun orderId => orderId = id) pool event = true ∧ paysOut cfg id pool event = true where
  perm same inv := { inv with
    toCompletion := inv.toCompletion.perm same
    past := ((departed_keeps cfg id).perm same inv.toDeparted).past
    single := by
      rw [← same.countP_eq]
      exact inv.single
    covered := fun order listed mine paid method => (inv.covered order listed mine paid method).imp_left <|
      Exists.imp fun _ completes => completes.imp_left same.mem_iff.mp }
  moves := by
    rintro pool index answer call others taken inv ⟨finishes, pays⟩
    -- What the condition on the run says of the call that runs.
    refine inv.moves taken (fun fails => ?_) ?_
    · simpa [Payment.finishes, taken.found, fails] using finishes
    · simpa [paysOut, taken.found, ← taken.rest] using pays
  arrives := by
    intro pool entry inv _
    have idle : entry.start.completes id = false := by cases entry <;> rfl
    refine { inv with
      toCompletion := inv.toCompletion.arrives
      past := ((departed_keeps cfg id).arrives inv.toDeparted trivial).past
      single := ?_
      covered := fun order listed mine paid method => (inv.covered order listed mine paid method).imp_left <|
        Exists.imp fun _ completes => completes.imp_left (List.mem_cons_of_mem _) }
    -- A call that has not begun completes nothing, so no more are counted.
    change (entry.start :: pool.calls).countP _ + _ ≤ 1
    simpa [List.countP_cons, idle] using inv.single
  stops := by
    rintro pool index call others found inv ⟨finishes, -⟩
    exact inv.stops found (by simpa [Payment.finishes, found] using finishes)
  happens := by
    rintro pool event inv ⟨-, pays⟩ free
    exact inv.happens pays ((departed_keeps cfg id).happens inv.toDeparted trivial free)

/-- With nothing paid and no call in flight, there is nothing to pay out. -/
theorem paidOnce_start (cfg : Config) (id : Nat) {orders : List Order}
    (distinct : (orders.map Order.id).Nodup) (unpaid : ∀ order ∈ orders, order.paymentStatus ≠ .paid)
    (nextId : Nat) : PaidOnce cfg id { orders := orders, nextId := nextId } [] where
  -- There is no request, no payout and no call to speak of.
  toKeyed := (departed_start id distinct nextId).toKeyed
  apart := List.nodup_nil
  resolved := by simp
  earned := by simp
  once := List.nodup_nil
  committed := by simp
  whole := by simp
  past := by simp
  single := by simp [payoutsOf]
  covered := fun order listed _ paid => absurd paid (unpaid order listed)
  grossed := by simp [payoutsOf]
  traced := by simp [payoutsOf]

/-- In every run that pays out the net as it stands, and moves it no more, drivers get what they earned. -/
theorem paid_out {cfg : Config} {id : Nat} {orders : List Order} {nextId : Nat}
    {events : List PaymentEvent} (distinct : (orders.map Order.id).Nodup)
    (unpaid : ∀ order ∈ orders, order.paymentStatus ≠ .paid)
    (along : Along (services cfg).step (fun pool event =>
      finishes (fun orderId => orderId = id) pool event = true ∧ paysOut cfg id pool event = true)
      { shared := { orders := orders, nextId := nextId }, calls := [] } events) :
    Throughout (services cfg).step (PaidOut id)
      { shared := { orders := orders, nextId := nextId }, calls := [] } events :=
  -- At the start no order has been paid for.
  ((paidOnce_keeps cfg id).throughout (paidOnce_start cfg id distinct unpaid nextId) along).mono
    fun _ inv => inv.paidOut

/-- The customer of order 1 is asked to pay. -/
def asksToPay : List PaymentEvent :=
  [.call (.requestPaymentForOrder 1 none none), .run 0 {}, .run 0 {}, .run 0 {}, .run 0 {}, .run 0 {}]

/-- The customer pays, MTN reports it, and the payout is queued. -/
def paysAll (amount : ℚ) : List PaymentEvent :=
  [.outside (.settle 1 amount ['R', 'W', 'F']), .call (.reconcilePaymentRequest 1), .run 1 {},
    .run 1 { verdict := some { collected with amount := some amount } }, .run 1 {}, .run 1 {}, .run 1 {},
    .run 1 {}, .run 1 {}, .run 1 {}, .run 1 {}, .run 1 {}, .run 1 {}]

/-- The delivery of order 1 is confirmed, after an hour and a half at the door. -/
def keptWaiting : PaymentEvent := .outside (.confirmDelivery 1 (fun _ => some waitingRate) (some 90) none)

/-- A customer who pays after the delivery pays for the wait, and the driver is paid for it. -/
theorem paid_out_keptWaiting :
    Throughout (services .kigali).step (PaidOut 1)
      { shared := { orders := [waitingAtTheDoor], nextId := 1 }, calls := [] }
      (keptWaiting :: asksToPay ++ paysAll 1600) ∧
    (payoutsOf 1 (run (services .kigali).step
      { shared := { orders := [waitingAtTheDoor], nextId := 1 }, calls := [] }
      (keptWaiting :: asksToPay ++ paysAll 1600)).shared).map DriverPayout.grossAmount = [1450] :=
  ⟨paid_out (by decide) (by decide) (by decide +kernel), by decide +kernel⟩

/-- A driver kept waiting after the customer has paid is never paid for the wait. -/
theorem paid_short :
    ¬ ∀ (cfg : Config) (id : Nat) (orders : List Order) (nextId : Nat) (events : List PaymentEvent),
      (orders.map Order.id).Nodup → (∀ order ∈ orders, order.paymentStatus ≠ .paid) →
      Throughout (services cfg).step (PaidOut id)
        { shared := { orders := orders, nextId := nextId }, calls := [] } events := by
  -- The claim would have the end of that run whole, and it is not.
  intro always
  have whole := (always .kigali 1 [waitingAtTheDoor] 1 (asksToPay ++ paysAll 1000 ++ [keptWaiting])
    (by decide) (by decide)).last
  have short : ¬ PaidOut 1 (run (services .kigali).step
      { shared := { orders := [waitingAtTheDoor], nextId := 1 }, calls := [] }
      (asksToPay ++ paysAll 1000 ++ [keptWaiting])) := by
    decide +kernel
  exact short whole

end Freight.Payment
