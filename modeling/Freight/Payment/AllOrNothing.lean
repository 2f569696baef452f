import Freight.Payment.Completion
import Freight.Payment.PaidStays

/-! A settlement completes, in every run that loses nothing between a success and its payout. -/

namespace Freight.Payment

/-- The payouts queued for a request. -/
def payoutsFor (requestId : Nat) (store : Store) : List DriverPayout :=
  store.payouts.filter fun payout => payout.paymentRequestId = some requestId

/-- Every successful request has its order paid and its one payout, or a call about to see to them. -/
def SettledWhole (cfg : Config) (pool : PaymentPool) : Prop :=
  ∀ row ∈ pool.shared.requests, row.status = .successful →
    (∃ call ∈ pool.calls, call.completing = some row.id) ∨
      ∃ order ∈ pool.shared.orders, order.id = row.orderId ∧ order.paymentStatus = .paid ∧
        (payee cfg order.assignedTo order.driverNet = true → (payoutsFor row.id pool.shared).length = 1)

instance (cfg : Config) (pool : PaymentPool) : Decidable (SettledWhole cfg pool) :=
  inferInstanceAs (Decidable (∀ row ∈ pool.shared.requests, _ → _))

/-- The order itself stays as it is: its own life goes on between settlements. -/
def ordersRest : PaymentEvent → Bool
  | .outside (.updateOrderStatus _ _ _ _) | .outside (.confirmDelivery _ _ _ _) => false
  | _ => true

/-- No order that is paid is stamped with another status. -/
def keepsPaid (cfg : Config) (pool : PaymentPool) (event : PaymentEvent) : Bool :=
  pool.shared.orders.all fun order => !overwritesPaid cfg order.id pool event

/-- A database in which every settlement so far has completed. -/
structure SettledStart (cfg : Config) (store : Store) : Prop where
  keyed : Keyed store []
  whole : SettledWhole cfg { shared := store, calls := [] }
  /-- One payout a request. -/
  once : (store.payouts.filterMap DriverPayout.paymentRequestId).Nodup
  /-- Payouts were queued for requests that had been resolved. -/
  resolved : ∀ payout ∈ store.payouts, ∀ id, payout.paymentRequestId = some id →
    ∃ row ∈ store.requests, row.id = id ∧ row.status ≠ .pending ∧ payout.orderId = some row.orderId

/-- What queuing a payout reads of an order, and nothing here writes. -/
def payoutColumns (order : Order) : Nat × Option String × Option ℚ :=
  (order.id, order.assignedTo, order.driverNet)

/-- Every successful request is complete or being completed, and its order is paid or about to be. -/
structure AllWhole (cfg : Config) (origin : List Order) (store : Store) (calls : List PaymentCall) :
    Prop extends Completion cfg (fun orderId => ∃ order ∈ origin, order.id = orderId ∧
      payee cfg order.assignedTo order.driverNet = false) store calls where
  /-- Drivers and nets stay as they were. -/
  columns : store.orders.map payoutColumns = origin.map payoutColumns
  /-- What a settlement has read of an order still holds. -/
  read : ∀ call ∈ calls, ∀ found, call.found = some found → ∃ order ∈ origin,
    payoutColumns order = (found.request.orderId, found.assignedTo, found.driverNet)
  /-- The order of a successful request is paid, or about to be. -/
  paid : ∀ row ∈ store.requests, row.status = .successful →
    (∃ call ∈ calls, ∃ found, call.reconciling = some (.payOrder found) ∧ found.request.id = row.id) ∨
      Paid row.orderId store

/-- Statements leave drivers and nets as they are. -/
theorem columns_execute (statement : Statement) (store : Store) :
    (statement.execute store).orders.map payoutColumns = store.orders.map payoutColumns := by
  -- Row by row, no statement writes a driver or a net.
  rw [execute_orders, List.map_map]
  refine List.map_congr_left fun order _ => ?_
  have same := onOrder_same statement store.now order
  simp [payoutColumns, same.1, same.2.2.2.2.1]

namespace AllWhole

variable {cfg : Config} {origin : List Order} {store : Store} {call : PaymentCall}
  {others : List PaymentCall}

/-- An order some settlement has read is there. -/
theorem order_exists {calls : List PaymentCall} (inv : AllWhole cfg origin store calls)
    (member : call ∈ calls) {found : Found} (reads : call.found = some found) :
    ∃ order ∈ store.orders, order.id = found.request.orderId := by
  -- The rows it has read are still the rows, as far as drivers and nets go.
  obtain ⟨order, listed, same⟩ := inv.read call member found reads
  have there : payoutColumns order ∈ store.orders.map payoutColumns := by
    rw [inv.columns]
    exact List.mem_map_of_mem listed
  obtain ⟨row, stored, row_eq⟩ := List.mem_map.mp there
  exact ⟨row, stored, congrArg Prod.fst (row_eq.trans same)⟩

/-- An order stays paid where no other status is stamped on it. -/
theorem paid_next {pool : PaymentPool} {index : Nat} {answer : Answer}
    (taken : (services cfg).Taken pool index answer call others) {id : Nat}
    (paid : Paid id pool.shared) (keeps : keepsPaid cfg pool (.run index answer) = true) :
    Paid id ((call.next cfg pool.shared answer).1.execute pool.shared) := by
  -- The event stamps no other status on this order, which is what paid rows depend on.
  obtain ⟨order, listed, rfl, status⟩ := paid
  have spared := List.all_eq_true.mp keeps order listed
  have next := (paid_step_iff cfg order.id pool (.run index answer)).mpr (by simpa using spared)
    ⟨order, listed, rfl, status⟩
  rwa [taken.shared] at next

/-- An order is paid as soon as it is stamped. -/
theorem paid_stamped {id : Nat} (there : ∃ order ∈ store.orders, order.id = id) :
    Paid id ((Statement.stampPaid id).execute store) := by
  -- The order stays on record, under its id.
  obtain ⟨order, listed, same⟩ := there
  exact ⟨_, List.mem_map_of_mem listed, (onOrder_id _ _ _).trans same, by simp [Statement.onOrder, same]⟩

/-- The order of a successful request is paid, or about to be, whatever is run next. -/
theorem next_paid {pool : PaymentPool} {index : Nat} {answer : Answer}
    (taken : (services cfg).Taken pool index answer call others)
    (inv : AllWhole cfg origin pool.shared (call :: others))
    (finishes : answer.fails = true → call.completing = none)
    (keeps : keepsPaid cfg pool (.run index answer) = true) :
    ∀ row ∈ ((call.next cfg pool.shared answer).1.execute pool.shared).requests,
      row.status = .successful →
      (∃ one ∈ (call.next cfg pool.shared answer).2 :: others, ∃ found,
        one.reconciling = some (.payOrder found) ∧ found.request.id = row.id) ∨
      Paid row.orderId ((call.next cfg pool.shared answer).1.execute pool.shared) := by
  intro row listed succeeds
  obtain ⟨old, before, id, order, -, was | ⟨found, verdict, own, flips⟩⟩ :=
    PaymentCall.successful_cases listed succeeds
  · rw [← id, ← order]
    rcases inv.paid old before was with ⟨one, member, found, pays, own⟩ | paid
    · rcases List.mem_cons.mp member with rfl | other
      · -- The call that marked the request successful now marks its order paid.
        refine .inr ?_
        -- A call that is completing does not fail, so its statement runs.
        have works : answer.fails = false := by
          by_contra fails
          have idle := finishes (by simpa using fails)
          simp [PaymentCall.completing, pays, ReconcileCall.completing] at idle
        have reads : one.found = some found := by rw [PaymentCall.found, pays]; rfl
        obtain ⟨stored, there, same, owner, -⟩ := inv.backed one List.mem_cons_self found reads
        -- The statement is the one that marks the order paid.
        have statement : (one.next cfg pool.shared answer).1 = .stampPaid found.request.orderId := by
          rw [(one.next_reconciling pays (by simp)).1]
          simp [ReconcileCall.next, works]
        rw [statement, inv.same_request before there (own.symm.trans same.symm), owner]
        exact paid_stamped (inv.order_exists List.mem_cons_self reads)
      · exact .inl ⟨one, List.mem_cons_of_mem _ other, found, pays, own⟩
    · exact .inr (paid_next taken paid keeps)
  · -- The request has just been marked successful.
    exact .inl ⟨_, List.mem_cons_self, found, flips.next, own.symm.trans id⟩

end AllWhole

/-- Where every order matters, only a call that completes nothing may fail. -/
theorem PaymentCall.spared_all {call : PaymentCall} (spared : call.spared (fun _ => true) = true) :
    call.completing = none := by
  -- What completes a request has read it, so it would have been spared.
  cases completes : call.completing with
  | none => rfl
  | some id =>
    obtain ⟨found, reads, -⟩ := call.found_of_completing completes
    simp [PaymentCall.spared, completes, reads] at spared

/-- Every event that meets the condition keeps settlements whole. -/
theorem allWhole_keeps (cfg : Config) (origin : List Order) :
    (services cfg).Keeps (AllWhole cfg origin) fun pool event =>
      ordersRest event = true ∧ finishes (fun _ => true) pool event = true ∧ keepsPaid cfg pool event = true where
  perm same inv := { inv with
    toCompletion := inv.toCompletion.perm same
    read := fun call member => inv.read call (same.mem_iff.mpr member)
    paid := fun row listed succeeds => (inv.paid row listed succeeds).imp_left <|
      Exists.imp fun _ pays => pays.imp_left same.mem_iff.mp }
  moves := by
    rintro pool index answer call others taken inv ⟨-, finishes, keeps⟩
    -- A statement that fails is not in the middle of completing anything.
    have finishes : answer.fails = true → call.completing = none := fun fails =>
      call.spared_all (by simpa [Payment.finishes, taken.found, fails] using finishes)
    change AllWhole cfg origin ((call.next cfg pool.shared answer).1.execute pool.shared)
      ((call.next cfg pool.shared answer).2 :: others)
    refine { toCompletion := inv.toCompletion.moves taken (.inl ∘ finishes) fun found pays _ none => ?_
             columns := (columns_execute _ _).trans inv.columns, read := ?_
             paid := inv.next_paid taken finishes keeps }
    · obtain ⟨order, listed, same⟩ := inv.read call List.mem_cons_self found (by
        rw [PaymentCall.found, pays]; rfl)
      simp only [payoutColumns, Prod.mk.injEq] at same
      exact ⟨order, listed, same.1, same.2.1 ▸ same.2.2 ▸ payee_of_done none⟩
    · intro one member found reads
      rcases List.mem_cons.mp member with rfl | other
      · rcases call.next_found reads with before | ⟨-, order, owner, assigned, net⟩
        · exact inv.read call List.mem_cons_self found before
        · -- The order has just been read, and reads as it did in the beginning.
          have there : payoutColumns order ∈ origin.map payoutColumns := by
            rw [← inv.columns]
            exact List.mem_map_of_mem (List.mem_of_find?_eq_some owner)
          obtain ⟨first, listed, same⟩ := List.mem_map.mp there
          have own : order.id = found.request.orderId := by simpa using List.find?_some owner
          exact ⟨first, listed, same.trans (by rw [payoutColumns, own, assigned, net])⟩
      · exact inv.read one (List.mem_cons_of_mem _ other) found reads
  arrives := by
    intro pool entry inv _
    refine { toCompletion := inv.toCompletion.arrives, columns := inv.columns, read := ?_, paid := ?_ }
    · refine List.forall_mem_cons.mpr ⟨fun found reads => ?_, inv.read⟩
      cases entry <;> cases reads
    · intro row listed succeeds
      exact (inv.paid row listed succeeds).imp_left <|
        Exists.imp fun _ pays => pays.imp_left (List.mem_cons_of_mem _)
  stops := by
    rintro pool index call others found inv ⟨-, finishes, -⟩
    -- The call that is cut off is not in the middle of completing anything.
    have idle : call.completing = none :=
      call.spared_all (by simpa [Payment.finishes, found] using finishes)
    refine { toCompletion := inv.toCompletion.stops found (.inl idle), columns := inv.columns, read := ?_
             paid := ?_ }
    · refine List.forall_mem_cons.mpr ⟨fun found reads => (by cases reads), ?_⟩
      exact (List.forall_mem_cons.mp inv.read).2
    · intro row listed succeeds
      refine (inv.paid row listed succeeds).imp_left fun paying => ?_
      obtain ⟨one, member, read, pays, own⟩ := paying
      rcases List.mem_cons.mp member with rfl | other
      · simp [PaymentCall.completing, pays, ReconcileCall.completing] at idle
      · exact ⟨one, List.mem_cons_of_mem _ other, read, pays, own⟩
  happens := by
    rintro pool event inv ⟨rest, -, -⟩ free
    have keyed := (keyed_keeps cfg).happens inv.toKeyed trivial free
    cases event with
    | settle | decline | wait =>
      exact { inv with toCompletion := inv.toCompletion.happens keyed rfl rfl }
    | updateOrderStatus | confirmDelivery => cases rest

/-- A request's payouts are one, when there is one and requests have no two. -/
theorem payoutsFor_length {store : Store} {id : Nat}
    (once : (store.payouts.filterMap DriverPayout.paymentRequestId).Nodup)
    (there : ∃ payout ∈ store.payouts, payout.paymentRequestId = some id) :
    (payoutsFor id store).length = 1 := by
  -- They are counted among the references, which name each request once at most.
  have counted : (payoutsFor id store).length =
      (store.payouts.filterMap DriverPayout.paymentRequestId).count id := by
    rw [payoutsFor, List.count_filterMap, ← List.countP_eq_length_filter]
    exact List.countP_congr fun payout _ => by simp
  obtain ⟨payout, listed, same⟩ := there
  rw [counted, once.count, if_pos (List.mem_filterMap.mpr ⟨payout, listed, same⟩)]

/-- What is kept is what settlements being whole means. -/
theorem AllWhole.settledWhole {cfg : Config} {origin : List Order} {pool : PaymentPool}
    (distinct : (origin.map Order.id).Nodup) (inv : AllWhole cfg origin pool.shared pool.calls) :
    SettledWhole cfg pool := by
  intro row listed succeeds
  -- A successful request is being completed, has its payout, or is owed none.
  rcases inv.whole row listed succeeds with completing | done
  · exact .inl completing
  · rcases inv.paid row listed succeeds with ⟨call, member, found, pays, own⟩ | paid
    · refine .inl ⟨call, member, ?_⟩
      simp [PaymentCall.completing, pays, ReconcileCall.completing, own]
    · obtain ⟨order, stored, same, status⟩ := paid
      refine .inr ⟨order, stored, same, status, fun owed => ?_⟩
      rcases done with there | ⟨first, member, named, unowed⟩
      · exact payoutsFor_length inv.once there
      · -- The order let off in the beginning is this one, and nothing about it has changed.
        have there : payoutColumns order ∈ origin.map payoutColumns := by
          rw [← inv.columns]
          exact List.mem_map_of_mem stored
        obtain ⟨other, also, columns⟩ := List.mem_map.mp there
        have first_eq : first = other := List.inj_on_of_nodup_map distinct member also
          (named.trans (same.symm.trans (congrArg Prod.fst columns).symm))
        subst first_eq
        simp only [payoutColumns, Prod.mk.injEq] at columns
        rw [columns.2.1, columns.2.2, owed] at unowed
        cases unowed

/-- Where every settlement so far has completed, all that is kept holds. -/
theorem SettledStart.allWhole {cfg : Config} {store : Store} (start : SettledStart cfg store) :
    AllWhole cfg store.orders store [] where
  toKeyed := start.keyed
  apart := List.nodup_nil
  resolved := by simp
  earned := by simp
  once := start.once
  committed := fun payout listed id refers =>
    ⟨by simp, start.resolved payout listed id refers⟩
  whole := by
    intro row listed succeeds
    rcases start.whole row listed succeeds with ⟨call, member, -⟩ | ⟨order, stored, same, -, paid⟩
    · cases member
    · refine .inr ?_
      by_cases owed : payee cfg order.assignedTo order.driverNet = true
      · -- A request whose order is owed a payout has one.
        have there : payoutsFor row.id store ≠ [] := by
          intro none
          have one := paid owed
          simp [none] at one
        obtain ⟨payout, member⟩ := List.exists_mem_of_ne_nil _ there
        obtain ⟨listed, refers⟩ := List.mem_filter.mp member
        exact .inl ⟨payout, listed, by simpa using refers⟩
      · exact .inr ⟨order, stored, same, by simpa using owed⟩
  columns := rfl
  read := by simp
  paid := by
    intro row listed succeeds
    rcases start.whole row listed succeeds with ⟨call, member, -⟩ | ⟨order, stored, same, status, -⟩
    · cases member
    · exact .inr ⟨order, stored, same, status⟩

/-- In every run that loses nothing between a success and its payout, settlements are all or nothing. -/
theorem settled_whole {cfg : Config} {store : Store} {events : List PaymentEvent}
    (start : SettledStart cfg store)
    (along : Along (services cfg).step (fun pool event => ordersRest event = true ∧
      finishes (fun _ => true) pool event = true ∧ keepsPaid cfg pool event = true)
      { shared := store, calls := [] } events) :
    Throughout (services cfg).step (SettledWhole cfg) { shared := store, calls := [] } events :=
  ((allWhole_keeps cfg store.orders).throughout start.allWhole along).mono
    fun _ inv => inv.settledWhole start.keyed.orders

/-- One order at its door, its prompt paid, and nobody told yet. -/
def paidAtTheDoor : Store where
  orders := [{ atTheDoor with paymentStatus := .pending }]
  requests := [{ id := 1, orderId := 1, reference := 2, payerMsisdn := "250788123456"
                 payerIsBookingNumber := true, amount := 1000, currency := ['R', 'W', 'F']
                 createdAt := 0 }]
  prompts := [{ reference := 2, orderId := some 1, msisdn := "250788123456", amount := 1000
                currency := ['R', 'W', 'F'], state := .settled 1000 ['R', 'W', 'F'] }]
  nextId := 3

/-- Nothing has been settled at that door. -/
theorem paidAtTheDoor_start : SettledStart .kigali paidAtTheDoor where
  -- One request and one order, both still open.
  keyed := {
    orders := by decide
    requests := by decide
    references := by decide
    drawn := by decide
    fresh := by decide
    undrawn := by decide
    backed := by simp }
  whole := by decide
  once := List.nodup_nil
  resolved := by simp [paidAtTheDoor]

/-- The webhook and a sweep settle one request between them. -/
def settledBetween : List PaymentEvent :=
  [.call (.reconcilePaymentRequest 2), .call .sweepPendingPayments, .run 0 {}, .run 1 {}, .run 1 {},
    .run 1 { verdict := some collected }, .run 0 { verdict := some collected }, .run 1 {}, .run 0 {},
    .run 1 {}, .run 1 {}, .run 1 {}, .run 1 {}, .run 1 {}, .run 1 {}, .run 1 {}, .run 1 {}, .run 1 {}]

/-- However the two interleave, the order ends up paid, with one payout. -/
theorem settled_whole_settledBetween :
    Throughout (services .kigali).step (SettledWhole .kigali)
      { shared := paidAtTheDoor, calls := [] } settledBetween ∧
      (payoutsFor 1 (run (services .kigali).step
        { shared := paidAtTheDoor, calls := [] } settledBetween).shared).length = 1 :=
  ⟨settled_whole paidAtTheDoor_start (by decide +kernel), by decide +kernel⟩

/-- The process stops right after the request is marked successful, and everybody tries again. -/
def stoppedHalfway : List PaymentEvent :=
  [.call (.reconcilePaymentRequest 2), .run 0 {}, .run 0 { verdict := some collected }, .run 0 {},
    .stop 0, .call (.reconcilePaymentRequest 2), .run 1 {}, .call .sweepPendingPayments, .run 2 {}]

/-- A request is successful for ever, and its order never paid, when the process stops in between. -/
theorem settled_by_half :
    ¬ ∀ (cfg : Config) (store : Store) (events : List PaymentEvent), SettledStart cfg store →
      Along (services cfg).step (fun _ event => ordersRest event = true)
        { shared := store, calls := [] } events →
      Throughout (services cfg).step (SettledWhole cfg) { shared := store, calls := [] } events := by
  -- The claim would have the end of that run whole, and it is not.
  intro always
  have whole := (always .kigali paidAtTheDoor stoppedHalfway paidAtTheDoor_start
    (by decide +kernel)).last
  have half : ¬ SettledWhole .kigali (run (services .kigali).step
      { shared := paidAtTheDoor, calls := [] } stoppedHalfway) := by
    decide +kernel
  exact half whole

end Freight.Payment
