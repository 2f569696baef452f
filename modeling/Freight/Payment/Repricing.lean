import Freight.Payment.Journey
import Freight.Payment.OneFare
import Freight.Payment.Placement
import Freight.Pricing.Breakdown

/-! Money that is committed keeps its figures where each statement finds the price that its call has read. -/

namespace Freight.Payment

/-- What an order costs, and how that is divided. -/
def money (id : Nat) (store : Store) : Option (Option ℚ × Option ℚ × Option ℚ) :=
  (store.order id).map fun order => (order.priceTotal, order.platformFee, order.driverNet)

/-- The prompts MTN has taken in for the order and that have not failed, whatever their rows say. -/
def livePrompts (id : Nat) (store : Store) : List Prompt :=
  (faresPrompted id store).filter fun prompt => prompt.state ≠ .declined

/-- A prompt for the order exists and has not failed, here or at MTN, or the order has been paid. -/
def Committed (id : Nat) (store : Store) : Prop :=
  liveRequests id store ≠ [] ∨ livePrompts id store ≠ [] ∨ cashFor id store ≠ [] ∨
    (store.order id).any (fun order => order.paymentStatus = .paid) = true

instance (id : Nat) (store : Store) : Decidable (Committed id store) :=
  inferInstanceAs (Decidable (_ ∨ _ ∨ _ ∨ _))

/-- What was asked of a customer, and what was paid, is what the order costs. -/
structure PricedAsAsked (id : Nat) (store : Store) : Prop where
  asked : ∀ row ∈ liveRequests id store, row.amount = fare id store
  /-- What stands on a phone, too. -/
  prompted : ∀ prompt ∈ livePrompts id store, prompt.amount = fare id store
  taken : ∀ entry ∈ cashFor id store, entry.amount = fare id store

/-- The figures a repricing writes. -/
def figures (priced : Quote) : Option ℚ × Option ℚ × Option ℚ :=
  (some priced.totalAmount, some priced.platformFee, some priced.driverNet)

/--
A statement finds the order's price in the state it has to.

What a prompt asks for is what the order costs still, and no new figures are written over money that is committed.
-/
def PlacingStatement.inTime (id : Nat) (store : Store) : PlacingStatement → Bool
  | .service (.insertRequest row) => decide (row.orderId = id → row.amount = fare id store)
  | .service (.accept prompt) => decide (prompt.orderId = some id → prompt.amount = fare id store)
  | .reprice orderId priced =>
    decide (orderId = id → Committed id store → money id store = (money id store).map fun _ => figures priced)
  | _ => true

/-- A statement that is run is run in time. -/
def InTime (cfg : Config) (id : Nat) (pool : FarePool) : FareEvent → Prop
  | .run index answer => ∀ call others, (faresAndPlacements cfg).Taken pool index answer call others →
    (call.next cfg pool.shared answer).1.inTime id pool.shared = true
  | _ => True

/-- An event leaves the figures alone where money is committed. -/
def KeepsFigures (cfg : Config) (id : Nat) (pool : FarePool) (event : FareEvent) : Prop :=
  Committed id pool.shared →
    money id ((faresAndPlacements cfg).step pool event).shared = money id pool.shared

/-- An answer does not change what a prompt was for. -/
theorem answered_same (prompt : Prompt) (reference : Nat) (state : PromptState) :
    (prompt.answered reference state).reference = prompt.reference ∧
      (prompt.answered reference state).amount = prompt.amount ∧
      (prompt.answered reference state).orderId = prompt.orderId := by
  -- An answer writes the prompt's state.
  simp only [Prompt.answered]
  split <;> exact ⟨rfl, rfl, rfl⟩

/-- Nor does it bring a prompt that has failed back to life. -/
theorem answered_declined (prompt : Prompt) (reference : Nat) {state : PromptState}
    (declined : prompt.state = .declined) : (prompt.answered reference state).state = .declined := by
  simp only [Prompt.answered]
  split
  · -- A prompt is answered only while it waits.
    rename_i waits
    rw [declined] at waits
    cases waits.2
  · exact declined

/-- A prompt that is live after an event outside the services was live before, and for as much. -/
theorem livePrompt_happen {id : Nat} {store : Store} {event : PaymentOutside} {prompt : Prompt}
    (live : prompt ∈ livePrompts id (event.happen store)) :
    ∃ old ∈ livePrompts id store, old.amount = prompt.amount := by
  -- An answer may end a prompt and starts none; the rest leaves the prompts alone.
  simp only [livePrompts, faresPrompted, List.mem_filter, decide_eq_true_eq] at live ⊢
  obtain ⟨⟨listed, own⟩, standing⟩ := live
  cases event with
  | settle reference amount currency =>
    obtain ⟨old, before, rfl⟩ := List.mem_map.mp listed
    have same := answered_same old reference (.settled amount currency)
    exact ⟨old, ⟨⟨before, same.2.2 ▸ own⟩, fun declined => standing (answered_declined old _ declined)⟩,
      same.2.1.symm⟩
  | decline reference =>
    obtain ⟨old, before, rfl⟩ := List.mem_map.mp listed
    have same := answered_same old reference .declined
    exact ⟨old, ⟨⟨before, same.2.2 ▸ own⟩, fun declined => standing (answered_declined old _ declined)⟩,
      same.2.1.symm⟩
  | wait | updateOrderStatus | confirmDelivery => exact ⟨prompt, ⟨⟨listed, own⟩, standing⟩, rfl⟩

section
variable {cfg : Config} {id : Nat} {store : Store} {answer : Answer} {call : PaymentCall}

/-- A batch goes on with the placement it is in the middle of, or with another. -/
theorem PlaceBatchCall.next_statement (store : Store) (answer : PlacingAnswer) (call : PlaceBatchCall) :
    (call.next store answer).1 = .service .nothing ∨
      ∃ placement rest batch inner, call = .placing placement rest batch inner ∧
        (call.next store answer).1 = (inner.next store answer).1 := by
  -- Between two placements nothing is written.
  cases call with
  | placing placement rest batch inner =>
    cases inner with
    | done outcome => exact .inl rfl
    | _ => exact .inr ⟨placement, rest, batch, _, rfl, rfl⟩
  | done outcome => exact .inl rfl

/-- What a placement may do to the rows the services share. -/
inductive Places : PlacingStatement → Prop where
  | nothing : Places (.service .nothing)
  | audit (entry : AuditEntry) : Places (.service (.audit entry))
  | locate (orderId : Nat) : Places (.locate orderId)
  | reprice (orderId : Nat) (priced : Quote) : Places (.reprice orderId priced)

/-- A placement runs no statement of a service but an entry in the audit log. -/
theorem PlaceCall.next_places (store : Store) (answer : PlacingAnswer) (call : PlaceCall) :
    Places (call.next store answer).1 := by
  cases call with
  | reprice placement row priced =>
    -- A placement that finds its order gone writes nothing.
    simp only [PlaceCall.next]
    split
    · exact .nothing
    · exact .reprice _ _
  | audit placement row =>
    simp only [PlaceCall.next]
    split
    · exact .nothing
    · exact .audit _
  | updateLocation placement hub =>
    simp only [PlaceCall.next]
    repeat' split
    · exact .nothing
    · exact .nothing
    · exact .locate _
  | _ =>
    simp only [PlaceCall.next]
    repeat' split
    all_goals exact .nothing

/-- So does a call that is no call of a service. -/
theorem FareCall.next_places (cfg : Config) (store : Store) (answer : PlacingAnswer) {call : FareCall}
    (apart : call.paying = none) : Places (call.next cfg store answer).1 := by
  -- What is no payment call is a placement, one or many.
  cases call with
  | service call => cases apart
  | placeOneOrder call => exact call.next_places store answer
  | placeOrderBatch call =>
    change Places (call.next store answer).1
    rcases call.next_statement store answer with nothing | ⟨_, _, _, inner, -, same⟩
    · rw [nothing]
      exact .nothing
    · rw [same]
      exact inner.next_places store answer

/-- The services run among the placements as they run alone. -/
theorem hosts_services (cfg : Config) : (faresAndPlacements cfg).Hosts (services cfg) FareCall.paying where
  starts entry call begins := by
    cases entry with
    | service entry =>
      -- A placement is no call of the services.
      cases begins
      exact ⟨entry, rfl⟩
    | placeOneOrder placement => cases begins
    | placeOrderBatch placements => cases begins
  stops := rfl
  moves shared answer call own is := by
    cases call with
    | service call =>
      cases is
      exact ⟨answer.toAnswer, rfl, rfl, List.Subset.refl _⟩
    | placeOneOrder call => cases is
    | placeOrderBatch call => cases is
  apart shared answer call is := by
    cases call with
    | service call => cases is
    | placeOneOrder call => rfl
    | placeOrderBatch call => rfl
  holds call own is := by
    simp only [faresAndPlacements, is]
    exact List.Subset.refl _
  happens event shared := ⟨event.event, rfl, List.Subset.refl _⟩

/-- Keys are looked for in the ids, the requests, the prompts and the serials alone. -/
theorem Keyed.of_same {later : Store} {calls : List PaymentCall} (keyed : Keyed store calls)
    (orders : later.orders.map Order.id = store.orders.map Order.id) (requests : later.requests = store.requests)
    (prompts : later.prompts = store.prompts) (nextId : later.nextId = store.nextId) :
    Keyed later calls := by
  refine ⟨?_, ?_, ?_, ?_, ?_, ?_, fun one member found reads => ?_⟩
  · -- Each part of the invariant reads one of the four tables, which are as they were.
    rw [orders]; exact keyed.orders
  · rw [requests]; exact keyed.requests
  · rw [requests]; exact keyed.references
  · rw [requests, nextId]; exact keyed.drawn
  · rw [prompts]; exact keyed.fresh
  · rw [prompts, nextId]; exact keyed.undrawn
  · rw [Backed, requests]; exact keyed.backed one member found reads

/-- A repricing changes one row, and its key not at all. -/
theorem order_reprice (store : Store) (id orderId : Nat) (priced : Quote) :
    ((PlacingStatement.reprice orderId priced).execute store).order id =
      (store.order id).map fun order => if order.id = orderId then order.repriced priced else order :=
  order_update store id orderId fun _ => rfl

/-- Placements send nothing, store nothing to be sent, and take no cash. -/
theorem Places.same {statement : PlacingStatement} (places : Places statement) (store : Store) :
    (statement.execute store).orders.map Order.id = store.orders.map Order.id ∧
      (statement.execute store).requests = store.requests ∧ (statement.execute store).prompts = store.prompts ∧
      (statement.execute store).nextId = store.nextId ∧ (statement.execute store).cash = store.cash := by
  cases places with
  | nothing | audit =>
    refine ⟨?_, ?_, ?_, rfl, cash_execute store (by simp)⟩
    · -- The log has its own table.
      simp [PlacingStatement.execute, Function.comp_def]
    · exact (execute_requests store (by simp)).trans (List.map_id'' (fun _ => rfl) _)
    · exact (execute_prompts store (by simp)).trans (List.map_id'' (fun _ => rfl) _)
  | locate orderId => exact ⟨rfl, rfl, rfl, rfl, rfl⟩
  | reprice orderId priced =>
    refine ⟨?_, rfl, rfl, rfl, rfl⟩
    -- A price is written on the row, and the row keeps its id.
    simp only [PlacingStatement.execute, Store.updateOrder, List.map_map]
    refine List.map_congr_left fun order _ => ?_
    simp only [Function.comp_apply]
    split <;> rfl

/-- So the keys stay keys. -/
theorem Places.keyed {statement : PlacingStatement} (places : Places statement)
    {calls : List PaymentCall} (keyed : Keyed store calls) : Keyed (statement.execute store) calls :=
  have same := places.same store
  keyed.of_same same.1 same.2.1 same.2.2.1 same.2.2.2.1

/-- A placement commits no money, and frees none. -/
theorem Places.committed {statement : PlacingStatement} (places : Places statement) (id : Nat) (store : Store) :
    Committed id (statement.execute store) ↔ Committed id store := by
  have same := places.same store
  have paid : ((statement.execute store).order id).any (fun order => order.paymentStatus = .paid) =
      (store.order id).any fun order => order.paymentStatus = .paid := by
    cases places with
    | nothing | audit =>
      rw [PlacingStatement.execute, order_execute, Option.any_map]
      rfl
    | locate orderId => rfl
    | reprice orderId priced =>
      -- A repricing writes figures, and no payment status.
      rw [order_reprice, Option.any_map]
      congr 1
      funext order
      split <;> rfl
  simp only [Committed, liveRequests, livePrompts, faresPrompted, cashFor, same.2.1, same.2.2.1, same.2.2.2.2, paid]

/-- No statement of a service writes an order's figures. -/
theorem money_execute (statement : Statement) (store : Store) (id : Nat) :
    money id (statement.execute store) = money id store := by
  -- The price, the fee and the net are columns that no statement writes.
  simp only [money, order_execute, Option.map_map]
  congr 1
  funext order
  have same := onOrder_same statement store.now order
  simp only [Function.comp_apply, same.2.2.1, same.2.2.2.1, same.2.2.2.2.1]

/-- The fare is one of the figures. -/
theorem fare_of_money {later : Store} (same : money id later = money id store) : fare id later = fare id store := by
  -- The order is there in both or in neither, and its price is the first of the figures.
  simp only [money] at same
  simp only [fare]
  cases before : store.order id with
  | none =>
    rw [before] at same
    rw [Option.map_eq_none_iff.mp same]
  | some order =>
    rw [before, Option.map_some] at same
    obtain ⟨row, found, figures⟩ := Option.map_eq_some_iff.mp same
    rw [found]
    simp only [Option.bind_some]
    rw [(Prod.mk.inj figures).1]

/-- A repricing of another order leaves the figures alone. -/
theorem money_reprice_other {orderId : Nat} (other : orderId ≠ id) (priced : Quote) :
    money id ((PlacingStatement.reprice orderId priced).execute store) = money id store := by
  -- The row that is found is this order's, and another is written.
  rw [money, order_reprice, Option.map_map, money]
  cases found : store.order id with
  | none => rfl
  | some order =>
    have own : order.id = id := by simpa using List.find?_some found
    have apart : ¬ order.id = orderId := fun same => other (same.symm.trans own)
    simp [apart]

/-- A repricing of the order writes its figures, if the order is there. -/
theorem money_reprice (priced : Quote) :
    money id ((PlacingStatement.reprice id priced).execute store) =
      (money id store).map fun _ => figures priced := by
  -- The row that is found is the one that is written.
  rw [money, order_reprice, Option.map_map, money, Option.map_map]
  cases found : store.order id with
  | none => rfl
  | some order =>
    have own : order.id = id := by simpa using List.find?_some found
    simp [own, Order.repriced, figures]

/-- A statement run in time leaves the figures alone where money is committed. -/
theorem money_inTime {statement : PlacingStatement} (inTime : statement.inTime id store = true)
    (committed : Committed id store) : money id (statement.execute store) = money id store := by
  -- Only a repricing of this order could move them, and in time it writes what is there.
  cases statement with
  | service statement => exact money_execute statement store id
  | locate orderId => rfl
  | reprice orderId priced =>
    by_cases own : orderId = id
    · subst own
      exact (money_reprice priced).trans (of_decide_eq_true inTime rfl committed).symm
    · exact money_reprice_other own priced

/-- A statement run in time leaves the prices as asked. -/
theorem pricedAsAsked_inTime {others : List PaymentCall} (keyed : Keyed store (call :: others))
    (priced : PricedAsAsked id store)
    (inTime : (PlacingStatement.service (call.next cfg store answer).1).inTime id store = true) :
    PricedAsAsked id ((call.next cfg store answer).1.execute store) := by
  -- No statement of a service writes a fare, so the fare is the one that was there.
  refine ⟨fun row live => ?_, fun prompt live => ?_, fun entry member => ?_⟩
  · rw [fare_execute]
    simp only [liveRequests, List.mem_filter, decide_eq_true_eq] at live
    obtain ⟨stored, own, live⟩ := live
    rcases mem_execute_requests.mp stored with ⟨request, listed, rfl⟩ | inserts
    · have asks := onRequest_same (call.next cfg store answer).1 store.now request
      rw [asks.2.2.2.1]
      refine priced.asked request (List.mem_filter.mpr ⟨listed, ?_⟩)
      exact decide_eq_true ⟨asks.2.1.symm.trans own, live_of_onRequest live⟩
    · -- Storing a request is in time when it asks for the fare of that moment.
      rw [inserts] at inTime
      exact of_decide_eq_true inTime own
  · rw [fare_execute]
    simp only [livePrompts, faresPrompted, List.mem_filter, decide_eq_true_eq] at live
    obtain ⟨⟨listed, own⟩, standing⟩ := live
    rcases mem_execute_prompts.mp listed with ⟨old, before, rfl⟩ | accepts
    · have kept := onPrompt_same (call.next cfg store answer).1 old
      rw [kept.2.1]
      refine priced.prompted old (List.mem_filter.mpr ⟨List.mem_filter.mpr ⟨before, ?_⟩, ?_⟩)
      · exact decide_eq_true (kept.1.symm.trans own)
      · exact decide_eq_true (kept.2.2.1 ▸ standing)
    · -- So is sending one.
      rw [accepts] at inTime
      exact of_decide_eq_true inTime own
  · rw [fare_execute]
    -- Cash is taken at the amount that the order reads at that moment.
    rw [Collecting.cashFor_execute] at member
    rcases List.mem_append.mp member with before | new
    · exact priced.taken entry before
    · obtain ⟨taken, own⟩ := List.mem_filter.mp new
      cases statement : (call.next cfg store answer).1 with
      | takeCash orderId =>
        rw [statement] at taken
        obtain ⟨named, amount⟩ := (Collecting.takes_spec keyed orderId).2 entry taken
        have same : orderId = id := named.symm.trans (of_decide_eq_true own)
        rw [amount, same]
      | _ =>
        rw [statement] at taken
        cases taken

/-- What is kept of an order's figures while calls and placements are in flight. -/
structure Figured (id : Nat) (pool : FarePool) : Prop where
  keyed : Keyed pool.shared (pool.calls.filterMap FareCall.paying)
  priced : PricedAsAsked id pool.shared

/-- The keys of the services stay keys among placements. -/
theorem hosted_keyed_keeps (cfg : Config) : (faresAndPlacements cfg).Keeps
    (fun store calls => Keyed store (calls.filterMap FareCall.paying)) fun _ _ => True :=
  have : Nonempty PaymentEntry := ⟨.sweepPendingPayments⟩
  (keyed_keeps cfg).hosted (hosts_services cfg) fun store answer call _ apart keyed =>
    (call.next_places cfg store answer apart).keyed keyed

/-- A placement run in time leaves the prices as asked. -/
theorem Places.pricedAsAsked {statement : PlacingStatement} (places : Places statement)
    (priced : PricedAsAsked id store) (inTime : statement.inTime id store = true) :
    PricedAsAsked id (statement.execute store) := by
  have same := places.same store
  -- Where something is asked for or paid, money is committed, and the fare stays.
  have kept (committed : Committed id store) : fare id (statement.execute store) = fare id store :=
    fare_of_money (money_inTime inTime committed)
  refine ⟨fun row asked => ?_, fun prompt prompted => ?_, fun entry taken => ?_⟩
  · rw [liveRequests, same.2.1] at asked
    rw [kept (.inl (List.ne_nil_of_mem asked))]
    exact priced.asked row asked
  · rw [livePrompts, faresPrompted, same.2.2.1] at prompted
    rw [kept (.inr (.inl (List.ne_nil_of_mem prompted)))]
    exact priced.prompted prompt prompted
  · rw [cashFor, same.2.2.2.2] at taken
    rw [kept (.inr (.inr (.inl (List.ne_nil_of_mem taken))))]
    exact priced.taken entry taken

/-- A call in flight that runs a statement in time leaves the prices as asked. -/
theorem Figured.run {pool : FarePool} (inv : Figured id pool) {index : Nat} {answer : PlacingAnswer} {call : FareCall}
    {others : List FareCall} (taken : (faresAndPlacements cfg).Taken pool index answer call others)
    (inTime : (call.next cfg pool.shared answer).1.inTime id pool.shared = true) :
    PricedAsAsked id ((call.next cfg pool.shared answer).1.execute pool.shared) := by
  -- A service's statement moves no figures, and a placement's asks for nothing.
  have keyed := (hosted_keyed_keeps cfg).perm taken.all inv.keyed
  cases call with
  | service own => exact pricedAsAsked_inTime keyed inv.priced inTime
  | placeOneOrder | placeOrderBatch =>
    exact (FareCall.next_places cfg pool.shared answer rfl).pricedAsAsked inv.priced inTime

/-- What happens around the calls changes no figures, and no requests. -/
theorem pricedAsAsked_happen (event : Elsewhere) (priced : PricedAsAsked id store) :
    PricedAsAsked id (event.event.happen store) where
  -- A prompt that is live was live, for the fare that still stands.
  asked := by cases event <;> exact priced.asked
  prompted prompt live := by
    obtain ⟨old, before, same⟩ := livePrompt_happen live
    have kept : fare id (event.event.happen store) = fare id store := by cases event <;> rfl
    rw [kept, ← same]
    exact priced.prompted old before
  taken := by cases event <;> exact priced.taken

/-- Every event keeps the prices as asked where a statement is run in time. -/
theorem Figured.step {pool : FarePool} {event : FareEvent} (inv : Figured id pool) (inTime : InTime cfg id pool event) :
    Figured id ((faresAndPlacements cfg).step pool event) := by
  refine ⟨(hosted_keyed_keeps cfg).step pool event inv.keyed trivial, ?_⟩
  cases event with
  | call entry => exact inv.priced
  | stop index => exact inv.priced
  | outside event =>
    simp only [CallSystem.step]
    split
    · -- What happens outside changes no fare.
      exact pricedAsAsked_happen event inv.priced
    · exact inv.priced
  | run index answer =>
    rcases @CallSystem.step_run_cases _ _ _ _ _ _ _ (faresAndPlacements cfg) _ pool index answer with same | ⟨call, others, taken, shared, -⟩
    · rw [same]
      exact inv.priced
    · rw [shared]
      exact inv.run taken (inTime call others taken)

/-- Every event leaves committed figures alone where a statement is run in time. -/
theorem keepsFigures_inTime {pool : FarePool} {event : FareEvent} (inTime : InTime cfg id pool event) :
    KeepsFigures cfg id pool event := by
  intro committed
  cases event with
  | call entry => rfl
  | stop index => rfl
  | outside event =>
    simp only [CallSystem.step]
    split
    · -- Outside the services nothing writes the figures of an order.
      cases event <;> rfl
    · rfl
  | run index answer =>
    rcases @CallSystem.step_run_cases _ _ _ _ _ _ _ (faresAndPlacements cfg) _ pool index answer with same | ⟨call, others, taken, shared, -⟩
    · rw [same]
    · rw [shared]
      exact money_inTime (inTime call others taken) committed

/-- Requests are inserted, and prompts sent, by the services alone. -/
theorem FareCall.next_service {answer : PlacingAnswer} {call : FareCall} {own : Statement}
    (statement : (call.next cfg store answer).1 = .service own) (writes : own.collects = true) :
    ∃ inner, call = .service inner ∧ (inner.next cfg store answer.toAnswer).1 = own := by
  cases paying : call.paying with
  | some inner =>
    cases call with
    | service other => exact ⟨other, rfl, PlacingStatement.service.inj statement⟩
    | placeOneOrder | placeOrderBatch => cases paying
  | none =>
    -- Placements have statements of their own, and none that collects is among them.
    have places := FareCall.next_places cfg store answer paying
    rw [statement] at places
    cases places <;> cases writes

/-- A prompt that MTN takes in waits to be answered. -/
theorem accepted_waits {prompt : Prompt} (accepts : (call.next cfg store answer).1 = .accept prompt) :
    prompt.state = .waiting := by
  -- Accepted for a fare or for a commission, it is waiting.
  have collects := call.collects_of_next (by rw [accepts]; rfl)
  rw [accepts] at collects
  generalize (call.next cfg store answer).2 = next at collects
  cases collects <;> rfl

/-- A step that leaves the figures alone and the prices as asked ran its statement in time. -/
theorem Figured.inTime {pool : FarePool} {event : FareEvent} (inv : Figured id pool)
    (keeps : KeepsFigures cfg id pool event)
    (priced : PricedAsAsked id ((faresAndPlacements cfg).step pool event).shared) : InTime cfg id pool event := by
  cases event with
  | run index answer =>
    intro call others taken
    -- The step is a statement, so what it leaves is what the statement leaves.
    rw [taken.shared] at priced
    rw [KeepsFigures, taken.shared] at keeps
    change PricedAsAsked id ((call.next cfg pool.shared answer).1.execute pool.shared) at priced
    change Committed id pool.shared → money id ((call.next cfg pool.shared answer).1.execute pool.shared) = _ at keeps
    cases statement : (call.next cfg pool.shared answer).1 with
    | service own =>
      cases own with
      | insertRequest row =>
        rw [statement] at priced
        refine decide_eq_true fun mine => ?_
        -- The request that is stored is live, so it asks for the fare of its order.
        have stored : row ∈ liveRequests id ((Statement.insertRequest row).execute pool.shared) := by
          refine List.mem_filter.mpr ⟨mem_execute_requests.mpr (.inr rfl), decide_eq_true ⟨mine, ?_⟩⟩
          obtain ⟨inner, rfl, inserts⟩ := FareCall.next_service statement rfl
          obtain ⟨charge, currency, -, rfl, -⟩ := inserted inserts
          exact .inl rfl
        have asked := priced.asked row stored
        rwa [PlacingStatement.execute, fare_execute] at asked
      | accept prompt =>
        rw [statement] at priced
        refine decide_eq_true fun mine => ?_
        -- The prompt that MTN takes in waits to be answered, so it asks for the fare as well.
        have standing : prompt ∈ livePrompts id ((Statement.accept prompt).execute pool.shared) := by
          refine List.mem_filter.mpr ⟨List.mem_filter.mpr ⟨mem_execute_prompts.mpr (.inr rfl), ?_⟩, ?_⟩
          · exact decide_eq_true mine
          · obtain ⟨inner, rfl, accepts⟩ := FareCall.next_service statement rfl
            exact decide_eq_true (by rw [accepted_waits accepts]; simp)
        have asked := priced.prompted prompt standing
        rwa [PlacingStatement.execute, fare_execute] at asked
      | _ => rfl
    | locate orderId => rfl
    | reprice orderId quoted =>
      rw [statement] at keeps
      refine decide_eq_true ?_
      -- A new price on committed figures is the price they had.
      rintro rfl committed
      exact (keeps committed).symm.trans (money_reprice quoted)
  | _ => trivial

/-- Where nothing has been asked for, there is nothing to keep. -/
theorem figured_start (id : Nat) {orders : List Order} (distinct : (orders.map Order.id).Nodup) (nextId : Nat) :
    Figured id { shared := { orders := orders, nextId := nextId }, calls := [] } where
  -- There is no request and no prompt to speak of.
  keyed :=
    { orders := distinct
      requests := List.nodup_nil
      references := List.nodup_nil
      drawn := by simp
      fresh := List.nodup_nil
      undrawn := by simp [unsentReferences]
      backed := by simp }
  priced := ⟨by simp [liveRequests], by simp [livePrompts, faresPrompted], by simp [cashFor]⟩

end

/-- Committed money keeps its figures, and is what was asked and paid: exactly where statements are run in time. -/
theorem kept_iff_inTime {cfg : Config} {id : Nat} {orders : List Order} {nextId : Nat}
    {events : List FareEvent} (distinct : (orders.map Order.id).Nodup) :
    (Throughout (faresAndPlacements cfg).step (fun pool => PricedAsAsked id pool.shared)
        { shared := { orders := orders, nextId := nextId }, calls := [] } events ∧
      Along (faresAndPlacements cfg).step (KeepsFigures cfg id)
        { shared := { orders := orders, nextId := nextId }, calls := [] } events) ↔
      Along (faresAndPlacements cfg).step (InTime cfg id)
        { shared := { orders := orders, nextId := nextId }, calls := [] } events :=
  -- One event decides for one event, as nothing has been asked for at the start.
  along_iff_of_invariant (fun _ inv => inv.priced) (fun _ _ inv keeps priced => inv.inTime keeps priced)
    (fun _ _ inv inTime => ⟨inv.step inTime, keepsFigures_inTime inTime⟩) (figured_start id distinct nextId)

end Freight.Payment
