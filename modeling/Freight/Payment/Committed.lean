import Freight.Payment.PaidStays
import Freight.Payment.Repricing

/-! Placements and prompts that take turns on an order leave committed money its figures. -/

namespace Freight.Payment

/-- The charge a request has read off its order, and not sent to MTN yet. -/
def RequestCall.asking : RequestCall → Option Charge
  | .selectPending charge | .insertRequest charge | .requestToPay _ _ charge => some charge
  | _ => none

/-- The same of a call of any kind. -/
def FareCall.asking : FareCall → Option Charge
  | .service (.request call) => call.asking
  | _ => none

/-- The order a placement has found free to reprice, until its UPDATE has run. -/
def PlaceCall.pricing : PlaceCall → Option Nat
  | .updateLocation placement _ | .measure placement _ | .selectRate placement _ _
  | .selectCorridor placement _ _ _ | .reprice placement _ _ => some placement.orderId
  | _ => none

/-- The same of a call of any kind. -/
def FareCall.pricing (call : FareCall) : Option Nat := call.placing.bind PlaceCall.pricing

/-- The order whose money a statement commits. -/
def PlacingStatement.commits : PlacingStatement → Option Nat
  | .service (.insertRequest row) => some row.orderId
  | .service (.accept prompt) => prompt.orderId
  | .service (.stampPaid orderId) | .service (.takeCash orderId) => some orderId
  | _ => none

/-- The order whose price a statement writes. -/
def PlacingStatement.reprices : PlacingStatement → Option Nat
  | .reprice orderId _ => some orderId
  | _ => none

/-- A call's next statement runs in no window that another call has open on the order. -/
structure RunsInTurn (cfg : Config) (id : Nat) (pool : FarePool) (answer : PlacingAnswer) (call : FareCall) :
    Prop where
  /-- The guard of a placement passes only where no money is committed, whatever `payment_status` says. -/
  guarded : call.pricing ≠ some id → (call.next cfg pool.shared answer).2.pricing = some id →
    ¬ Committed id pool.shared
  /-- No price is written between the SELECT of a request and its prompt. -/
  unread : (call.next cfg pool.shared answer).1.reprices = some id →
    ∀ other ∈ pool.calls, ∀ charge ∈ other.asking, charge.orderId ≠ id
  /-- No request is stored or sent, and no payment recorded, between the guard of a placement and its UPDATE. -/
  undecided : (call.next cfg pool.shared answer).1.commits = some id →
    ∀ other ∈ pool.calls, other.pricing ≠ some id

/-- A statement that is run is run in turn. -/
def InTurn (cfg : Config) (id : Nat) (pool : FarePool) : FareEvent → Prop
  | .run index answer => ∀ call others, (faresAndPlacements cfg).Taken pool index answer call others →
    RunsInTurn cfg id pool answer call
  | _ => True

instance (cfg : Config) (id : Nat) (pool : FarePool) (answer : PlacingAnswer) (call : FareCall) :
    Decidable (RunsInTurn cfg id pool answer call) :=
  decidable_of_iff (_ ∧ _ ∧ _)
    ⟨fun ⟨guarded, unread, undecided⟩ => ⟨guarded, unread, undecided⟩,
      fun inTurn => ⟨inTurn.guarded, inTurn.unread, inTurn.undecided⟩⟩

section
variable {cfg : Config} {id : Nat} {store : Store} {answer : PlacingAnswer}

/-- A charge in a request's hands was there before, or has just been read off its order. -/
theorem FareCall.next_asking {call : FareCall} {charge : Charge}
    (asks : (call.next cfg store answer).2.asking = some charge) :
    call.asking = some charge ∨ charge.amount = fare charge.orderId store := by
  cases call with
  | placeOneOrder | placeOrderBatch => cases asks
  | service call =>
    cases call with
    | request call =>
      change ((call.next cfg store answer.toAnswer).2).asking = some charge at asks
      change call.asking = some charge ∨ _
      cases call with
      | selectOrder orderId payFrom requestedBy =>
        -- The first SELECT is where a price is read.
        simp only [RequestCall.next] at asks
        split at asks
        · cases asks
        · split at asks
          · cases asks
          · split at asks
            · cases asks
            · rename_i decided
              cases asks
              obtain ⟨named, amount⟩ := chargeFor_fare decided
              exact .inr (named ▸ amount)
      | selectPending | insertRequest =>
        -- The charge that was read is handed on from one statement to the next.
        simp only [RequestCall.next] at asks
        repeat' split at asks
        all_goals first | exact .inl asks | cases asks
      | requestToPay | stampPending | refuse | done =>
        simp only [RequestCall.next] at asks
        repeat' split at asks
        all_goals cases asks
    | reconcile | sweep | cash | dispatch | settlementRequest | settlement | stopped => cases asks

/-- A price is written by a placement of the order, at the end of its window. -/
theorem FareCall.next_reprices {call : FareCall} (reprices : (call.next cfg store answer).1.reprices = some id) :
    call.pricing = some id ∧ (call.next cfg store answer).2.asking = none := by
  have placed {inner : PlaceCall} (writes : (inner.next store answer).1.reprices = some id) :
      inner.pricing = some id := by
    cases inner with
    | reprice placement row priced =>
      simp only [PlaceCall.next] at writes
      split at writes
      · cases writes
      · exact writes
    | _ =>
      -- No other statement of a placement writes a price.
      simp only [PlaceCall.next] at writes
      repeat' split at writes
      all_goals cases writes
  cases call with
  | service call => cases reprices
  | placeOneOrder call => exact ⟨placed reprices, rfl⟩
  | placeOrderBatch call =>
    refine ⟨?_, rfl⟩
    rcases call.next_statement store answer with nothing | ⟨_, _, _, inner, rfl, same⟩
    · change (call.next store answer).1.reprices = some id at reprices
      rw [nothing] at reprices
      cases reprices
    · exact placed (same ▸ reprices)

/-- A call that is about to write a price has committed no money. -/
theorem FareCall.next_commits {call : FareCall} (prices : (call.next cfg store answer).2.pricing = some id) :
    (call.next cfg store answer).1.commits = none := by
  cases paying : call.paying with
  | some own =>
    -- A call of a service is no placement, and becomes none.
    cases call with
    | service own => cases prices
    | placeOneOrder | placeOrderBatch => cases paying
  | none =>
    have places := FareCall.next_places cfg store answer paying
    generalize (call.next cfg store answer).1 = statement at places
    cases places <;> rfl

/-- What is stored or sent for the order is what its request has read. -/
theorem FareCall.next_charge {call : FareCall} {orderId : Nat} {amount : ℚ}
    (writes : (∃ row, (call.next cfg store answer).1 = .service (.insertRequest row) ∧ row.orderId = orderId ∧
        row.amount = amount) ∨
      ∃ prompt, (call.next cfg store answer).1 = .service (.accept prompt) ∧ prompt.orderId = some orderId ∧
        prompt.amount = amount) :
    ∃ charge, call.asking = some charge ∧ charge.orderId = orderId ∧ charge.amount = amount := by
  -- A row is inserted for what was read of the order, and a prompt is accepted for what the row says.
  rcases writes with ⟨row, inserts, rfl, rfl⟩ | ⟨prompt, accepts, named, rfl⟩
  · obtain ⟨inner, rfl, same⟩ := FareCall.next_service inserts rfl
    obtain ⟨charge, currency, rfl, rfl, -⟩ := inserted same
    exact ⟨charge, rfl, rfl, rfl⟩
  · obtain ⟨inner, rfl, same⟩ := FareCall.next_service accepts rfl
    have collects := inner.collects_of_next (by rw [same]; rfl)
    rw [same] at collects
    generalize (inner.next cfg store answer.toAnswer).2 = next at collects
    cases collects with
    | accept requestId reference charge | lose requestId reference charge =>
      exact ⟨charge, rfl, Option.some.inj named, rfl⟩
    | acceptCommission => cases named

/-- A row that a statement leaves paid was paid before, or is that of the order it records a payment on. -/
theorem paid_of_onOrder {statement : Statement} {now : Nat} {row : Order}
    (unstamped : statement ≠ .stampPayment row.id .paid) (paid : (statement.onOrder now row).paymentStatus = .paid) :
    row.paymentStatus = .paid ∨ (PlacingStatement.service statement).commits = some row.id := by
  -- Three statements write a payment status, each on the row it names.
  cases statement with
  | takeCash orderId =>
    simp only [Statement.onOrder] at paid
    split at paid
    · rename_i same
      exact .inr (congrArg some same.1.symm)
    · exact .inl paid
  | stampPayment orderId status =>
    simp only [Statement.onOrder] at paid
    split at paid
    · rename_i same
      exact absurd (by rw [same, ← show status = .paid from paid]) unstamped
    · exact .inl paid
  | stampPaid orderId =>
    simp only [Statement.onOrder] at paid
    split at paid
    · rename_i same
      exact .inr (congrArg some same.symm)
    · exact .inl paid
  | commitPayout | commitSettlement | settleCash =>
    simp only [Statement.onOrder] at paid
    split at paid <;> exact .inl paid
  | _ => exact .inl paid

/-- Money that a statement leaves committed was committed before, unless the statement commits it. -/
theorem FareCall.committed_next {call : FareCall}
    (committed : Committed id ((call.next cfg store answer).1.execute store)) :
    Committed id store ∨ (call.next cfg store answer).1.commits = some id := by
  cases call with
  | placeOneOrder | placeOrderBatch =>
    exact .inl (((FareCall.next_places cfg store answer rfl).committed id store).mp committed)
  | service call =>
    change Committed id ((call.next cfg store answer.toAnswer).1.execute store) at committed
    change _ ∨ (PlacingStatement.service (call.next cfg store answer.toAnswer).1).commits = some id
    have stamps := call.next_stamps cfg store answer.toAnswer
    generalize (call.next cfg store answer.toAnswer).1 = statement at committed stamps
    rcases committed with request | prompt | cash | paid
    · -- A live request was live before, or has been stored just now.
      obtain ⟨row, live⟩ := List.exists_mem_of_ne_nil _ request
      simp only [liveRequests, List.mem_filter, decide_eq_true_eq] at live
      obtain ⟨stored, own, live⟩ := live
      rcases mem_execute_requests.mp stored with ⟨old, listed, rfl⟩ | rfl
      · have asks := onRequest_same statement store.now old
        refine .inl (.inl (List.ne_nil_of_mem (List.mem_filter.mpr ⟨listed, ?_⟩)))
        exact decide_eq_true ⟨asks.2.1.symm.trans own, live_of_onRequest live⟩
      · exact .inr (congrArg some own)
    · -- A live prompt was live before, or has been taken in just now.
      obtain ⟨sent, live⟩ := List.exists_mem_of_ne_nil _ prompt
      simp only [livePrompts, faresPrompted, List.mem_filter, decide_eq_true_eq] at live
      obtain ⟨⟨listed, own⟩, standing⟩ := live
      rcases mem_execute_prompts.mp listed with ⟨old, before, rfl⟩ | rfl
      · have kept := onPrompt_same statement old
        refine .inl (.inr (.inl (List.ne_nil_of_mem (List.mem_filter.mpr ⟨List.mem_filter.mpr ⟨before, ?_⟩, ?_⟩))))
        · exact decide_eq_true (kept.1.symm.trans own)
        · exact decide_eq_true (kept.2.2.1 ▸ standing)
      · exact .inr own
    · -- Cash was recorded before, or has been taken just now.
      rw [Collecting.cashFor_execute] at cash
      by_cases before : cashFor id store = []
      · rw [before, List.nil_append] at cash
        obtain ⟨entry, new⟩ := List.exists_mem_of_ne_nil _ cash
        obtain ⟨taken, own⟩ := List.mem_filter.mp new
        cases statement with
        | takeCash orderId =>
          simp only [Statement.takes, List.mem_map, List.mem_filter, decide_eq_true_eq] at taken
          obtain ⟨order, ⟨-, same, -⟩, rfl⟩ := taken
          exact .inr (congrArg some (same.symm.trans (of_decide_eq_true own)))
        | _ => cases taken
      · exact .inl (.inr (.inr (.inl before)))
    · -- An order is marked paid by a settlement, or by cash.
      rw [order_execute, Option.any_map] at paid
      obtain ⟨order, found, status⟩ := (Option.any_eq_true _ _).mp paid
      have own : order.id = id := by simpa using List.find?_some found
      have unstamped : statement ≠ .stampPayment order.id .paid := by
        -- A stamp of a service is never that of a payment.
        rintro rfl
        rcases stamps with ⟨_, _, -, -, other, ⟨⟩⟩ | ⟨-, quiet⟩
        · exact other rfl
        · exact quiet _ _ rfl
      rcases paid_of_onOrder unstamped (of_decide_eq_true status) with before | commits
      · exact .inl (.inr (.inr (.inr ((Option.any_eq_true _ _).mpr ⟨order, found, decide_eq_true before⟩))))
      · exact .inr (own ▸ commits)

/-- A placement that has just come in has not looked at its order yet. -/
theorem placeOneOrder_pricing (placement : Placement) : (placeOneOrder placement).pricing = none := by
  -- It is refused at once, or goes on to look the order up.
  simp only [placeOneOrder]
  repeat' split
  all_goals rfl

/-- Nor has any other call. -/
theorem FareEntry.start_pricing (entry : FareEntry) : entry.start.pricing = none := by
  cases entry with
  | service entry => rfl
  | placeOneOrder placement => exact placeOneOrder_pricing placement
  | placeOrderBatch placements =>
    change (FareCall.placeOrderBatch (Payment.placeOrderBatch placements)).pricing = none
    simp only [Payment.placeOrderBatch]
    split
    · rfl
    · split
      · rfl
      · -- The first order of a batch is placed like one that comes alone.
        cases placements with
        | nil => rfl
        | cons placement rest => exact placeOneOrder_pricing placement

/-- What happens around the calls commits no money. -/
theorem committed_of_happen {event : Elsewhere} (committed : Committed id (event.event.happen store)) :
    Committed id store := by
  -- A delivery, a booking or a prompt that runs its course adds no request, prompt, cash or payment.
  rcases committed with request | prompt | cash | paid
  · exact .inl (by cases event <;> exact request)
  · obtain ⟨sent, live⟩ := List.exists_mem_of_ne_nil _ prompt
    obtain ⟨old, before, -⟩ := livePrompt_happen live
    exact .inr (.inl (List.ne_nil_of_mem before))
  · exact .inr (.inr (.inl (by cases event <;> exact cash)))
  · exact .inr (.inr (.inr (by cases event <;> exact paid)))

/-- What is kept of an order while placements and prompts take turns on it. -/
structure Turned (id : Nat) (store : Store) (calls : List FareCall) : Prop where
  /-- A charge that is yet to be sent is for what the order costs. -/
  charged : ∀ call ∈ calls, ∀ charge ∈ call.asking, charge.orderId = id → charge.amount = fare id store
  /-- While a placement is about to write a price, no money is committed. -/
  free : ∀ call ∈ calls, call.pricing = some id → ¬ Committed id store

/-- A statement of another order leaves the order's fare alone. -/
theorem fare_next {call : FareCall} (other : (call.next cfg store answer).1.reprices ≠ some id) :
    fare id ((call.next cfg store answer).1.execute store) = fare id store := by
  -- Another order is repriced, if any; every other statement leaves all fares.
  cases statement : (call.next cfg store answer).1 with
  | service own => exact fare_execute own store id
  | locate orderId => rfl
  | reprice orderId priced =>
    rw [statement] at other
    exact fare_of_money (money_reprice_other (fun same => other (congrArg some same)) priced)

/-- So a statement finds the price in the state it has to. -/
theorem Turned.inTime {calls : List FareCall} (inv : Turned id store calls) {call : FareCall} (member : call ∈ calls) :
    (call.next cfg store answer).1.inTime id store = true := by
  cases statement : (call.next cfg store answer).1 with
  | service own =>
    cases own with
    | insertRequest row =>
      refine decide_eq_true fun mine => ?_
      obtain ⟨charge, asks, named, amount⟩ := FareCall.next_charge (.inl ⟨row, statement, mine, rfl⟩)
      exact amount.symm.trans (inv.charged call member charge asks named)
    | accept prompt =>
      refine decide_eq_true fun mine => ?_
      obtain ⟨charge, asks, named, amount⟩ := FareCall.next_charge (.inr ⟨prompt, statement, mine, rfl⟩)
      exact amount.symm.trans (inv.charged call member charge asks named)
    | _ => rfl
  | locate orderId => rfl
  | reprice orderId priced =>
    -- Inside its window a placement finds no money committed.
    refine decide_eq_true fun own committed => ?_
    have reprices : (call.next cfg store answer).1.reprices = some id := by rw [statement, ← own]; rfl
    exact absurd committed (inv.free call member (FareCall.next_reprices reprices).1)

/-- Running a statement in turn keeps charges what the order costs. -/
theorem Turned.charged_run {pool : FarePool} (inv : Turned id pool.shared pool.calls) {call other : FareCall}
    (member : call ∈ pool.calls) (inTurn : RunsInTurn cfg id pool answer call)
    (later : other = (call.next cfg pool.shared answer).2 ∨ other ∈ pool.calls) {charge : Charge}
    (asks : charge ∈ other.asking) (own : charge.orderId = id) :
    charge.amount = fare id ((call.next cfg pool.shared answer).1.execute pool.shared) := by
  by_cases reprices : (call.next cfg pool.shared answer).1.reprices = some id
  · -- A price is written only while no request has one in its hands.
    rcases later with rfl | before
    · rw [(FareCall.next_reprices reprices).2] at asks
      cases asks
    · exact absurd own (inTurn.unread reprices other before charge asks)
  · rw [fare_next reprices]
    rcases later with rfl | before
    · rcases FareCall.next_asking asks with held | read
      · exact inv.charged call member charge held own
      · exact own ▸ read
    · exact inv.charged other before charge asks own

/-- Running a statement in turn commits no money under a placement that is about to write a price. -/
theorem Turned.free_run {pool : FarePool} (inv : Turned id pool.shared pool.calls) {call other : FareCall}
    (member : call ∈ pool.calls) (inTurn : RunsInTurn cfg id pool answer call)
    (later : other = (call.next cfg pool.shared answer).2 ∨ other ∈ pool.calls) (prices : other.pricing = some id) :
    ¬ Committed id ((call.next cfg pool.shared answer).1.execute pool.shared) := by
  intro committed
  rcases FareCall.committed_next committed with before | commits
  · -- Money committed before would have turned the placement away at its guard.
    rcases later with rfl | listed
    · by_cases held : call.pricing = some id
      · exact inv.free call member held before
      · exact inTurn.guarded held prices before
    · exact inv.free other listed prices before
  · rcases later with rfl | listed
    · -- A placement commits no money itself.
      rw [FareCall.next_commits prices] at commits
      cases commits
    · exact inTurn.undecided commits other listed prices

/-- Whatever is in flight, placements and prompts that take turns keep what is kept of an order. -/
theorem turned_keeps (cfg : Config) (id : Nat) :
    (faresAndPlacements cfg).Keeps (Turned id) (InTurn cfg id) where
  perm same inv :=
    ⟨fun call member => inv.charged call (same.mem_iff.mpr member),
      fun call member => inv.free call (same.mem_iff.mpr member)⟩
  moves := by
    intro pool index answer call others taken inv admitted
    have inTurn : RunsInTurn cfg id pool answer call := admitted call others taken
    have whole : Turned id pool.shared pool.calls :=
      ⟨fun one member => inv.charged one (taken.all.mem_iff.mp member),
        fun one member => inv.free one (taken.all.mem_iff.mp member)⟩
    have member : call ∈ pool.calls := taken.all.mem_iff.mpr List.mem_cons_self
    -- A call in flight afterwards is the one that has moved, or was in flight before.
    have later {other : FareCall} (listed : other ∈ (call.next cfg pool.shared answer).2 :: others) :
        other = (call.next cfg pool.shared answer).2 ∨ other ∈ pool.calls :=
      (List.mem_cons.mp listed).imp_right fun old => taken.all.mem_iff.mpr (List.mem_cons_of_mem _ old)
    exact ⟨fun _ listed _ asks own => whole.charged_run member inTurn (later listed) asks own,
      fun _ listed prices => whole.free_run member inTurn (later listed) prices⟩
  arrives := by
    intro pool entry inv _
    refine ⟨fun one member charge asks => ?_, fun one member prices => ?_⟩
    · rcases List.mem_cons.mp member with rfl | old
      · -- A call that has just come in has read nothing yet.
        rcases entry with (_ | _) | _ | _ <;> cases asks
      · exact inv.charged one old charge asks
    · rcases List.mem_cons.mp member with rfl | old
      · cases entry.start_pricing.symm.trans prices
      · exact inv.free one old prices
  stops := by
    intro pool index call others found inv _
    refine ⟨fun one member charge asks => ?_, fun one member prices => ?_⟩
    · rcases List.mem_cons.mp member with rfl | other
      · cases asks
      · exact inv.charged one (List.mem_cons_of_mem _ other) charge asks
    · rcases List.mem_cons.mp member with rfl | other
      · cases prices
      · exact inv.free one (List.mem_cons_of_mem _ other) prices
  happens := by
    intro pool event inv _ _
    refine ⟨fun one member charge asks own => ?_, fun one member prices committed => ?_⟩
    · rw [inv.charged one member charge asks own]
      cases event <;> rfl
    · exact inv.free one member prices (committed_of_happen committed)

end

/--
Committed money keeps its figures, and is what was asked and paid, where placements and prompts take turns.

A placement looks at an order on which nothing is committed, and no prompt or payment falls between its look and its
UPDATE, nor its UPDATE between the SELECT and the prompt of a request.
-/
theorem committed_money_kept {cfg : Config} {id : Nat} {orders : List Order} {nextId : Nat} {events : List FareEvent}
    (distinct : (orders.map Order.id).Nodup) (inTurn : Along (faresAndPlacements cfg).step (InTurn cfg id)
      { shared := { orders := orders, nextId := nextId }, calls := [] } events) :
    Throughout (faresAndPlacements cfg).step (fun pool => PricedAsAsked id pool.shared)
        { shared := { orders := orders, nextId := nextId }, calls := [] } events ∧
      Along (faresAndPlacements cfg).step (KeepsFigures cfg id)
        { shared := { orders := orders, nextId := nextId }, calls := [] } events := by
  have initial : Turned id { orders := orders, nextId := nextId } [] := ⟨by simp, by simp⟩
  -- Statements that take turns find prices as they have to, which is all that either half asks for.
  refine (kept_iff_inTime distinct).mpr (@Along.mono_under _ _ _ (fun pool => Turned id pool.shared pool.calls) _ _
    (fun pool event inv admitted => (turned_keeps cfg id).step pool event inv admitted)
    (fun pool event inv admitted => ?_) _ _ initial inTurn)
  cases event with
  | run index answer => exact fun call others taken => inv.inTime (List.mem_of_getElem? taken.found)
  | _ => trivial

/-- A statement that is run in turn, whatever it waits for. -/
def readyInTurn (cfg : Config) (id : Nat) (pool : FarePool) : FareEvent → Bool
  | .run index answer => pool.calls[index]?.all fun call => decide (RunsInTurn cfg id pool answer call)
  | _ => true

/-- Such statements are run in turn. -/
theorem inTurn_of_ready {cfg : Config} {id : Nat} {pool : FarePool} {event : FareEvent}
    (ready : readyInTurn cfg id pool event = true) : InTurn cfg id pool event := by
  -- The decidable check is the condition, statement by statement.
  cases event with
  | run index answer =>
    intro call others taken
    rw [readyInTurn, taken.found] at ready
    exact of_decide_eq_true ready
  | _ => trivial

/-- A placement across Kigali. -/
def acrossKigali : Placement where
  orderId := 1
  pickup := ⟨some (-195 / 100), some (3012 / 100)⟩
  delivery := ⟨some (-194 / 100), some (3004 / 100)⟩

/-- What the database tells a placement of a light load for ten kilometres. -/
def lightLoad : PlacingAnswer where
  weightKg := 100
  metres := some 10000
  currentRateFor := fun _ => some (lightVan none)

/-- An order at its door, with calls and placements. -/
def oneToPlace : FarePool := { shared := { orders := [atTheDoor], nextId := 1 }, calls := [] }

/-- The order is placed, the customer is prompted for its new price, and another placement is turned away. -/
def placedThenPrompted : List FareEvent :=
  [.call (.placeOneOrder acrossKigali), .run 0 lightLoad, .run 0 lightLoad, .run 0 lightLoad, .run 0 lightLoad,
    .run 0 lightLoad, .run 0 lightLoad, .run 0 lightLoad,
    .call (.service (.requestPaymentForOrder 1 none none)), .run 1 lightLoad, .run 1 lightLoad, .run 1 lightLoad,
    .run 1 lightLoad, .run 1 lightLoad, .call (.placeOneOrder acrossKigali), .run 2 lightLoad]

/-- The gate finds nothing committed, a prompt goes out, and the placement writes its new price. -/
def placedAroundPrompt : List FareEvent :=
  [.call (.placeOneOrder acrossKigali), .run 0 lightLoad,
    .call (.service (.requestPaymentForOrder 1 none none)), .run 1 lightLoad, .run 1 lightLoad, .run 1 lightLoad,
    .run 1 lightLoad,
    .run 0 lightLoad, .run 0 lightLoad, .run 0 lightLoad, .run 0 lightLoad, .run 0 lightLoad]

/-- Prompted after it has been placed, an order costs what was asked for, and is not placed anew. -/
theorem committed_money_kept_placedThenPrompted :
    (Throughout (faresAndPlacements .kigali).step (fun pool => PricedAsAsked 1 pool.shared) oneToPlace
        placedThenPrompted ∧
      Along (faresAndPlacements .kigali).step (KeepsFigures .kigali 1) oneToPlace placedThenPrompted) ∧
    (liveRequests 1 (run (faresAndPlacements .kigali).step oneToPlace placedThenPrompted).shared).map
      PaymentRequest.amount = [fare 1 (run (faresAndPlacements .kigali).step oneToPlace placedThenPrompted).shared] := by
  -- The placement is over before the request reads a price.
  have ready : Along (faresAndPlacements .kigali).step
      (fun pool event => readyInTurn .kigali 1 pool event = true) oneToPlace placedThenPrompted := by
    decide +kernel
  exact ⟨committed_money_kept (by decide) (ready.mono fun _ _ => inTurn_of_ready), by decide +kernel⟩

/-- A placement that looked before the prompt reprices an order its customer is asked to pay for. -/
theorem repriced_under_prompt :
    ¬ ∀ (cfg : Config) (id : Nat) (orders : List Order) (nextId : Nat) (events : List FareEvent),
      (orders.map Order.id).Nodup →
      Throughout (faresAndPlacements cfg).step (fun pool => PricedAsAsked id pool.shared)
          { shared := { orders := orders, nextId := nextId }, calls := [] } events ∧
        Along (faresAndPlacements cfg).step (KeepsFigures cfg id)
          { shared := { orders := orders, nextId := nextId }, calls := [] } events := by
  intro always
  have asked := (always .kigali 1 [atTheDoor] 1 placedAroundPrompt (by decide)).1.last.asked
  -- The order costs more by now than the prompt that its customer still has.
  have apart : ∃ row ∈ liveRequests 1 (run (faresAndPlacements .kigali).step oneToPlace placedAroundPrompt).shared,
      row.amount ≠ fare 1 (run (faresAndPlacements .kigali).step oneToPlace placedAroundPrompt).shared := by
    decide +kernel
  obtain ⟨row, live, other⟩ := apart
  exact other (asked row live)

end Freight.Payment
