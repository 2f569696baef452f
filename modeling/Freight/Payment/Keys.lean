import Freight.Payment.Effects

/-! Primary keys stay keys, references stay fresh, and what a call read stays on record. -/

namespace Freight.Payment

/-- A snapshot of a request is of some row: its status may have moved on, nothing else. -/
def Backed (store : Store) (request : PaymentRequest) : Prop :=
  ∃ row ∈ store.requests, row.id = request.id ∧ row.orderId = request.orderId ∧
    row.reference = request.reference ∧ row.amount = request.amount ∧ row.currency = request.currency

/-- The request a settlement has read. -/
def ReconcileCall.found : ReconcileCall → Option Found
  | .ask found | .mismatchRequest found _ | .mismatchOrder found | .mismatchAudit found
  | .settle found _ | .failOrder found _ | .payOrder found | .queuePayout found _
  | .auditReceived found => some found
  | .selectRequest _ | .done _ => none

/-- The request a call has read. -/
def PaymentCall.found (call : PaymentCall) : Option Found :=
  call.reconciling.bind ReconcileCall.found

/-- The reference a call has stored and not sent yet. -/
def PaymentCall.unsent : PaymentCall → List Nat
  | .request (.requestToPay _ reference _)
  | .settlementRequest (.requestToPay _ reference _ _) => [reference]
  | _ => []

/-- The references stored by some call and not sent yet. -/
def unsentReferences (calls : List PaymentCall) : List Nat := calls.flatMap PaymentCall.unsent

/-- The references of the first call, and those of the others. -/
@[simp] theorem unsentReferences_cons (call : PaymentCall) (others : List PaymentCall) :
    unsentReferences (call :: others) = call.unsent ++ unsentReferences others := rfl

/-- The keys of every table are keys, and whatever is still to be drawn is new. -/
structure Keyed (store : Store) (calls : List PaymentCall) : Prop where
  /-- Order ids are a primary key. -/
  orders : (store.orders.map Order.id).Nodup
  /-- Request ids are a primary key. -/
  requests : (store.requests.map PaymentRequest.id).Nodup
  /-- Request references are unique. -/
  references : (store.requests.map PaymentRequest.reference).Nodup
  /-- Both were drawn. -/
  drawn : ∀ row ∈ store.requests, row.id < store.nextId ∧ row.reference < store.nextId
  /-- References about to be sent differ from each other and from those MTN knows. -/
  fresh : (unsentReferences calls ++ store.prompts.map Prompt.reference).Nodup
  /-- They were drawn as well. -/
  undrawn : ∀ reference ∈ unsentReferences calls ++ store.prompts.map Prompt.reference,
    reference < store.nextId
  /-- What a call read of a request is on record. -/
  backed : ∀ call ∈ calls, ∀ found, call.found = some found → Backed store found.request

namespace Keyed

variable {store : Store} {calls : List PaymentCall}

/-- An order is the one its own id names. -/
theorem order_of_mem (keyed : Keyed store calls) {row : Order} (listed : row ∈ store.orders) :
    store.order row.id = some row := by
  -- Ids are unique, so the first row under the id is this one.
  cases found : store.order row.id with
  | none => simpa using List.find?_eq_none.mp found row listed
  | some other =>
    have same : other.id = row.id := by simpa using List.find?_some found
    rw [List.inj_on_of_nodup_map keyed.orders (List.mem_of_find?_eq_some found) listed same]

/-- A serial names one request. -/
theorem same_request (keyed : Keyed store calls) {row other : PaymentRequest}
    (listed : row ∈ store.requests) (also : other ∈ store.requests) (same : row.id = other.id) :
    row = other :=
  List.inj_on_of_nodup_map keyed.requests listed also same

/-- A reference names one request. -/
theorem same_reference (keyed : Keyed store calls) {row other : PaymentRequest}
    (listed : row ∈ store.requests) (also : other ∈ store.requests)
    (same : row.reference = other.reference) : row = other :=
  List.inj_on_of_nodup_map keyed.references listed also same

/-- A reference names one prompt. -/
theorem same_prompt (keyed : Keyed store calls) {prompt other : Prompt}
    (listed : prompt ∈ store.prompts) (also : other ∈ store.prompts)
    (same : prompt.reference = other.reference) : prompt = other :=
  List.inj_on_of_nodup_map (List.nodup_append.mp keyed.fresh).2.1 listed also same

/-- MTN knows nothing of a reference that has not been sent. -/
theorem unsent_unknown (keyed : Keyed store calls) {reference : Nat}
    (unsent : reference ∈ unsentReferences calls) {prompt : Prompt} (listed : prompt ∈ store.prompts) :
    prompt.reference ≠ reference := fun same =>
  (List.nodup_append.mp keyed.fresh).2.2 _ unsent _ (List.mem_map_of_mem listed) same.symm

end Keyed

/-- No statement changes what a request asks for. -/
theorem onRequest_same (statement : Statement) (now : Nat) (row : PaymentRequest) :
    (statement.onRequest now row).id = row.id ∧
      (statement.onRequest now row).orderId = row.orderId ∧
      (statement.onRequest now row).reference = row.reference ∧
      (statement.onRequest now row).amount = row.amount ∧
      (statement.onRequest now row).currency = row.currency := by
  -- A verdict, a failure and a time-out write the status and what belongs to it.
  cases statement with
  | failRequest | resolveRequest | timeOutRequest =>
    simp only [Statement.onRequest]
    split <;> exact ⟨rfl, rfl, rfl, rfl, rfl⟩
  | _ => exact ⟨rfl, rfl, rfl, rfl, rfl⟩

/-- No statement changes a prompt's reference. -/
@[simp] theorem onPrompt_reference (statement : Statement) (prompt : Prompt) :
    (statement.onPrompt prompt).reference = prompt.reference := by
  -- A report writes that it is reported.
  cases statement with
  | report => simp only [Statement.onPrompt]; split <;> rfl
  | _ => rfl

/-- Serials are only ever drawn upwards. -/
theorem nextId_le_execute (statement : Statement) (store : Store) :
    store.nextId ≤ (statement.execute store).nextId := by
  -- Three statements draw a serial, and the others none.
  cases statement <;> simp [Statement.execute]

/-- A statement that inserts no request only rewrites the rows there are. -/
theorem execute_requests {statement : Statement} (store : Store)
    (other : ∀ row, statement ≠ .insertRequest row) :
    (statement.execute store).requests = store.requests.map (statement.onRequest store.now) := by
  -- One statement inserts a request, and this is not it.
  cases statement <;> simp_all [Statement.execute]

/-- A statement that sends no prompt only rewrites the prompts there are. -/
theorem execute_prompts {statement : Statement} (store : Store)
    (other : ∀ prompt, statement ≠ .accept prompt) :
    (statement.execute store).prompts = store.prompts.map statement.onPrompt := by
  -- One statement sends a prompt, and this is not it.
  cases statement <;> simp_all [Statement.execute]

/-- An inserted row has just been drawn. -/
theorem inserted {cfg : Config} {store : Store} {answer : Answer} {call : PaymentCall}
    {row : PaymentRequest}
    (inserts : (call.next cfg store answer).1 = .insertRequest row) :
    ∃ charge currency, call = .request (.insertRequest charge) ∧ row = newRequest store charge currency ∧
      store.pendingRequest charge.orderId = none ∧
      (call.next cfg store answer).2 = .request (.requestToPay store.nextId store.nextId charge) := by
  -- Of the steps that collect, only one inserts a row.
  have collects := call.collects_of_next (by rw [inserts]; rfl)
  rw [inserts] at collects
  generalize (call.next cfg store answer).2 = next at collects
  cases collects with
  | insert charge currency named none => exact ⟨charge, currency, rfl, rfl, none, rfl⟩

/-- A row after a statement is a rewritten one, or the one that was inserted. -/
theorem mem_execute_requests {store : Store} {statement : Statement} {next : PaymentRequest} :
    next ∈ (statement.execute store).requests ↔
      (∃ row ∈ store.requests, statement.onRequest store.now row = next) ∨
        statement = .insertRequest next := by
  -- The table is the rewritten rows, and the new one behind them.
  cases statement <;> simp [Statement.execute, eq_comm]

/-- A prompt after a statement is a rewritten one, or the one that was sent. -/
theorem mem_execute_prompts {store : Store} {statement : Statement} {next : Prompt} :
    next ∈ (statement.execute store).prompts ↔
      (∃ prompt ∈ store.prompts, statement.onPrompt prompt = next) ∨ statement = .accept next := by
  -- The prompts are the rewritten ones, and the new one behind them.
  cases statement <;> simp [Statement.execute, eq_comm]

/-- What was on record stays on record. -/
theorem Backed.execute {store : Store} {request : PaymentRequest} (backed : Backed store request)
    (statement : Statement) : Backed (statement.execute store) request := by
  -- The row is still listed, and what it asks for is not written.
  obtain ⟨row, listed, id, order, reference, amount, currency⟩ := backed
  have same := onRequest_same statement store.now row
  refine ⟨statement.onRequest store.now row, ?_, same.1.trans id, same.2.1.trans order,
    same.2.2.1.trans reference, same.2.2.2.1.trans amount, same.2.2.2.2.trans currency⟩
  exact List.mem_append_left _ (List.mem_map_of_mem listed)

/-- What a settlement has just read: a request, with its order as it stands. -/
def JustRead (store : Store) (found : Found) : Prop :=
  found.request ∈ store.requests ∧ ∃ order, store.order found.request.orderId = some order ∧
    found.assignedTo = order.assignedTo ∧ found.driverNet = order.driverNet

/-- A settlement goes on with the request it has read, or has just read one. -/
theorem ReconcileCall.next_found {cfg : Config} {store : Store} {answer : Answer}
    {call : ReconcileCall} {found : Found}
    (reads : (call.next cfg store answer).2.found = some found) :
    call.found = some found ∨ JustRead store found := by
  cases call with
  | selectRequest reference =>
    refine .inr ?_
    simp only [ReconcileCall.next] at reads
    split at reads
    · cases reads
    · split at reads
      · cases reads
      · rename_i request order joined
        split at reads
        · cases reads
        · cases reads
          -- The join finds the row by its reference and the order by the row.
          obtain ⟨row, there, order', owner, pair⟩ : ∃ row, store.request reference = some row ∧
              ∃ order', store.order row.orderId = some order' ∧ (row, order') = (request, order) := by
            simpa [Option.bind_eq_some_iff, Option.map_eq_some_iff] using joined
          cases pair
          exact ⟨List.mem_of_find?_eq_some there, order, owner, rfl, rfl⟩
  | queuePayout found queuing =>
    refine .inl ?_
    simp only [ReconcileCall.next] at reads
    split at reads <;> cases reads <;> rfl
  | _ =>
    refine .inl ?_
    simp only [ReconcileCall.next] at reads
    repeat' split at reads
    all_goals first | exact reads | cases reads

/-- A call goes on with the request it has read, or has just read one. -/
theorem PaymentCall.next_found {cfg : Config} {store : Store} {answer : Answer} {call : PaymentCall}
    {found : Found} (reads : (call.next cfg store answer).2.found = some found) :
    call.found = some found ∨ JustRead store found := by
  rcases call.next_cases cfg store answer with ⟨inner, settling, -, next⟩ | ⟨-, begins⟩
  · rw [PaymentCall.found, next] at reads
    rw [PaymentCall.found, settling]
    exact inner.next_found reads
  · -- A settlement that has only begun has read nothing.
    cases settling : (call.next cfg store answer).2.reconciling with
    | none =>
      rw [PaymentCall.found, settling] at reads
      cases reads
    | some inner =>
      rw [PaymentCall.found, settling] at reads
      rcases begins inner settling with ⟨reference, rfl⟩ | ⟨outcome, rfl⟩ <;> cases reads

/-- A prompt goes out under the reference its call had stored. -/
theorem PaymentCall.accept_unsent {cfg : Config} {store : Store} {answer : Answer}
    {call : PaymentCall} {prompt : Prompt} (sends : (call.next cfg store answer).1 = .accept prompt) :
    call.unsent = [prompt.reference] ∧ (call.next cfg store answer).2.unsent = [] := by
  -- A prompt for a fare or for a commission carries the reference of the row before it.
  have collects := call.collects_of_next (by rw [sends]; rfl)
  rw [sends] at collects
  generalize (call.next cfg store answer).2 = next at collects
  cases collects with
  | accept | lose => exact ⟨rfl, rfl⟩
  | acceptCommission _ _ _ _ _ _ ended => rcases ended with ⟨_, rfl⟩ | ⟨_, rfl⟩ <;> exact ⟨rfl, rfl⟩

/-- A call has an unsent reference only right after it has drawn one for a new row. -/
theorem PaymentCall.next_unsent (cfg : Config) (store : Store) (answer : Answer) (call : PaymentCall) :
    (call.next cfg store answer).2.unsent = [] ∨
    ((call.next cfg store answer).2.unsent = [store.nextId] ∧
      ((call.next cfg store answer).1.execute store).nextId = store.nextId + 1) := by
  cases call with
  | request call =>
    cases call with
    -- A request for a fare draws its reference here.
    | insertRequest charge =>
      simp only [PaymentCall.next, RequestCall.next]
      repeat' split
      · exact .inl rfl
      · exact .inl rfl
      · exact .inl rfl
      · -- The row is inserted, and its reference is drawn with it.
        exact .inr ⟨rfl, rfl⟩
    | done outcome => exact .inl rfl
    | _ =>
      refine .inl ?_
      simp only [PaymentCall.next, RequestCall.next]
      repeat' split
      all_goals rfl
  | settlementRequest call =>
    cases call with
    -- And one for the commission here.
    | insertSettlement raised =>
      simp only [PaymentCall.next, SettlementRequestCall.next]
      repeat' split
      · exact .inl rfl
      · exact .inl rfl
      · exact .inr ⟨rfl, rfl⟩
    | done outcome => exact .inl rfl
    | _ =>
      refine .inl ?_
      simp only [PaymentCall.next, SettlementRequestCall.next]
      repeat' split
      all_goals rfl
  | _ => exact .inl rfl

/-- The references in flight stay new, whatever a call does next. -/
theorem Keyed.next_fresh {cfg : Config} {store : Store} {answer : Answer} {call : PaymentCall}
    {others : List PaymentCall} (keyed : Keyed store (call :: others)) :
    (unsentReferences ((call.next cfg store answer).2 :: others) ++
      ((call.next cfg store answer).1.execute store).prompts.map Prompt.reference).Nodup ∧
    ∀ reference ∈ unsentReferences ((call.next cfg store answer).2 :: others) ++
      ((call.next cfg store answer).1.execute store).prompts.map Prompt.reference,
      reference < ((call.next cfg store answer).1.execute store).nextId := by
  have fresh := keyed.fresh
  have undrawn := keyed.undrawn
  have grows := nextId_le_execute (call.next cfg store answer).1 store
  by_cases sends : ∃ prompt, (call.next cfg store answer).1 = .accept prompt
  · -- The call's own reference moves from unsent to sent.
    obtain ⟨prompt, sends⟩ := sends
    obtain ⟨before, after⟩ := call.accept_unsent sends
    have moved : (unsentReferences ((call.next cfg store answer).2 :: others) ++
        ((call.next cfg store answer).1.execute store).prompts.map Prompt.reference).Perm
        (unsentReferences (call :: others) ++ store.prompts.map Prompt.reference) := by
      simp only [unsentReferences_cons, before, after, sends, Statement.execute, List.map_append,
        List.map_map, List.map_cons, List.map_nil, List.nil_append, Function.comp_def,
        onPrompt_reference, List.cons_append]
      rw [← List.append_assoc]
      exact List.perm_append_singleton _ _
    refine ⟨moved.nodup_iff.mpr fresh, fun reference member => ?_⟩
    exact (undrawn reference (moved.mem_iff.mp member)).trans_le grows
  · -- No prompt is sent, so the ones at MTN have the references they had.
    have same : ((call.next cfg store answer).1.execute store).prompts.map Prompt.reference =
        store.prompts.map Prompt.reference := by
      rw [execute_prompts store fun prompt sends' => sends ⟨prompt, sends'⟩]
      simp [Function.comp_def]
    rw [same]
    have rest : (unsentReferences others ++ store.prompts.map Prompt.reference).Sublist
        (unsentReferences (call :: others) ++ store.prompts.map Prompt.reference) :=
      (List.sublist_append_right _ _).append_right _
    -- What the call has drawn is one new reference, or none.
    rcases call.next_unsent cfg store answer with nothing | ⟨drawn, next⟩
    · rw [unsentReferences_cons, nothing, List.nil_append]
      exact ⟨fresh.sublist rest, fun reference member =>
        (undrawn reference (rest.subset member)).trans_le grows⟩
    · rw [unsentReferences_cons, drawn, List.cons_append, List.nil_append, List.cons_append]
      refine ⟨List.nodup_cons.mpr ⟨fun member => ?_, fresh.sublist rest⟩, fun reference member => ?_⟩
      · exact absurd (undrawn _ (rest.subset member)) (lt_irrefl _)
      · rcases List.mem_cons.mp member with rfl | old
        · omega
        · exact (undrawn reference (rest.subset old)).trans_le grows

/-- New request rows are drawn, whatever statement is run. -/
theorem Keyed.next_requests {cfg : Config} {store : Store} {answer : Answer} {call : PaymentCall}
    {others : List PaymentCall} (keyed : Keyed store (call :: others)) :
    ((((call.next cfg store answer).1.execute store).requests.map PaymentRequest.id).Nodup ∧
      (((call.next cfg store answer).1.execute store).requests.map PaymentRequest.reference).Nodup) ∧
    ∀ row ∈ ((call.next cfg store answer).1.execute store).requests,
      row.id < ((call.next cfg store answer).1.execute store).nextId ∧
        row.reference < ((call.next cfg store answer).1.execute store).nextId := by
  by_cases inserts : ∃ row, (call.next cfg store answer).1 = .insertRequest row
  · obtain ⟨row, inserts⟩ := inserts
    have collects := call.collects_of_next (by rw [inserts]; rfl)
    rw [inserts] at collects ⊢
    -- The row takes the next number, as its id and as its reference.
    have drawn : row.id = store.nextId ∧ row.reference = store.nextId := by
      generalize (call.next cfg store answer).2 = next at collects
      cases collects
      exact ⟨rfl, rfl⟩
    have ids : ∀ old ∈ store.requests, old.id ≠ row.id ∧ old.reference ≠ row.reference := by
      intro old listed
      have below := keyed.drawn old listed
      omega
    have rows : ((Statement.insertRequest row).execute store).requests = store.requests ++ [row] :=
      congrArg (· ++ [row]) (List.map_id'' (fun _ => rfl) store.requests)
    have next : ((Statement.insertRequest row).execute store).nextId = store.nextId + 1 := rfl
    rw [rows, next]
    refine ⟨⟨?_, ?_⟩, fun one member => ?_⟩
    · rw [List.map_append, List.map_cons, List.map_nil]
      refine List.nodup_append.mpr ⟨keyed.requests, by simp, fun id listed other new same => ?_⟩
      obtain ⟨old, found, rfl⟩ := List.mem_map.mp listed
      exact (ids old found).1 (by rw [same, List.mem_singleton.mp new])
    · rw [List.map_append, List.map_cons, List.map_nil]
      refine List.nodup_append.mpr ⟨keyed.references, by simp, fun id listed other new same => ?_⟩
      obtain ⟨old, found, rfl⟩ := List.mem_map.mp listed
      exact (ids old found).2 (by rw [same, List.mem_singleton.mp new])
    · rcases List.mem_append.mp member with old | new
      · have below := keyed.drawn one old
        omega
      · rw [List.mem_singleton.mp new]
        omega
  · -- Without a new row the rows keep their numbers.
    rw [execute_requests store fun row inserts' => inserts ⟨row, inserts'⟩]
    have grows := nextId_le_execute (call.next cfg store answer).1 store
    refine ⟨⟨?_, ?_⟩, ?_⟩
    · simpa [Function.comp_def, (onRequest_same _ _ _).1] using keyed.requests
    · simpa [Function.comp_def, (onRequest_same _ _ _).2.2.1] using keyed.references
    · simp only [List.forall_mem_map, (onRequest_same _ _ _).1, (onRequest_same _ _ _).2.2.1]
      exact fun row listed => ⟨(keyed.drawn row listed).1.trans_le grows,
        (keyed.drawn row listed).2.trans_le grows⟩

/-- Nothing outside the services touches a request, or draws a serial. -/
theorem happen_requests (event : PaymentOutside) (store : Store) :
    (event.happen store).requests = store.requests ∧ (event.happen store).nextId = store.nextId := by
  -- The customer answers prompts, and dispatch writes orders.
  cases event <;> exact ⟨rfl, rfl⟩

/-- Answering a prompt keeps its reference. -/
@[simp] theorem answered_reference (prompt : Prompt) (reference : Nat) (state : PromptState) :
    (prompt.answered reference state).reference = prompt.reference := by
  -- An answer writes the state.
  simp only [Prompt.answered]
  split <;> rfl

/-- Nothing outside the services sends a prompt. -/
theorem happen_prompts (event : PaymentOutside) (store : Store) :
    (event.happen store).prompts.map Prompt.reference = store.prompts.map Prompt.reference := by
  -- An answer rewrites a prompt in place.
  cases event <;> simp [PaymentOutside.happen, Store.updateOrder, Function.comp_def]

/-- Nothing outside the services adds or removes an order. -/
theorem happen_orders (event : PaymentOutside) (store : Store) :
    (event.happen store).orders.map Order.id = store.orders.map Order.id := by
  cases event with
  | settle | decline | wait => rfl
  | updateOrderStatus orderId rateOf status waited =>
    simp only [PaymentOutside.happen, Store.updateOrder, List.map_map]
    -- A status update writes other columns than the id.
    refine List.map_congr_left fun order _ => ?_
    simp only [Function.comp_apply]
    split
    · exact (statusUpdated_same order rateOf status waited).1
    · rfl
  | confirmDelivery orderId rateOf waited filledBy =>
    simp only [PaymentOutside.happen, Store.updateOrder, List.map_map]
    refine List.map_congr_left fun order _ => ?_
    simp only [Function.comp_apply]
    split
    · exact (deliveryConfirmed_same order rateOf waited filledBy).1
    · rfl

/-- Every event whatever keeps the keys. -/
theorem keyed_keeps (cfg : Config) : (services cfg).Keeps Keyed fun _ _ => True where
  perm same keyed :=
    have unsent := (same.flatMap_right PaymentCall.unsent).append_right (_ : List Nat)
    { keyed with
      fresh := unsent.nodup_iff.mp keyed.fresh
      undrawn := fun reference member => keyed.undrawn reference (unsent.mem_iff.mpr member)
      backed := fun one member => keyed.backed one (same.mem_iff.mpr member) }
  moves := by
    intro pool index answer call others taken keyed _
    change Keyed ((call.next cfg pool.shared answer).1.execute pool.shared)
      ((call.next cfg pool.shared answer).2 :: others)
    obtain ⟨⟨requests, references⟩, drawn⟩ := @Keyed.next_requests cfg _ answer _ _ keyed
    -- The statement keeps the numbers apart; the call that moved is backed by the row it has read.
    obtain ⟨fresh, undrawn⟩ := @Keyed.next_fresh cfg _ answer _ _ keyed
    refine ⟨?_, requests, references, drawn, fresh, undrawn, fun one member found reads => ?_⟩
    · simpa [Function.comp_def] using keyed.orders
    · rcases List.mem_cons.mp member with rfl | other
      · rcases call.next_found reads with before | row
        · exact (keyed.backed call List.mem_cons_self found before).execute _
        · have backed : Backed pool.shared found.request := ⟨_, row.1, rfl, rfl, rfl, rfl, rfl⟩
          exact backed.execute _
      · exact (keyed.backed one (List.mem_cons_of_mem _ other) found reads).execute _
  arrives := by
    intro pool entry keyed _
    have nothing : (entry.start).unsent = [] ∧ (entry.start).found = none := by
      cases entry <;> exact ⟨rfl, rfl⟩
    refine { keyed with fresh := ?_, undrawn := ?_, backed := fun one member found reads => ?_ }
    · simpa [services, nothing.1] using keyed.fresh
    · simpa [services, nothing.1] using keyed.undrawn
    · rcases List.mem_cons.mp member with rfl | old
      · exact absurd (nothing.2.symm.trans reads) (by simp)
      · exact keyed.backed one old found reads
  stops := by
    intro pool index call others _ keyed _
    -- A call that is cut off takes its unsent reference with it.
    have fewer : (unsentReferences (PaymentCall.stopped :: others) ++
        pool.shared.prompts.map Prompt.reference).Sublist
        (unsentReferences (call :: others) ++ pool.shared.prompts.map Prompt.reference) := by
      rw [unsentReferences_cons, unsentReferences_cons]
      exact (List.sublist_append_right _ _).append_right _
    refine { keyed with
      fresh := keyed.fresh.sublist fewer
      undrawn := fun reference member => keyed.undrawn reference (fewer.subset member)
      backed := fun one member found reads => ?_ }
    rcases List.mem_cons.mp member with rfl | other
    · cases reads
    · exact keyed.backed one (List.mem_cons_of_mem _ other) found reads
  happens := by
    intro pool event keyed _ _
    change Keyed (event.happen pool.shared) pool.calls
    obtain ⟨requests, nextId⟩ := happen_requests event pool.shared
    refine ⟨?_, ?_, ?_, ?_, ?_, ?_, fun one member found reads => ?_⟩
    · rw [happen_orders]; exact keyed.orders
    · rw [requests]; exact keyed.requests
    · rw [requests]; exact keyed.references
    · rw [requests, nextId]; exact keyed.drawn
    · rw [happen_prompts]; exact keyed.fresh
    · rw [happen_prompts, nextId]; exact keyed.undrawn
    · have backed := keyed.backed one member found reads
      rw [Backed, requests]
      exact backed

end Freight.Payment
