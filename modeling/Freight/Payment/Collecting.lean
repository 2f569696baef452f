import Freight.Payment.Fares

/-! What has to hold of the calls in flight for a customer to pay one fare, and what a step does to it. -/

namespace Freight.Payment

/-- A prompt that has moved money moved what it was for. -/
def Prompt.SettledAsAsked (prompt : Prompt) : Prop :=
  ∀ amount currency, prompt.state = .settled amount currency → amount = prompt.amount

/-- MTN has said that the prompt was paid. -/
def Prompt.Collected (prompt : Prompt) : Prop :=
  prompt.reported = true ∧ ∃ amount currency, prompt.state = .settled amount currency

/-- The reference of the request a call has raised, until MTN has said that it took it in. -/
def PaymentCall.raising : PaymentCall → List Nat
  | .request (.requestToPay _ reference _) | .request (.refuse _ reference _ _) => [reference]
  | _ => []

/-- What is known of a settlement about to write, for requests of one order. -/
def ReconcileCall.Honors (id : Nat) (store : Store) : ReconcileCall → Prop
  -- The verdict in hand is what MTN has reported.
  | .settle found verdict => found.request.orderId = id →
    ∃ prompt ∈ store.prompts, prompt.reference = found.request.reference ∧
      if verdict.status = .successful then prompt.Collected else prompt.dead = true
  | .mismatchRequest found _ => found.request.orderId ≠ id
  | _ => True

/-- What is known of a call that is raising a request, for requests of one order. -/
def PaymentCall.Raises (id : Nat) (store : Store) : PaymentCall → Prop
  | .request (.selectPending charge) | .request (.insertRequest charge) =>
    charge.orderId = id → charge.amount = fare id store
  | .request (.requestToPay requestId reference charge) =>
    ∃ row ∈ store.requests, row.id = requestId ∧ row.reference = reference ∧
      row.orderId = charge.orderId ∧
      (charge.orderId = id → row.status = .pending ∧ charge.amount = fare id store)
  | .request (.refuse requestId reference _ _) =>
    ∃ row ∈ store.requests, row.id = requestId ∧ row.reference = reference
  -- A commission's reference is nobody's fare.
  | .settlementRequest (.requestToPay _ reference _ _) =>
    ∀ row ∈ store.requests, row.reference ≠ reference
  | _ => True

/-- What is known of a call about to write, for requests of one order. -/
def PaymentCall.Honors (id : Nat) (store : Store) (call : PaymentCall) : Prop :=
  call.Raises id store ∧ ∀ inner, call.reconciling = some inner → inner.Honors id store

/-- At most one collection for an order is under way or done, and MTN's word stands behind the rest. -/
structure Collecting (id : Nat) (store : Store) (calls : List PaymentCall) : Prop
    extends Keyed store calls where
  /-- The order has one live request or one payment in cash, not both. -/
  live : (liveRequests id store).length + (cashFor id store).length ≤ 1
  /-- Its requests are for the fare. -/
  asked : ∀ row ∈ store.requests, row.orderId = id → row.amount = fare id store
  /-- Its cash was the fare. -/
  taken : ∀ entry ∈ cashFor id store, entry.amount = fare id store
  /-- Its prompts are for the fare, and for some request of its own. -/
  named : ∀ prompt ∈ store.prompts, prompt.orderId = some id → prompt.amount = fare id store ∧
    ∃ row ∈ store.requests, row.reference = prompt.reference ∧ row.orderId = id
  /-- Money moves as it was asked for. -/
  settled : ∀ prompt ∈ store.prompts, prompt.SettledAsAsked
  /-- A request of its own is unresolved, or MTN has said how its prompt ended. -/
  resolved : ∀ prompt ∈ store.prompts, ∀ row ∈ store.requests, row.reference = prompt.reference →
    row.orderId = id →
      row.status = .pending ∨ row.status = .successful ∧ prompt.Collected ∨ prompt.dead = true
  /-- A request has one call raising it. -/
  raised : (calls.flatMap PaymentCall.raising).Nodup
  /-- Its reference was drawn. -/
  raisedDrawn : ∀ reference ∈ calls.flatMap PaymentCall.raising, reference < store.nextId
  /-- Every call knows what it is about to do. -/
  honored : ∀ call ∈ calls, call.Honors id store

variable {cfg : Config} {id : Nat} {store : Store} {answer : Answer}

/-- A row a statement leaves live was live before it. -/
theorem live_of_onRequest {statement : Statement} {now : Nat} {row : PaymentRequest}
    (live : (statement.onRequest now row).status = .pending ∨
      (statement.onRequest now row).status = .successful) :
    row.status = .pending ∨ row.status = .successful := by
  -- The three statements that write a status write one that is not live, or a success over a pending row.
  cases statement with
  | failRequest | resolveRequest | timeOutRequest =>
    simp only [Statement.onRequest] at live
    split at live
    · simp_all
    · exact live
  | _ => exact live

/-- A statement that inserts no request adds no live one. -/
theorem liveRequests_execute_le {statement : Statement} (id : Nat) (store : Store)
    (other : ∀ row, statement ≠ .insertRequest row) :
    (liveRequests id (statement.execute store)).length ≤ (liveRequests id store).length := by
  -- The rows are those that were there, and a row that is live now was live.
  rw [liveRequests, liveRequests, execute_requests store other, List.filter_map, List.length_map]
  refine List.Sublist.length_le (List.monotone_filter_right _ fun row live => ?_)
  simp only [Function.comp_apply, decide_eq_true_eq] at live ⊢
  exact ⟨(onRequest_same statement store.now row).2.1 ▸ live.1, live_of_onRequest live.2⟩

/-- A statement that takes no cash leaves the cash as it is. -/
theorem cash_execute {statement : Statement} (store : Store)
    (other : ∀ orderId, statement ≠ .takeCash orderId) :
    (statement.execute store).cash = store.cash := by
  -- One statement takes cash, and this is not it.
  cases statement <;> simp_all [Statement.execute, Statement.takes]

/-- Reporting a prompt keeps what became of it. -/
theorem onPrompt_same (statement : Statement) (prompt : Prompt) :
    (statement.onPrompt prompt).orderId = prompt.orderId ∧
      (statement.onPrompt prompt).amount = prompt.amount ∧
      (statement.onPrompt prompt).state = prompt.state ∧
      (prompt.reported = true → (statement.onPrompt prompt).reported = true) := by
  -- Only a report writes a prompt, and only that it is reported.
  cases statement with
  | report => simp only [Statement.onPrompt]; split <;> simp
  | _ => exact ⟨rfl, rfl, rfl, fun reported => reported⟩

/-- A prompt MTN has reported paid stays so. -/
theorem Prompt.Collected.onPrompt {prompt : Prompt} (collected : prompt.Collected)
    (statement : Statement) : (statement.onPrompt prompt).Collected :=
  have same := onPrompt_same statement prompt
  ⟨same.2.2.2 collected.1, by rw [same.2.2.1]; exact collected.2⟩

/-- A prompt MTN has reported dead stays so. -/
theorem Prompt.dead_onPrompt {prompt : Prompt} (dead : prompt.dead = true) (statement : Statement) :
    (statement.onPrompt prompt).dead = true := by
  -- A report adds that it is reported, and changes nothing else.
  have same := onPrompt_same statement prompt
  simp only [Prompt.dead, Bool.and_eq_true, decide_eq_true_eq] at dead ⊢
  exact ⟨same.2.2.2 dead.1, same.2.2.1.trans dead.2⟩

/-- What a call goes on knowing when somebody else moves: the references it has not sent are spared. -/
structure Carries (id : Nat) (awaited : List Nat) (store later : Store) : Prop where
  fares : fare id later = fare id store
  /-- Rows stay, and those awaited stay pending. -/
  rows : ∀ row ∈ store.requests, ∃ next ∈ later.requests, next.id = row.id ∧
    next.reference = row.reference ∧ next.orderId = row.orderId ∧
    (row.orderId = id → row.reference ∈ awaited → row.status = .pending → next.status = .pending)
  /-- A new row has a new reference. -/
  drawn : ∀ next ∈ later.requests,
    (∃ row ∈ store.requests, row.reference = next.reference) ∨ next.reference ∉ awaited
  /-- What MTN has reported stays reported. -/
  prompts : ∀ prompt ∈ store.prompts, ∃ next ∈ later.prompts, next.reference = prompt.reference ∧
    (prompt.Collected → next.Collected) ∧ (prompt.dead = true → next.dead = true)

/-- A settlement goes on knowing what MTN has reported. -/
theorem ReconcileCall.Honors.carry {awaited : List Nat} {later : Store} {call : ReconcileCall}
    (honors : call.Honors id store) (carries : Carries id awaited store later) :
    call.Honors id later := by
  cases call with
  | settle found verdict =>
    intro mine
    obtain ⟨prompt, listed, same, word⟩ := honors mine
    -- The prompt is still there, and what MTN has said of it stands.
    obtain ⟨next, still, reference, paid, dead⟩ := carries.prompts prompt listed
    refine ⟨next, still, reference.trans same, ?_⟩
    split at word
    · rename_i succeeded
      rw [if_pos succeeded]
      exact paid word
    · rename_i failed
      rw [if_neg failed]
      exact dead word
  | mismatchRequest found verdict => exact honors
  | _ => trivial

/-- A call goes on knowing that its own row stands. -/
theorem PaymentCall.Raises.carry {awaited : List Nat} {later : Store} {call : PaymentCall}
    (raises : call.Raises id store) (carries : Carries id awaited store later)
    (own : ∀ reference ∈ call.unsent, reference ∈ awaited) : call.Raises id later := by
  cases call with
  | request call =>
    cases call with
    | selectPending charge | insertRequest charge =>
      exact fun mine => (raises mine).trans carries.fares.symm
    | requestToPay requestId reference charge =>
      obtain ⟨row, listed, rfl, rfl, orderId, pending⟩ := raises
      -- The row stays, and stays pending, for its reference is still to be sent.
      obtain ⟨next, still, same, reference, order, spared⟩ := carries.rows row listed
      refine ⟨next, still, same, reference, order.trans orderId, fun mine => ?_⟩
      rw [carries.fares]
      exact ⟨spared (orderId.trans mine) (own _ (List.mem_singleton.mpr rfl)) (pending mine).1,
        (pending mine).2⟩
    | refuse requestId reference reason retryable =>
      obtain ⟨row, listed, rfl, rfl⟩ := raises
      obtain ⟨next, still, same, reference, -⟩ := carries.rows row listed
      exact ⟨next, still, same, reference⟩
    | _ => trivial
  | settlementRequest call =>
    cases call with
    | requestToPay settlementId reference raised currency =>
      intro next listed same
      -- A reference that was drawn meanwhile is none of those that are awaited.
      rcases carries.drawn next listed with ⟨row, old, reference⟩ | new
      · exact raises row old (reference.trans same)
      · exact new (same ▸ own _ (List.mem_singleton.mpr rfl))
    | _ => trivial
  | _ => trivial

/-- A call goes on knowing what it did. -/
theorem PaymentCall.Honors.carry {awaited : List Nat} {later : Store} {call : PaymentCall}
    (honors : call.Honors id store) (carries : Carries id awaited store later)
    (own : ∀ reference ∈ call.unsent, reference ∈ awaited) : call.Honors id later :=
  ⟨honors.1.carry carries own, fun inner settling => (honors.2 inner settling).carry carries⟩

namespace Collecting

variable {call : PaymentCall} {others : List PaymentCall}

/-- A fare's reference that is still to be sent is raised by the call that will send it. -/
theorem unsent_raising {calls : List PaymentCall} (inv : Collecting id store calls) {row : PaymentRequest}
    (listed : row ∈ store.requests) {other : PaymentCall} (member : other ∈ calls)
    (unsent : row.reference ∈ other.unsent) : row.reference ∈ other.raising := by
  have honors := (inv.honored other member).1
  cases other with
  | request other =>
    cases other with
    | requestToPay requestId reference charge => exact unsent
    | _ => cases unsent
  | settlementRequest other =>
    cases other with
    | requestToPay settlementId reference raised currency =>
      -- The reference of a commission is none of a fare's.
      exact absurd (List.mem_singleton.mp unsent) (honors row listed)
    | _ => cases unsent
  | _ => cases unsent

/-- A row that is not the call's own to fail is not failed under another call's hands. -/
theorem raising_apart (inv : Collecting id store (call :: others)) {row : PaymentRequest}
    (listed : row ∈ store.requests) (raising : row.reference ∈ call.raising) :
    row.reference ∉ unsentReferences others := by
  -- References that are being raised are of different calls, and this one is its own call's.
  intro unsent
  obtain ⟨other, member, unsent⟩ := List.mem_flatMap.mp unsent
  have also := inv.unsent_raising listed (List.mem_cons_of_mem _ member) unsent
  have apart := inv.raised
  rw [List.flatMap_cons] at apart
  exact (List.nodup_append.mp apart).2.2 _ raising _ (List.mem_flatMap.mpr ⟨other, member, also⟩) rfl

/-- A reference MTN knows is not waited for by anybody. -/
theorem known_apart (inv : Collecting id store (call :: others)) {prompt : Prompt}
    (listed : prompt ∈ store.prompts) : prompt.reference ∉ unsentReferences others := fun unsent =>
  inv.unsent_unknown (List.mem_append_right call.unsent unsent) listed rfl

/-- A request of the order changes its status only as MTN has reported. -/
theorem onRequest_cases (inv : Collecting id store (call :: others))
    (once : call.collectsOnce cfg id store answer = true) {row : PaymentRequest}
    (listed : row ∈ store.requests) (mine : row.orderId = id) :
    ((call.next cfg store answer).1.onRequest store.now row).status = row.status ∨
    row.reference ∉ unsentReferences others ∧
      (((call.next cfg store answer).1.onRequest store.now row).status = .successful ∧
        (∃ prompt ∈ store.prompts, prompt.reference = row.reference ∧ prompt.Collected) ∨
      ∀ prompt ∈ store.prompts, prompt.reference = row.reference → prompt.dead = true) := by
  have honors := inv.honored call List.mem_cons_self
  cases statement : (call.next cfg store answer).1 with
  | failRequest requestId reason =>
    have collects := call.collects_of_next (by rw [statement]; rfl)
    rw [statement] at collects
    generalize (call.next cfg store answer).2 = next at collects
    cases collects with
    | fail requestId reference reason retryable works =>
      by_cases own : row.id = requestId
      · -- The catch block's own row: MTN must have said that nothing will come of it.
        obtain ⟨stored, there, same, refers⟩ := honors.1
        have row_eq : row = stored := inv.same_request listed there (own.trans same.symm)
        have reference_eq : row.reference = reference := (congrArg _ row_eq).trans refers
        refine .inr ⟨inv.raising_apart listed (List.mem_singleton.mpr reference_eq), .inr ?_⟩
        simp only [PaymentCall.collectsOnce, works, Bool.false_or, List.all_eq_true, Bool.or_eq_true,
          decide_eq_true_eq] at once
        exact fun prompt known same => (once prompt known).resolve_left
          (not_not.mpr (same.trans reference_eq))
      · exact .inl (by simp [Statement.onRequest, own])
  | timeOutRequest reference =>
    have collects := call.collects_of_next (by rw [statement]; rfl)
    rw [statement] at collects
    generalize (call.next cfg store answer).2 = next at collects
    cases collects with
    | timeOut aged rest tally works =>
      by_cases own : row.reference = aged.reference ∧ row.status = .pending
      · -- The sweep gives up on a prompt MTN has declared dead.
        simp only [PaymentCall.collectsOnce, works, Bool.false_or, List.all_eq_true, Bool.or_eq_true,
          decide_eq_true_eq, List.any_eq_true, Bool.and_eq_true] at once
        have dead := once.resolve_left fun all => (all row listed).elim (· own.1) (· own.2)
        obtain ⟨prompt, known, same, dead⟩ := dead
        have refers := same.trans own.1.symm
        refine .inr ⟨refers ▸ inv.known_apart known, .inr fun other also reference => ?_⟩
        rwa [inv.same_prompt also known (reference.trans refers.symm)]
      · exact .inl (by simp [Statement.onRequest, own])
  | resolveRequest requestId status transactionId reason =>
    obtain ⟨inner, settling, resolves, -⟩ := call.settling_of_settles (by rw [statement]; rfl)
    rw [statement] at resolves
    have word := honors.2 inner settling
    by_cases own : row.id = requestId ∧ row.status = .pending
    · rcases inner.next_resolveRequest resolves.symm with
          ⟨found, verdict, rfl, rfl, -, -, ended⟩ | ⟨found, verdict, rfl, rfl, -, -⟩
      · -- MTN's verdict on the row's own prompt.
        obtain ⟨stored, there, same, order, refers, -⟩ :=
          inv.backed call List.mem_cons_self found (by rw [PaymentCall.found, settling]; rfl)
        have row_eq : row = stored := inv.same_request listed there (own.1.trans same.symm)
        have reference_eq : row.reference = found.request.reference := (congrArg _ row_eq).trans refers
        obtain ⟨prompt, known, same, word⟩ := word (order ▸ row_eq ▸ mine)
        have known_eq : prompt.reference = row.reference := same.trans reference_eq.symm
        refine .inr ⟨known_eq ▸ inv.known_apart known, ?_⟩
        rcases ended with ⟨succeeded, rfl, -⟩ | ⟨failed, rfl, -⟩
        · rw [if_pos succeeded] at word
          exact .inl ⟨by simp [Statement.onRequest, own], prompt, known, known_eq, word⟩
        · rw [if_neg failed] at word
          refine .inr fun other also reference => ?_
          rwa [inv.same_prompt also known (reference.trans known_eq.symm)]
      · -- A mismatch is some other order's.
        obtain ⟨stored, there, same, order, -⟩ :=
          inv.backed call List.mem_cons_self found (by rw [PaymentCall.found, settling]; rfl)
        have row_eq : row = stored := inv.same_request listed there (own.1.trans same.symm)
        exact absurd (order ▸ row_eq ▸ mine) word
    · exact .inl (by simp [Statement.onRequest, own])
  | _ => exact .inl rfl

/-- One call's step carries over what the other calls know. -/
theorem carries (inv : Collecting id store (call :: others))
    (once : call.collectsOnce cfg id store answer = true) :
    Carries id (unsentReferences others) store ((call.next cfg store answer).1.execute store) where
  fares := fare_execute _ _ _
  rows := by
    intro row listed
    have same := onRequest_same (call.next cfg store answer).1 store.now row
    refine ⟨_, mem_execute_requests.mpr (.inl ⟨row, listed, rfl⟩), same.1, same.2.2.1, same.2.1, ?_⟩
    intro mine awaited pending
    -- A row that another call is about to send changes its status nowhere else.
    rcases inv.onRequest_cases once listed mine with still | ⟨apart, -⟩
    · exact still.trans pending
    · exact absurd awaited apart
  drawn := by
    intro next listed
    rcases mem_execute_requests.mp listed with ⟨row, old, rfl⟩ | inserts
    · exact .inl ⟨row, old, (onRequest_same _ _ _).2.2.1.symm⟩
    · -- What is drawn now was drawn by nobody before.
      obtain ⟨charge, currency, -, rfl, -⟩ := inserted inserts
      refine .inr fun awaited => lt_irrefl store.nextId (inv.undrawn _ ?_)
      exact List.mem_append_left _ (List.mem_append_right _ awaited)
  prompts := by
    intro prompt listed
    exact ⟨_, mem_execute_prompts.mpr (.inl ⟨prompt, listed, rfl⟩), onPrompt_reference _ _,
      fun paid => paid.onPrompt _, fun dead => Prompt.dead_onPrompt dead _⟩

/-- A settlement learns what it is about to write from MTN. -/
theorem next_reconcile {inner : ReconcileCall}
    (told : ∀ found, inner = .ask found →
      answer.verdict.all (truthful store found.request.reference) = true)
    (once : ∀ found verdict, inner = .ask found → answer.verdict = some verdict →
      found.request.orderId ≠ id ∨ verdict.status ≠ .successful ∨
        settlesAsked cfg found.request verdict = true) :
    (inner.next cfg store answer).2.Honors id ((inner.next cfg store answer).1.execute store) := by
  cases inner with
  | ask found =>
    simp only [ReconcileCall.next]
    -- Without a verdict the settlement ends.
    cases said : answer.verdict with
    | none => trivial
    | some verdict =>
      have truth := told found rfl
      have asked := once found verdict rfl said
      simp only [said, Option.all_some] at truth
      simp only
      split
      · trivial
      · rename_i final
        split
        · -- Another sum than was asked for: then it is another order's.
          rename_i differs
          simp only [Bool.not_eq_true'] at differs
          exact asked.resolve_right fun word => word.elim (· differs.1) (by simp [differs.2])
        · -- The verdict is what MTN's books hold, and asking has made it a report.
          intro _
          cases known : store.prompt found.request.reference with
          | none => simp [truthful, known] at truth
          | some prompt =>
            have listed : prompt ∈ store.prompts := List.mem_of_find?_eq_some known
            have refers : prompt.reference = found.request.reference := by
              simpa using List.find?_some known
            refine ⟨_, mem_execute_prompts.mpr (.inl ⟨prompt, listed, rfl⟩),
              (onPrompt_reference _ _).trans refers, ?_⟩
            simp only [truthful, known, Option.map_some] at truth
            cases state : prompt.state with
            | waiting => simp [state, final] at truth
            | settled amount currency =>
              simp only [state, Bool.and_eq_true, decide_eq_true_eq] at truth
              rw [if_pos truth.1.1]
              simp [Prompt.Collected, Statement.onPrompt, refers, state]
            | declined =>
              simp only [state, Bool.and_eq_true, decide_eq_true_eq] at truth
              rw [if_neg truth.2]
              simp [Prompt.dead, Statement.onPrompt, refers, state]
  | settle found verdict =>
    simp only [ReconcileCall.next]
    repeat' split
    all_goals trivial
  | mismatchRequest found verdict | selectRequest reference | mismatchOrder found
  | mismatchAudit found | failOrder found verdict | payOrder found | queuePayout found queuing
  | auditReceived found | done outcome =>
    simp only [ReconcileCall.next]
    repeat' split
    all_goals trivial

/-- A call that raises a request goes on knowing its own row. -/
theorem next_raises (inv : Collecting id store (call :: others)) :
    (call.next cfg store answer).2.Raises id ((call.next cfg store answer).1.execute store) := by
  have raises := (inv.honored call List.mem_cons_self).1
  cases call with
  | request call =>
    cases call with
    | selectOrder orderId payFrom requestedBy =>
      simp only [PaymentCall.next, RequestCall.next]
      repeat' split
      · trivial
      · trivial
      · trivial
      · rename_i charge decided
        intro mine
        -- The charge was decided from the fare the order has now.
        obtain ⟨same, amount⟩ := chargeFor_fare decided
        exact amount.trans (by rw [← same, mine]; exact (fare_execute _ _ _).symm)
    | selectPending charge =>
      simp only [PaymentCall.next, RequestCall.next]
      repeat' split
      · trivial
      · trivial
      · exact fun mine => (raises mine).trans (fare_execute _ _ _).symm
    | insertRequest charge =>
      simp only [PaymentCall.next, RequestCall.next]
      repeat' split
      · trivial
      · trivial
      · trivial
      · exact ⟨_, mem_execute_requests.mpr (.inr rfl), rfl, rfl, rfl, fun mine =>
          ⟨rfl, (raises mine).trans (fare_execute _ _ _).symm⟩⟩
    | requestToPay requestId reference charge =>
      obtain ⟨row, listed, same, refers, -⟩ := raises
      simp only [PaymentCall.next, RequestCall.next]
      -- Whatever MTN answers, the row that was inserted is there.
      have stays : ∀ statement : Statement, ∃ next ∈ (statement.execute store).requests,
          next.id = requestId ∧ next.reference = reference := fun statement =>
        have kept := onRequest_same statement store.now row
        ⟨_, mem_execute_requests.mpr (.inl ⟨row, listed, rfl⟩), kept.1.trans same,
          kept.2.2.1.trans refers⟩
      repeat' split
      · exact stays _
      · trivial
      · exact stays _
      · exact stays _
      · exact stays _
    | refuse | stampPending =>
      simp only [PaymentCall.next, RequestCall.next]
      split <;> trivial
    | done outcome => trivial
  | settlementRequest call =>
    cases call with
    | insertSettlement raised =>
      simp only [PaymentCall.next, SettlementRequestCall.next]
      repeat' split
      · trivial
      · trivial
      · intro row listed same
        rcases mem_execute_requests.mp listed with ⟨old, before, rfl⟩ | inserts
        · -- The reference is new, so no row of a fare has it.
          have drawn := (inv.drawn old before).2
          rw [(onRequest_same _ _ _).2.2.1] at same
          omega
        · cases inserts
    | _ =>
      simp only [PaymentCall.next, SettlementRequestCall.next]
      repeat' split
      all_goals trivial
  | _ => trivial

end Collecting

end Freight.Payment
