import Mathlib.Algebra.BigOperators.Group.List.Basic
import Mathlib.Tactic.Ring
import Freight.Payment.Collecting

/-! A customer is charged one fare, in every run that lets go of prompts only on MTN's word. -/

namespace Freight.Payment

namespace Collecting

variable {cfg : Config} {id : Nat} {store : Store} {answer : Answer}
  {call : PaymentCall} {others : List PaymentCall}

/-- Inserting a request adds it to the live ones of its own order only. -/
theorem liveRequests_insert (row : PaymentRequest) (pending : row.status = .pending) :
    (liveRequests id ((Statement.insertRequest row).execute store)).length =
      (liveRequests id store).length + if row.orderId = id then 1 else 0 := by
  -- The rows that were there are untouched, and the new one is pending.
  have rows : ((Statement.insertRequest row).execute store).requests = store.requests ++ [row] :=
    congrArg (· ++ [row]) (List.map_id'' (fun _ => rfl) store.requests)
  rw [liveRequests, rows, List.filter_append, List.length_append, liveRequests]
  by_cases mine : row.orderId = id <;> simp [mine, pending]

/-- Cash is recorded once at most, at the order's own price. -/
theorem takes_spec (keyed : Keyed store (call :: others)) (orderId : Nat) :
    ((Statement.takeCash orderId).takes store.orders).length ≤ 1 ∧
    ∀ entry ∈ (Statement.takeCash orderId).takes store.orders,
      entry.orderId = orderId ∧ entry.amount = fare orderId store := by
  constructor
  · simp only [Statement.takes, List.length_map]
    -- Ids are not repeated, so the UPDATE finds one row at most.
    have rows : ((store.orders.filter fun order => order.id = orderId ∧
        order.paymentStatus ≠ .paid).map Order.id).Nodup :=
      keyed.orders.sublist (List.filter_sublist.map _)
    have within : (store.orders.filter fun order => order.id = orderId ∧
        order.paymentStatus ≠ .paid).map Order.id ⊆ [orderId] := by
      intro one member
      obtain ⟨order, kept, rfl⟩ := List.mem_map.mp member
      have own := (List.mem_filter.mp kept).2
      simp only [decide_eq_true_eq] at own
      exact List.mem_singleton.mpr own.1
    simpa using (List.subperm_of_subset rows within).length_le
  · intro entry member
    simp only [Statement.takes, List.mem_map, List.mem_filter, decide_eq_true_eq] at member
    obtain ⟨order, ⟨listed, rfl, -⟩, rfl⟩ := member
    exact ⟨rfl, by simp [fare, keyed.order_of_mem listed]⟩

/-- Nothing is live where nothing has been collected. -/
theorem uncollected_iff : uncollected id store = true ↔
    (liveRequests id store).length = 0 ∧ (cashFor id store).length = 0 := by
  -- The test is that both lists are empty.
  simp [uncollected]

/-- Cash after a statement is what there was, and what the statement took. -/
theorem cashFor_execute (statement : Statement) : cashFor id (statement.execute store) =
    cashFor id store ++ (statement.takes store.orders).filter fun entry => entry.orderId = id := by
  -- The ledger grows at its end.
  simp [cashFor, Statement.execute]

/-- No step adds a second collection. -/
theorem next_live (inv : Collecting id store (call :: others))
    (once : call.collectsOnce cfg id store answer = true) :
    (liveRequests id ((call.next cfg store answer).1.execute store)).length +
      (cashFor id ((call.next cfg store answer).1.execute store)).length ≤ 1 := by
  have live := inv.live
  -- Only two statements collect anything: a new request, and cash.
  cases statement : (call.next cfg store answer).1 with
  | insertRequest row =>
    obtain ⟨charge, currency, rfl, rfl, none, -⟩ := inserted statement
    rw [liveRequests_insert _ rfl, cashFor, cash_execute store (by simp)]
    change _ + (if charge.orderId = id then 1 else 0) + (cashFor id store).length ≤ 1
    by_cases mine : charge.orderId = id
    · -- Nothing is pending, so the insert is admitted only where nothing has been collected.
      rw [mine] at none
      simp only [PaymentCall.collectsOnce, mine, none, Option.isSome_none, ne_eq, not_true_eq_false,
        decide_false, Bool.false_or, uncollected_iff] at once
      rw [if_pos mine]
      omega
    · rw [if_neg mine]
      omega
  | takeCash orderId =>
    have same : (liveRequests id ((Statement.takeCash orderId).execute store)).length ≤
        (liveRequests id store).length := liveRequests_execute_le id store (by simp)
    rw [cashFor_execute, List.length_append]
    obtain ⟨one, own⟩ := takes_spec inv.toKeyed orderId
    have kept := (@List.filter_sublist _ (fun entry : CashTaken => entry.orderId = id)
      ((Statement.takeCash orderId).takes store.orders)).length_le
    by_cases mine : orderId = id
    · -- The order is not paid yet, so cash is admitted only where nothing has been collected.
      have collects := call.collects_of_next (by rw [statement]; rfl)
      rw [statement] at collects
      generalize (call.next cfg store answer).2 = next at collects
      cases collects with
      | takeCash orderId collectedBy recorded order works found unpaid =>
        rw [mine] at found
        simp only [PaymentCall.collectsOnce, mine, found, Option.all_some, unpaid, ne_eq,
          not_true_eq_false, decide_false, Bool.false_or, uncollected_iff] at once
        omega
    · have none : ((Statement.takeCash orderId).takes store.orders).filter
          (fun entry => entry.orderId = id) = [] :=
        List.filter_eq_nil_iff.mpr fun entry member => by simp [(own entry member).1, mine]
      rw [none]
      simp only [List.length_nil]
      omega
  | _ =>
    rw [cashFor, cash_execute store (by simp)]
    exact (Nat.add_le_add_right (liveRequests_execute_le id store (by simp)) _).trans live

/-- Cash is taken at the fare. -/
theorem next_taken (inv : Collecting id store (call :: others)) :
    ∀ entry ∈ cashFor id ((call.next cfg store answer).1.execute store),
      entry.amount = fare id store := by
  intro entry member
  rw [cashFor_execute] at member
  -- Cash was taken before at the fare, or it is taken now.
  rcases List.mem_append.mp member with before | new
  · exact inv.taken entry before
  · obtain ⟨new, mine⟩ := List.mem_filter.mp new
    simp only [decide_eq_true_eq] at mine
    cases statement : (call.next cfg store answer).1 with
    | takeCash orderId =>
      rw [statement] at new
      obtain ⟨own, amount⟩ := (takes_spec inv.toKeyed orderId).2 entry new
      rw [amount, ← own, mine]
    | _ =>
      rw [statement] at new
      cases new

/-- A prompt goes out for a commission, or for the fare of a request that is on record. -/
theorem sent (inv : Collecting id store (call :: others)) {prompt : Prompt}
    (sends : (call.next cfg store answer).1 = .accept prompt) :
    prompt.state = .waiting ∧
    ((prompt.orderId = none ∧ ∀ row ∈ store.requests, row.reference ≠ prompt.reference) ∨
    ∃ row ∈ store.requests, row.reference = prompt.reference ∧ prompt.orderId = some row.orderId ∧
      (row.orderId = id → row.status = .pending ∧ prompt.amount = fare id store)) := by
  have raises := (inv.honored call List.mem_cons_self).1
  have collects := call.collects_of_next (by rw [sends]; rfl)
  rw [sends] at collects
  generalize (call.next cfg store answer).2 = next at collects
  -- The call that sends has its row on record, with the fare as its amount.
  cases collects with
  | accept requestId reference charge currency | lose requestId reference charge currency =>
    obtain ⟨row, listed, -, refers, order, pending⟩ := raises
    exact ⟨rfl, .inr ⟨row, listed, refers, congrArg some order.symm, fun mine =>
      pending (order ▸ mine)⟩⟩
  | acceptCommission => exact ⟨rfl, .inl ⟨rfl, raises⟩⟩

/-- Prompts stay for the fare, and for some request of the order's own. -/
theorem next_named (inv : Collecting id store (call :: others))
    (once : call.collectsOnce cfg id store answer = true) :
    ∀ prompt ∈ ((call.next cfg store answer).1.execute store).prompts, prompt.orderId = some id →
      prompt.amount = fare id store ∧
        ∃ row ∈ ((call.next cfg store answer).1.execute store).requests,
          row.reference = prompt.reference ∧ row.orderId = id := by
  intro prompt listed mine
  -- A request of the order stays one.
  have stays : ∀ row ∈ store.requests, row.orderId = id → ∃ next ∈
      ((call.next cfg store answer).1.execute store).requests,
      next.reference = row.reference ∧ next.orderId = id := fun row listed mine =>
    have ⟨next, still, _, refers, order, _⟩ := (inv.carries once).rows row listed
    ⟨next, still, refers, order.trans mine⟩
  rcases mem_execute_prompts.mp listed with ⟨old, before, rfl⟩ | sends
  · have same := onPrompt_same (call.next cfg store answer).1 old
    rw [same.1] at mine
    obtain ⟨amount, row, there, refers, order⟩ := inv.named old before mine
    obtain ⟨next, still, reference, order⟩ := stays row there order
    exact ⟨same.2.1.trans amount, next, still, by simp [reference, refers], order⟩
  · rcases (inv.sent sends).2 with ⟨none, -⟩ | ⟨row, there, refers, order, amount⟩
    · simp [none] at mine
    · have own : row.orderId = id := Option.some.inj (order.symm.trans mine)
      obtain ⟨next, still, reference, order⟩ := stays row there own
      exact ⟨(amount own).2, next, still, reference.trans refers, order⟩

/-- A request of the order's own stays unresolved until MTN has said how its prompt ended. -/
theorem next_resolved (inv : Collecting id store (call :: others))
    (once : call.collectsOnce cfg id store answer = true) :
    ∀ prompt ∈ ((call.next cfg store answer).1.execute store).prompts,
      ∀ row ∈ ((call.next cfg store answer).1.execute store).requests,
        row.reference = prompt.reference → row.orderId = id →
          row.status = .pending ∨ row.status = .successful ∧ prompt.Collected ∨
            prompt.dead = true := by
  intro prompt listed row stored refers mine
  rcases mem_execute_requests.mp stored with ⟨old, before, rfl⟩ | inserts
  · have same := onRequest_same (call.next cfg store answer).1 store.now old
    rw [same.2.1] at mine
    rw [same.2.2.1] at refers
    rcases mem_execute_prompts.mp listed with ⟨known, earlier, rfl⟩ | sends
    · rw [onPrompt_reference] at refers
      -- The request is left as it is, or resolved by what MTN said of its prompt.
      rcases inv.onRequest_cases once before mine with still | ⟨-, ⟨succeeded, paid⟩ | dead⟩
      · rw [still]
        rcases inv.resolved known earlier old before refers mine with pending | ⟨paid, word⟩ | dead
        · exact .inl pending
        · exact .inr (.inl ⟨paid, word.onPrompt _⟩)
        · exact .inr (.inr (Prompt.dead_onPrompt dead _))
      · obtain ⟨other, also, reference, paid⟩ := paid
        rw [inv.same_prompt also earlier (reference.trans refers)] at paid
        exact .inr (.inl ⟨succeeded, paid.onPrompt _⟩)
      · exact .inr (.inr (Prompt.dead_onPrompt (dead known earlier refers.symm) _))
    · -- A prompt that has just gone out has a pending request behind it.
      refine .inl ?_
      rcases (inv.sent sends).2 with ⟨-, nobody⟩ | ⟨own, there, reference, -, pending⟩
      · exact absurd refers (nobody old before)
      · rw [sends]
        have own_eq : old = own := inv.same_reference before there (refers.trans reference.symm)
        exact own_eq ▸ (pending (own_eq ▸ mine)).1
  · -- Nobody has sent what has just been drawn.
    obtain ⟨charge, currency, -, rfl, -⟩ := inserted inserts
    exact .inl rfl

/-- What a call raises next is what it was raising, or has just been drawn. -/
theorem next_raising (cfg : Config) (store : Store) (answer : Answer) (call : PaymentCall) :
    ((call.next cfg store answer).2.raising).Sublist call.raising ∨
    ((call.next cfg store answer).2.raising = [store.nextId] ∧
      ((call.next cfg store answer).1.execute store).nextId = store.nextId + 1) := by
  cases call with
  | request call =>
    cases call with
    | insertRequest charge =>
      simp only [PaymentCall.next, RequestCall.next]
      repeat' split
      · exact .inl (List.nil_sublist _)
      · exact .inl (List.nil_sublist _)
      · exact .inl (List.nil_sublist _)
      · exact .inr ⟨rfl, rfl⟩
    | requestToPay requestId reference charge =>
      -- Its reference stays with the call until the prompt is out.
      refine .inl ?_
      simp only [PaymentCall.next, RequestCall.next]
      repeat' split
      · exact List.Sublist.refl _
      · exact List.nil_sublist _
      · exact List.Sublist.refl _
      · exact List.Sublist.refl _
      · exact List.Sublist.refl _
    | done outcome => exact .inl (List.nil_sublist _)
    | _ =>
      refine .inl ?_
      simp only [PaymentCall.next, RequestCall.next]
      repeat' split
      all_goals exact List.nil_sublist _
  | _ => exact .inl (List.nil_sublist _)

/-- Requests stay raised by one call each. -/
theorem next_raised (inv : Collecting id store (call :: others)) :
    (((call.next cfg store answer).2 :: others).flatMap PaymentCall.raising).Nodup ∧
    ∀ reference ∈ ((call.next cfg store answer).2 :: others).flatMap PaymentCall.raising,
      reference < ((call.next cfg store answer).1.execute store).nextId := by
  have raised := inv.raised
  have drawn := inv.raisedDrawn
  have grows := nextId_le_execute (call.next cfg store answer).1 store
  rw [List.flatMap_cons] at raised drawn ⊢
  rcases next_raising cfg store answer call with less | ⟨new, next⟩
  · -- A call that gives its reference up leaves fewer.
    have kept := less.append_right (others.flatMap PaymentCall.raising)
    exact ⟨raised.sublist kept, fun reference member =>
      (drawn reference (kept.subset member)).trans_le grows⟩
  · rw [new, next, List.singleton_append]
    -- A reference that is drawn now is behind every one that was drawn before.
    refine ⟨List.nodup_cons.mpr ⟨fun member => ?_, (List.nodup_append.mp raised).2.1⟩,
      fun reference member => ?_⟩
    · exact lt_irrefl _ (drawn _ (List.mem_append_right _ member))
    · rcases List.mem_cons.mp member with rfl | old
      · exact Nat.lt_succ_self _
      · exact Nat.lt_succ_of_lt (drawn reference (List.mem_append_right _ old))

/-- The call that moves knows what it is about to do next. -/
theorem next_honors (inv : Collecting id store (call :: others))
    (told : call.toldTruly store answer = true)
    (once : call.collectsOnce cfg id store answer = true) :
    (call.next cfg store answer).2.Honors id ((call.next cfg store answer).1.execute store) := by
  refine ⟨inv.next_raises, fun inner settling => ?_⟩
  rcases call.next_cases cfg store answer with ⟨now, own, statement, next⟩ | ⟨-, begins⟩
  · rw [next] at settling
    cases settling
    rw [statement]
    -- The call is settling a request: what MTN said of it was fair, and it collects once.
    refine next_reconcile ?_ ?_
    · rintro found rfl
      simpa [PaymentCall.toldTruly, PaymentCall.asking, own] using told
    · rintro found verdict rfl said
      cases call with
      | reconcile inner =>
        cases own
        simpa [PaymentCall.collectsOnce, PaymentCall.reconciling, said, or_assoc] using once
      | sweep call =>
        cases call with
        | settling row rest tally inner =>
          cases own
          simpa [PaymentCall.collectsOnce, PaymentCall.reconciling, said, or_assoc] using once
        | _ => cases own
      | _ => cases own
  · -- The call has just begun to settle, and has asked for nothing yet.
    rcases begins inner settling with ⟨reference, rfl⟩ | ⟨outcome, rfl⟩ <;> trivial

/-- A prompt is answered while it waits, or stays as it is. -/
theorem answered_cases (prompt : Prompt) (reference : Nat) (state : PromptState) :
    prompt.answered reference state = prompt ∨ prompt.state = .waiting ∧
      prompt.reference = reference ∧ prompt.answered reference state = { prompt with state := state } := by
  -- Its reference is the one that is answered and it waits, or nothing happens to it.
  simp only [Prompt.answered]
  split
  · rename_i open_
    exact .inr ⟨open_.2, open_.1, rfl⟩
  · exact .inl rfl

/-- An answer as the prompt asked breaks nothing. -/
theorem answered (inv : Collecting id store others) (reference : Nat) {state : PromptState}
    (fair : ∀ prompt ∈ store.prompts, prompt.reference = reference →
      ∀ amount currency, state = .settled amount currency → amount = prompt.amount) :
    Collecting id { store with
      prompts := store.prompts.map fun prompt => prompt.answered reference state } others := by
  have same : ∀ prompt : Prompt, (prompt.answered reference state).orderId = prompt.orderId ∧
      (prompt.answered reference state).amount = prompt.amount := fun prompt => by
    rcases answered_cases prompt reference state with same | ⟨-, -, same⟩ <;> simp [same]
  have carries : Carries id (unsentReferences others) store { store with
      prompts := store.prompts.map fun prompt => prompt.answered reference state } := by
    refine ⟨rfl, fun row listed => ⟨row, listed, rfl, rfl, rfl, fun _ _ pending => pending⟩,
      fun next listed => .inl ⟨next, listed, rfl⟩, fun prompt listed => ?_⟩
    refine ⟨_, List.mem_map_of_mem listed, answered_reference _ _ _, ?_⟩
    -- What MTN has reported no longer waits for an answer.
    rcases answered_cases prompt reference state with same | ⟨waiting, -, -⟩
    · simp [same]
    · simp [Prompt.Collected, Prompt.dead, waiting]
  refine { inv with
    fresh := by simpa [Function.comp_def] using inv.fresh
    undrawn := by simpa [Function.comp_def] using inv.undrawn
    named := ?_, settled := ?_, resolved := ?_
    honored := fun one member => (inv.honored one member).carry carries fun reference unsent =>
      List.mem_flatMap.mpr ⟨one, member, unsent⟩ }
  -- An answer changes neither whose prompt it is nor what it asks for.
  · simp only [List.forall_mem_map, (same _).1, (same _).2, answered_reference]
    exact inv.named
  · simp only [List.forall_mem_map]
    intro prompt listed amount currency
    rcases answered_cases prompt reference state with same | ⟨-, refers, same⟩ <;> rw [same]
    · exact inv.settled prompt listed amount currency
    · exact fair prompt listed refers amount currency
  · simp only [List.forall_mem_map, answered_reference]
    intro prompt listed row stored refers mine
    rcases answered_cases prompt reference state with same | ⟨waiting, -, -⟩
    · rw [same]
      exact inv.resolved prompt listed row stored refers mine
    · rcases inv.resolved prompt listed row stored refers mine with pending | ⟨-, word⟩ | dead
      · exact .inl pending
      · obtain ⟨-, amount, currency, settled⟩ := word
        simp [waiting] at settled
      · simp [Prompt.dead, waiting] at dead

end Collecting

/-- Every event that meets the condition keeps what has to hold of the calls in flight. -/
theorem collecting_keeps (cfg : Config) (id : Nat) :
    (services cfg).Keeps (Collecting id) fun pool event =>
      mtnFair pool event = true ∧ collectsOnce cfg id pool event = true where
  perm same inv :=
    have raised := same.flatMap_right PaymentCall.raising
    { inv with
      toKeyed := (keyed_keeps cfg).perm same inv.toKeyed
      raised := raised.nodup_iff.mp inv.raised
      raisedDrawn := fun reference member => inv.raisedDrawn reference (raised.mem_iff.mpr member)
      honored := fun one member => inv.honored one (same.mem_iff.mpr member) }
  moves := by
    intro pool index answer call others taken inv admitted
    -- What the event is admitted for is asked of the call that steps.
    have told : call.toldTruly pool.shared answer = true := by
      simpa [mtnFair, taken.found] using admitted.1
    have once : call.collectsOnce cfg id pool.shared answer = true := by
      simpa [collectsOnce, taken.found] using admitted.2
    have carries := inv.carries once
    have raised := @Collecting.next_raised cfg _ _ answer _ _ inv
    change Collecting id ((call.next cfg pool.shared answer).1.execute pool.shared)
      ((call.next cfg pool.shared answer).2 :: others)
    refine { toKeyed := (keyed_keeps cfg).moves taken inv.toKeyed trivial
             live := inv.next_live once, asked := ?_, taken := ?_, named := ?_, settled := ?_
             resolved := inv.next_resolved once, raised := raised.1, raisedDrawn := raised.2
             honored := ?_ }
    · intro row listed mine
      rw [fare_execute]
      rcases mem_execute_requests.mp listed with ⟨old, before, rfl⟩ | inserts
      · have same := onRequest_same (call.next cfg pool.shared answer).1 pool.shared.now old
        exact same.2.2.2.1.trans (inv.asked old before (same.2.1 ▸ mine))
      · obtain ⟨charge, currency, rfl, rfl, -⟩ := inserted inserts
        exact (inv.honored _ List.mem_cons_self).1 mine
    · rw [fare_execute]
      exact inv.next_taken
    · rw [fare_execute]
      exact inv.next_named once
    · intro prompt listed amount currency
      rcases mem_execute_prompts.mp listed with ⟨old, before, rfl⟩ | sends
      · have same := onPrompt_same (call.next cfg pool.shared answer).1 old
        rw [same.2.1, same.2.2.1]
        exact inv.settled old before amount currency
      · simp [(inv.sent sends).1]
    · intro one member
      rcases List.mem_cons.mp member with rfl | other
      · exact inv.next_honors told once
      · exact (inv.honored one (List.mem_cons_of_mem _ other)).carry carries fun reference unsent =>
          List.mem_flatMap.mpr ⟨one, other, unsent⟩
  arrives := by
    intro pool entry inv _
    -- A call that has just begun raises nothing and has been told nothing.
    have nothing : entry.start.raising = [] ∧ entry.start.Honors id pool.shared := by
      refine ⟨by cases entry <;> rfl, by cases entry <;> trivial, fun inner settling => ?_⟩
      cases entry with
      | reconcilePaymentRequest reference =>
        cases settling
        trivial
      | _ => cases settling
    refine { inv with
      toKeyed := (keyed_keeps cfg).arrives inv.toKeyed trivial
      raised := ?_, raisedDrawn := ?_, honored := ?_ }
    · simpa [services, nothing.1] using inv.raised
    · simpa [services, nothing.1] using inv.raisedDrawn
    · exact List.forall_mem_cons.mpr ⟨nothing.2, inv.honored⟩
  stops := by
    intro pool index call others found inv _
    -- A call that is cut off takes what it was raising with it.
    have fewer : ((PaymentCall.stopped :: others).flatMap PaymentCall.raising).Sublist
        ((call :: others).flatMap PaymentCall.raising) := by
      rw [List.flatMap_cons, List.flatMap_cons]
      exact List.sublist_append_right _ _
    refine { inv with
      toKeyed := (keyed_keeps cfg).stops found inv.toKeyed trivial
      raised := inv.raised.sublist fewer
      raisedDrawn := fun reference member => inv.raisedDrawn reference (fewer.subset member)
      honored := ?_ }
    exact List.forall_mem_cons.mpr ⟨⟨trivial, fun inner settling => by cases settling⟩,
      (List.forall_mem_cons.mp inv.honored).2⟩
  happens := by
    intro pool event inv admitted _
    cases event with
    | settle reference amount currency =>
      refine inv.answered reference fun prompt listed refers settled currency' same => ?_
      cases same
      -- MTN settles a prompt for what was asked.
      have fair := admitted.1
      simp only [mtnFair, List.all_eq_true, Bool.or_eq_true, decide_eq_true_eq,
        Bool.and_eq_true] at fair
      exact ((fair prompt listed).resolve_left (not_not.mpr refers)).1.symm
    | decline reference =>
      exact inv.answered reference fun prompt listed refers settled currency same => by cases same
    | wait duration =>
      exact { inv with }
    | updateOrderStatus | confirmDelivery => simp [mtnFair] at admitted

/-- The prompt has moved money. -/
def Prompt.hasMoved (prompt : Prompt) : Bool :=
  match prompt.state with
  | .settled _ _ => true
  | .waiting | .declined => false

/-- What prompts for one sum have moved is that sum, as often as one of them was paid. -/
theorem sum_moved {prompts : List Prompt} {amount : ℚ}
    (settled : ∀ prompt ∈ prompts, prompt.SettledAsAsked)
    (same : ∀ prompt ∈ prompts, prompt.amount = amount) :
    (prompts.map Prompt.moved).sum = (prompts.filter Prompt.hasMoved).length * amount := by
  -- Each prompt that was paid adds the sum, and the others nothing.
  induction prompts with
  | nil => simp
  | cons prompt rest ih =>
    have tail := ih (fun other member => settled other (List.mem_cons_of_mem _ member))
      (fun other member => same other (List.mem_cons_of_mem _ member))
    cases state : prompt.state with
    | settled paid currency =>
      have own : paid = amount :=
        (settled prompt List.mem_cons_self paid currency state).trans (same prompt List.mem_cons_self)
      simp only [List.map_cons, List.sum_cons, tail, Prompt.moved, state, own, Prompt.hasMoved,
        List.filter_cons_of_pos, List.length_cons, Nat.cast_succ]
      ring
    | waiting | declined => simp [tail, Prompt.moved, Prompt.hasMoved, state]

/-- Cash taken at one sum comes to that sum, as often as it was taken. -/
theorem sum_taken {entries : List CashTaken} {amount : ℚ}
    (same : ∀ entry ∈ entries, entry.amount = amount) :
    (entries.map CashTaken.amount).sum = entries.length * amount := by
  -- All the terms are one and the same.
  rw [List.map_congr_left same, List.map_const', List.sum_replicate, nsmul_eq_mul]

namespace Collecting

variable {id : Nat} {store : Store} {calls : List PaymentCall}

/-- A prompt that has not been declined has a live request behind it. -/
theorem open_le_live (inv : Collecting id store calls) {kind : Prompt → Bool}
    (alive : ∀ prompt, kind prompt = true → prompt.state ≠ .declined) :
    ((faresPrompted id store).filter kind).length ≤ (liveRequests id store).length := by
  have references : (((faresPrompted id store).filter kind).map Prompt.reference).Nodup :=
    (List.nodup_append.mp inv.fresh).2.1.sublist
      ((List.filter_sublist.trans List.filter_sublist).map _)
  -- Each has its request, which is live, and no two have one reference.
  have within : ((faresPrompted id store).filter kind).map Prompt.reference ⊆
      (liveRequests id store).map PaymentRequest.reference := by
    intro reference member
    obtain ⟨prompt, kept, rfl⟩ := List.mem_map.mp member
    obtain ⟨fares, kind⟩ := List.mem_filter.mp kept
    obtain ⟨listed, mine⟩ := List.mem_filter.mp fares
    obtain ⟨-, row, stored, refers, own⟩ := inv.named prompt listed (by simpa using mine)
    refine refers ▸ List.mem_map_of_mem (List.mem_filter.mpr ⟨stored, ?_⟩)
    rcases inv.resolved prompt listed row stored refers own with pending | ⟨paid, -⟩ | dead
    · simp [own, pending]
    · simp [own, paid]
    · simp only [Prompt.dead, Bool.and_eq_true, decide_eq_true_eq] at dead
      exact absurd dead.2 (alive prompt kind)
  simpa using (List.subperm_of_subset references within).length_le

/-- What holds of the calls in flight bounds what the customer is charged. -/
theorem collectedOnce (inv : Collecting id store calls) : CollectedOnce id store where
  released := by
    intro row stored mine released prompt listed refers
    -- A request that is no longer pending has been answered, or its prompt is dead.
    rcases inv.resolved prompt listed row stored refers.symm mine with pending | ⟨-, word⟩ | dead
    · exact absurd pending released
    · obtain ⟨reported, amount, currency, settled⟩ := word
      exact ⟨reported, by simp [settled]⟩
    · simp only [Prompt.dead, Bool.and_eq_true, decide_eq_true_eq] at dead
      exact ⟨dead.1, by simp [dead.2]⟩
  onePrompt := by
    refine (inv.open_le_live fun prompt waiting => ?_).trans (Nat.le_of_add_right_le inv.live)
    simp only [decide_eq_true_eq] at waiting
    simp [waiting]
  oneFare := by
    have paid : ((faresPrompted id store).filter Prompt.hasMoved).length ≤
        (liveRequests id store).length := inv.open_le_live fun prompt moved declined => by
      simp [Prompt.hasMoved, declined] at moved
    have live := inv.live
    -- Each prompt that was paid moved one fare.
    have prompted := @sum_moved (faresPrompted id store) (fare id store)
      (fun prompt member => inv.settled prompt (List.mem_filter.mp member).1) fun prompt member =>
        (inv.named prompt (List.mem_filter.mp member).1 (by simpa using (List.mem_filter.mp member).2)).1
    rw [collectedFor, prompted, sum_taken inv.taken]
    -- One prompt was paid, or cash was taken, or neither: never both.
    rcases Nat.le_one_iff_eq_zero_or_eq_one.mp (by omega :
      ((faresPrompted id store).filter Prompt.hasMoved).length + (cashFor id store).length ≤ 1)
      with none | one
    · obtain ⟨unpaid, untaken⟩ := Nat.add_eq_zero_iff.mp none
      exact .inl (by simp [unpaid, untaken])
    · refine .inr ?_
      rw [← add_mul, ← Nat.cast_add, one]
      simp

end Collecting

/-- With nothing collected and no call in flight, everything that has to hold does. -/
theorem collecting_start (id : Nat) {orders : List Order} (distinct : (orders.map Order.id).Nodup)
    (nextId : Nat) : Collecting id { orders := orders, nextId := nextId } [] where
  -- There is no request, no prompt and no call to speak of.
  orders := distinct
  requests := List.nodup_nil
  references := List.nodup_nil
  drawn := by simp
  fresh := List.nodup_nil
  undrawn := by simp [unsentReferences]
  backed := by simp
  live := by simp [liveRequests, cashFor]
  asked := by simp
  taken := by simp [cashFor]
  named := by simp
  settled := by simp
  resolved := by simp
  raised := List.nodup_nil
  raisedDrawn := by simp
  honored := by simp

/-- In every run that lets go of prompts only on MTN's word, the customer pays one fare at most. -/
theorem collected_once {cfg : Config} {id : Nat} {orders : List Order} {nextId : Nat}
    {events : List PaymentEvent} (distinct : (orders.map Order.id).Nodup)
    (along : Along (services cfg).step (fun pool event =>
      mtnFair pool event = true ∧ collectsOnce cfg id pool event = true)
      { shared := { orders := orders, nextId := nextId }, calls := [] } events) :
    Throughout (services cfg).step (fun pool => CollectedOnce id pool.shared)
      { shared := { orders := orders, nextId := nextId }, calls := [] } events :=
  -- At the start nothing has been collected.
  ((collecting_keeps cfg id).throughout (collecting_start id distinct nextId) along).mono
    fun _ inv => inv.collectedOnce

/-- A prompt is declined, a second one is paid, and the sweep looks on. -/
def askedTwice : List PaymentEvent :=
  [.call (.requestPaymentForOrder 1 none none), .run 0 {}, .run 0 {}, .run 0 {}, .run 0 {}, .run 0 {},
    .outside (.decline 1), .call (.reconcilePaymentRequest 1), .run 1 {},
    .run 1 { verdict := some { status := .other "REJECTED" } }, .run 1 {}, .run 1 {},
    .call (.requestPaymentForOrder 1 none none), .run 2 {}, .run 2 {}, .run 2 {}, .run 2 {}, .run 2 {},
    .outside (.settle 2 1000 ['R', 'W', 'F']), .call .sweepPendingPayments, .run 3 {}, .run 3 {},
    .run 3 { verdict := some collected }, .run 3 {}, .run 3 {}]

/-- A customer who declines once and pays once pays one fare. -/
theorem collected_once_askedTwice :
    Throughout (services .kigali).step (fun pool => CollectedOnce 1 pool.shared)
      oneAtTheDoor askedTwice ∧
      collectedFor 1 (run (services .kigali).step oneAtTheDoor askedTwice).shared = 1000 :=
  ⟨collected_once (by decide) (by decide +kernel), by decide +kernel⟩

/-- The response to a prompt is lost, a second prompt goes out, and both are paid. -/
def paidTwice : List PaymentEvent :=
  [.call (.requestPaymentForOrder 1 none none), .run 0 {}, .run 0 {}, .run 0 {},
    .run 0 { prompt := .lost }, .run 0 {},
    .call (.requestPaymentForOrder 1 none none), .run 1 {}, .run 1 {}, .run 1 {}, .run 1 {}, .run 1 {},
    .outside (.settle 1 1000 ['R', 'W', 'F']), .outside (.settle 2 1000 ['R', 'W', 'F'])]

/-- A lost response costs the customer a second fare. -/
theorem collected_twice :
    ¬ ∀ (cfg : Config) (id : Nat) (orders : List Order) (nextId : Nat) (events : List PaymentEvent),
      (orders.map Order.id).Nodup →
      Along (services cfg).step (fun pool event => mtnFair pool event = true)
        { shared := { orders := orders, nextId := nextId }, calls := [] } events →
      Throughout (services cfg).step (fun pool => CollectedOnce id pool.shared)
        { shared := { orders := orders, nextId := nextId }, calls := [] } events := by
  intro always
  have once := (always .kigali 1 [atTheDoor] 1 paidTwice (by decide) (by decide +kernel)).last.oneFare
  -- Neither nothing nor one fare has been collected.
  have both : ¬ (collectedFor 1 (run (services .kigali).step oneAtTheDoor paidTwice).shared = 0 ∨
      collectedFor 1 (run (services .kigali).step oneAtTheDoor paidTwice).shared =
        fare 1 (run (services .kigali).step oneAtTheDoor paidTwice).shared) := by
    decide +kernel
  exact both once

end Freight.Payment
