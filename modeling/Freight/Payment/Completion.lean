import Freight.Payment.Progress

/-! Every successful request is complete, or some call is completing it. -/

namespace Freight.Payment

/--
Every successful request is being completed by one call, or has its payout.

Orders nothing is owed on are let off, whichever those are.
-/
structure Completion (cfg : Config) (skips : Nat → Prop) (store : Store) (calls : List PaymentCall) :
    Prop extends Keyed store calls where
  /-- No request is completed by two calls. -/
  apart : (calls.filterMap PaymentCall.completing).Nodup
  /-- What is being completed has been resolved. -/
  resolved : ∀ call ∈ calls, ∀ id, call.completing = some id →
    ∃ row ∈ store.requests, row.id = id ∧ row.status ≠ .pending
  /-- The earning being queued is the found order's. -/
  earned : ∀ call ∈ calls, call.Earned cfg
  /-- No request has two payouts. -/
  once : (store.payouts.filterMap DriverPayout.paymentRequestId).Nodup
  /-- A request with a payout has been resolved, and nobody is completing it any more. -/
  committed : ∀ payout ∈ store.payouts, ∀ id, payout.paymentRequestId = some id →
    (∀ call ∈ calls, call.completing ≠ some id) ∧
      ∃ row ∈ store.requests, row.id = id ∧ row.status ≠ .pending ∧ payout.orderId = some row.orderId
  /-- A successful request is being completed, or has its payout. -/
  whole : ∀ row ∈ store.requests, row.status = .successful →
    (∃ call ∈ calls, call.completing = some row.id) ∨
      (∃ payout ∈ store.payouts, payout.paymentRequestId = some row.id) ∨ skips row.orderId

namespace Completion

variable {cfg : Config} {skips : Nat → Prop} {store : Store} {call next : PaymentCall}
  {others : List PaymentCall} {statement : Statement}

/-- A resolved row stays one. -/
theorem resolved_execute {id : Nat} (statement : Statement)
    (resolved : ∃ row ∈ store.requests, row.id = id ∧ row.status ≠ .pending) :
    ∃ row ∈ (statement.execute store).requests, row.id = id ∧ row.status ≠ .pending := by
  -- A row that is not pending is never written to again.
  obtain ⟨row, listed, same, settled⟩ := resolved
  exact ⟨_, mem_execute_requests.mpr (.inl ⟨row, listed, rfl⟩),
    (onRequest_same _ _ _).1.trans same, onRequest_settled settled⟩

/-- A row after a statement that is no verdict was as successful before it. -/
theorem successful_execute {row : PaymentRequest}
    (fresh : ∀ row, statement = .insertRequest row → row.status = .pending)
    (other : ∀ id transactionId reason,
      statement ≠ .resolveRequest id .successful transactionId reason)
    (listed : row ∈ (statement.execute store).requests) (succeeds : row.status = .successful) :
    ∃ old ∈ store.requests, old.status = .successful ∧ old.id = row.id ∧ old.orderId = row.orderId := by
  -- It is an old row that was successful, or one that a verdict makes so, or a new one, which is pending.
  rcases mem_execute_requests.mp listed with ⟨old, before, rfl⟩ | inserts
  · rcases onRequest_successful succeeds with was | ⟨-, transactionId, reason, same⟩
    · exact ⟨old, before, was, (onRequest_same _ _ _).1.symm, (onRequest_same _ _ _).2.1.symm⟩
    · exact absurd same (other _ _ _)
  · simp [fresh row inserts] at succeeds

/-- A step that marks nothing successful and commits nothing leaves every request as complete as it was. -/
theorem quiet (inv : Completion cfg skips store (call :: others))
    (keyed : Keyed (statement.execute store) (next :: others))
    (fresh : ∀ row, statement = .insertRequest row → row.status = .pending)
    (uncommitted : ∀ payout cleared, statement ≠ .commitPayout payout cleared)
    (other : ∀ id transactionId reason,
      statement ≠ .resolveRequest id .successful transactionId reason)
    (earned : next.Earned cfg)
    (same : next.completing = call.completing ∨ next.completing = none ∧
      ∀ row ∈ store.requests, call.completing = some row.id → skips row.orderId) :
    Completion cfg skips (statement.execute store) (next :: others) := by
  -- Whoever completes a request afterwards completed it before.
  have was : ∀ one ∈ next :: others, ∀ id, one.completing = some id →
      ∃ before ∈ call :: others, before.completing = some id := by
    intro one member id completes
    rcases List.mem_cons.mp member with rfl | other
    · rcases same with same | ⟨none, -⟩
      · exact ⟨call, List.mem_cons_self, same ▸ completes⟩
      · rw [none] at completes
        cases completes
    · exact ⟨one, List.mem_cons_of_mem _ other, completes⟩
  refine { toKeyed := keyed, apart := ?_, resolved := ?_, earned := ?_, once := ?_, committed := ?_
           whole := ?_ }
  · have apart := inv.apart
    rcases same with same | ⟨none, -⟩
    · rwa [List.filterMap_cons, same, ← List.filterMap_cons]
    · rw [List.filterMap_cons, none]
      exact apart.sublist ((List.sublist_cons_self _ _).filterMap _)
  -- A request that is being completed was resolved before the step.
  · intro one member id completes
    obtain ⟨before, member, completes⟩ := was one member id completes
    exact resolved_execute _ (inv.resolved before member id completes)
  · intro one member
    rcases List.mem_cons.mp member with rfl | other
    · exact earned
    · exact inv.earned one (List.mem_cons_of_mem _ other)
  · rw [execute_payouts store uncommitted]
    exact inv.once
  · rw [execute_payouts store uncommitted]
    intro payout listed id same
    obtain ⟨nobody, row, there, own, settled, order⟩ := inv.committed payout listed id same
    refine ⟨fun one member completes => ?_, _, mem_execute_requests.mpr (.inl ⟨row, there, rfl⟩),
      (onRequest_same _ _ _).1.trans own, onRequest_settled settled, ?_⟩
    · obtain ⟨before, member, completes⟩ := was one member id completes
      exact nobody before member completes
    · rw [order, (onRequest_same _ _ _).2.1]
  · rw [execute_payouts store uncommitted]
    -- And a successful one is being completed, has its payout, or was passed over.
    intro row listed succeeds
    obtain ⟨old, there, was, own, order⟩ := successful_execute fresh other listed succeeds
    rw [← own, ← order]
    rcases inv.whole old there was with ⟨one, member, completes⟩ | done
    · rcases List.mem_cons.mp member with rfl | other
      · rcases same with same | ⟨-, skipped⟩
        · exact .inl ⟨next, List.mem_cons_self, same.trans completes⟩
        · exact .inr (.inr (skipped old there completes))
      · exact .inl ⟨one, List.mem_cons_of_mem _ other, completes⟩
    · exact .inr done

/-- Committing a payout completes its request. -/
theorem commits (inv : Completion cfg skips store (call :: others)) {payout : DriverPayout}
    {cleared : List Nat} {id : Nat}
    (keyed : Keyed ((Statement.commitPayout payout cleared).execute store) (next :: others))
    (completing : call.completing = some id) (ended : next.completing = none)
    (own : payout.paymentRequestId = some id)
    (order : ∀ row ∈ store.requests, row.id = id → payout.orderId = some row.orderId)
    (earned : next.Earned cfg) :
    Completion cfg skips ((Statement.commitPayout payout cleared).execute store) (next :: others) := by
  have payouts : ((Statement.commitPayout payout cleared).execute store).payouts =
      store.payouts ++ [payout] := rfl
  have requests : ((Statement.commitPayout payout cleared).execute store).requests = store.requests := by
    rw [execute_requests store (by simp)]
    exact List.map_id'' (fun _ => rfl) _
  have apart := inv.apart
  rw [List.filterMap_cons, completing] at apart
  -- Nobody else was completing the request.
  have nobody : ∀ one ∈ next :: others, one.completing ≠ some id := by
    intro one member completes
    rcases List.mem_cons.mp member with rfl | other
    · rw [ended] at completes
      cases completes
    · exact (List.nodup_cons.mp apart).1 (List.mem_filterMap.mpr ⟨one, other, completes⟩)
  refine { toKeyed := keyed, apart := ?_, resolved := ?_, earned := ?_, once := ?_, committed := ?_
           whole := ?_ }
  · rw [List.filterMap_cons, ended]
    exact (List.nodup_cons.mp apart).2
  · rw [requests]
    intro one member key completes
    rcases List.mem_cons.mp member with rfl | other
    · rw [ended] at completes
      cases completes
    · exact inv.resolved one (List.mem_cons_of_mem _ other) key completes
  · intro one member
    rcases List.mem_cons.mp member with rfl | other
    · exact earned
    · exact inv.earned one (List.mem_cons_of_mem _ other)
  · rw [payouts, List.filterMap_append, List.filterMap_cons, own]
    refine List.nodup_append.mpr ⟨inv.once, by simp, fun key listed other new same => ?_⟩
    -- The call was completing the request, so it had no payout yet.
    obtain ⟨older, there, refers⟩ := List.mem_filterMap.mp listed
    have key_eq : key = id := same.trans (by simpa using new)
    exact (inv.committed older there key refers).1 call List.mem_cons_self (key_eq ▸ completing)
  -- Each payout belongs to one successful request that nobody is completing any more.
  · rw [payouts, requests]
    intro one listed key refers
    rcases List.mem_append.mp listed with old | new
    · obtain ⟨others_, row, there, rest⟩ := inv.committed one old key refers
      refine ⟨fun other member completes => ?_, row, there, rest⟩
      rcases List.mem_cons.mp member with rfl | other
      · rw [ended] at completes
        cases completes
      · exact others_ _ (List.mem_cons_of_mem _ other) completes
    · obtain rfl := List.mem_singleton.mp new
      obtain rfl := Option.some.inj (own.symm.trans refers)
      obtain ⟨row, there, same, settled⟩ := inv.resolved call List.mem_cons_self id completing
      exact ⟨nobody, row, there, same, settled, order row there same⟩
  · rw [payouts, requests]
    intro row listed succeeds
    rcases inv.whole row listed succeeds with ⟨one, member, completes⟩ | ⟨older, there, refers⟩ | skipped
    · rcases List.mem_cons.mp member with rfl | other
      · have same : id = row.id := Option.some.inj (completing.symm.trans completes)
        exact .inr (.inl ⟨payout, List.mem_append_right _ (List.mem_singleton.mpr rfl), same ▸ own⟩)
      · exact .inl ⟨one, List.mem_cons_of_mem _ other, completes⟩
    · exact .inr (.inl ⟨older, List.mem_append_left _ there, refers⟩)
    · exact .inr (.inr skipped)

/-- A request that is marked successful is completed by the call that marked it. -/
theorem flips (inv : Completion cfg skips store (call :: others)) {id : Nat}
    {transactionId reason : Option String}
    (keyed : Keyed ((Statement.resolveRequest id .successful transactionId reason).execute store)
      (next :: others))
    (pending : store.stillPending id = true) (idle : call.completing = none)
    (completing : next.completing = some id)
    (earned : next.Earned cfg) :
    Completion cfg skips ((Statement.resolveRequest id .successful transactionId reason).execute store)
      (next :: others) := by
  obtain ⟨open_, there, word⟩ := List.any_eq_true.mp pending
  simp only [Bool.and_eq_true, decide_eq_true_eq] at word
  obtain ⟨open_id, open_pending⟩ := word
  -- No row with this serial has been resolved.
  have unresolved : ¬ ∃ row ∈ store.requests, row.id = id ∧ row.status ≠ .pending := by
    rintro ⟨row, listed, same, settled⟩
    exact settled (inv.same_request listed there (same.trans open_id.symm) ▸ open_pending)
  have apart := inv.apart
  rw [List.filterMap_cons, idle] at apart
  refine { toKeyed := keyed, apart := ?_, resolved := ?_, earned := ?_, once := ?_, committed := ?_
           whole := ?_ }
  · rw [List.filterMap_cons, completing]
    -- Another call that completes it would have found it resolved.
    refine List.nodup_cons.mpr ⟨fun listed => ?_, apart⟩
    obtain ⟨one, member, completes⟩ := List.mem_filterMap.mp listed
    exact unresolved (inv.resolved one (List.mem_cons_of_mem _ member) id completes)
  · intro one member key completes
    rcases List.mem_cons.mp member with rfl | other
    · obtain rfl := Option.some.inj (completing.symm.trans completes)
      exact ⟨_, mem_execute_requests.mpr (.inl ⟨open_, there, rfl⟩),
        (onRequest_same _ _ _).1.trans open_id, by simp [Statement.onRequest, open_id, open_pending]⟩
    · exact resolved_execute _ (inv.resolved one (List.mem_cons_of_mem _ other) key completes)
  · intro one member
    rcases List.mem_cons.mp member with rfl | other
    · exact earned
    · exact inv.earned one (List.mem_cons_of_mem _ other)
  · rw [execute_payouts store (by simp)]
    exact inv.once
  -- No payout refers to it yet, since it was pending.
  · intro payout listed key refers
    rw [execute_payouts store (by simp)] at listed
    obtain ⟨nobody, row, stored, own, settled, order⟩ := inv.committed payout listed key refers
    refine ⟨fun one member completes => ?_, _, mem_execute_requests.mpr (.inl ⟨row, stored, rfl⟩),
      (onRequest_same _ _ _).1.trans own, onRequest_settled settled, by
        rw [order, (onRequest_same _ _ _).2.1]⟩
    rcases List.mem_cons.mp member with rfl | other
    · obtain rfl := Option.some.inj (completing.symm.trans completes)
      exact unresolved ⟨row, stored, own, settled⟩
    · exact nobody one (List.mem_cons_of_mem _ other) completes
  · rw [execute_payouts store (by simp)]
    intro row listed succeeds
    rcases mem_execute_requests.mp listed with ⟨old, before, rfl⟩ | inserts
    · have same := onRequest_same (.resolveRequest id .successful transactionId reason) store.now old
      rw [same.1, same.2.1]
      rcases onRequest_successful succeeds with was | ⟨-, _, _, now⟩
      · rcases inv.whole old before was with ⟨one, member, completes⟩ | done
        · rcases List.mem_cons.mp member with rfl | other
          · rw [idle] at completes
            cases completes
          · exact .inl ⟨one, List.mem_cons_of_mem _ other, completes⟩
        · exact .inr done
      · cases now
        exact .inl ⟨next, List.mem_cons_self, completing⟩
    · cases inserts

/-- A call that runs its next statement leaves every request complete, unless it fails halfway. -/
theorem moves {pool : PaymentPool} {index : Nat} {answer : Answer}
    (taken : (services cfg).Taken pool index answer call others)
    (inv : Completion cfg skips pool.shared (call :: others))
    (finishes : answer.fails = true → call.completing = none ∨
      ∀ found, call.found = some found → skips found.request.orderId)
    (skipped : ∀ found, call.reconciling = some (.payOrder found) → answer.fails = false →
      queueDriverPayout cfg found = .done → skips found.request.orderId) :
    Completion cfg skips ((call.next cfg pool.shared answer).1.execute pool.shared)
      ((call.next cfg pool.shared answer).2 :: others) := by
  have keyed := (keyed_keeps cfg).moves taken inv.toKeyed trivial
  change Keyed ((call.next cfg pool.shared answer).1.execute pool.shared)
    ((call.next cfg pool.shared answer).2 :: others) at keyed
  have fresh : ∀ row, (call.next cfg pool.shared answer).1 = .insertRequest row →
      row.status = .pending := fun row => inserted_open
  have earned := inv.earned call List.mem_cons_self
  have earned' := @PaymentCall.next_earned cfg pool.shared answer call earned
  cases call.progress cfg pool.shared answer with
  | goes same _ uncommitted other => exact inv.quiet keyed fresh uncommitted other earned' (.inl same)
  | drops ended why uncommitted other =>
    refine inv.quiet keyed fresh uncommitted other earned' (.inr ⟨ended, fun row listed completes => ?_⟩)
    -- Whatever the call has read is the row it completes.
    have skips_row : ∀ found, call.found = some found → found.request.id = row.id →
        skips found.request.orderId → skips row.orderId := by
      intro found reads own skip
      obtain ⟨stored, there, same, order, -⟩ := inv.backed call List.mem_cons_self found reads
      rwa [inv.same_request listed there (own.symm.trans same.symm), order]
    rcases why with fails | ⟨found, pays, works, none⟩ | ⟨found, earning, queues, payout, there, same⟩
    · obtain ⟨found, reads, own⟩ := call.found_of_completing completes
      rcases finishes fails with idle | skip
      · rw [idle] at completes
        cases completes
      · exact skips_row found reads own (skip found reads)
    · refine skips_row found (by rw [PaymentCall.found, pays]; rfl) ?_ (skipped found pays works none)
      simpa [PaymentCall.completing, pays, ReconcileCall.completing] using completes
    · -- A request being completed has no payout yet.
      obtain ⟨request, -⟩ := queueDriverPayout_connect (earned found _ queues earning rfl)
      rw [request] at same
      refine absurd ?_ ((inv.committed payout there _ same).1 call List.mem_cons_self)
      simp [PaymentCall.completing, queues, ReconcileCall.completing, PayoutCall.underway]
  | flips found verdict flips =>
    rw [flips.writes] at keyed ⊢
    refine inv.flips keyed flips.pending ?_ ?_ earned'
    · simp [PaymentCall.completing, flips.settling, ReconcileCall.completing]
    · simp [PaymentCall.completing, flips.next, ReconcileCall.completing]
  | commits found earning payoutId reference cleared locked queuing works writes ended =>
    obtain ⟨request, -⟩ := queueDriverPayout_connect (earned found _ queuing earning rfl)
    rw [writes] at keyed ⊢
    refine inv.commits keyed ?_ ended
      (congrArg (some ∘ PaymentRequest.id) request) (fun row listed own => ?_) earned'
    · simp [PaymentCall.completing, queuing, ReconcileCall.completing, PayoutCall.underway]
    · obtain ⟨stored, there, own', order, -⟩ := inv.backed call List.mem_cons_self found (by
        rw [PaymentCall.found, queuing]; rfl)
      rw [inv.same_request listed there (own.trans own'.symm), order]
      exact congrArg (some ∘ PaymentRequest.orderId) request

/-- The order of the calls does not matter. -/
theorem perm {calls calls' : List PaymentCall} (same : calls.Perm calls')
    (inv : Completion cfg skips store calls) : Completion cfg skips store calls' where
  -- All that is said of the calls is said of each.
  toKeyed := (keyed_keeps cfg).perm same inv.toKeyed
  apart := (same.filterMap _).nodup_iff.mp inv.apart
  resolved := fun call member => inv.resolved call (same.mem_iff.mpr member)
  earned := fun call member => inv.earned call (same.mem_iff.mpr member)
  once := inv.once
  committed := fun payout listed id refers =>
    have ⟨nobody, row⟩ := inv.committed payout listed id refers
    ⟨fun call member => nobody call (same.mem_iff.mpr member), row⟩
  whole := fun row listed succeeds => (inv.whole row listed succeeds).imp_left
    fun ⟨call, member, completes⟩ => ⟨call, same.mem_iff.mp member, completes⟩

/-- A call that arrives completes nothing yet. -/
theorem arrives {pool : PaymentPool} {entry : PaymentEntry}
    (inv : Completion cfg skips pool.shared pool.calls) :
    Completion cfg skips pool.shared (entry.start :: pool.calls) := by
  -- A call begins with no request to complete.
  have idle : (entry.start).completing = none := by cases entry <;> rfl
  refine { inv with toKeyed := (keyed_keeps cfg).arrives inv.toKeyed trivial, apart := ?_, resolved := ?_
                    earned := ?_, committed := ?_, whole := ?_ }
  · rw [List.filterMap_cons, idle]
    exact inv.apart
  · exact List.forall_mem_cons.mpr ⟨by simp [idle], inv.resolved⟩
  · refine List.forall_mem_cons.mpr ⟨fun found queuing same => ?_, inv.earned⟩
    cases entry <;> cases same
  · intro payout listed id refers
    obtain ⟨nobody, row⟩ := inv.committed payout listed id refers
    exact ⟨List.forall_mem_cons.mpr ⟨by simp [idle], nobody⟩, row⟩
  · intro row listed succeeds
    exact (inv.whole row listed succeeds).imp_left fun ⟨one, member, completes⟩ =>
      ⟨one, List.mem_cons_of_mem _ member, completes⟩

/-- A call that stops has nothing left to complete, or nothing that counts. -/
theorem stops {pool : PaymentPool} {index : Nat} (found : pool.calls[index]? = some call)
    (inv : Completion cfg skips pool.shared (call :: others))
    (spared : call.completing = none ∨ ∀ found, call.found = some found → skips found.request.orderId) :
    Completion cfg skips pool.shared (.stopped :: others) := by
  -- A call that has stopped completes nothing more.
  have idle : PaymentCall.stopped.completing = none := rfl
  refine { inv with toKeyed := (keyed_keeps cfg).stops found inv.toKeyed trivial, apart := ?_
                    resolved := ?_, earned := ?_, committed := ?_, whole := ?_ }
  · rw [List.filterMap_cons, idle]
    exact inv.apart.sublist ((List.sublist_cons_self _ _).filterMap _)
  · exact List.forall_mem_cons.mpr ⟨by simp [idle], (List.forall_mem_cons.mp inv.resolved).2⟩
  · exact List.forall_mem_cons.mpr ⟨fun found queuing same => (by cases same),
      (List.forall_mem_cons.mp inv.earned).2⟩
  · intro payout listed id refers
    obtain ⟨nobody, row⟩ := inv.committed payout listed id refers
    exact ⟨List.forall_mem_cons.mpr ⟨by simp [idle], (List.forall_mem_cons.mp nobody).2⟩, row⟩
  · intro row listed succeeds
    rcases inv.whole row listed succeeds with ⟨one, member, completes⟩ | done
    · rcases List.mem_cons.mp member with rfl | other
      · -- What the stopped call leaves behind does not count.
        obtain ⟨read, reads, own⟩ := one.found_of_completing completes
        obtain ⟨stored, there, same, order, -⟩ := inv.backed one List.mem_cons_self read reads
        rcases spared with none | skip
        · rw [none] at completes
          cases completes
        · rw [inv.same_request listed there (own.symm.trans same.symm), order]
          exact .inr (.inr (skip read reads))
      · exact .inl ⟨one, List.mem_cons_of_mem _ other, completes⟩
    · exact .inr done

/-- What touches neither requests nor payouts completes nothing. -/
theorem happens {calls : List PaymentCall} {later : Store} (inv : Completion cfg skips store calls)
    (keyed : Keyed later calls) (requests : later.requests = store.requests)
    (payouts : later.payouts = store.payouts) : Completion cfg skips later calls where
  -- It is all said of the requests, the payouts and the calls.
  toKeyed := keyed
  apart := inv.apart
  resolved := by rw [requests]; exact inv.resolved
  earned := inv.earned
  once := by rw [payouts]; exact inv.once
  committed := by rw [requests, payouts]; exact inv.committed
  whole := by rw [requests, payouts]; exact inv.whole

end Completion

end Freight.Payment
