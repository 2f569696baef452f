import Freight.Payout.Claims

/-! A payout reaches its driver at most once, as long as no attempt overtakes one that may yet land. -/

namespace Freight.Payout

/-- The event asks after a previous attempt that may yet land, and goes on as if it had not been made. -/
def overtakesPrior (pool : WorkerPool) : WorkerEvent → Bool
  | .run index answer =>
    match pool.calls[index]? with
    | some (.askPrior payout _) =>
      match answer.status with
      -- PENDING is read as if the attempt had never been made.
      | .told => (pool.shared.transfer payout.reference).any fun prior => prior.state = .pending
      -- A 404 may be the token endpoint's.
      | .notFound => (pool.shared.transfer payout.reference).any fun prior => prior.state ≠ .failed
      | .unreadable => false
    | _ => false
  | _ => false

/-- The reference a worker has stored and not yet sent. -/
def WorkerCall.unsent : WorkerCall → List Nat
  | .transfer _ reference _ => [reference]
  | _ => []

/-- The claimed rows whose reference the worker has not overwritten yet. -/
def WorkerCall.untouched : WorkerCall → List DriverPayout
  | .askPrior payout rest | .writeReference payout rest => payout :: rest
  | .markLanded _ _ rest | .transfer _ _ rest | .stampSent _ rest | .giveBack _ _ rest
  | .auditFailed _ rest => rest
  | .claim | .selectSent | .askSent _ _ | .settleSent _ _ _ | .finished => []

/-- The payout a worker has made up its mind to send. -/
def WorkerCall.decided : WorkerCall → List Nat
  | .writeReference payout _ | .transfer payout _ _ => [payout.id]
  | _ => []

/-- The transfers of a payout that have landed or still may. -/
def PayoutStore.live (store : PayoutStore) (id : Nat) : List Transfer :=
  store.transfers.filter fun transfer => transfer.payoutId = id ∧ transfer.state ≠ .failed

/-- The transfers of a payout that have landed. -/
def PayoutStore.landed (store : PayoutStore) (id : Nat) : List Transfer :=
  store.transfers.filter fun transfer => transfer.payoutId = id ∧ transfer.state = .successful

/-- A worker that takes up its next row has stored no reference for it yet. -/
@[simp] theorem nextPayout_unsent (rest : List DriverPayout) : (nextPayout rest).unsent = [] := by
  -- It goes on to look the row up, or to store a reference.
  cases rest with
  | nil => rfl
  | cons payout rest => simp only [nextPayout]; split <;> rfl

/-- And all the rows it is left with are untouched. -/
@[simp] theorem nextPayout_untouched (rest : List DriverPayout) :
    (nextPayout rest).untouched = rest := by
  -- Whatever it does first with the row, it has not done it yet.
  cases rest with
  | nil => rfl
  | cons payout rest => simp only [nextPayout]; split <;> rfl

/-- A worker that settles what is sent has stored no reference. -/
@[simp] theorem nextSent_unsent (rest : List SentRow) : (nextSent rest).unsent = [] := by
  -- Confirmation draws no reference.
  cases rest <;> rfl

/-- It has claimed no row to send. -/
@[simp] theorem nextSent_untouched (rest : List SentRow) : (nextSent rest).untouched = [] := by
  -- Confirmation claims nothing.
  cases rest <;> rfl

/-- And it has ruled out no transfer yet. -/
@[simp] theorem nextSent_decided (rest : List SentRow) : (nextSent rest).decided = [] := by
  -- Confirmation asks after transfers, and decides on none.
  cases rest <;> rfl

/-- What a worker's step can do to references and transfers: store one, send one, or neither. -/
theorem next_transfers (cfg : Config) (store : PayoutStore) (answer : WorkerAnswer)
    (call : WorkerCall) :
    (∃ payout rest, call = .writeReference payout rest ∧ call.next cfg store answer =
      (.writeReference payout.id store.nextReference, .transfer payout store.nextReference rest)) ∨
    (∃ payout reference rest currency after, call = .transfer payout reference rest ∧
      call.next cfg store answer = (.send (outgoing payout reference currency), after) ∧
      after.unsent = [] ∧ after.untouched = rest ∧ after.decided = [] ∧
      after.claimed = payout :: rest) ∨
    ((∀ id reference, (call.next cfg store answer).1 ≠ .writeReference id reference) ∧
      (∀ transfer, (call.next cfg store answer).1 ≠ .send transfer) ∧
      (call.next cfg store answer).2.unsent = []) := by
  cases call with
  | writeReference payout rest =>
    by_cases fails : answer.fails
    · exact .inr (.inr (by simp [WorkerCall.next, fails, WorkerCall.unsent]))
    · exact .inl ⟨payout, rest, rfl, by simp [WorkerCall.next, fails]⟩
  | transfer payout reference rest =>
    simp only [WorkerCall.next]
    split
    · exact .inr (.inr (by simp [WorkerCall.unsent]))
    · split
      · exact .inr (.inl ⟨payout, reference, rest, _, _, rfl, rfl, rfl, rfl, rfl, rfl⟩)
      · exact .inr (.inl ⟨payout, reference, rest, _, _, rfl, rfl, rfl, rfl, rfl, rfl⟩)
      · exact .inr (.inr (by simp [WorkerCall.unsent]))
  | _ =>
    -- No other statement stores a reference or reaches MTN's books.
    refine .inr (.inr ?_)
    simp only [WorkerCall.next]
    repeat' split
    all_goals simp
    all_goals simp [WorkerCall.unsent]

/-- Going on to the next row, a worker has decided on it only when it is a first attempt. -/
theorem nextPayout_decided {rest : List DriverPayout} {id : Nat}
    (decided : id ∈ (nextPayout rest).decided) :
    ∃ payout ∈ rest, payout.id = id ∧ payout.attempts ≤ 1 := by
  -- A row that has been tried before is to be looked up at MTN first.
  cases rest with
  | nil => simp [nextPayout, WorkerCall.decided] at decided
  | cons payout rest =>
    simp only [nextPayout] at decided
    split at decided
    · rename_i first
      simp only [WorkerCall.decided, List.mem_singleton] at decided
      exact ⟨payout, List.mem_cons_self, decided.symm, first⟩
    · simp [WorkerCall.decided] at decided

/-- What is untouched is part of what is claimed. -/
theorem untouched_claimed {call : WorkerCall} {payout : DriverPayout}
    (member : payout ∈ call.untouched) : payout ∈ call.claimed := by
  -- The row in hand is the first of them, or none is.
  cases call <;> simp_all [WorkerCall.untouched, WorkerCall.claimed]

/-- What a worker has decided on is part of what it has claimed. -/
theorem decided_claimed {call : WorkerCall} {id : Nat} (member : id ∈ call.decided) :
    id ∈ call.claimedIds := by
  -- It has decided on the row in hand alone.
  cases call <;> simp_all [WorkerCall.decided, WorkerCall.claimedIds, WorkerCall.claimed]

/-- Only storing a reference changes one. -/
theorem onPayout_reference {statement : WorkerStatement} (now : Nat) {row : DriverPayout}
    (other : ∀ reference, statement ≠ .writeReference row.id reference) :
    (statement.onPayout now row).reference = row.reference := by
  -- The other statements write a row's status and its attempts.
  cases statement with
  | writeReference id reference =>
    have apart : row.id ≠ id := fun same => other reference (by rw [same])
    simp [WorkerStatement.onPayout, apart]
  | _ => simp only [WorkerStatement.onPayout] <;> split <;> rfl

/-- No statement counts a row's attempts down. -/
theorem attempts_le_onPayout (statement : WorkerStatement) (now : Nat) (row : DriverPayout) :
    row.attempts ≤ (statement.onPayout now row).attempts := by
  -- A claim adds one, and the rest write other columns.
  cases statement with
  | nothing | send _ | audit _ => exact le_rfl
  | _ => simp only [WorkerStatement.onPayout]; split <;> simp

/-- Only sending adds a transfer. -/
theorem execute_transfers {statement : WorkerStatement} (store : PayoutStore)
    (other : ∀ transfer, statement ≠ .send transfer) :
    (statement.execute store).transfers = store.transfers := by
  -- One statement sends, and this is not it.
  cases statement <;> simp_all [WorkerStatement.execute]

/-- Between two states, a payout got no other reference and no transfer that was not there. -/
structure Quiet (before after : PayoutStore) (id : Nat) : Prop where
  /-- Its row has the reference it had. -/
  rows : ∀ row ∈ after.payouts, row.id = id →
    ∃ old ∈ before.payouts, old.id = id ∧ old.reference = row.reference
  /-- Its transfers were there, and none has come back from failure. -/
  transfers : ∀ transfer ∈ after.transfers, transfer.payoutId = id →
    ∃ old ∈ before.transfers, old.payoutId = id ∧ old.reference = transfer.reference ∧
      (transfer.state ≠ .failed → old.state ≠ .failed)

/-- What a worker read of a row still says where its money can be. -/
structure Current (store : PayoutStore) (payout : DriverPayout) : Prop where
  /-- The row still has the reference that was read. -/
  reference : ∀ row ∈ store.payouts, row.id = payout.id → row.reference = payout.reference
  /-- A first attempt has nothing before it. -/
  first : payout.attempts ≤ 1 → ∀ transfer ∈ store.transfers, transfer.payoutId ≠ payout.id

/-- A worker is in order: what it goes by is current, and what it decided on is safe to send. -/
structure Prepared (store : PayoutStore) (call : WorkerCall) : Prop where
  /-- Rows not yet taken up are as they were read. -/
  untouched : ∀ payout ∈ call.untouched, Current store payout
  /-- The claim has counted the attempt. -/
  counted : ∀ payout ∈ call.claimed, 1 ≤ payout.attempts
  /-- Nothing sent before for this payout can land any more. -/
  decided : ∀ id ∈ call.decided, store.live id = []
  /-- The reference about to be sent is the one on the row. -/
  stored : ∀ payout reference rest, call = .transfer payout reference rest →
    ∀ row ∈ store.payouts, row.id = payout.id → row.reference = reference

/-- What is live is sent for the payout and has not failed. -/
theorem mem_live {store : PayoutStore} {id : Nat} {transfer : Transfer} :
    transfer ∈ store.live id ↔
      transfer ∈ store.transfers ∧ transfer.payoutId = id ∧ transfer.state ≠ .failed := by
  -- The filter's two conditions.
  simp [PayoutStore.live]

/-- A payout with nothing live has nothing live after a quiet step. -/
theorem Quiet.live {before after : PayoutStore} {id : Nat} (quiet : Quiet before after id)
    (none : before.live id = []) : after.live id = [] := by
  -- A transfer that is live was live before the step.
  refine List.eq_nil_iff_forall_not_mem.mpr fun transfer member => ?_
  obtain ⟨listed, ours, alive⟩ := mem_live.mp member
  obtain ⟨old, found, same, -, was⟩ := quiet.transfers transfer listed ours
  have live : old ∈ before.live id := mem_live.mpr ⟨found, same, was alive⟩
  rw [none] at live
  cases live

/-- What was read stays current over a quiet step. -/
theorem Current.quiet {before after : PayoutStore} {payout : DriverPayout}
    (current : Current before payout) (quiet : Quiet before after payout.id) :
    Current after payout where
  -- The row and its transfers are as they were read.
  reference := fun row listed same => by
    obtain ⟨old, found, id, reference⟩ := quiet.rows row listed same
    rw [← reference]
    exact current.reference old found id
  first := fun first transfer listed ours => by
    obtain ⟨old, found, same, -⟩ := quiet.transfers transfer listed ours
    exact current.first first old found same

/-- A worker stays in order over a step that is quiet for all it holds. -/
theorem Prepared.quiet {before after : PayoutStore} {call : WorkerCall}
    (prepared : Prepared before call) (quiet : ∀ id ∈ call.claimedIds, Quiet before after id) :
    Prepared after call where
  -- Clause by clause, each speaks of rows that the worker holds.
  untouched := fun payout member => (prepared.untouched payout member).quiet
    (quiet _ (List.mem_map_of_mem (untouched_claimed member)))
  counted := prepared.counted
  decided := fun id member => (quiet id (decided_claimed member)).live (prepared.decided id member)
  stored := fun payout reference rest same row listed id => by
    have held : payout.id ∈ call.claimedIds := by
      simp [same, WorkerCall.claimedIds, WorkerCall.claimed]
    obtain ⟨old, found, here, unchanged⟩ := (quiet _ held).rows row listed id
    rw [← unchanged]
    exact prepared.stored payout reference rest same old found here

/-- A worker that goes on to its next row is in order when what it holds is current. -/
theorem nextPayout_prepared {store : PayoutStore} {rest : List DriverPayout}
    (current : ∀ payout ∈ rest, Current store payout)
    (counted : ∀ payout ∈ rest, 1 ≤ payout.attempts) : Prepared store (nextPayout rest) where
  untouched := by simpa using current
  counted := by simpa using counted
  decided := fun id member => by
    -- A first attempt has no transfer at all behind it, live or not.
    obtain ⟨payout, held, rfl, first⟩ := nextPayout_decided member
    refine List.eq_nil_iff_forall_not_mem.mpr fun transfer live => ?_
    obtain ⟨listed, ours, -⟩ := mem_live.mp live
    exact (current payout held).first first transfer listed ours
  stored := fun payout reference rest' same => by
    have nothing := nextPayout_unsent rest
    simp [same, WorkerCall.unsent] at nothing

/-- A worker holding nothing is in order. -/
theorem Prepared.idle {store : PayoutStore} {call : WorkerCall} (nothing : call.claimed = []) :
    Prepared store call where
  -- Every clause speaks of a row that is held.
  untouched := fun payout member => by
    have held := untouched_claimed member
    rw [nothing] at held
    cases held
  counted := by simp [nothing]
  decided := fun id member => by
    have held := decided_claimed member
    rw [WorkerCall.claimedIds, nothing] at held
    cases held
  stored := fun payout reference rest same => by simp [same, WorkerCall.claimed] at nothing

/-- What the table and MTN's books say of every payout that may still be paid. -/
structure Traced (store : PayoutStore) : Prop where
  /-- MTN knows each reference once. -/
  references : (store.transfers.map Transfer.reference).Nodup
  /-- A live transfer went out under the reference its row still has. -/
  latest : ∀ row ∈ store.payouts, ∀ transfer ∈ store.live row.id, transfer.reference = row.reference
  /-- A row that was never attempted has no transfer. -/
  untried : ∀ row ∈ store.payouts, row.attempts = 0 →
    ∀ transfer ∈ store.transfers, transfer.payoutId ≠ row.id
  /-- At most one transfer of a payout is live. -/
  once : ∀ id, (store.live id).length ≤ 1

/-- An answer that the previous attempt failed, or was never known, rules every transfer out. -/
theorem Traced.ruled_out {store : PayoutStore} (traced : Traced store) {payout : DriverPayout}
    (current : Current store payout) (known : ∃ row ∈ store.payouts, row.id = payout.id)
    (failed : ∀ prior, store.transfer payout.reference = some prior → prior.state = .failed) :
    store.live payout.id = [] := by
  -- Whatever is live carries the row's reference, which is the one that was asked after.
  obtain ⟨row, listed, same⟩ := known
  refine List.eq_nil_iff_forall_not_mem.mpr fun transfer live => ?_
  have carried := traced.latest row listed transfer (by rw [same]; exact live)
  obtain ⟨sent, -, alive⟩ := mem_live.mp live
  rw [current.reference row listed same] at carried
  cases found : store.transfer payout.reference with
  | none =>
    have unknown := List.find?_eq_none.mp found transfer sent
    simp [carried] at unknown
  | some prior =>
    have under := List.find?_some found
    have other := List.mem_of_find?_eq_some found
    have equal : prior = transfer := List.inj_on_of_nodup_map traced.references other sent
      (by simpa [carried] using under)
    exact alive (equal ▸ failed prior found)

/-- A worker that has claimed rows knows them as the claim returned them. -/
theorem claim_prepared {cfg : Config} {store : PayoutStore} {answer : WorkerAnswer} (traced : Traced store)
    (distinct : (store.payouts.map DriverPayout.id).Nodup) :
    Prepared store (WorkerCall.claim.next cfg store answer).2 := by
  simp only [WorkerCall.next]
  split
  · exact .idle rfl
  · -- A claimed row was queued, so its reference is the one the claim returns.
    refine nextPayout_prepared ?_ ?_ <;> simp only [List.forall_mem_map]
    · intro origin due
      have member := mem_dueRows due
      refine ⟨fun row listed same => ?_, fun first transfer sent => ?_⟩
      · rw [onPayout_id] at same
        rw [same_row distinct listed member.1 same, onPayout_reference _ (by simp)]
      · rw [onPayout_id]
        have counted : origin.id ∈ (dueRows store).map DriverPayout.id := List.mem_map_of_mem due
        simp only [WorkerStatement.onPayout, if_pos counted] at first
        exact traced.untried origin member.1 (by omega) transfer sent
    · intro origin due
      have counted : origin.id ∈ (dueRows store).map DriverPayout.id := List.mem_map_of_mem due
      simp only [WorkerStatement.onPayout, if_pos counted]
      omega

/-- A worker that has asked about the last transfer goes on to another only where that one has failed. -/
theorem askPrior_prepared {cfg : Config} {store : PayoutStore} {answer : WorkerAnswer} {payout : DriverPayout}
    {rest : List DriverPayout} (traced : Traced store) (prepared : Prepared store (.askPrior payout rest))
    (known : ∀ id ∈ (WorkerCall.askPrior payout rest).claimedIds, ∃ row ∈ store.payouts, row.id = id)
    (settled : ∀ prior, store.transfer payout.reference = some prior →
      (answer.status = .told → prior.state ≠ .pending) ∧ (answer.status = .notFound → prior.state = .failed)) :
    Prepared store ((WorkerCall.askPrior payout rest).next cfg store answer).2 := by
  have rows := prepared.untouched
  simp only [WorkerCall.untouched] at rows
  have sendable : ∀ failed : (∀ prior, store.transfer payout.reference = some prior →
      prior.state = .failed), Prepared store (.writeReference payout rest) := fun failed => {
    untouched := rows
    counted := prepared.counted
    decided := fun id member => by
      rw [List.mem_singleton.mp member]
      exact traced.ruled_out (rows payout List.mem_cons_self)
        (known _ (by simp [WorkerCall.claimedIds, WorkerCall.claimed])) failed
    stored := by simp }
  simp only [WorkerCall.next]
  cases status : answer.status with
  | unreadable =>
    exact ⟨fun other member => rows other (List.mem_cons_of_mem _ member), prepared.counted,
      by simp [WorkerCall.decided], by simp⟩
  | notFound =>
    -- A 404 is believed, and what MTN knows of has failed.
    exact sendable fun other same => (settled other same).2 status
  | told =>
    simp only
    split
    · rename_i unknown
      exact sendable (by simp [unknown])
    · rename_i prior found
      split
      · exact ⟨fun other member => rows other (List.mem_cons_of_mem _ member), prepared.counted,
          by simp [WorkerCall.decided], by simp⟩
      · -- Neither landed nor pending: it failed.
        rename_i landed
        refine sendable fun other same => ?_
        have pending := (settled other same).1 status
        rw [found] at same
        cases same
        cases state : prior.state <;> simp_all

/-- A step that stores no reference and sends nothing leaves the worker in order. -/
theorem next_prepared {cfg : Config} {store : PayoutStore} {answer : WorkerAnswer}
    {call : WorkerCall} (traced : Traced store) (prepared : Prepared store call)
    (known : ∀ id ∈ call.claimedIds, ∃ row ∈ store.payouts, row.id = id)
    (distinct : (store.payouts.map DriverPayout.id).Nodup)
    (settled : ∀ payout rest, call = .askPrior payout rest →
      ∀ prior, store.transfer payout.reference = some prior →
        (answer.status = .told → prior.state ≠ .pending) ∧ (answer.status = .notFound → prior.state = .failed))
    (unwritten : ∀ id reference, (call.next cfg store answer).1 ≠ .writeReference id reference)
    (unsent : ∀ transfer, (call.next cfg store answer).1 ≠ .send transfer) :
    Prepared store (call.next cfg store answer).2 := by
  cases call with
  -- A claim brings payouts that nobody else holds.
  | claim => exact claim_prepared traced distinct
  | askPrior payout rest => exact askPrior_prepared traced prepared known (settled payout rest rfl)
  -- With the reference stored, the transfer may be sent.
  | writeReference payout rest =>
    simp only [WorkerCall.next] at unwritten ⊢
    split
    · exact ⟨fun other member => prepared.untouched other (List.mem_cons_of_mem _ member),
        prepared.counted, by simp [WorkerCall.decided], by simp⟩
    · rename_i works
      simp [works] at unwritten
  -- What is refused before it is sent is given back, and may be tried again.
  | transfer payout reference rest =>
    have after : ∀ reason, Prepared store (.giveBack payout reason rest) := fun reason =>
      ⟨prepared.untouched, prepared.counted, by simp [WorkerCall.decided], by simp⟩
    simp only [WorkerCall.next] at unsent ⊢
    split
    · exact after _
    · rename_i currency resolved
      cases fate : answer.transfer with
      | refused => exact after _
      | accepted | lost => simp [resolved, fate] at unsent
  | markLanded payout _ rest | stampSent payout rest =>
    simp only [WorkerCall.next]
    split
    · exact ⟨prepared.untouched, prepared.counted, by simp [WorkerCall.decided], by simp⟩
    · exact nextPayout_prepared prepared.untouched
        fun other member => prepared.counted other (List.mem_cons_of_mem _ member)
  -- The worker turns to the next payout of its claim.
  | giveBack payout reason rest =>
    have later := nextPayout_prepared prepared.untouched
      fun other member => prepared.counted other (List.mem_cons_of_mem _ member)
    simp only [WorkerCall.next]
    split
    · exact .idle rfl
    · split
      · exact ⟨prepared.untouched, prepared.counted, by simp [WorkerCall.decided], by simp⟩
      · exact later
  | auditFailed payout rest =>
    have later := nextPayout_prepared prepared.untouched
      fun other member => prepared.counted other (List.mem_cons_of_mem _ member)
    simp only [WorkerCall.next]
    split <;> exact later
  | selectSent | askSent | settleSent | finished =>
    -- Confirmation never holds a payout.
    refine .idle ?_
    simp only [WorkerCall.next]
    repeat' split
    all_goals first | exact nextSent_claimed _ | rfl

/-- The references drawn for an attempt and not sent yet. -/
def unsentReferences (calls : List WorkerCall) : List Nat :=
  calls.flatMap WorkerCall.unsent

/-- No attempt under way can ever repay a payout that has a live transfer. -/
structure SentOnce (store : PayoutStore) (calls : List WorkerCall) : Prop extends
    Exclusive store calls, Traced store where
  /-- Every worker is in order. -/
  prepared : ∀ call ∈ calls, Prepared store call
  /-- References about to be sent differ from each other and from those sent. -/
  fresh : (unsentReferences calls ++ store.transfers.map Transfer.reference).Nodup
  /-- References still to be drawn are new. -/
  undrawn : ∀ reference ∈ unsentReferences calls ++ store.transfers.map Transfer.reference,
    reference < store.nextReference
  /-- Payouts still to be queued have no transfer. -/
  unnamed : ∀ transfer ∈ store.transfers, transfer.payoutId < store.nextReference

/-- What a row's transfers say of it survives a quiet step. -/
theorem Traced.latest_quiet {before after : PayoutStore} (traced : Traced before)
    {row : DriverPayout} (quiet : Quiet before after row.id) (listed : row ∈ after.payouts)
    {transfer : Transfer} (live : transfer ∈ after.live row.id) :
    transfer.reference = row.reference := by
  -- The transfer was live under the same reference, and the row had it too.
  obtain ⟨sent, ours, alive⟩ := mem_live.mp live
  obtain ⟨old, found, id, reference⟩ := quiet.rows row listed rfl
  obtain ⟨earlier, there, whose, carried, was⟩ := quiet.transfers transfer sent ours
  rw [← carried, ← reference]
  exact traced.latest old found earlier (mem_live.mpr ⟨there, by rw [id, whose], was alive⟩)

/-- The references of the first worker, and those of the others. -/
@[simp] theorem unsentReferences_cons (call : WorkerCall) (others : List WorkerCall) :
    unsentReferences (call :: others) = call.unsent ++ unsentReferences others := rfl

/-- A statement is quiet for every payout it neither sends nor stores a reference for. -/
theorem quiet_execute {statement : WorkerStatement} (store : PayoutStore) {id : Nat}
    (unwritten : ∀ reference, statement ≠ .writeReference id reference)
    (unsent : ∀ transfer, statement = .send transfer → transfer.payoutId ≠ id) :
    Quiet store (statement.execute store) id where
  rows := by
    simp only [execute_payouts, List.forall_mem_map, onPayout_id]
    intro row listed same
    exact ⟨row, listed, same, (onPayout_reference _ (same ▸ unwritten)).symm⟩
  transfers := fun transfer sent ours => by
    refine ⟨transfer, ?_, ours, rfl, fun alive => alive⟩
    cases statement with
    | send other =>
      simp only [WorkerStatement.execute, List.mem_append, List.mem_singleton] at sent
      -- The transfer was known before, or it is the one just sent, for another payout.
      rcases sent with old | rfl
      · exact old
      · exact absurd ours (unsent transfer rfl)
    | _ => exact sent

/-- Rows never attempted after a statement were never attempted before it. -/
theorem untried_execute {statement : WorkerStatement} {store : PayoutStore}
    {transfers : List Transfer}
    (before : ∀ row ∈ store.payouts, row.attempts = 0 →
      ∀ transfer ∈ transfers, transfer.payoutId ≠ row.id) :
    ∀ row ∈ (statement.execute store).payouts, row.attempts = 0 →
      ∀ transfer ∈ transfers, transfer.payoutId ≠ row.id := by
  -- Attempts only ever go up.
  simp only [execute_payouts, List.forall_mem_map, onPayout_id]
  intro row listed none
  have counted := attempts_le_onPayout statement store.now row
  exact before row listed (by omega)

namespace SentOnce

variable {store : PayoutStore} {call : WorkerCall} {others : List WorkerCall}

/-- What one worker holds, no other does. -/
theorem apart (once : SentOnce store (call :: others)) {payout : DriverPayout}
    (mine : payout ∈ call.claimed) {other : WorkerCall} (member : other ∈ others) {id : Nat}
    (held : id ∈ other.claimedIds) : payout.id ≠ id := by
  -- Two hands with one row between them would hold its id twice.
  have nodup := once.oneHand
  rw [claimedIds_cons, List.nodup_append] at nodup
  exact nodup.2.2 _ (List.mem_map_of_mem mine) id (List.mem_flatMap.mpr ⟨other, member, held⟩)

/-- What a worker has in hand beyond the row it is at are other rows. -/
theorem apart_rest (once : SentOnce store (call :: others)) {payout : DriverPayout}
    {rest : List DriverPayout} (mine : call.claimed = payout :: rest) {later : DriverPayout}
    (member : later ∈ rest) : payout.id ≠ later.id := by
  -- The hand itself holds no id twice.
  have nodup := once.oneHand
  rw [claimedIds_cons, List.nodup_append, WorkerCall.claimedIds, mine] at nodup
  exact fun same => (List.nodup_cons.mp nodup.1).1 (same ▸ List.mem_map_of_mem member)

/-- Storing a fresh reference keeps every worker in order. -/
theorem writes {payout : DriverPayout} {rest : List DriverPayout}
    (once : SentOnce store (.writeReference payout rest :: others))
    (exclusive : Exclusive ((WorkerStatement.writeReference payout.id store.nextReference).execute store)
      (.transfer payout store.nextReference rest :: others)) :
    SentOnce ((WorkerStatement.writeReference payout.id store.nextReference).execute store)
      (.transfer payout store.nextReference rest :: others) := by
  have mine := once.prepared _ List.mem_cons_self
  have nothing : store.live payout.id = [] := mine.decided _ (by simp [WorkerCall.decided])
  have quiet : ∀ id, payout.id ≠ id →
      Quiet store ((WorkerStatement.writeReference payout.id store.nextReference).execute store) id :=
    fun id other => quiet_execute store (fun reference same => other (by cases same; rfl)) (by simp)
  have below := once.undrawn
  have sent := @execute_transfers (.writeReference payout.id store.nextReference) store (by simp)
  refine { exclusive with
    references := once.references, latest := ?latest, untried := untried_execute once.untried,
    once := once.once, prepared := ?prepared, fresh := ?fresh, undrawn := ?undrawn,
    unnamed := fun transfer sent => (once.unnamed transfer sent).trans (Nat.lt_succ_self _) }
  case latest =>
    intro row listed transfer live
    by_cases same : payout.id = row.id
    · -- Nothing of this payout can land, so there is nothing to trace.
      rw [← same] at live
      exact absurd (nothing ▸ live : transfer ∈ []) List.not_mem_nil
    · exact once.latest_quiet (quiet _ same) listed live
  case prepared =>
    intro one member
    rcases List.mem_cons.mp member with rfl | other
    · refine ⟨fun later held => ?_, mine.counted, fun id decided => ?_, ?_⟩
      · exact (mine.untouched later (List.mem_cons_of_mem _ held)).quiet
          (quiet _ (once.apart_rest rfl held))
      · rw [List.mem_singleton.mp decided]
        exact nothing
      · -- The row now carries the reference that is about to go out.
        rintro _ _ _ ⟨⟩ row listed same
        simp only [execute_payouts, List.mem_map] at listed
        obtain ⟨old, found, rfl⟩ := listed
        rw [onPayout_id] at same
        simp [WorkerStatement.onPayout, same]
    · exact (once.prepared one (List.mem_cons_of_mem _ other)).quiet
        fun id held => quiet id (once.apart (by simp [WorkerCall.claimed]) other held)
  case fresh =>
    have fresh := once.fresh
    simp only [unsentReferences_cons, WorkerCall.unsent, List.nil_append, List.cons_append,
      List.nodup_cons, sent] at fresh ⊢
    exact ⟨fun drawn => absurd (below _ (by simpa [WorkerCall.unsent] using drawn)) (by omega), fresh⟩
  case undrawn =>
    intro reference member
    simp only [unsentReferences_cons, WorkerCall.unsent, List.cons_append, List.nil_append,
      List.mem_cons, sent] at member
    simp only [WorkerStatement.execute]
    rcases member with rfl | old
    · omega
    · have := below reference (by simpa [WorkerCall.unsent] using old)
      omega

/-- Sending what was decided on keeps every worker in order. -/
theorem sends {payout : DriverPayout} {reference : Nat} {rest : List DriverPayout} {currency : Text}
    {next : WorkerCall} (once : SentOnce store (.transfer payout reference rest :: others))
    (nothingUnsent : next.unsent = []) (untouched : next.untouched = rest)
    (undecided : next.decided = []) (claimed : next.claimed = payout :: rest)
    (exclusive : Exclusive ((WorkerStatement.send (outgoing payout reference currency)).execute store)
      (next :: others)) :
    SentOnce ((WorkerStatement.send (outgoing payout reference currency)).execute store)
      (next :: others) := by
  have mine := once.prepared _ List.mem_cons_self
  have nothing : store.live payout.id = [] := mine.decided _ (by simp [WorkerCall.decided])
  have quiet : ∀ id, payout.id ≠ id →
      Quiet store ((WorkerStatement.send (outgoing payout reference currency)).execute store) id :=
    fun id other => quiet_execute store (by simp) fun transfer same => by cases same; exact other
  -- The payout's only live transfer is the one going out.
  have alive : ∀ id, ((WorkerStatement.send (outgoing payout reference currency)).execute store).live id =
      if payout.id = id then [outgoing payout reference currency] else store.live id := fun id => by
    split
    · rename_i same
      subst same
      have before := nothing
      simp only [PayoutStore.live] at before
      simp only [PayoutStore.live, WorkerStatement.execute, List.filter_append, before]
      simp [outgoing]
    · rename_i other
      simp [PayoutStore.live, WorkerStatement.execute, outgoing, other]
  have fresh := once.fresh
  simp only [unsentReferences_cons, WorkerCall.unsent] at fresh
  have moved : (unsentReferences (next :: others) ++
      ((WorkerStatement.send (outgoing payout reference currency)).execute store).transfers.map
        Transfer.reference).Perm
      (([reference] ++ unsentReferences others) ++ store.transfers.map Transfer.reference) := by
    simp only [unsentReferences_cons, nothingUnsent, List.nil_append, WorkerStatement.execute,
      List.map_append, List.map_cons, List.map_nil, outgoing, List.cons_append]
    rw [← List.append_assoc]
    exact List.perm_append_singleton _ _
  refine { exclusive with
    references := ?references, latest := ?latest, untried := ?untried, once := ?once,
    prepared := ?prepared, fresh := moved.nodup_iff.mpr fresh,
    undrawn := fun drawn member => once.undrawn drawn
      (by simpa [WorkerCall.unsent] using moved.mem_iff.mp member),
    unnamed := ?unnamed }
  case references => exact (List.nodup_append.mp (moved.nodup_iff.mpr fresh)).2.1
  case latest =>
    intro row listed transfer live
    by_cases same : payout.id = row.id
    · rw [alive, if_pos same, List.mem_singleton] at live
      subst live
      simp only [execute_payouts, List.mem_map] at listed
      obtain ⟨old, found, rfl⟩ := listed
      exact (mine.stored _ _ _ rfl old found (by rw [same, onPayout_id])).symm
    · exact once.latest_quiet (quiet _ same) listed live
  case untried =>
    refine untried_execute fun row listed none transfer sent => ?_
    simp only [WorkerStatement.execute, List.mem_append, List.mem_singleton] at sent
    rcases sent with old | rfl
    · exact once.untried row listed none transfer old
    · -- The claim counted this attempt on the row.
      intro same
      have counted := mine.counted payout (by simp [WorkerCall.claimed])
      have agree := once.attempts _ List.mem_cons_self payout (by simp [WorkerCall.claimed]) row
        listed same.symm
      omega
  case once =>
    intro id
    rw [alive]
    split
    · simp
    · exact once.once id
  case prepared =>
    intro one member
    rcases List.mem_cons.mp member with rfl | other
    · refine ⟨fun later held => ?_, ?_, by simp [undecided], ?_⟩
      · rw [untouched] at held
        exact (mine.untouched later held).quiet (quiet _ (once.apart_rest rfl held))
      · rw [claimed]
        exact mine.counted
      · rintro _ _ _ rfl
        simp [WorkerCall.unsent] at nothingUnsent
    · exact (once.prepared one (List.mem_cons_of_mem _ other)).quiet
        fun id held => quiet id (once.apart (by simp [WorkerCall.claimed]) other held)
  case unnamed =>
    intro transfer sent
    simp only [WorkerStatement.execute, List.mem_append, List.mem_singleton] at sent
    rcases sent with old | rfl
    · exact once.unnamed transfer old
    · obtain ⟨row, listed, same⟩ := once.known payout.id
        (by simp [WorkerCall.claimedIds, WorkerCall.claimed])
      have below := once.drawn row listed
      simp only [WorkerStatement.execute, outgoing]
      omega

/-- Any other step keeps every worker in order, unless it overtakes a pending attempt. -/
theorem goes_on {cfg : Config} {answer : WorkerAnswer} (once : SentOnce store (call :: others))
    (settled : ∀ payout rest, call = .askPrior payout rest →
      ∀ prior, store.transfer payout.reference = some prior →
        (answer.status = .told → prior.state ≠ .pending) ∧ (answer.status = .notFound → prior.state = .failed))
    (unwritten : ∀ id reference, (call.next cfg store answer).1 ≠ .writeReference id reference)
    (unsent : ∀ transfer, (call.next cfg store answer).1 ≠ .send transfer)
    (nothingUnsent : (call.next cfg store answer).2.unsent = [])
    (exclusive : Exclusive ((call.next cfg store answer).1.execute store)
      ((call.next cfg store answer).2 :: others)) :
    SentOnce ((call.next cfg store answer).1.execute store)
      ((call.next cfg store answer).2 :: others) := by
  have same := execute_transfers store unsent
  have quiet : ∀ id, Quiet store ((call.next cfg store answer).1.execute store) id := fun id =>
    quiet_execute store (unwritten id) fun transfer sends => absurd sends (unsent transfer)
  -- No transfer is sent, so each payout has the live ones it had.
  have live : ∀ id, ((call.next cfg store answer).1.execute store).live id = store.live id :=
    fun id => by simp only [PayoutStore.live, same]
  -- The call that moves has no reference left to send.
  have fewer : (unsentReferences ((call.next cfg store answer).2 :: others) ++
      store.transfers.map Transfer.reference).Sublist
      (unsentReferences (call :: others) ++ store.transfers.map Transfer.reference) := by
    rw [unsentReferences_cons, nothingUnsent, List.nil_append]
    exact (List.sublist_append_right _ _).append_right _
  refine { exclusive with
    references := by rw [same]; exact once.references
    latest := fun row listed transfer member => once.latest_quiet (quiet row.id) listed member
    untried := by rw [same]; exact untried_execute once.untried
    once := fun id => by rw [live]; exact once.once id
    prepared := fun one member => ?_
    fresh := by rw [same]; exact once.fresh.sublist fewer
    undrawn := fun reference member => ?_
    unnamed := fun transfer sent => ?_ }
  · rcases List.mem_cons.mp member with rfl | other
    · exact (next_prepared once.toTraced (once.prepared _ List.mem_cons_self)
        (fun id held => once.known id (by simp [held])) once.distinct settled unwritten
        unsent).quiet fun id _ => quiet id
    · exact (once.prepared one (List.mem_cons_of_mem _ other)).quiet fun id _ => quiet id
  · rw [same] at member
    exact (once.undrawn reference (fewer.subset member)).trans_le (nextReference_le_next ..)
  · rw [same] at sent
    exact (once.unnamed transfer sent).trans_le (nextReference_le_next ..)

/-- A resolution only ever ends what a transfer was waiting for. -/
theorem resolves {calls : List WorkerCall} (once : SentOnce store calls) (reference : Nat)
    (landed : Bool) (transactionId reason : Option String)
    (exclusive : Exclusive
      ((PayoutOutside.resolve reference landed transactionId reason).happen store) calls) :
    SentOnce ((PayoutOutside.resolve reference landed transactionId reason).happen store) calls := by
  -- Resolving keeps the reference and the payout a transfer names, and never undoes a failure.
  have resolved : ∃ resolve : Transfer → Transfer,
      ((PayoutOutside.resolve reference landed transactionId reason).happen store).transfers =
        store.transfers.map resolve ∧ ∀ transfer, (resolve transfer).reference = transfer.reference ∧
        (resolve transfer).payoutId = transfer.payoutId ∧
        ((resolve transfer).state ≠ .failed → transfer.state ≠ .failed) := by
    refine ⟨_, rfl, fun transfer => ?_⟩
    split
    · rename_i open_
      simp [open_]
    · exact ⟨rfl, rfl, fun alive => alive⟩
  obtain ⟨resolve, transfers, keeps⟩ := resolved
  have references : ((PayoutOutside.resolve reference landed transactionId reason).happen
      store).transfers.map Transfer.reference = store.transfers.map Transfer.reference := by
    simp [transfers, Function.comp_def, keeps]
  have quiet : ∀ id, Quiet store
      ((PayoutOutside.resolve reference landed transactionId reason).happen store) id := fun id => {
    rows := fun row listed same => ⟨row, listed, same, rfl⟩
    transfers := by
      simp only [transfers, List.forall_mem_map]
      exact fun transfer sent ours => ⟨transfer, sent, (keeps transfer).2.1 ▸ ours,
        (keeps transfer).1.symm, (keeps transfer).2.2⟩ }
  refine { exclusive with
    references := by rw [references]; exact once.references
    latest := fun row listed transfer member => once.latest_quiet (quiet row.id) listed member
    untried := fun row listed none transfer sent => ?_
    once := fun id => ?_
    prepared := fun one member => (once.prepared one member).quiet fun id _ => quiet id
    fresh := by rw [references]; exact once.fresh
    undrawn := by rw [references]; exact once.undrawn
    unnamed := fun transfer sent => ?_ }
  -- A transfer that MTN has resolved is one that was there.
  · rw [transfers] at sent
    obtain ⟨old, found, rfl⟩ := List.mem_map.mp sent
    rw [(keeps old).2.1]
    exact once.untried row listed none old found
  · refine le_trans ?_ (once.once id)
    simp only [PayoutStore.live, transfers, List.filter_map, List.length_map]
    refine (List.monotone_filter_right _ fun transfer alive => ?_).length_le
    simpa [(keeps transfer).2.1] using
      And.imp_right (keeps transfer).2.2 (by simpa [(keeps transfer).2.1] using alive)
  · rw [transfers] at sent
    obtain ⟨old, found, rfl⟩ := List.mem_map.mp sent
    rw [(keeps old).2.1]
    exact once.unnamed old found

/-- A newly queued payout has nothing behind it. -/
theorem enqueues {calls : List WorkerCall} (once : SentOnce store calls) (driver msisdn : String)
    (amount : ℚ) (currency : Text) (releaseAt : Nat)
    (exclusive : Exclusive
      ((PayoutOutside.enqueue driver msisdn amount currency releaseAt).happen store) calls) :
    SentOnce ((PayoutOutside.enqueue driver msisdn amount currency releaseAt).happen store) calls := by
  -- The new row has a new number, and nothing is known under it.
  have quiet : ∀ id, id < store.nextReference → Quiet store
      ((PayoutOutside.enqueue driver msisdn amount currency releaseAt).happen store) id :=
    fun id below => {
      rows := fun row listed same => by
        simp only [PayoutOutside.happen, List.mem_append, List.mem_singleton] at listed
        rcases listed with old | rfl
        · exact ⟨row, old, same, rfl⟩
        · simp only [queuedPayout] at same
          omega
      transfers := fun transfer sent ours => ⟨transfer, sent, ours, rfl, fun alive => alive⟩ }
  -- What a worker has in hand was numbered before.
  have held : ∀ one ∈ calls, ∀ id ∈ one.claimedIds, id < store.nextReference := fun one member id hand => by
    obtain ⟨row, listed, rfl⟩ := once.known id (List.mem_flatMap.mpr ⟨one, member, hand⟩)
    exact once.drawn row listed
  refine { exclusive with
    references := once.references
    latest := fun row listed transfer member => ?_
    untried := fun row listed none transfer sent => ?_
    once := once.once
    prepared := fun one member => (once.prepared one member).quiet
      fun id hand => quiet id (held one member id hand)
    fresh := once.fresh
    undrawn := fun reference member => (once.undrawn reference member).trans (Nat.lt_succ_self _)
    unnamed := fun transfer sent => (once.unnamed transfer sent).trans (Nat.lt_succ_self _) }
  · obtain ⟨sent, ours, -⟩ := mem_live.mp member
    exact once.latest_quiet (quiet row.id (ours ▸ once.unnamed transfer sent)) listed member
  · simp only [PayoutOutside.happen, List.mem_append, List.mem_singleton] at listed sent
    rcases listed with old | rfl
    · exact once.untried row old none transfer sent
    · exact (once.unnamed transfer sent).ne

end SentOnce

/-- The step neither overtakes an attempt that may yet land nor puts a claimed row back in the queue. -/
def careful (pool : WorkerPool) (event : WorkerEvent) : Prop :=
  overtakesPrior pool event = false ∧ requeuesClaimed pool event = false

instance (pool : WorkerPool) (event : WorkerEvent) : Decidable (careful pool event) :=
  inferInstanceAs (Decidable (_ ∧ _))

/-- Careful steps keep every attempt under way safe. -/
theorem sentOnce_keeps (cfg : Config) : (workers cfg).Keeps SentOnce careful where
  perm same once :=
    have unsent := (same.flatMap_right WorkerCall.unsent).append_right
      (_ : List Nat)
    { (exclusive_keeps cfg).perm same once.toExclusive, once.toTraced with
      prepared := fun one member => once.prepared one (same.mem_iff.mpr member)
      fresh := unsent.nodup_iff.mp once.fresh
      undrawn := fun reference member => once.undrawn reference (unsent.mem_iff.mpr member)
      unnamed := once.unnamed }
  moves := by
    intro pool index answer call others taken once careful
    have exclusive := (exclusive_keeps cfg).moves taken once.toExclusive careful.2
    change Exclusive ((call.next cfg pool.shared answer).1.execute pool.shared)
      ((call.next cfg pool.shared answer).2 :: others) at exclusive
    change SentOnce ((call.next cfg pool.shared answer).1.execute pool.shared)
      ((call.next cfg pool.shared answer).2 :: others)
    rcases next_transfers cfg pool.shared answer call with ⟨payout, rest, rfl, next⟩ |
        ⟨payout, reference, rest, currency, after, rfl, next, unsent, untouched, decided, claimed⟩ |
        ⟨unwritten, unsent, nothing⟩
    · rw [next] at exclusive ⊢
      exact once.writes exclusive
    · rw [next] at exclusive ⊢
      exact once.sends unsent untouched decided claimed exclusive
    -- Any other step sends nothing, and writes no reference.
    · refine once.goes_on (fun payout rest same prior found => ?_) unwritten unsent nothing exclusive
      -- These are the answers the condition on the run excludes.
      have asks := careful.1
      refine ⟨fun told pending => ?_, fun missing => ?_⟩
      · simp [overtakesPrior, taken.found, same, told, found, pending] at asks
      · simpa [overtakesPrior, taken.found, same, missing, found] using asks
  arrives := by
    intro pool entry once careful
    have exclusive := (exclusive_keeps cfg).arrives once.toExclusive careful.2
    -- A worker that begins has neither a payout in hand nor a reference drawn.
    have nothing : (entry.start).claimed = [] ∧ (entry.start).unsent = [] := by
      cases entry <;> exact ⟨rfl, rfl⟩
    refine { exclusive, once.toTraced with
      prepared := fun one member => ?_, fresh := ?_, undrawn := ?_, unnamed := once.unnamed }
    · rcases List.mem_cons.mp member with rfl | old
      · exact .idle nothing.1
      · exact once.prepared one old
    · simpa [workers, nothing.2] using once.fresh
    · simpa [workers, nothing.2] using once.undrawn
  stops := by
    intro pool index call others found once careful
    have exclusive := (exclusive_keeps cfg).stops found once.toExclusive careful.2
    -- A worker that stops lets go of what it had.
    have fewer : (unsentReferences (WorkerCall.finished :: others) ++
        pool.shared.transfers.map Transfer.reference).Sublist
        (unsentReferences (call :: others) ++ pool.shared.transfers.map Transfer.reference) := by
      rw [unsentReferences_cons, unsentReferences_cons]
      exact (List.sublist_append_right _ _).append_right _
    refine { exclusive, once.toTraced with
      prepared := fun one member => ?_
      fresh := once.fresh.sublist fewer
      undrawn := fun reference member => once.undrawn reference (fewer.subset member)
      unnamed := once.unnamed }
    rcases List.mem_cons.mp member with rfl | other
    · exact .idle rfl
    · exact once.prepared one (List.mem_cons_of_mem _ other)
  happens := by
    intro pool event once careful free
    have exclusive := (exclusive_keeps cfg).happens once.toExclusive careful.2 free
    -- A payout is new, is resolved, or waits.
    cases event with
    | enqueue driver msisdn amount currency releaseAt => exact once.enqueues _ _ _ _ _ exclusive
    | resolve reference landed transactionId reason => exact once.resolves _ _ _ _ exclusive
    | wait duration =>
      have quiet : ∀ id, Quiet pool.shared ((PayoutOutside.wait duration).happen pool.shared) id :=
        fun id => ⟨fun row listed same => ⟨row, listed, same, rfl⟩,
          fun transfer sent ours => ⟨transfer, sent, ours, rfl, fun alive => alive⟩⟩
      exact { exclusive, once.toTraced with
        prepared := fun one member => (once.prepared one member).quiet fun id _ => quiet id
        fresh := once.fresh, undrawn := once.undrawn, unnamed := once.unnamed }

/-- With no payouts there is nothing to send twice. -/
theorem sentOnce_initial : SentOnce noPayouts.shared noPayouts.calls :=
  -- There is no row, no transfer and no worker.
  { exclusive_initial with
    references := by simp [noPayouts], latest := by simp [noPayouts]
    untried := by simp [noPayouts], once := by simp [noPayouts, PayoutStore.live]
    prepared := by simp [noPayouts], fresh := by simp [noPayouts, unsentReferences]
    undrawn := by simp [noPayouts, unsentReferences], unnamed := by simp [noPayouts] }

/-- Throughout every careful run, at most one transfer of any payout has landed. -/
theorem landed_at_most_once (cfg : Config) (events : List WorkerEvent)
    (along : Along (workers cfg).step careful noPayouts events) :
    Throughout (workers cfg).step (fun pool => ∀ id, (pool.shared.landed id).length ≤ 1)
      noPayouts events := by
  refine ((sentOnce_keeps cfg).throughout sentOnce_initial along).mono fun pool once id => ?_
  -- What has landed is live.
  refine le_trans ?_ (once.once id)
  refine (List.monotone_filter_right _ fun transfer landed => ?_).length_le
  simp only [Bool.decide_and, Bool.and_eq_true, decide_eq_true_eq] at landed ⊢
  simp [landed]

/-- A payout whose first transfer is lost, and which a second tick takes up before MTN resolves it. -/
def lostTwice : List WorkerEvent :=
  [.outside (.enqueue "d" "250788123456" 1000 ['R', 'W', 'F'] 0), .call .processDuePayouts,
    .run 0 {}, .run 0 {}, .run 0 { transfer := .lost }, .run 0 {}, .run 0 {},
    .call .processDuePayouts, .run 1 {}, .run 1 {}, .run 1 {}, .run 1 {},
    .outside (.resolve 1 true none none), .outside (.resolve 2 true none none)]

/-- A payout whose first transfer is refused by MTN after it was accepted, and then sent again. -/
def sentAgain : List WorkerEvent :=
  [.outside (.enqueue "d" "250788123456" 1000 ['R', 'W', 'F'] 0), .call .processDuePayouts,
    .run 0 {}, .run 0 {}, .run 0 { transfer := .lost }, .run 0 {},
    .outside (.resolve 1 false none none), .run 0 {},
    .call .processDuePayouts, .run 1 {}, .run 1 {}, .run 1 {}, .run 1 {},
    .outside (.resolve 2 true none none)]

/-- A payout sent again after a rejection lands once. -/
theorem landed_at_most_once_sentAgain :
    Along (workers .kigali).step careful noPayouts sentAgain ∧
      Throughout (workers .kigali).step (fun pool => ∀ id, (pool.shared.landed id).length ≤ 1)
        noPayouts sentAgain ∧
      ((run (workers .kigali).step noPayouts sentAgain).shared.transfers.map Transfer.state =
        [.failed, .successful]) := by
  -- MTN has failed the first transfer by the time it is asked about.
  have along : Along (workers .kigali).step careful noPayouts sentAgain := by decide +kernel
  exact ⟨along, landed_at_most_once _ _ along, by decide +kernel⟩

/-- A second attempt that finds the first still pending pays the driver twice. -/
theorem landed_twice :
    ¬ ∀ (cfg : Config) (events : List WorkerEvent), Throughout (workers cfg).step
      (fun pool => ∀ id, (pool.shared.landed id).length ≤ 1) noPayouts events := by
  -- The claim would have one transfer landed, and two have.
  intro always
  have once := (always .kigali lostTwice).last 0
  have twice : ((run (workers .kigali).step noPayouts lostTwice).shared.landed 0).length = 2 := by
    decide +kernel
  omega

end Freight.Payout
