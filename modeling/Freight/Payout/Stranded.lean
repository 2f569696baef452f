import Freight.Payout.Claims

/-! Every payout out of a worker's hands is paid, can still be paid, or has been reported as failed. -/

namespace Freight.Payout

/-- Where a payout nobody is working on may be. -/
def Accounted (store : PayoutStore) (row : DriverPayout) : Prop :=
  row.status = .successful ∨
  -- A later tick can claim it.
  (row.status = .queued ∧ row.attempts < maxAttempts) ∨
  -- Confirmation will ask about it, on a stamp of its current attempt.
  (row.status = .sending ∧ ∃ stamp, row.sentAt = some stamp ∧ stamp.attempt = row.attempts) ∨
  -- It waits for a human, and the audit log says so.
  (row.status = .failed ∧
    ∃ entry ∈ store.audit, entry.actionType = "DRIVER_PAYOUT_FAILED" ∧ entry.subject = row.id)

/-- Every payout out of the workers' hands is accounted for. -/
def AllAccounted (pool : WorkerPool) : Prop :=
  ∀ row ∈ pool.shared.payouts, row.id ∉ claimedIds pool.calls → Accounted pool.shared row

/--
The event leaves a payout where neither a tick nor confirmation will look for it.

A worker stops with rows in hand, its catch block fails itself, or confirmation puts a row back in
the queue whose attempts are used up.
-/
def strands (pool : WorkerPool) : WorkerEvent → Bool
  | .stop index =>
    match pool.calls[index]? with
    | some call => call.claimed ≠ []
    | none => false
  | .run index answer =>
    match pool.calls[index]? with
    -- The catch block has nobody behind it to catch its own failure.
    | some (.giveBack _ _ _) | some (.auditFailed _ _) => answer.fails
    | some (.settleSent row verdict _) =>
      !answer.fails && verdict.state ≠ .successful &&
        pool.shared.payouts.any fun payout =>
          payout.id = row.id && payout.status = .sending && maxAttempts ≤ payout.attempts
    | _ => false
  | _ => false

/-- The step strands no payout, and puts no claimed row back in the queue. -/
def orderly (pool : WorkerPool) (event : WorkerEvent) : Prop :=
  strands pool event = false ∧ requeuesClaimed pool event = false

instance (pool : WorkerPool) (event : WorkerEvent) : Decidable (orderly pool event) :=
  inferInstanceAs (Decidable (_ ∧ _))

/-- The payout that has failed for good and is about to be audited. -/
def WorkerCall.condemned : WorkerCall → List Nat
  | .auditFailed payout _ => [payout.id]
  | _ => []

/-- The payouts a worker is still trying to send. -/
def WorkerCall.trying : WorkerCall → List Nat
  | .auditFailed _ rest => rest.map DriverPayout.id
  | call => call.claimedIds

/-- What the table says of a row in one worker's hands. -/
structure InHand (row : DriverPayout) (call : WorkerCall) : Prop where
  /-- A claimed row is being sent, unless an earlier attempt has been confirmed meanwhile. -/
  trying : row.id ∈ call.trying → row.status = .sending ∨ row.status = .successful
  /-- A condemned row has failed. -/
  condemned : row.id ∈ call.condemned → row.status = .failed

/-- Every row is accounted for, or is in the hands of a worker that will see to it. -/
structure Attended (store : PayoutStore) (calls : List WorkerCall) : Prop extends
    Exclusive store calls where
  /-- No attempt goes beyond the last. -/
  capped : ∀ call ∈ calls, ∀ payout ∈ call.claimed, payout.attempts ≤ maxAttempts
  /-- Rows in hand are in the state their worker takes them to be in. -/
  inHand : ∀ row ∈ store.payouts, ∀ call ∈ calls, InHand row call
  /-- Rows out of hand are accounted for. -/
  accounted : ∀ row ∈ store.payouts, row.id ∉ claimedIds calls → Accounted store row

/-- A worker that takes up its next row is trying all that are left. -/
@[simp] theorem nextPayout_trying (rest : List DriverPayout) :
    (nextPayout rest).trying = rest.map DriverPayout.id := by
  -- Whether it is to be looked up first or not, the row is to be sent.
  cases rest with
  | nil => rfl
  | cons payout rest => simp only [nextPayout]; split <;> rfl

/-- And it has given up on none. -/
@[simp] theorem nextPayout_condemned (rest : List DriverPayout) : (nextPayout rest).condemned = [] := by
  -- It begins on the row.
  cases rest with
  | nil => rfl
  | cons payout rest => simp only [nextPayout]; split <;> rfl

/-- What a worker is trying to send it has claimed. -/
theorem trying_claimed {call : WorkerCall} {id : Nat} (trying : id ∈ call.trying) :
    id ∈ call.claimedIds := by
  -- While a failure is being reported its row is no longer tried, and the rest still is.
  cases call with
  | auditFailed payout rest =>
    simp only [WorkerCall.trying] at trying
    simp only [WorkerCall.claimedIds, WorkerCall.claimed, List.map_cons]
    exact List.mem_cons_of_mem _ trying
  | _ => exact trying

/-- What a worker has condemned it has claimed. -/
theorem condemned_claimed {call : WorkerCall} {id : Nat} (condemned : id ∈ call.condemned) :
    id ∈ call.claimedIds := by
  -- State by state, what is condemned is the row in hand.
  cases call <;>
    simp_all [WorkerCall.condemned, WorkerCall.claimedIds, WorkerCall.claimed]

/-- A worker with nothing in hand says nothing of any row. -/
theorem InHand.idle {row : DriverPayout} {call : WorkerCall} (nothing : call.claimed = []) :
    InHand row call where
  -- What is tried or condemned is held.
  trying := fun held => by
    have claimed := trying_claimed held
    simp [WorkerCall.claimedIds, nothing] at claimed
  condemned := fun held => by
    have claimed := condemned_claimed held
    simp [WorkerCall.claimedIds, nothing] at claimed

/-- Audit entries are only ever added. -/
theorem Accounted.execute {statement : WorkerStatement} {store : PayoutStore} {row : DriverPayout}
    (accounted : Accounted store row) : Accounted (statement.execute store) row := by
  -- The row's own columns are the same, and so is its entry in the log.
  have kept : ∀ entry ∈ store.audit, entry ∈ (statement.execute store).audit := by
    intro entry member
    cases statement <;> simp [WorkerStatement.execute, member]
  rcases accounted with paid | queued | sent | ⟨failed, entry, member, reports⟩
  · exact .inl paid
  · exact .inr (.inl queued)
  · exact .inr (.inr (.inl sent))
  · exact .inr (.inr (.inr ⟨failed, entry, kept entry member, reports⟩))

/-- A worker writes only rows it claims, the row it is at, or a sent row it has asked about. -/
theorem next_touches (cfg : Config) (store : PayoutStore) (answer : WorkerAnswer)
    (call : WorkerCall) (row : DriverPayout) :
    (call.next cfg store answer).1.onPayout store.now row = row ∨
    (∃ ids, (call.next cfg store answer).1 = .claim ids ∧ row.id ∈ ids) ∨
    row.id ∈ call.claimedIds ∨
    (∃ sent verdict rest, call = .settleSent sent verdict rest ∧ row.id = sent.id ∧
      row.status = .sending ∧ answer.fails = false ∧
      ((call.next cfg store answer).1.onPayout store.now row).attempts = row.attempts ∧
      ((verdict.state = .successful ∧
        ((call.next cfg store answer).1.onPayout store.now row).status = .successful) ∨
      (verdict.state ≠ .successful ∧
        ((call.next cfg store answer).1.onPayout store.now row).status = .queued))) := by
  by_cases held : row.id ∈ call.claimedIds
  · exact .inr (.inr (.inl held))
  cases call with
  | claim =>
    simp only [WorkerCall.next]
    split
    · exact .inl rfl
    · by_cases due : row.id ∈ (dueRows store).map DriverPayout.id
      · exact .inr (.inl ⟨_, rfl, due⟩)
      · exact .inl (by simp only [WorkerStatement.onPayout, if_neg due])
  | settleSent sent verdict rest =>
    by_cases fails : answer.fails
    · exact .inl (by simp [WorkerCall.next, fails, WorkerStatement.onPayout])
    · by_cases target : row.id = sent.id ∧ row.status = .sending
      · -- The guard of the statement is met.
        refine .inr (.inr (.inr ⟨sent, verdict, rest, rfl, target.1, target.2, by simpa using fails,
          ?_, ?_⟩))
        · by_cases landed : verdict.state = .successful <;>
            simp [WorkerCall.next, fails, landed, WorkerStatement.onPayout, target]
        · by_cases landed : verdict.state = .successful <;>
            simp [WorkerCall.next, fails, landed, WorkerStatement.onPayout, target]
      · refine .inl ?_
        by_cases landed : verdict.state = .successful <;>
          simp [WorkerCall.next, fails, landed, WorkerStatement.onPayout, target]
  | askPrior payout rest | markLanded payout transactionId rest | writeReference payout rest
  | transfer payout reference rest | stampSent payout rest | giveBack payout reason rest
  | auditFailed payout rest =>
    -- The row is not the one in hand.
    have apart : row.id ≠ payout.id := fun same => held (by
      simp [WorkerCall.claimedIds, WorkerCall.claimed, same])
    refine .inl ?_
    simp only [WorkerCall.next]
    repeat' split
    all_goals simp [WorkerStatement.onPayout, apart]
  | selectSent | askSent | finished =>
    refine .inl ?_
    simp only [WorkerCall.next]
    repeat' split
    all_goals rfl

/-- It has claimed the rows that are left. -/
@[simp] theorem nextPayout_claimedIds (rest : List DriverPayout) :
    (nextPayout rest).claimedIds = rest.map DriverPayout.id := by
  -- The row in hand is the first of them.
  simp [WorkerCall.claimedIds]

/-- A worker says nothing of a row it does not hold. -/
theorem InHand.absent {row : DriverPayout} {call : WorkerCall} (free : row.id ∉ call.claimedIds) :
    InHand row call where
  -- It holds what it tries and what it has given up.
  trying := fun held => absurd (trying_claimed held) free
  condemned := fun held => absurd (condemned_claimed held) free

/-- A row being sent, or already paid, is in the right state for a worker still trying. -/
theorem InHand.sending {row : DriverPayout} {call : WorkerCall}
    (status : row.status = .sending ∨ row.status = .successful) (open_ : call.condemned = []) :
    InHand row call where
  -- An open row is not one that has been condemned.
  trying := fun _ => status
  condemned := fun held => by simp [open_] at held

section Moves

variable {cfg : Config} {store : PayoutStore} {answer : WorkerAnswer} {call : WorkerCall}
  {others : List WorkerCall} {row : DriverPayout}

/-- The next statement of a worker strands no row. -/
structure SeesTo (store : PayoutStore) (answer : WorkerAnswer) (call : WorkerCall)
    (others : List WorkerCall) : Prop where
  /-- What the catch block writes gets through. -/
  works : (∃ payout reason rest, call = .giveBack payout reason rest) ∨
    (∃ payout rest, call = .auditFailed payout rest) → answer.fails = false
  /-- Confirmation puts back no row that is in some worker's hands or has used its attempts up. -/
  spared : ∀ sent verdict rest, call = .settleSent sent verdict rest → answer.fails = false →
    verdict.state ≠ .successful → ∀ row ∈ store.payouts, row.id = sent.id →
      row.status = .sending → row.id ∉ claimedIds (call :: others) ∧ row.attempts < maxAttempts

/-- That is what the condition on the run says of it. -/
theorem seesTo_of_orderly {pool : WorkerPool} {index : Nat}
    (taken : (workers cfg).Taken pool index answer call others)
    (admitted : orderly pool (.run index answer)) : SeesTo pool.shared answer call others where
  works := by
    have strands := admitted.1
    rintro (⟨payout, reason, rest, rfl⟩ | ⟨payout, rest, rfl⟩) <;>
      simpa [Payout.strands, taken.found] using strands
  spared := by
    intro sent verdict rest same fine rejected row listed target sending
    have free := spares_of_kept taken admitted.2 sent verdict rest same fine rejected row listed target sending
    refine ⟨free, ?_⟩
    -- A row with no attempts left would be stranded by being put back.
    have strands := admitted.1
    simp only [Payout.strands, taken.found, same, fine, Bool.not_false, Bool.true_and, ne_eq,
      rejected, not_false_eq_true, decide_true, List.any_eq_false] at strands
    have more := strands row listed
    simp only [target, sending, decide_true, Bool.true_and, decide_eq_true_eq] at more
    omega

/-- A row in a worker's hands, seen to by its next statement: it stays there in order, or is accounted for. -/
def SeenTo (cfg : Config) (store : PayoutStore) (answer : WorkerAnswer) (call : WorkerCall)
    (row : DriverPayout) : Prop :=
  InHand ((call.next cfg store answer).1.onPayout store.now row) (call.next cfg store answer).2 ∧
    (row.id ∉ (call.next cfg store answer).2.claimedIds →
      Accounted ((call.next cfg store answer).1.execute store)
        ((call.next cfg store answer).1.onPayout store.now row))

/-- A row behind the one that has been dealt with is still being sent. -/
theorem seenTo_behind {later : PayoutStore} {rest : List DriverPayout} {id : Nat}
    (status : row.status = .sending ∨ row.status = .successful) (behind : id ∈ rest.map DriverPayout.id) :
    InHand row (nextPayout rest) ∧ (id ∉ (nextPayout rest).claimedIds → Accounted later row) :=
  -- The worker goes on to what is left, and the row is among that.
  ⟨.sending status (nextPayout_condemned rest), fun dropped => absurd (by simpa using behind) dropped⟩

/-- A row that MTN has landed is paid. -/
theorem seenTo_markLanded {payout : DriverPayout} {transactionId : String} {rest : List DriverPayout}
    (held : row.id ∈ (WorkerCall.markLanded payout transactionId rest).claimedIds)
    (status : row.status = .sending ∨ row.status = .successful) :
    SeenTo cfg store answer (.markLanded payout transactionId rest) row := by
  -- Where the UPDATE fails, the catch block has the row.
  simp only [SeenTo, WorkerCall.next]
  split
  · exact ⟨.sending status rfl, fun dropped => absurd held dropped⟩
  · by_cases same : row.id = payout.id
    · exact ⟨.sending (.inr (by simp [WorkerStatement.onPayout, same])) (nextPayout_condemned rest),
        fun _ => .inl (by simp [WorkerStatement.onPayout, same])⟩
    · have later : row.id ∈ rest.map DriverPayout.id := by
        simpa [WorkerCall.claimedIds, WorkerCall.claimed, same] using held
      exact seenTo_behind (by simpa [WorkerStatement.onPayout, same] using status) later

/-- A row that MTN has taken is stamped with its attempt. -/
theorem seenTo_stampSent {payout : DriverPayout} {rest : List DriverPayout}
    (held : row.id ∈ (WorkerCall.stampSent payout rest).claimedIds)
    (status : row.status = .sending ∨ row.status = .successful)
    (counted : row.id = payout.id → payout.attempts = row.attempts) :
    SeenTo cfg store answer (.stampSent payout rest) row := by
  simp only [SeenTo, WorkerCall.next]
  split
  · exact ⟨.sending status rfl, fun dropped => absurd held dropped⟩
  · by_cases same : row.id = payout.id
    · -- The stamp is the current attempt's own.
      have agree := counted same
      refine ⟨.sending (by simpa [WorkerStatement.onPayout, same] using status)
        (nextPayout_condemned rest), fun _ => ?_⟩
      rcases status with sending | paid
      · exact .inr (.inr (.inl ⟨by simp [WorkerStatement.onPayout, same, sending],
          { time := store.now, attempt := payout.attempts },
          by simp [WorkerStatement.onPayout, same], by simp [WorkerStatement.onPayout, same, agree]⟩))
      · exact .inl (by simp [WorkerStatement.onPayout, same, paid])
    · have later : row.id ∈ rest.map DriverPayout.id := by
        simpa [WorkerCall.claimedIds, WorkerCall.claimed, same] using held
      exact seenTo_behind (by simpa [WorkerStatement.onPayout, same] using status) later

/-- A row that could not be sent is given back to the queue, or condemned on its last attempt. -/
theorem seenTo_giveBack {payout : DriverPayout} {reason : String} {rest : List DriverPayout}
    (held : row.id ∈ (WorkerCall.giveBack payout reason rest).claimedIds)
    (status : row.status = .sending ∨ row.status = .successful) (fine : answer.fails = false)
    (once : payout.id ∉ rest.map DriverPayout.id)
    (counted : row.id = payout.id → payout.attempts = row.attempts ∧ payout.attempts ≤ maxAttempts) :
    SeenTo cfg store answer (.giveBack payout reason rest) row := by
  simp only [SeenTo, WorkerCall.next, fine, Bool.false_eq_true, if_false]
  by_cases same : row.id = payout.id
  · have agree := counted same
    split
    · -- The last attempt: condemned, and about to be audited.
      refine ⟨⟨fun trying => ?_, fun _ => by simp [WorkerStatement.onPayout, same]⟩,
        fun dropped => absurd held dropped⟩
      simp only [WorkerCall.trying, onPayout_id, same] at trying
      exact absurd trying once
    · rename_i more
      refine ⟨⟨fun trying => ?_, fun held => by simp at held⟩, fun _ => .inr (.inl ⟨?_, ?_⟩)⟩
      · simp only [nextPayout_trying, onPayout_id, same] at trying
        exact absurd trying once
      · simp [WorkerStatement.onPayout, same]
      · simp only [WorkerStatement.onPayout, same, if_true]
        omega
  · have later : row.id ∈ rest.map DriverPayout.id := by
      simpa [WorkerCall.claimedIds, WorkerCall.claimed, same] using held
    split
    · refine ⟨⟨fun _ => by simpa [WorkerStatement.onPayout, same] using status, fun condemned => ?_⟩,
        fun dropped => absurd held dropped⟩
      simp only [WorkerCall.condemned, onPayout_id, List.mem_singleton] at condemned
      exact absurd condemned same
    · exact seenTo_behind (by simpa [WorkerStatement.onPayout, same] using status) later

/-- A row that is condemned is audited. -/
theorem seenTo_auditFailed {payout : DriverPayout} {rest : List DriverPayout}
    (held : row.id ∈ (WorkerCall.auditFailed payout rest).claimedIds)
    (own : InHand row (.auditFailed payout rest)) (fine : answer.fails = false)
    (once : payout.id ∉ rest.map DriverPayout.id) :
    SeenTo cfg store answer (.auditFailed payout rest) row := by
  simp only [SeenTo, WorkerCall.next, fine, Bool.false_eq_true, if_false]
  by_cases same : row.id = payout.id
  · -- It has failed, and the entry just written says so.
    have failed := own.condemned (by simp [WorkerCall.condemned, same])
    refine ⟨⟨fun trying => ?_, fun held => by simp at held⟩,
      fun _ => .inr (.inr (.inr ⟨failed, _, List.mem_append_right _ (List.mem_singleton_self _), rfl,
        same.symm⟩))⟩
    simp only [nextPayout_trying, onPayout_id, same] at trying
    exact absurd trying once
  · have later : row.id ∈ rest.map DriverPayout.id := by
      simpa [WorkerCall.claimedIds, WorkerCall.claimed, same] using held
    exact seenTo_behind (own.trying later) later

/-- What a step makes of a row in its worker's hands: it stays there in order, or is accounted for. -/
theorem Attended.next_own (attended : Attended store (call :: others))
    (sees : SeesTo store answer call others)
    (listed : row ∈ store.payouts) (held : row.id ∈ call.claimedIds) :
    SeenTo cfg store answer call row := by
  have nodup := attended.oneHand
  rw [claimedIds_cons, List.nodup_append] at nodup
  have own := attended.inHand row listed call List.mem_cons_self
  have counted : ∀ payout ∈ call.claimed, row.id = payout.id →
      payout.attempts = row.attempts ∧ payout.attempts ≤ maxAttempts := fun payout mine same =>
    ⟨attended.attempts call List.mem_cons_self payout mine row listed same,
      attended.capped call List.mem_cons_self payout mine⟩
  cases call with
  | claim | selectSent | askSent | settleSent | finished =>
    simp [WorkerCall.claimedIds, WorkerCall.claimed] at held
  | askPrior payout rest | transfer payout reference rest =>
    -- The row is only asked about, or asked for.
    have status := own.trying held
    simp only [SeenTo, WorkerCall.next]
    repeat' split
    all_goals exact ⟨.sending status rfl, fun dropped => absurd held dropped⟩
  -- The reference is written, and the row is still this worker's.
  | writeReference payout rest =>
    have status := own.trying held
    simp only [SeenTo, WorkerCall.next]
    split
    · exact ⟨.sending status rfl, fun dropped => absurd held dropped⟩
    · refine ⟨.sending ?_ rfl, fun dropped => absurd held dropped⟩
      simp only [WorkerStatement.onPayout]
      split <;> exact status
  -- Here the payout has landed, was sent, or is given back.
  | markLanded payout transactionId rest => exact seenTo_markLanded held (own.trying held)
  | stampSent payout rest =>
    exact seenTo_stampSent held (own.trying held) fun same => (counted payout List.mem_cons_self same).1
  | giveBack payout reason rest =>
    exact seenTo_giveBack held (own.trying held) (sees.works (.inl ⟨payout, reason, rest, rfl⟩))
      (List.nodup_cons.mp nodup.1).1 (counted payout List.mem_cons_self)
  | auditFailed payout rest =>
    exact seenTo_auditFailed held own (sees.works (.inr ⟨payout, rest, rfl⟩)) (List.nodup_cons.mp nodup.1).1

/-- What a step makes of any other row: it stays where it was, or is claimed. -/
theorem Attended.next_other (attended : Attended store (call :: others))
    (sees : SeesTo store answer call others) (listed : row ∈ store.payouts) (unheld : row.id ∉ call.claimedIds) :
    (∃ ids, (call.next cfg store answer).1 = .claim ids ∧ row.id ∈ ids) ∨
      ((∀ other ∈ others, InHand ((call.next cfg store answer).1.onPayout store.now row) other) ∧
        (row.id ∉ claimedIds others → Accounted ((call.next cfg store answer).1.execute store)
          ((call.next cfg store answer).1.onPayout store.now row))) := by
  -- What the others have in hand is asked of them one by one.
  have own := fun other member => attended.inHand row listed other (List.mem_cons_of_mem call member)
  have before : row.id ∉ claimedIds others → Accounted store row := fun free =>
    attended.accounted row listed (by simp [unheld, free])
  rcases next_touches cfg store answer call row with same | claimed | mine |
      ⟨sent, verdict, rest, rfl, target, sending, fine, attempts, ⟨landed, now⟩ | ⟨rejected, now⟩⟩
  · rw [same]
    exact .inr ⟨own, fun free => (before free).execute⟩
  · exact .inl claimed
  · exact absurd mine unheld
  · -- Confirmed: a condemned row is not being sent, so nobody minds.
    refine .inr ⟨fun other member => ⟨fun _ => .inr now, fun condemned => ?_⟩, fun _ => .inl now⟩
    rw [onPayout_id] at condemned
    have failed := (own other member).condemned condemned
    rw [sending] at failed
    cases failed
  · -- Rejected: the row is in nobody's hands, and has attempts left.
    obtain ⟨free, more⟩ := sees.spared sent verdict rest rfl fine rejected row listed target sending
    refine .inr ⟨fun other member => ⟨fun trying => ?_, fun condemned => ?_⟩,
      fun _ => .inr (.inl ⟨now, by rw [attempts]; exact more⟩)⟩
    · rw [onPayout_id] at trying
      exact absurd (List.mem_append_right _ (List.mem_flatMap.mpr ⟨other, member,
        trying_claimed trying⟩)) free
    · rw [onPayout_id] at condemned
      exact absurd (List.mem_append_right _ (List.mem_flatMap.mpr ⟨other, member,
        condemned_claimed condemned⟩)) free

/-- A row just claimed is being sent. -/
theorem next_claims {ids : List Nat} (statement : (call.next cfg store answer).1 = .claim ids)
    (listed : row.id ∈ ids) :
    ((call.next cfg store answer).1.onPayout store.now row).status = .sending ∧
      (call.next cfg store answer).2.condemned = [] ∧ ids = (dueRows store).map DriverPayout.id ∧
      row.id ∈ (call.next cfg store answer).2.claimedIds := by
  -- Of all statements only the claim has these ids, and it has those that are due.
  rcases next_claimed cfg store answer call with ⟨-, same, due⟩ | ⟨other, -⟩
  · rw [same] at statement
    cases statement
    refine ⟨by simp [same, WorkerStatement.onPayout, listed], ?_, rfl, ?_⟩
    · rw [due, nextPayout_condemned]
    · rw [due, nextPayout_claimedIds]
      simpa [Function.comp_def] using listed
  · exact absurd statement (other ids)

/-- A step takes no row beyond its last attempt. -/
theorem Attended.capped_moves (attended : Attended store (call :: others)) :
    ∀ one ∈ (call.next cfg store answer).2 :: others, ∀ payout ∈ one.claimed,
      payout.attempts ≤ maxAttempts := by
  intro one member payout mine
  rcases List.mem_cons.mp member with rfl | other
  · rcases next_claimed cfg store answer call with ⟨-, statement, due⟩ | ⟨-, kept⟩
    · -- The claim only takes rows with attempts left, and counts one more.
      rw [due, nextPayout_claimed] at mine
      obtain ⟨origin, listed, rfl⟩ := List.mem_map.mp mine
      have more := (mem_dueRows listed).2.2
      have here : origin.id ∈ (dueRows store).map DriverPayout.id := List.mem_map_of_mem listed
      simp only [statement, WorkerStatement.onPayout, here, if_true]
      omega
    · -- Any other step is left with rows it held before.
      exact attended.capped call List.mem_cons_self payout (kept.subset mine)
  · exact attended.capped one (List.mem_cons_of_mem _ other) payout mine

/-- A row that is claimed is being sent by the worker that claims it, and in no other's hands. -/
theorem Attended.inHand_claimed (attended : Attended store (call :: others)) (listed : row ∈ store.payouts)
    {ids : List Nat} (statement : (call.next cfg store answer).1 = .claim ids) (inside : row.id ∈ ids) :
    ∀ one ∈ (call.next cfg store answer).2 :: others,
      InHand ((call.next cfg store answer).1.onPayout store.now row) one := by
  obtain ⟨sending, open_, due, -⟩ := next_claims statement inside
  intro one member
  rcases List.mem_cons.mp member with rfl | other
  · exact .sending (.inl sending) open_
  · -- It was queued, and a queued row is in nobody's hands.
    rw [due] at inside
    obtain ⟨origin, queued, same⟩ := List.mem_map.mp inside
    have found := mem_dueRows queued
    rw [same_row attended.distinct found.1 listed same] at found
    refine .absent fun theirs => attended.free_of_queued listed found.2.1 ?_
    rw [onPayout_id] at theirs
    exact List.mem_append_right _ (List.mem_flatMap.mpr ⟨one, other, theirs⟩)

/-- A step leaves every row in hand in order. -/
theorem Attended.inHand_moves (attended : Attended store (call :: others))
    (sees : SeesTo store answer call others) (listed : row ∈ store.payouts) :
    ∀ one ∈ (call.next cfg store answer).2 :: others,
      InHand ((call.next cfg store answer).1.onPayout store.now row) one := by
  -- The row is in this worker's hands, or has just been claimed, or is none of its business.
  by_cases held : row.id ∈ call.claimedIds
  · intro one member
    rcases List.mem_cons.mp member with rfl | other
    · exact (attended.next_own sees listed held).1
    · -- What this worker holds, no other one does.
      have nodup := attended.oneHand
      rw [claimedIds_cons, List.nodup_append] at nodup
      refine .absent fun theirs => ?_
      rw [onPayout_id] at theirs
      exact nodup.2.2 _ held _ (List.mem_flatMap.mpr ⟨one, other, theirs⟩) rfl
  · by_cases taken : ∃ ids, (call.next cfg store answer).1 = .claim ids ∧ row.id ∈ ids
    · obtain ⟨ids, statement, inside⟩ := taken
      exact attended.inHand_claimed listed statement inside
    · intro one member
      rcases List.mem_cons.mp member with rfl | other
      · -- A worker comes to hold a row only by claiming it.
        refine .absent fun mine => ?_
        rw [onPayout_id] at mine
        rcases next_hands mine with before | ⟨ids, statement, inside, -⟩
        · exact held before
        · exact taken ⟨ids, statement, inside⟩
      · exact ((attended.next_other sees listed held).resolve_left taken).1 one other

/-- A step leaves every row out of hand accounted for. -/
theorem Attended.accounted_moves (attended : Attended store (call :: others))
    (sees : SeesTo store answer call others) (listed : row ∈ store.payouts)
    (out : row.id ∉ (call.next cfg store answer).2.claimedIds) (free : row.id ∉ claimedIds others) :
    Accounted ((call.next cfg store answer).1.execute store)
      ((call.next cfg store answer).1.onPayout store.now row) := by
  -- Either this worker lets go of the row with this step, or nobody had it.
  by_cases held : row.id ∈ call.claimedIds
  · exact (attended.next_own sees listed held).2 out
  · rcases attended.next_other sees listed held with ⟨ids, statement, inside⟩ | ⟨-, kept⟩
    · exact absurd (next_claims statement inside).2.2.2 out
    · exact kept free

end Moves

section Keeps

variable {cfg : Config} {pool : WorkerPool} {call : WorkerCall} {others : List WorkerCall}

/-- A worker that holds nothing, as one that arrives or has stopped, leaves every payout attended to. -/
theorem Attended.idle {store : PayoutStore} {calls : List WorkerCall} (attended : Attended store calls)
    (among : ∀ other ∈ others, other ∈ calls) (same : claimedIds calls = claimedIds others)
    (nothing : call.claimed = []) (exclusive : Exclusive store (call :: others)) :
    Attended store (call :: others) where
  toExclusive := exclusive
  capped := by
    intro one member payout mine
    rcases List.mem_cons.mp member with rfl | old
    · rw [nothing] at mine
      cases mine
    · exact attended.capped one (among one old) payout mine
  inHand := by
    intro row listed one member
    rcases List.mem_cons.mp member with rfl | old
    · exact .idle nothing
    · exact attended.inHand row listed one (among one old)
  accounted := by
    -- The same rows are out of hand as before.
    intro row listed free
    refine attended.accounted row listed fun held => free ?_
    rw [claimedIds_cons]
    exact List.mem_append_right _ (same ▸ held)

/-- A payout that is queued anew can be claimed, and nobody holds it. -/
theorem Attended.enqueues (attended : Attended pool.shared pool.calls) {driver msisdn : String} {amount : ℚ}
    {currency : Text} {releaseAt : Nat}
    (exclusive : Exclusive ((workers cfg).outside (.enqueue driver msisdn amount currency releaseAt) pool.shared)
      pool.calls) :
    Attended ((workers cfg).outside (.enqueue driver msisdn amount currency releaseAt) pool.shared)
      pool.calls := by
  -- Its number has been drawn just now.
  have fresh : ∀ one ∈ pool.calls, pool.shared.nextReference ∉ one.claimedIds := by
    intro one member held
    obtain ⟨row, listed, same⟩ := attended.known _ (List.mem_flatMap.mpr ⟨one, member, held⟩)
    have below := attended.drawn row listed
    omega
  refine { exclusive with
    capped := attended.capped, inHand := fun row listed one member => ?_
    accounted := fun row listed unheld => ?_ }
  · simp only [workers, PayoutOutside.happen, List.mem_append, List.mem_singleton] at listed
    rcases listed with old | rfl
    · exact attended.inHand row old one member
    · exact .absent (fresh one member)
  · simp only [workers, PayoutOutside.happen, List.mem_append, List.mem_singleton] at listed
    rcases listed with old | rfl
    · exact attended.accounted row old unheld
    · exact .inr (.inl ⟨rfl, by simp [queuedPayout, maxAttempts]⟩)

/-- Orderly steps leave every payout attended to. -/
theorem attended_keeps (cfg : Config) : (workers cfg).Keeps Attended orderly where
  perm same attended :=
    have ids := same.flatMap_right WorkerCall.claimedIds
    { (exclusive_keeps cfg).perm same attended.toExclusive with
      capped := fun one member => attended.capped one (same.mem_iff.mpr member)
      inHand := fun row listed one member => attended.inHand row listed one (same.mem_iff.mpr member)
      accounted := fun row listed free =>
        attended.accounted row listed fun held => free (ids.mem_iff.mp held) }
  moves := by
    intro pool index answer call others taken attended orderly
    have exclusive := (exclusive_keeps cfg).moves taken attended.toExclusive orderly.2
    change Attended ((call.next cfg pool.shared answer).1.execute pool.shared)
      ((call.next cfg pool.shared answer).2 :: others)
    have sees := seesTo_of_orderly taken orderly
    refine { exclusive with capped := attended.capped_moves, inHand := ?inHand, accounted := ?accounted }
    -- Every row of the table afterwards is one of before, as the statement leaves it.
    case inHand =>
      simp only [execute_payouts, List.forall_mem_map]
      exact fun row listed => attended.inHand_moves sees listed
    case accounted =>
      simp only [execute_payouts, List.forall_mem_map, onPayout_id, claimedIds_cons,
        List.mem_append, not_or]
      exact fun row listed free => attended.accounted_moves sees listed free.1 free.2
  arrives := by
    intro pool entry attended orderly
    have exclusive := (exclusive_keeps cfg).arrives attended.toExclusive orderly.2
    have nothing : (entry.start).claimed = [] := by cases entry <;> rfl
    exact attended.idle (fun _ member => member) rfl nothing exclusive
  stops := by
    intro pool index call others found attended orderly
    have exclusive := (exclusive_keeps cfg).stops found attended.toExclusive orderly.2
    -- Only a worker with nothing in hand may stop.
    have nothing : call.claimed = [] := by
      have strands := orderly.1
      simpa [Payout.strands, found] using strands
    refine attended.idle (fun _ member => List.mem_cons_of_mem _ member) ?_ rfl exclusive
    rw [claimedIds_cons, WorkerCall.claimedIds, nothing, List.map_nil, List.nil_append]
  happens := by
    intro pool event attended orderly free
    have exclusive := (exclusive_keeps cfg).happens attended.toExclusive orderly.2 free
    cases event with
    | enqueue => exact attended.enqueues exclusive
    | resolve | wait => exact { exclusive with
        capped := attended.capped, inHand := attended.inHand, accounted := attended.accounted }

end Keeps

/-- An empty table leaves nothing to attend to. -/
theorem attended_initial : Attended noPayouts.shared noPayouts.calls :=
  { exclusive_initial with
    capped := by simp [noPayouts], inHand := by simp [noPayouts], accounted := by simp [noPayouts] }

/-- Throughout every orderly run, every payout out of the workers' hands is accounted for. -/
theorem no_payout_stranded (cfg : Config) (events : List WorkerEvent)
    (along : Along (workers cfg).step orderly noPayouts events) :
    Throughout (workers cfg).step AllAccounted noPayouts events :=
  ((attended_keeps cfg).throughout attended_initial along).mono fun _ attended => attended.accounted

/-- One tick that sends the only payout, has MTN answer at once, and confirms it. -/
def tick (index reference : Nat) (landed : Bool) : List WorkerEvent :=
  [.call .processDuePayouts, .run index {}] ++
    -- Every attempt but the first asks after the one before.
    (if reference = 1 then [] else [.run index {}]) ++
    [.run index {}, .run index {}, .run index {}, .outside (.resolve reference landed none none),
      .run index {}, .run index {}, .run index {}]

/-- A payout whose first four transfers are rejected and whose fifth is as told. -/
def fifthTransfer (landed : Bool) : List WorkerEvent :=
  .outside (.enqueue "d" "250788123456" 1000 ['R', 'W', 'F'] 0) ::
    (tick 0 1 false ++ tick 1 2 false ++ tick 2 3 false ++ tick 3 4 false ++ tick 4 5 landed)

/-- A payout accepted on its fifth attempt ends up paid. -/
theorem no_payout_stranded_fifthTransfer :
    Along (workers .kigali).step orderly noPayouts (fifthTransfer true) ∧
      Throughout (workers .kigali).step AllAccounted noPayouts (fifthTransfer true) ∧
      (run (workers .kigali).step noPayouts (fifthTransfer true)).shared.payouts.map
        (fun row => (row.status, row.attempts)) = [(.successful, 5)] := by
  -- The run is short enough to be checked step by step.
  have along : Along (workers .kigali).step orderly noPayouts (fifthTransfer true) := by
    decide +kernel
  exact ⟨along, no_payout_stranded _ _ along, by decide +kernel⟩

/-- A fifth transfer that is accepted and later rejected is queued for an attempt it will never get. -/
theorem payout_stranded :
    ¬ ∀ (cfg : Config) (events : List WorkerEvent),
      Throughout (workers cfg).step AllAccounted noPayouts events := by
  intro always
  have accounted := (always .kigali (fifthTransfer false)).last
  have left : (run (workers .kigali).step noPayouts (fifthTransfer false)).shared.payouts.map
      (fun row => (row.id, row.status, row.attempts)) = [(0, .queued, 5)] := by decide +kernel
  -- The worker has let go of the row, queued after its fifth attempt.
  have idle : claimedIds (run (workers .kigali).step noPayouts (fifthTransfer false)).calls = [] := by
    decide +kernel
  obtain ⟨row, rows, -, status, attempts⟩ : ∃ row,
      (run (workers .kigali).step noPayouts (fifthTransfer false)).shared.payouts = [row] ∧
        row.id = 0 ∧ row.status = .queued ∧ row.attempts = 5 := by
    match rows : (run (workers .kigali).step noPayouts (fifthTransfer false)).shared.payouts with
    | [row] => simpa [rows] using left
    | [] | _ :: _ :: _ => simp [rows] at left
  have found := accounted row (by simp [rows]) (by simp [idle])
  simp [Accounted, status, attempts, maxAttempts] at found

end Freight.Payout
