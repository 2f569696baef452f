import Mathlib.Data.List.Nodup
import Freight.Payout.Worker

/-! A payout row is claimed by one worker at a time, as long as confirmation leaves claimed rows alone. -/

namespace Freight.Payout

/-- The rows a worker has claimed and not finished with, as the claim returned them. -/
def WorkerCall.claimed : WorkerCall → List DriverPayout
  | .askPrior payout rest | .markLanded payout _ rest | .writeReference payout rest
  | .transfer payout _ rest | .stampSent payout rest | .giveBack payout _ rest
  | .auditFailed payout rest => payout :: rest
  | .claim | .selectSent | .askSent _ _ | .settleSent _ _ _ | .finished => []

/-- The payouts a worker has claimed and not finished with. -/
def WorkerCall.claimedIds (call : WorkerCall) : List Nat :=
  call.claimed.map DriverPayout.id

/-- The payouts any worker has claimed and not finished with. -/
def claimedIds (calls : List WorkerCall) : List Nat :=
  calls.flatMap WorkerCall.claimedIds

/--
The event is a rejection put back in the queue by confirmation while a worker holds the row.

A stamp left by an earlier attempt is what makes confirmation see such a row.
-/
def requeuesClaimed (pool : WorkerPool) : WorkerEvent → Bool
  | .run index answer =>
    match pool.calls[index]? with
    | some (.settleSent row verdict _) =>
      !answer.fails && verdict.state ≠ .successful &&
        pool.shared.payouts.any (fun payout => payout.id = row.id && payout.status = .sending) &&
        -- Some worker still has the row in hand.
        (claimedIds pool.calls).contains row.id
    | _ => false
  | _ => false

/-- A worker that takes up its next row holds all that are left. -/
@[simp] theorem nextPayout_claimed (rest : List DriverPayout) : (nextPayout rest).claimed = rest := by
  -- Both ways of taking up the next row keep it at the head.
  cases rest with
  | nil => rfl
  | cons payout rest => simp only [nextPayout]; split <;> rfl

/-- One that settles what is sent holds none. -/
@[simp] theorem nextSent_claimed (rest : List SentRow) : (nextSent rest).claimed = [] := by
  -- Confirmation claims nothing.
  cases rest <;> rfl

/-- A row keeps its id. -/
@[simp] theorem onPayout_id (statement : WorkerStatement) (now : Nat) (row : DriverPayout) :
    (statement.onPayout now row).id = row.id := by
  -- No statement writes the primary key.
  cases statement <;> simp only [WorkerStatement.onPayout] <;> split <;> rfl

/-- A statement rewrites the payouts in place. -/
@[simp] theorem execute_payouts (statement : WorkerStatement) (store : PayoutStore) :
    (statement.execute store).payouts = store.payouts.map (statement.onPayout store.now) := rfl

/-- Statements change rows in place, so the table's ids stay as they are. -/
@[simp] theorem execute_ids (statement : WorkerStatement) (store : PayoutStore) :
    (statement.execute store).payouts.map DriverPayout.id = store.payouts.map DriverPayout.id := by
  -- No statement writes an id.
  simp [Function.comp_def]

/-- Only a claim counts up a row's attempts. -/
theorem onPayout_attempts {statement : WorkerStatement} (now : Nat) {row : DriverPayout}
    (other : ∀ ids, statement = .claim ids → row.id ∉ ids) :
    (statement.onPayout now row).attempts = row.attempts := by
  -- The other statements write a row's status and its reference.
  cases statement with
  | claim ids => simp [WorkerStatement.onPayout, other ids rfl]
  | _ => simp only [WorkerStatement.onPayout] <;> split <;> rfl

/-- Every row a tick claims is a queued row of the table. -/
theorem mem_dueRows {store : PayoutStore} {row : DriverPayout} (due : row ∈ dueRows store) :
    row ∈ store.payouts ∧ row.status = .queued ∧ row.attempts < maxAttempts := by
  -- Sorting and cutting off the batch only ever keep rows of the filtered table.
  have member := (List.mem_insertionSort _).mp (List.mem_of_mem_take due)
  obtain ⟨listed, queued⟩ := List.mem_filter.mp member
  simp only [Bool.decide_and, Bool.and_eq_true, decide_eq_true_eq] at queued
  exact ⟨listed, queued.1, queued.2.2⟩

/-- A tick claims no row twice. -/
theorem dueRows_nodup {store : PayoutStore} (distinct : (store.payouts.map DriverPayout.id).Nodup) :
    ((dueRows store).map DriverPayout.id).Nodup := by
  -- The sorted list is a rearrangement of part of the table.
  have part : ((store.payouts.filter fun row => row.status = .queued ∧ row.releaseAt ≤ store.now ∧
      row.attempts < maxAttempts).map DriverPayout.id).Nodup :=
    distinct.sublist (List.filter_sublist.map _)
  have sorted := ((List.perm_insertionSort (fun first second : DriverPayout =>
    first.releaseAt ≤ second.releaseAt) _).map DriverPayout.id).nodup_iff.mpr part
  exact sorted.sublist ((List.take_sublist _ _).map _)

/-- Taking up the next row leaves a suffix of what was in hand. -/
theorem nextPayout_suffix (payout : DriverPayout) (rest : List DriverPayout) :
    (nextPayout rest).claimed <:+ payout :: rest := by
  -- It is the hand without its first row.
  rw [nextPayout_claimed]
  exact List.suffix_cons payout rest

/-- The confirmation pass has nothing in hand. -/
theorem nextSent_suffix (rest : List SentRow) (claimed : List DriverPayout) :
    (nextSent rest).claimed <:+ claimed := by
  -- It asks about rows that it has not claimed.
  rw [nextSent_claimed]
  exact List.nil_suffix

/-- A step either claims due rows from nothing, or goes on with what is left of its claim. -/
theorem next_claimed (cfg : Config) (store : PayoutStore) (answer : WorkerAnswer)
    (call : WorkerCall) :
    (call = .claim ∧ (call.next cfg store answer).1 = .claim ((dueRows store).map DriverPayout.id) ∧
      (call.next cfg store answer).2 =
        nextPayout ((dueRows store).map ((call.next cfg store answer).1.onPayout store.now))) ∨
    ((∀ ids, (call.next cfg store answer).1 ≠ .claim ids) ∧
      (call.next cfg store answer).2.claimed <:+ call.claimed) := by
  cases call with
  -- The claim takes what is due and nobody has locked.
  | claim =>
    simp only [WorkerCall.next]
    split
    · exact .inr ⟨by simp, by simp [WorkerCall.claimed]⟩
    · exact .inl ⟨trivial, rfl, rfl⟩
  | askPrior payout rest =>
    -- Whatever MTN says of the previous attempt, the row stays in hand.
    refine .inr ?_
    simp only [WorkerCall.next]
    split
    · exact ⟨by simp, List.suffix_refl _⟩
    · exact ⟨by simp, List.suffix_refl _⟩
    · split
      · exact ⟨by simp, List.suffix_refl _⟩
      · split <;> exact ⟨by simp, List.suffix_refl _⟩
  | transfer payout reference rest =>
    refine .inr ?_
    simp only [WorkerCall.next]
    split
    · exact ⟨by simp, List.suffix_refl _⟩
    · split <;> exact ⟨by simp, List.suffix_refl _⟩
  | writeReference payout rest =>
    refine .inr ?_
    simp only [WorkerCall.next]
    split <;> exact ⟨by simp, List.suffix_refl _⟩
  -- Where the payout is dealt with, the next of the claim comes up.
  | markLanded payout _ rest | stampSent payout rest =>
    refine .inr ?_
    simp only [WorkerCall.next]
    split
    · exact ⟨by simp, List.suffix_refl _⟩
    · exact ⟨by simp, nextPayout_suffix payout rest⟩
  | giveBack payout reason rest =>
    refine .inr ?_
    simp only [WorkerCall.next]
    split
    · exact ⟨by simp, List.nil_suffix⟩
    · split
      · exact ⟨by simp, List.suffix_refl _⟩
      · exact ⟨by simp, nextPayout_suffix payout rest⟩
  | auditFailed payout rest =>
    refine .inr ?_
    simp only [WorkerCall.next]
    split <;> exact ⟨by simp, nextPayout_suffix payout rest⟩
  -- A worker that confirms has claimed nothing.
  | selectSent =>
    refine .inr ?_
    simp only [WorkerCall.next]
    split
    · exact ⟨by simp, List.nil_suffix⟩
    · exact ⟨by simp, nextSent_suffix _ _⟩
  | askSent row rest =>
    refine .inr ?_
    simp only [WorkerCall.next]
    split
    · exact ⟨by simp, nextSent_suffix _ _⟩
    · split
      · exact ⟨by simp, nextSent_suffix _ _⟩
      · exact ⟨by simp, List.nil_suffix⟩
  | settleSent row verdict rest =>
    refine .inr ?_
    simp only [WorkerCall.next]
    split
    · exact ⟨by simp, List.nil_suffix⟩
    · split <;> exact ⟨by simp, nextSent_suffix _ _⟩
  | finished => exact .inr ⟨by simp [WorkerCall.next], List.suffix_refl _⟩

/-- How a row can come to be queued: it was, its own worker gave it back, or it was rejected. -/
theorem next_queued {cfg : Config} {store : PayoutStore} {answer : WorkerAnswer} {call : WorkerCall}
    {row : DriverPayout}
    (queued : ((call.next cfg store answer).1.onPayout store.now row).status = .queued) :
    (row.status = .queued ∧
      ∀ ids, (call.next cfg store answer).1 = .claim ids → row.id ∉ ids) ∨
    (∃ payout reason rest, call = .giveBack payout reason rest ∧ row.id = payout.id ∧
      (call.next cfg store answer).2.claimed = rest) ∨
    (∃ sent verdict rest, call = .settleSent sent verdict rest ∧ row.id = sent.id ∧
      row.status = .sending ∧ verdict.state ≠ .successful ∧ answer.fails = false) := by
  -- Only two statements ever write QUEUED.
  cases statement : (call.next cfg store answer).1 with
  -- A claimed row is no longer queued.
  | claim ids =>
    simp only [statement, WorkerStatement.onPayout] at queued
    split at queued
    · cases queued
    · rename_i outside
      exact .inl ⟨queued, fun _ same => by cases same; exact outside⟩
  | markLanded id transactionId =>
    simp only [statement, WorkerStatement.onPayout] at queued
    split at queued
    · cases queued
    · exact .inl ⟨queued, by simp⟩
  | writeReference id reference | stampSent id attempt =>
    simp only [statement, WorkerStatement.onPayout] at queued
    refine .inl ⟨?_, by simp⟩
    split at queued <;> exact queued
  -- What is given back was in this worker's hands.
  | giveBack id status reason =>
    by_cases same : row.id = id
    · refine .inr (.inl ?_)
      cases call with
      | giveBack payout why rest =>
        refine ⟨payout, why, rest, rfl, ?_⟩
        simp only [WorkerCall.next] at statement ⊢
        split at statement
        · cases statement
        · split at statement
          · cases statement
            simp [WorkerCall.next, *, WorkerStatement.onPayout] at queued
          · cases statement
            simp [*]
      | _ =>
        simp only [WorkerCall.next] at statement
        repeat' split at statement
        all_goals cases statement
    · simp only [statement, WorkerStatement.onPayout, if_neg same] at queued
      exact .inl ⟨queued, by simp⟩
  -- What MTN has rejected is queued again.
  | settleSent id status transactionId reason =>
    by_cases same : row.id = id ∧ row.status = .sending
    · refine .inr (.inr ?_)
      cases call with
      | settleSent sent verdict rest =>
        simp only [WorkerCall.next] at statement
        split at statement
        · cases statement
        · rename_i works
          split at statement
          · rename_i landed
            cases statement
            simp [WorkerCall.next, works, landed, WorkerStatement.onPayout, same] at queued
          · rename_i rejected
            cases statement
            exact ⟨sent, verdict, rest, rfl, same.1, same.2, rejected, by simpa using works⟩
      | _ =>
        simp only [WorkerCall.next] at statement
        repeat' split at statement
        all_goals cases statement
    · simp only [statement, WorkerStatement.onPayout, if_neg same] at queued
      exact .inl ⟨queued, by simp⟩
  | nothing | send _ | audit _ =>
    simp only [statement, WorkerStatement.onPayout] at queued
    exact .inl ⟨queued, by simp⟩

/-- Distinct primary keys tell the rows of a table apart. -/
theorem same_row {rows : List DriverPayout} (distinct : (rows.map DriverPayout.id).Nodup)
    {first second : DriverPayout} (here : first ∈ rows) (there : second ∈ rows)
    (same : first.id = second.id) : first = second :=
  List.inj_on_of_nodup_map distinct here there same

/-- A claimed id belongs to a row in some worker's hands. -/
theorem mem_claimedIds {calls : List WorkerCall} {id : Nat} :
    id ∈ claimedIds calls ↔ ∃ call ∈ calls, ∃ payout ∈ call.claimed, payout.id = id := by
  -- The ids are those of what each worker has claimed.
  simp [claimedIds, WorkerCall.claimedIds]

/-- What the first worker has claimed, and what the others have. -/
@[simp] theorem claimedIds_cons (call : WorkerCall) (others : List WorkerCall) :
    claimedIds (call :: others) = call.claimedIds ++ claimedIds others := rfl

/-- No payout is in two hands at once, and none in hand is in the queue. -/
structure Exclusive (store : PayoutStore) (calls : List WorkerCall) : Prop where
  /-- Ids are a primary key. -/
  distinct : (store.payouts.map DriverPayout.id).Nodup
  /-- Ids still to be drawn are new. -/
  drawn : ∀ row ∈ store.payouts, row.id < store.nextReference
  /-- Each payout is in at most one worker's hands, and once. -/
  oneHand : (claimedIds calls).Nodup
  /-- What is in hand is a row of the table. -/
  known : ∀ id ∈ claimedIds calls, ∃ row ∈ store.payouts, row.id = id
  /-- The next tick claims nothing that is in hand. -/
  notQueued : ∀ row ∈ store.payouts, row.id ∈ claimedIds calls → row.status ≠ .queued
  /-- The attempts a worker goes by are those of the row. -/
  attempts : ∀ call ∈ calls, ∀ payout ∈ call.claimed, ∀ row ∈ store.payouts,
    row.id = payout.id → payout.attempts = row.attempts

/-- What a worker holds after a step it held before, or has just claimed from the queue. -/
theorem next_hands {cfg : Config} {store : PayoutStore} {answer : WorkerAnswer} {call : WorkerCall}
    {id : Nat} (held : id ∈ (call.next cfg store answer).2.claimedIds) :
    id ∈ call.claimedIds ∨ ∃ ids, (call.next cfg store answer).1 = .claim ids ∧ id ∈ ids ∧
      ∃ row ∈ store.payouts, row.id = id ∧ row.status = .queued := by
  rcases next_claimed cfg store answer call with ⟨-, statement, due⟩ | ⟨-, kept⟩
  · -- The rows handed over are the due ones, and those are queued.
    rw [WorkerCall.claimedIds, due, nextPayout_claimed] at held
    simp only [List.map_map, List.mem_map, Function.comp_apply, onPayout_id] at held
    obtain ⟨row, listed, rfl⟩ := held
    have member := mem_dueRows listed
    exact .inr ⟨_, statement, List.mem_map_of_mem listed, row, member.1, rfl, member.2.1⟩
  · exact .inl ((kept.sublist.map DriverPayout.id).subset held)

/-- A worker's step leaves its hands without repetition. -/
theorem next_hands_nodup {cfg : Config} {store : PayoutStore} {answer : WorkerAnswer}
    {call : WorkerCall} (distinct : (store.payouts.map DriverPayout.id).Nodup)
    (before : call.claimedIds.Nodup) : (call.next cfg store answer).2.claimedIds.Nodup := by
  -- A claim takes rows that are due, each once; otherwise a hand only lets go.
  rcases next_claimed cfg store answer call with ⟨-, -, due⟩ | ⟨-, kept⟩
  · rw [WorkerCall.claimedIds, due, nextPayout_claimed]
    simpa [Function.comp_def] using dueRows_nodup distinct
  · exact before.sublist (kept.sublist.map DriverPayout.id)

namespace Exclusive

variable {store : PayoutStore} {calls others : List WorkerCall} {call : WorkerCall}

/-- A queued row is in nobody's hands. -/
theorem free_of_queued (exclusive : Exclusive store calls) {row : DriverPayout}
    (listed : row ∈ store.payouts) (queued : row.status = .queued) : row.id ∉ claimedIds calls :=
  fun held => exclusive.notQueued row listed held queued

/-- Dropping what one worker holds keeps the rest exclusive. -/
theorem smaller (exclusive : Exclusive store (call :: others)) {next : WorkerCall}
    (nothing : next.claimed = []) : Exclusive store (next :: others) where
  distinct := exclusive.distinct
  drawn := exclusive.drawn
  oneHand := by
    -- What the worker had in hand is dropped, and the others hold what they held.
    have nodup := exclusive.oneHand
    rw [claimedIds_cons] at nodup
    simpa [WorkerCall.claimedIds, nothing] using (List.nodup_append.mp nodup).2.1
  known := fun id held => exclusive.known id
    (by simp [WorkerCall.claimedIds, nothing] at held; simp [held])
  notQueued := fun row listed held => exclusive.notQueued row listed
    (by simp [WorkerCall.claimedIds, nothing] at held; simp [held])
  attempts := fun one member payout held => by
    rcases List.mem_cons.mp member with rfl | other
    · simp [nothing] at held
    · exact exclusive.attempts one (List.mem_cons_of_mem _ other) payout held

/-- A step that does not re-queue a claimed row leaves every queued row in nobody's hands. -/
theorem next_notQueued {cfg : Config} {answer : WorkerAnswer}
    (exclusive : Exclusive store (call :: others))
    (spares : ∀ sent verdict rest, call = .settleSent sent verdict rest → answer.fails = false →
      verdict.state ≠ .successful → ∀ row ∈ store.payouts, row.id = sent.id →
      row.status = .sending → row.id ∉ claimedIds (call :: others))
    {row : DriverPayout} (listed : row ∈ store.payouts)
    (held : row.id ∈ claimedIds ((call.next cfg store answer).2 :: others)) :
    ((call.next cfg store answer).1.onPayout store.now row).status ≠ .queued := by
  intro queued
  -- Either this worker holds the row now, or another one did all along.
  rw [claimedIds_cons, List.mem_append] at held
  have nodup := exclusive.oneHand
  rw [claimedIds_cons, List.nodup_append] at nodup
  rcases next_queued queued with ⟨was, unclaimed⟩ | ⟨payout, reason, rest, rfl, same, left⟩ |
      ⟨sent, verdict, rest, rfl, same, sending, rejected, works⟩
  · have free := exclusive.free_of_queued listed was
    rw [claimedIds_cons, List.mem_append] at free
    rcases held with mine | other
    · rcases next_hands mine with before | ⟨ids, statement, claimed, -⟩
      · exact free (.inl before)
      · exact unclaimed ids statement claimed
    · exact free (.inr other)
  · -- The row given back was in this worker's hands alone.
    have mine : row.id ∈ (WorkerCall.giveBack payout reason rest).claimedIds := by
      simp [WorkerCall.claimedIds, WorkerCall.claimed, same]
    rcases held with again | other
    · rw [WorkerCall.claimedIds, left, same] at again
      exact (List.nodup_cons.mp nodup.1).1 again
    · exact nodup.2.2 _ mine _ other rfl
  · have spared := spares sent verdict rest rfl works rejected row listed same sending
    rw [claimedIds_cons, List.mem_append] at spared
    rcases held with mine | other
    · rcases next_hands mine with before | ⟨ids, statement, -⟩
      · exact spared (.inl before)
      · simp only [WorkerCall.next, works, Bool.false_eq_true, if_false, if_neg rejected] at statement
        cases statement
    · exact spared (.inr other)

/-- A worker's step counts attempts on the row and in hand alike. -/
theorem next_attempts {cfg : Config} {answer : WorkerAnswer}
    (exclusive : Exclusive store (call :: others)) {one : WorkerCall}
    (member : one ∈ (call.next cfg store answer).2 :: others) {payout : DriverPayout}
    (held : payout ∈ one.claimed) {row : DriverPayout} (listed : row ∈ store.payouts)
    (same : row.id = payout.id) :
    payout.attempts = ((call.next cfg store answer).1.onPayout store.now row).attempts := by
  rcases next_claimed cfg store answer call with ⟨-, statement, due⟩ | ⟨other, kept⟩
  · rcases List.mem_cons.mp member with rfl | elsewhere
    · -- The claim returns the rows as it has just written them.
      rw [due, nextPayout_claimed] at held
      obtain ⟨origin, from_, rfl⟩ := List.mem_map.mp held
      rw [onPayout_id] at same
      rw [same_row exclusive.distinct listed (mem_dueRows from_).1 same]
    · -- Another worker's row is not queued, so this claim leaves it alone.
      have before := exclusive.attempts one (List.mem_cons_of_mem _ elsewhere) payout held row listed same
      -- The row is in the hands of that other worker.
      have hand : row.id ∈ claimedIds (call :: others) :=
        mem_claimedIds.mpr ⟨one, List.mem_cons_of_mem _ elsewhere, payout, held, same.symm⟩
      rw [onPayout_attempts _ fun ids equal inside => ?_]
      · exact before
      · rw [statement] at equal
        cases equal
        obtain ⟨origin, from_, id⟩ := List.mem_map.mp inside
        have found := mem_dueRows from_
        rw [same_row exclusive.distinct found.1 listed id] at found
        exact exclusive.notQueued row listed hand found.2.1
  · rw [onPayout_attempts _ fun ids equal => absurd equal (other ids)]
    rcases List.mem_cons.mp member with rfl | elsewhere
    · exact exclusive.attempts call List.mem_cons_self payout (kept.subset held) row listed same
    · exact exclusive.attempts one (List.mem_cons_of_mem _ elsewhere) payout held row listed same

end Exclusive

/-- References and serials are only ever drawn upwards. -/
theorem nextReference_le_next (cfg : Config) (store : PayoutStore) (answer : WorkerAnswer)
    (call : WorkerCall) :
    store.nextReference ≤ ((call.next cfg store answer).1.execute store).nextReference := by
  -- The reference a worker writes is the next one to be drawn.
  cases call <;> simp only [WorkerCall.next] <;> repeat' split
  all_goals simp [WorkerStatement.execute]

/-- A rejection that is put back in the queue while the run is careful is of an unclaimed row. -/
theorem spares_of_kept {cfg : Config} {pool : WorkerPool} {index : Nat} {answer : WorkerAnswer}
    {call : WorkerCall} {others : List WorkerCall}
    (taken : (workers cfg).Taken pool index answer call others)
    (kept : requeuesClaimed pool (.run index answer) = false) :
    ∀ sent verdict rest, call = .settleSent sent verdict rest → answer.fails = false →
      verdict.state ≠ .successful → ∀ row ∈ pool.shared.payouts, row.id = sent.id →
      row.status = .sending → row.id ∉ claimedIds (call :: others) := by
  intro sent verdict rest same works rejected row listed here sending held
  -- Whoever holds the row is one of the calls of the pool.
  have hand := (taken.all.flatMap_right WorkerCall.claimedIds).mem_iff.mpr held
  simp only [requeuesClaimed, taken.found, same, works, Bool.not_false, Bool.true_and,
    Bool.and_eq_false_iff, List.any_eq_false, rejected, ne_eq, not_false_eq_true,
    decide_true] at kept
  rcases kept with absent | free
  · exact absent row listed (by simp [here, sending])
  · rw [here] at hand
    simp only [List.contains_eq_mem, decide_eq_false_iff_not] at free
    exact free hand

/-- Workers exclude each other as long as confirmation leaves claimed rows alone. -/
theorem exclusive_keeps (cfg : Config) :
    (workers cfg).Keeps Exclusive fun pool event => requeuesClaimed pool event = false where
  perm same exclusive :=
    have ids := same.flatMap_right WorkerCall.claimedIds
    { distinct := exclusive.distinct
      drawn := exclusive.drawn
      oneHand := ids.nodup_iff.mp exclusive.oneHand
      known := fun id held => exclusive.known id (ids.mem_iff.mpr held)
      notQueued := fun row listed held => exclusive.notQueued row listed (ids.mem_iff.mpr held)
      attempts := fun one member => exclusive.attempts one (same.mem_iff.mpr member) }
  moves := by
    intro pool index answer call others taken exclusive spared
    change Exclusive ((call.next cfg pool.shared answer).1.execute pool.shared)
      ((call.next cfg pool.shared answer).2 :: others)
    have nodup := exclusive.oneHand
    rw [claimedIds_cons, List.nodup_append] at nodup
    refine ⟨?distinct, ?drawn, ?oneHand, ?known, ?notQueued, ?attempts⟩
    case distinct => rw [execute_ids]; exact exclusive.distinct
    case drawn =>
      simp only [execute_payouts, List.forall_mem_map, onPayout_id]
      exact fun row listed => (exclusive.drawn row listed).trans_le (nextReference_le_next ..)
    case oneHand =>
      rw [claimedIds_cons, List.nodup_append]
      refine ⟨next_hands_nodup exclusive.distinct nodup.1, nodup.2.1, fun id mine other held same => ?_⟩
      subst same
      rcases next_hands mine with before | ⟨ids, -, -, row, listed, rfl, queued⟩
      · exact nodup.2.2 id before id held rfl
      · exact exclusive.free_of_queued listed queued (by simp [held])
    case known =>
      intro id held
      rw [claimedIds_cons, List.mem_append] at held
      have before : ∃ row ∈ pool.shared.payouts, row.id = id := by
        rcases held with mine | other
        · rcases next_hands mine with before | ⟨ids, -, -, row, listed, same, -⟩
          · exact exclusive.known id (by simp [before])
          · exact ⟨row, listed, same⟩
        · exact exclusive.known id (by simp [other])
      obtain ⟨row, listed, same⟩ := before
      exact ⟨_, List.mem_map_of_mem listed, by rw [onPayout_id, same]⟩
    case notQueued =>
      simp only [execute_payouts, List.forall_mem_map, onPayout_id]
      refine fun row listed held => exclusive.next_notQueued ?_ listed held
      -- The condition on the run is the one case the lemma leaves open.
      exact spares_of_kept taken spared
    case attempts =>
      intro one member payout held
      simp only [execute_payouts, List.forall_mem_map, onPayout_id]
      exact fun row listed same => exclusive.next_attempts member held listed same
  arrives := by
    intro pool entry exclusive _
    -- A worker starts with nothing in hand.
    have nothing : (entry.start).claimed = [] := by cases entry <;> rfl
    refine { exclusive with
      oneHand := ?_, known := fun id held => ?_, notQueued := fun row listed held => ?_,
      attempts := fun one member payout held => ?_ }
    · simpa [workers, WorkerCall.claimedIds, nothing] using exclusive.oneHand
    · exact exclusive.known id (by simpa [workers, WorkerCall.claimedIds, nothing] using held)
    · exact exclusive.notQueued row listed
        (by simpa [workers, WorkerCall.claimedIds, nothing] using held)
    · rcases List.mem_cons.mp member with rfl | other
      · simp [workers, nothing] at held
      · exact exclusive.attempts one other payout held
  stops := fun _ exclusive _ => exclusive.smaller rfl
  happens := by
    intro pool event exclusive _ _
    cases event with
    | enqueue driver msisdn amount currency releaseAt =>
      -- The new row's id is new, so it is in nobody's hands.
      have unheld : pool.shared.nextReference ∉ claimedIds pool.calls := fun held => by
        obtain ⟨row, listed, same⟩ := exclusive.known _ held
        exact absurd (exclusive.drawn row listed) (by omega)
      refine ⟨?_, ?_, exclusive.oneHand, fun id held => ?_, ?_, ?_⟩
      · simp only [workers, PayoutOutside.happen, List.map_append, List.map_cons, List.map_nil]
        refine List.nodup_append.mpr ⟨exclusive.distinct, by simp, fun id listed other new same => ?_⟩
        obtain ⟨row, member, rfl⟩ := List.mem_map.mp listed
        have below := exclusive.drawn row member
        simp only [List.mem_singleton, queuedPayout] at new
        omega
      · intro row listed
        simp only [workers, PayoutOutside.happen, List.mem_append, List.mem_singleton] at listed ⊢
        rcases listed with old | rfl
        · exact (exclusive.drawn row old).trans (Nat.lt_succ_self _)
        · exact Nat.lt_succ_self _
      · obtain ⟨row, listed, same⟩ := exclusive.known id held
        exact ⟨row, List.mem_append_left _ listed, same⟩
      · intro row listed held
        simp only [workers, PayoutOutside.happen, List.mem_append, List.mem_singleton] at listed
        rcases listed with old | rfl
        · exact exclusive.notQueued row old held
        · exact absurd held unheld
      · intro one member payout held row listed same
        simp only [workers, PayoutOutside.happen, List.mem_append, List.mem_singleton] at listed
        rcases listed with old | rfl
        · exact exclusive.attempts one member payout held row old same
        · exact absurd (mem_claimedIds.mpr ⟨one, member, payout, held, same.symm⟩) unheld
    | resolve | wait => exact { exclusive with }

/-- The empty table starts out exclusive. -/
theorem exclusive_initial : Exclusive noPayouts.shared noPayouts.calls := by
  -- Nobody has claimed anything, and there is no row.
  constructor <;> simp [noPayouts, claimedIds]

end Freight.Payout
