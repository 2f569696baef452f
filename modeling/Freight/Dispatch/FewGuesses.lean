import Freight.Dispatch.Guessing

/-! A handover code is guessed at a bounded number of times, however the guesses interleave. -/

namespace Freight.Dispatch

variable {cfg : DispatchConfig} {id : Nat} {board : Board} {guessed : Guessed}

/-- What an order keeps of its handover code. -/
structure CodeState where
  hash : Option String
  attempts : Nat

/-- The handover code of the order. -/
def Board.codeState (board : Board) (id : Nat) : Option CodeState :=
  (board.order id).map fun order => ⟨order.deliveryCodeHash, order.deliveryCodeAttempts⟩

/-- A code has been issued, and may be submitted. -/
def Board.codeLive (board : Board) (id : Nat) : Bool :=
  (board.codeState id).any fun code => (Payment.present code.hash).isSome

/-- The wrong guesses that are on record. -/
def Board.codeAttempts (board : Board) (id : Nat) : Nat :=
  ((board.codeState id).map CodeState.attempts).getD 0

/-- A change to the order that leaves its code alone. -/
theorem codeState_changeOrder {change : DispatchOrder → DispatchOrder}
    {keeps : ∀ order, (change order).id = order.id}
    (same : ∀ order, (change order).deliveryCodeHash = order.deliveryCodeHash ∧
      (change order).deliveryCodeAttempts = order.deliveryCodeAttempts) :
    (board.changeOrder id change keeps).codeState id = board.codeState id := by
  -- The row is looked up after the change, and its code reads the same.
  unfold Board.codeState
  rw [Board.order_changeOrder, if_pos rfl, Option.map_map]
  cases board.order id with
  | none => rfl
  | some order => simp [(same order).1, (same order).2]

/-- A bare UPDATE of the status leaves the code alone. -/
@[simp] theorem codeState_withLeft (left : Option OrderStatus) :
    (board.withLeft id left).codeState id = board.codeState id := by
  -- The code stands in other columns.
  cases left with
  | none => rfl
  | some status => exact codeState_changeOrder fun _ => ⟨rfl, rfl⟩

/-- A guess that is counted is one attempt more. -/
@[simp] theorem codeState_guessCounted :
    (board.guessCounted id).codeState id =
      (board.codeState id).map fun code => { code with attempts := code.attempts + 1 } := by
  -- Only the attempts of the one row are written.
  unfold Board.guessCounted Board.codeState
  rw [Board.order_changeOrder, if_pos rfl, Option.map_map, Option.map_map]
  rfl

/-- A delivery leaves the code alone. -/
@[simp] theorem codeState_deliveryConfirmed (asked : Confirmation) (method : ProofMethod)
    (order : DispatchOrder) :
    (board.deliveryConfirmed cfg id asked method order).codeState id = board.codeState id :=
  -- The code stands in other columns.
  @codeState_changeOrder id board (fun order => order.confirmed cfg board) (fun _ => rfl)
    fun _ => ⟨rfl, rfl⟩

/-- A status update stores a new code, with no attempt at it, or leaves the code alone. -/
@[simp] theorem codeState_statusCommitted (asked : StatusUpdate) (order : DispatchOrder)
    (status : OrderStatus) (waited : Option ℚ) (issue : Bool) :
    (board.statusCommitted cfg id asked order status waited issue).codeState id =
      if issue then (board.codeState id).map fun _ => ⟨some (cfg.hashCode asked.code), 0⟩
      else board.codeState id := by
  cases issue with
  | false =>
    exact @codeState_changeOrder id board _ (DispatchOrder.updated_id cfg status waited asked.code false)
      fun _ => ⟨rfl, rfl⟩
  | true =>
    -- The row that is committed has the new code and no attempt.
    have stored := board.order_changeOrder id (.updated cfg status waited asked.code true)
      (DispatchOrder.updated_id cfg status waited asked.code true) id
    rw [if_pos rfl] at stored
    refine (congrArg (Option.map _) stored).trans ?_
    rw [Option.map_map, if_pos rfl]
    unfold Board.codeState
    rw [Option.map_map]
    rfl

/-- What happens elsewhere leaves the code alone. -/
@[simp] theorem codeState_happens (event : Elsewhere) :
    (event.happens id guessed).board.codeState id = guessed.board.codeState id := by
  -- Another order's row is changed, or something that is no order.
  cases event with
  | order row => exact codeState_changeOrder fun _ => ⟨rfl, rfl⟩
  | rest board => rfl

/-- What a statement does to the code. -/
def GuessStatement.code (cfg : DispatchConfig) : GuessStatement → CodeState → CodeState
  | .commitGuess _, code => { code with attempts := code.attempts + 1 }
  | .commitUpdated _ asked _ _ _ true, _ => ⟨some (cfg.hashCode asked.code), 0⟩
  | _, code => code

/-- A statement does to the board's code what it does to a code. -/
theorem codeState_execute (statement : GuessStatement) :
    (statement.execute cfg id guessed).board.codeState id =
      (guessed.board.codeState id).map (statement.code cfg) := by
  have same : guessed.board.codeState id = (guessed.board.codeState id).map fun code => code := by simp
  cases statement with
  | unseen | lock | check => exact same
  -- A COMMIT writes what was left on the connection, too, which is no code.
  | commitGuess left =>
    show ((guessed.board.withLeft id left).guessCounted id).codeState id = _
    rw [codeState_guessCounted, codeState_withLeft]
    rfl
  | commitRefused left =>
    show (guessed.board.withLeft id left).codeState id = _
    rw [codeState_withLeft]
    exact same
  | commitDelivered left asked method order =>
    show ((guessed.board.withLeft id left).deliveryConfirmed cfg id asked method order).codeState id = _
    rw [codeState_deliveryConfirmed, codeState_withLeft]
    exact same
  | commitUpdated left asked order status waited issue =>
    show ((guessed.board.withLeft id left).statusCommitted cfg id asked order status waited issue).codeState
      id = _
    rw [codeState_statusCommitted, codeState_withLeft]
    cases issue with
    | false => exact same
    | true => rfl

/-- Only a code that is live, and not used up, is found wrong. -/
theorem live_of_wrongCode {submitted : Text} {attemptsLeft : Nat}
    (wrong : verifyDeliveryCode cfg board id submitted = .error (.wrongCode attemptsLeft)) :
    board.codeLive id = true ∧ board.codeAttempts id < deliveryCodeMaxAttempts := by
  -- Behind an issued hash and an attempt that is left, nothing but the comparison can refuse.
  unfold verifyDeliveryCode at wrong
  simp only [bind_error, demand_error, demand_ok, require_error, require_ok, reduceCtorEq, and_false,
    false_or] at wrong
  obtain ⟨order, found, hash, issued, -, left, -⟩ := wrong
  simp only [Board.codeLive, Board.codeAttempts, Board.codeState, found, Option.map_some, Option.any_some,
    issued, Option.isSome_some, Option.getD_some, true_and]
  exact of_decide_eq_true left

/-- A live code that is used up is not compared with anything. -/
theorem tooManyAttempts_of_used (live : board.codeLive id = true)
    (used : deliveryCodeMaxAttempts ≤ board.codeAttempts id) (submitted : Text) :
    verifyDeliveryCode cfg board id submitted = .error .tooManyAttempts := by
  -- The row is there with its hash, and the attempts are checked before the code is.
  cases found : board.order id with
  | none => simp [Board.codeLive, Board.codeState, found] at live
  | some order =>
    simp only [Board.codeLive, Board.codeAttempts, Board.codeState, found, Option.map_some, Option.any_some,
      Option.getD_some] at live used
    obtain ⟨hash, issued⟩ := Option.isSome_iff_exists.mp live
    have refused : decide (order.deliveryCodeAttempts < deliveryCodeMaxAttempts) = false :=
      decide_eq_false (not_lt.mpr used)
    simp only [verifyDeliveryCode, found, issued, demand, refused, require, Bind.bind, Except.bind]
    rfl

/-- The guesses that were kept are on the record of a live code, which is never overdrawn. -/
structure Tally (id : Nat) (guessed : Guessed) : Prop where
  uncoded : guessed.board.codeLive id = false → guessed.kept = 0
  counted : guessed.kept ≤ guessed.board.codeAttempts id
  bounded : 0 < guessed.kept → guessed.board.codeAttempts id ≤ deliveryCodeMaxAttempts

/-- What a connection relies on of the order it has locked. -/
def GuessCall.Sound (id : Nat) (board : Board) : GuessCall → Prop
  | .confirm _ _ (.countGuess _) | .confirm _ _ (.commitGuess _) =>
    board.codeLive id = true ∧ board.codeAttempts id < deliveryCodeMaxAttempts
  | .update _ _ (.storeCode ..) | .update _ _ (.insertLog _ _ _ true) | .update _ _ (.commit _ _ _ true) =>
    board.codeLive id = false
  | _ => True

/-- Only a connection that has locked the order relies on anything. -/
theorem GuessCall.sound_of_unlocked {call : GuessCall} (unlocked : () ∉ call.holds) : call.Sound id board := by
  -- Wherever a call relies on the row, it holds its lock.
  unfold GuessCall.holds at unlocked
  split at unlocked
  all_goals first
    | exact absurd (List.mem_singleton_self _) unlocked
    | trivial

/-- What a connection relies on is a matter of the code alone. -/
theorem GuessCall.Sound.congr {call : GuessCall} {later : Board} (sound : call.Sound id board)
    (same : later.codeState id = board.codeState id) : call.Sound id later := by
  -- Whether the code is live and how often it was tried are read off its state.
  have live : later.codeLive id = board.codeLive id := by
    unfold Board.codeLive
    rw [same]
  have attempts : later.codeAttempts id = board.codeAttempts id := by
    unfold Board.codeAttempts
    rw [same]
  unfold GuessCall.Sound at sound ⊢
  rw [live, attempts]
  exact sound

/-- So is the tally. -/
theorem Tally.congr {later : Guessed} (tally : Tally id guessed) (kept : later.kept = guessed.kept)
    (same : later.board.codeState id = guessed.board.codeState id) : Tally id later := by
  have live : later.board.codeLive id = guessed.board.codeLive id := by
    unfold Board.codeLive
    rw [same]
  have attempts : later.board.codeAttempts id = guessed.board.codeAttempts id := by
    unfold Board.codeAttempts
    rw [same]
  -- All that is counted is read off these three.
  refine ⟨?_, ?_, ?_⟩
  · rw [kept, live]
    exact tally.uncoded
  · rw [kept, attempts]
    exact tally.counted
  · rw [kept, attempts]
    exact tally.bounded

/-- What a statement relies on. -/
def GuessStatement.Sound (id : Nat) (board : Board) : GuessStatement → Prop
  | .commitGuess _ => board.codeLive id = true ∧ board.codeAttempts id < deliveryCodeMaxAttempts
  | .commitUpdated _ _ _ _ _ true => board.codeLive id = false
  | _ => True

/-- A statement that may rely on what it does keeps the tally. -/
theorem Tally.execute {statement : GuessStatement} (tally : Tally id guessed)
    (sound : statement.Sound id guessed.board) : Tally id (statement.execute cfg id guessed) := by
  -- By what the statement writes: a guess, a code, or neither.
  have coded := @codeState_execute cfg id guessed statement
  have same : guessed.board.codeState id = (guessed.board.codeState id).map fun code => code := by simp
  cases statement with
  | unseen | lock => exact tally
  | check verdict => exact tally.congr rfl rfl
  | commitRefused | commitDelivered => exact tally.congr rfl (coded.trans same.symm)
  -- A guess that may still be made uses up one attempt and is kept as one more.
  | commitGuess left =>
    obtain ⟨live, room⟩ := sound
    cases found : guessed.board.codeState id with
    | none => simp [Board.codeLive, found] at live
    | some code =>
      rw [found] at coded
      have attempts : ((GuessStatement.commitGuess left).execute cfg id guessed).board.codeAttempts id =
          guessed.board.codeAttempts id + 1 := by
        simp only [Board.codeAttempts, coded, found, Option.map_some, Option.getD_some]
        rfl
      have lives : ((GuessStatement.commitGuess left).execute cfg id guessed).board.codeLive id = true := by
        simp only [Board.codeLive, found, Option.any_some] at live
        simp only [Board.codeLive, coded, Option.map_some, Option.any_some]
        exact live
      have counted := tally.counted
      refine ⟨fun dead => ?_, ?_, fun _ => ?_⟩
      · rw [lives] at dead
        cases dead
      · rw [attempts]
        exact Nat.succ_le_succ counted
      · rw [attempts]
        exact room
  | commitUpdated left asked order status waited issue =>
    cases issue with
    | false => exact tally.congr rfl (coded.trans same.symm)
    | true =>
      -- A code is issued where none was live, so nothing has been guessed yet.
      have none_kept := tally.uncoded sound
      have kept : ((GuessStatement.commitUpdated left asked order status waited true).execute
        cfg id guessed).kept = 0 := none_kept
      exact ⟨fun _ => kept, by rw [kept]; exact Nat.zero_le _, fun some_kept => by omega⟩

section Next

variable {asked : Confirmation} {update : StatusUpdate} {left : Option OrderStatus} {answer : GuessAnswer}

/-- A confirmation's statement runs, or fails before its COMMIT and is rolled back. -/
theorem next_confirm (call : ConfirmCall) :
    (GuessCall.confirm asked left call).next cfg id board answer = call.next cfg id board asked left ∨
      (GuessCall.confirm asked left call).next cfg id board answer = (.unseen, .done (.error .database)) := by
  -- A failing statement before the COMMIT is rolled back, and one behind it changes nothing.
  cases answer with
  | fails =>
    simp only [GuessCall.next]
    split
    · exact .inl rfl
    · exact .inr rfl
  | works | handed | ended => exact .inl rfl

/-- So does a status update's. -/
theorem next_update (call : UpdateCall) :
    (GuessCall.update update left call).next cfg id board answer = call.next cfg id board update left ∨
      (GuessCall.update update left call).next cfg id board answer = (.unseen, .done (.error .database)) := by
  -- A failing statement before the COMMIT is rolled back, and one behind it changes nothing.
  cases answer with
  | fails =>
    simp only [GuessCall.next]
    split
    · exact .inl rfl
    · exact .inr rfl
  | works | handed | ended => exact .inl rfl

/-- A connection left open waits, is given to a request, or has its transaction ended. -/
theorem next_leftOpen (status : OrderStatus) :
    (GuessCall.leftOpen status).next cfg id board answer = (.unseen, .leftOpen status) ∨
      (∃ entry, (GuessCall.leftOpen status).next cfg id board answer =
        (.unseen, GuessEntry.begin_ (some status) entry)) ∨
      (GuessCall.leftOpen status).next cfg id board answer = (.commitRefused (some status), .done (.ok ())) ∨
      (GuessCall.leftOpen status).next cfg id board answer = (.unseen, .done (.ok ())) := by
  -- Which of the four it is depends on the answer alone.
  cases answer with
  | works | fails => exact .inl rfl
  | handed entry => exact .inr (.inl ⟨entry, rfl⟩)
  | ended committed =>
    cases committed
    · exact .inr (.inr (.inr rfl))
    · exact .inr (.inr (.inl rfl))

/-- A request begins with nothing to rely on. -/
theorem sound_begin (entry : GuessEntry) : (entry.begin_ left).Sound id board := by
  -- Refused at once or about to look the order up, it has read nothing.
  unfold GuessEntry.begin_
  repeat' split
  all_goals trivial

/-- A new connection holds nothing. -/
theorem begin_unlocked (entry : GuessEntry) : (entry.begin_ none).holds = [] := by
  -- A request begins with a check of its input, before any statement.
  unfold GuessEntry.begin_
  cases entry with
  | confirmDelivery asked =>
    simp only
    repeat' split
    all_goals rfl
  | updateOrderStatus asked =>
    simp only
    split <;> rfl

/-- What a connection relies on allows its next statement. -/
theorem GuessCall.Sound.statement {call : GuessCall} (sound : call.Sound id board) :
    (call.next cfg id board answer).1.Sound id board := by
  cases call with
  -- The statement runs, or fails and relies on nothing.
  | confirm asked left call =>
    rcases @next_confirm cfg id board asked left answer call with runs | fails
    · rw [runs]
      cases call with
      -- Only the two COMMITs rely on anything.
      | commitGuess failure => exact sound
      | lockOrder method =>
        simp only [ConfirmCall.next]
        split <;> trivial
      | _ => trivial
    · rw [fails]
      trivial
  | update asked left call =>
    rcases @next_update cfg id board asked left answer call with runs | fails
    · rw [runs]
      cases call with
      | lockOrder =>
        simp only [UpdateCall.next]
        split <;> trivial
      | commit order status waited issue =>
        cases issue with
        | false => trivial
        | true => exact sound
      | _ => trivial
    · rw [fails]
      trivial
  | leftOpen status =>
    rcases @next_leftOpen cfg id board answer status with same | ⟨entry, same⟩ | same | same <;>
      (rw [same]; trivial)
  | done | stopped => trivial

/-- A connection relies next on what it has just read, or relied on before. -/
theorem GuessCall.Sound.next {call : GuessCall} (sound : call.Sound id board) :
    (call.next cfg id board answer).2.Sound id board := by
  cases call with
  | confirm asked left call =>
    rcases @next_confirm cfg id board asked left answer call with runs | fails
    · rw [runs]
      cases call with
      -- A wrong code was compared with one that is live, and has attempts left.
      | checkCode =>
        simp only [ConfirmCall.next]
        cases checked : verifyDeliveryCode cfg (board.withLeft id left) id asked.proof.submittedCode with
        | ok passed => trivial
        | error failure =>
          cases failure with
          | wrongCode attemptsLeft =>
            have live := live_of_wrongCode checked
            unfold Board.codeLive Board.codeAttempts at live
            rw [codeState_withLeft] at live
            exact live
          | _ => trivial
      | countGuess failure => exact sound
      | lockOrder method =>
        simp only [ConfirmCall.next]
        split <;> trivial
      | _ => trivial
    · rw [fails]
      trivial
  -- What an update reads of the code it relies on when it stores another.
  | update asked left call =>
    rcases @next_update cfg id board asked left answer call with runs | fails
    · rw [runs]
      cases call with
      | lockOrder =>
        simp only [UpdateCall.next]
        split <;> trivial
      | updateStatus order status =>
        simp only [UpdateCall.next]
        split <;> trivial
      | chargeWait order status =>
        simp only [UpdateCall.next]
        split <;> trivial
      | readCode order status waited =>
        simp only [UpdateCall.next]
        split
        · rename_i unissued
          -- The row was read under the lock, with no code on it.
          cases found : (board.withLeft id left).order id with
          | none =>
            rw [found] at unissued
            cases unissued
          | some row =>
            rw [found] at unissued
            have blank := (Bool.and_eq_true _ _ ▸ unissued : _ ∧ _).1
            show board.codeLive id = false
            unfold Board.codeLive
            rw [← @codeState_withLeft id board left]
            simpa [Board.codeState, found] using blank
        · trivial
      | storeCode order status waited => exact sound
      | insertLog order status waited issue =>
        cases issue with
        | false => trivial
        | true => exact sound
      | commit => trivial
    · rw [fails]
      trivial
  | leftOpen status =>
    rcases @next_leftOpen cfg id board answer status with same | ⟨entry, same⟩ | same | same
    · rw [same]
      trivial
    · rw [same]
      exact sound_begin entry
    · rw [same]
      trivial
    · rw [same]
      trivial
  | done | stopped => trivial

/-- What a connection holds after a statement it held before, or the statement has waited for. -/
theorem GuessCall.next_holds (call : GuessCall) :
    () ∈ (call.next cfg id board answer).2.holds →
      () ∈ call.holds ∨ () ∈ (call.next cfg id board answer).1.needs := by
  intro held
  -- A connection that held the row already holds it still.
  by_cases locked : () ∈ call.holds
  · exact .inl locked
  refine .inr ?_
  cases call with
  | confirm asked left call =>
    rcases @next_confirm cfg id board asked left answer call with runs | fails
    · rw [runs] at held ⊢
      cases call with
      -- The two statements that take the lock wait for it.
      | checkCode => exact List.mem_singleton_self _
      | lockOrder method =>
        simp only [ConfirmCall.next] at held ⊢
        split
        all_goals exact List.mem_singleton_self _
      | _ => exact absurd (by cases left <;> exact List.mem_singleton_self _) locked
    · rw [fails] at held
      cases held
  | update asked left call =>
    rcases @next_update cfg id board asked left answer call with runs | fails
    · rw [runs] at held ⊢
      cases call with
      | lockOrder =>
        simp only [UpdateCall.next] at held ⊢
        split
        all_goals exact List.mem_singleton_self _
      | _ => exact absurd (by cases left <;> exact List.mem_singleton_self _) locked
    · rw [fails] at held
      cases held
  | leftOpen status => exact absurd (List.mem_singleton_self _) locked
  | done | stopped => cases held

/-- A connection comes to hold the order only by waiting for it. -/
theorem guessing_disciplined (cfg : DispatchConfig) (id : Nat) : (guessing cfg id).Disciplined where
  -- No request locks anything before its first statement.
  starts := begin_unlocked
  stops := rfl
  waits := fun _ _ call () held => call.next_holds held

/-- A connection that holds nothing changes nothing of the board. -/
theorem board_of_unlocked {call : GuessCall} (unlocked : () ∉ call.holds) :
    ((call.next cfg id guessed.board answer).1.execute cfg id guessed).board = guessed.board := by
  cases call with
  | confirm asked left call =>
    rcases @next_confirm cfg id guessed.board asked left answer call with runs | fails
    · rw [runs]
      cases call with
      | checkCode => rfl
      | lockOrder method =>
        simp only [ConfirmCall.next]
        split <;> rfl
      -- Behind these the row is locked.
      | _ => exact absurd (by cases left <;> exact List.mem_singleton_self _) unlocked
    · rw [fails]
      rfl
  | update asked left call =>
    rcases @next_update cfg id guessed.board asked left answer call with runs | fails
    · rw [runs]
      cases call with
      | lockOrder =>
        simp only [UpdateCall.next]
        split <;> rfl
      | _ => exact absurd (by cases left <;> exact List.mem_singleton_self _) unlocked
    · rw [fails]
      rfl
  | leftOpen status => exact absurd (List.mem_singleton_self _) unlocked
  | done | stopped => rfl

/-- A statement either changes nothing of the board, or ends its transaction. -/
theorem board_or_ended (call : GuessCall) :
    ((call.next cfg id guessed.board answer).1.execute cfg id guessed).board = guessed.board ∨
      () ∉ (call.next cfg id guessed.board answer).2.holds := by
  have none_held : () ∉ ([] : List Unit) := List.not_mem_nil
  cases call with
  | confirm asked left call =>
    rcases @next_confirm cfg id guessed.board asked left answer call with runs | fails
    · rw [runs]
      cases call with
      -- A COMMIT gives the lock back, and nothing else writes the board.
      | commitGuess | commitRefused | commit => exact .inr none_held
      | lockOrder method =>
        simp only [ConfirmCall.next]
        split <;> exact .inl rfl
      | _ => exact .inl rfl
    · rw [fails]
      exact .inl rfl
  -- Of an update, only the COMMIT writes.
  | update asked left call =>
    rcases @next_update cfg id guessed.board asked left answer call with runs | fails
    · rw [runs]
      cases call with
      | commit => exact .inr none_held
      | lockOrder =>
        simp only [UpdateCall.next]
        split <;> exact .inl rfl
      | _ => exact .inl rfl
    · rw [fails]
      exact .inl rfl
  | leftOpen status =>
    rcases @next_leftOpen cfg id guessed.board answer status with same | ⟨entry, same⟩ | same | same
    · rw [same]
      exact .inl rfl
    · rw [same]
      exact .inl rfl
    · rw [same]
      exact .inr none_held
    · rw [same]
      exact .inl rfl
  | done | stopped => exact .inl rfl

end Next

/-- What every interleaving keeps: the tally, the lock, and what each connection relies on. -/
structure Guarded (cfg : DispatchConfig) (id : Nat) (guessed : Guessed) (calls : List GuessCall) : Prop where
  tally : Tally id guessed
  exclusive : (guessing cfg id).Exclusive calls
  sound : ∀ call ∈ calls, call.Sound id guessed.board

/-- Every statement, arrival and stop keeps it, and so does what happens elsewhere. -/
theorem guarded_keeps (cfg : DispatchConfig) (id : Nat) :
    (guessing cfg id).Keeps (fun guessed calls => Guarded cfg id guessed calls) fun _ _ => True where
  perm same inv :=
    ⟨inv.tally, inv.exclusive.perm same, fun call member => inv.sound call (same.mem_iff.mpr member)⟩
  moves := by
    intro pool index answer call others taken inv _
    have sound := inv.sound call List.mem_cons_self
    refine ⟨inv.tally.execute sound.statement,
      (guessing_disciplined cfg id).exclusive_keeps.moves taken inv.exclusive trivial, ?_⟩
    intro other member
    rcases List.mem_cons.mp member with rfl | among
    · -- The connection that moved relies on a board that is the same, or on nothing any more.
      rcases @board_or_ended cfg id pool.shared answer call with same | ended
      · exact sound.next.congr (congrArg (Board.codeState · id) same)
      · exact GuessCall.sound_of_unlocked ended
    · by_cases locked : () ∈ call.holds
      · -- The others hold nothing, and so rely on nothing.
        exact GuessCall.sound_of_unlocked (inv.exclusive.apart taken (.inl locked) among)
      · have same := @board_of_unlocked cfg id pool.shared answer call locked
        exact (inv.sound other (List.mem_cons_of_mem _ among)).congr (congrArg (Board.codeState · id) same)
  arrives := by
    intro pool entry inv _
    refine ⟨inv.tally, (guessing_disciplined cfg id).exclusive_keeps.arrives inv.exclusive trivial, ?_⟩
    intro call member
    rcases List.mem_cons.mp member with rfl | before
    · exact sound_begin entry
    · exact inv.sound call before
  stops := by
    intro pool index call others found inv _
    refine ⟨inv.tally, (guessing_disciplined cfg id).exclusive_keeps.stops found inv.exclusive trivial, ?_⟩
    intro other member
    rcases List.mem_cons.mp member with rfl | before
    · trivial
    · exact inv.sound other (List.mem_cons_of_mem _ before)
  happens := by
    intro pool event inv _ free
    -- What happens elsewhere leaves the code and its attempts alone.
    have same := @codeState_happens id pool.shared event
    refine ⟨inv.tally.congr ?_ same, inv.exclusive, fun call member => (inv.sound call member).congr same⟩
    cases event <;> rfl

/-- A code that was found wrong. -/
def isWrong : Except Failure Unit → Bool
  | .error (.wrongCode _) => true
  | _ => false

/-- The wrong codes that have been compared. -/
def Guessed.wrong (guessed : Guessed) : Nat := guessed.verdicts.countP isWrong

/-- A wrong guess that has been compared, and is not committed yet. -/
def GuessCall.guessing : GuessCall → Bool
  | .confirm _ _ (.countGuess _) | .confirm _ _ (.commitGuess _) => true
  | _ => false

/-- Between a wrong guess and its COMMIT the connection is not lost, and no UPDATE fails. -/
def Lands (pool : Pool Guessed GuessCall) : PoolEvent GuessEntry GuessAnswer Elsewhere → Prop
  | .run index .fails => ∀ call, pool.calls[index]? = some call → call.guessing = true → call.commits = true
  | .stop index => ∀ call, pool.calls[index]? = some call → call.guessing = false
  | _ => True

/-- A code that is live stays the one it is, and its attempts only grow. -/
def CodeStays (id : Nat) (earlier later : Board) : Prop :=
  ∀ code, earlier.codeState id = some code → (Payment.present code.hash).isSome = true →
    ∃ next, later.codeState id = some next ∧ next.hash = code.hash ∧ code.attempts ≤ next.attempts

/-- From one moment on, every code that is submitted is refused without being compared. -/
def Refuses (earlier later : Guessed) : Prop :=
  ∃ more, later.verdicts = earlier.verdicts ++ more ∧ ∀ verdict ∈ more, verdict = .error .tooManyAttempts

/-- A code stays itself when nothing happens. -/
theorem CodeStays.refl (id : Nat) (board : Board) : CodeStays id board board :=
  fun code found _ => ⟨code, found, rfl, le_rfl⟩

/-- It stays itself over two stretches of time when it does over each. -/
theorem CodeStays.trans {one two three : Board} (first : CodeStays id one two)
    (second : CodeStays id two three) : CodeStays id one three := by
  -- The code at the end is the one at the start, by way of the one between.
  intro code found live
  obtain ⟨next, there, same, grown⟩ := first code found live
  obtain ⟨last, after, still, further⟩ := second next there (by rw [same]; exact live)
  exact ⟨last, after, still.trans same, grown.trans further⟩

/-- A statement that may rely on what it does leaves a live code standing. -/
theorem codeStays_execute {statement : GuessStatement} (sound : statement.Sound id guessed.board) :
    CodeStays id guessed.board (statement.execute cfg id guessed).board := by
  intro code found live
  refine ⟨statement.code cfg code, by rw [codeState_execute, found, Option.map_some], ?_⟩
  cases statement with
  | commitGuess left => exact ⟨rfl, Nat.le_succ _⟩
  | commitUpdated left asked order status waited issue =>
    cases issue with
    | false => exact ⟨rfl, le_rfl⟩
    | true =>
      -- A new code is only issued where there is none.
      have dead : guessed.board.codeLive id = false := sound
      simp [Board.codeLive, found, live] at dead
  | _ => exact ⟨rfl, le_rfl⟩

/-- Nothing is refused over no time. -/
theorem Refuses.refl (guessed : Guessed) : Refuses guessed guessed := ⟨[], by simp, by simp⟩

/-- What is refused over two stretches of time is refused over both. -/
theorem Refuses.trans {one two three : Guessed} (first : Refuses one two) (second : Refuses two three) :
    Refuses one three := by
  -- What was refused in the first stretch stands before what was refused in the second.
  obtain ⟨some_, same, refused⟩ := first
  obtain ⟨others, still, again⟩ := second
  refine ⟨some_ ++ others, by rw [still, same, List.append_assoc], fun verdict member => ?_⟩
  rcases List.mem_append.mp member with before | after
  · exact refused verdict before
  · exact again verdict after

/-- One more connection with a guess on its hands, or not. -/
def GuessCall.hand (call : GuessCall) : Nat := if call.guessing then 1 else 0

/-- A statement passes one verdict, where it checks a code, or none. -/
theorem verdict_cases (call : GuessCall) {answer : GuessAnswer} :
    (∃ submitted left, call.hand = 0 ∧ (call.next cfg id guessed.board answer).1 =
        .check (verifyDeliveryCode cfg (guessed.board.withLeft id left) id submitted)) ∨
    ((call.next cfg id guessed.board answer).1.execute cfg id guessed).verdicts = guessed.verdicts := by
  cases call with
  | confirm asked left call =>
    rcases @next_confirm cfg id guessed.board asked left answer call with runs | fails
    · rw [runs]
      cases call with
      -- The comparison is the one statement that passes a verdict.
      | checkCode => exact .inl ⟨asked.proof.submittedCode, left, rfl, rfl⟩
      | lockOrder method =>
        simp only [ConfirmCall.next]
        split <;> exact .inr rfl
      | _ => exact .inr rfl
    · rw [fails]
      exact .inr rfl
  | update asked left call =>
    rcases @next_update cfg id guessed.board asked left answer call with runs | fails
    · rw [runs]
      cases call with
      | lockOrder =>
        simp only [UpdateCall.next]
        split <;> exact .inr rfl
      | _ => exact .inr rfl
    · rw [fails]
      exact .inr rfl
  | leftOpen status =>
    rcases @next_leftOpen cfg id guessed.board answer status with same | ⟨entry, same⟩ | same | same <;>
      (rw [same]; exact .inr rfl)
  | done | stopped => exact .inr rfl

/-- A used code is refused from then on, whatever is submitted. -/
theorem refuses_execute {call : GuessCall} {answer : GuessAnswer}
    (used : call.hand = 0 → () ∈ (call.next cfg id guessed.board answer).1.needs →
      guessed.board.codeLive id = true ∧ deliveryCodeMaxAttempts ≤ guessed.board.codeAttempts id) :
    Refuses guessed ((call.next cfg id guessed.board answer).1.execute cfg id guessed) := by
  -- A statement that compares finds five attempts on the row, and refuses before it looks at the code.
  rcases @verdict_cases cfg id guessed call answer with ⟨submitted, left, empty, checks⟩ | same
  · obtain ⟨live, full⟩ := used empty (by rw [checks]; exact List.mem_singleton_self _)
    unfold Board.codeLive at live
    unfold Board.codeAttempts at full
    rw [← @codeState_withLeft id guessed.board left] at live full
    rw [checks, tooManyAttempts_of_used live full]
    exact ⟨[_], rfl, fun verdict member => List.mem_singleton.mp member⟩
  · exact ⟨[], by rw [same, List.append_nil], by simp⟩

/-- A statement keeps no fewer guesses than were kept. -/
theorem kept_execute (statement : GuessStatement) :
    guessed.kept ≤ (statement.execute cfg id guessed).kept := by
  -- Only a COMMIT of a guess keeps one more.
  cases statement with
  | commitGuess => exact Nat.le_succ _
  | _ => exact le_rfl

/-- What happens between two moments: the code stays, and once it is used up nothing is compared. -/
structure FewGuesses (id : Nat) (earlier later : Guessed) : Prop where
  code : CodeStays id earlier.board later.board
  kept : earlier.kept ≤ later.kept
  closed : deliveryCodeMaxAttempts ≤ earlier.kept → Refuses earlier later

/-- Nothing happens over no time. -/
theorem FewGuesses.refl (id : Nat) (guessed : Guessed) : FewGuesses id guessed guessed :=
  ⟨CodeStays.refl id _, le_rfl, fun _ => Refuses.refl guessed⟩

/-- What holds over two stretches of time holds over both. -/
theorem FewGuesses.trans {one two three : Guessed} (first : FewGuesses id one two)
    (second : FewGuesses id two three) : FewGuesses id one three :=
  -- What is full after the first stretch is full through the second.
  ⟨first.code.trans second.code, first.kept.trans second.kept,
    fun full => (first.closed full).trans (second.closed (full.trans first.kept))⟩

/-- A tally with all five guesses on it is of a live code that is used up. -/
theorem Tally.used (tally : Tally id guessed) (full : deliveryCodeMaxAttempts ≤ guessed.kept) :
    guessed.board.codeLive id = true ∧ deliveryCodeMaxAttempts ≤ guessed.board.codeAttempts id := by
  -- Were the code dead, its tally would be empty.
  refine ⟨?_, full.trans tally.counted⟩
  by_contra dead
  have none_kept := tally.uncoded (Bool.not_eq_true _ ▸ dead)
  rw [none_kept] at full
  exact absurd full (by decide)

/-- Every event of an interleaving is such a stretch of time. -/
theorem fewGuesses_step {pool : Pool Guessed GuessCall}
    (event : PoolEvent GuessEntry GuessAnswer Elsewhere) (inv : Guarded cfg id pool.shared pool.calls) :
    FewGuesses id pool.shared ((guessing cfg id).step pool event).shared := by
  cases event with
  | call entry => exact FewGuesses.refl id _
  | stop index => exact FewGuesses.refl id _
  | outside event =>
    simp only [CallSystem.step]
    split
    · -- What happens elsewhere leaves the code alone.
      have same := @codeState_happens id pool.shared event
      refine ⟨fun code found _ => ⟨code, same.trans found, rfl, le_rfl⟩, ?_, fun _ => ?_⟩
      · cases event <;> exact le_rfl
      · cases event <;> exact Refuses.refl _
    · exact FewGuesses.refl id _
  | run index answer =>
    rcases @CallSystem.step_run_cases _ _ _ _ _ _ _ (guessing cfg id) _ pool index answer with
      same | ⟨call, others, taken, shared, -⟩
    · rw [same]
      exact FewGuesses.refl id _
    · rw [shared]
      -- A statement of one of the connections.
      have member : call ∈ pool.calls := taken.all.mem_iff.mpr List.mem_cons_self
      have sound := @GuessCall.Sound.statement cfg id pool.shared.board answer call (inv.sound call member)
      refine ⟨codeStays_execute sound, kept_execute _, fun full => ?_⟩
      exact refuses_execute fun _ _ => inv.tally.used full

/-- A request begins with no guess made. -/
theorem hand_begin (left : Option OrderStatus) (entry : GuessEntry) : (entry.begin_ left).hand = 0 := by
  -- It begins before the first statement, so no guess is on its hands.
  unfold GuessEntry.begin_
  cases entry with
  | confirmDelivery asked =>
    simp only
    repeat' split
    all_goals rfl
  | updateOrderStatus asked =>
    simp only
    split
    · rfl
    · split <;> rfl

/-- A wrong guess is on somebody's hands from its comparison to its COMMIT, and kept from then on. -/
theorem guess_balance {call : GuessCall} {answer : GuessAnswer}
    (lands : answer = .fails → call.guessing = true → call.commits = true) :
    ((call.next cfg id guessed.board answer).1.execute cfg id guessed).wrong + guessed.kept + call.hand =
      guessed.wrong + ((call.next cfg id guessed.board answer).1.execute cfg id guessed).kept +
        (call.next cfg id guessed.board answer).2.hand := by
  cases call with
  | confirm asked left call =>
    by_cases fails : answer = .fails ∧ (GuessCall.confirm asked left call).commits = false
    · -- Nothing was on hand that a rollback could lose.
      obtain ⟨rfl, early⟩ := fails
      have empty : (GuessCall.confirm asked left call).guessing = false := by
        by_contra guessing
        have commits := lands rfl (Bool.not_eq_false _ ▸ guessing)
        rw [early] at commits
        cases commits
      have ends : (GuessCall.confirm asked left call).next cfg id guessed.board .fails =
          (.unseen, .done (.error .database)) := by
        simp only [GuessCall.next, early]
        rfl
      rw [ends, GuessCall.hand, empty]
      rfl
    · -- Otherwise the statement runs, for a COMMIT that is not answered has committed all the same.
      have runs : (GuessCall.confirm asked left call).next cfg id guessed.board answer =
          call.next cfg id guessed.board asked left := by
        cases answer with
        | fails =>
          have commits : (GuessCall.confirm asked left call).commits = true := by
            by_contra early
            exact fails ⟨rfl, Bool.not_eq_true _ ▸ early⟩
          simp only [GuessCall.next, commits, if_true]
        | works | handed | ended => rfl
      rw [runs]
      cases call with
      | checkCode =>
        simp only [ConfirmCall.next]
        cases verifyDeliveryCode cfg (guessed.board.withLeft id left) id asked.proof.submittedCode with
        | ok passed =>
          simp [GuessStatement.execute, Guessed.wrong, GuessCall.hand, GuessCall.guessing, isWrong]
        | error failure =>
          -- Only a wrong code is put on somebody's hands.
          cases failure with
          | wrongCode attemptsLeft =>
            simp [GuessStatement.execute, Guessed.wrong, GuessCall.hand, GuessCall.guessing, isWrong]
            omega
          | _ => simp [GuessStatement.execute, Guessed.wrong, GuessCall.hand, GuessCall.guessing, isWrong]
      | countGuess failure => rfl
      | commitGuess failure =>
        simp [ConfirmCall.next, GuessStatement.execute, Guessed.wrong, GuessCall.hand, GuessCall.guessing]
        omega
      | lockOrder method =>
        simp only [ConfirmCall.next]
        split <;> rfl
      | _ => rfl
  | update asked left call =>
    -- A status update compares no code.
    rcases @next_update cfg id guessed.board asked left answer call with runs | fails
    · rw [runs]
      cases call with
      | lockOrder =>
        simp only [UpdateCall.next]
        split <;> rfl
      | updateStatus order status =>
        simp only [UpdateCall.next]
        split <;> rfl
      | chargeWait order status =>
        simp only [UpdateCall.next]
        split <;> rfl
      | readCode order status waited =>
        simp only [UpdateCall.next]
        split <;> rfl
      | _ => rfl
    · rw [fails]
      rfl
  | leftOpen status =>
    rcases @next_leftOpen cfg id guessed.board answer status with same | ⟨entry, same⟩ | same | same
    · rw [same]
      rfl
    · rw [same, hand_begin]
      rfl
    · rw [same]
      rfl
    · rw [same]
      rfl
  | done | stopped => rfl

/-- Where every guess lands, those compared are the ones kept and the ones still on somebody's hands. -/
structure Landed (cfg : DispatchConfig) (id : Nat) (guessed : Guessed) (calls : List GuessCall) : Prop where
  guarded : Guarded cfg id guessed calls
  balance : guessed.wrong = guessed.kept + calls.countP GuessCall.guessing

/-- One connection more adds what is on its hands. -/
theorem countP_guessing (call : GuessCall) (others : List GuessCall) :
    (call :: others).countP GuessCall.guessing = others.countP GuessCall.guessing + call.hand :=
  List.countP_cons

/-- As long as guesses land, this is kept. -/
theorem landed_keeps (cfg : DispatchConfig) (id : Nat) :
    (guessing cfg id).Keeps (fun guessed calls => Landed cfg id guessed calls) Lands where
  perm same inv := ⟨(guarded_keeps cfg id).perm same inv.guarded, by rw [inv.balance, same.countP_eq]⟩
  moves := by
    intro pool index answer call others taken inv lands
    refine ⟨(guarded_keeps cfg id).moves taken inv.guarded trivial, ?_⟩
    -- The call that moves keeps the balance on its own, and the others are as they were.
    have moved := @guess_balance cfg id pool.shared call answer fun fails guessing => by
      subst fails
      exact lands call taken.found guessing
    have balance := inv.balance
    rw [countP_guessing] at balance ⊢
    show ((call.next cfg id pool.shared.board answer).1.execute cfg id pool.shared).wrong =
      ((call.next cfg id pool.shared.board answer).1.execute cfg id pool.shared).kept +
        (others.countP GuessCall.guessing + (call.next cfg id pool.shared.board answer).2.hand)
    omega
  arrives := by
    intro pool entry inv _
    refine ⟨(guarded_keeps cfg id).arrives inv.guarded trivial, ?_⟩
    have starts : ((guessing cfg id).start entry).hand = 0 := hand_begin none entry
    rw [countP_guessing, starts]
    exact inv.balance
  stops := by
    intro pool index call others found inv lands
    refine ⟨(guarded_keeps cfg id).stops found inv.guarded trivial, ?_⟩
    -- A connection is cut off only while it has no guess on its hands.
    have empty : call.hand = 0 := by
      have lost := lands call found
      simp [GuessCall.hand, lost]
    have balance := inv.balance
    rw [countP_guessing, empty] at balance
    exact balance
  happens := by
    intro pool event inv _ free
    refine ⟨(guarded_keeps cfg id).happens inv.guarded trivial free, ?_⟩
    cases event <;> exact inv.balance

/-- A guess is only ever on the hands of a connection that has the order locked. -/
theorem locked_of_guessing {call : GuessCall} (guessing : call.guessing = true) : () ∈ call.holds := by
  -- Between the guess and its COMMIT the row stays locked.
  cases call with
  | confirm asked left call =>
    cases call with
    | countGuess | commitGuess => cases left <;> exact List.mem_singleton_self _
    | _ => cases guessing
  | _ => cases guessing

/-- Next to a connection that has the order locked, no other has a guess on its hands. -/
theorem none_guessing {others : List GuessCall} (apart : ∀ other ∈ others, () ∉ other.holds) :
    others.countP GuessCall.guessing = 0 :=
  List.countP_eq_zero.mpr fun other member guessing => apart other member (locked_of_guessing guessing)

/-- At most one connection has a guess on its hands. -/
theorem one_guessing {calls : List GuessCall} (exclusive : (guessing cfg id).Exclusive calls) :
    calls.countP GuessCall.guessing ≤ 1 := by
  induction calls with
  | nil => exact Nat.zero_le _
  | cons call others ih =>
    obtain ⟨apart, rest⟩ := List.pairwise_cons.mp exclusive
    rw [countP_guessing]
    by_cases guessing : call.guessing = true
    · -- Whoever has a guess on their hands has the row locked, and nobody else has.
      have none_else := none_guessing fun other member held =>
        apart other member () (locked_of_guessing guessing) held
      rw [none_else]
      simp [GuessCall.hand, guessing]
    · have empty : call.hand = 0 := by simp [GuessCall.hand, guessing]
      rw [empty]
      exact ih rest

/-- No more wrong codes are compared than a code allows. -/
theorem wrong_le {calls : List GuessCall} (inv : Landed cfg id guessed calls) :
    guessed.wrong ≤ deliveryCodeMaxAttempts := by
  have balance := inv.balance
  have tally := inv.guarded.tally
  by_cases none_now : calls.countP GuessCall.guessing = 0
  · -- All of them are on record.
    rw [balance, none_now, Nat.add_zero]
    by_cases some_kept : 0 < guessed.kept
    · exact tally.counted.trans (tally.bounded some_kept)
    · rw [Nat.eq_zero_of_not_pos some_kept]
      exact Nat.zero_le _
  · -- The one that is not was compared while there was room for it.
    obtain ⟨call, member, guessing⟩ := List.countP_pos_iff.mp (Nat.pos_of_ne_zero none_now)
    have one := one_guessing inv.guarded.exclusive
    have room : guessed.board.codeAttempts id < deliveryCodeMaxAttempts := by
      have sound := inv.guarded.sound call member
      unfold GuessCall.guessing at guessing
      split at guessing
      · exact sound.2
      · exact sound.2
      · cases guessing
    -- So with that one there are at most as many as the code allows.
    have counted := tally.counted
    omega

/-- Once all five have been compared, nothing is compared any more. -/
theorem refuses_step {pool : Pool Guessed GuessCall} (event : PoolEvent GuessEntry GuessAnswer Elsewhere)
    (inv : Landed cfg id pool.shared pool.calls) (full : deliveryCodeMaxAttempts ≤ pool.shared.wrong) :
    Refuses pool.shared ((guessing cfg id).step pool event).shared := by
  cases event with
  | call entry => exact Refuses.refl _
  | stop index => exact Refuses.refl _
  | outside event =>
    simp only [CallSystem.step]
    split
    · cases event <;> exact Refuses.refl _
    · exact Refuses.refl _
  | run index answer =>
    rcases @CallSystem.step_run_cases _ _ _ _ _ _ _ (guessing cfg id) _ pool index answer with
      same | ⟨call, others, taken, shared, -⟩
    · rw [same]
      exact Refuses.refl _
    · rw [shared]
      refine refuses_execute fun empty waits => inv.guarded.tally.used ?_
      -- Whoever asks about a code waits for the order, so no guess is on anybody's hands.
      have none_else := none_guessing fun other member => taken.free other member () waits
      have balance := inv.balance
      rw [taken.all.countP_eq, countP_guessing, none_else, empty] at balance
      omega

/-- The order before anything is submitted for it. -/
def unguessed (board : Board) : Pool Guessed GuessCall := ⟨⟨board, [], 0⟩, []⟩

/-- Where an interleaving leads to. -/
def guessedAfter (cfg : DispatchConfig) (id : Nat) (board : Board)
    (events : List (PoolEvent GuessEntry GuessAnswer Elsewhere)) : Pool Guessed GuessCall :=
  run (guessing cfg id).step (unguessed board) events

/-- Nothing has been guessed to begin with. -/
theorem landed_unguessed (cfg : DispatchConfig) (id : Nat) (board : Board) :
    Landed cfg id (unguessed board).shared (unguessed board).calls where
  -- No call is in flight, and no guess is counted anywhere.
  guarded := {
    tally := ⟨fun _ => rfl, Nat.zero_le _, fun some_kept => absurd some_kept (lt_irrefl 0)⟩
    exclusive := List.Pairwise.nil
    sound := fun call member => by cases member }
  balance := rfl

/-- Whatever happens, the tally, the lock and what each connection relies on are kept. -/
theorem guarded_after (cfg : DispatchConfig) (id : Nat) (board : Board)
    (events : List (PoolEvent GuessEntry GuessAnswer Elsewhere)) :
    Guarded cfg id (guessedAfter cfg id board events).shared (guessedAfter cfg id board events).calls :=
  -- No event is excluded.
  (along_of_forall (fun _ _ => trivial) _ events).invariant
    (fun pool event inv admitted => (guarded_keeps cfg id).step pool event inv admitted)
    (landed_unguessed cfg id board).guarded

/-- So the code stays, and once five guesses are kept nothing is compared. -/
theorem fewGuesses_after (cfg : DispatchConfig) (id : Nat) (board : Board)
    (before after : List (PoolEvent GuessEntry GuessAnswer Elsewhere)) :
    FewGuesses id (guessedAfter cfg id board before).shared
      (guessedAfter cfg id board (before ++ after)).shared := by
  -- What comes after is a run of its own, from where the first one ended.
  have later : guessedAfter cfg id board (before ++ after) =
      run (guessing cfg id).step (guessedAfter cfg id board before) after := run_append ..
  rw [later]
  exact @Along.related_under _ _ (guessing cfg id).step (fun _ _ => True)
    (fun pool => Guarded cfg id pool.shared pool.calls)
    (fun one other => FewGuesses id one.shared other.shared) (fun pool => FewGuesses.refl id pool.shared)
    (fun first second => first.trans second)
    (fun pool event inv admitted => (guarded_keeps cfg id).step pool event inv admitted)
    (fun pool event inv _ => fewGuesses_step event inv) _ after (guarded_after cfg id board before)
    (along_of_forall (fun _ _ => trivial) _ after)

/-- What is refused adds to what has been compared nothing that was wrong, and takes nothing away. -/
theorem Refuses.wrong_le {earlier later : Guessed} (refuses : Refuses earlier later) :
    earlier.wrong ≤ later.wrong := by
  -- The verdicts there were are all still there.
  obtain ⟨more, same, -⟩ := refuses
  unfold Guessed.wrong
  rw [same, List.countP_append]
  exact Nat.le_add_right _ _

/-- Where guesses land, nothing is compared once five wrong codes have been. -/
theorem refuses_after (cfg : DispatchConfig) (id : Nat) (board : Board)
    {before after : List (PoolEvent GuessEntry GuessAnswer Elsewhere)}
    (lands : Along (guessing cfg id).step Lands (unguessed board) (before ++ after))
    (full : deliveryCodeMaxAttempts ≤ (guessedAfter cfg id board before).shared.wrong) :
    Refuses (guessedAfter cfg id board before).shared
      (guessedAfter cfg id board (before ++ after)).shared := by
  have later : guessedAfter cfg id board (before ++ after) =
      run (guessing cfg id).step (guessedAfter cfg id board before) after := run_append ..
  -- Guesses land in both halves of the run.
  obtain ⟨first, second⟩ := along_append.mp lands
  rw [later]
  refine @Along.related_under _ _ (guessing cfg id).step Lands
    (fun pool => Landed cfg id pool.shared pool.calls)
    (fun one other => deliveryCodeMaxAttempts ≤ one.shared.wrong → Refuses one.shared other.shared)
    (fun pool _ => Refuses.refl pool.shared) ?_ (fun pool event => (landed_keeps cfg id).step pool event)
    (fun pool event inv _ full => refuses_step event inv full) _ after
    (first.invariant (fun pool event => (landed_keeps cfg id).step pool event)
      (landed_unguessed cfg id board)) second full
  -- Wrong codes only add up, so there are still enough of them in between.
  intro one two three refused again enough
  exact (refused enough).trans (again (enough.trans (refused enough).wrong_le))

/--
However confirmations and status updates of an order interleave, its code is guessed at five times at most.

A live code is never replaced and its attempts never decrease. At most five wrong guesses are kept, and
after the fifth every code is refused without being compared. Where no connection is lost and no UPDATE
fails between a comparison and its COMMIT, that is true of the wrong codes that were ever compared.
-/
theorem guesses_bounded (cfg : DispatchConfig) (id : Nat) (board : Board)
    (before after : List (PoolEvent GuessEntry GuessAnswer Elsewhere)) :
    (CodeStays id (guessedAfter cfg id board before).shared.board
        (guessedAfter cfg id board (before ++ after)).shared.board ∧
      (guessedAfter cfg id board before).shared.kept ≤ deliveryCodeMaxAttempts ∧
      ((guessedAfter cfg id board before).shared.kept = deliveryCodeMaxAttempts →
        Refuses (guessedAfter cfg id board before).shared
          (guessedAfter cfg id board (before ++ after)).shared)) ∧
    (Along (guessing cfg id).step Lands (unguessed board) (before ++ after) →
      (guessedAfter cfg id board before).shared.wrong ≤ deliveryCodeMaxAttempts ∧
      ((guessedAfter cfg id board before).shared.wrong = deliveryCodeMaxAttempts →
        Refuses (guessedAfter cfg id board before).shared
          (guessedAfter cfg id board (before ++ after)).shared)) := by
  constructor
  · have few := fewGuesses_after cfg id board before after
    have tally := (guarded_after cfg id board before).tally
    refine ⟨few.code, ?_, fun full => few.closed full.ge⟩
    -- Attempts are bounded once a guess is kept; before that there is nothing to bound.
    by_cases some_kept : 0 < (guessedAfter cfg id board before).shared.kept
    · exact tally.counted.trans (tally.bounded some_kept)
    · rw [Nat.eq_zero_of_not_pos some_kept]
      exact Nat.zero_le _
  · intro lands
    have inv := (along_append.mp lands).1.invariant
      (fun pool event => (landed_keeps cfg id).step pool event) (landed_unguessed cfg id board)
    exact ⟨wrong_le inv, fun full => refuses_after cfg id board lands full.ge⟩

/-- An order that has arrived, with a code issued for it. -/
def awaitingCode : Board where
  orders := ⟨[{
    id := 1, status := .arrived, assignedTo := some "+250788000001"
    deliveryCodeHash := some (DispatchConfig.kigali.hashCode "1234") }], List.nodup_singleton _⟩

/-- A guess at it. -/
def wrongGuess : Confirmation where
  requester := { username := "+250788000001", role := .driver }
  proof := { photo := none, deliveryCode := "0000", notes := none }

/-- Two requests guess at once: the second waits for the COMMIT that counts the first. -/
def twoGuesses : List (PoolEvent GuessEntry GuessAnswer Elsewhere) :=
  [.call (.confirmDelivery wrongGuess), .call (.confirmDelivery wrongGuess), .run 0 .works, .run 1 .works,
    .run 0 .works, .run 0 .works, .run 1 .works, .run 1 .works, .run 1 .works]

/-- Both guesses are compared, both are kept, and neither replaces the code. -/
theorem guesses_bounded_twice :
    (guessedAfter .kigali 1 awaitingCode twoGuesses).shared.wrong = 2 ∧
      (guessedAfter .kigali 1 awaitingCode twoGuesses).shared.wrong ≤ deliveryCodeMaxAttempts :=
  ⟨by decide, ((guesses_bounded .kigali 1 awaitingCode twoGuesses []).2
    ⟨trivial, trivial, trivial, trivial, trivial, trivial, trivial, trivial, trivial, trivial⟩).1⟩

end Freight.Dispatch
